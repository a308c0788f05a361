/-! One alarm queue for all buttons. A timer that was started is live until it is cancelled or has
run out; its number is never given again. -/
namespace Keypad

inductive TimerMode where
  | oneShot
  | periodic
  deriving DecidableEq, Repr, Inhabited

structure Timer where
  id : Nat
  key : Nat
  periodMs : Nat
  mode : TimerMode
  deriving DecidableEq, Repr, Inhabited

/-- The timers started so far, by their count, and those still live, in the order they were
started. An exhausted queue starts none. -/
structure TimerQueue where
  started : Nat := 0
  live : List Timer := []
  exhausted : Bool := false
  deriving DecidableEq, Repr, Inhabited

namespace TimerQueue

def start (q : TimerQueue) (key periodMs : Nat) (mode : TimerMode) : Option Nat × TimerQueue :=
  if q.exhausted then (none, q)
  else
    (some (q.started + 1),
      { q with
        started := q.started + 1
        live := q.live ++ [⟨q.started + 1, key, periodMs, mode⟩] })

def cancel (q : TimerQueue) (id : Nat) : TimerQueue :=
  { q with live := q.live.filter (·.id != id) }

def release (q : TimerQueue) : Option Nat → TimerQueue
  | some id => q.cancel id
  | none => q

def liveFor? (q : TimerQueue) (key : Nat) : Option Timer := q.live.find? (·.key == key)

@[simp] theorem live_cancel (q : TimerQueue) (id : Nat) :
    (q.cancel id).live = q.live.filter (·.id != id) := rfl

@[simp] theorem started_cancel (q : TimerQueue) (id : Nat) : (q.cancel id).started = q.started :=
  rfl

end TimerQueue

end Keypad
