import Keypad.Proofs.Panel.TimerLedger

/-! Timers under other numbers. The timers of all buttons come out of one queue, so that what the
other buttons do decides the numbers of a button's timers. A button does the same whatever they are:
its steps agree with those of the button whose timers are renamed (`Button.Matches`). -/
namespace Keypad

def Timer.renamed (rename : Nat → Nat) (t : Timer) : Timer := { t with id := rename t.id }

def Button.renamed (rename : Nat → Nat) (b : Button) : Button :=
  { b with timer := b.timer.map rename }

namespace TimerQueue

def liveAt (q : TimerQueue) (key : Nat) : List Timer := q.live.filter (·.key == key)

section Place

variable {q : TimerQueue} {key place : Nat}

theorem liveFor?_eq (q : TimerQueue) (key : Nat) : q.liveFor? key = (q.liveAt key).head? := by
  rw [liveFor?, liveAt, List.head?_filter]

theorem mem_liveAt {t : Timer} : t ∈ q.liveAt key ↔ t ∈ q.live ∧ t.key = key := by
  simp [liveAt]

theorem liveAt_cancel (q : TimerQueue) (id key : Nat) :
    (q.cancel id).liveAt key = (q.liveAt key).filter (·.id != id) := by
  simp only [liveAt, live_cancel, List.filter_filter, Bool.and_comm]

theorem liveAt_cancel_of_absent {id : Nat} (absent : ∀ t ∈ q.liveAt key, t.id ≠ id) :
    (q.cancel id).liveAt key = q.liveAt key := by
  rw [liveAt_cancel, List.filter_eq_self]
  intro t live
  simpa using absent t live

theorem liveAt_start_beside (q : TimerQueue) (apart : place ≠ key) (periodMs : Nat)
    (mode : TimerMode) : (q.start place periodMs mode).2.liveAt key = q.liveAt key := by
  unfold start
  split
  · rfl
  · simp [liveAt, apart]

theorem liveAt_start (available : q.exhausted = false) (key periodMs : Nat) (mode : TimerMode) :
    (q.start key periodMs mode).2.liveAt key =
      q.liveAt key ++ [⟨q.started + 1, key, periodMs, mode⟩] := by
  simp [start, available, liveAt]

theorem exhausted_start (q : TimerQueue) (key periodMs : Nat) (mode : TimerMode) :
    (q.start key periodMs mode).2.exhausted = q.exhausted := by
  unfold start
  split <;> rfl

theorem started_start (available : q.exhausted = false) (key periodMs : Nat) (mode : TimerMode) :
    (q.start key periodMs mode).2.started = q.started + 1 := by
  simp [start, available]

end Place

/-- One queue is like another at a place, with its timers renamed. -/
structure Alike (key : Nat) (rename : Nat → Nat) (q q' : TimerQueue) : Prop where
  live_eq : q'.liveAt key = (q.liveAt key).map (Timer.renamed rename)
  exhausted_eq : q'.exhausted = q.exhausted

namespace Alike

variable {key : Nat} {rename : Nat → Nat} {q q' : TimerQueue}

theorem cancel (alike : q.Alike key rename q') (injective : Function.Injective rename) (id : Nat) :
    (q.cancel id).Alike key rename (q'.cancel (rename id)) where
  live_eq := by
    have same : ∀ t : Timer, ((t.renamed rename).id != rename id) = (t.id != id) := by
      intro t
      simp [Timer.renamed, bne, injective.eq_iff]
    rw [liveAt_cancel, liveAt_cancel, alike.live_eq, List.filter_map]
    exact congrArg (List.map _) (List.filter_congr fun t _ => same t)
  exhausted_eq := alike.exhausted_eq

theorem release (alike : q.Alike key rename q') (injective : Function.Injective rename)
    (held : Option Nat) : (q.release held).Alike key rename (q'.release (held.map rename)) := by
  cases held with
  | none => exact alike
  | some id => exact alike.cancel injective id

theorem start (alike : q.Alike key rename q') (available : q.exhausted = false)
    (fresh : rename (q.started + 1) = q'.started + 1) (periodMs : Nat) (mode : TimerMode) :
    (q.start key periodMs mode).2.Alike key rename (q'.start key periodMs mode).2 where
  live_eq := by
    have available' := alike.exhausted_eq.trans available
    rw [liveAt_start available, liveAt_start available', alike.live_eq, List.map_append, ← fresh]
    rfl
  exhausted_eq := by rw [exhausted_start, exhausted_start, alike.exhausted_eq]

end Alike

end TimerQueue

namespace Button

/-- What a step makes of a button and its queue agrees with what the step makes of another button
and queue, but for the names of the timers. Of the timers started so far, as many were started in
the step here as there. -/
structure Matches (key : Nat) (rename : Nat → Nat) (started started' : Nat)
    (after after' : Button × TimerQueue) : Prop where
  button_eq : after'.1 = after.1.renamed rename
  timers : after.2.Alike key rename after'.2
  started_eq : after'.2.started + started = after.2.started + started'

section Steps

variable {b b' : Button} {key : Nat} {rename : Nat → Nat} {q q' : TimerQueue}

theorem Matches.same (alike : q.Alike key rename q') (b : Button) :
    Matches key rename q.started q'.started (b, q) (b.renamed rename, q') :=
  ⟨rfl, alike, Nat.add_comm ..⟩

theorem Matches.start (alike : q.Alike key rename q') (available : q.exhausted = false)
    (fresh : rename (q.started + 1) = q'.started + 1) (same : b' = b.renamed rename)
    (periodMs : Nat) (mode : TimerMode) :
    Matches key rename q.started q'.started (b, (q.start key periodMs mode).2)
      (b', (q'.start key periodMs mode).2) where
  button_eq := same
  timers := alike.start available fresh periodMs mode
  started_eq := by
    have available' := alike.exhausted_eq.trans available
    simp only [TimerQueue.started_start available, TimerQueue.started_start available']
    omega

theorem Matches.release (alike : q.Alike key rename q') (injective : Function.Injective rename)
    (same : b' = b.renamed rename) (held : Option Nat) :
    Matches key rename q.started q'.started (b, q.release held)
      (b', q'.release (held.map rename)) where
  button_eq := same
  timers := alike.release injective held
  started_eq := by
    cases held <;> exact Nat.add_comm ..

theorem matches_edge (injective : Function.Injective rename) (alike : q.Alike key rename q')
    (fresh : (b.edge key q).2.started ≠ q.started → rename (q.started + 1) = q'.started + 1) :
    Matches key rename q.started q'.started (b.edge key q) ((b.renamed rename).edge key q') := by
  have accepts : (b.renamed rename).accepts = b.accepts := rfl
  cases accepted : b.accepts with
  | false =>
    rw [edge_ignored accepted, edge_ignored (accepts.trans accepted)]
    exact .same alike b
  | true =>
    rw [accepted] at accepts
    cases exhausted : q.exhausted with
    | false =>
      have exhausted' := alike.exhausted_eq.trans exhausted
      rw [edge_started accepted key exhausted] at fresh ⊢
      rw [edge_started accepts key exhausted']
      have next := fresh (by simp [TimerQueue.started_start exhausted])
      refine .start alike exhausted next ?_ debounceMs .oneShot
      rw [← next]
      rfl
    | true =>
      have exhausted' := alike.exhausted_eq.trans exhausted
      rw [edge_refused accepted key exhausted, edge_refused accepts key exhausted']
      exact .release alike injective rfl b.timer

theorem timer_renamed (injective : Function.Injective rename) (b : Button) (id : Nat) :
    (b.renamed rename).timer = some (rename id) ↔ b.timer = some id := by
  show b.timer.map rename = some (rename id) ↔ b.timer = some id
  rw [← Option.map_some, (Option.map_injective injective).eq_iff]

theorem matches_expire (injective : Function.Injective rename) (alike : q.Alike key rename q')
    {id now thresholdMs : Nat}
    (fresh : (b.expire key id now thresholdMs q).2.2.started ≠ q.started →
      rename (q.started + 1) = q'.started + 1) :
    ((b.renamed rename).expire key (rename id) now thresholdMs q').1 =
        (b.expire key id now thresholdMs q).1 ∧
      Matches key rename q.started q'.started (b.expire key id now thresholdMs q).2
        ((b.renamed rename).expire key (rename id) now thresholdMs q').2 := by
  by_cases current : b.debouncing = true ∧ b.timer = some id
  · obtain ⟨debouncing, timer⟩ := current
    have debouncing' : (b.renamed rename).debouncing = true := debouncing
    have timer' := (timer_renamed injective b id).2 timer
    cases low : b.pin.isLow with
    | false =>
      rw [expire_released debouncing timer low, expire_released debouncing' timer' low]
      exact ⟨rfl, .release alike injective rfl (some id)⟩
    | true =>
      cases watched : b.watchedSince with
      | some since =>
        rw [expire_held debouncing timer watched low, expire_held debouncing' timer' watched low]
        cases long : isLong since now thresholdMs with
        | false => exact ⟨rfl, .same alike b⟩
        | true => exact ⟨rfl, .release alike injective rfl (some id)⟩
      | none =>
        cases exhausted : q.exhausted with
        | true =>
          have exhausted' := alike.exhausted_eq.trans exhausted
          rw [expire_unwatched debouncing timer watched low key now thresholdMs exhausted,
            expire_unwatched debouncing' timer' watched low key now thresholdMs exhausted']
          exact ⟨rfl, .release alike injective rfl (some id)⟩
        | false =>
          have exhausted' := alike.exhausted_eq.trans exhausted
          rw [expire_watched debouncing timer watched low key now thresholdMs exhausted] at fresh ⊢
          rw [expire_watched debouncing' timer' watched low key now thresholdMs exhausted']
          have left : (q.cancel id).exhausted = false := exhausted
          have next := fresh (by simp [TimerQueue.started_start left])
          refine ⟨rfl, .start (alike.cancel injective id) left next ?_ watchMs .periodic⟩
          rw [← next]
          rfl
  · have current' : ¬ ((b.renamed rename).debouncing = true ∧
        (b.renamed rename).timer = some (rename id)) := by
      rwa [timer_renamed injective]
    rw [expire_stale current, expire_stale current']
    exact ⟨rfl, .same alike b⟩

end Steps

end Button

end Keypad
