import Keypad.Panel.Basic

/-! Waiting for a press. A waiter first collects; finding nothing it listens to the signal, and
when that was raised it collects again. Each of these is one step, so that interrupts can come
between any two; a poll takes steps until there is a press or the waiter has to sleep. -/
namespace Keypad

inductive WaitPoint where
  | collecting
  | listening
  deriving DecidableEq, Repr, Inhabited

inductive WaitStep where
  | delivered (event : ButtonEvent)
  | next (point : WaitPoint)
  | asleep
  deriving DecidableEq, Repr, Inhabited

namespace Panel

def listen (p : Panel) : Bool × Panel :=
  if p.signal = .raised then (true, { p with signal := .idle })
  else (false, { p with signal := .waiting })

def waitStep (p : Panel) : WaitPoint → WaitStep × Panel
  | .collecting =>
    match p.take with
    | (some event, p) => (.delivered event, p)
    | (none, p) => (.next .listening, p)
  | .listening =>
    match p.listen with
    | (true, p) => (.next .collecting, p)
    | (false, p) => (.asleep, p)

/-- A bound on the steps of a poll: two for a raised signal, one for the next look. -/
def waitBound (p : Panel) (point : WaitPoint) : Nat :=
  (if p.signal = .raised then 2 else 0) + (if point = .collecting then 1 else 0)

theorem waitBound_waitStep (p : Panel) (point next : WaitPoint)
    (goes_on : (p.waitStep point).1 = .next next) :
    (p.waitStep point).2.waitBound next < p.waitBound point := by
  cases point with
  | collecting =>
    cases taken : takeFirst p.buttons with
    | mk event buttons =>
      cases event with
      | some event => simp [waitStep, take, taken] at goes_on
      | none =>
        simp only [waitStep, take, taken, WaitStep.next.injEq] at goes_on ⊢
        subst goes_on
        simp [waitBound]
  | listening =>
    by_cases raised : p.signal = .raised
    · simp only [waitStep, listen, if_pos raised, WaitStep.next.injEq] at goes_on ⊢
      subst goes_on
      simp [waitBound, raised]
    · simp [waitStep, listen, raised] at goes_on

/-- Polls a waiter that goes on at `point`: a press, or none, and then the waiter sleeps and goes
on by listening. -/
def poll (p : Panel) (point : WaitPoint) : Option ButtonEvent × Panel :=
  match _step : p.waitStep point with
  | (.delivered event, p) => (some event, p)
  | (.asleep, p) => (none, p)
  | (.next next, p') => p'.poll next
termination_by p.waitBound point
decreasing_by
  have bound := waitBound_waitStep p point next (by rw [_step])
  rwa [_step] at bound

end Panel

end Keypad
