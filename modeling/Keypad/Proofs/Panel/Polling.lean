import Keypad.Proofs.Panel.Interleaving

namespace Keypad

def pendingEvents (bs : List Button) : List ButtonEvent :=
  (bs.filter (·.pending)).map Button.event

namespace Panel

theorem takeFirst_head (bs : List Button) : (takeFirst bs).1 = (pendingEvents bs).head? := by
  induction bs with
  | nil => rfl
  | cons b rest ih =>
    cases pending : b.pending with
    | true => simp [takeFirst, pendingEvents, pending]
    | false =>
      simp only [pendingEvents] at ih
      simp [takeFirst, pendingEvents, pending, ih]

theorem takeFirst_tail (bs : List Button) :
    pendingEvents (takeFirst bs).2 = (pendingEvents bs).tail := by
  induction bs with
  | nil => rfl
  | cons b rest ih =>
    cases pending : b.pending with
    | true => simp [takeFirst, pendingEvents, pending, Button.collected]
    | false =>
      simp only [pendingEvents] at ih
      simp [takeFirst, pendingEvents, pending, ih]

inductive Waited (p : Panel) : WaitPoint → WaitStep → Panel → Prop where
  | delivered (event : ButtonEvent) (buttons : List Button) :
      takeFirst p.buttons = (some event, buttons) →
      Waited p .collecting (.delivered event) { p with buttons }
  | nothing : NonePending p.buttons → Waited p .collecting (.next .listening) p
  | noticed :
      p.signal = .raised → Waited p .listening (.next .collecting) { p with signal := .idle }
  | slept : p.signal ≠ .raised → Waited p .listening .asleep { p with signal := .waiting }

theorem waitStep_waited (p : Panel) (point : WaitPoint) :
    p.Waited point (p.waitStep point).1 (p.waitStep point).2 := by
  cases point with
  | collecting =>
    cases taken : takeFirst p.buttons with
    | mk event buttons =>
      cases event with
      | some event =>
        simp only [waitStep, take, taken]
        exact .delivered event buttons taken
      | none =>
        have none_pending := (takeFirst_none_iff p.buttons).1 (congrArg Prod.fst taken)
        simp only [waitStep, take, takeFirst_of_nonePending none_pending]
        exact .nothing none_pending
  | listening =>
    by_cases raised : p.signal = .raised
    · simp only [waitStep, listen, if_pos raised]
      exact .noticed raised
    · simp only [waitStep, listen, if_neg raised]
      exact .slept raised

section Poll

variable {p after : Panel} {point : WaitPoint}

theorem poll_of_delivered {event : ButtonEvent}
    (delivered : p.waitStep point = (.delivered event, after)) :
    p.poll point = (some event, after) := by
  unfold poll
  split <;> simp_all

theorem poll_of_asleep (asleep : p.waitStep point = (.asleep, after)) :
    p.poll point = (none, after) := by
  unfold poll
  split <;> simp_all

theorem poll_of_next {next : WaitPoint} (goes_on : p.waitStep point = (.next next, after)) :
    p.poll point = after.poll next := by
  rw [poll]
  split <;> simp_all

end Poll

/-- Where nobody has raised the signal, one who waits for it or is about to misses nothing. -/
def Heard (p : Panel) (point : WaitPoint) : Prop :=
  p.signal ≠ .raised → p.signal = .waiting ∨ point = .listening → NonePending p.buttons

/-- Where a waiter goes on after a step. One that got its press is gone, and the next one begins by
collecting. -/
def WaitStep.point : WaitStep → WaitPoint
  | .delivered _ => .collecting
  | .next point => point
  | .asleep => .listening

theorem Heard.waited {p after : Panel} {point : WaitPoint} {step : WaitStep}
    (heard : p.Heard point) (waited : p.Waited point step after) :
    after.Heard (WaitStep.point step) := by
  cases waited with
  | delivered event buttons taken =>
    intro unraised sleeping
    have none_pending := heard unraised (sleeping.imp_right (by simp [WaitStep.point]))
    rw [takeFirst_of_nonePending none_pending] at taken
    simp at taken
  | nothing none_pending => exact fun _ _ => none_pending
  | noticed raised => exact fun _ sleeping => by simp [WaitStep.point] at sleeping
  | slept unraised => exact fun _ _ => heard unraised (.inr rfl)

/-- A call that makes a press pending raises the signal, so that nothing is missed. -/
theorem Heard.call {p after : Panel} {point : WaitPoint} {published : Bool}
    (heard : p.Heard point) (call : p.Call published after) : after.Heard point := by
  intro unraised sleeping
  cases call with
  | quiet _ signal wakes kept =>
    rw [signal] at unraised sleeping
    exact kept (heard unraised sleeping)
  | signalled _ signal wakes pending => exact absurd signal unraised

/-- A poll that nothing interrupts comes to what a collection comes to. -/
theorem Heard.poll {p : Panel} {point : WaitPoint} (heard : p.Heard point) :
    (p.poll point).1 = p.take.1 ∧ (p.poll point).2.buttons = p.take.2.buttons := by
  fun_induction Panel.poll p point with
  | case1 p point event after delivered =>
    have waited := p.waitStep_waited point
    rw [delivered] at waited
    cases waited with
    | delivered event buttons taken => simp [take, taken]
  | case2 p point after asleep =>
    have waited := p.waitStep_waited point
    rw [asleep] at waited
    cases waited with
    | slept unraised =>
      have none_pending := heard unraised (.inr rfl)
      simp [take, takeFirst_of_nonePending none_pending]
  | case3 p point next after goes_on ih =>
    have waited := p.waitStep_waited point
    rw [goes_on] at waited
    have collected := ih (heard.waited waited)
    cases waited with
    | nothing none_pending => exact collected
    | noticed raised => exact collected

theorem Heard.after_poll {p : Panel} {point : WaitPoint} (heard : p.Heard point) :
    (p.poll point).2.Heard (if (p.poll point).1.isSome then .collecting else .listening) := by
  fun_induction Panel.poll p point with
  | case1 p point event after delivered =>
    have waited := p.waitStep_waited point
    rw [delivered] at waited
    exact heard.waited waited
  | case2 p point after asleep =>
    have waited := p.waitStep_waited point
    rw [asleep] at waited
    exact heard.waited waited
  | case3 p point next after goes_on ih =>
    have waited := p.waitStep_waited point
    rw [goes_on] at waited
    exact ih (heard.waited waited)

theorem poll_none {p : Panel} (none_pending : NonePending p.buttons) (point : WaitPoint) :
    (p.poll point).1 = none := by
  have heard : p.Heard point := fun _ _ => none_pending
  rw [heard.poll.1]
  exact (takeFirst_none_iff p.buttons).2 none_pending

theorem poll_waiting {p : Panel} {point : WaitPoint} (asleep : (p.poll point).1 = none) :
    (p.poll point).2.signal = .waiting := by
  fun_induction Panel.poll p point with
  | case1 p point event after delivered => simp at asleep
  | case2 p point after slept =>
    have waited := p.waitStep_waited point
    rw [slept] at waited
    cases waited with
    | slept unraised => rfl
  | case3 p point next after goes_on ih => exact ih asleep

theorem poll_collecting (p : Panel) : (p.poll .collecting).1 = p.take.1 := by
  cases taken : takeFirst p.buttons with
  | mk event buttons =>
    cases event with
    | some event =>
      have delivered : p.waitStep .collecting = (.delivered event, { p with buttons }) := by
        simp only [waitStep, take, taken]
      rw [poll_of_delivered delivered]
      simp only [take, taken]
    | none =>
      have none_pending := (takeFirst_none_iff p.buttons).1 (congrArg Prod.fst taken)
      rw [poll_none none_pending]
      exact (congrArg Prod.fst taken).symm

end Panel

end Keypad
