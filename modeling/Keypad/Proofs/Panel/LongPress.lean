import Keypad.Proofs.Panel.Surroundings
import Mathlib.Algebra.Order.Floor.Div

/-! How long a press was. Whenever a timer of a button's cycle runs out, the button's pin is looked
at. What is published, and when, is read off these looks alone (`verdict`): the cycle goes with them
phase by phase (`Phase`), and commands for other buttons do not get in between. -/
namespace Keypad

structure Look where
  time : Nat
  low : Bool
  deriving DecidableEq, Repr

/-- The look that decides a press. The first one does if the pin does not read low. After it that is
the first tick where the pin does not read low or the threshold has passed since the first look. -/
def verdict (thresholdMs : Nat) : List Look → Option Look
  | [] => none
  | first :: ticks =>
    if first.low then
      ticks.find? fun tick => !tick.low || 1000 * thresholdMs ≤ tick.time - first.time
    else some first

/-- Looks that come as the timers are set: the ticks every 100 ms after the first look. -/
def Regular (looks : List Look) : Prop :=
  ∃ start, ∀ i look, looks[i]? = some look → look.time = start + 1000 * (watchMs * i)

/-- The first of a list that satisfies `p`, where that is to satisfy `q` or to stand at `k` or
behind it. -/
theorem find?_or_at {α : Type} {p q : α → Bool} {xs : List α} {k : Nat}
    (either : ∀ i x, xs[i]? = some x → p x = (q x || decide (k ≤ i))) :
    xs.find? p = ((xs.take k).find? q).or xs[k]? := by
  induction xs generalizing k with
  | nil => simp
  | cons x rest ih =>
    have here := either 0 x rfl
    cases k with
    | zero => simp [here]
    | succ k =>
      have later := ih (k := k) fun i y found => by simpa using either (i + 1) y found
      cases first : q x with
      | true => simp [here, first]
      | false => simpa [here, first] using later

/-- On the regular schedule a button that is held through the tick where the threshold is reached
was pressed long, and the first look before at which it was not held says that it was not. -/
theorem verdict_of_regular {looks : List Look} (regular : Regular looks) (thresholdMs : Nat) :
    let last := max 1 (thresholdMs ⌈/⌉ watchMs)
    verdict thresholdMs looks = ((looks.take last).find? (!·.low)).or looks[last]? := by
  obtain ⟨start, at_time⟩ := regular
  intro last
  obtain ⟨before, last_eq⟩ : ∃ before, last = before + 1 :=
    Nat.exists_eq_add_one.2 (Nat.lt_of_lt_of_le Nat.zero_lt_one (le_max_left ..))
  cases looks with
  | nil => simp [verdict]
  | cons first ticks =>
    rw [last_eq, List.take_succ_cons, List.getElem?_cons_succ]
    cases low : first.low with
    | false => simp [verdict, low]
    | true =>
      simp only [verdict, low, if_true, List.find?_cons, Bool.not_true]
      apply find?_or_at
      intro i tick found
      have began := at_time 0 first rfl
      have ticked := at_time (i + 1) tick found
      have reached : 1000 * thresholdMs ≤ tick.time - first.time ↔ before ≤ i := by
        have quotient : thresholdMs ⌈/⌉ watchMs ≤ i + 1 ↔ thresholdMs ≤ watchMs * (i + 1) :=
          ceilDiv_le_iff_le_mul (by decide)
        have bound : last ≤ i + 1 ↔ thresholdMs ⌈/⌉ watchMs ≤ i + 1 := by
          rw [max_le_iff]
          omega
        omega
      simp only [reached]

def Look.event (id : UInt8) (look : Look) : ButtonEvent := ⟨id, look.low⟩

namespace Button

variable {b b' : Button} {reset resets : Prop} {thresholdMs : Nat} {look : Option Look}
  {event : Option ButtonEvent}

structure Unmoved (b b' : Button) : Prop where
  id : b'.config.id = b.config.id
  debouncing : b'.debouncing = b.debouncing
  watchedSince : b'.watchedSince = b.watchedSince
  timer : b'.timer = b.timer
  pending : b'.pending = true → b.pending = true

theorem Unmoved.refl (b : Button) : b.Unmoved b := ⟨rfl, rfl, rfl, rfl, fun pending => pending⟩

/-- What a command does to the cycle of a button when it begins no press: with the look that was
taken, and the press that was published. Only a reset cuts the cycle short. -/
inductive Glance (reset : Prop) (thresholdMs : Nat) (b : Button) :
    Option Look → Option ButtonEvent → Button → Prop where
  | unmoved {b' : Button} : b.Unmoved b' → Glance reset thresholdMs b none none b'
  | cutShort {b' : Button} : reset → b'.Idle → Glance reset thresholdMs b none none b'
  | watched (id now : Nat) :
      b.debouncing = true → b.watchedSince = none →
      Glance reset thresholdMs b (some ⟨now, true⟩) none
        { b with watchedSince := some now, timer := some id }
  | held (since now : Nat) :
      b.debouncing = true → b.watchedSince = some since → isLong since now thresholdMs = false →
      Glance reset thresholdMs b (some ⟨now, true⟩) none b
  | released (now : Nat) :
      b.debouncing = true →
      Glance reset thresholdMs b (some ⟨now, false⟩) (some ⟨b.config.id, false⟩) (b.published false)
  | long (since now : Nat) :
      b.debouncing = true → b.watchedSince = some since → isLong since now thresholdMs = true →
      Glance reset thresholdMs b (some ⟨now, true⟩) (some ⟨b.config.id, true⟩) (b.published true)

/-- Where the cycle of an accepted press is, by the looks that were taken and what was published.
Only with a reset it can end undecided. -/
inductive Phase (resets : Prop) (thresholdMs : Nat) (id : UInt8) :
    List Look → List ButtonEvent → Button → Prop where
  | quiet {b : Button} :
      b.config.id = id → b.debouncing = true → b.watchedSince = none →
      Phase resets thresholdMs id [] [] b
  | watched {b : Button} (start : Nat) (ticks : List Look) :
      b.config.id = id → b.debouncing = true → b.watchedSince = some start →
      verdict thresholdMs (⟨start, true⟩ :: ticks) = none →
      Phase resets thresholdMs id (⟨start, true⟩ :: ticks) [] b
  | ended {b : Button} {looks : List Look} {events : List ButtonEvent} :
      b.debouncing = false →
      events = ((verdict thresholdMs looks).map (Look.event id)).toList →
      (verdict thresholdMs looks = none → resets) → Phase resets thresholdMs id looks events b

theorem verdict_concat_of_undecided {start : Nat} {ticks : List Look}
    (undecided : verdict thresholdMs (⟨start, true⟩ :: ticks) = none) (tick : Look) :
    verdict thresholdMs (⟨start, true⟩ :: ticks ++ [tick]) =
      if !tick.low || isLong start tick.time thresholdMs then some tick else none := by
  simp only [List.cons_append, verdict, if_true] at undecided ⊢
  rw [List.find?_append, undecided, Option.none_or, List.find?_singleton]
  rfl

theorem Phase.of_decided {id : UInt8} {looks : List Look} {decides : Look}
    (idle : b.debouncing = false) (decided : verdict thresholdMs looks = some decides) :
    Phase resets thresholdMs id looks [decides.event id] b := by
  refine .ended idle ?_ ?_
  · rw [decided]
    rfl
  · rw [decided]
    nofun

/-- Each glance takes the cycle on from one phase to the next. -/
theorem Phase.glance {id : UInt8} {looks : List Look} {events : List ButtonEvent}
    (phase : Phase resets thresholdMs id looks events b) (noted : reset → resets)
    (glance : b.Glance reset thresholdMs look event b') :
    Phase resets thresholdMs id (looks ++ look.toList) (events ++ event.toList) b' := by
  cases phase with
  | quiet key debouncing unwatched =>
    cases glance with
    | unmoved unmoved =>
      exact .quiet (unmoved.id.trans key) (unmoved.debouncing.trans debouncing)
        (unmoved.watchedSince.trans unwatched)
    | cutShort cut idle => exact .ended idle.debouncing rfl fun _ => noted cut
    | watched timer now => exact .watched now [] key debouncing rfl rfl
    | held since now _ watched => simp [unwatched] at watched
    | released now => exact .ended rfl (by rw [key]; rfl) nofun
    | long since now _ watched => simp [unwatched] at watched
  | watched start ticks key debouncing watched undecided =>
    cases glance with
    | unmoved unmoved =>
      simp only [Option.toList_none, List.append_nil]
      exact .watched start ticks (unmoved.id.trans key)
        (unmoved.debouncing.trans debouncing) (unmoved.watchedSince.trans watched) undecided
    | cutShort cut idle =>
      simp only [Option.toList_none, List.append_nil]
      exact .ended idle.debouncing (by rw [undecided]; rfl) fun _ => noted cut
    | watched timer now _ unwatched => simp [watched] at unwatched
    | held since now _ watched' short =>
      obtain rfl := Option.some.inj (watched.symm.trans watched')
      refine .watched start (ticks ++ [⟨now, true⟩]) key debouncing watched ?_
      rw [← List.cons_append, verdict_concat_of_undecided undecided, short]
      rfl
    | released now =>
      have decided := verdict_concat_of_undecided undecided ⟨now, false⟩
      exact key ▸ .of_decided rfl decided
    | long since now _ watched' long =>
      obtain rfl := Option.some.inj (watched.symm.trans watched')
      have decided := verdict_concat_of_undecided undecided ⟨now, true⟩
      rw [long] at decided
      exact key ▸ .of_decided rfl decided
  | ended idle as_decided cut =>
    cases glance with
    | unmoved unmoved =>
      simp only [Option.toList_none, List.append_nil]
      exact .ended (unmoved.debouncing.trans idle) as_decided cut
    | cutShort _ idle' =>
      simp only [Option.toList_none, List.append_nil]
      exact .ended idle'.debouncing as_decided cut
    | watched _ _ debouncing => simp [idle] at debouncing
    | held _ _ debouncing => simp [idle] at debouncing
    | released _ debouncing => simp [idle] at debouncing
    | long _ _ debouncing => simp [idle] at debouncing

theorem Phase.published_eq {id : UInt8} {looks : List Look} {events : List ButtonEvent}
    (phase : Phase resets thresholdMs id looks events b) :
    events = ((verdict thresholdMs looks).map (Look.event id)).toList := by
  cases phase with
  | quiet => rfl
  | watched start ticks key debouncing watched undecided => rw [undecided]; rfl
  | ended idle as_decided => exact as_decided

theorem Phase.debouncing_of_undecided {id : UInt8} {looks : List Look} {events : List ButtonEvent}
    (phase : Phase resets thresholdMs id looks events b)
    (undecided : verdict thresholdMs looks = none) (uncut : ¬ resets) : b.debouncing = true := by
  cases phase with
  | quiet _ debouncing => exact debouncing
  | watched _ _ _ debouncing => exact debouncing
  | ended _ _ cut => exact absurd (cut undecided) uncut

end Button

namespace Bench

namespace PanelBench

def runsOut (b : PanelBench) (key : Nat) : PanelCommand → Option Nat
  | .timer place id => if place = key then some id else none
  | .fire place => if place = key then (b.panel.timers.liveFor? key).map (·.id) else none
  | _ => none

/-- The look at the button at a place that a command is, if it lets the button's own timer run
out. -/
def look? (b : PanelBench) (key : Nat) (c : PanelCommand) : Option Look :=
  match b.runsOut key c, b.panel.buttons[key]? with
  | some id, some button =>
    if button.timer = some id then some ⟨b.clock.toNat, button.pin.isLow⟩ else none
  | _, _ => none

def published? (b : PanelBench) (key : Nat) (c : PanelCommand) : Option ButtonEvent :=
  match b.panel.buttons[key]?, (c.run b).2.panel.buttons[key]? with
  | some before, some after =>
    if before.pending = false ∧ after.pending = true then some after.event else none
  | _, _ => none

def looks (b : PanelBench) (key : Nat) : List PanelCommand → List Look
  | [] => []
  | c :: rest => (b.look? key c).toList ++ (c.run b).2.looks key rest

def published (b : PanelBench) (key : Nat) : List PanelCommand → List ButtonEvent
  | [] => []
  | c :: rest => (b.published? key c).toList ++ (c.run b).2.published key rest

end PanelBench

variable {b : PanelBench} {key : Nat} {button : Button} {c : PanelCommand}

theorem published?_eq {after : Button} (found : b.panel.buttons[key]? = some button)
    (found' : (c.run b).2.panel.buttons[key]? = some after) :
    b.published? key c =
      if button.pending = false ∧ after.pending = true then some after.event else none := by
  simp only [PanelBench.published?, found, found']

def PanelBench.Glances (b : PanelBench) (key : Nat) (button : Button) (c : PanelCommand) : Prop :=
  ∃ after, (c.run b).2.panel.buttons[key]? = some after ∧
    button.Glance (c = .init) b.thresholdMs.toNat (b.look? key c) (b.published? key c) after

theorem glances_of_unmoved {after : Button} (found : b.panel.buttons[key]? = some button)
    (found' : (c.run b).2.panel.buttons[key]? = some after) (unmoved : button.Unmoved after)
    (unseen : b.look? key c = none) : b.Glances key button c := by
  refine ⟨after, found', ?_⟩
  have quiet : ¬ (button.pending = false ∧ after.pending = true) := by
    rintro ⟨free, pending⟩
    rw [unmoved.pending pending] at free
    contradiction
  rw [unseen, published?_eq found found', if_neg quiet]
  exact .unmoved unmoved

/-- A timer's running out at the button's place is a look, if the timer is the button's own. -/
theorem glances_expired (consistent : button.Consistent)
    (found : b.panel.buttons[key]? = some button) (available : b.panel.timers.exhausted = false)
    {id : Nat} (runs_out : b.runsOut key c = some id)
    (buttons : (c.run b).2.panel.buttons =
      (b.panel.expire key id b.clock.toNat b.thresholdMs.toNat).2.buttons) :
    b.Glances key button c := by
  obtain ⟨within, -⟩ := List.getElem?_eq_some_iff.1 found
  have look : b.look? key c =
      if button.timer = some id then some ⟨b.clock.toNat, button.pin.isLow⟩ else none := by
    simp only [PanelBench.look?, runs_out, found]
  have replaced : ∀ {after : Button}, (c.run b).2.panel.buttons = b.panel.buttons.set key after →
      (c.run b).2.panel.buttons[key]? = some after := by
    intro after set
    rw [set, List.getElem?_set_self within]
  have expired := b.panel.expire_expired key id b.clock.toNat b.thresholdMs.toNat
  generalize (b.panel.expire key id b.clock.toNat b.thresholdMs.toNat).1 = expiry,
    (b.panel.expire key id b.clock.toNat b.thresholdMs.toNat).2 = panel at expired buttons
  cases expired with
  | stale stale =>
    have unseen : b.look? key c = none := by
      rw [look, if_neg]
      intro timer
      have debouncing := consistent.timer_iff.1 (by rw [timer]; rfl)
      exact stale button found debouncing timer
    have found' : (c.run b).2.panel.buttons[key]? = some button := buttons ▸ found
    exact glances_of_unmoved found found' (.refl button) unseen
  | watched at_place there debouncing timer unwatched low available =>
    obtain rfl := Option.some.inj (found.symm.trans there)
    have found' := replaced buttons
    refine ⟨_, found', ?_⟩
    rw [look, if_pos timer, low, published?_eq found found', if_neg (by simp)]
    exact .watched _ _ debouncing unwatched
  | unwatched at_place there debouncing timer unwatched low exhausted =>
    simp [available] at exhausted
  | released at_place there debouncing timer high =>
    obtain rfl := Option.some.inj (found.symm.trans there)
    have found' := replaced buttons
    have free := consistent.pending_of_debouncing debouncing
    refine ⟨_, found', ?_⟩
    rw [look, if_pos timer, high, published?_eq found found', if_pos ⟨free, rfl⟩]
    exact .released _ debouncing
  | held at_place since there debouncing timer watched low short =>
    obtain rfl := Option.some.inj (found.symm.trans there)
    have found' : (c.run b).2.panel.buttons[key]? = some button := buttons ▸ found
    refine ⟨button, found', ?_⟩
    rw [look, if_pos timer, low, published?_eq found found', if_neg (by simp)]
    exact .held since _ debouncing watched short
  | long at_place since there debouncing timer watched low long =>
    obtain rfl := Option.some.inj (found.symm.trans there)
    have found' := replaced buttons
    have free := consistent.pending_of_debouncing debouncing
    refine ⟨_, found', ?_⟩
    rw [look, if_pos timer, low, published?_eq found found', if_pos ⟨free, rfl⟩]
    exact .long since _ debouncing watched long

theorem look?_eq_none (unseen : b.runsOut key c = none) : b.look? key c = none := by
  simp only [PanelBench.look?, unseen]

theorem glances_of_modify (found : b.panel.buttons[key]? = some button) {place : Nat}
    {f : Button → Button} (buttons : (c.run b).2.panel.buttons = b.panel.buttons.modify place f)
    (unmoved : place = key → button.Unmoved (f button)) (unseen : b.runsOut key c = none) :
    b.Glances key button c := by
  have at_key := congrArg (·[key]?) buttons
  simp only [List.getElem?_modify, found, Option.map_eq_map, Option.map_some] at at_key
  refine glances_of_unmoved found at_key ?_ (look?_eq_none unseen)
  split
  · next here => exact unmoved here
  · exact .refl button

theorem glances_of_collection (consistent : button.Consistent)
    (found : b.panel.buttons[key]? = some button) {event : Option ButtonEvent}
    (collection : Panel.Collection b.panel.buttons event (c.run b).2.panel.buttons)
    (unseen : b.runsOut key c = none) : b.Glances key button c := by
  generalize buttons : (c.run b).2.panel.buttons = after at collection
  cases collection with
  | empty =>
    have found' : (c.run b).2.panel.buttons[key]? = some button := buttons ▸ found
    exact glances_of_unmoved found found' (.refl button) (look?_eq_none unseen)
  | first place first at_first there =>
    refine glances_of_modify found buttons ?_ unseen
    rintro rfl
    obtain ⟨within, pending, -⟩ := List.findIdx?_eq_some_iff_getElem.1 at_first
    obtain rfl := Option.some.inj ((List.getElem?_eq_getElem within).symm.trans found)
    have debouncing := consistent.debouncing_of_pending pending
    exact ⟨rfl, debouncing.symm, rfl, rfl, fun _ => pending⟩

theorem glances_of_same (found : b.panel.buttons[key]? = some button)
    (same : (c.run b).2.panel.buttons[key]? = b.panel.buttons[key]?)
    (unseen : b.runsOut key c = none) : b.Glances key button c :=
  glances_of_unmoved found (same.trans found) (.refl button) (look?_eq_none unseen)

theorem glances_init (found : b.panel.buttons[key]? = some button) :
    b.Glances key button .init := by
  have found' : (PanelCommand.init.run b).2.panel.buttons[key]? =
      some (button.reset b.panel.timers).1 := by
    show b.panel.init.buttons[key]? = _
    rw [Panel.buttons_init, List.getElem?_map, found, Option.map_some]
  refine ⟨_, found', ?_⟩
  rw [look?_eq_none rfl, published?_eq found found', if_neg (by simp [Button.reset])]
  exact .cutShort rfl (button.reset_idle _)

/-- An edge that begins no press here begins one elsewhere, or none. -/
theorem glances_edge (found : b.panel.buttons[key]? = some button) {gpio : UInt8}
    (available : b.panel.timers.exhausted = false)
    (begun : (b.presses key (.edge gpio)).accepted = 0) : b.Glances key button (.edge gpio) := by
  have edge := b.panel.edge_edge gpio
  have count : (b.presses key (.edge gpio)).accepted =
    (startsDebounce key b.panel.timers (b.panel.edge gpio).timers).toNat := rfl
  rw [count] at begun
  refine glances_of_same found ?_ rfl
  show (b.panel.edge gpio).buttons[key]? = _
  generalize b.panel.edge gpio = after at edge begun ⊢
  cases edge with
  | ignored => rfl
  | started place accepted wired there accepts _ =>
    rw [startsDebounce_start key place available] at begun
    have apart : place ≠ key := by simpa using begun
    exact List.getElem?_set_ne apart
  | refused place accepted wired there accepts exhausted => simp [available] at exhausted

theorem glances_fire (consistent : button.Consistent)
    (found : b.panel.buttons[key]? = some button) (available : b.panel.timers.exhausted = false) :
    b.Glances key button (.fire key) := by
  cases live : b.panel.timers.liveFor? key with
  | none =>
    refine glances_of_same found ?_ (by simp [PanelBench.runsOut, live])
    simp only [PanelCommand.run, PanelBench.fire, live]
  | some t =>
    have runs_out : b.runsOut key (.fire key) = some t.id := by simp [PanelBench.runsOut, live]
    refine glances_expired consistent found available runs_out ?_
    rw [← Panel.buttons_timer]
    exact buttons_fire live

theorem glances_of_concerned (consistent : button.Consistent)
    (found : b.panel.buttons[key]? = some button) (available : b.panel.timers.exhausted = false)
    (begun : (b.presses key c).accepted = 0) (concerned : b.concerns key c = true) :
    b.Glances key button c := by
  cases c with
  | init => exact glances_init found
  | edge gpio => exact glances_edge found available begun
  | timer place id =>
    obtain rfl : place = key := by simpa [PanelBench.concerns] using concerned
    exact glances_expired consistent found available (if_pos rfl) (Panel.buttons_timer ..)
  | fire place =>
    obtain rfl : place = key := by simpa [PanelBench.concerns] using concerned
    exact glances_fire consistent found available
  | setDown | setFailing =>
    exact glances_of_modify found rfl (fun _ => ⟨rfl, rfl, rfl, rfl, id⟩) rfl
  | setValue | setColor =>
    exact glances_of_modify found (Panel.configure_eq_modify ..)
      (fun _ => ⟨rfl, rfl, rfl, rfl, id⟩) rfl
  | advance | setClock | sleep =>
    exact glances_of_same found (congrArg (·[key]?) (onlyClock_run b rfl).buttons) rfl
  | take => exact glances_of_collection consistent found b.panel.take_collection rfl
  | wait =>
    have polled := congrArg (·.2.panel.buttons) (run_wait b)
    exact glances_of_collection consistent found (polled ▸ b.panel.poll_collection _) rfl
  | _ => exact glances_of_same found rfl rfl

theorem glances_run (sound : TimersSound b) (found : b.panel.buttons[key]? = some button)
    (available : b.panel.timers.exhausted = false) (begun : (b.presses key c).accepted = 0) :
    b.Glances key button c := by
  cases concerned : b.concerns key c with
  | true =>
    have consistent := sound.consistent button (List.mem_of_getElem? found)
    exact glances_of_concerned consistent found available begun concerned
  | false =>
    have kept := congrArg (·.corner.button) (around_run_beside sound.books concerned)
    have unseen : b.runsOut key c = none := by
      cases c <;> simp_all [PanelBench.runsOut, PanelBench.concerns]
    exact glances_of_same found kept unseen

theorem available_run (available : b.panel.timers.exhausted = false) (lasting : c ≠ .exhaust true) :
    (c.run b).2.panel.timers.exhausted = false := by
  have timer : ∀ place id,
      (b.panel.timer place id b.clock.toNat b.thresholdMs.toNat).2.timers.exhausted = false := by
    intro place id
    have expired := b.panel.expire_expired place id b.clock.toNat b.thresholdMs.toNat
    rw [Panel.timers_timer]
    generalize (b.panel.expire place id b.clock.toNat b.thresholdMs.toNat).1 = expiry,
      (b.panel.expire place id b.clock.toNat b.thresholdMs.toNat).2 = after at expired ⊢
    cases expired with
    | watched => exact (TimerQueue.exhausted_start ..).trans available
    | _ => exact available
  cases c with
  | init => exact (Panel.resetAll_timers ..).2.trans available
  | edge gpio =>
    have edge := b.panel.edge_edge gpio
    simp only [PanelCommand.run]
    generalize b.panel.edge gpio = after at edge ⊢
    cases edge with
    | ignored => exact available
    | started => exact (TimerQueue.exhausted_start ..).trans available
    | refused place button _ _ _ exhausted => simp [available] at exhausted
  | timer place id => exact timer place id
  | fire place =>
    cases live : b.panel.timers.liveFor? place with
    | none => simpa only [PanelCommand.run, PanelBench.fire, live] using available
    | some t =>
      simp only [PanelCommand.run]
      rw [fire_panel live]
      simp only
      split <;> exact timer place t.id
  | exhaust exhausted =>
    cases exhausted with
    | false => rfl
    | true => exact absurd rfl lasting
  | advance | setClock | sleep =>
    exact (congrArg TimerQueue.exhausted (onlyClock_run b rfl).timers).trans available
  | wait =>
    rw [run_wait]
    exact (congrArg TimerQueue.exhausted (b.panel.timers_poll _)).trans available
  | _ => exact available

theorem thresholdMs_run (constant : ∀ ms, c ≠ .setThreshold ms) :
    (c.run b).2.thresholdMs = b.thresholdMs := by
  cases c with
  | setThreshold ms => exact absurd rfl (constant ms)
  | fire place =>
    simp only [PanelCommand.run]
    rw [fire_frame]
  | advance | setClock | sleep => exact (onlyClock_run b rfl).thresholdMs
  | wait => rw [run_wait]
  | _ => rfl

structure Cycle (b : PanelBench) (key : Nat) (resets : Prop) (thresholdMs : Nat) (id : UInt8)
    (looks : List Look) (events : List ButtonEvent) : Prop where
  sound : TimersSound b
  available : b.panel.timers.exhausted = false
  threshold : b.thresholdMs.toNat = thresholdMs
  phase : ∃ button, b.panel.buttons[key]? = some button ∧
    button.Phase resets thresholdMs id looks events

variable {resets : Prop} {thresholdMs : Nat} {id : UInt8} {looks : List Look}
  {events : List ButtonEvent} {commands : List PanelCommand}

theorem Cycle.run (cycle : Cycle b key resets thresholdMs id looks events)
    (noted : c = .init → resets) (lasting : c ≠ .exhaust true)
    (constant : ∀ ms, c ≠ .setThreshold ms) (begun : (b.presses key c).accepted = 0) :
    Cycle (c.run b).2 key resets thresholdMs id (looks ++ (b.look? key c).toList)
      (events ++ (b.published? key c).toList) where
  sound := cycle.sound.run c
  available := available_run cycle.available lasting
  threshold := by rw [thresholdMs_run constant, cycle.threshold]
  phase := by
    obtain ⟨button, found, phase⟩ := cycle.phase
    obtain ⟨after, found', glance⟩ := glances_run cycle.sound found cycle.available begun
    rw [cycle.threshold] at glance
    exact ⟨after, found', phase.glance noted glance⟩

theorem Cycle.after (cycle : Cycle b key resets thresholdMs id looks events)
    (noted : .init ∈ commands → resets) (lasting : .exhaust true ∉ commands)
    (constant : ∀ ms, .setThreshold ms ∉ commands)
    (begun : (b.account key commands).accepted = 0) :
    Cycle (b.after commands) key resets thresholdMs id (looks ++ b.looks key commands)
      (events ++ b.published key commands) := by
  induction commands generalizing b looks events with
  | nil => simpa [PanelBench.looks, PanelBench.published, PanelBench.after] using cycle
  | cons c rest ih =>
    have begun : (b.presses key c).accepted + ((c.run b).2.account key rest).accepted = 0 := begun
    have step := cycle.run (c := c) (fun same => noted (List.mem_cons.2 (.inl same.symm)))
      (fun same => lasting (List.mem_cons.2 (.inl same.symm)))
      (fun _ same => constant _ (List.mem_cons.2 (.inl same.symm))) (by omega)
    have later := ih step (fun member => noted (List.mem_cons_of_mem _ member))
      (fun member => lasting (List.mem_cons_of_mem _ member))
      (fun _ member => constant _ (List.mem_cons_of_mem _ member)) (by omega)
    rw [PanelBench.looks, PanelBench.published, ← List.append_assoc, ← List.append_assoc]
    exact later

theorem cycle_of_edge (sound : TimersSound b) (found : b.panel.buttons[key]? = some button)
    {gpio : UInt8} (resets : Prop) (accepted : (b.presses key (.edge gpio)).accepted = 1) :
    Cycle ((PanelCommand.edge gpio).run b).2 key resets b.thresholdMs.toNat button.config.id
      [] [] := by
  have consistent := sound.consistent button (List.mem_of_getElem? found)
  have edge := b.panel.edge_edge gpio
  have count : (b.presses key (.edge gpio)).accepted =
    (startsDebounce key b.panel.timers (b.panel.edge gpio).timers).toNat := rfl
  rw [count] at accepted
  have started : b.panel.timers.exhausted = false ∧
      ∃ after, (b.panel.edge gpio).buttons[key]? = some after ∧
        after.Phase resets b.thresholdMs.toNat button.config.id [] [] := by
    generalize b.panel.edge gpio = panel at edge accepted ⊢
    cases edge with
    | ignored => simp [startsDebounce_same] at accepted
    | refused => simp [startsDebounce_same, started_release] at accepted
    | started place first wired there accepts available =>
      rw [startsDebounce_start key place available] at accepted
      obtain rfl : place = key := by simpa using accepted
      obtain rfl := Option.some.inj (found.symm.trans there)
      obtain ⟨within, -⟩ := List.getElem?_eq_some_iff.1 found
      obtain ⟨-, idle, -⟩ := Button.accepts_iff.1 accepts
      refine ⟨available, _, List.getElem?_set_self within, .quiet rfl rfl ?_⟩
      exact consistent.watchedSince_of_not_debouncing idle
  exact ⟨sound.run _, available_run started.1 (by simp), rfl, started.2⟩

theorem accepted_take_le (b : PanelBench) (key : Nat) (commands : List PanelCommand) (n : Nat) :
    (b.account key (commands.take n)).accepted ≤ (b.account key commands).accepted := by
  induction commands generalizing b n with
  | nil => simp
  | cons c rest ih =>
    cases n with
    | zero => exact Nat.zero_le _
    | succ n => exact Nat.add_le_add_left (ih (c.run b).2 n) _

/-- The press of a button that an edge begins is classified by the looks at the button alone,
whatever else is done to the panel in between: with the deciding look it is published, once, and not
before. Until then its timer's running out is the next look, unless an initialisation comes
first. -/
theorem press_classified (board : List ButtonConfig) (clock : UInt64) (thresholdMs : UInt32)
    (past rest : List PanelCommand) (gpio : UInt8) (key : Fin board.length)
    (accepted : (((PanelBench.ofBoard board clock thresholdMs).after past).presses key
        (.edge gpio)).accepted = 1)
    (begun : (((PanelBench.ofBoard board clock thresholdMs).after
        (past ++ [.edge gpio])).account key rest).accepted = 0)
    (lasting : .exhaust true ∉ rest) (constant : ∀ ms, .setThreshold ms ∉ rest) (n : Nat) :
    let b := (PanelBench.ofBoard board clock thresholdMs).after (past ++ [.edge gpio])
    let looks := b.looks key (rest.take n)
    let threshold := b.thresholdMs.toNat
    let last := max 1 (threshold ⌈/⌉ 100)
    (verdict threshold looks = none → .init ∉ rest.take n →
        ∃ id, ((b.after (rest.take n)).look? key (.timer key id)).isSome = true) ∧
      b.published key (rest.take n) =
        ((verdict threshold looks).map fun look => ⟨board[key].id, look.low⟩).toList ∧
      (Regular looks →
        b.published key (rest.take n) =
          ((((looks.take last).find? (!·.low)).or looks[last]?).map
            fun look => ⟨board[key].id, look.low⟩).toList) := by
  intro b looks threshold last
  have start := timersSound_ofBoard board clock thresholdMs
  have edge : b = ((PanelCommand.edge gpio).run
      ((PanelBench.ofBoard board clock thresholdMs).after past)).2 := after_append ..
  obtain ⟨-, buttons⟩ := buttons_consistent board clock thresholdMs past
  obtain ⟨button, found, id_eq, -⟩ := buttons key
  have cycle := cycle_of_edge (start.after past) found (.init ∈ rest.take n) accepted
  rw [← edge, id_eq] at cycle
  have unbegun : (b.account key (rest.take n)).accepted = 0 :=
    Nat.le_zero.1 (begun ▸ accepted_take_le b key rest n)
  have ended := cycle.after id (fun member => lasting (List.mem_of_mem_take member))
    (fun ms member => constant ms (List.mem_of_mem_take member)) unbegun
  obtain ⟨after, there, phase⟩ := ended.phase
  rw [← cycle.threshold] at phase
  have classified := phase.published_eq
  refine ⟨?_, classified, fun regular => ?_⟩
  · intro undecided uncut
    have debouncing := phase.debouncing_of_undecided undecided uncut
    have consistent := ended.sound.consistent after (List.mem_of_getElem? there)
    obtain ⟨id, timer⟩ := Option.isSome_iff_exists.1 (consistent.timer_iff.2 debouncing)
    exact ⟨id, by simp [PanelBench.look?, PanelBench.runsOut, there, timer]⟩
  have told : verdict threshold looks = ((looks.take last).find? (!·.low)).or looks[last]? :=
    verdict_of_regular regular threshold
  rw [← told]
  exact classified

/-- A press of the first of two buttons, held over a threshold of 150 ms with the presses of the
other in between. -/
theorem press_classified_long :
    let board : List ButtonConfig :=
      [{ id := 1, gpio := 5, value := default, color := default },
       { id := 2, gpio := 6, value := default, color := default }]
    let start := PanelBench.ofBoard board 1 150
    let rest : List PanelCommand :=
      [.setDown 0 true, .advance 100000, .fire 0, .edge 6, .advance 100000, .fire 1, .fire 0, .take,
       .advance 100000, .timer 1 2, .fire 0, .take]
    let b := start.after [.init, .edge 5]
    (start.after [.init]).presses 0 (.edge 5) = { accepted := 1 } ∧
      b.account 0 rest = { delivered := 1 } ∧
      b.looks 0 rest = [⟨100001, true⟩, ⟨200001, true⟩, ⟨300001, true⟩] ∧
      b.published 0 (rest.take 10) = [] ∧ b.published 0 (rest.take 11) = [⟨1, true⟩] := by
  intro board start rest b
  have accepted : (start.after [.init]).presses 0 (.edge 5) = { accepted := 1 } := by decide
  have account : b.account 0 rest = { delivered := 1 } := by decide
  have begun : (b.account 0 rest).accepted = 0 := by rw [account]
  have classified := fun n => (press_classified board 1 150 [.init] rest 5 0
    (congrArg PressCount.accepted accepted) begun (by simp [rest]) (by simp [rest]) n).2.1
  exact ⟨accepted, account, by decide, (classified 10).trans (by decide),
    (classified 11).trans (by decide)⟩

end Bench

end Keypad
