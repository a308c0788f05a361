import Keypad.Proofs.Panel.Changes

namespace Keypad

/-- The button at a place made a change with this count; no button came or went there. -/
def ChangedAt (key : Nat) (count : PressCount) (before after : List Button) : Prop :=
  Option.Rel (fun b b' => b.Change count b') before[key]? after[key]?

namespace ChangedAt

theorem refl (key : Nat) (bs : List Button) : ChangedAt key {} bs bs := by
  unfold ChangedAt
  cases bs[key]? with
  | none => exact .none
  | some b => exact .some (.refl b)

theorem modify (key place : Nat) {count : PressCount} {bs : List Button} {f : Button → Button}
    (change : ∀ b, bs[place]? = some b → b.Change count (f b)) :
    ChangedAt key (if place = key then count else {}) bs (bs.modify place f) := by
  unfold ChangedAt
  rw [List.getElem?_modify]
  by_cases here : place = key
  · subst here
    simp only [if_true]
    cases found : bs[place]? with
    | none => exact .none
    | some b => exact .some (change b found)
  · simp only [if_neg here]
    cases bs[key]? with
    | none => exact .none
    | some b => exact .some (.refl b)

theorem set (key : Nat) {place : Nat} {count : PressCount} {bs : List Button} {b b' : Button}
    (found : bs[place]? = some b) (change : b.Change count b') :
    ChangedAt key (if place = key then count else {}) bs (bs.set place b') := by
  have modified : bs.set place b' = bs.modify place fun _ => b' := by
    simp [List.modify_eq_set]
  rw [modified]
  apply modify
  intro c there
  obtain rfl : b = c := Option.some.inj (found ▸ there)
  exact change

theorem init (key : Nat) (p : Panel) :
    ChangedAt key
      { discarded := (p.buttons[key]?.any fun b => b.debouncing || b.pending).toNat }
      p.buttons p.init.buttons := by
  unfold ChangedAt
  rw [Panel.buttons_init, List.getElem?_map]
  cases p.buttons[key]? with
  | none => exact .none
  | some b => exact .some (.reset p.timers)

theorem timer (p : Panel) (place key id now thresholdMs : Nat) :
    ChangedAt place {} p.buttons (p.timer key id now thresholdMs).2.buttons := by
  rw [Panel.buttons_timer]
  unfold Panel.expire
  cases found : p.buttons[key]? with
  | none => exact refl place p.buttons
  | some b =>
    have change := ChangedAt.set place found (b.expire_change key id now thresholdMs p.timers)
    rwa [ite_self] at change

theorem configure (place : Nat) {f : ButtonConfig → ButtonConfig}
    (same_id : ∀ c, (f c).id = c.id) (same_enabled : ∀ c, (f c).enabled = c.enabled) (key : UInt8)
    (bs : List Button) : ChangedAt place {} bs (Panel.configure f key bs) := by
  induction bs generalizing place with
  | nil => exact .none
  | cons b rest ih =>
    rw [Panel.configure]
    by_cases found : b.config.id = key
    · rw [if_pos found]
      cases place with
      | zero => exact .some (.outside (f b.config) b.pin (same_id _) (same_enabled _) rfl)
      | succ place => exact refl place rest
    · rw [if_neg found]
      cases place with
      | zero => exact .some (.refl b)
      | succ place => exact ih place

theorem changePin (place : Nat) (p : Panel) (key : Nat) {f : Pin → Pin}
    (same_interrupt : ∀ pin, (f pin).interrupt = pin.interrupt) :
    ChangedAt place {} p.buttons (p.changePin key f).buttons := by
  have outside : ∀ b, p.buttons[key]? = some b → b.Change {} { b with pin := f b.pin } :=
    fun b _ => .outside b.config (f b.pin) rfl rfl (same_interrupt b.pin)
  have change := ChangedAt.modify place key outside
  rwa [ite_self] at change

theorem length_eq {before after : List Button} {count : Nat → PressCount}
    (changed : ∀ key, ChangedAt key (count key) before after) : after.length = before.length := by
  have absent : ∀ key : Nat, before[key]? = none ↔ after[key]? = none := by
    intro key
    have h := changed key
    unfold ChangedAt at h
    generalize before[key]? = earlier, after[key]? = later at h ⊢
    cases h <;> simp
  simp only [List.getElem?_eq_none_iff] at absent
  have := absent before.length
  have := absent after.length
  omega

end ChangedAt

namespace Bench

/-- Letting a live timer run out is a call for it, and then its end unless it goes on. -/
theorem fire_panel {b : PanelBench} {key : Nat} {t : Timer}
    (live : b.panel.timers.liveFor? key = some t) :
    (b.fire key).2.panel =
      let r := b.panel.timer key t.id b.clock.toNat b.thresholdMs.toNat
      if t.mode = .oneShot ∨ r.1 = false then { r.2 with timers := r.2.timers.cancel t.id }
      else r.2 := by
  simp only [PanelBench.fire, live, Bool.not_eq_true']

theorem buttons_fire {b : PanelBench} {key : Nat} {t : Timer}
    (live : b.panel.timers.liveFor? key = some t) :
    (b.fire key).2.panel.buttons =
      (b.panel.timer key t.id b.clock.toNat b.thresholdMs.toNat).2.buttons := by
  rw [fire_panel live]
  simp only
  split <;> rfl

def waitReply : Option ButtonEvent → Reply
  | some event => .event event
  | none => .asleep

theorem run_wait (b : PanelBench) :
    PanelCommand.wait.run b =
      let r := b.panel.poll (b.waiter.getD .collecting)
      (waitReply r.1,
        { b with panel := r.2, waiter := if r.1.isSome then none else some .listening }) := by
  simp only [PanelCommand.run, PanelBench.wait]
  generalize b.panel.poll (b.waiter.getD .collecting) = r
  obtain ⟨_ | event, panel⟩ := r <;> rfl

theorem waitReply_event (event : Option ButtonEvent) (e : ButtonEvent) :
    waitReply event = .event e ↔ event = some e := by
  cases event <;> simp [waitReply]

def PanelCommand.movesClock : PanelCommand → Bool
  | .advance _ | .setClock _ | .sleep _ => true
  | _ => false

/-- Nothing changed but the clock, and how often a sleeper was woken by it. -/
structure OnlyClock (b b' : PanelBench) : Prop where
  buttons : b'.panel.buttons = b.panel.buttons
  timers : b'.panel.timers = b.panel.timers
  signal : b'.panel.signal = b.panel.signal
  thresholdMs : b'.thresholdMs = b.thresholdMs
  waiter : b'.waiter = b.waiter

theorem panel_setClock (b : PanelBench) (next : Option UInt64) :
    (b.setClock next).2.panel = b.panel := by cases next <;> rfl

theorem onlyClock_run (b : PanelBench) {c : PanelCommand} (moves : c.movesClock = true) :
    OnlyClock b (c.run b).2 := by
  have set : ∀ next, OnlyClock b (b.setClock next).2 := by
    intro next
    cases next <;> exact ⟨rfl, rfl, rfl, rfl, rfl⟩
  cases c with
  | advance us => exact set _
  | setClock ms => exact set _
  | sleep ms =>
    simp only [PanelCommand.run, PanelBench.sleep]
    cases Micros.after? b.clock (1000 * ms) <;> exact ⟨rfl, rfl, rfl, rfl, rfl⟩
  | _ => contradiction

def startsDebounce (key : Nat) (before after : TimerQueue) : Bool :=
  decide (after.started = before.started + 1) &&
    after.live.getLast? == some ⟨after.started, key, debounceMs, .oneShot⟩

/-- Whether a reply is the press of the button at a place, collected there. -/
def PanelBench.handsOver (b : PanelBench) (key : Nat) : Reply → Bool
  | .event event =>
    b.panel.buttons.findIdx? (·.pending) == some key &&
      b.panel.buttons[key]?.map Button.event == some event
  | _ => false

/-- What a command comes to for the presses of the button at a place: an edge that started the
timer for the quiet time after it, a press that was handed over, and a cycle cut short. -/
def PanelBench.presses (b : PanelBench) (key : Nat) (c : PanelCommand) : PressCount :=
  match c with
  | .edge _ =>
    { accepted := (startsDebounce key b.panel.timers (c.run b).2.panel.timers).toNat }
  | .init =>
    { discarded := (b.panel.buttons[key]?.any fun b => b.debouncing || b.pending).toNat }
  | .take | .wait => { delivered := (b.handsOver key (c.run b).1).toNat }
  | _ => {}

theorem startsDebounce_same (key : Nat) {before after : TimerQueue}
    (same : after.started = before.started) : startsDebounce key before after = false := by
  simp [startsDebounce, same]

theorem startsDebounce_start (key place : Nat) {q : TimerQueue} (available : q.exhausted = false) :
    startsDebounce key q (q.start place debounceMs .oneShot).2 = decide (place = key) := by
  by_cases here : place = key <;> simp [startsDebounce, TimerQueue.start, available, here]

theorem started_release (q : TimerQueue) (held : Option Nat) :
    (q.release held).started = q.started := by
  cases held <;> rfl

theorem edge_changed (b : PanelBench) (key : Nat) (gpio : UInt8) :
    ChangedAt key (b.presses key (.edge gpio)) b.panel.buttons (b.panel.edge gpio).buttons := by
  have count : b.presses key (.edge gpio) =
      { accepted := (startsDebounce key b.panel.timers (b.panel.edge gpio).timers).toNat } := rfl
  rw [count]
  have edge := b.panel.edge_edge gpio
  generalize b.panel.edge gpio = after at edge ⊢
  cases edge with
  | ignored =>
    rw [startsDebounce_same key rfl]
    exact .refl key _
  | started place button wired found accepted available =>
    have change := ChangedAt.set key found (.quieted (b.panel.timers.started + 1) accepted)
    rw [startsDebounce_start key place available]
    by_cases here : place = key <;> simpa [here] using change
  | refused place button wired found accepted exhausted =>
    have change := ChangedAt.set key found (.givenUp accepted)
    rw [startsDebounce_same key (started_release ..)]
    rwa [ite_self] at change

theorem ofOption_event (event : Option ButtonEvent) (e : ButtonEvent) :
    Reply.ofOption .event event = .event e ↔ event = some e := by
  cases event <;> simp [Reply.ofOption]

theorem handsOver_event {b : PanelBench} {place : Nat} {button : Button}
    (first : b.panel.buttons.findIdx? (·.pending) = some place)
    (found : b.panel.buttons[place]? = some button) (key : Nat) :
    b.handsOver key (.event button.event) = decide (place = key) := by
  by_cases here : place = key
  · subst here
    simp [PanelBench.handsOver, first, found]
  · simp [PanelBench.handsOver, first, here]

theorem collection_changed (b : PanelBench) (key : Nat) {event : Option ButtonEvent}
    {buttons : List Button} (collection : Panel.Collection b.panel.buttons event buttons)
    {reply : Reply} (answer : ∀ e, reply = .event e ↔ event = some e) :
    ChangedAt key { delivered := (b.handsOver key reply).toNat } b.panel.buttons buttons := by
  cases collection with
  | empty =>
    have kept : b.handsOver key reply = false := by
      cases reply <;> simp_all [PanelBench.handsOver]
    rw [kept]
    exact .refl key _
  | first place button found at_place =>
    obtain rfl := (answer button.event).2 rfl
    have collected : ∀ b', b.panel.buttons[place]? = some b' →
        b'.Change { delivered := 1 } b'.collected := by
      intro b' there
      obtain ⟨within, pending, -⟩ := List.findIdx?_eq_some_iff_getElem.1 found
      rw [List.getElem?_eq_getElem within] at there
      exact .collected (Option.some.inj there ▸ pending)
    have change := ChangedAt.modify key place collected
    rw [handsOver_event found at_place key]
    by_cases here : place = key <;> simpa [here] using change

theorem run_changed (b : PanelBench) (key : Nat) (c : PanelCommand) :
    ChangedAt key (b.presses key c) b.panel.buttons (c.run b).2.panel.buttons := by
  cases c with
  | init => exact .init key b.panel
  | setDown place down => exact .changePin key b.panel place fun _ => rfl
  | setFailing place failing => exact .changePin key b.panel place fun _ => rfl
  | edge gpio => exact edge_changed b key gpio
  | timer place id => exact .timer b.panel key place id b.clock.toNat b.thresholdMs.toNat
  | fire place =>
    simp only [PanelCommand.run]
    cases live : b.panel.timers.liveFor? place with
    | none =>
      simp only [PanelBench.fire, live]
      exact .refl key b.panel.buttons
    | some t =>
      rw [buttons_fire live]
      exact .timer b.panel key place t.id b.clock.toNat b.thresholdMs.toNat
  | advance | setClock | sleep =>
    rw [(onlyClock_run b rfl).buttons]
    exact .refl key b.panel.buttons
  | take =>
    exact collection_changed b key b.panel.take_collection (ofOption_event _)
  | wait =>
    simp only [PanelBench.presses, run_wait]
    exact collection_changed b key (b.panel.poll_collection _) (waitReply_event _)
  | setValue id value =>
    exact .configure key (f := fun c => { c with value }) (fun _ => rfl) (fun _ => rfl) id _
  | setColor id color =>
    exact .configure key (f := fun c => { c with color }) (fun _ => rfl) (fun _ => rfl) id _
  | _ => exact .refl key b.panel.buttons

theorem length_run (b : PanelBench) (c : PanelCommand) :
    (c.run b).2.panel.buttons.length = b.panel.buttons.length :=
  ChangedAt.length_eq (run_changed b · c)

def PanelBench.ofBoard (board : List ButtonConfig) (clock : UInt64) (thresholdMs : UInt32) :
    PanelBench where
  panel := .ofBoard board
  clock
  thresholdMs

theorem buttons_ofBoard (board : List ButtonConfig) (clock : UInt64) (thresholdMs : UInt32)
    (key : Fin board.length) :
    (PanelBench.ofBoard board clock thresholdMs).panel.buttons[key.val]? =
      some { config := board[key] } := by
  simp [PanelBench.ofBoard, Panel.ofBoard]

def PanelBench.after (b : PanelBench) (commands : List PanelCommand) : PanelBench :=
  commands.foldl (fun b c => (c.run b).2) b

theorem after_append (b : PanelBench) (first last : List PanelCommand) :
    b.after (first ++ last) = (b.after first).after last :=
  List.foldl_append

def PanelBench.account (b : PanelBench) (key : Nat) : List PanelCommand → PressCount
  | [] => {}
  | c :: rest => b.presses key c + (c.run b).2.account key rest

theorem after_changes (b : PanelBench) (commands : List PanelCommand) {key : Nat} {before : Button}
    (found : b.panel.buttons[key]? = some before) :
    ∃ after, (b.after commands).panel.buttons[key]? = some after ∧
      before.Changes (b.account key commands) after := by
  induction commands generalizing b before with
  | nil => exact ⟨before, found, .refl before⟩
  | cons c rest ih =>
    have changed := run_changed b key c
    unfold ChangedAt at changed
    rw [found] at changed
    generalize next : (c.run b).2.panel.buttons[key]? = between at changed
    cases changed with
    | some change =>
      obtain ⟨after, there, changes⟩ := ih (c.run b).2 next
      exact ⟨after, there, .step change changes⟩

theorem length_after (b : PanelBench) (commands : List PanelCommand) :
    (b.after commands).panel.buttons.length = b.panel.buttons.length := by
  induction commands generalizing b with
  | nil => rfl
  | cons c rest ih => exact (ih (c.run b).2).trans (length_run b c)

theorem changes_of_after (b : PanelBench) (commands : List PanelCommand) {key : Nat}
    {after : Button} (found : (b.after commands).panel.buttons[key]? = some after) :
    ∃ before, b.panel.buttons[key]? = some before ∧
      before.Changes (b.account key commands) after := by
  obtain ⟨within, -⟩ := List.getElem?_eq_some_iff.1 found
  rw [length_after] at within
  have start := List.getElem?_eq_getElem within
  obtain ⟨after', found', changes⟩ := after_changes b commands start
  obtain rfl := Option.some.inj (found.symm.trans found')
  exact ⟨b.panel.buttons[key], start, changes⟩

end Bench

end Keypad
