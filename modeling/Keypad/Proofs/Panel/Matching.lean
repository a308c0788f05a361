import Keypad.Proofs.Panel.Surroundings

namespace Keypad

namespace Panel

def Alike (key : Nat) (rename : Nat → Nat) (p p' : Panel) : Prop :=
  p'.corner key = (p.corner key).renamed rename

/-- After a step of both, panels are alike in one corner. As many timers were started in the one as
in the other. -/
structure Matches (key : Nat) (rename : Nat → Nat) (p p' after after' : Panel) : Prop where
  alike : after.Alike key rename after'
  started_eq : after'.timers.started + p.timers.started = after.timers.started + p'.timers.started

variable {key : Nat} {rename : Nat → Nat} {p p' after after' : Panel} {b : Button}

namespace Alike

theorem of_parts (button : p'.buttons[key]? = p.buttons[key]?.map (Button.renamed rename))
    (timers : p.timers.Alike key rename p'.timers) : p.Alike key rename p' := by
  simp only [Alike, corner, Corner.renamed, button, timers.live_eq, timers.exhausted_eq]

variable (alike : p.Alike key rename p')
include alike

theorem button : p'.buttons[key]? = p.buttons[key]?.map (Button.renamed rename) :=
  congrArg Corner.button alike

theorem found (found : p.buttons[key]? = some b) :
    p'.buttons[key]? = some (b.renamed rename) := by
  rw [alike.button, found, Option.map_some]

theorem timers : p.timers.Alike key rename p'.timers where
  live_eq := congrArg Corner.live alike
  exhausted_eq := congrArg Corner.exhausted alike

theorem liveFor?_eq :
    p'.timers.liveFor? key = (p.timers.liveFor? key).map (Timer.renamed rename) := by
  rw [TimerQueue.liveFor?_eq, TimerQueue.liveFor?_eq, alike.timers.live_eq, List.head?_map]

end Alike

theorem Matches.same (alike : p.Alike key rename p') : Matches key rename p p' p p' :=
  ⟨alike, Nat.add_comm ..⟩

theorem Matches.modify (alike : p.Alike key rename p') {f : Button → Button}
    (same : ∀ b, f (b.renamed rename) = (f b).renamed rename) {place : Nat}
    (buttons : after.buttons = p.buttons.modify place f) (timers : after.timers = p.timers)
    (buttons' : after'.buttons = p'.buttons.modify place f) (timers' : after'.timers = p'.timers) :
    Matches key rename p p' after after' where
  alike := by
    refine .of_parts ?_ (by rw [timers, timers']; exact alike.timers)
    rw [buttons, buttons', List.getElem?_modify, List.getElem?_modify, alike.button]
    cases p.buttons[key]? with
    | none => rfl
    | some b => by_cases here : place = key <;> simp [here, same]
  started_eq := by rw [timers, timers', Nat.add_comm]

theorem Matches.set (alike : p.Alike key rename p') (found : p.buttons[key]? = some b)
    {step step' : Button × TimerQueue}
    (matched : Button.Matches key rename p.timers.started p'.timers.started step step')
    (buttons : after.buttons = p.buttons.set key step.1) (timers : after.timers = step.2)
    (buttons' : after'.buttons = p'.buttons.set key step'.1) (timers' : after'.timers = step'.2) :
    Matches key rename p p' after after' where
  alike := by
    obtain ⟨within, -⟩ := List.getElem?_eq_some_iff.1 found
    obtain ⟨within', -⟩ := List.getElem?_eq_some_iff.1 (alike.found found)
    refine .of_parts ?_ (by rw [timers, timers']; exact matched.timers)
    rw [buttons, buttons', List.getElem?_set_self within, List.getElem?_set_self within',
      matched.button_eq, Option.map_some]
  started_eq := by
    rw [timers, timers']
    exact matched.started_eq

section Timers

variable (injective : Function.Injective rename) (alike : p.Alike key rename p')
include injective alike

theorem matches_edge {gpio : UInt8}
    (wired : p.buttons.findIdx? (·.config.gpio == gpio) = some key)
    (wired' : p'.buttons.findIdx? (·.config.gpio == gpio) = some key)
    (fresh : (p.edge gpio).timers.started ≠ p.timers.started →
      rename (p.timers.started + 1) = p'.timers.started + 1) :
    Matches key rename p p' (p.edge gpio) (p'.edge gpio) := by
  have within := (List.findIdx?_eq_some_iff_getElem.1 wired).1
  have found : p.buttons[key]? = some p.buttons[key] := List.getElem?_eq_getElem within
  rw [edge_eq wired found] at fresh ⊢
  rw [edge_eq wired' (alike.found found)]
  exact .set alike found (Button.matches_edge injective alike.timers fresh) rfl rfl rfl rfl

theorem matches_timer {id now now' thresholdMs thresholdMs' : Nat} (clock : now' = now)
    (threshold : thresholdMs' = thresholdMs)
    (fresh : (p.timer key id now thresholdMs).2.timers.started ≠ p.timers.started →
      rename (p.timers.started + 1) = p'.timers.started + 1) :
    (p'.timer key (rename id) now' thresholdMs').1 = (p.timer key id now thresholdMs).1 ∧
      Matches key rename p p' (p.timer key id now thresholdMs).2
        (p'.timer key (rename id) now' thresholdMs').2 := by
  subst clock threshold
  cases found : p.buttons[key]? with
  | none =>
    have found' : p'.buttons[key]? = none := by rw [alike.button, found, Option.map_none]
    simp only [timer, expire, found, found']
    exact ⟨trivial, .same alike⟩
  | some b =>
    have found' := alike.found found
    rw [timers_timer, expire_eq found] at fresh
    obtain ⟨expiry, matched⟩ := Button.matches_expire injective alike.timers fresh
    constructor
    · rw [Bool.eq_iff_iff, timer_goesOn_iff, timer_goesOn_iff, expire_eq found, expire_eq found']
      simp only [expiry]
    · refine .set alike found matched ?_ ?_ ?_ ?_
      · rw [buttons_timer, expire_eq found]
      · rw [timers_timer, expire_eq found]
      · rw [buttons_timer, expire_eq found']
      · rw [timers_timer, expire_eq found']

end Timers

theorem Matches.cancel (injective : Function.Injective rename)
    (matched : Matches key rename p p' after after') (id : Nat) :
    Matches key rename p p' { after with timers := after.timers.cancel id }
      { after' with timers := after'.timers.cancel (rename id) } where
  alike := .of_parts matched.alike.button (matched.alike.timers.cancel injective id)
  started_eq := matched.started_eq

theorem matches_changePin (alike : p.Alike key rename p') (place : Nat) (f : Pin → Pin) :
    Matches key rename p p' (p.changePin place f) (p'.changePin place f) :=
  .modify alike (f := fun b => { b with pin := f b.pin }) (fun _ => rfl) rfl rfl rfl rfl

theorem matches_configure (alike : p.Alike key rename p') {id : UInt8}
    (keyed : p'.buttons.findIdx (·.config.id == id) = p.buttons.findIdx (·.config.id == id))
    (f : ButtonConfig → ButtonConfig) :
    Matches key rename p p' { p with buttons := configure f id p.buttons }
      { p' with buttons := configure f id p'.buttons } := by
  have same : ∀ b : Button, { b.renamed rename with config := f (b.renamed rename).config } =
      ({ b with config := f b.config } : Button).renamed rename := fun _ => rfl
  refine .modify alike same (configure_eq_modify f id p.buttons) rfl ?_ rfl
  rw [← keyed]
  exact configure_eq_modify f id p'.buttons

theorem liveAt_init (sound : p.init.timerBooks.Sound) (key : Nat) :
    p.init.timers.liveAt key = [] := by
  apply List.eq_nil_iff_forall_not_mem.2
  intro t live
  have held := sound.live_held t (TimerQueue.mem_liveAt.1 live).1
  obtain ⟨b, found, held⟩ := heldTimers_eq_some held
  rw [buttons_init, List.getElem?_map, Option.map_eq_some_iff] at found
  obtain ⟨before, -, rfl⟩ := found
  simp [Button.held, Button.reset] at held

theorem matches_init (alike : p.Alike key rename p') (sound : p.init.timerBooks.Sound)
    (sound' : p'.init.timerBooks.Sound) : Matches key rename p p' p.init p'.init := by
  have kept := resetAll_timers p.timers p.buttons
  have kept' := resetAll_timers p'.timers p'.buttons
  constructor
  · refine .of_parts ?_ ⟨?_, ?_⟩
    · rw [buttons_init, buttons_init, List.getElem?_map, List.getElem?_map, alike.button]
      cases p.buttons[key]? <;> rfl
    · rw [liveAt_init sound, liveAt_init sound', List.map_nil]
    · exact kept'.2.trans (alike.timers.exhausted_eq.trans kept.2.symm)
  · show (resetAll _ _).2.started + _ = (resetAll _ _).2.started + _
    rw [kept.1, kept'.1, Nat.add_comm]

end Panel

namespace Bench

def PanelCommand.renamed (rename : Nat → Nat) : PanelCommand → PanelCommand
  | .timer key id => .timer key (rename id)
  | .retire id => .retire (rename id)
  | c => c

/-- One bench is like another around a place, with the timers renamed. -/
def PanelBench.Alike (key : Nat) (rename : Nat → Nat) (b b' : PanelBench) : Prop :=
  b'.around key = (b.around key).renamed rename

/-- A command comes to the same in two benches, but for the names of the timers of one button. -/
structure Matches (key : Nat) (rename : Nat → Nat) (b b' : PanelBench) (c : PanelCommand) :
    Prop where
  reply_eq : ((c.renamed rename).run b').1 = (c.run b).1
  alike : (c.run b).2.Alike key rename ((c.renamed rename).run b').2
  started_eq :
    ((c.renamed rename).run b').2.panel.timers.started + b.panel.timers.started =
      (c.run b).2.panel.timers.started + b'.panel.timers.started

variable {key : Nat} {rename : Nat → Nat} {b b' : PanelBench} {c : PanelCommand}

namespace PanelBench.Alike

theorem of_parts (panel : b.panel.Alike key rename b'.panel)
    (configs : b'.panel.configs = b.panel.configs) (clock : b'.clock = b.clock)
    (thresholdMs : b'.thresholdMs = b.thresholdMs) : b.Alike key rename b' := by
  rw [Panel.Alike] at panel
  simp only [Alike, around, Surroundings.renamed, panel, configs, clock, thresholdMs]

variable (alike : b.Alike key rename b')
include alike

theorem panel : b.panel.Alike key rename b'.panel := congrArg Surroundings.corner alike

theorem configs : b'.panel.configs = b.panel.configs := congrArg Surroundings.configs alike

theorem clock : b'.clock = b.clock := congrArg Surroundings.clock alike

theorem thresholdMs : b'.thresholdMs = b.thresholdMs := congrArg Surroundings.thresholdMs alike

theorem wired (gpio : UInt8) :
    b'.panel.buttons.findIdx? (·.config.gpio == gpio) =
      b.panel.buttons.findIdx? (·.config.gpio == gpio) := by
  rw [Panel.findIdx?_gpio, Panel.findIdx?_gpio, alike.configs]

theorem keyed (id : UInt8) :
    b'.panel.buttons.findIdx (·.config.id == id) = b.panel.buttons.findIdx (·.config.id == id) := by
  rw [Panel.findIdx_id, Panel.findIdx_id, alike.configs]

end PanelBench.Alike

theorem Matches.of_panel (alike : b.Alike key rename b')
    (reply : ((c.renamed rename).run b').1 = (c.run b).1)
    (panel : Panel.Matches key rename b.panel b'.panel (c.run b).2.panel
      ((c.renamed rename).run b').2.panel)
    (clock : ((c.renamed rename).run b').2.clock = (c.run b).2.clock)
    (thresholdMs : ((c.renamed rename).run b').2.thresholdMs = (c.run b).2.thresholdMs) :
    Matches key rename b b' c where
  reply_eq := reply
  alike := by
    refine .of_parts panel.alike ?_ clock thresholdMs
    have configured : (c.renamed rename).configured = c.configured := by cases c <;> rfl
    rw [configs_run, configs_run, configured, alike.configs]
  started_eq := panel.started_eq

theorem collected_of_handsOver {event : Option ButtonEvent} {after : List Button}
    (collection : Panel.Collection b.panel.buttons event after)
    {answer : Option ButtonEvent → Reply}
    (answers : ∀ event e, answer event = .event e ↔ event = some e)
    (handed : b.handsOver key (answer event) = true) :
    ∃ button, b.panel.buttons[key]? = some button ∧ event = some button.event ∧
      after = b.panel.buttons.modify key Button.collected := by
  cases collection with
  | empty =>
    have silent : ∀ e, answer none ≠ .event e := fun e => mt (answers none e).1 (by simp)
    generalize answer none = reply at silent handed
    cases reply <;> simp_all [PanelBench.handsOver]
  | first place button first found =>
    rw [(answers _ _).2 rfl, handsOver_event first found key] at handed
    obtain rfl : place = key := by simpa using handed
    exact ⟨button, found, rfl, rfl⟩

theorem matches_collection (alike : b.Alike key rename b') {event event' : Option ButtonEvent}
    {p p' : Panel} (collection : Panel.Collection b.panel.buttons event p.buttons)
    (timers : p.timers = b.panel.timers)
    (collection' : Panel.Collection b'.panel.buttons event' p'.buttons)
    (timers' : p'.timers = b'.panel.timers) {answer : Option ButtonEvent → Reply}
    (answers : ∀ event e, answer event = .event e ↔ event = some e)
    (handed : b.handsOver key (answer event) = true)
    (handed' : b'.handsOver key (answer event') = true) :
    event' = event ∧ Panel.Matches key rename b.panel b'.panel p p' := by
  obtain ⟨button, found, rfl, after⟩ := collected_of_handsOver collection answers handed
  obtain ⟨button', found', rfl, after'⟩ := collected_of_handsOver collection' answers handed'
  have renamed := (alike.panel.found found).symm.trans found'
  obtain rfl := Option.some.inj renamed
  have same : ∀ b : Button, (b.renamed rename).collected = b.collected.renamed rename :=
    fun _ => rfl
  exact ⟨rfl, .modify alike.panel same after timers after' timers'⟩

theorem run_fire {t : Timer} (live : b.panel.timers.liveFor? key = some t) :
    (PanelCommand.fire key).run b =
      (.flag (b.panel.timer key t.id b.clock.toNat b.thresholdMs.toNat).1,
        { b with panel := (b.fire key).2.panel }) := by
  simp only [PanelCommand.run]
  rw [fire_frame]
  simp only [PanelBench.fire, live, Reply.ofOption]

theorem matches_fire (injective : Function.Injective rename) (alike : b.Alike key rename b')
    (fresh : (b.fire key).2.panel.timers.started ≠ b.panel.timers.started →
      rename (b.panel.timers.started + 1) = b'.panel.timers.started + 1) :
    Matches key rename b b' (.fire key) := by
  have live_eq := alike.panel.liveFor?_eq
  cases live : b.panel.timers.liveFor? key with
  | none =>
    rw [live, Option.map_none] at live_eq
    have run : (PanelCommand.fire key).run b = (.absent, b) := by
      simp only [PanelCommand.run, PanelBench.fire, live, Reply.ofOption]
    have run' : (PanelCommand.fire key).run b' = (.absent, b') := by
      simp only [PanelCommand.run, PanelBench.fire, live_eq, Reply.ofOption]
    apply Matches.of_panel alike <;> simp only [PanelCommand.renamed, run, run']
    · exact .same alike.panel
    · exact alike.clock
    · exact alike.thresholdMs
  | some t =>
    rw [live, Option.map_some] at live_eq
    rw [started_fire live] at fresh
    obtain ⟨goes_on, matched⟩ := Panel.matches_timer injective alike.panel
      (congrArg UInt64.toNat alike.clock) (congrArg UInt32.toNat alike.thresholdMs) fresh
    apply Matches.of_panel alike <;>
      simp only [PanelCommand.renamed, run_fire live, run_fire live_eq]
    · exact congrArg Reply.flag goes_on
    · rw [fire_panel live, fire_panel live_eq]
      have number : (t.renamed rename).id = rename t.id := rfl
      have mode : (t.renamed rename).mode = t.mode := rfl
      rw [number]
      generalize b.panel.timer key t.id b.clock.toNat b.thresholdMs.toNat = r,
        b'.panel.timer key (rename t.id) b'.clock.toNat b'.thresholdMs.toNat = r'
        at goes_on matched ⊢
      simp only [goes_on, mode]
      by_cases ended : t.mode = .oneShot ∨ r.1 = false
      · simp only [if_pos ended]
        exact matched.cancel injective t.id
      · simp only [if_neg ended]
        exact matched
    · exact alike.clock
    · exact alike.thresholdMs

theorem matches_setClock (alike : b.Alike key rename b') {next : Option UInt64}
    (run : c.run b = b.setClock next) (run' : (c.renamed rename).run b' = b'.setClock next) :
    Matches key rename b b' c := by
  have still := Panel.Matches.same alike.panel
  cases next with
  | none =>
    apply Matches.of_panel alike <;> rw [run, run']
    · rfl
    · exact still
    · exact alike.clock
    · exact alike.thresholdMs
  | some clock =>
    apply Matches.of_panel alike <;> rw [run, run']
    · rfl
    · exact still
    · rfl
    · exact alike.thresholdMs

theorem matches_sleep (alike : b.Alike key rename b') (ms : Nat) :
    Matches key rename b b' (.sleep ms) := by
  have still := Panel.Matches.same alike.panel
  have next' : Micros.after? b'.clock (1000 * ms) = Micros.after? b.clock (1000 * ms) := by
    rw [alike.clock]
  apply Matches.of_panel alike <;>
    simp only [PanelCommand.renamed, PanelCommand.run, PanelBench.sleep, next'] <;>
    cases Micros.after? b.clock (1000 * ms)
  · rfl
  · rfl
  · exact still
  · exact ⟨still.alike, still.started_eq⟩
  · exact alike.clock
  · rfl
  · exact alike.thresholdMs
  · exact alike.thresholdMs

theorem matches_wait (alike : b.Alike key rename b') (here : b.concerns key .wait = true)
    (here' : b'.concerns key .wait = true) : Matches key rename b b' .wait := by
  have run := run_wait b
  have run' := run_wait b'
  simp only [PanelBench.concerns, run, run'] at here here'
  obtain ⟨event, matched⟩ := matches_collection alike (b.panel.poll_collection _)
    (b.panel.timers_poll _) (b'.panel.poll_collection _) (b'.panel.timers_poll _) waitReply_event
    here here'
  apply Matches.of_panel alike <;> simp only [PanelCommand.renamed, run, run']
  · exact congrArg waitReply event
  · exact matched
  · exact alike.clock
  · exact alike.thresholdMs

/-- What concerns a button comes to the same in both benches, as long as a timer that is started
gets its new name. -/
theorem matches_run (injective : Function.Injective rename) (alike : b.Alike key rename b')
    (sound : TimersSound b) (sound' : TimersSound b') (here : b.concerns key c = true)
    (here' : b'.concerns key (c.renamed rename) = true)
    (fresh : (c.run b).2.panel.timers.started ≠ b.panel.timers.started →
      rename (b.panel.timers.started + 1) = b'.panel.timers.started + 1) :
    Matches key rename b b' c := by
  have panel := alike.panel
  have still := Panel.Matches.same panel
  cases c with
  | init =>
    have matched := Panel.matches_init panel (sound.run .init).books (sound'.run .init).books
    exact .of_panel alike rfl matched alike.clock alike.thresholdMs
  | edge gpio =>
    have wired : b.panel.buttons.findIdx? (·.config.gpio == gpio) = some key := by
      simpa [PanelBench.concerns] using here
    have matched :=
      Panel.matches_edge injective panel wired ((alike.wired gpio).trans wired) fresh
    exact .of_panel alike rfl matched alike.clock alike.thresholdMs
  | timer place id =>
    obtain rfl : place = key := by simpa [PanelBench.concerns] using here
    obtain ⟨goes_on, matched⟩ := Panel.matches_timer injective panel
      (congrArg UInt64.toNat alike.clock) (congrArg UInt32.toNat alike.thresholdMs) fresh
    exact .of_panel alike (congrArg Reply.flag goes_on) matched alike.clock alike.thresholdMs
  | fire place =>
    obtain rfl : place = key := by simpa [PanelBench.concerns] using here
    exact matches_fire injective alike fresh
  | setDown place down =>
    have matched := Panel.matches_changePin panel place fun p => { p with isDown := down }
    exact .of_panel alike rfl matched alike.clock alike.thresholdMs
  | setFailing place failing =>
    have matched := Panel.matches_changePin panel place fun p => { p with failing }
    exact .of_panel alike rfl matched alike.clock alike.thresholdMs
  | retire id =>
    exact .of_panel alike rfl (still.cancel injective id) alike.clock alike.thresholdMs
  | exhaust exhausted =>
    have exhausts : Panel.Alike key rename
        { b.panel with timers.exhausted := exhausted }
        { b'.panel with timers.exhausted := exhausted } :=
      .of_parts panel.button ⟨panel.timers.live_eq, rfl⟩
    exact .of_panel alike rfl ⟨exhausts, Nat.add_comm ..⟩ alike.clock alike.thresholdMs
  | advance us =>
    have run : (PanelCommand.advance us).run b = b.setClock (Micros.after? b.clock us) := rfl
    refine matches_setClock alike run ?_
    rw [← alike.clock]
    rfl
  | setClock ms => exact matches_setClock alike rfl rfl
  | sleep ms => exact matches_sleep alike ms
  | setThreshold ms => exact .of_panel alike rfl still alike.clock rfl
  | take =>
    obtain ⟨event, matched⟩ := matches_collection alike b.panel.take_collection rfl
      b'.panel.take_collection rfl ofOption_event here here'
    exact .of_panel alike (congrArg (Reply.ofOption .event) event) matched alike.clock
      alike.thresholdMs
  | wait => exact matches_wait alike here here'
  | setValue id value =>
    have matched := Panel.matches_configure panel (alike.keyed id) fun c => { c with value }
    exact .of_panel alike rfl matched alike.clock alike.thresholdMs
  | setColor id color =>
    have matched := Panel.matches_configure panel (alike.keyed id) fun c => { c with color }
    exact .of_panel alike rfl matched alike.clock alike.thresholdMs
  | _ => simp [PanelBench.concerns] at here

end Bench

end Keypad
