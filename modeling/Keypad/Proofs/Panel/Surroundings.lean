import Keypad.Proofs.Panel.Renaming
import Keypad.Proofs.Panel.Wakeups

namespace Keypad

/-- What a button has to itself of a panel, and whether there are timers left. -/
structure Corner where
  button : Option Button
  live : List Timer
  exhausted : Bool

def Corner.renamed (rename : Nat → Nat) (c : Corner) : Corner :=
  { c with
    button := c.button.map (Button.renamed rename)
    live := c.live.map (Timer.renamed rename) }

namespace Panel

def configs (p : Panel) : List ButtonConfig := p.buttons.map (·.config)

theorem findIdx?_gpio (p : Panel) (gpio : UInt8) :
    p.buttons.findIdx? (·.config.gpio == gpio) = p.configs.findIdx? (·.gpio == gpio) := by
  rw [configs, List.findIdx?_map]
  rfl

theorem findIdx_id (p : Panel) (id : UInt8) :
    p.buttons.findIdx (·.config.id == id) = p.configs.findIdx (·.id == id) := by
  rw [configs, List.findIdx_map]
  rfl

def corner (p : Panel) (key : Nat) : Corner where
  button := p.buttons[key]?
  live := p.timers.liveAt key
  exhausted := p.timers.exhausted

variable {p p' : Panel} {key place : Nat} {b b' : Button}

theorem corner_congr (buttons : p'.buttons = p.buttons) (timers : p'.timers = p.timers)
    (key : Nat) : p'.corner key = p.corner key := by
  rw [corner, corner, buttons, timers]

theorem corner_set (apart : place ≠ key) (buttons : p'.buttons = p.buttons.set place b)
    (live : p'.timers.liveAt key = p.timers.liveAt key)
    (exhausted : p'.timers.exhausted = p.timers.exhausted) : p'.corner key = p.corner key := by
  rw [corner, corner, buttons, live, exhausted, List.getElem?_set_ne apart]

theorem corner_modify (apart : place ≠ key) {f : Button → Button}
    (buttons : p'.buttons = p.buttons.modify place f) (timers : p'.timers = p.timers) :
    p'.corner key = p.corner key := by
  rw [corner, corner, buttons, timers]
  simp [apart]

/-- No place has a live timer that another place holds. -/
theorem absent_beside (sound : p.timerBooks.Sound) {t : Timer}
    (held : heldTimers p.buttons place = some t) (apart : place ≠ key) :
    ∀ u ∈ p.timers.liveAt key, u.id ≠ t.id := by
  intro u live same
  obtain ⟨member, rfl⟩ := TimerQueue.mem_liveAt.1 live
  exact apart (sound.unshared place u.key t u held (sound.live_held u member) same.symm)

theorem liveAt_release_beside (sound : p.timerBooks.Sound) (found : p.buttons[place]? = some b)
    (apart : place ≠ key) : (p.timers.release b.timer).liveAt key = p.timers.liveAt key := by
  cases timer : b.timer with
  | none => rfl
  | some id =>
    obtain ⟨t, held, rfl⟩ := Button.exists_held timer place
    have held := (heldTimers_of_getElem? found).trans held
    exact TimerQueue.liveAt_cancel_of_absent (absent_beside sound held apart)

theorem corner_edge_beside (sound : p.timerBooks.Sound) {gpio : UInt8}
    (apart : p.buttons.findIdx? (·.config.gpio == gpio) ≠ some key) :
    (p.edge gpio).corner key = p.corner key := by
  have edge := p.edge_edge gpio
  generalize p.edge gpio = after at edge ⊢
  cases edge with
  | ignored => rfl
  | started place b wired found accepted available =>
    have apart : place ≠ key := fun here => apart (here ▸ wired)
    exact corner_set apart rfl (p.timers.liveAt_start_beside apart ..) (p.timers.exhausted_start ..)
  | refused place b wired found accepted exhausted =>
    have apart : place ≠ key := fun here => apart (here ▸ wired)
    refine corner_set apart rfl (liveAt_release_beside sound found apart) ?_
    cases b.timer <;> rfl

theorem corner_timer_beside (sound : p.timerBooks.Sound) (apart : place ≠ key)
    (id now thresholdMs : Nat) :
    (p.timer place id now thresholdMs).2.corner key = p.corner key := by
  have released : ∀ {b : Button}, p.buttons[place]? = some b → b.timer = some id →
      (p.timers.cancel id).liveAt key = p.timers.liveAt key := by
    intro b found timer
    have kept := liveAt_release_beside sound found apart
    rwa [timer] at kept
  have expired := p.expire_expired place id now thresholdMs
  rw [corner_congr (p.buttons_timer ..) (p.timers_timer ..)]
  generalize (p.expire place id now thresholdMs).1 = expiry,
    (p.expire place id now thresholdMs).2 = after at expired ⊢
  cases expired with
  | stale stale => rfl
  | held b since found debouncing timer watched low short => rfl
  | watched b found debouncing timer unwatched low available =>
    refine corner_set apart rfl ?_ ((p.timers.cancel id).exhausted_start ..)
    exact ((p.timers.cancel id).liveAt_start_beside apart ..).trans (released found timer)
  | unwatched b found debouncing timer unwatched low exhausted =>
    exact corner_set apart rfl (released found timer) rfl
  | released b found debouncing timer high =>
    exact corner_set apart rfl (released found timer) rfl
  | long b since found debouncing timer watched low long =>
    exact corner_set apart rfl (released found timer) rfl

theorem resetAll_timers (q : TimerQueue) (bs : List Button) :
    (resetAll q bs).2.started = q.started ∧ (resetAll q bs).2.exhausted = q.exhausted := by
  induction bs generalizing q with
  | nil => exact ⟨rfl, rfl⟩
  | cons b rest ih =>
    obtain ⟨started, exhausted⟩ := ih (b.reset q).2
    cases timer : b.timer <;>
      simp only [resetAll, Button.reset, TimerQueue.release, timer] at started exhausted ⊢ <;>
      exact ⟨started, exhausted⟩

theorem started_edge (p : Panel) (gpio : UInt8) :
    (p.edge gpio).timers.started = p.timers.started ∨
      (p.edge gpio).timers.started = p.timers.started + 1 ∧
        ∃ key, p.buttons.findIdx? (·.config.gpio == gpio) = some key := by
  have edge := p.edge_edge gpio
  generalize p.edge gpio = after at edge ⊢
  cases edge with
  | ignored => exact .inl rfl
  | started place b wired found accepted available =>
    exact .inr ⟨TimerQueue.started_start available .., place, wired⟩
  | refused place b wired found accepted exhausted => exact .inl (Bench.started_release ..)

theorem started_timer (p : Panel) (key id now thresholdMs : Nat) :
    (p.timer key id now thresholdMs).2.timers.started = p.timers.started ∨
      (p.timer key id now thresholdMs).2.timers.started = p.timers.started + 1 ∧
        ∃ t, heldTimers p.buttons key = some t ∧ t.id = id := by
  have expired := p.expire_expired key id now thresholdMs
  rw [timers_timer]
  generalize (p.expire key id now thresholdMs).1 = expiry,
    (p.expire key id now thresholdMs).2 = after at expired ⊢
  cases expired with
  | watched b found debouncing timer unwatched low available =>
    have left : (p.timers.cancel id).exhausted = false := available
    rw [heldTimers_of_getElem? found]
    exact .inr ⟨TimerQueue.started_start left .., Button.exists_held timer key⟩
  | _ => exact .inl rfl

section Configs

theorem configs_modify {f : Button → Button} {g : ButtonConfig → ButtonConfig}
    (buttons : p'.buttons = p.buttons.modify place f) (same : ∀ b, (f b).config = g b.config) :
    p'.configs = p.configs.modify place g := by
  rw [configs, configs, buttons]
  apply List.ext_getElem?
  intro key
  rw [List.getElem?_map, List.getElem?_modify, List.getElem?_modify, List.getElem?_map]
  cases p.buttons[key]? with
  | none => rfl
  | some b =>
    by_cases here : place = key
    · simp [here, same]
    · simp [here]

theorem configs_set (found : p.buttons[place]? = some b)
    (buttons : p'.buttons = p.buttons.set place b') (same : b'.config = b.config) :
    p'.configs = p.configs := by
  obtain ⟨within, rfl⟩ := List.getElem?_eq_some_iff.1 found
  rw [configs, configs, buttons, List.map_set, same, ← List.map_set, List.set_getElem_self]

theorem configs_edge (p : Panel) (gpio : UInt8) : (p.edge gpio).configs = p.configs := by
  have edge := p.edge_edge gpio
  generalize p.edge gpio = after at edge ⊢
  cases edge with
  | ignored => rfl
  | started place b wired found accepted available => exact configs_set found rfl rfl
  | refused place b wired found accepted exhausted => exact configs_set found rfl rfl

theorem configs_timer (p : Panel) (key id now thresholdMs : Nat) :
    (p.timer key id now thresholdMs).2.configs = p.configs := by
  have expired := p.expire_expired key id now thresholdMs
  rw [configs, buttons_timer, ← configs]
  generalize (p.expire key id now thresholdMs).1 = expiry,
    (p.expire key id now thresholdMs).2 = after at expired ⊢
  cases expired with
  | stale stale => rfl
  | held b since found debouncing timer watched low short => rfl
  | watched b found debouncing timer unwatched low available => exact configs_set found rfl rfl
  | unwatched b found debouncing timer unwatched low exhausted => exact configs_set found rfl rfl
  | released b found debouncing timer high => exact configs_set found rfl rfl
  | long b since found debouncing timer watched low long => exact configs_set found rfl rfl

theorem configs_init (p : Panel) : p.init.configs = p.configs := by
  rw [configs, buttons_init, List.map_map]
  rfl

theorem configs_changePin (p : Panel) (place : Nat) (f : Pin → Pin) :
    (p.changePin place f).configs = p.configs := by
  have buttons : (p.changePin place f).buttons =
      p.buttons.modify place fun b => { b with pin := f b.pin } := rfl
  have kept := configs_modify (g := id) buttons fun _ => rfl
  rwa [List.modify_id] at kept

theorem Collection.configs_eq {event : Option ButtonEvent}
    (collection : Collection p.buttons event p'.buttons) : p'.configs = p.configs := by
  generalize after_eq : p'.buttons = after at collection
  cases collection with
  | empty => rw [configs, configs, after_eq]
  | first place b first found =>
    have kept := configs_modify (g := id) after_eq fun _ => rfl
    rwa [List.modify_id] at kept

end Configs

end Panel

namespace Bench

structure Surroundings where
  corner : Corner
  configs : List ButtonConfig
  clock : UInt64
  thresholdMs : UInt32

def Surroundings.renamed (rename : Nat → Nat) (s : Surroundings) : Surroundings :=
  { s with corner := s.corner.renamed rename }

def PanelBench.around (b : PanelBench) (key : Nat) : Surroundings where
  corner := b.panel.corner key
  configs := b.panel.configs
  clock := b.clock
  thresholdMs := b.thresholdMs

/-- Whether a command concerns the button at a place. An edge concerns the first button of its pin,
and a collection the button whose press it hands over. What is set for the whole panel concerns
every button, and so does what is set by key, and a timer that is taken away. -/
def PanelBench.concerns (b : PanelBench) (key : Nat) : PanelCommand → Bool
  | .edge gpio => b.panel.buttons.findIdx? (·.config.gpio == gpio) == some key
  | .timer place _ | .fire place | .setDown place _ | .setFailing place _ => place == key
  | .take => b.handsOver key (PanelCommand.take.run b).1
  | .wait => b.handsOver key (PanelCommand.wait.run b).1
  | .init | .retire _ | .exhaust _ | .advance _ | .setClock _ | .sleep _ | .setThreshold _
  | .setValue _ _ | .setColor _ _ => true
  | _ => false

def PanelCommand.configured : PanelCommand → List ButtonConfig → List ButtonConfig
  | .setValue key value, configs =>
    configs.modify (configs.findIdx (·.id == key)) fun c => { c with value }
  | .setColor key color, configs =>
    configs.modify (configs.findIdx (·.id == key)) fun c => { c with color }
  | _, configs => configs

variable {b : PanelBench} {key place : Nat}

theorem fire_frame (b : PanelBench) (key : Nat) :
    (b.fire key).2 = { b with panel := (b.fire key).2.panel } := by
  unfold PanelBench.fire
  split <;> rfl

theorem started_fire {t : Timer} (live : b.panel.timers.liveFor? key = some t) :
    (b.fire key).2.panel.timers.started =
      (b.panel.timer key t.id b.clock.toNat b.thresholdMs.toNat).2.timers.started := by
  rw [fire_panel live]
  simp only
  split <;> rfl

theorem configs_fire (b : PanelBench) (key : Nat) :
    (b.fire key).2.panel.configs = b.panel.configs := by
  cases live : b.panel.timers.liveFor? key with
  | none => simp only [PanelBench.fire, live]
  | some t =>
    rw [Panel.configs, buttons_fire live]
    exact b.panel.configs_timer key t.id b.clock.toNat b.thresholdMs.toNat

theorem configs_run (b : PanelBench) (c : PanelCommand) :
    (c.run b).2.panel.configs = c.configured b.panel.configs := by
  cases c with
  | init => exact b.panel.configs_init
  | setDown place down => exact b.panel.configs_changePin place fun p => { p with isDown := down }
  | setFailing place failing => exact b.panel.configs_changePin place fun p => { p with failing }
  | edge gpio => exact b.panel.configs_edge gpio
  | timer key id => exact b.panel.configs_timer key id b.clock.toNat b.thresholdMs.toNat
  | fire key => exact configs_fire b key
  | advance | setClock | sleep =>
    rw [Panel.configs, (onlyClock_run b rfl).buttons]
    rfl
  | take => exact b.panel.take_collection.configs_eq
  | wait =>
    rw [run_wait]
    exact (b.panel.poll_collection _).configs_eq
  | setValue key value =>
    rw [PanelCommand.configured, ← Panel.findIdx_id]
    exact Panel.configs_modify (Panel.configure_eq_modify _ key _) fun _ => rfl
  | setColor key color =>
    rw [PanelCommand.configured, ← Panel.findIdx_id]
    exact Panel.configs_modify (Panel.configure_eq_modify _ key _) fun _ => rfl
  | _ => rfl

theorem corner_fire_beside (sound : b.panel.timerBooks.Sound) (apart : place ≠ key) :
    (b.fire place).2.panel.corner key = b.panel.corner key := by
  cases live : b.panel.timers.liveFor? place with
  | none => simp only [PanelBench.fire, live]
  | some t =>
    have kept := Panel.corner_timer_beside sound apart t.id b.clock.toNat b.thresholdMs.toNat
    rw [fire_panel live]
    generalize b.panel.timer place t.id b.clock.toNat b.thresholdMs.toNat = r at kept ⊢
    by_cases ended : t.mode = .oneShot ∨ r.1 = false
    · obtain rfl : t.key = place := by simpa using List.find?_some live
      have held := sound.live_held t (List.mem_of_find?_eq_some live)
      have absent := Panel.absent_beside sound held apart
      have live_eq : r.2.timers.liveAt key = b.panel.timers.liveAt key := congrArg Corner.live kept
      rw [← live_eq] at absent
      rw [← kept]
      simp only [if_pos ended, Panel.corner, TimerQueue.liveAt_cancel_of_absent absent]
      rfl
    · rw [if_neg ended]
      exact kept

theorem corner_collection_beside {p : Panel} {event : Option ButtonEvent} {reply : Reply}
    (collection : Panel.Collection b.panel.buttons event p.buttons)
    (timers : p.timers = b.panel.timers) (answer : ∀ e, event = some e → reply = .event e)
    (beside : b.handsOver key reply = false) : p.corner key = b.panel.corner key := by
  generalize after_eq : p.buttons = after at collection
  cases collection with
  | empty => exact Panel.corner_congr after_eq timers key
  | first place button first found =>
    rw [answer _ rfl, handsOver_event first found key] at beside
    exact Panel.corner_modify (by simpa using beside) after_eq timers

theorem around_panel {p : Panel} (corner : p.corner key = b.panel.corner key)
    (configs : p.configs = b.panel.configs) :
    ({ b with panel := p } : PanelBench).around key = b.around key := by
  simp only [PanelBench.around, corner, configs]

/-- A command that does not concern a button leaves all that the button depends on alone. -/
theorem around_run_beside (sound : b.panel.timerBooks.Sound) {c : PanelCommand}
    (beside : b.concerns key c = false) : (c.run b).2.around key = b.around key := by
  have configs := configs_run b c
  cases c with
  | edge gpio =>
    have apart : b.panel.buttons.findIdx? (·.config.gpio == gpio) ≠ some key := by
      simpa [PanelBench.concerns] using beside
    exact around_panel (Panel.corner_edge_beside sound apart) configs
  | timer place id =>
    have apart : place ≠ key := by simpa [PanelBench.concerns] using beside
    exact around_panel (Panel.corner_timer_beside sound apart ..) configs
  | fire place =>
    have apart : place ≠ key := by simpa [PanelBench.concerns] using beside
    simp only [PanelCommand.run] at configs ⊢
    rw [fire_frame]
    exact around_panel (corner_fire_beside sound apart) configs
  | setDown place down =>
    have apart : place ≠ key := by simpa [PanelBench.concerns] using beside
    exact around_panel (Panel.corner_modify apart rfl rfl) configs
  | setFailing place failing =>
    have apart : place ≠ key := by simpa [PanelBench.concerns] using beside
    exact around_panel (Panel.corner_modify apart rfl rfl) configs
  | take =>
    have collection := b.panel.take_collection
    have answer := fun e => (ofOption_event b.panel.take.1 e).2
    exact around_panel (corner_collection_beside collection rfl answer beside) configs
  | wait =>
    have collection := b.panel.poll_collection (b.waiter.getD .collecting)
    have timers := b.panel.timers_poll (b.waiter.getD .collecting)
    have replied :
        b.handsOver key (waitReply (b.panel.poll (b.waiter.getD .collecting)).1) = false := by
      have handed : b.handsOver key (PanelCommand.wait.run b).1 = false := beside
      rwa [run_wait] at handed
    rw [run_wait] at configs ⊢
    refine around_panel (corner_collection_beside collection timers ?_ replied) configs
    rintro e same
    rw [same, waitReply]
  | pins | now | threshold | buttonCount | config _ | dropWaiter | isPressed _ | pressedKey
  | modifierFlags => rfl
  | _ => simp [PanelBench.concerns] at beside

structure Starts (b : PanelBench) (c : PanelCommand) : Prop where
  started_eq : (c.run b).2.panel.timers.started = b.panel.timers.started + 1
  concerned : ∃ key, b.concerns key c = true
  issued : ∀ place id, c = .timer place id → id ≤ b.panel.timers.started

theorem run_starts {b : PanelBench} (sound : b.panel.timerBooks.Sound) (c : PanelCommand) :
    (c.run b).2.panel.timers.started = b.panel.timers.started ∨ Starts b c := by
  cases c with
  | init => exact .inl (Panel.resetAll_timers ..).1
  | edge gpio =>
    refine (b.panel.started_edge gpio).imp_right ?_
    rintro ⟨started, key, wired⟩
    exact ⟨started, ⟨key, by simp [PanelBench.concerns, wired]⟩, by simp⟩
  | timer key id =>
    refine (b.panel.started_timer key id b.clock.toNat b.thresholdMs.toNat).imp_right ?_
    rintro ⟨started, t, held, rfl⟩
    refine ⟨started, ⟨key, by simp [PanelBench.concerns]⟩, ?_⟩
    rintro place id same
    obtain ⟨rfl, rfl⟩ := PanelCommand.timer.inj same
    exact sound.issued key t held
  | fire key =>
    cases live : b.panel.timers.liveFor? key with
    | none =>
      simp only [PanelCommand.run, PanelBench.fire, live, true_or]
    | some t =>
      have started := b.panel.started_timer key t.id b.clock.toNat b.thresholdMs.toNat
      rw [← started_fire live] at started
      refine started.imp_right ?_
      rintro ⟨started, -⟩
      exact ⟨started, ⟨key, by simp [PanelBench.concerns]⟩, by simp⟩
  | advance | setClock | sleep =>
    exact .inl (congrArg TimerQueue.started (onlyClock_run b rfl).timers)
  | wait =>
    rw [run_wait]
    exact .inl (congrArg TimerQueue.started (b.panel.timers_poll _))
  | _ => exact .inl rfl

end Bench

end Keypad
