import Keypad.Bench.Features
import Keypad.Proofs.Tracker.Operations

namespace Keypad

namespace Bench

variable {g : Geometry} {d : Device g}

/-- What every single tick keeps, several ticks keep. -/
theorem ticks_induction {P : Device g → Prop}
    {tick : Device g → Except CounterOverflow Unit × Device g}
    (ticked : ∀ d, P d → P (tick d).2) (times : Nat) (before : P d) : P (ticks tick times d).2 := by
  induction times generalizing d with
  | zero => exact before
  | succ n ih =>
    have first := ticked d before
    rw [ticks]
    generalize tick d = r at first ⊢
    obtain ⟨_ | _, between⟩ := r
    · exact first
    · exact ih first

end Bench

namespace Tracker

variable {g : Geometry} {d d' : Device g}

theorem pressAll_induction {P : Device g → Prop}
    (pressed : ∀ d event, P d → P (press d event).2) (events : List ButtonEvent) (before : P d) :
    P (pressAll d events).2 := by
  induction events generalizing d with
  | nil => exact before
  | cons event rest ih =>
    have first := pressed d event before
    rw [pressAll]
    generalize press d event = r at first ⊢
    obtain ⟨_ | _, between⟩ := r
    · exact first
    · exact ih first

/-- A tick that overflows a counter leaves all as it was. -/
theorem tick_cases (d : Device g) : Ticked d (tick d).2 ∨ (tick d).2 = d := by
  cases answer : (tick d).1 with
  | ok u => exact .inl (tick_ticked (Prod.ext answer rfl))
  | error e =>
    right
    simp only [tick] at answer ⊢
    split
    · next tracked =>
      rw [if_pos tracked] at answer
      cases ticked : d.tracker.table.current.ticked? with
      | none => rfl
      | some s =>
        simp only [ticked] at answer ⊢
        cases total : s.trackedMs? with
        | none => rfl
        | some ms =>
          simp only [total] at answer
          generalize reach d.tracker.table ms s = reached at answer
          obtain ⟨_ | color, s'⟩ := reached <;> contradiction
    · rfl

/-- What lies beyond the time tracker: which feature is chosen, and the host with its reports. -/
def beyond (d : Device g) : ActiveFeature × Host × Bool := (d.active, d.host, d.keyReported)

theorem beyond_eq_iff :
    beyond d' = beyond d ↔
      d'.active = d.active ∧ d'.host = d.host ∧ d'.keyReported = d.keyReported := by
  rw [beyond, beyond, Prod.mk.injEq, Prod.mk.injEq]

theorem beyond_load (d : Device g) : beyond (load d) = beyond d := by
  simp only [load, Device.onStore_eq]
  generalize d.settings.store.get (α := SessionTable) .sessionTable = r
  obtain ⟨_ | table, store⟩ := r
  · rfl
  · simp only
    split <;> rfl

theorem beyond_stopTracking (d : Device g) : beyond (stopTracking d) = beyond d := by
  simp only [stopTracking]
  split
  · rfl
  · split <;> rfl

theorem beyond_dateSession (d : Device g) : beyond (dateSession d) = beyond d := by
  simp only [dateSession]
  split <;> rfl

theorem beyond_start (d : Device g) : beyond (start d) = beyond d := by
  have stopped := (beyond_stopTracking (darken (load d))).trans (beyond_load d)
  have dated := beyond_dateSession ((stopTracking (darken (load d))).light (.mode .byFeature))
  unfold start
  generalize stopTracking (darken (load d)) = e at stopped dated ⊢
  exact dated.trans stopped

theorem settings_stopTracking (d : Device g) : (stopTracking d).settings = d.settings := by
  simp only [stopTracking]
  split
  · rfl
  · split <;> rfl

theorem settings_dateSession (d : Device g) : (dateSession d).settings = d.settings := by
  simp only [dateSession]
  split <;> rfl

theorem input_start (d : Device g) : (start d).settings.input = d.settings.input := by
  have loaded : (load d).settings.input = d.settings.input := by
    simp only [load, Device.onStore_eq]
    generalize d.settings.store.get (α := SessionTable) .sessionTable = r
    obtain ⟨_ | table, store⟩ := r
    · rfl
    · simp only
      split <;> rfl
  have dark : (darken (load d)).settings.input = d.settings.input := loaded
  unfold start
  generalize darken (load d) = e at dark ⊢
  show (dateSession ((stopTracking e).light (.mode .byFeature))).settings.input = _
  rw [settings_dateSession, ← dark, ← settings_stopTracking e]
  rfl

theorem beyond_openSession (d : Device g) : beyond (openSession d).2 = beyond d :=
  beyond_stopTracking d

theorem beyond_toggle (d : Device g) (work : Bool) : beyond (toggle d work) = beyond d := by
  simp only [toggle]
  split
  · rfl
  · split <;> rfl

theorem beyond_showHours (d : Device g) : beyond (showHours d).2 = beyond d := by
  simp only [showHours]
  split
  · rfl
  · split <;> rfl

theorem beyond_press (d : Device g) (event : ButtonEvent) :
    beyond (press d event).2 = beyond d := by
  have dated := beyond_dateSession d
  simp only [press]
  generalize dateSession d = between at dated ⊢
  rw [← dated]
  split
  · split
    · exact beyond_openSession between
    · exact beyond_showHours between
  · split
    · rfl
    · split
      · exact beyond_toggle between true
      · split
        · exact beyond_toggle between false
        · rfl

theorem beyond_handle (d : Device g) : beyond (handle d).2 = beyond d :=
  pressAll_induction (P := fun d' => beyond d' = beyond d)
    (fun d' event before => (beyond_press d' event).trans before) _ rfl

theorem beyond_tick (d : Device g) : beyond (tick d).2 = beyond d := by
  simp only [tick]
  split
  · split
    · rfl
    · split
      · rfl
      · split <;> (simp only [countTick]; split <;> rfl)
  · rfl

theorem running_start (d : Device g) : (start d).tracker.running = true := by
  obtain ⟨e, -, starts⟩ := start_retouches d
  rw [starts]

theorem Pressed.running {event : ButtonEvent} (pressed : Pressed d event d') :
    d'.tracker.running = d.tracker.running := by
  cases pressed with
  | retouched _ retouches => exact retouches.running
  | opened _ _ opens =>
    obtain ⟨⟨_, _, saves⟩, _⟩ := opens
    rw [saves.tracker_eq]

theorem Ticked.running (ticked : Ticked d d') : d'.tracker.running = d.tracker.running := by
  cases ticked with
  | idle _ same => rw [same]
  | counted _ _ _ _ tracker => rw [tracker]
  | saved _ _ _ _ saves => rw [saves.tracker_eq]

theorem running_handle (d : Device g) : (handle d).2.tracker.running = d.tracker.running :=
  pressAll_induction (P := fun d' => d'.tracker.running = d.tracker.running)
    (fun d' event before => (press_pressed d' event).running.trans before) _ rfl

theorem running_tick (d : Device g) : (tick d).2.tracker.running = d.tracker.running := by
  cases tick_cases d with
  | inl ticked => exact ticked.running
  | inr same => rw [same]

theorem Pressed.keeps {event : ButtonEvent} (healthy : d.settings.store.Healthy)
    (pressed : Pressed d event d') : d.settings.store.Keeps .sessionTable d'.settings.store := by
  cases pressed with
  | retouched _ retouches =>
    rw [retouches.store]
    exact healthy.keeps _
  | opened _ _ opens =>
    obtain ⟨⟨_, _, saves⟩, _⟩ := opens
    exact (saves.saved healthy).keeps

theorem Ticked.keeps (healthy : d.settings.store.Healthy) (ticked : Ticked d d') :
    d.settings.store.Keeps .sessionTable d'.settings.store := by
  cases ticked with
  | idle _ same =>
    rw [same]
    exact healthy.keeps _
  | counted _ _ _ _ _ store _ =>
    rw [store]
    exact healthy.keeps _
  | saved _ _ _ _ saves => exact (saves.saved healthy).keeps

theorem handle_keeps (healthy : d.settings.store.Healthy) :
    d.settings.store.Keeps .sessionTable (handle d).2.settings.store := by
  apply pressAll_induction
    (P := fun d' => d.settings.store.Keeps .sessionTable d'.settings.store)
  · intro d' event before
    exact before.trans ((press_pressed d' event).keeps before.healthy)
  · exact healthy.keeps _

theorem tick_keeps (healthy : d.settings.store.Healthy) :
    d.settings.store.Keeps .sessionTable (tick d).2.settings.store := by
  cases tick_cases d with
  | inl ticked => exact ticked.keeps healthy
  | inr same =>
    rw [same]
    exact healthy.keeps _

theorem command_keeps (healthy : d.settings.store.Healthy) (command : Bench.TrackerCommand) :
    d.settings.store.Keeps .sessionTable (command.run d).2.settings.store := by
  cases command with
  | start => exact (start_stores healthy).1
  | stop => exact ((stop_saves d).saved healthy).keeps
  | factoryReset => exact (healthy.save (by decide) .sessionTable SessionTable.factory).2.keeps
  | tick times =>
    apply Bench.ticks_induction
      (P := fun d' => d.settings.store.Keeps .sessionTable d'.settings.store)
    · exact fun d' before => before.trans (tick_keeps before.healthy)
    · exact healthy.keeps _
  | handle => exact handle_keeps healthy
  | openSession =>
    obtain ⟨⟨_, _, saves⟩, _⟩ := openSession_opens d
    exact (saves.saved healthy).keeps
  | setMediumMs ms => exact ((setMediumMs_saves d ms).saved healthy).keeps
  | setLongMs ms => exact ((setLongMs_saves d ms).saved healthy).keeps
  | log | active | session | table => exact healthy.keeps _

theorem command_beyond (d : Device g) (command : Bench.TrackerCommand) :
    beyond (command.run d).2 = beyond d := by
  cases command with
  | start => exact beyond_start d
  | tick times =>
    exact Bench.ticks_induction (P := fun d' => beyond d' = beyond d)
      (fun d' before => (beyond_tick d').trans before) times rfl
  | handle => exact beyond_handle d
  | openSession => exact beyond_openSession d
  | stop | factoryReset | setMediumMs | setLongMs | log | active | session | table => rfl

end Tracker

end Keypad
