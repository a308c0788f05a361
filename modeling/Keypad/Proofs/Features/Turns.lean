import Keypad.Bench.Keys
import Keypad.Proofs.Features.Clipboard
import Keypad.Proofs.Tracker.Commands

namespace Keypad

namespace ActiveFeature

def choosing (a : ActiveFeature) (feature : Feature) : ActiveFeature :=
  { a with feature, isSet := feature != .none }

@[simp] theorem current_choosing (a : ActiveFeature) (feature : Feature) :
    (a.choosing feature).current = feature := by cases feature <;> rfl

end ActiveFeature

namespace Features

variable {g : Geometry} {d : Device g}

inductive Turn where
  /-- Presses come in, time goes on, and the host comes and goes. -/
  | outside (input : Input) (today : DateTime) (ready : Bool)
  | keys (command : Bench.KeysCommand)
  | features (command : Bench.FeaturesCommand)

def Turn.run (d : Device g) : Turn → Device g
  | .outside input today ready =>
    { d with settings.input := input, today, host.ready := ready }
  | .keys command => (d.onSettings command.run).2
  | .features command => (command.run d).2

/-- What every way of changing the features keeps, a command keeps. -/
theorem command_induction {P : Device g → Prop} (init : P (init d))
    (factoryReset : P (factoryReset d)) (switchTo : ∀ feature, P (switchTo d feature))
    (handle : P (handle d).2) (tick : ∀ d, P d → P (tick d).2) (same : P d)
    (command : Bench.FeaturesCommand) : P (command.run d).2 := by
  cases command with
  | init => simpa only [Bench.FeaturesCommand.run] using init
  | factoryReset => simpa only [Bench.FeaturesCommand.run] using factoryReset
  | switchTo feature => simpa only [Bench.FeaturesCommand.run] using switchTo feature
  | switchToCode code =>
    simp only [Bench.FeaturesCommand.run, switchToCode]
    cases Feature.ofCode? code with
    | none => exact same
    | some feature => exact switchTo feature
  | handle => simpa only [Bench.FeaturesCommand.run] using handle
  | tick times => exact Bench.ticks_induction tick times same
  | log | current => exact same

/-- The clipboard comes up by settings alone, and leaves the lights to the panel. -/
theorem clipboard_start_eq (d : Device g) :
    Clipboard.start d =
      { d with
        settings := (Clipboard.start d).settings
        lights := .mode .whilePressed :: d.lights } := by
  have assigned : Clipboard.assignAll d Clipboard.keys =
      { d with settings := (Clipboard.assignAll d Clipboard.keys).settings } := by
    apply Clipboard.assignAll_induction (P := fun d' => d' = { d with settings := d'.settings })
    · intro d' key value color before
      rw [before]
      rfl
    · rfl
  rw [Clipboard.settings_start]
  show (Clipboard.assignAll d Clipboard.keys).light (.mode .whilePressed) = _
  generalize Clipboard.assignAll d Clipboard.keys = e at assigned ⊢
  rw [assigned]
  rfl

theorem clipboard_send_eq (d : Device g) (code : Option UInt8) (modifiers : UInt8) :
    ∃ host keyReported, Clipboard.send d code modifiers = { d with host, keyReported } := by
  unfold Clipboard.send
  split
  · split
    · exact ⟨_, _, rfl⟩
    · dsimp only
      split
      · exact ⟨_, _, rfl⟩
      · exact ⟨_, _, rfl⟩
  · exact ⟨_, _, rfl⟩

theorem beyond_start (d : Device g) (feature : Feature) :
    Tracker.beyond (start d feature) = Tracker.beyond d := by
  cases feature with
  | clipboard =>
    show Tracker.beyond (Clipboard.start d) = _
    rw [clipboard_start_eq]
    exact Tracker.beyond_eq_iff.2 ⟨rfl, rfl, rfl⟩
  | timeTracker => exact Tracker.beyond_start d
  | none => rfl

theorem active_start (d : Device g) (feature : Feature) : (start d feature).active = d.active :=
  (Tracker.beyond_eq_iff.1 (beyond_start d feature)).1

theorem active_stop (d : Device g) (feature : Feature) : (stop d feature).active = d.active := by
  cases feature with
  | clipboard =>
    obtain ⟨_, _, sends⟩ := clipboard_send_eq d none 0
    rw [stop, Clipboard.stop, sends]
  | timeTracker => rfl
  | none => rfl

theorem switchTo_eq (d : Device g) (feature : Feature) :
    switchTo d feature =
      trySave
        (start { stop d d.active.current with active := d.active.choosing feature } feature) := by
  rw [switchTo, active_stop]
  rfl

theorem current_switchTo (d : Device g) (feature : Feature) :
    (switchTo d feature).active.current = feature := by
  have chosen : (switchTo d feature).active = d.active.choosing feature := by
    rw [switchTo_eq]
    exact active_start _ feature
  rw [chosen, ActiveFeature.current_choosing]

/-- A reset, step by step: no feature goes down. -/
theorem factoryReset_eq (d : Device g) :
    factoryReset d =
      trySave (start { Tracker.factoryReset d with active := ⟨recordMagic, .clipboard, true⟩ }
        .clipboard) := rfl

theorem current_factoryReset (d : Device g) : (factoryReset d).active.current = .clipboard :=
  current_switchTo _ _

theorem handle_of_tracking (tracking : d.active.current = .timeTracker) :
    handle d = Tracker.handle d := by rw [handle, tracking]

theorem tick_of_tracking (tracking : d.active.current = .timeTracker) :
    tick d = Tracker.tick d := by rw [tick, tracking]

theorem handle_of_other (other : d.active.current ≠ .timeTracker) :
    ∃ input host keyReported,
      handle d = (.ok (), { d with settings.input := input, host, keyReported }) := by
  unfold handle
  split
  · obtain ⟨host, keyReported, sends⟩ := clipboard_send_eq d.drain.2
      d.drain.2.settings.input.pressedKey d.drain.2.settings.input.modifierFlags
    exact ⟨d.drain.2.settings.input, host, keyReported, Prod.ext rfl sends⟩
  · next tracking => exact absurd tracking other
  · exact ⟨_, _, _, rfl⟩

theorem tick_of_other (other : d.active.current ≠ .timeTracker) : tick d = (.ok (), d) := by
  unfold tick
  split
  · next tracking => exact absurd tracking other
  · rfl

theorem active_handle (d : Device g) : (handle d).2.active = d.active := by
  by_cases tracking : d.active.current = .timeTracker
  · rw [handle_of_tracking tracking]
    exact (Tracker.beyond_eq_iff.1 (Tracker.beyond_handle d)).1
  · obtain ⟨_, _, _, handles⟩ := handle_of_other tracking
    rw [handles]

theorem beyond_tick (d : Device g) : Tracker.beyond (tick d).2 = Tracker.beyond d := by
  by_cases tracking : d.active.current = .timeTracker
  · rw [tick_of_tracking tracking]
    exact Tracker.beyond_tick d
  · rw [tick_of_other tracking]

theorem active_tick (d : Device g) : (tick d).2.active = d.active :=
  (Tracker.beyond_eq_iff.1 (beyond_tick d)).1

/-- Whatever the store answers: a feature is read and comes up, or everything begins anew. -/
theorem init_cases (d : Device g) :
    ∃ store, (∃ active, init d =
        start { d with settings.store := store, active } active.current) ∨
      init d = factoryReset { d with settings.store := store } := by
  simp only [init, Device.onStore_eq]
  generalize d.settings.store.get (α := ActiveFeature) .activeFeature = r
  obtain ⟨_ | active, store⟩ := r
  · exact ⟨store, .inr rfl⟩
  · refine ⟨store, ?_⟩
    simp only
    split
    · exact .inl ⟨active, rfl⟩
    · exact .inr rfl

/-- Whether a turn replaces the choice in memory, rather than to switch from it. -/
def Turn.replaces : Turn → Bool
  | .features .init => true
  | .features .factoryReset => true
  | _ => false

inductive Turned (d : Device g) : Bool → Device g → Prop where
  | goesOn (settings : KeySettings g) (today : DateTime) (ready : Bool) :
      Turned d false { d with settings, today, host.ready := ready }
  | handles : Turned d false (handle d).2
  | ticks (times : Nat) : Turned d false (Bench.ticks tick times d).2
  | switches (feature : Feature) : Turned d false (switchTo d feature)
  | comesUp (store : Store g) (active : ActiveFeature) :
      Turned d true (start { d with settings.store := store, active } active.current)
  | beginsAnew (store : Store g) : Turned d true (factoryReset { d with settings.store := store })

theorem Turned.same (d : Device g) : Turned d false d := .goesOn d.settings d.today d.host.ready

theorem Turn.turned (d : Device g) (turn : Turn) : Turned d turn.replaces (turn.run d) := by
  cases turn with
  | outside input today ready => exact .goesOn { d.settings with input } today ready
  | keys command => exact .goesOn (command.run d.settings).2 d.today d.host.ready
  | features command =>
    cases command with
    | init =>
      show Turned d true (init d)
      obtain ⟨store, ⟨active, up⟩ | anew⟩ := init_cases d
      · rw [up]
        exact .comesUp store active
      · rw [anew]
        exact .beginsAnew store
    | factoryReset =>
      simp only [Turn.run, Bench.FeaturesCommand.run]
      exact .beginsAnew d.settings.store
    | switchTo feature => exact .switches feature
    | switchToCode code =>
      simp only [Turn.run, Bench.FeaturesCommand.run, switchToCode]
      cases Feature.ofCode? code with
      | none => exact .same d
      | some feature => exact .switches feature
    | handle => exact .handles
    | tick times => exact .ticks times
    | log | current => exact .same d

/-- Takes turns one after another, and takes note of something on the way. -/
def runNoting {α : Type} (note : Device g → α → Turn → α) (d : Device g) (a : α) :
    List Turn → Device g × α
  | [] => (d, a)
  | turn :: rest => runNoting note (turn.run d) (note d a turn) rest

theorem runNoting_induction {α : Type} {P : Device g → α → Prop} (note : Device g → α → Turn → α)
    (noted : ∀ d a turn, P d a → P (turn.run d) (note d a turn)) (turns : List Turn) {a : α}
    (before : P d a) : P (runNoting note d a turns).1 (runNoting note d a turns).2 := by
  induction turns generalizing d a with
  | nil => exact before
  | cons turn rest ih => exact ih (noted d a turn before)

end Features

end Keypad
