import Keypad.Bench.Layouts
import Keypad.Proofs.Features.Turns

/-! What the host last heard. A clipboard that goes down releases what is held, if the host is ready
then; nobody does it later, and a choice that is replaced is not released at all. -/
namespace Keypad

def Host.holds (h : Host) : Bool := h.reports.head?.any (· != .release)

theorem Host.holds_eq_false_iff (h : Host) :
    h.holds = false ↔ ∀ r, h.reports.head? = some r → r = .release := by
  rw [holds]
  cases h.reports.head? with
  | none => simp
  | some last => simp

namespace Clipboard

variable {g : Geometry} {d : Device g}

/-- The clipboard knows of what the host holds. -/
def Knows (d : Device g) : Prop := d.host.holds = true → d.keyReported = true

theorem send_knows (knows : Knows d) (code : Option UInt8) (modifiers : UInt8) :
    Knows (send d code modifiers) := by
  unfold send
  split
  · cases code with
    | some code => exact fun _ => rfl
    | none =>
      cases reported : d.keyReported with
      | true => exact fun holds => absurd holds (by simp [Host.holds, Device.report])
      | false =>
        intro holds
        have told : d.keyReported = true := knows holds
        rw [reported] at told
        exact told
  · exact knows

/-- A clipboard that goes down releases what is held, but only to a host that is ready. -/
theorem holds_stop (knows : Knows d) :
    (stop d).host.holds = (d.host.holds && !d.host.ready) := by
  unfold stop send
  cases ready : d.host.ready with
  | false => simp
  | true =>
    cases reported : d.keyReported with
    | true => simp [Host.holds, Device.report]
    | false =>
      have released : d.host.holds = false := by
        rw [← Bool.not_eq_true]
        exact fun holds => absurd (knows holds) (by simp [reported])
      simp [released]

end Clipboard

namespace Features

open Clipboard (Knows)

variable {g : Geometry} {d d' : Device g} {stuck replaces : Bool} {feature : Feature}

/-- Whether the host still holds what the clipboard has told it last. It does if the clipboard went
down while the host was not ready, or if it never went down. -/
def remains (d : Device g) (stuck replaces : Bool) : Bool :=
  if d.active.current = .clipboard then d.host.holds && (replaces || !d.host.ready) else stuck

structure Told (d : Device g) (stuck : Bool) : Prop where
  knows : Knows d
  holds : d.active.current ≠ .clipboard → d.host.holds = stuck

theorem Told.start (knows : Knows d) (holds : d.host.holds = stuck) (feature : Feature) :
    Told (start d feature) stuck := by
  obtain ⟨-, host, keyReported⟩ := Tracker.beyond_eq_iff.1 (beyond_start d feature)
  constructor
  · rw [Knows, host, keyReported]
    exact knows
  · intro _
    rw [host, holds]

theorem Told.trySave (told : Told d stuck) : Told (trySave d) stuck := ⟨told.knows, told.holds⟩

theorem Told.stop (told : Told d stuck) :
    Knows (stop d d.active.current) ∧
      (stop d d.active.current).host.holds = remains d stuck false := by
  cases current : d.active.current with
  | clipboard =>
    rw [remains, if_pos current]
    exact ⟨Clipboard.send_knows told.knows none 0, Clipboard.holds_stop told.knows⟩
  | timeTracker | none =>
    have other : d.active.current ≠ .clipboard := by simp [current]
    rw [remains, if_neg other]
    exact ⟨told.knows, told.holds other⟩

theorem Told.replaced (told : Told d stuck) : d.host.holds = remains d stuck true := by
  unfold remains
  split
  · simp
  · next other => exact told.holds other

theorem Told.of_same (told : Told d stuck) (active : d'.active = d.active)
    (reports : d'.host.holds = d.host.holds) (keyReported : d'.keyReported = d.keyReported) :
    Told d' (remains d stuck false) := by
  constructor
  · rw [Knows, reports, keyReported]
    exact told.knows
  · intro other
    rw [active] at other
    rw [remains, if_neg other, reports, told.holds other]

theorem Told.of_beyond (told : Told d stuck) (same : Tracker.beyond d' = Tracker.beyond d) :
    Told d' (remains d stuck false) := by
  obtain ⟨active, host, keyReported⟩ := Tracker.beyond_eq_iff.1 same
  exact told.of_same active (congrArg Host.holds host) keyReported

theorem Told.handle (told : Told d stuck) : Told (handle d).2 (remains d stuck false) := by
  have active := active_handle d
  unfold Features.handle at active ⊢
  cases current : d.active.current with
  | clipboard =>
    simp only [current] at active
    have drained : Knows d.drain.2 := told.knows
    refine ⟨Clipboard.send_knows drained _ _, ?_⟩
    intro other
    rw [active] at other
    exact absurd current other
  | timeTracker => exact told.of_beyond (Tracker.beyond_handle d)
  | none => exact told.of_beyond rfl

theorem Told.next (told : Told d stuck) (turned : Turned d replaces d') :
    Told d' (remains d stuck replaces) := by
  cases turned with
  | goesOn settings today ready => exact told.of_same rfl rfl rfl
  | handles => exact told.handle
  | ticks times =>
    have ticked := Bench.ticks_induction
      (P := fun d' => Tracker.beyond d' = Tracker.beyond d)
      (fun d' before => (beyond_tick d').trans before) times rfl
    exact told.of_beyond ticked
  | switches feature =>
    obtain ⟨knows, holds⟩ := told.stop
    let chosen : Device g :=
      { Features.stop d d.active.current with active := d.active.choosing feature }
    rw [switchTo_eq]
    exact (Told.start (d := chosen) knows holds feature).trySave
  | comesUp store active =>
    let found : Device g := { d with settings.store := store, active }
    exact Told.start (d := found) told.knows told.replaced active.current
  | beginsAnew store =>
    let cleared : Device g :=
      { Tracker.factoryReset { d with settings.store := store } with
        active := ⟨recordMagic, .clipboard, true⟩ }
    rw [factoryReset_eq]
    exact (Told.start (d := cleared) told.knows told.replaced .clipboard).trySave

def noteStuck (d : Device g) (stuck : Bool) (turn : Turn) : Bool := remains d stuck turn.replaces

theorem host_start (d : Device g) (feature : Feature) : (start d feature).host = d.host :=
  (Tracker.beyond_eq_iff.1 (beyond_start d feature)).2.1

theorem host_trySave (d : Device g) : (trySave d).host = d.host := rfl

theorem host_factoryReset (d : Device g) : (factoryReset d).host = d.host := by
  rw [factoryReset_eq, host_trySave, host_start]
  rfl

theorem host_handle_of_held {code modifiers : UInt8} (current : d.active.current = .clipboard)
    (ready : d.host.ready = true)
    (input : d.settings.input = .script { pressed := some code, modifiers }) :
    (handle d).2.host.reports = .held code modifiers :: d.host.reports ∧
      (handle d).2.keyReported = true := by
  have handles : (handle d).2 = Clipboard.handle d := by rw [handle, current]
  have drained : d.drain.2 = d := by
    have same := Input.drain_script { pressed := some code, modifiers }
    obtain ⟨⟨store, _, longPressMs, table⟩, today, lights, host, keyReported, tracker, active⟩ := d
    obtain rfl : _ = Input.script { pressed := some code, modifiers } := input
    simp only [Device.drain, Device.onSettings, same]
  rw [handles, Clipboard.handle]
  simp only [drained, input, Input.pressedKey, Input.modifierFlags, Clipboard.send, ready, if_true,
    Device.report, and_self]

theorem reports_switchTo_of_held (current : d.active.current = .clipboard)
    (reported : d.keyReported = true) (feature : Feature) :
    (switchTo d feature).host.reports =
      if d.host.ready then .release :: d.host.reports else d.host.reports := by
  rw [switchTo_eq, host_trySave, host_start, current]
  show (Clipboard.send d none 0).host.reports = _
  simp only [Clipboard.send, reported, if_true]
  split <;> rfl

/-- The clipboard reports a held key and is switched off, maybe when the host is not ready. -/
theorem reports_of_held_off {code modifiers : UInt8} (current : d.active.current = .clipboard)
    (today : DateTime) (ready stuck : Bool) :
    let holding : Input := .script { pressed := some code, modifiers }
    let turns : List Turn :=
      [.outside holding today true, .features .handle, .outside holding today ready,
        .features (.switchTo .none)]
    (runNoting noteStuck d stuck turns).1.host.reports =
      if ready then .release :: .held code modifiers :: d.host.reports
      else .held code modifiers :: d.host.reports := by
  intro holding turns
  simp only [turns, runNoting, Turn.run, Bench.FeaturesCommand.run]
  let pressed : Device g := { d with settings.input := holding, today, host.ready := true }
  obtain ⟨reports, reported⟩ := host_handle_of_held (d := pressed) current rfl rfl
  let held : Device g :=
    { (handle pressed).2 with settings.input := holding, today, host.ready := ready }
  have chosen : held.active.current = .clipboard := by
    show (handle pressed).2.active.current = _
    rw [active_handle]
    exact current
  have first : held.host.reports = .held code modifiers :: d.host.reports := reports
  have switched : (switchTo held .none).host.reports =
      if ready then .release :: held.host.reports else held.host.reports :=
    reports_switchTo_of_held (d := held) chosen reported .none
  rw [first] at switched
  exact switched

/-- Whatever the store answers and whenever the host is ready, from the start of a device on: under
any other feature than the clipboard, the last report that the host got, if any, is a release, just
if nothing remained held. -/
theorem last_report_released (store : Store g) (input : Input) (longPressMs : UInt32)
    (board : List ButtonConfig) (today : DateTime) (turns : List Turn) :
    let d := Device.boot store input longPressMs board today
    let (d, stuck) := runNoting noteStuck d false turns
    d.active.current ≠ .clipboard →
      (stuck = false ↔ ∀ r, d.host.reports.head? = some r → r = .release) := by
  intro d
  have told := runNoting_induction (P := Told) (d := d) noteStuck
    (fun d stuck turn before => before.next (turn.turned d)) turns (a := false)
    ⟨fun holds => by contradiction, fun _ => rfl⟩
  intro other
  rw [← told.holds other]
  exact Host.holds_eq_false_iff _

/-- A key is reported, and the clipboard is switched off: while the host is ready, and while it is
not. -/
theorem last_report_released_off :
    ∃ store : Store Bench.Layout.unit.geometry,
      let d := Device.boot store (.script {}) 500 [] { year := 2024 }
      let copying : Input := .script { pressed := some Usage.c, modifiers := Modifier.leftGui }
      let turns (ready : Bool) : List Turn :=
        [.features .factoryReset, .outside copying { year := 2024 } true, .features .handle,
          .outside copying { year := 2024 } ready, .features (.switchTo .none)]
      let heard := runNoting noteStuck d false (turns true)
      let missed := runNoting noteStuck d false (turns false)
      (heard.1.active.current ≠ .clipboard ∧
          heard.1.host.reports = [.release, .held Usage.c Modifier.leftGui] ∧
          (heard.2 = false ↔ ∀ r, heard.1.host.reports.head? = some r → r = .release)) ∧
        missed.1.active.current ≠ .clipboard ∧
          missed.1.host.reports = [.held Usage.c Modifier.leftGui] ∧
          (missed.2 = false ↔ ∀ r, missed.1.host.reports.head? = some r → r = .release) := by
  obtain ⟨store, -⟩ := Bench.Layout.exists_healthy
  refine ⟨store, ?_⟩
  intro d copying turns
  have told : ∀ turns, (runNoting noteStuck d false turns).1.active.current ≠ .clipboard →
      ((runNoting noteStuck d false turns).2 = false ↔
        ∀ r, (runNoting noteStuck d false turns).1.host.reports.head? = some r → r = .release) :=
    last_report_released store (.script {}) 500 [] { year := 2024 }
  have empty : (factoryReset d).host.reports = [] := by
    rw [host_factoryReset]
    rfl
  have chosen := current_factoryReset d
  have other : ∀ ready,
      (runNoting noteStuck d false (turns ready)).1.active.current ≠ .clipboard := by
    intro ready
    simp only [turns, runNoting, Turn.run, Bench.FeaturesCommand.run, current_switchTo]
    decide
  have reports : ∀ ready, (runNoting noteStuck d false (turns ready)).1.host.reports =
      if ready then [.release, .held Usage.c Modifier.leftGui]
      else [.held Usage.c Modifier.leftGui] := by
    intro ready
    have resets : (Turn.features .factoryReset).run d = factoryReset d := by
      simp only [Turn.run, Bench.FeaturesCommand.run]
    rw [runNoting, resets, reports_of_held_off chosen, empty]
  exact ⟨⟨other true, reports true, told _ (other true)⟩,
    other false, reports false, told _ (other false)⟩

end Features

end Keypad
