import Keypad.Proofs.Features.Reboot
import Keypad.Proofs.Features.Turns

namespace Keypad

open Flash (Chip)

namespace Features

variable {g : Geometry} {d d' : Device g} {kind : RecordKind}

/-- What leaves the choice of the feature as it was, in memory and in the store. -/
structure Spares (d d' : Device g) : Prop where
  healthy : d'.settings.store.Healthy
  stored :
    d'.settings.store.stored ActiveFeature .activeFeature =
      d.settings.store.stored ActiveFeature .activeFeature
  active : d'.active = d.active

namespace Spares

theorem refl (healthy : d.settings.store.Healthy) : Spares d d := ⟨healthy, rfl, rfl⟩

theorem of_keeps (keeps : d.settings.store.Keeps kind d'.settings.store)
    (other : kind ≠ .activeFeature) (active : d'.active = d.active) : Spares d d' :=
  ⟨keeps.healthy, keeps.others ActiveFeature .activeFeature other.symm, active⟩

theorem of_beside (beside : Beside kind d d') (other : kind ≠ .activeFeature) : Spares d d' :=
  of_keeps beside.store other beside.active

theorem start (healthy : d.settings.store.Healthy) (feature : Feature) :
    Spares d (start d feature) := by
  cases feature with
  | clipboard => exact of_beside (clipboard_start_beside healthy) (by decide)
  | timeTracker =>
    exact of_keeps (Tracker.start_stores healthy).1 (by decide) (active_start d .timeTracker)
  | none => exact refl healthy

theorem stop (healthy : d.settings.store.Healthy) (feature : Feature) :
    Spares d (stop d feature) := by
  cases feature with
  | clipboard => exact of_beside (clipboard_send_beside healthy none 0) (by decide)
  | timeTracker => exact of_keeps ((Tracker.stop_saves d).saved healthy).keeps (by decide) rfl
  | none => exact refl healthy

theorem handle (healthy : d.settings.store.Healthy) : Spares d (handle d).2 := by
  by_cases tracking : d.active.current = .timeTracker
  · have active := active_handle d
    rw [handle_of_tracking tracking] at active ⊢
    exact of_keeps (Tracker.handle_keeps healthy) (by decide) active
  · obtain ⟨_, _, _, handles⟩ := handle_of_other tracking
    rw [handles]
    exact ⟨healthy, rfl, rfl⟩

theorem tick (healthy : d.settings.store.Healthy) : Spares d (tick d).2 := by
  by_cases tracking : d.active.current = .timeTracker
  · have active := active_tick d
    rw [tick_of_tracking tracking] at active ⊢
    exact of_keeps (Tracker.tick_keeps healthy) (by decide) active
  · rw [tick_of_other tracking]
    exact refl healthy

theorem keys (healthy : d.settings.store.Healthy) (command : Bench.KeysCommand) :
    Spares d (d.onSettings command.run).2 := by
  have kept : d.settings.store.Keeps .keyTable (command.run d.settings).2.store := by
    cases command with
    | setColor key color => exact KeySettings.setColor_keeps healthy key color
    | setValue key value => exact KeySettings.setValue_keeps healthy key value
    | setLongPressMs ms => exact Setting.run_keeps healthy (.longPress ms)
    | count | color | value | longPressMs | table => exact healthy.keeps _
  exact of_keeps kept (by decide) rfl

theorem tracker (healthy : d.settings.store.Healthy) (command : Bench.TrackerCommand) :
    Spares d (command.run d).2 := by
  have same := Tracker.beyond_eq_iff.1 (Tracker.command_beyond d command)
  exact of_keeps (Tracker.command_keeps healthy command) (by decide) same.1

end Spares

/-- The choice of the feature is valid, and stored as it is in memory. -/
structure Chosen (d : Device g) : Prop where
  healthy : d.settings.store.Healthy
  valid : d.active.magic = recordMagic
  stored : d.settings.store.stored ActiveFeature .activeFeature = d.active

theorem Spares.chosen (spares : Spares d d') (chosen : Chosen d) : Chosen d' where
  healthy := spares.healthy
  valid := spares.active ▸ chosen.valid
  stored := spares.stored.trans (chosen.stored.trans spares.active.symm)

theorem trySave_chosen (healthy : d.settings.store.Healthy)
    (valid : d.active.magic = recordMagic) : Chosen (trySave d) := by
  have saved := (healthy.save (by decide) .activeFeature d.active).2
  exact ⟨saved.healthy, valid, saved.stored_eq.trans (ActiveFeature.decode_encode _)⟩

/-- Whatever is stored when a feature is switched to, and whatever the features store on the way:
in the end it is the choice in memory. -/
theorem switchTo_chosen (healthy : d.settings.store.Healthy)
    (valid : d.active.magic = recordMagic) (feature : Feature) : Chosen (switchTo d feature) := by
  let between : Device g :=
    { stop d d.active.current with active := d.active.choosing feature }
  -- What goes down and what comes up store records of their own; the choice is stored last.
  have started := Spares.start (d := between) (Spares.stop healthy _).healthy feature
  rw [switchTo_eq]
  apply trySave_chosen started.healthy
  rw [started.active]
  exact valid

theorem factoryReset_chosen (healthy : d.settings.store.Healthy) : Chosen (factoryReset d) := by
  have cleared := (healthy.save (by decide) .sessionTable SessionTable.factory).2
  exact switchTo_chosen (d := { Tracker.factoryReset d with active := .factory }) cleared.healthy
    rfl .clipboard

theorem init_chosen (healthy : d.settings.store.Healthy) : Chosen (init d) := by
  rw [init_of_healthy healthy]
  dsimp only
  split
  · next valid =>
    let found : Device g :=
      { d with active := d.settings.store.stored ActiveFeature .activeFeature }
    have chosen : Chosen found := ⟨healthy, valid, rfl⟩
    exact (Spares.start (d := found) healthy found.active.current).chosen chosen
  · exact factoryReset_chosen healthy

theorem Turn.chosen (chosen : Chosen d) (turn : Turn) : Chosen (turn.run d) := by
  cases turn with
  | outside input today ready => exact ⟨chosen.healthy, chosen.valid, chosen.stored⟩
  | keys command => exact (Spares.keys chosen.healthy command).chosen chosen
  | features command =>
    apply command_induction _ _ _ _ _ chosen
    · exact init_chosen chosen.healthy
    · exact factoryReset_chosen chosen.healthy
    · exact switchTo_chosen chosen.healthy chosen.valid
    · exact (Spares.handle chosen.healthy).chosen chosen
    · exact fun d' before => (Spares.tick before.healthy).chosen before

inductive Move where
  | turn (turn : Turn)
  | tracker (command : Bench.TrackerCommand)

def Move.run (d : Device g) : Move → Device g
  | .turn next => next.run d
  | .tracker command => (command.run d).2

def runMoves (d : Device g) (moves : List Move) : Device g := moves.foldl Move.run d

theorem runMoves_chosen {moves : List Move} (chosen : Chosen d) : Chosen (runMoves d moves) := by
  induction moves generalizing d with
  | nil => exact chosen
  | cons move rest ih =>
    apply ih
    cases move with
    | turn next => exact next.chosen chosen
    | tracker command => exact (Spares.tracker chosen.healthy command).chosen chosen

/-- A device whose choice of a feature would survive if it went down now. -/
structure Survives (d : Device g) : Prop where
  /-- What is read is the choice in memory, -/
  read : d.settings.store.get (α := ActiveFeature) .activeFeature = (.ok d.active, d.settings.store)
  valid : d.active.magic = recordMagic
  /-- so that whatever comes up on this chip goes on with it, -/
  again :
    ∀ up : Device g, up.settings.store.chip = d.settings.store.chip →
      (init up).active.current = d.active.current
  /-- and a keypad that is switched on does. -/
  powerUp :
    ∀ input longPressMs board today, ∃ up,
      powerUp d.settings.store.chip input longPressMs board today = .ok up ∧
        up.active.current = d.active.current
  unknown : ∀ code : UInt8, 2 < code → switchToCode d code = (false, d)

theorem switchToCode_unknown {code : UInt8} (unknown : 2 < code) (d : Device g) :
    switchToCode d code = (false, d) := by
  have none : Feature.ofCode? code = .none := by
    unfold Feature.ofCode?
    rw [if_neg, if_neg, if_neg]
    all_goals
      rintro rfl
      exact absurd unknown (by decide)
  rw [switchToCode, none]

/-- A device that comes up where the choice of another is stored makes the same choice. -/
theorem Chosen.init_current {up : Device g} (chosen : Chosen d)
    (healthy : up.settings.store.Healthy)
    (same : up.settings.store.stored ActiveFeature .activeFeature =
      d.settings.store.stored ActiveFeature .activeFeature) :
    (init up).active.current = d.active.current := by
  rw [init_of_healthy healthy]
  dsimp only
  rw [same, chosen.stored, if_pos chosen.valid, active_start]

theorem Chosen.survives (chosen : Chosen d) : Survives d where
  read := by
    rw [chosen.healthy.get ActiveFeature .activeFeature, chosen.stored]
  valid := chosen.valid
  again up chip := by
    apply chosen.init_current
    · exact ⟨chip ▸ chosen.healthy.fits, chip ▸ chosen.healthy.faultless⟩
    · rw [Store.stored, Store.stored, chip]
  powerUp input longPressMs board today := by
    obtain ⟨store, attached, -⟩ := Store.attach_of_fits _ chosen.healthy.fits
    have keeps := KeySettings.load_keeps_attached chosen.healthy attached input longPressMs board
    refine ⟨_, by rw [Features.powerUp, attached], ?_⟩
    apply chosen.init_current
    · exact keeps.healthy
    · exact keeps.others ActiveFeature .activeFeature (by decide)
  unknown _ unknown := switchToCode_unknown unknown d

/-- Whatever the chip holds at first, and whatever comes after a keypad came up on it: the choice of
the feature would survive. -/
theorem current_survives (chip : Chip g.sectorSize) (fits : g.Fits chip.capacity)
    (faultless : ∀ f ∈ chip.faults, f.count = 0) (input : Input) (longPressMs : UInt32)
    (board : List ButtonConfig) (today : DateTime) :
    ∃ d, powerUp chip input longPressMs board today = .ok d ∧
      ∀ moves, Survives (runMoves d moves) := by
  obtain ⟨store, attached, rfl⟩ := Store.attach_of_fits chip fits
  have loaded := KeySettings.load_keeps ⟨fits, faultless⟩ input longPressMs board
  have chosen : Chosen (init (.boot store input longPressMs board today)) :=
    init_chosen loaded.healthy
  exact ⟨_, by rw [powerUp, attached], fun moves => (runMoves_chosen chosen).survives⟩

/-- An erased chip, and a run with a switch, a code of no feature, and a reset. -/
theorem current_survives_erased :
    let g := Bench.Layout.unit.geometry
    let chip : Chip g.sectorSize := .blank 4096
    let moves : List Move :=
      [.turn (.features (.switchTo .timeTracker)), .tracker .openSession,
        .turn (.features (.switchToCode 7)), .turn (.keys (.setColor 1 .blue)),
        .turn (.features .factoryReset)]
    g.Fits chip.capacity ∧ (∀ f ∈ chip.faults, f.count = 0) ∧
      ∃ d, powerUp chip (.panel (.ofBoard [])) 500 [] { year := 2024 } = .ok d ∧
        Survives (runMoves d moves) := by
  intro g chip moves
  have fits : g.Fits chip.capacity := Bench.Layout.unit_fits
  have faultless : ∀ f ∈ chip.faults, f.count = 0 := Bench.Layout.unit_faultless
  obtain ⟨d, up, survives⟩ :=
    current_survives chip fits faultless (.panel (.ofBoard [])) 500 [] { year := 2024 }
  exact ⟨fits, faultless, d, up, survives moves⟩

end Features

end Keypad
