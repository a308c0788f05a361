import Keypad.Proofs.Features.Codec
import Keypad.Proofs.Features.Sessions
import Keypad.Proofs.Keys.Agreement
import Keypad.Proofs.Tracker.Commands

namespace Keypad

open Flash (Chip)
open Tracker (storedTable)

namespace Tracker

variable {g : Geometry} {d : Device g}

theorem keys_load (healthy : d.settings.store.Healthy) :
    (load d).settings.table = d.settings.table := by
  rw [load_eq healthy]
  split <;> rfl

theorem keys_start (healthy : d.settings.store.Healthy) :
    (start d).settings.table = d.settings.table := by
  simp only [start, settings_dateSession, Device.settings_light, settings_stopTracking, darken]
  exact keys_load healthy

theorem store_start_of_valid (healthy : d.settings.store.Healthy)
    (valid : (storedTable d).magic = recordMagic) :
    (start d).settings.store = d.settings.store := by
  obtain ⟨started, -⟩ := start_started healthy
  cases started with
  | loaded _ _ store => exact store
  | reset invalid _ _ => exact absurd valid invalid

end Tracker

namespace Features

variable {g : Geometry} {d : Device g} {f : Feature}

def Ready (d : Device g) : Feature → Prop
  | .clipboard => Clipboard.Holds d.settings.table Clipboard.keys
  | .timeTracker => (storedTable d).magic = recordMagic
  | .none => True

/-- A device that finds everything stored when it comes up again. -/
structure Settled (d : Device g) : Prop where
  keys : d.settings.Kept
  valid : d.active.magic = recordMagic
  stored : d.settings.store.stored ActiveFeature .activeFeature = d.active
  ready : Ready d d.active.current

structure Up (d : Device g) (f : Feature) (d' : Device g) : Prop where
  keys : d'.settings.Kept
  active : d'.active = d.active
  stored :
    d'.settings.store.stored ActiveFeature .activeFeature =
      d.settings.store.stored ActiveFeature .activeFeature
  ready : Ready d' f

theorem start_up (keys : d.settings.Kept) (f : Feature) : Up d f (start d f) := by
  have healthy := keys.healthy
  cases f with
  | clipboard =>
    have beside := clipboard_start_beside healthy
    refine ⟨keys.clipboard, beside.active, ?_, ?_⟩
    · exact beside.store.others ActiveFeature .activeFeature (by decide)
    · show Clipboard.Holds (Clipboard.start d).settings.table Clipboard.keys
      rw [Clipboard.settings_start]
      exact Clipboard.assignAll_holds (by decide) d
  | timeTracker =>
    obtain ⟨-, -, -, active⟩ := Tracker.start_started healthy
    obtain ⟨keeps, valid⟩ := Tracker.start_stores healthy
    exact ⟨keys.of_keeps (Tracker.keys_start healthy) keeps (by decide), active,
      keeps.others ActiveFeature .activeFeature (by decide), valid⟩
  | none => exact ⟨keys, rfl, rfl, trivial⟩

theorem start_of_ready (keys : d.settings.Kept) (ready : Ready d f) :
    (start d f).settings.store = d.settings.store ∧
      (start d f).settings.table = d.settings.table := by
  cases f with
  | clipboard =>
    show (Clipboard.start d).settings.store = _ ∧ (Clipboard.start d).settings.table = _
    rw [Clipboard.settings_start]
    exact Clipboard.assignAll_of_holds ready
  | timeTracker =>
    exact ⟨Tracker.store_start_of_valid keys.healthy ready, Tracker.keys_start keys.healthy⟩
  | none => exact ⟨rfl, rfl⟩

theorem factoryReset_settled (keys : d.settings.Kept) : Settled (factoryReset d) := by
  let chosen : ActiveFeature := ⟨recordMagic, .clipboard, true⟩
  let cleared : Device g := { Tracker.factoryReset d with active := chosen }
  have saved := (keys.healthy.save (by decide) .sessionTable SessionTable.factory).2
  have cleared_keys : cleared.settings.Kept := keys.of_keeps rfl saved.keeps (by decide)
  have up := start_up cleared_keys .clipboard
  have active : (start cleared .clipboard).active = chosen := up.active
  have resets : factoryReset d = trySave (start cleared .clipboard) := rfl
  generalize start cleared .clipboard = started at up active resets
  have stores := (up.keys.healthy.save (by decide) .activeFeature started.active).2
  rw [resets]
  refine ⟨up.keys.of_keeps rfl stores.keeps (by decide), congrArg ActiveFeature.magic active,
    ?_, ?_⟩
  · exact stores.stored_eq.trans (ActiveFeature.decode_encode _)
  · show Ready (trySave started) started.active.current
    rw [active]
    exact up.ready

theorem init_settled (keys : d.settings.Kept) : Settled (init d) := by
  rw [init_of_healthy keys.healthy]
  dsimp only
  split
  · next valid =>
    let chosen : Device g :=
      { d with active := d.settings.store.stored ActiveFeature .activeFeature }
    have up := start_up (d := chosen) keys chosen.active.current
    refine ⟨up.keys, ?_, up.stored.trans up.active.symm, ?_⟩
    · rw [up.active]
      exact valid
    · rw [up.active]
      exact up.ready
  · exact factoryReset_settled keys

def powerUp (chip : Chip g.sectorSize) (input : Input) (longPressMs : UInt32)
    (board : List ButtonConfig) (today : DateTime) : Except StorageError (Device g) :=
  match Store.attach chip with
  | .ok store => .ok (init (.boot store input longPressMs board today))
  | .error e => .error e

/-- Switched on again, on the chip that it left: nothing is erased or written, and the features and
the keys are as they were. -/
structure Unchanged (d d' : Device g) : Prop where
  chip : d'.settings.store.chip = d.settings.store.chip
  current : d'.active.current = d.active.current
  keys : d'.settings.table = d.settings.table

theorem Ready.of_same {d' : Device g} (ready : Ready d f)
    (keys : d'.settings.table = d.settings.table) (sessions : storedTable d' = storedTable d) :
    Ready d' f := by
  cases f with
  | clipboard =>
    rw [Ready, keys]
    exact ready
  | timeTracker =>
    rw [Ready, sessions]
    exact ready
  | none => trivial

/-- Where the stored feature is valid and ready, coming up stores nothing. -/
theorem init_of_ready {active : ActiveFeature} (keys : d.settings.Kept)
    (stored : d.settings.store.stored ActiveFeature .activeFeature = active)
    (valid : active.magic = recordMagic) (ready : Ready d active.current) :
    (init d).settings.store = d.settings.store ∧ (init d).settings.table = d.settings.table ∧
      (init d).active = active := by
  let chosen : Device g := { d with active }
  have up := start_up (d := chosen) keys active.current
  obtain ⟨store, table⟩ := start_of_ready (d := chosen) keys (ready.of_same rfl rfl)
  rw [init_of_healthy keys.healthy]
  dsimp only
  rw [stored, if_pos valid]
  exact ⟨store, table, up.active⟩

theorem Settled.init_boot (settled : Settled d) {store : Store g}
    (attached : Store.attach d.settings.store.chip = .ok store) (input : Input)
    (longPressMs : UInt32) (board : List ButtonConfig) (today : DateTime) :
    Unchanged d (init (.boot store input longPressMs board today)) := by
  obtain ⟨healthy, chip⟩ := settled.keys.healthy.attached attached
  let booted : Device g := .boot store input longPressMs board today
  have loaded : booted.settings =
      KeySettings.apply ⟨store, input, longPressMs, d.settings.table⟩ :=
    settled.keys.load_again attached input longPressMs board
  have same : ∀ (α : Type) [Record α] (kind : RecordKind),
      booted.settings.store.stored α kind = d.settings.store.stored α kind := by
    intro α _ kind
    rw [loaded, Store.stored, Store.stored, ← chip]
    rfl
  have keys : booted.settings.Kept := KeySettings.load_kept healthy input longPressMs board
  have table : booted.settings.table = d.settings.table := by
    rw [loaded]
    rfl
  have ready : Ready booted d.active.current :=
    settled.ready.of_same table (same SessionTable .sessionTable)
  obtain ⟨store_eq, table_eq, active⟩ := init_of_ready keys
    ((same ActiveFeature .activeFeature).trans settled.stored) settled.valid ready
  refine ⟨?_, congrArg ActiveFeature.current active, table_eq.trans table⟩
  rw [store_eq, loaded, ← chip]
  rfl

/-- Whatever the chip holds: once a keypad came up on it, coming up again changes nothing, with any
panel and for any board. -/
theorem powerUp_idempotent (chip : Chip g.sectorSize) (fits : g.Fits chip.capacity)
    (faultless : ∀ f ∈ chip.faults, f.count = 0) (input : Input) (longPressMs : UInt32)
    (board : List ButtonConfig) (today : DateTime) :
    ∃ d, powerUp chip input longPressMs board today = .ok d ∧
      ∀ input longPressMs board today, ∃ d',
        powerUp d.settings.store.chip input longPressMs board today = .ok d' ∧ Unchanged d d' := by
  obtain ⟨store, attached, rfl⟩ := Store.attach_of_fits chip fits
  have keys := KeySettings.load_kept ⟨fits, faultless⟩ input longPressMs board
  have settled := init_settled (d := .boot store input longPressMs board today) keys
  refine ⟨init (.boot store input longPressMs board today), by rw [powerUp, attached], ?_⟩
  intro input longPressMs board today
  obtain ⟨again, attached, -⟩ := Store.attach_of_fits _ settled.keys.healthy.fits
  exact ⟨_, by rw [powerUp, attached], settled.init_boot attached input longPressMs board today⟩

/-- An erased chip, on which everything begins anew. -/
theorem powerUp_idempotent_erased :
    let g := Bench.Layout.unit.geometry
    let chip : Chip g.sectorSize := .blank 4096
    g.Fits chip.capacity ∧ (∀ f ∈ chip.faults, f.count = 0) ∧
      ∃ d, powerUp chip (.panel (.ofBoard [])) 500 [] { year := 2024 } = .ok d ∧
        ∀ input longPressMs board today, ∃ d',
          powerUp d.settings.store.chip input longPressMs board today = .ok d' ∧
            Unchanged d d' := by
  intro g chip
  have fits : g.Fits chip.capacity := Bench.Layout.unit_fits
  have faultless : ∀ f ∈ chip.faults, f.count = 0 := Bench.Layout.unit_faultless
  exact ⟨fits, faultless, powerUp_idempotent chip fits faultless _ 500 [] { year := 2024 }⟩

end Features

end Keypad
