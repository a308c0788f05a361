import Keypad.Proofs.Features.Survival
import Keypad.Proofs.Storage.BootCount

/-! What a failing read can cost. A write fails before it has touched the chip if a read of its
sector fails, and settings that cannot be read are made up for in memory; but a feature that cannot
read its own record takes it for missing and saves an empty one in its place. So what is lost is a
record whose own read failed, and with the choice of the feature the sessions too. -/
namespace Keypad

open Flash (Chip Fault ReadsOnly strike strikeReads)

namespace Store

variable {g : Geometry} {s t u : Store g} {kind : RecordKind}

/-- One store after the other, where only reads may fail: the records of the other kinds are as they
were. -/
structure Leaves (before : Store g) (kind : RecordKind) (after : Store g) : Prop where
  steady : after.Steady
  others :
    ∀ (β : Type) [Record β] (other : RecordKind), other ≠ kind →
      after.stored β other = before.stored β other

theorem Leaves.trans (first : s.Leaves kind t) (second : t.Leaves kind u) : s.Leaves kind u where
  steady := second.steady
  others β _ other different :=
    (second.others β other different).trans (first.others β other different)

theorem Untouched.leaves (same : s.Untouched t) (kind : RecordKind) : s.Leaves kind t :=
  ⟨same.steady, fun β _ other _ => same.stored_eq β other⟩

namespace Steady

variable {f : Fault} {rest : List Fault} {α : Type} [Record α]

theorem leaves (h : s.Steady) (kind : RecordKind) : s.Leaves kind s := h.untouched.leaves kind

theorem untouched_of_strike (h : s.Steady) {hit : Option Fault}
    (struck : strike .read s.chip.faults = (hit, rest)) :
    s.Untouched { s with chip.faults := rest } := by
  have left := h.readsOnly.after_strike .read
  rw [struck] at left
  exact h.untouched_of_cells rfl left rfl

theorem get_struck (kind : RecordKind) (struck : strike .read s.chip.faults = (some f, rest)) :
    s.get (α := α) kind = (.error (.ofFlash f.error), { s with chip.faults := rest }) := by
  rw [Store.get, slot_struck (g.kind_lt kind) struck]

/-- A save is done, unless a read of its sector fails. -/
theorem save_leaves (h : s.Steady) (some_bytes : 0 < Record.size α) (kind : RecordKind) (v : α) :
    s.Leaves kind (s.save kind v).2 ∧
      (s.save kind v).2.stored α kind =
        if (strikeReads g.slotsPerSector s.chip.faults).1.isNone then
          Record.decode (Record.encode v)
        else s.stored α kind := by
  have accepted := g.accepts_encode some_bytes kind v
  have saved := h.save kind v
  rcases reads : strikeReads g.slotsPerSector s.chip.faults with ⟨_ | f, rest⟩
  · have answered : (s.save kind v).1 = .ok () := h.writeSlot_ok accepted reads
    obtain ⟨⟨e, refused⟩, -⟩ | ⟨-, wrote⟩ := saved
    · cases refused.symm.trans answered
    · refine ⟨⟨wrote.steady, ?_⟩, wrote.stored_saved⟩
      intro β _ other different
      exact wrote.stored_eq β fun same => different (RecordKind.index_inj same).symm
  · have refused : (s.save kind v).1 = .error (.ofFlash f.error) :=
      (writeSlot_readStruck h.fits accepted reads).1
    obtain ⟨-, same⟩ | ⟨answered, -⟩ := saved
    · exact ⟨same.leaves kind, same.stored_eq α kind⟩
    · cases answered.symm.trans refused

end Steady

end Store

namespace KeySettings

variable {g : Geometry} {k : KeySettings g}

theorem keep_leaves (steady : k.store.Steady) (t : KeyTable) :
    k.store.Leaves .keyTable (k.keep t).2.store := by
  unfold keep
  split
  · exact steady.leaves .keyTable
  · exact (steady.save_leaves (by decide) .keyTable t).1

theorem load_leaves {store : Store g} (steady : store.Steady) (input : Input)
    (longPressMs : UInt32) (board : List ButtonConfig) :
    store.Leaves .keyTable (load store input longPressMs board).store := by
  have read := (steady.get KeyTable .keyTable).1.leaves .keyTable
  unfold load
  generalize store.get (α := KeyTable) .keyTable = r at read ⊢
  obtain ⟨_ | table, after⟩ := r
  · exact read
  · simp only
    split
    · exact read
    · exact read.trans (read.steady.save_leaves (by decide) .keyTable (KeyTable.ofBoard board)).1

end KeySettings

theorem Setting.run_leaves {g : Geometry} {k : KeySettings g} (steady : k.store.Steady)
    (s : Setting) : k.store.Leaves .keyTable (s.run k).2.store := by
  by_cases concerns : s.Concerns k.table
  · let ahead : KeySettings g := { k with longPressMs := s.threshold k.longPressMs }
    have kept := KeySettings.keep_leaves (k := ahead) steady (s.table k.table)
    rw [run_eq concerns]
    change k.store.Leaves .keyTable (s.told (ahead.keep (s.table k.table))).2.store
    generalize ahead.keep (s.table k.table) = r at kept ⊢
    obtain ⟨_ | _, after⟩ := r <;> exact kept
  · rw [run_refused concerns]
    exact steady.leaves .keyTable

namespace Tracker

variable {g : Geometry} {d : Device g}

/-- Whether coming up costs the stored sessions: they cannot be read, and the save of an empty table
in their place is done. -/
def loses (g : Geometry) (faults : List Fault) : Bool :=
  match strike .read faults with
  | (none, _) => false
  | (some _, rest) => (strikeReads g.slotsPerSector rest).1.isNone

theorem factoryReset_leaves (steady : d.settings.store.Steady) :
    d.settings.store.Leaves .sessionTable (factoryReset d).settings.store ∧
      storedTable (factoryReset d) =
        if (strikeReads g.slotsPerSector d.settings.store.chip.faults).1.isNone then .factory
        else storedTable d := by
  have saved := steady.save_leaves (by decide) .sessionTable SessionTable.factory
  rw [SessionTable.decode_encode (by decide)] at saved
  exact saved

theorem load_leaves (steady : d.settings.store.Steady)
    (valid : (storedTable d).magic = recordMagic) :
    d.settings.store.Leaves .sessionTable (load d).settings.store ∧
      storedTable (load d) =
        if loses g d.settings.store.chip.faults then .factory else storedTable d := by
  unfold loses
  rcases struck : strike .read d.settings.store.chip.faults with ⟨_ | f, rest⟩
  all_goals
    have same := steady.untouched_of_strike struck
  · simp only [load, Device.onStore_eq,
      Store.get_passed steady.fits SessionTable .sessionTable struck]
    have valid : (d.settings.store.stored SessionTable .sessionTable).magic = recordMagic := valid
    rw [if_pos valid, if_neg Bool.false_ne_true]
    exact ⟨same.leaves .sessionTable, same.stored_eq SessionTable .sessionTable⟩
  · simp only [load, Device.onStore_eq, Store.Steady.get_struck .sessionTable struck]
    let read : Device g := { d with settings.store.chip.faults := rest }
    obtain ⟨leaves, stored⟩ := factoryReset_leaves (d := read) same.steady
    exact ⟨(same.leaves .sessionTable).trans leaves, stored⟩

theorem start_leaves (steady : d.settings.store.Steady)
    (valid : (storedTable d).magic = recordMagic) :
    d.settings.store.Leaves .sessionTable (start d).settings.store ∧
      storedTable (start d) =
        if loses g d.settings.store.chip.faults then .factory else storedTable d := by
  obtain ⟨e, retouches, starts⟩ := start_retouches d
  have loaded := load_leaves steady valid
  rw [storedTable, ← retouches.store] at loaded
  rw [starts]
  exact loaded

end Tracker

namespace Features

open Tracker (storedTable)

variable {g : Geometry} {d d' : Device g} {active : ActiveFeature} {table : SessionTable}
  {unread lost : Bool}

theorem clipboard_start_leaves (steady : d.settings.store.Steady) :
    d.settings.store.Leaves .keyTable (Clipboard.start d).settings.store := by
  rw [Clipboard.settings_start]
  apply Clipboard.assignAll_induction
    (P := fun d' => d.settings.store.Leaves .keyTable d'.settings.store) _ _ (steady.leaves _)
  intro d' key value color leaves
  have valued := Setting.run_leaves leaves.steady (.value key value)
  have colored := Setting.run_leaves valued.steady (.color key color)
  exact (leaves.trans valued).trans colored

theorem trySave_leaves (steady : d.settings.store.Steady) :
    d.settings.store.Leaves .activeFeature (trySave d).settings.store ∧
      ((trySave d).settings.store.stored ActiveFeature .activeFeature = d.active ∨
        (trySave d).settings.store.stored ActiveFeature .activeFeature =
          d.settings.store.stored ActiveFeature .activeFeature) := by
  obtain ⟨leaves, stored⟩ := steady.save_leaves (by decide) .activeFeature d.active
  rw [ActiveFeature.decode_encode] at stored
  refine ⟨leaves, ?_⟩
  split at stored
  · exact .inl stored
  · exact .inr stored

def fresh : ActiveFeature := ⟨recordMagic, .clipboard, true⟩

theorem active_factoryReset (d : Device g) : (factoryReset d).active = fresh := by
  have saved : ∀ d : Device g, (trySave d).active = d.active := fun _ => rfl
  rw [factoryReset_eq, saved, active_start]
  rfl

/-- Whether coming up costs the stored sessions. Where the choice of the feature cannot be read, an
empty table is saved at once; otherwise it is up to the feature. -/
def loses (g : Geometry) (active : ActiveFeature) (faults : List Fault) : Bool :=
  match strike .read faults with
  | (none, rest) => active.current == .timeTracker && Tracker.loses g rest
  | (some _, rest) => (strikeReads g.slotsPerSector rest).1.isNone

/-- What is left of a choice of the feature and of sessions once a device came up on them. -/
structure Left (active : ActiveFeature) (table : SessionTable) (unread lost : Bool)
    (d' : Device g) : Prop where
  stored : storedTable d' = if lost then .factory else table
  choice :
    d'.settings.store.stored ActiveFeature .activeFeature = active ∨
      unread = true ∧ d'.settings.store.stored ActiveFeature .activeFeature = fresh
  /-- Where neither was lost, what comes up next without a fault goes on with both. -/
  again :
    unread = false → lost = false →
      ∀ chip : Chip g.sectorSize, chip.cells = d'.settings.store.chip.cells →
        (∀ f ∈ chip.faults, f.count = 0) → ∀ input longPressMs board today, ∃ up,
          powerUp chip input longPressMs board today = .ok up ∧ up.active = active ∧
            table.SameTimes (sessions up)

theorem powerUp_of_stored (chip : Chip g.sectorSize) (fits : g.Fits chip.capacity)
    (faultless : ∀ f ∈ chip.faults, f.count = 0)
    (choice : (g.slots chip.cells).get .activeFeature = active)
    (chosen : active.magic = recordMagic)
    (stored : (g.slots chip.cells).get .sessionTable = table)
    (valid : table.magic = recordMagic) (input : Input) (longPressMs : UInt32)
    (board : List ButtonConfig) (today : DateTime) :
    ∃ up, powerUp chip input longPressMs board today = .ok up ∧ up.active = active ∧
      table.SameTimes (sessions up) := by
  obtain ⟨store, attached, rfl⟩ := Store.attach_of_fits chip fits
  let booted : Device g := .boot store input longPressMs board today
  have keeps := KeySettings.load_keeps ⟨fits, faultless⟩ input longPressMs board
  have found : booted.settings.store.stored ActiveFeature .activeFeature = active :=
    (keeps.others ActiveFeature .activeFeature (by decide)).trans choice
  have kept : storedTable booted = table :=
    (keeps.others SessionTable .sessionTable (by decide)).trans stored
  have goes_on := start_goes_on (d := { booted with active }) keeps.healthy (kept ▸ valid)
  have up := init_of_healthy (d := booted) keeps.healthy
  simp only [found, if_pos chosen] at up
  refine ⟨init booted, by rw [powerUp, attached], ?_⟩
  rw [up]
  exact ⟨active_start _ _, kept ▸ goes_on.2⟩

theorem Left.of_stored (steady : d'.settings.store.Steady) (chosen : active.magic = recordMagic)
    (valid : table.magic = recordMagic)
    (stored : storedTable d' = if lost then .factory else table)
    (choice : d'.settings.store.stored ActiveFeature .activeFeature = active ∨
      unread = true ∧ d'.settings.store.stored ActiveFeature .activeFeature = fresh) :
    Left active table unread lost d' where
  stored := stored
  choice := choice
  again read kept chip cells faultless := by
    have fits : g.Fits chip.capacity := by
      rw [Chip.capacity, cells]
      exact steady.fits
    rw [kept, if_neg Bool.false_ne_true] at stored
    obtain found | ⟨failed, -⟩ := choice
    · refine powerUp_of_stored chip fits faultless ?_ chosen ?_ valid
      · rw [cells]
        exact found
      · rw [cells]
        exact stored
    · cases failed.symm.trans read

/-- The time tracker, coming up by itself, can cost its sessions, and never the choice. -/
theorem tracker_start_left (steady : d.settings.store.Steady)
    (choice : d.settings.store.stored ActiveFeature .activeFeature = active)
    (chosen : active.magic = recordMagic) (stored : storedTable d = table)
    (valid : table.magic = recordMagic) :
    Left active table false (Tracker.loses g d.settings.store.chip.faults) (Tracker.start d) := by
  obtain ⟨leaves, sessions⟩ := Tracker.start_leaves steady (stored ▸ valid)
  refine .of_stored leaves.steady chosen valid (stored ▸ sessions) (.inl ?_)
  exact (leaves.others ActiveFeature .activeFeature (by decide)).trans choice

theorem init_left (steady : d.settings.store.Steady)
    (choice : d.settings.store.stored ActiveFeature .activeFeature = active)
    (chosen : active.magic = recordMagic) (stored : storedTable d = table)
    (valid : table.magic = recordMagic) :
    Left active table (strike .read d.settings.store.chip.faults).1.isSome
      (loses g active d.settings.store.chip.faults) (init d) := by
  unfold loses
  rcases struck : strike .read d.settings.store.chip.faults with ⟨_ | f, rest⟩
  all_goals
    have same := steady.untouched_of_strike struck
    have kept := (same.stored_eq SessionTable .sessionTable).trans stored
    have still := (same.stored_eq ActiveFeature .activeFeature).trans choice
  · let found : Device g := { d with settings.store.chip.faults := rest, active }
    have comes_up : init d = start found active.current := by
      simp only [init, Device.onStore_eq,
        Store.get_passed steady.fits ActiveFeature .activeFeature struck, choice]
      rw [if_pos chosen]
    rw [comes_up]
    show Left active table false (active.current == .timeTracker && Tracker.loses g rest) _
    cases active.current with
    | clipboard =>
      have leaves := clipboard_start_leaves (d := found) same.steady
      refine .of_stored leaves.steady chosen valid ?_ (.inl ?_)
      · exact (leaves.others SessionTable .sessionTable (by decide)).trans kept
      · exact (leaves.others ActiveFeature .activeFeature (by decide)).trans still
    | timeTracker => exact tracker_start_left (d := found) same.steady still chosen kept valid
    | none => exact .of_stored same.steady chosen valid kept (.inl still)
  · -- Everything begins anew: the sessions are saved first, and the choice last.
    let read : Device g := { d with settings.store.chip.faults := rest }
    obtain ⟨emptied, sessions⟩ := Tracker.factoryReset_leaves (d := read) same.steady
    let between : Device g := { Tracker.factoryReset read with active := fresh }
    have leaves := clipboard_start_leaves (d := between) emptied.steady
    have active_eq : (Clipboard.start between).active = fresh := active_start between .clipboard
    have resets : init d = trySave (Clipboard.start between) := by
      simp only [init, Device.onStore_eq, Store.Steady.get_struck .activeFeature struck]
      exact factoryReset_eq read
    rw [resets]
    generalize Clipboard.start between = started at leaves active_eq
    obtain ⟨saved, choice_saved⟩ := trySave_leaves leaves.steady
    refine .of_stored saved.steady chosen valid ?_ ?_
    · have stays := saved.others SessionTable .sessionTable (by decide)
      rw [leaves.others SessionTable .sessionTable (by decide)] at stays
      exact (stays.trans sessions).trans (by rw [← kept]; rfl)
    · have before : started.settings.store.stored ActiveFeature .activeFeature = active := by
        rw [leaves.others ActiveFeature .activeFeature (by decide), ← still]
        exact emptied.others ActiveFeature .activeFeature (by decide)
      rw [active_eq, before] at choice_saved
      exact choice_saved.symm.imp_right fun reset => ⟨rfl, reset⟩

/-- Whatever reads fail while a device comes up on a valid choice and valid sessions: each of them
is as before, or a new one was saved in its place. The choice is lost only if its own read fails.
The sessions are lost just if they were to be read, or the choice was, and that read fails, and the
save of an empty table then reads its sector. What fails in the key settings or in a save costs
nothing. -/
theorem read_failures_contained (store : Store g) (fits : g.Fits store.chip.capacity)
    (readsOnly : ReadsOnly store.chip.faults)
    (chosen : (store.stored ActiveFeature .activeFeature).magic = recordMagic)
    (valid : (store.stored SessionTable .sessionTable).magic = recordMagic)
    (input : Input) (longPressMs : UInt32) (board : List ButtonConfig) (today : DateTime) :
    let active := store.stored ActiveFeature .activeFeature
    let table := store.stored SessionTable .sessionTable
    let d : Device g := .boot store input longPressMs board today
    let faults := d.settings.store.chip.faults
    Left active table (strike .read faults).1.isSome (loses g active faults) (init d) ∧
      ∀ alone : Device g,
        alone.settings.store = store ∨ alone.settings.store = d.settings.store →
          Left active table false (Tracker.loses g alone.settings.store.chip.faults)
            (Tracker.start alone) := by
  intro active table d faults
  have steady : store.Steady := ⟨fits, readsOnly⟩
  have loaded : store.Leaves .keyTable d.settings.store :=
    KeySettings.load_leaves steady input longPressMs board
  have choice := loaded.others ActiveFeature .activeFeature (by decide)
  have stored := loaded.others SessionTable .sessionTable (by decide)
  refine ⟨init_left loaded.steady choice chosen stored valid, ?_⟩
  intro alone on
  have leaves : store.Leaves .keyTable alone.settings.store := by
    obtain same | same := on
    · exact same ▸ steady.leaves .keyTable
    · exact same ▸ loaded
  exact tracker_start_left leaves.steady
    (leaves.others ActiveFeature .activeFeature (by decide)) chosen
    (leaves.others SessionTable .sessionTable (by decide)) valid

/-- A threshold that was set and stored is lost with the sessions, by one read that fails. -/
theorem read_failures_contained_threshold :
    let g := Bench.Layout.unit.geometry
    let table : SessionTable := { SessionTable.factory with mediumMs := 1 }
    ∃ d : Device g, g.Fits d.settings.store.chip.capacity ∧
      ReadsOnly d.settings.store.chip.faults ∧
      d.settings.store.stored ActiveFeature .activeFeature = fresh ∧ storedTable d = table ∧
      d.settings.store.chip.faults = [{ on := .read }] ∧
      (Tracker.start d).settings.store.stored ActiveFeature .activeFeature = fresh ∧
      storedTable (Tracker.start d) = .factory ∧ SessionTable.factory ≠ table := by
  intro g table
  obtain ⟨blank, healthy⟩ := Bench.Layout.exists_healthy
  let bare : Device g :=
    ⟨⟨blank, .panel (.ofBoard []), 500, .ofBoard []⟩, { year := 2024 }, [], {}, false, {}, .unread⟩
  have choice := factoryReset_chosen (d := bare) healthy
  have active := active_factoryReset bare
  generalize factoryReset bare = reset at choice active
  let tuned : Device g := { reset with tracker.table := .factory }
  have tuned_healthy : tuned.settings.store.Healthy := choice.healthy
  have saved : reset.settings.store.Saved .sessionTable table
      (Tracker.setMediumMs tuned 1).2.settings.store :=
    (Tracker.setMediumMs_saves tuned 1).saved tuned_healthy
  generalize Tracker.setMediumMs tuned 1 = set at saved
  let d : Device g := { set.2 with settings.store.chip.faults := [{ on := .read }] }
  have fits : g.Fits d.settings.store.chip.capacity := saved.healthy.fits
  have readsOnly : ReadsOnly [{ on := .read }] := by
    unfold ReadsOnly
    decide
  have lost : Tracker.loses g [{ on := .read }] = true := by decide
  have found : d.settings.store.stored ActiveFeature .activeFeature = fresh :=
    (saved.others ActiveFeature .activeFeature (by decide)).trans (choice.stored.trans active)
  have kept : storedTable d = table := Tracker.storedTable_of_saved (d := set.2) (by decide) saved
  obtain ⟨-, alone⟩ := read_failures_contained d.settings.store fits readsOnly
    (congrArg ActiveFeature.magic found) (congrArg SessionTable.magic kept) (.panel (.ofBoard []))
    500 [] { year := 2024 }
  obtain ⟨stored, still, -⟩ := alone d (.inl rfl)
  refine ⟨d, fits, readsOnly, found, kept, rfl, ?_, stored.trans (if_pos lost), ?_⟩
  · obtain same | ⟨failed, -⟩ := still
    · exact same.trans found
    · cases failed
  · exact fun same => absurd (congrArg SessionTable.mediumMs same) (by decide)

end Features

end Keypad
