import Keypad.Proofs.Keys.Codec
import Keypad.Proofs.Keys.Setting

namespace Keypad

open Flash (Fault strike)

namespace KeySettings

variable {g : Geometry} {k : KeySettings g}

def stored (k : KeySettings g) : KeyTable := k.store.stored KeyTable .keyTable

/-- Settings on a store that faults may strike. Where the last attempt to save went well, or none
was made since the table was read, the table in memory is the stored one. -/
structure Accounted (k : KeySettings g) (kept : Bool) : Prop where
  fits : g.Fits k.store.chip.capacity
  few : k.table.keyCount.toNat ≤ maxKeys
  same : kept = true → k.stored = k.table

/-- A save that is answered well leaves the table stored, and any other leaves it in doubt. -/
theorem save_accounted (fits : g.Fits k.store.chip.capacity)
    (few : k.table.keyCount.toNat ≤ maxKeys) : k.save.2.Accounted k.save.1.isOk := by
  refine ⟨?_, few, ?_⟩
  · show g.Fits (k.store.save .keyTable k.table).2.chip.capacity
    rwa [Store.capacity_save fits]
  · intro went_well
    have done : (k.store.save .keyTable k.table).1 = .ok () := by
      change (k.store.save .keyTable k.table).1.isOk = true at went_well
      cases answer : (k.store.save .keyTable k.table).1 with
      | ok _ => rfl
      | error e =>
        rw [answer] at went_well
        contradiction
    exact (Store.stored_of_save fits .keyTable k.table done).trans (KeyTable.decode_encode few)

theorem Accounted.keep {kept : Bool} (accounted : k.Accounted kept) {t : KeyTable}
    (few : t.keyCount.toNat ≤ maxKeys) :
    (k.keep t).2.Accounted (if t = k.table then kept else (k.keep t).1.isOk) := by
  obtain ⟨fits, -, same⟩ := accounted
  unfold KeySettings.keep
  split
  · next unchanged => exact ⟨fits, unchanged ▸ few, same⟩
  · exact save_accounted (k := { k with table := t }) fits few

theorem Accounted.apply {kept : Bool} (accounted : k.Accounted kept) : k.apply.Accounted kept :=
  ⟨accounted.fits, accounted.few, accounted.same⟩

/-- Whether the table of settings that come up is stored: it was read there, or it is the board's
and could be saved. -/
def loadKeeps (store : Store g) (board : List ButtonConfig) : Bool :=
  match store.get (α := KeyTable) .keyTable with
  | (.ok table, store) =>
    if table.magic = recordMagic then true
    else (store.save .keyTable (KeyTable.ofBoard board)).1.isOk
  | (.error _, _) => false

theorem load_accounted {store : Store g} (fits : g.Fits store.chip.capacity) (input : Input)
    (longPressMs : UInt32) (board : List ButtonConfig) :
    (load store input longPressMs board).Accounted (loadKeeps store board) := by
  have few := KeyTable.keyCount_ofBoard_le board
  obtain ⟨rest, read | ⟨e, failed⟩⟩ := Store.get_cases fits KeyTable .keyTable
  · simp only [load, loadKeeps, read]
    split
    · exact Accounted.apply ⟨fits, KeyTable.keyCount_decode_le _, fun _ => rfl⟩
    · exact (save_accounted (k := ⟨{ store with chip := { store.chip with faults := rest } }, input,
        longPressMs, .ofBoard board⟩) fits few).apply
  · simp only [load, loadKeeps, failed]
    exact Accounted.apply ⟨fits, few, fun kept => absurd kept Bool.false_ne_true⟩

end KeySettings

namespace Setting

open KeySettings (Accounted load loadKeeps)

variable {g : Geometry} {k : KeySettings g} {kept : Bool}

/-- Whether the table is known to be stored after a setting. A setting that changes the table is
stored if it is acknowledged, and leaves a doubt if not; any other leaves things as they were. -/
def keeps (k : KeySettings g) (kept : Bool) (s : Setting) : Bool :=
  if (s.run k).2.table = k.table then kept else (s.run k).1.isOk

theorem run_accounted (accounted : k.Accounted kept) (s : Setting) :
    (s.run k).2.Accounted (s.keeps k kept) := by
  unfold keeps
  by_cases concerns : s.Concerns k.table
  · have ahead : Accounted { k with longPressMs := s.threshold k.longPressMs } kept :=
      ⟨accounted.fits, accounted.few, accounted.same⟩
    have few : (s.table k.table).keyCount.toNat ≤ maxKeys := by
      rw [keyCount_table]
      exact accounted.few
    have later := ahead.keep few
    have table : (KeySettings.keep { k with longPressMs := s.threshold k.longPressMs }
        (s.table k.table)).2.table = s.table k.table := by rw [KeySettings.snd_keep]
    rw [run_eq concerns]
    generalize KeySettings.keep _ _ = r at later table ⊢
    obtain ⟨_ | _, after⟩ := r
    · rw [← table] at later
      exact ⟨later.fits, later.few, later.same⟩
    · rw [← table] at later
      exact ⟨later.fits, later.few, later.same⟩
  · rw [run_refused concerns, if_pos rfl]
    exact accounted

def runAll (k : KeySettings g) (kept : Bool) : List Setting → KeySettings g × Bool
  | [] => (k, kept)
  | s :: rest => runAll (s.run k).2 (s.keeps k kept) rest

theorem runAll_accounted (accounted : k.Accounted kept) (settings : List Setting) :
    (runAll k kept settings).1.Accounted (runAll k kept settings).2 := by
  induction settings generalizing k kept with
  | nil => exact accounted
  | cons s rest ih => exact ih (run_accounted accounted s)

/-- From any start, and through any faults: a setting that is acknowledged is stored, if it changed
the table or the table was stored before it. -/
theorem acknowledged_stored (store : Store g) (fits : g.Fits store.chip.capacity) (input : Input)
    (longPressMs : UInt32) (board : List ButtonConfig) (settings : List Setting)
    (ran : runAll (load store input longPressMs board) (loadKeeps store board) settings = (k, kept))
    (s : Setting) (acknowledged : (s.run k).1 = .ok ())
    (reason : (s.run k).2.table ≠ k.table ∨ kept = true) :
    (s.run k).2.stored = (s.run k).2.table := by
  have accounted := runAll_accounted (KeySettings.load_accounted fits input longPressMs board)
    settings
  rw [ran] at accounted
  apply (run_accounted accounted s).same
  unfold keeps
  split
  · next unchanged =>
    cases reason with
    | inl changed => exact absurd unchanged changed
    | inr before => exact before
  · rw [acknowledged]
    rfl

/-- The threshold is set twice, to two values, on a chip without faults. -/
theorem second_threshold_stored :
    let g := Bench.Layout.unit.geometry
    let store := Bench.Layout.unitStore
    g.Fits store.chip.capacity ∧ ∃ k kept,
      runAll (load store (.panel (.ofBoard [])) 0 []) (loadKeeps store []) [.longPress 500] =
          (k, kept) ∧
        ((longPress 600).run k).1 = .ok () ∧ ((longPress 600).run k).2.table ≠ k.table ∧
        ((longPress 600).run k).2.stored = ((longPress 600).run k).2.table := by
  intro g store
  have healthy : store.Healthy := Bench.Layout.unit_healthy
  clear_value store
  obtain ⟨t, kept, first⟩ := run_of_healthy (s := .longPress 500)
    (KeySettings.load_keeps healthy (.panel (.ofBoard [])) 0 []).healthy trivial
  obtain ⟨u, -, second⟩ := run_of_healthy (s := .longPress 600)
    (k := ((longPress 500).run (load store (.panel (.ofBoard [])) 0 [])).2)
    (by rw [first]; exact kept.healthy) trivial
  have acknowledged : ((longPress 600).run
      ((longPress 500).run (load store (.panel (.ofBoard [])) 0 [])).2).1 = .ok () := by rw [second]
  have changed : ((longPress 600).run
      ((longPress 500).run (load store (.panel (.ofBoard [])) 0 [])).2).2.table ≠
        ((longPress 500).run (load store (.panel (.ofBoard [])) 0 [])).2.table := by
    rw [second, first]
    exact fun same => absurd (congrArg KeyTable.longPressMs same) (by decide : (600 : UInt32) ≠ 500)
  exact ⟨healthy.fits, _, _, rfl, acknowledged, changed,
    acknowledged_stored store healthy.fits (.panel (.ofBoard [])) 0 [] [.longPress 500] rfl
      (.longPress 600) acknowledged (.inl changed)⟩

theorem second_try_not_stored (fits : g.Fits k.store.chip.capacity) (same : k.stored = k.table)
    {ms : UInt32} (new : k.table.longPressMs ≠ ms) {f : Fault} {rest : List Fault}
    (hit : Flash.strikeReads g.slotsPerSector k.store.chip.faults = (some f, rest)) :
    ((longPress ms).run k).1 = .error (.ofFlash f.error) ∧
      let (answer, after) := (longPress ms).run ((longPress ms).run k).2
      answer = .ok () ∧ after.table.longPressMs = ms ∧ after.stored = k.table := by
  let later : KeySettings g :=
    { k with longPressMs := ms, table := { k.table with longPressMs := ms } }
  have size : (Record.encode later.table).toArray.size = Record.size KeyTable :=
    Record.length_encode later.table
  have accepted : g.Accepts RecordKind.keyTable.index (Record.encode later.table).toArray :=
    ⟨g.kind_lt .keyTable, by rw [size]; decide, by rw [size]; decide⟩
  obtain ⟨answer, chip⟩ := Store.writeSlot_readStruck fits accepted hit
  have tried : (longPress ms).run k = later.save := by
    simp only [run, KeySettings.setLongPressMs, if_neg new]
    rfl
  have again : (longPress ms).run later.save.2 = (.ok (), later.save.2) := if_pos rfl
  rw [tried, again]
  refine ⟨answer, rfl, rfl, ?_⟩
  have cells : later.save.2.store.chip.cells = k.store.chip.cells := by
    show (k.store.writeSlot _ _).2.chip.cells = _
    rw [chip]
  rw [KeySettings.stored, Store.stored, cells]
  exact same

end Setting

end Keypad
