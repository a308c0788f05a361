import Keypad.Keys.Settings
import Keypad.Proofs.Storage.Records

namespace Keypad.KeySettings

variable {g : Geometry} {k : KeySettings g}

theorem update_keeps (healthy : k.store.Healthy) (key : UInt8) (f : KeyEntry → KeyEntry) :
    k.store.Keeps .keyTable (k.update key f).2.store := by
  unfold update
  cases k.table.entry? key with
  | none => exact healthy.keeps .keyTable
  | some before =>
    by_cases same : f before = before
    · simp only [if_pos same]
      exact healthy.keeps .keyTable
    · simp only [if_neg same]
      exact (healthy.save (by decide) .keyTable _).2.keeps

theorem setColor_keeps (healthy : k.store.Healthy) (key : UInt8) (color : Color) :
    k.store.Keeps .keyTable (k.setColor key color).2.store := by
  have updated := update_keeps healthy key fun e => { e with color }
  unfold setColor
  generalize k.update key _ = r at updated ⊢
  obtain ⟨_ | _, after⟩ := r <;> exact updated

theorem setValue_keeps (healthy : k.store.Healthy) (key : UInt8) (value : KeyValue) :
    k.store.Keeps .keyTable (k.setValue key value).2.store := by
  have updated := update_keeps healthy key fun e => { e with value }
  unfold setValue
  generalize k.update key _ = r at updated ⊢
  obtain ⟨_ | _, after⟩ := r <;> exact updated

theorem load_keeps {store : Store g} (healthy : store.Healthy) (input : Input)
    (longPressMs : UInt32) (board : List ButtonConfig) :
    store.Keeps .keyTable (load store input longPressMs board).store := by
  simp only [load, healthy.get KeyTable .keyTable]
  split
  · exact healthy.keeps .keyTable
  · exact (healthy.save (by decide) .keyTable _).2.keeps

/-- Settings that are loaded on the chip of another store leave its other records as they are. -/
theorem load_keeps_attached {before store : Store g} (healthy : before.Healthy)
    (attached : Store.attach before.chip = .ok store) (input : Input) (longPressMs : UInt32)
    (board : List ButtonConfig) :
    before.Keeps .keyTable (load store input longPressMs board).store := by
  obtain ⟨healthy, chip⟩ := healthy.attached attached
  have keeps := load_keeps healthy input longPressMs board
  refine ⟨keeps.healthy, ?_⟩
  intro β _ other different
  rw [keeps.others β other different, Store.stored, Store.stored, chip]

theorem tell_script (first : Nat) (entries : List KeyEntry) (s : Script) :
    ∃ told, tell first entries (.script s) = .script told ∧ told.events = s.events := by
  induction entries generalizing first s with
  | nil => exact ⟨s, rfl, rfl⟩
  | cons e rest ih => exact ih (first + 1) _

theorem load_script (store : Store g) (s : Script) (longPressMs : UInt32)
    (board : List ButtonConfig) :
    ∃ told, (load store (.script s) longPressMs board).input = .script told ∧
      told.events = s.events := by
  unfold load
  generalize store.get (α := KeyTable) .keyTable = r
  obtain ⟨_ | table, after⟩ := r
  · exact tell_script 0 _ s
  · simp only
    split <;> exact tell_script 0 _ s

end Keypad.KeySettings
