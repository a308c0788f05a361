import Keypad.Proofs.Keys.Storing

namespace Keypad

namespace KeyTable

def withEntry (t : KeyTable) (key : UInt8) (f : KeyEntry → KeyEntry) : KeyTable :=
  match t.entry? key with
  | none => t
  | some e => { t with keys := t.keys.setIfInBounds key.toNat (f e) }

variable {t : KeyTable} {key : UInt8} {f : KeyEntry → KeyEntry}

theorem entry?_eq_some {e : KeyEntry} (found : t.entry? key = some e) :
    ¬ t.keyCount ≤ key ∧ t.keys[key.toNat]? = some e := by
  unfold entry? at found
  split at found
  · contradiction
  · next used => exact ⟨used, found⟩

theorem entry?_of_unused (unused : t.keyCount ≤ key) : t.entry? key = none := if_pos unused

theorem entry?_of_used (used : ¬ t.keyCount ≤ key) : t.entry? key = t.keys[key.toNat]? :=
  if_neg used

/-- A key in use has an entry, in a table that uses no more keys than it has places for. -/
theorem exists_entry (few : t.keyCount.toNat ≤ maxKeys) (used : ¬ t.keyCount ≤ key) :
    ∃ e, t.entry? key = some e := by
  have below : key.toNat < t.keyCount.toNat := by
    rw [UInt8.le_iff_toNat_le] at used
    omega
  rw [entry?_of_used used]
  exact ⟨_, Vector.getElem?_eq_getElem (Nat.lt_of_lt_of_le below few)⟩

@[simp] theorem keyCount_withEntry : (t.withEntry key f).keyCount = t.keyCount := by
  unfold withEntry
  split <;> rfl

@[simp] theorem magic_withEntry : (t.withEntry key f).magic = t.magic := by
  unfold withEntry
  split <;> rfl

@[simp] theorem longPressMs_withEntry : (t.withEntry key f).longPressMs = t.longPressMs := by
  unfold withEntry
  split <;> rfl

theorem entry?_withEntry (t : KeyTable) (key other : UInt8) (f : KeyEntry → KeyEntry) :
    entry? (t.withEntry key f) other =
      if other = key then (t.entry? key).map f else t.entry? other := by
  cases found : t.entry? key with
  | none =>
    rw [withEntry, found]
    by_cases same : other = key
    · rw [if_pos same, same, found, Option.map_none]
    · rw [if_neg same]
  | some e =>
    obtain ⟨used, present⟩ := entry?_eq_some found
    obtain ⟨within, -⟩ := Vector.getElem?_eq_some_iff.1 present
    rw [withEntry, found]
    unfold entry?
    rw [Vector.getElem?_setIfInBounds]
    by_cases same : other = key
    · subst same
      rw [if_neg used, if_pos rfl, if_pos within, if_pos rfl, Option.map_some]
    · have apart : key.toNat ≠ other.toNat := fun equal => same (UInt8.toNat_inj.1 equal.symm)
      rw [if_neg apart, if_neg same]

theorem withEntry_of_fixed (fixed : ∀ e, t.entry? key = some e → f e = e) :
    t.withEntry key f = t := by
  cases found : t.entry? key with
  | none => rw [withEntry, found]
  | some e =>
    obtain ⟨-, present⟩ := entry?_eq_some found
    have keys : t.keys.setIfInBounds key.toNat e = t.keys := by
      apply Vector.ext
      intro i within
      rw [Vector.getElem_setIfInBounds]
      split
      · next here =>
        subst here
        exact (Option.some.inj ((Vector.getElem?_eq_getElem within).symm.trans present)).symm
      · rfl
    rw [withEntry, found]
    simp only [fixed e found, keys]

theorem withEntry_eq_self_iff {e : KeyEntry} (found : t.entry? key = some e) :
    t.withEntry key f = t ↔ f e = e := by
  constructor
  · intro same
    have entry := entry?_withEntry t key key f
    rw [same, if_pos rfl, found] at entry
    exact (Option.some.inj entry).symm
  · intro same
    apply withEntry_of_fixed
    intro e' found'
    obtain rfl : e = e' := Option.some.inj (found.symm.trans found')
    exact same

end KeyTable

namespace KeySettings

variable {g : Geometry}

/-- Makes a table the one in memory, and saves it if it is new. -/
def keep (k : KeySettings g) (t : KeyTable) : Except StorageError Unit × KeySettings g :=
  if t = k.table then (.ok (), k) else save { k with table := t }

theorem snd_keep (k : KeySettings g) (t : KeyTable) :
    (k.keep t).2 = { k with table := t, store := (k.keep t).2.store } := by
  unfold keep
  split
  · next same => rw [same]
  · rfl

theorem keep_of_healthy {k : KeySettings g} (healthy : k.store.Healthy) (t : KeyTable) :
    (k.keep t).1 = .ok () ∧ k.store.Keeps .keyTable (k.keep t).2.store := by
  unfold keep
  split
  · exact ⟨rfl, healthy.keeps .keyTable⟩
  · obtain ⟨answer, saved⟩ := healthy.save (by decide) .keyTable t
    exact ⟨answer, saved.keeps⟩

theorem update_unused {k : KeySettings g} {key : UInt8} (unused : k.table.entry? key = none)
    (f : KeyEntry → KeyEntry) : k.update key f = (.error .invalidId, k) := by
  rw [update, unused]

theorem update_used {k : KeySettings g} {key : UInt8} {e : KeyEntry}
    (found : k.table.entry? key = some e) (f : KeyEntry → KeyEntry) :
    k.update key f = k.keep (k.table.withEntry key f) := by
  have new := KeyTable.withEntry_eq_self_iff (f := f) found
  simp only [update, found, keep]
  by_cases same : f e = e
  · rw [if_pos same, if_pos (new.2 same)]
  · rw [if_neg same, if_neg (mt new.1 same), KeyTable.withEntry, found]

end KeySettings

inductive Setting where
  | value (key : UInt8) (value : KeyValue)
  | color (key : UInt8) (color : Color)
  | longPress (ms : UInt32)

namespace Setting

variable {g : Geometry}

def run (k : KeySettings g) : Setting → Except StorageError Unit × KeySettings g
  | value key v => k.setValue key v
  | color key c => k.setColor key c
  | longPress ms => k.setLongPressMs ms

/-- Whether there is something to set: a key has to be in use. -/
def Concerns (t : KeyTable) : Setting → Prop
  | value key _ => t.entry? key ≠ none
  | color key _ => t.entry? key ≠ none
  | longPress _ => True

def table (t : KeyTable) : Setting → KeyTable
  | value key v => t.withEntry key fun e => { e with value := v }
  | color key c => t.withEntry key fun e => { e with color := c }
  | longPress ms => { t with longPressMs := ms }

theorem keyCount_table (t : KeyTable) (s : Setting) : (s.table t).keyCount = t.keyCount := by
  cases s with
  | value key v => exact KeyTable.keyCount_withEntry
  | color key c => exact KeyTable.keyCount_withEntry
  | longPress ms => rfl

def threshold (before : UInt32) : Setting → UInt32
  | longPress ms => ms
  | _ => before

def tell (i : Input) : Setting → Input
  | value key v => i.setValue key v
  | color key c => i.setColor key c
  | longPress _ => i

/-- The settings once a setting was kept, or not: the threshold goes ahead, the input comes
after. -/
def told (s : Setting) :
    Except StorageError Unit × KeySettings g → Except StorageError Unit × KeySettings g
  | (.ok (), k) => (.ok (), { k with input := s.tell k.input })
  | (.error e, k) => (.error e, k)

theorem told_longPress (ms : UInt32) (r : Except StorageError Unit × KeySettings g) :
    told (.longPress ms) r = r := by
  obtain ⟨_ | _, after⟩ := r <;> rfl

theorem table_of_refused {t : KeyTable} {s : Setting} (unused : ¬ s.Concerns t) :
    s.table t = t := by
  cases s with
  | value key v =>
    exact KeyTable.withEntry_of_fixed fun e found =>
      absurd found (by simp [Classical.not_not.1 unused])
  | color key c =>
    exact KeyTable.withEntry_of_fixed fun e found =>
      absurd found (by simp [Classical.not_not.1 unused])
  | longPress ms => exact absurd trivial unused

theorem run_refused {k : KeySettings g} {s : Setting} (unused : ¬ s.Concerns k.table) :
    s.run k = (.error .invalidId, k) := by
  cases s with
  | value key v =>
    have absent : k.table.entry? key = none := Classical.not_not.1 unused
    simp only [run, KeySettings.setValue, KeySettings.update_unused absent]
  | color key c =>
    have absent : k.table.entry? key = none := Classical.not_not.1 unused
    simp only [run, KeySettings.setColor, KeySettings.update_unused absent]
  | longPress ms => exact absurd trivial unused

theorem run_eq {k : KeySettings g} {s : Setting} (concerns : s.Concerns k.table) :
    s.run k =
      s.told (KeySettings.keep { k with longPressMs := s.threshold k.longPressMs }
        (s.table k.table)) := by
  cases s with
  | value key v =>
    obtain ⟨e, found⟩ := Option.ne_none_iff_exists'.1 concerns
    simp only [run, KeySettings.setValue, KeySettings.update_used found]
    rfl
  | color key c =>
    obtain ⟨e, found⟩ := Option.ne_none_iff_exists'.1 concerns
    simp only [run, KeySettings.setColor, KeySettings.update_used found]
    rfl
  | longPress ms =>
    have new : table k.table (.longPress ms) = k.table ↔ k.table.longPressMs = ms := by
      constructor
      · exact fun same => (congrArg KeyTable.longPressMs same).symm
      · rintro rfl
        rfl
    rw [told_longPress]
    simp only [run, KeySettings.setLongPressMs, KeySettings.keep, new]
    rfl

/-- Where no fault strikes, a setting of a key in use is acknowledged, and everyone hears of it. -/
theorem run_of_healthy {k : KeySettings g} {s : Setting} (healthy : k.store.Healthy)
    (concerns : s.Concerns k.table) :
    ∃ store, k.store.Keeps .keyTable store ∧
      s.run k =
        (.ok (), ⟨store, s.tell k.input, s.threshold k.longPressMs, s.table k.table⟩) := by
  let ahead : KeySettings g := { k with longPressMs := s.threshold k.longPressMs }
  obtain ⟨answer, keeps⟩ := KeySettings.keep_of_healthy (k := ahead) healthy (s.table k.table)
  have after := ahead.snd_keep (s.table k.table)
  refine ⟨_, keeps, ?_⟩
  rw [run_eq concerns]
  change s.told (ahead.keep (s.table k.table)) = _
  generalize ahead.keep (s.table k.table) = r at answer after ⊢
  obtain ⟨_ | _, k'⟩ := r
  · contradiction
  · show (Except.ok (), { k' with input := s.tell k'.input }) = _
    simp only at after
    rw [after]

theorem run_keeps {k : KeySettings g} (healthy : k.store.Healthy) (s : Setting) :
    k.store.Keeps .keyTable (s.run k).2.store := by
  by_cases concerns : s.Concerns k.table
  · obtain ⟨store, keeps, ran⟩ := run_of_healthy healthy concerns
    rw [ran]
    exact keeps
  · rw [run_refused concerns]
    exact healthy.keeps .keyTable

end Setting

end Keypad
