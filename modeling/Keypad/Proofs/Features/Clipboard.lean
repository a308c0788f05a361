import Keypad.Features.Clipboard
import Keypad.Proofs.Keys.Setting

namespace Keypad

namespace Setting

variable {g : Geometry}

theorem table_run (k : KeySettings g) (s : Setting) : (s.run k).2.table = s.table k.table := by
  by_cases concerns : s.Concerns k.table
  · have kept := KeySettings.snd_keep { k with longPressMs := s.threshold k.longPressMs }
      (s.table k.table)
    rw [run_eq concerns]
    generalize KeySettings.keep _ _ = r at kept ⊢
    obtain ⟨_ | _, after⟩ := r
    · exact congrArg KeySettings.table kept
    · exact congrArg KeySettings.table kept
  · rw [run_refused concerns, table_of_refused concerns]

theorem store_run_of_same {k : KeySettings g} {s : Setting} (same : s.table k.table = k.table) :
    (s.run k).2.store = k.store := by
  by_cases concerns : s.Concerns k.table
  · rw [run_eq concerns, same, KeySettings.keep, if_pos rfl]
    rfl
  · rw [run_refused concerns]

end Setting

theorem Device.settings_light {g : Geometry} (d : Device g) (l : Light) :
    (d.light l).settings = d.settings := rfl

namespace Clipboard

variable {g : Geometry}

def assignAll (d : Device g) (entries : List (UInt8 × KeyValue × Color)) : Device g :=
  entries.foldl (fun d (key, value, color) => assign d key value color) d

theorem settings_start (d : Device g) : (start d).settings = (assignAll d keys).settings :=
  Device.settings_light ..

theorem assignAll_induction {P : Device g → Prop}
    (assigned : ∀ d key value color, P d → P (assign d key value color))
    (entries : List (UInt8 × KeyValue × Color)) {d : Device g} (before : P d) :
    P (assignAll d entries) := by
  induction entries generalizing d with
  | nil => exact before
  | cons entry rest ih => exact ih (assigned d entry.1 entry.2.1 entry.2.2 before)

theorem table_assign (d : Device g) (key : UInt8) (value : KeyValue) (color : Color) :
    (assign d key value color).settings.table =
      (d.settings.table.withEntry key fun e => { e with value }).withEntry key
        fun e => { e with color } := by
  have valued := Setting.table_run d.settings (.value key value)
  have colored := Setting.table_run ((Setting.value key value).run d.settings).2 (.color key color)
  rw [valued] at colored
  exact colored

theorem entry?_assign (d : Device g) (key other : UInt8) (value : KeyValue) (color : Color) :
    (assign d key value color).settings.table.entry? other =
      if other = key then (d.settings.table.entry? key).map fun _ => ⟨value, color⟩
      else d.settings.table.entry? other := by
  rw [table_assign, KeyTable.entry?_withEntry, KeyTable.entry?_withEntry,
    KeyTable.entry?_withEntry, if_pos rfl]
  split
  · rw [Option.map_map]
    rfl
  · rfl

theorem entry?_assignAll_of_absent {entries : List (UInt8 × KeyValue × Color)} {key : UInt8}
    (absent : key ∉ entries.map Prod.fst) (d : Device g) :
    (assignAll d entries).settings.table.entry? key = d.settings.table.entry? key := by
  induction entries generalizing d with
  | nil => rfl
  | cons entry rest ih =>
    rw [List.map_cons, List.mem_cons, not_or] at absent
    show (assignAll (assign d _ _ _) rest).settings.table.entry? key = _
    rw [ih absent.2, entry?_assign, if_neg absent.1]

/-- A table in which each of these keys that is in use has its entry. -/
def Holds (t : KeyTable) (entries : List (UInt8 × KeyValue × Color)) : Prop :=
  ∀ entry ∈ entries, ∀ e, t.entry? entry.1 = some e → e = ⟨entry.2.1, entry.2.2⟩

theorem assignAll_holds {entries : List (UInt8 × KeyValue × Color)}
    (distinct : (entries.map Prod.fst).Nodup) (d : Device g) :
    Holds (assignAll d entries).settings.table entries := by
  induction entries generalizing d with
  | nil => exact fun _ member => absurd member List.not_mem_nil
  | cons first rest ih =>
    obtain ⟨absent, distinct⟩ := List.nodup_cons.1 distinct
    intro entry member e found
    cases List.mem_cons.1 member with
    | inl here =>
      subst here
      have kept := entry?_assignAll_of_absent absent (assign d entry.1 entry.2.1 entry.2.2)
      rw [entry?_assign, if_pos rfl] at kept
      obtain ⟨_, -, rfl⟩ := Option.map_eq_some_iff.1 (kept.symm.trans found)
      rfl
    | inr later => exact ih distinct (assign d first.1 first.2.1 first.2.2) entry later e found

theorem assign_of_holds {d : Device g} {key : UInt8} {value : KeyValue} {color : Color}
    (holds : ∀ e, d.settings.table.entry? key = some e → e = ⟨value, color⟩) :
    (assign d key value color).settings.store = d.settings.store ∧
      (assign d key value color).settings.table = d.settings.table := by
  have valued : (Setting.value key value).table d.settings.table = d.settings.table :=
    KeyTable.withEntry_of_fixed fun e found => by rw [holds e found]
  have colored : (Setting.color key color).table d.settings.table = d.settings.table :=
    KeyTable.withEntry_of_fixed fun e found => by rw [holds e found]
  let first := ((Setting.value key value).run d.settings).2
  have table : first.table = d.settings.table := (Setting.table_run d.settings _).trans valued
  have store : first.store = d.settings.store := Setting.store_run_of_same valued
  rw [← table] at colored
  show ((Setting.color key color).run first).2.store = _ ∧
    ((Setting.color key color).run first).2.table = _
  rw [Setting.store_run_of_same colored, Setting.table_run, colored]
  exact ⟨store, table⟩

theorem assignAll_of_holds {entries : List (UInt8 × KeyValue × Color)} {d : Device g}
    (holds : Holds d.settings.table entries) :
    (assignAll d entries).settings.store = d.settings.store ∧
      (assignAll d entries).settings.table = d.settings.table := by
  induction entries generalizing d with
  | nil => exact ⟨rfl, rfl⟩
  | cons first rest ih =>
    obtain ⟨store, table⟩ := assign_of_holds (holds first List.mem_cons_self)
    have later := ih (d := assign d first.1 first.2.1 first.2.2) (by
      rw [table]
      exact fun entry member => holds entry (List.mem_cons_of_mem _ member))
    exact ⟨later.1.trans store, later.2.trans table⟩

end Clipboard

end Keypad
