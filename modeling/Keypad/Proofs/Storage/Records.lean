import Keypad.Proofs.Storage.Refinement

namespace Keypad

open Flash (Chip Entry Fault strike)

theorem Block.take_padded {data : List UInt8} (small : data.length ≤ slotSize) :
    (Block.padded data.toArray).toList.take data.length = data := by
  apply List.ext_getElem
  · rw [List.length_take, Vector.length_toList]
    exact Nat.min_eq_left small
  · intro k here there
    have within : k < slotSize := by omega
    simp [Block.padded, there]

theorem Geometry.accepts_encode (g : Geometry) {α : Type} [Record α]
    (some_bytes : 0 < Record.size α) (kind : RecordKind) (v : α) :
    g.Accepts kind.index (Record.encode v).toArray := by
  have size : (Record.encode v).toArray.size = Record.size α := Record.length_encode v
  exact ⟨g.kind_lt kind, size ▸ some_bytes, size ▸ Record.size_le (α := α)⟩

theorem RecordKind.index_inj {a b : RecordKind} (same : a.index = b.index) : a = b := by
  cases a <;> cases b <;> first | rfl | simp [index] at same

namespace SlotArray

variable {g : Geometry} {α : Type} [Record α] (a : SlotArray g) (kind : RecordKind)

theorem get_set_self (v : α) :
    SlotArray.get (a.set kind.index (.padded (Record.encode v).toArray) (g.kind_lt kind)) kind =
      (Record.decode (Record.encode v) : α) := by
  have size := Record.length_encode v
  have small : (Record.encode v).length ≤ slotSize := size ▸ Record.size_le (α := α)
  simp only [get, Vector.getElem_set_self]
  rw [← size, Block.take_padded small]

theorem get_set_beside {index : Nat} (known : index < g.slotCount) (apart : index ≠ kind.index)
    (block : Block) : SlotArray.get (α := α) (a.set index block known) kind = a.get kind := by
  simp only [get, Vector.getElem_set_ne known (g.kind_lt kind) apart]

theorem get_set_of_ne {other : RecordKind} (different : other ≠ kind) (block : Block) :
    SlotArray.get (α := α) (a.set kind.index block (g.kind_lt kind)) other = a.get other :=
  a.get_set_beside other (g.kind_lt kind)
    (fun same => different (RecordKind.index_inj same).symm) block

end SlotArray

namespace Store

variable {g : Geometry}

/-- A store whose region fits its chip, and which no fault strikes any more. -/
structure Healthy (s : Store g) : Prop where
  fits : g.Fits s.chip.capacity
  faultless : ∀ f ∈ s.chip.faults, f.count = 0

def stored (α : Type) [Record α] (s : Store g) (kind : RecordKind) : α :=
  (g.slots s.chip.cells).get kind

/-- The journal of a chip after one more write of a slot: its sector was erased and programmed. -/
def written (kind : RecordKind) (journal : List Entry) : List Entry :=
  g.writeEntry (g.sectorOf kind.index) false :: g.eraseEntry (g.sectorOf kind.index) false ::
    journal

structure Saved {α : Type} [Record α] (before : Store g) (kind : RecordKind) (v : α)
    (after : Store g) : Prop where
  healthy : after.Healthy
  stored_eq : after.stored α kind = Record.decode (Record.encode v)
  others :
    ∀ (β : Type) [Record β] (other : RecordKind), other ≠ kind →
      after.stored β other = before.stored β other
  journal_eq : after.chip.journal = written (g := g) kind before.chip.journal

/-- One store after the other: at most the record of one kind was changed in between. -/
structure Keeps (before : Store g) (kind : RecordKind) (after : Store g) : Prop where
  healthy : after.Healthy
  others :
    ∀ (β : Type) [Record β] (other : RecordKind), other ≠ kind →
      after.stored β other = before.stored β other

theorem Keeps.trans {s t u : Store g} {kind : RecordKind} (first : s.Keeps kind t)
    (second : t.Keeps kind u) : s.Keeps kind u where
  healthy := second.healthy
  others β _ other different :=
    (second.others β other different).trans (first.others β other different)

theorem Saved.keeps {α : Type} [Record α] {before after : Store g} {kind : RecordKind} {v : α}
    (saved : before.Saved kind v after) : before.Keeps kind after :=
  ⟨saved.healthy, saved.others⟩

namespace Healthy

variable {s : Store g} (h : s.Healthy)
include h

theorem keeps (kind : RecordKind) : s.Keeps kind s := ⟨h, fun _ _ _ _ => rfl⟩

theorem shows : s.Shows (g.slots s.chip.cells) s.chip.cells :=
  ⟨rfl, rfl, fun _ _ => rfl, h.faultless⟩

theorem get (α : Type) [Record α] (kind : RecordKind) :
    s.get (α := α) kind = (.ok (s.stored α kind), s) :=
  h.shows.get h.fits kind

theorem save {α : Type} [Record α] (some_bytes : 0 < Record.size α) (kind : RecordKind) (v : α) :
    (s.save kind v).1 = .ok () ∧ s.Saved kind v (s.save kind v).2 := by
  have accepted := g.accepts_encode some_bytes kind v
  obtain ⟨answer, shows⟩ := h.shows.writeSlot h.fits kind.index (Record.encode v).toArray
  rw [SlotArray.write, dif_pos accepted.known, if_pos ⟨accepted.nonempty, accepted.short⟩]
    at answer shows
  obtain ⟨-, chip⟩ := writeSlot_done h.fits accepted
    (Flash.strikeReads_of_spent _ _ h.faultless) (Flash.strike_of_spent .erase _ h.faultless)
    (Flash.strike_of_spent .write _ h.faultless)
  refine ⟨answer, ⟨?_, shows.faultless⟩, ?_, ?_, ?_⟩
  · exact shows.fits_chip h.fits
  · exact (congrArg (SlotArray.get · kind) shows.slots_eq).trans (SlotArray.get_set_self _ kind v)
  · intro β _ other different
    exact (congrArg (SlotArray.get · other) shows.slots_eq).trans
      (SlotArray.get_set_of_ne _ kind different _)
  · exact congrArg Chip.journal chip

end Healthy

/-- A store that comes up on the chip of another holds what that one held. -/
theorem Healthy.attached {s t : Store g} (h : s.Healthy) (attached : attach s.chip = .ok t) :
    t.Healthy ∧ t.chip = s.chip := by
  obtain ⟨u, found, chip⟩ := attach_of_fits s.chip h.fits
  obtain rfl : t = u := Except.ok.inj (attached.symm.trans found)
  exact ⟨⟨chip ▸ h.fits, chip ▸ h.faultless⟩, chip⟩

section Faults

variable {s : Store g} {α : Type} [Record α]

theorem capacity_save (fits : g.Fits s.chip.capacity) (kind : RecordKind) (v : α) :
    (s.save kind v).2.chip.capacity = s.chip.capacity := by
  obtain ⟨r, outcome, answers⟩ := writeSlot_outcome g s.chip.cells s.chip.faults fits kind.index
    (Record.encode v).toArray
  rw [save, (answers s rfl rfl).2]
  exact outcome.size_eq

/-- A save that is answered well, whatever struck before, has stored the record. -/
theorem stored_of_save (fits : g.Fits s.chip.capacity) (kind : RecordKind) (v : α)
    (done : (s.save kind v).1 = .ok ()) :
    (s.save kind v).2.stored α kind = Record.decode (Record.encode v) := by
  obtain ⟨r, outcome, answers⟩ := writeSlot_outcome g s.chip.cells s.chip.faults fits kind.index
    (Record.encode v).toArray
  obtain ⟨answer, chip⟩ := answers s rfl rfl
  have slots := outcome.slots_eq (answer.symm.trans done) (g.kind_lt kind)
  rw [stored, save, chip]
  exact (congrArg (SlotArray.get · kind) slots).trans (SlotArray.get_set_self _ kind v)

theorem get_passed {rest : List Fault} (fits : g.Fits s.chip.capacity) (α : Type) [Record α]
    (kind : RecordKind) (passed : strike .read s.chip.faults = (none, rest)) :
    s.get (α := α) kind =
      (.ok (s.stored α kind), { s with chip := { s.chip with faults := rest } }) := by
  rw [get, slot_passed fits (g.kind_lt kind) passed,
    g.extract_slot s.chip.cells (g.kind_lt kind) fits.within]
  rfl

/-- Reading finds what is stored, or a fault strikes; the chip's bytes stay. -/
theorem get_cases (fits : g.Fits s.chip.capacity) (α : Type) [Record α] (kind : RecordKind) :
    ∃ rest, s.get (α := α) kind =
        (.ok (s.stored α kind), { s with chip := { s.chip with faults := rest } }) ∨
      ∃ e, s.get (α := α) kind = (.error e, { s with chip := { s.chip with faults := rest } }) := by
  cases struck : strike .read s.chip.faults with
  | mk hit rest =>
    refine ⟨rest, ?_⟩
    cases hit with
    | some f =>
      exact .inr ⟨.ofFlash f.error, by rw [get, slot_struck (g.kind_lt kind) struck]⟩
    | none => exact .inl (get_passed fits α kind struck)

end Faults

end Store

namespace Bench.Layout

def unitStore : Store unit.geometry := ⟨.blank 4096, .replicate _ 0, Array.size_replicate, .unread⟩

theorem unit_fits : unit.geometry.Fits unitStore.chip.capacity := by
  have size : unitStore.chip.capacity = 4096 := Chip.capacity_blank 4096
  rw [size]
  constructor <;> decide

theorem unit_faultless : ∀ f ∈ unitStore.chip.faults, f.count = 0 := by
  intro f member
  exact absurd member List.not_mem_nil

theorem unit_healthy : unitStore.Healthy := ⟨unit_fits, unit_faultless⟩

theorem exists_healthy : ∃ store : Store unit.geometry, store.Healthy := ⟨_, unit_healthy⟩

end Bench.Layout

end Keypad
