import Keypad.Proofs.Storage.SlotArray
import Keypad.Proofs.Storage.SlotWrite

namespace Keypad

open Flash (Chip Fault strike_of_spent strikeReads_of_spent)

theorem getD_erase (start count : Nat) (cells : Array UInt8) (j : Nat) :
    (Memory.erase start count cells).getD j Memory.erased =
      if start ≤ j ∧ j < start + count then Memory.erased else cells.getD j Memory.erased := by
  simp only [Array.getD_eq_getD_getElem?, Memory.getElem?_erase]
  by_cases within : start ≤ j ∧ j < start + count
  · rw [if_pos within, if_pos within]
    cases cells[j]? <;> rfl
  · rw [if_neg within, if_neg within]

namespace Geometry

def slots (g : Geometry) (cells : Array UInt8) : SlotArray g :=
  Vector.ofFn fun i => Vector.ofFn fun k => cells.getD (g.slotStart i + k) Memory.erased

variable (g : Geometry)

theorem getElem_slots (cells : Array UInt8) {i k : Nat} (known : i < g.slotCount)
    (small : k < slotSize) :
    (g.slots cells)[i][k] = cells.getD (g.slotStart i + k) Memory.erased := by
  simp only [slots, Vector.getElem_ofFn]

theorem slots_ext {a b : SlotArray g}
    (same : ∀ i k, (known : i < g.slotCount) → (small : k < slotSize) → a[i][k] = b[i][k]) :
    a = b := by
  apply Vector.ext
  intro i known
  apply Vector.ext
  intro k small
  exact same i k known small

theorem extract_slot (cells : Array UInt8) {index : Nat} (known : index < g.slotCount)
    (within : g.base + g.regionSize ≤ cells.size) :
    cells.extract (g.slotStart index) (g.slotStart index + slotSize) =
      (g.slots cells)[index].toArray := by
  have last := g.slotEnd_le known
  apply Array.ext
  · rw [Array.size_extract, Vector.size_toArray]
    omega
  · intro k here there
    rw [Vector.size_toArray] at there
    rw [Array.getElem_extract, Vector.getElem_toArray, g.getElem_slots cells known there]
    have present : g.slotStart index + k < cells.size := by omega
    simp [Array.getD, present]

/-- A byte of a slot lies in a sector just when the slot starts there. -/
theorem in_sector_iff (sector i : Nat) {k : Nat} (small : k < slotSize) :
    g.sectorStart sector ≤ g.slotStart i + k ∧
        g.slotStart i + k < g.sectorStart sector + g.sectorSize ↔
      sector * g.sectorSize ≤ i * slotSize ∧ i * slotSize < (sector + 1) * g.sectorSize := by
  have start : sector * g.sectorSize = sector * g.slotsPerSector * slotSize := by
    rw [Nat.mul_assoc, g.slotsPerSector_mul]
  have size := g.slotsPerSector_mul
  rw [Nat.succ_mul, sectorStart, slotStart, start, ← size]
  simp only [slotSize] at small ⊢
  omega

theorem slots_eraseSector (cells : Array UInt8) {sector : Nat} (known : sector < g.sectorCount) :
    g.slots (Memory.erase (g.sectorStart sector) g.sectorSize cells) =
      ((g.slots cells).eraseSector sector).2 := by
  have count : g.slotCount * slotSize / g.sectorSize = g.sectorCount := rfl
  rw [SlotArray.eraseSector, count, if_pos known]
  apply g.slots_ext
  intro i k present small
  rw [g.getElem_slots _ present small, getD_erase, Vector.getElem_ofFn]
  by_cases within :
      sector * g.sectorSize ≤ i * slotSize ∧ i * slotSize < (sector + 1) * g.sectorSize
  · simp only [if_pos within, if_pos ((g.in_sector_iff sector i small).mpr within), Block.erased,
      Vector.getElem_replicate]
  · simp only [if_neg within, if_neg (mt (g.in_sector_iff sector i small).mp within)]
    exact (g.getElem_slots cells present small).symm

theorem slots_eraseAll (cells : Array UInt8) :
    g.slots (Memory.erase g.base g.regionSize cells) = SlotArray.blank := by
  apply g.slots_ext
  intro i k known small
  have last := g.slotEnd_le known
  have first : g.base ≤ g.slotStart i := Nat.le_add_right ..
  rw [g.getElem_slots _ known small, getD_erase, if_pos (by omega)]
  simp only [SlotArray.blank, Block.erased, Vector.getElem_replicate]

/-- Outside the slot that it changes, the intended content is the old one, in the sector and
around it. -/
theorem Rewrites.getD_eq {g : Geometry} {index : Nat} {data cells after : Array UInt8}
    (h : g.Rewrites (g.sectorOf index) (g.intended index data cells) cells after) (j : Nat) :
    after.getD j Memory.erased = g.intended index data cells j := by
  rw [Array.getD_eq_getD_getElem?]
  by_cases within : g.sectorStart (g.sectorOf index) ≤ j ∧
      j < g.sectorStart (g.sectorOf index) + g.sectorSize
  · rw [h.inside j within.1 within.2]
    rfl
  · have start := g.slotStart_eq index
    have room := g.offset_add_le index
    rw [h.outside j within, intended, if_neg (by omega), Array.getD_eq_getD_getElem?]

theorem intended_slot {index i k : Nat} (data cells : Array UInt8) (known : index < g.slotCount)
    (known' : i < g.slotCount) (small : k < slotSize) :
    g.intended index data cells (g.slotStart i + k) =
      ((g.slots cells).set index (Block.padded data))[i][k] := by
  rw [intended, Vector.getElem_set]
  by_cases same : index = i
  · subst same
    have place : g.slotStart index + k - g.slotStart index = k := Nat.add_sub_cancel_left ..
    rw [if_pos (by omega), place]
    simp only [if_pos, Block.padded, Vector.getElem_ofFn]
  · have apart : ¬ (g.slotStart index ≤ g.slotStart i + k ∧
        g.slotStart i + k < g.slotStart index + slotSize) := by
      unfold slotStart
      simp only [slotSize] at small ⊢
      omega
    simp only [if_neg same, if_neg apart]
    exact (g.getElem_slots cells known' small).symm

theorem slots_intended {g : Geometry} {index : Nat} {data cells after : Array UInt8}
    (h : g.Rewrites (g.sectorOf index) (g.intended index data cells) cells after)
    (known : index < g.slotCount) :
    g.slots after = (g.slots cells).set index (Block.padded data) := by
  apply g.slots_ext
  intro i k known' small
  rw [g.getElem_slots _ known' small, h.getD_eq, g.intended_slot data cells known known' small]

end Geometry

namespace WriteOutcome

variable {g : Geometry} {index : Nat} {data cells : Array UInt8} {faults : List Fault}
  {r : WriteReport}

theorem size_eq (outcome : WriteOutcome g index data cells faults r) :
    r.cells.size = cells.size := by
  cases outcome with
  | badIndex _ => rfl
  | badData _ _ => rfl
  | readFailed _ _ => rfl
  | eraseFailed _ _ _ rewrites => exact rewrites.size_eq
  | programFailed _ _ _ _ rewrites => exact rewrites.size_eq
  | done _ _ _ _ rewrites => exact rewrites.size_eq

theorem slots_eq (outcome : WriteOutcome g index data cells faults r) (done : r.answer = .ok ())
    (known : index < g.slotCount) :
    g.slots r.cells = (g.slots cells).set index (.padded data) := by
  cases outcome with
  | badIndex _ => contradiction
  | badData _ _ => contradiction
  | readFailed _ _ => contradiction
  | eraseFailed _ _ _ _ => contradiction
  | programFailed _ _ _ _ _ => contradiction
  | done _ _ _ _ rewrites => exact Geometry.slots_intended rewrites known

end WriteOutcome

namespace Memory

theorem place_block (block : Block) (target : Array UInt8) (room : slotSize ≤ target.size) :
    place 0 slotSize block.toArray target = block.toArray ++ target.extract slotSize := by
  apply Array.ext_getElem?
  intro j
  rw [getElem?_place, Array.getElem?_append, Vector.size_toArray, Array.getElem?_extract]
  by_cases small : j < slotSize
  · have present : j < target.size := by omega
    rw [if_pos (by omega), if_pos small, Array.getElem?_eq_getElem present]
    simp [Array.getD, small]
  · have place : slotSize + (j - slotSize) = j := by omega
    rw [if_neg (by omega), if_neg small, Nat.min_self, place]
    by_cases present : j < target.size
    · rw [if_pos (by omega)]
    · rw [if_neg (by omega), Array.getElem?_eq_none (by omega)]

end Memory

theorem Store.attach_of_fits {g : Geometry} (chip : Chip g.sectorSize)
    (fits : g.Fits chip.capacity) : ∃ s : Store g, Store.attach chip = .ok s ∧ s.chip = chip := by
  refine ⟨_, if_neg (Nat.not_lt.mpr fits.within), ?_⟩
  simp only

/-- The store's slots are those of an array, the chip is as `around` outside the region, and no
fault is left that could strike. -/
structure Store.Shows {g : Geometry} (s : Store g) (a : SlotArray g) (around : Array UInt8) :
    Prop where
  slots_eq : g.slots s.chip.cells = a
  size_eq : s.chip.cells.size = around.size
  outside : ∀ j, ¬ (g.base ≤ j ∧ j < g.base + g.regionSize) → s.chip.cells[j]? = around[j]?
  faultless : ∀ f ∈ s.chip.faults, f.count = 0

namespace Store.Shows

variable {g : Geometry} {s : Store g} {a : SlotArray g} {around : Array UInt8}
variable (fits : g.Fits around.size) (h : s.Shows a around)
include fits h

theorem fits_chip : g.Fits s.chip.capacity := by
  unfold Chip.capacity
  rw [h.size_eq]
  exact fits

theorem slot {index : Nat} (known : index < g.slotCount) :
    s.slot index = (.ok a[index].toArray, s) := by
  have fits' := h.fits_chip fits
  rw [slot_passed fits' known (strike_of_spent .read _ h.faultless),
    g.extract_slot s.chip.cells known fits'.within]
  simp only [h.slots_eq]

theorem readSlot (index : Nat) (target : Array UInt8) :
    s.readSlot index target = (a.read index target, s) := by
  unfold Store.readSlot SlotArray.read
  by_cases known : index < g.slotCount
  · rw [if_neg (Nat.not_le.mpr known), dif_pos known]
    by_cases room : slotSize ≤ target.size
    · rw [if_neg (Nat.not_lt.mpr room), if_pos room, h.slot fits known]
      simp only [Memory.place_block _ target room]
    · rw [if_pos (Nat.not_le.mp room), if_neg room]
  · rw [if_pos (Nat.not_lt.mp known), dif_neg known]

theorem get {α : Type} [Record α] (kind : RecordKind) :
    s.get (α := α) kind = (.ok (a.get kind), s) := by
  unfold Store.get SlotArray.get
  rw [h.slot fits (g.kind_lt kind)]
  rfl

theorem writeSlot (index : Nat) (data : Array UInt8) :
    (s.writeSlot index data).1 = (a.write index data).1 ∧
      (s.writeSlot index data).2.Shows (a.write index data).2 around := by
  unfold SlotArray.write
  by_cases known : index < g.slotCount
  · rw [dif_pos known]
    by_cases good : 1 ≤ data.size ∧ data.size ≤ slotSize
    · rw [if_pos good]
      have fits' := h.fits_chip fits
      have last := g.sectorEnd_le (g.sectorOf_lt known)
      have first : g.base ≤ g.sectorStart (g.sectorOf index) := Nat.le_add_right ..
      obtain ⟨answer, chip⟩ := writeSlot_done fits' ⟨known, good.1, good.2⟩
        (strikeReads_of_spent _ _ h.faultless) (strike_of_spent .erase _ h.faultless)
        (strike_of_spent .write _ h.faultless)
      have rewrites := g.rewrites_program_all index data
        (Nat.le_trans last fits'.within : _ ≤ s.chip.cells.size)
      refine ⟨answer, ?_, ?_, ?_, ?_⟩ <;> rw [chip]
      · rw [g.slots_intended rewrites known, h.slots_eq]
      · exact rewrites.size_eq.trans h.size_eq
      · intro j apart
        exact (rewrites.outside j (by omega)).trans (h.outside j apart)
      · exact h.faultless
    · rw [if_neg good, writeSlot_badData s known (by omega)]
      exact ⟨rfl, h⟩
  · rw [dif_neg known, writeSlot_badIndex s data (Nat.not_lt.mp known)]
    exact ⟨rfl, h⟩

theorem eraseSector (sector : Nat) :
    (s.eraseSector sector).1 = (a.eraseSector sector).1 ∧
      (s.eraseSector sector).2.Shows (a.eraseSector sector).2 around := by
  have count : g.slotCount * slotSize / g.sectorSize = g.sectorCount := rfl
  unfold Store.eraseSector
  by_cases known : sector < g.sectorCount
  · have last := g.sectorEnd_le known
    have first : g.base ≤ g.sectorStart sector := Nat.le_add_right ..
    rw [if_neg (Nat.not_le.mpr known), onChip_eq,
      sector_erase_passed (h.fits_chip fits) known (strike_of_spent .erase _ h.faultless)]
    refine ⟨?_, ?_, ?_, ?_, h.faultless⟩
    · rw [SlotArray.eraseSector, count, if_pos known]
      rfl
    · rw [← h.slots_eq]
      exact g.slots_eraseSector s.chip.cells known
    · exact (Memory.size_erase ..).trans h.size_eq
    · intro j apart
      rw [Memory.getElem?_erase, if_neg (by omega), h.outside j apart]
  · rw [if_pos (Nat.not_lt.mp known), SlotArray.eraseSector, count, if_neg known]
    exact ⟨rfl, h⟩

theorem eraseAll : s.eraseAll.1 = .ok () ∧ s.eraseAll.2.Shows .blank around := by
  have fits' := h.fits_chip fits
  have start := Geometry.toNat_sectorAddress fits' (Nat.zero_le _)
  have stop := Geometry.toNat_endAddress fits'
  have stop_aligned : g.endAddress.toNat % g.sectorSize = 0 := by
    rw [stop, ← g.sectorCount_mul]
    exact g.sectorStart_mod g.sectorCount
  have start_eq : g.sectorStart 0 = g.base := by
    rw [Geometry.sectorStart, Nat.zero_mul, Nat.add_zero]
  have erase := Chip.erase_passed (strike_of_spent .erase _ h.faultless)
    (start ▸ g.sectorStart_mod 0) stop_aligned (stop ▸ fits'.within) (by omega)
  rw [start, stop, start_eq, Nat.add_sub_cancel_left] at erase
  unfold Store.eraseAll
  rw [onChip_eq, erase]
  refine ⟨rfl, ?_, ?_, ?_, h.faultless⟩
  · exact g.slots_eraseAll s.chip.cells
  · exact (Memory.size_erase ..).trans h.size_eq
  · intro j apart
    rw [Memory.getElem?_erase, if_neg apart, h.outside j apart]

/-- Every call answers as the array does, and the store goes on showing the array. -/
theorem call (c : SlotCall) :
    (c.onStore s).1 = (c.onSlots a).1 ∧ (c.onStore s).2.Shows (c.onSlots a).2 around := by
  cases c with
  | read index target =>
    simp only [SlotCall.onStore, SlotCall.onSlots, h.readSlot fits, true_and]
    exact h
  | write index data =>
    obtain ⟨answer, shows⟩ := h.writeSlot fits index data
    exact ⟨congrArg SlotAnswer.ofUnit answer, shows⟩
  | eraseSector sector =>
    obtain ⟨answer, shows⟩ := h.eraseSector fits sector
    exact ⟨congrArg SlotAnswer.ofUnit answer, shows⟩
  | eraseAll =>
    obtain ⟨answer, shows⟩ := h.eraseAll fits
    exact ⟨congrArg SlotAnswer.ofUnit answer, shows⟩
  | get α kind =>
    simp only [SlotCall.onStore, SlotCall.onSlots, h.get fits]
    exact ⟨rfl, h⟩
  | save kind value =>
    obtain ⟨answer, shows⟩ := h.writeSlot fits kind.index (Record.encode value).toArray
    exact ⟨congrArg SlotAnswer.ofUnit answer, shows⟩

omit h in
theorem run (calls : List SlotCall) (s : Store g) (a : SlotArray g) (h : s.Shows a around) :
    (SlotCall.runAll SlotCall.onStore s calls).1 = (SlotCall.runAll SlotCall.onSlots a calls).1 ∧
      (SlotCall.runAll SlotCall.onStore s calls).2.Shows
        (SlotCall.runAll SlotCall.onSlots a calls).2 around := by
  induction calls generalizing s a with
  | nil => exact ⟨rfl, h⟩
  | cons c rest ih =>
    obtain ⟨answer, shows⟩ := h.call fits c
    obtain ⟨answers, shows_after⟩ := ih (c.onStore s).2 (c.onSlots a).2 shows
    exact ⟨by simp only [SlotCall.runAll, answer, answers], shows_after⟩

end Store.Shows

/-- A new store on a chip that no fault strikes is an array of slots, through every run of calls. -/
theorem store_refines_slots (g : Geometry) (chip : Chip g.sectorSize)
    (fits : g.Fits chip.capacity) (faultless : ∀ f ∈ chip.faults, f.count = 0) :
    ∃ s, Store.attach chip = .ok s ∧ ∀ calls : List SlotCall,
      let (answers, after) := SlotCall.runAll SlotCall.onStore s calls
      let (expected, slots) := SlotCall.runAll SlotCall.onSlots (g.slots chip.cells) calls
      answers = expected ∧ g.slots after.chip.cells = slots ∧
        after.chip.capacity = chip.capacity ∧
        ∀ j, ¬ (g.base ≤ j ∧ j < g.base + g.regionSize) →
          after.chip.cells[j]? = chip.cells[j]? := by
  obtain ⟨s, attached, rfl⟩ := Store.attach_of_fits chip fits
  refine ⟨s, attached, ?_⟩
  intro calls
  have initial : s.Shows (g.slots s.chip.cells) s.chip.cells :=
    ⟨rfl, rfl, fun _ _ => rfl, faultless⟩
  obtain ⟨answers, shows⟩ := Store.Shows.run fits calls s _ initial
  exact ⟨answers, shows.slots_eq, shows.size_eq, shows.outside⟩

theorem pair_refines_slots :
    let g := Bench.Layout.pair.geometry
    let chip : Chip g.sectorSize := .blank 16384
    g.Fits chip.capacity ∧ (∀ f ∈ chip.faults, f.count = 0) ∧
      ∃ s, Store.attach chip = .ok s ∧ ∀ calls : List SlotCall,
        (SlotCall.runAll SlotCall.onStore s calls).1 =
          (SlotCall.runAll SlotCall.onSlots (g.slots chip.cells) calls).1 := by
  intro g chip
  have fits : g.Fits chip.capacity := by
    constructor
    · have size : chip.capacity = 16384 := Array.size_replicate
      rw [size]
      decide
    · decide
  have faultless : ∀ f ∈ chip.faults, f.count = 0 := by
    intro f member
    exact absurd member List.not_mem_nil
  obtain ⟨s, attached, runs⟩ := store_refines_slots g chip fits faultless
  exact ⟨fits, faultless, s, attached, fun calls => (runs calls).1⟩

end Keypad
