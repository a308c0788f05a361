import Keypad.Bench.Layouts
import Keypad.Proofs.Flash.Calls
import Keypad.Proofs.Storage.SectorImage
import Keypad.Storage.Store

/-! Writing a slot, under any faults. The buffer takes the sector's bytes before anything is
erased, so what a write leaves behind follows from the chip's bytes, the faults and the arguments
alone. Main statement: where a write ends, and what the chip holds there (`writeSlot_outcome`). -/
namespace Keypad

open Flash (Chip Entry Fault strike strikeReads)

namespace Store

variable {g : Geometry} {s : Store g} {f : Fault} {rest : List Fault}

@[simp] theorem chip_patch (s : Store g) (offset : Nat) (bytes : Array UInt8) :
    (s.patch offset bytes).chip = s.chip := by
  cases s
  rfl

@[simp] theorem buffer_patch (s : Store g) (offset : Nat) (bytes : Array UInt8) :
    (s.patch offset bytes).buffer = Memory.place offset slotSize bytes s.buffer := by
  cases s
  simp only [patch]

theorem onChip_passed {α : Type} {a : α} {chip : Chip g.sectorSize}
    (call : Chip g.sectorSize → Except Flash.FlashError α × Chip g.sectorSize)
    (passed : call s.chip = (.ok a, chip)) : s.onChip call = (.ok a, { s with chip }) := by
  rw [onChip_eq, passed]
  rfl

theorem slot_struck {index : Nat} (known : index < g.slotCount)
    (hit : strike .read s.chip.faults = (some f, rest)) :
    s.slot index =
      (.error (.ofFlash f.error), { s with chip := { s.chip with faults := rest } }) := by
  rw [slot, if_neg (Nat.not_le.mpr known), onChip_eq, Chip.read_struck hit]
  rfl

theorem slot_passed {index : Nat} (fits : g.Fits s.chip.capacity) (known : index < g.slotCount)
    (passed : strike .read s.chip.faults = (none, rest)) :
    s.slot index =
      (.ok (s.chip.cells.extract (g.slotStart index) (g.slotStart index + slotSize)),
        { s with chip := { s.chip with faults := rest } }) := by
  have start := Geometry.toNat_slotAddress fits known
  have within : (g.slotAddress index).toNat + slotSize ≤ s.chip.cells.size := by
    have last := g.slotEnd_le known
    have room := fits.within
    unfold Chip.capacity at room
    omega
  rw [slot, if_neg (Nat.not_le.mpr known), onChip_eq, Chip.read_passed passed within, start]
  rfl

def took (s : Store g) (faults : List Fault) (first done : Nat) : Store g :=
  Store.patch { s with chip := { s.chip with faults } } (done * slotSize)
    (s.chip.cells.extract (g.slotStart (first + done)) (g.slotStart (first + done) + slotSize))

theorem chip_took (s : Store g) (faults : List Fault) (first done : Nat) :
    (s.took faults first done).chip = { s.chip with faults } :=
  chip_patch ..

theorem buffer_took (s : Store g) (faults : List Fault) (first done k : Nat) :
    (s.took faults first done).buffer[k]? =
      if done * slotSize ≤ k ∧ k < done * slotSize + slotSize then
        s.buffer[k]?.map fun _ => s.chip.cells.getD (g.slotStart first + k) Memory.erased
      else s.buffer[k]? := by
  rw [took, buffer_patch, Memory.getElem?_place]
  by_cases now : done * slotSize ≤ k ∧ k < done * slotSize + slotSize
  · have place : g.slotStart (first + done) + (k - done * slotSize) = g.slotStart first + k := by
      unfold Geometry.slotStart
      rw [Nat.add_mul]
      omega
    rw [if_pos now, if_pos now, getD_extract _ (by omega), place]
  · rw [if_neg now, if_neg now]

theorem loadSlots_succ {first done count : Nat} {faults : List Fault}
    (fits : g.Fits s.chip.capacity) (known : first + done < g.slotCount)
    (passed : strike .read s.chip.faults = (none, faults)) :
    s.loadSlots first done (count + 1) =
      (s.took faults first done).loadSlots first (done + 1) count := by
  rw [loadSlots, slot_passed fits known passed]
  rfl

theorem loadSlots_struck {first done count : Nat} (fits : g.Fits s.chip.capacity)
    (known : first + done + count ≤ g.slotCount)
    (hit : strikeReads count s.chip.faults = (some f, rest)) :
    (s.loadSlots first done count).1 = .error (.ofFlash f.error) ∧
      (s.loadSlots first done count).2.chip = { s.chip with faults := rest } := by
  induction count generalizing s done with
  | zero => simp [strikeReads] at hit
  | succ count ih =>
    have within : first + done < g.slotCount := by omega
    cases first_read : strike .read s.chip.faults with
    | mk struck faults =>
      simp only [strikeReads, first_read] at hit
      cases struck with
      | some f' =>
        cases hit
        simp only [loadSlots, slot_struck within first_read, and_self]
      | none =>
        have chip := s.chip_took faults first done
        rw [loadSlots_succ fits within first_read]
        have later := @ih (s.took faults first done) (done + 1)
          (by rwa [chip]) (by omega) (by rwa [chip])
        rwa [chip] at later

/-- The slots that are read take their places in the buffer, and the rest of it stays. -/
theorem loadSlots_passed {first done count : Nat} (fits : g.Fits s.chip.capacity)
    (known : first + done + count ≤ g.slotCount)
    (passed : strikeReads count s.chip.faults = (none, rest)) :
    (s.loadSlots first done count).1 = .ok () ∧
      (s.loadSlots first done count).2.chip = { s.chip with faults := rest } ∧
      ∀ k, (s.loadSlots first done count).2.buffer[k]? =
        if done * slotSize ≤ k ∧ k < (done + count) * slotSize then
          s.buffer[k]?.map fun _ => s.chip.cells.getD (g.slotStart first + k) Memory.erased
        else s.buffer[k]? := by
  induction count generalizing s done with
  | zero =>
    simp only [strikeReads, Prod.mk.injEq, true_and] at passed
    subst passed
    refine ⟨rfl, rfl, ?_⟩
    intro k
    rw [Nat.add_zero, if_neg (by omega)]
    rfl
  | succ count ih =>
    have within : first + done < g.slotCount := by omega
    cases first_read : strike .read s.chip.faults with
    | mk struck faults =>
      simp only [strikeReads, first_read] at passed
      cases struck with
      | some f' => simp at passed
      | none =>
        have chip := s.chip_took faults first done
        rw [loadSlots_succ fits within first_read]
        obtain ⟨answer, chip_after, buffer⟩ := @ih (s.took faults first done)
          (done + 1) (by rwa [chip]) (by omega) (by rwa [chip])
        rw [chip] at chip_after
        refine ⟨answer, chip_after, ?_⟩
        intro k
        rw [buffer k, buffer_took, chip]
        simp only [Nat.add_mul, Nat.one_mul]
        by_cases later : done * slotSize + slotSize ≤ k ∧
            k < done * slotSize + slotSize + count * slotSize
        · rw [if_pos later, if_neg (by omega), if_pos (by omega)]
        · by_cases now : done * slotSize ≤ k ∧ k < done * slotSize + slotSize
          · rw [if_neg later, if_pos now, if_pos (by omega)]
          · rw [if_neg later, if_neg now, if_neg (by omega)]

theorem loadSector_struck {sector : Nat} (fits : g.Fits s.chip.capacity)
    (known : sector < g.sectorCount)
    (hit : strikeReads g.slotsPerSector s.chip.faults = (some f, rest)) :
    (s.loadSector sector).1 = .error (.ofFlash f.error) ∧
      (s.loadSector sector).2.chip = { s.chip with faults := rest } := by
  have last := g.slots_of_sector_le known
  exact loadSlots_struck fits (by omega) hit

theorem loadSector_passed {sector : Nat} (fits : g.Fits s.chip.capacity)
    (known : sector < g.sectorCount)
    (passed : strikeReads g.slotsPerSector s.chip.faults = (none, rest)) :
    (s.loadSector sector).1 = .ok () ∧
      (s.loadSector sector).2.chip = { s.chip with faults := rest } ∧
      ∀ k, k < g.sectorSize → (s.loadSector sector).2.buffer.getD k Memory.erased =
        s.chip.cells.getD (g.sectorStart sector + k) Memory.erased := by
  have last := g.slots_of_sector_le known
  obtain ⟨answer, chip, buffer⟩ :=
    loadSlots_passed fits (by omega : sector * g.slotsPerSector + 0 + g.slotsPerSector ≤ _) passed
  refine ⟨answer, chip, ?_⟩
  intro k small
  have present : k < s.buffer.size := s.size_buffer ▸ small
  have byte := buffer k
  rw [Nat.zero_add, g.slotsPerSector_mul, if_pos (by omega), Array.getElem?_eq_getElem present,
    g.slotStart_of_sector] at byte
  rw [Array.getD_eq_getD_getElem?, loadSector, byte]
  rfl

/-- The loaded buffer, with a slot changed, is what the chip is to hold. -/
theorem patch_eq_sectorImage {index : Nat} {cells : Array UInt8} (s : Store g) (data : Array UInt8)
    (loaded : ∀ k, k < g.sectorSize →
      s.buffer.getD k Memory.erased =
        cells.getD (g.sectorStart (g.sectorOf index) + k) Memory.erased) :
    (s.patch (g.offsetInSector index) data).buffer = g.sectorImage index data cells := by
  apply Array.ext_getElem?
  intro k
  have start := g.slotStart_eq index
  rw [buffer_patch, Memory.getElem?_place, Geometry.sectorImage, Array.getElem?_ofFn]
  by_cases small : k < g.sectorSize
  · have present : k < s.buffer.size := s.size_buffer ▸ small
    have byte := loaded k small
    rw [Array.getD_eq_getD_getElem?, Array.getElem?_eq_getElem present, Option.getD_some] at byte
    rw [dif_pos small, Array.getElem?_eq_getElem present]
    simp only [Geometry.intended]
    by_cases within : g.offsetInSector index ≤ k ∧ k < g.offsetInSector index + slotSize
    · have place : g.sectorStart (g.sectorOf index) + k - g.slotStart index =
          k - g.offsetInSector index := by omega
      rw [if_pos within, if_pos (by omega), place]
      rfl
    · rw [if_neg within, if_neg (by omega), byte]
  · have absent : s.buffer.size ≤ k := s.size_buffer ▸ Nat.not_lt.mp small
    have room := g.offset_add_le index
    rw [dif_neg small, if_neg (by omega), Array.getElem?_eq_none absent]

section Program

variable {sector : Nat} (fits : g.Fits s.chip.capacity) (known : sector < g.sectorCount)
include fits known

theorem programSector_eraseStruck (hit : strike .erase s.chip.faults = (some f, rest)) :
    (s.programSector sector).1 = .error (.ofFlash f.error) ∧
      (s.programSector sector).2.chip =
        ⟨Memory.erase (g.sectorStart sector) (min f.reach g.sectorSize) s.chip.cells, rest,
          g.eraseEntry sector true :: s.chip.journal⟩ := by
  have start := Geometry.toNat_sectorAddress fits (Nat.le_of_lt known)
  have stop := Geometry.toNat_sectorEnd fits known
  simp only [programSector, onChip_eq, g.sectorAddress_add, Chip.erase_struck hit, start, stop,
    Nat.add_sub_cancel_left]
  exact ⟨rfl, rfl⟩

theorem sector_erase_passed (passed : strike .erase s.chip.faults = (none, rest)) :
    s.chip.erase (g.sectorAddress sector) (g.sectorAddress (sector + 1)) =
      (.ok (), ⟨Memory.erase (g.sectorStart sector) g.sectorSize s.chip.cells, rest,
        g.eraseEntry sector false :: s.chip.journal⟩) := by
  have start := Geometry.toNat_sectorAddress fits (Nat.le_of_lt known)
  have stop := Geometry.toNat_sectorEnd fits known
  have last := g.sectorEnd_le known
  have room : g.base + g.regionSize ≤ s.chip.cells.size := fits.within
  have stop_aligned : (g.sectorAddress (sector + 1)).toNat % g.sectorSize = 0 := by
    rw [stop, ← g.sectorStart_succ, g.sectorStart_mod]
  rw [Chip.erase_passed passed (start ▸ g.sectorStart_mod sector) stop_aligned (by omega)
    (by omega), start, stop, Nat.add_sub_cancel_left]
  rfl

theorem programSector_writeStruck {between : List Fault}
    (passed : strike .erase s.chip.faults = (none, between))
    (hit : strike .write between = (some f, rest)) :
    (s.programSector sector).1 = .error (.ofFlash f.error) ∧
      (s.programSector sector).2.chip =
        ⟨Memory.program (g.sectorStart sector) f.reach s.buffer
          (Memory.erase (g.sectorStart sector) g.sectorSize s.chip.cells), rest,
          g.writeEntry sector true :: g.eraseEntry sector false :: s.chip.journal⟩ := by
  have start := Geometry.toNat_sectorAddress fits (Nat.le_of_lt known)
  have erase := onChip_passed (·.erase (g.sectorAddress sector) (g.sectorAddress (sector + 1)))
    (sector_erase_passed fits known passed)
  simp only [programSector, g.sectorAddress_add, erase, onChip_eq,
    Chip.write_struck (c := ⟨_, between, _⟩) hit, start, s.size_buffer]
  exact ⟨rfl, rfl⟩

theorem programSector_done {between : List Fault}
    (passed : strike .erase s.chip.faults = (none, between))
    (write_passed : strike .write between = (none, rest)) :
    (s.programSector sector).1 = .ok () ∧
      (s.programSector sector).2.chip =
        ⟨Memory.program (g.sectorStart sector) g.sectorSize s.buffer
          (Memory.erase (g.sectorStart sector) g.sectorSize s.chip.cells), rest,
          g.writeEntry sector false :: g.eraseEntry sector false :: s.chip.journal⟩ := by
  have start := Geometry.toNat_sectorAddress fits (Nat.le_of_lt known)
  have last := g.sectorEnd_le known
  have room : g.base + g.regionSize ≤ s.chip.cells.size := fits.within
  have within : (g.sectorAddress sector).toNat + s.buffer.size ≤
      (Memory.erase (g.sectorStart sector) g.sectorSize s.chip.cells).size := by
    rw [Memory.size_erase, start, s.size_buffer]
    omega
  have write := Chip.write_passed (c := (⟨Memory.erase (g.sectorStart sector) g.sectorSize
    s.chip.cells, between, g.eraseEntry sector false :: s.chip.journal⟩ : Chip g.sectorSize))
    write_passed within
  have erase := onChip_passed (·.erase (g.sectorAddress sector) (g.sectorAddress (sector + 1)))
    (sector_erase_passed fits known passed)
  rw [start, s.size_buffer] at write
  simp only [programSector, g.sectorAddress_add, erase, onChip_eq, write]
  exact ⟨rfl, rfl⟩

end Program

end Store

/-- The arguments of a write that gets as far as the chip. -/
structure Geometry.Accepts (g : Geometry) (index : Nat) (data : Array UInt8) : Prop where
  known : index < g.slotCount
  nonempty : 0 < data.size
  short : data.size ≤ slotSize

/-- What a call leaves behind on a chip: its answer, the bytes, the faults, and the changing calls
that it made, newest first. Where the faults stay, whichever they are, the chip was not called. -/
structure WriteReport where
  answer : Except StorageError Unit
  cells : Array UInt8
  faults : List Fault
  calls : List Entry

/-- The reports that a write of a slot may come to, by where it ends. -/
inductive WriteOutcome (g : Geometry) (index : Nat) (data cells : Array UInt8)
    (faults : List Fault) : WriteReport → Prop where
  | badIndex : g.slotCount ≤ index →
      WriteOutcome g index data cells faults ⟨.error .invalidId, cells, faults, []⟩
  | badData : index < g.slotCount → data.size = 0 ∨ slotSize < data.size →
      WriteOutcome g index data cells faults ⟨.error .invalidInput, cells, faults, []⟩
  | readFailed {f : Fault} {rest : List Fault} :
      g.Accepts index data → strikeReads g.slotsPerSector faults = (some f, rest) →
      WriteOutcome g index data cells faults ⟨.error (.ofFlash f.error), cells, rest, []⟩
  | eraseFailed {f : Fault} {read rest : List Fault} {torn : Array UInt8} :
      g.Accepts index data → strikeReads g.slotsPerSector faults = (none, read) →
      strike .erase read = (some f, rest) →
      g.Rewrites (g.sectorOf index) (g.partlyErased (g.sectorOf index) f.reach cells) cells torn →
      WriteOutcome g index data cells faults
        ⟨.error (.ofFlash f.error), torn, rest, [g.eraseEntry (g.sectorOf index) true]⟩
  | programFailed {f : Fault} {read erased rest : List Fault} {torn : Array UInt8} :
      g.Accepts index data → strikeReads g.slotsPerSector faults = (none, read) →
      strike .erase read = (none, erased) → strike .write erased = (some f, rest) →
      g.Rewrites (g.sectorOf index)
        (g.partlyProgrammed (g.sectorOf index) f.reach (g.intended index data cells)) cells torn →
      WriteOutcome g index data cells faults
        ⟨.error (.ofFlash f.error), torn, rest,
          [g.writeEntry (g.sectorOf index) true, g.eraseEntry (g.sectorOf index) false]⟩
  | done {read erased rest : List Fault} {written : Array UInt8} :
      g.Accepts index data → strikeReads g.slotsPerSector faults = (none, read) →
      strike .erase read = (none, erased) → strike .write erased = (none, rest) →
      g.Rewrites (g.sectorOf index) (g.intended index data cells) cells written →
      WriteOutcome g index data cells faults
        ⟨.ok (), written, rest,
          [g.writeEntry (g.sectorOf index) false, g.eraseEntry (g.sectorOf index) false]⟩

namespace Store

variable {g : Geometry}

theorem writeSlot_badIndex (s : Store g) {index : Nat} (data : Array UInt8)
    (unknown : g.slotCount ≤ index) : s.writeSlot index data = (.error .invalidId, s) := by
  rw [writeSlot, if_pos unknown]

theorem writeSlot_badData (s : Store g) {index : Nat} {data : Array UInt8}
    (known : index < g.slotCount) (bad : data.size = 0 ∨ slotSize < data.size) :
    s.writeSlot index data = (.error .invalidInput, s) := by
  rw [writeSlot, if_neg (Nat.not_le.mpr known), if_pos bad]

variable {s : Store g} {index : Nat} {data : Array UInt8} {f : Fault} {rest : List Fault}

theorem writeSlot_readStruck (fits : g.Fits s.chip.capacity) (accepted : g.Accepts index data)
    (hit : strikeReads g.slotsPerSector s.chip.faults = (some f, rest)) :
    (s.writeSlot index data).1 = .error (.ofFlash f.error) ∧
      (s.writeSlot index data).2.chip = { s.chip with faults := rest } := by
  obtain ⟨known, nonempty, short⟩ := accepted
  have load := loadSector_struck fits (g.sectorOf_lt known) hit
  have good : ¬ (data.size = 0 ∨ slotSize < data.size) := by omega
  rw [writeSlot, if_neg (Nat.not_le.mpr known), if_neg good]
  cases loaded : s.loadSector (g.sectorOf index) with
  | mk answer t =>
    rw [loaded] at load
    obtain ⟨answer_eq, chip_eq⟩ := load
    simp only at answer_eq chip_eq
    subst answer_eq
    exact ⟨rfl, chip_eq⟩

/-- Once the sector is read, what the buffer held before no longer matters. -/
theorem writeSlot_loaded (fits : g.Fits s.chip.capacity) (accepted : g.Accepts index data)
    (passed : strikeReads g.slotsPerSector s.chip.faults = (none, rest)) :
    ∃ t : Store g, s.writeSlot index data = t.programSector (g.sectorOf index) ∧
      t.chip = { s.chip with faults := rest } ∧
      t.buffer = g.sectorImage index data s.chip.cells := by
  obtain ⟨known, nonempty, short⟩ := accepted
  have load := loadSector_passed fits (g.sectorOf_lt known) passed
  have good : ¬ (data.size = 0 ∨ slotSize < data.size) := by omega
  rw [writeSlot, if_neg (Nat.not_le.mpr known), if_neg good]
  cases loaded : s.loadSector (g.sectorOf index) with
  | mk answer t =>
    rw [loaded] at load
    obtain ⟨answer_eq, chip_eq, buffer⟩ := load
    simp only at answer_eq chip_eq buffer
    subst answer_eq
    exact ⟨t.patch (g.offsetInSector index) data, rfl, by rw [chip_patch, chip_eq],
      patch_eq_sectorImage t data buffer⟩

theorem writeSlot_eraseStruck {read : List Fault} (fits : g.Fits s.chip.capacity)
    (accepted : g.Accepts index data)
    (reads : strikeReads g.slotsPerSector s.chip.faults = (none, read))
    (hit : strike .erase read = (some f, rest)) :
    (s.writeSlot index data).1 = .error (.ofFlash f.error) ∧
      (s.writeSlot index data).2.chip =
        ⟨Memory.erase (g.sectorStart (g.sectorOf index)) (min f.reach g.sectorSize) s.chip.cells,
          rest, g.eraseEntry (g.sectorOf index) true :: s.chip.journal⟩ := by
  obtain ⟨t, run, chip, buffer⟩ := writeSlot_loaded fits accepted reads
  have ending := programSector_eraseStruck (s := t) (by rwa [chip]) (g.sectorOf_lt accepted.known)
    (by rwa [chip])
  rw [run, ending.1, ending.2, chip]
  exact ⟨rfl, rfl⟩

theorem writeSlot_writeStruck {read erased : List Fault} (fits : g.Fits s.chip.capacity)
    (accepted : g.Accepts index data)
    (reads : strikeReads g.slotsPerSector s.chip.faults = (none, read))
    (erase : strike .erase read = (none, erased)) (hit : strike .write erased = (some f, rest)) :
    (s.writeSlot index data).1 = .error (.ofFlash f.error) ∧
      (s.writeSlot index data).2.chip =
        ⟨Memory.program (g.sectorStart (g.sectorOf index)) f.reach
            (g.sectorImage index data s.chip.cells)
            (Memory.erase (g.sectorStart (g.sectorOf index)) g.sectorSize s.chip.cells),
          rest, g.writeEntry (g.sectorOf index) true :: g.eraseEntry (g.sectorOf index) false ::
            s.chip.journal⟩ := by
  obtain ⟨t, run, chip, buffer⟩ := writeSlot_loaded fits accepted reads
  have ending := programSector_writeStruck (s := t) (by rwa [chip]) (g.sectorOf_lt accepted.known)
    (by rwa [chip]) hit
  rw [run, ending.1, ending.2, chip, buffer]
  exact ⟨rfl, rfl⟩

theorem writeSlot_done {read erased : List Fault} (fits : g.Fits s.chip.capacity)
    (accepted : g.Accepts index data)
    (reads : strikeReads g.slotsPerSector s.chip.faults = (none, read))
    (erase : strike .erase read = (none, erased)) (write : strike .write erased = (none, rest)) :
    (s.writeSlot index data).1 = .ok () ∧
      (s.writeSlot index data).2.chip =
        ⟨Memory.program (g.sectorStart (g.sectorOf index)) g.sectorSize
            (g.sectorImage index data s.chip.cells)
            (Memory.erase (g.sectorStart (g.sectorOf index)) g.sectorSize s.chip.cells),
          rest, g.writeEntry (g.sectorOf index) false :: g.eraseEntry (g.sectorOf index) false ::
            s.chip.journal⟩ := by
  obtain ⟨t, run, chip, buffer⟩ := writeSlot_loaded fits accepted reads
  have ending := programSector_done (s := t) (by rwa [chip]) (g.sectorOf_lt accepted.known)
    (by rwa [chip]) write
  rw [run, ending.1, ending.2, chip, buffer]
  exact ⟨rfl, rfl⟩

/-- Where a write of a slot ends is a matter of the chip's bytes, the faults and the arguments.
The store that writes may be left over from any earlier calls. -/
theorem writeSlot_outcome (g : Geometry) (cells : Array UInt8) (faults : List Fault)
    (fits : g.Fits cells.size) (index : Nat) (data : Array UInt8) :
    ∃ r, WriteOutcome g index data cells faults r ∧
      ∀ s : Store g, s.chip.cells = cells → s.chip.faults = faults →
        (s.writeSlot index data).1 = r.answer ∧
        (s.writeSlot index data).2.chip = ⟨r.cells, r.faults, r.calls ++ s.chip.journal⟩ := by
  by_cases unknown : g.slotCount ≤ index
  · refine ⟨_, .badIndex unknown, ?_⟩
    rintro s rfl rfl
    rw [writeSlot_badIndex s data unknown]
    exact ⟨rfl, rfl⟩
  have known : index < g.slotCount := Nat.not_le.mp unknown
  by_cases bad : data.size = 0 ∨ slotSize < data.size
  · refine ⟨_, .badData known bad, ?_⟩
    rintro s rfl rfl
    rw [writeSlot_badData s known bad]
    exact ⟨rfl, rfl⟩
  have accepted : g.Accepts index data := ⟨known, by omega, by omega⟩
  have within : g.sectorStart (g.sectorOf index) + g.sectorSize ≤ cells.size :=
    Nat.le_trans (g.sectorEnd_le (g.sectorOf_lt known)) fits.within
  -- One case for each call that a fault may strike, in the order in which they are made.
  rcases reads : strikeReads g.slotsPerSector faults with ⟨_ | f, read⟩
  · rcases erase : strike .erase read with ⟨_ | f, erased⟩
    · rcases write : strike .write erased with ⟨_ | f, rest⟩
      · refine ⟨_, .done accepted reads erase write (g.rewrites_program_all index data within), ?_⟩
        rintro s rfl rfl
        exact writeSlot_done fits accepted reads erase write
      · refine ⟨_, .programFailed accepted reads erase write
          (g.rewrites_program index data within f.reach), ?_⟩
        rintro s rfl rfl
        exact writeSlot_writeStruck fits accepted reads erase write
    · refine ⟨_, .eraseFailed accepted reads erase (g.rewrites_erase within f.reach), ?_⟩
      rintro s rfl rfl
      exact writeSlot_eraseStruck fits accepted reads erase
  · refine ⟨_, .readFailed accepted reads, ?_⟩
    rintro s rfl rfl
    exact writeSlot_readStruck fits accepted reads

/-- On a blank chip of one sector, a write whose program is cut short is answered by an error. -/
theorem writeSlot_cut_short :
    let g := Bench.Layout.one.geometry
    let faults : List Fault := [{ on := .write, reach := 2048 }]
    g.Fits (Array.replicate 8192 Memory.erased).size ∧
      ∃ r, WriteOutcome g 3 #[1, 2, 3] (Array.replicate 8192 Memory.erased) faults r ∧
        r.answer = .error .flash ∧
        ∀ s : Store g, s.chip.cells = Array.replicate 8192 Memory.erased →
          s.chip.faults = faults → (s.writeSlot 3 #[1, 2, 3]).1 = r.answer := by
  intro g faults
  have fits : g.Fits (Array.replicate 8192 Memory.erased).size := by
    constructor
    · rw [Array.size_replicate]
      decide
    · decide
  obtain ⟨r, outcome, answers⟩ := writeSlot_outcome g _ faults fits 3 #[1, 2, 3]
  refine ⟨fits, r, outcome, ?_, fun s cells_eq faults_eq => (answers s cells_eq faults_eq).1⟩
  have reads : strikeReads g.slotsPerSector faults = (none, faults) := by decide
  have erase : strike .erase faults = (none, faults) := by decide
  have write : (strike .write faults).1 = faults.head? := by decide
  cases outcome with
  | badIndex unknown => exact absurd unknown (by decide)
  | badData known bad => exact absurd bad (by decide)
  | readFailed accepted hit => simp [reads] at hit
  | eraseFailed accepted passed hit torn =>
    obtain rfl := (Prod.mk.inj (reads.symm.trans passed)).2
    simp [erase] at hit
  | programFailed accepted passed erased hit torn =>
    obtain rfl := (Prod.mk.inj (reads.symm.trans passed)).2
    obtain rfl := (Prod.mk.inj (erase.symm.trans erased)).2
    rw [hit] at write
    obtain rfl := Option.some.inj write
    rfl
  | done accepted passed erased hit torn =>
    obtain rfl := (Prod.mk.inj (reads.symm.trans passed)).2
    obtain rfl := (Prod.mk.inj (erase.symm.trans erased)).2
    simp [hit, faults] at write

end Store

end Keypad
