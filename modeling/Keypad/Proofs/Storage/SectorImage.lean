import Keypad.Flash.Chip
import Keypad.Proofs.Storage.Addresses

namespace Keypad

open Flash (Entry)

theorem getD_extract (cells : Array UInt8) {start stop i : Nat} (inside : i < stop - start)
    (otherwise : UInt8) :
    (cells.extract start stop).getD i otherwise = cells.getD (start + i) otherwise := by
  simp only [Array.getD_eq_getD_getElem?, Array.getElem?_extract]
  by_cases present : start + i < cells.size
  · rw [if_pos (by omega)]
  · rw [if_neg (by omega), Array.getElem?_eq_none (by omega)]

theorem erased_and (b : UInt8) : Memory.erased &&& b = b := by
  rw [← UInt8.toBitVec_inj]
  exact BitVec.allOnes_and

namespace Geometry

/-- What the chip is to hold once `data` is in a slot, with erased bytes behind it. -/
def intended (g : Geometry) (index : Nat) (data cells : Array UInt8) (j : Nat) : UInt8 :=
  if g.slotStart index ≤ j ∧ j < g.slotStart index + slotSize then
    data.getD (j - g.slotStart index) Memory.erased
  else cells.getD j Memory.erased

def sectorImage (g : Geometry) (index : Nat) (data cells : Array UInt8) : Array UInt8 :=
  Array.ofFn fun k : Fin g.sectorSize =>
    g.intended index data cells (g.sectorStart (g.sectorOf index) + k)

/-- `after` holds `image` in a sector, and everywhere else what was there before. -/
structure Rewrites (g : Geometry) (sector : Nat) (image : Nat → UInt8)
    (before after : Array UInt8) : Prop where
  size_eq : after.size = before.size
  inside : ∀ j, g.sectorStart sector ≤ j → j < g.sectorStart sector + g.sectorSize →
    after[j]? = some (image j)
  outside : ∀ j, ¬ (g.sectorStart sector ≤ j ∧ j < g.sectorStart sector + g.sectorSize) →
    after[j]? = before[j]?

def partlyErased (g : Geometry) (sector reach : Nat) (cells : Array UInt8) (j : Nat) : UInt8 :=
  if j < g.sectorStart sector + min reach g.sectorSize then Memory.erased
  else cells.getD j Memory.erased

def partlyProgrammed (g : Geometry) (sector reach : Nat) (image : Nat → UInt8) (j : Nat) : UInt8 :=
  if j < g.sectorStart sector + min reach g.sectorSize then image j else Memory.erased

def eraseEntry (g : Geometry) (sector : Nat) (struck : Bool) : Entry :=
  ⟨.erase (g.sectorAddress sector) (g.sectorAddress (sector + 1)), struck⟩

def writeEntry (g : Geometry) (sector : Nat) (struck : Bool) : Entry :=
  ⟨.write (g.sectorAddress sector) g.sectorSize, struck⟩

variable {g : Geometry} {sector : Nat} {cells : Array UInt8}

theorem rewrites_erase (within : g.sectorStart sector + g.sectorSize ≤ cells.size) (reach : Nat) :
    g.Rewrites sector (g.partlyErased sector reach cells) cells
      (Memory.erase (g.sectorStart sector) (min reach g.sectorSize) cells) where
  size_eq := Memory.size_erase ..
  inside j lower upper := by
    have present : j < cells.size := by omega
    rw [Memory.getElem?_erase, Array.getElem?_eq_getElem present]
    unfold partlyErased
    by_cases reached : j < g.sectorStart sector + min reach g.sectorSize
    · rw [if_pos ⟨lower, reached⟩, if_pos reached, Option.map_some]
    · rw [if_neg (fun both => reached both.2), if_neg reached]
      simp [Array.getD, present]
  outside j apart := by
    rw [Memory.getElem?_erase, if_neg (by omega)]

@[simp] theorem size_sectorImage (index : Nat) (data cells : Array UInt8) :
    (g.sectorImage index data cells).size = g.sectorSize := Array.size_ofFn

theorem getD_sectorImage (index : Nat) (data cells : Array UInt8) {j : Nat}
    (lower : g.sectorStart (g.sectorOf index) ≤ j)
    (upper : j < g.sectorStart (g.sectorOf index) + g.sectorSize) :
    (g.sectorImage index data cells).getD (j - g.sectorStart (g.sectorOf index)) Memory.erased =
      g.intended index data cells j := by
  have small : j - g.sectorStart (g.sectorOf index) < g.sectorSize := by omega
  have place : g.sectorStart (g.sectorOf index) + (j - g.sectorStart (g.sectorOf index)) = j :=
    Nat.add_sub_cancel' lower
  simp [Array.getD, sectorImage, small, place]

/-- Programming clears bits only, but an erased byte has all bits to clear. -/
theorem rewrites_program (index : Nat) (data : Array UInt8)
    (within : g.sectorStart (g.sectorOf index) + g.sectorSize ≤ cells.size) (reach : Nat) :
    g.Rewrites (g.sectorOf index)
      (g.partlyProgrammed (g.sectorOf index) reach (g.intended index data cells)) cells
      (Memory.program (g.sectorStart (g.sectorOf index)) reach (g.sectorImage index data cells)
        (Memory.erase (g.sectorStart (g.sectorOf index)) g.sectorSize cells)) where
  size_eq := by rw [Memory.size_program, Memory.size_erase]
  inside j lower upper := by
    have present : j < cells.size := by omega
    have cleared : (Memory.erase (g.sectorStart (g.sectorOf index)) g.sectorSize cells)[j]? =
        some Memory.erased := by
      rw [Memory.getElem?_erase, if_pos ⟨lower, upper⟩, Array.getElem?_eq_getElem present]
      rfl
    rw [Memory.getElem?_program, size_sectorImage, cleared, getD_sectorImage index data cells lower
      upper]
    unfold partlyProgrammed
    by_cases reached : j < g.sectorStart (g.sectorOf index) + min reach g.sectorSize
    · rw [if_pos ⟨lower, reached⟩, if_pos reached, Option.map_some, erased_and]
    · rw [if_neg (fun both => reached both.2), if_neg reached]
  outside j apart := by
    rw [Memory.getElem?_program, size_sectorImage, if_neg (by omega), Memory.getElem?_erase,
      if_neg apart]

theorem rewrites_program_all (index : Nat) (data : Array UInt8)
    (within : g.sectorStart (g.sectorOf index) + g.sectorSize ≤ cells.size) :
    g.Rewrites (g.sectorOf index) (g.intended index data cells) cells
      (Memory.program (g.sectorStart (g.sectorOf index)) g.sectorSize
        (g.sectorImage index data cells)
        (Memory.erase (g.sectorStart (g.sectorOf index)) g.sectorSize cells)) := by
  have partly := rewrites_program index data within g.sectorSize
  refine ⟨partly.size_eq, ?_, partly.outside⟩
  intro j lower upper
  rw [partly.inside j lower upper, partlyProgrammed, Nat.min_self, if_pos upper]

end Geometry

end Keypad
