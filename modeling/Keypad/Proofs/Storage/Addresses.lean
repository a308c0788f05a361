import Keypad.Storage.Geometry

namespace Keypad.Geometry

/-- The region fits a chip, and the words that name its addresses do not wrap around. -/
structure Fits (g : Geometry) (capacity : Nat) : Prop where
  within : g.base + g.regionSize ≤ capacity
  addressable : g.base + g.regionSize < UInt32.size

def slotStart (g : Geometry) (index : Nat) : Nat := g.base + index * slotSize

def sectorStart (g : Geometry) (sector : Nat) : Nat := g.base + sector * g.sectorSize

variable (g : Geometry)

theorem slotsPerSector_mul : g.slotsPerSector * slotSize = g.sectorSize :=
  Nat.div_mul_cancel g.slotSize_dvd

theorem sectorCount_mul : g.sectorCount * g.sectorSize = g.regionSize :=
  Nat.div_mul_cancel g.sectorSize_dvd_region

theorem slotsPerSector_pos : 0 < g.slotsPerSector := by
  have full := g.slotsPerSector_mul
  have positive := g.sectorSize_pos
  rcases Nat.eq_zero_or_pos g.slotsPerSector with none | some
  · rw [none, Nat.zero_mul] at full
    omega
  · exact some

theorem index_mul (index : Nat) :
    index * slotSize = g.sectorOf index * g.sectorSize + g.offsetInSector index := by
  have split := Nat.div_add_mod index g.slotsPerSector
  calc
    index * slotSize
        = (g.slotsPerSector * (index / g.slotsPerSector) + index % g.slotsPerSector) *
            slotSize := by
      rw [split]
    _ = index / g.slotsPerSector * (g.slotsPerSector * slotSize) +
          index % g.slotsPerSector * slotSize := by
      rw [Nat.add_mul, Nat.mul_comm g.slotsPerSector, Nat.mul_assoc]
    _ = g.sectorOf index * g.sectorSize + g.offsetInSector index := by
      rw [g.slotsPerSector_mul]
      rfl

theorem slotStart_eq (index : Nat) :
    g.slotStart index = g.sectorStart (g.sectorOf index) + g.offsetInSector index := by
  unfold slotStart sectorStart
  rw [g.index_mul index]
  omega

theorem offset_add_le (index : Nat) : g.offsetInSector index + slotSize ≤ g.sectorSize := by
  have below : index % g.slotsPerSector + 1 ≤ g.slotsPerSector :=
    Nat.mod_lt index g.slotsPerSector_pos
  have scaled := Nat.mul_le_mul_right slotSize below
  rw [g.slotsPerSector_mul, Nat.succ_mul] at scaled
  exact scaled

theorem slotEnd_le {index : Nat} (known : index < g.slotCount) :
    g.slotStart index + slotSize ≤ g.base + g.regionSize := by
  have scaled := Nat.mul_le_mul_right slotSize (Nat.succ_le_of_lt known)
  rw [Nat.succ_mul] at scaled
  unfold slotStart regionSize
  omega

theorem sectorStart_succ (sector : Nat) :
    g.sectorStart (sector + 1) = g.sectorStart sector + g.sectorSize := by
  unfold sectorStart
  rw [Nat.succ_mul]
  omega

theorem sectorStart_le {sector : Nat} (known : sector ≤ g.sectorCount) :
    g.sectorStart sector ≤ g.base + g.regionSize := by
  have scaled := Nat.mul_le_mul_right g.sectorSize known
  rw [g.sectorCount_mul] at scaled
  exact Nat.add_le_add_left scaled g.base

theorem sectorEnd_le {sector : Nat} (known : sector < g.sectorCount) :
    g.sectorStart sector + g.sectorSize ≤ g.base + g.regionSize :=
  g.sectorStart_succ sector ▸ g.sectorStart_le known

theorem slotsPerSector_mul_sectorCount : g.slotsPerSector * g.sectorCount = g.slotCount := by
  apply Nat.eq_of_mul_eq_mul_right (show 0 < slotSize by decide)
  rw [Nat.mul_right_comm, g.slotsPerSector_mul, Nat.mul_comm, g.sectorCount_mul]
  rfl

theorem sectorOf_lt {index : Nat} (known : index < g.slotCount) :
    g.sectorOf index < g.sectorCount := by
  apply Nat.div_lt_of_lt_mul
  rw [g.slotsPerSector_mul_sectorCount]
  exact known

theorem slots_of_sector_le {sector : Nat} (known : sector < g.sectorCount) :
    sector * g.slotsPerSector + g.slotsPerSector ≤ g.slotCount := by
  have scaled := Nat.mul_le_mul_right g.slotsPerSector (Nat.succ_le_of_lt known)
  rw [Nat.succ_mul, Nat.mul_comm g.sectorCount, g.slotsPerSector_mul_sectorCount] at scaled
  exact scaled

theorem slotStart_of_sector (sector : Nat) :
    g.slotStart (sector * g.slotsPerSector) = g.sectorStart sector := by
  unfold slotStart sectorStart
  rw [Nat.mul_assoc, g.slotsPerSector_mul]

theorem sectorStart_mod (sector : Nat) : g.sectorStart sector % g.sectorSize = 0 := by
  obtain ⟨n, base_eq⟩ := g.sectorSize_dvd_base
  unfold sectorStart
  rw [base_eq, Nat.mul_comm sector, ← Nat.mul_add, Nat.mul_mod_right]

theorem sectorAddress_add (sector : Nat) :
    g.sectorAddress sector + UInt32.ofNat g.sectorSize = g.sectorAddress (sector + 1) := by
  unfold sectorAddress
  rw [← UInt32.ofNat_add, Nat.succ_mul, Nat.add_assoc]

section Words

variable {g : Geometry} {capacity : Nat} (fits : g.Fits capacity)
include fits

theorem toNat_slotAddress {index : Nat} (known : index < g.slotCount) :
    (g.slotAddress index).toNat = g.slotStart index := by
  have last := g.slotEnd_le known
  have bound := fits.addressable
  have small : g.slotStart index < UInt32.size := by
    have slot_pos : 0 < slotSize := by decide
    omega
  exact UInt32.toNat_ofNat_of_lt' small

theorem toNat_sectorAddress {sector : Nat} (known : sector ≤ g.sectorCount) :
    (g.sectorAddress sector).toNat = g.sectorStart sector := by
  have small : g.sectorStart sector < UInt32.size :=
    Nat.lt_of_le_of_lt (g.sectorStart_le known) fits.addressable
  exact UInt32.toNat_ofNat_of_lt' small

theorem toNat_sectorEnd {sector : Nat} (known : sector < g.sectorCount) :
    (g.sectorAddress (sector + 1)).toNat = g.sectorStart sector + g.sectorSize := by
  rw [← g.sectorStart_succ]
  exact toNat_sectorAddress fits (Nat.succ_le_of_lt known)

theorem toNat_endAddress : g.endAddress.toNat = g.base + g.regionSize :=
  UInt32.toNat_ofNat_of_lt' fits.addressable

end Words

end Keypad.Geometry
