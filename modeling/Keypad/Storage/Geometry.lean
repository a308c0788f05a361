namespace Keypad

def slotSize : Nat := 1024

/-- A storage region that starts at `base` of the chip. Every sector holds whole slots, and the
region holds whole sectors. -/
structure Geometry where
  base : Nat
  slotCount : Nat
  sectorSize : Nat
  four_le_slotCount : 4 ≤ slotCount := by decide
  sectorSize_pos : 0 < sectorSize := by decide
  slotSize_dvd : slotSize ∣ sectorSize := by decide
  sectorSize_dvd_region : sectorSize ∣ slotCount * slotSize := by decide
  sectorSize_dvd_base : sectorSize ∣ base := by decide

namespace Geometry

variable (g : Geometry)

def regionSize : Nat := g.slotCount * slotSize

def slotsPerSector : Nat := g.sectorSize / slotSize

def sectorCount : Nat := g.regionSize / g.sectorSize

def slotAddress (index : Nat) : UInt32 := UInt32.ofNat (g.base + index * slotSize)

def sectorAddress (sector : Nat) : UInt32 := UInt32.ofNat (g.base + sector * g.sectorSize)

def endAddress : UInt32 := UInt32.ofNat (g.base + g.regionSize)

def sectorOf (index : Nat) : Nat := index / g.slotsPerSector

def offsetInSector (index : Nat) : Nat := index % g.slotsPerSector * slotSize

end Geometry

end Keypad
