import Keypad.Storage.Geometry

/-! Named layouts: a geometry, and a chip to try it on. The chips of three layouts are too small. -/
namespace Keypad.Bench

structure Layout where
  geometry : Geometry
  capacity : Nat

namespace Layout

def standard : Layout := ⟨{ base := 4096, slotCount := 16, sectorSize := 4096 }, 20480⟩

def unit : Layout := ⟨{ base := 0, slotCount := 4, sectorSize := 1024 }, 4096⟩

def pair : Layout := ⟨{ base := 2048, slotCount := 6, sectorSize := 2048 }, 16384⟩

def wide : Layout := ⟨{ base := 16384, slotCount := 8, sectorSize := 8192 }, 24576⟩

def one : Layout := ⟨{ base := 0, slotCount := 8, sectorSize := 8192 }, 8192⟩

def named? (name : String) : Option Layout :=
  if name = "std" then some standard
  else if name = "unit" then some unit
  else if name = "pair" then some pair
  else if name = "wide" then some wide
  else if name = "one" then some one
  else if name = "short" then some { standard with capacity := 8192 }
  else if name = "short_sector" then some { pair with capacity := 6144 }
  else if name = "short_byte" then some { unit with capacity := 4095 }
  else none

end Layout

end Keypad.Bench
