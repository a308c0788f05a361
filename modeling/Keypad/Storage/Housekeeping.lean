import Keypad.Bytes.Filler
import Keypad.Storage.Record

namespace Keypad

structure Housekeeping where
  magic : UInt32
  bootCount : UInt32
  deriving DecidableEq, Repr, Inhabited

namespace Housekeeping

open Filler (inTurn within copy)

def factory : Housekeeping := ⟨recordMagic, 0⟩

def unread : Housekeeping := ⟨0xffffffff, 0xffffffff⟩

/-- One more start; the count wraps around. -/
def counted (h : Housekeeping) : Housekeeping := { h with bootCount := h.bootCount + 1 }

instance : Record Housekeeping where
  size := 8
  needed _ := 8
  encode h := LittleEndian.bytes 4 h.magic.toNat ++ LittleEndian.bytes 4 h.bootCount.toNat
  decode bs := ⟨LittleEndian.word32 bs 0, LittleEndian.word32 bs 4⟩
  length_encode h := by simp
  needed_le _ := Nat.le_refl _
  size_le := by decide

def fill (h : Housekeeping) : Filler :=
  inTurn [within 0 4 (copy (LittleEndian.bytes 4 h.magic.toNat)),
    within 4 4 (copy (LittleEndian.bytes 4 h.bootCount.toNat))]

end Housekeeping

end Keypad
