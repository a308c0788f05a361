import Keypad.Bytes.LittleEndian
import Mathlib.Algebra.Group.Nat.Defs

namespace Keypad.LittleEndian

theorem value_bytes (width n : Nat) : value (bytes width n) = n % 256 ^ width := by
  induction width generalizing n with
  | zero => simp [bytes, value, Nat.mod_one]
  | succ width ih =>
    have power : 256 ^ (width + 1) = 256 * 256 ^ width := by rw [Nat.pow_succ, Nat.mul_comm]
    rw [power, Nat.mod_mul]
    simp only [bytes, value, ih, UInt8.toNat_ofNat']

/-- A number that stands behind `offset` other bytes. The offset is a hypothesis, so that it may
be spelled in any way. -/
theorem value_behind {front : List UInt8} {offset : Nat} (stands : front.length = offset)
    {width n : Nat} (small : n < 256 ^ width) (rest : List UInt8) :
    value (((front ++ (bytes width n ++ rest)).drop offset).take width) = n := by
  rw [← stands, List.drop_left, List.take_left' (length_bytes width n), value_bytes,
    Nat.mod_eq_of_lt small]

section Words

variable {front : List UInt8} {offset : Nat} (stands : front.length = offset) (rest : List UInt8)
include stands

theorem word16_behind (n : UInt16) :
    word16 (front ++ (bytes 2 n.toNat ++ rest)) offset = n := by
  rw [word16, value_behind stands n.toNat_lt, UInt16.ofNat_toNat]

theorem word32_behind (n : UInt32) :
    word32 (front ++ (bytes 4 n.toNat ++ rest)) offset = n := by
  rw [word32, value_behind stands n.toNat_lt, UInt32.ofNat_toNat]

theorem word64_behind (n : UInt64) :
    word64 (front ++ (bytes 8 n.toNat ++ rest)) offset = n := by
  rw [word64, value_behind stands n.toNat_lt, UInt64.ofNat_toNat]

theorem byte_behind (b : UInt8) : byte (front ++ b :: rest) offset = b := by
  rw [byte, ← stands, List.getD_eq_getElem?_getD, List.getElem?_append_right (Nat.le_refl _),
    Nat.sub_self]
  rfl

end Words

section FirstPart

variable {bs : List UInt8} {n offset : Nat}

theorem stretch_take {width : Nat} (inside : offset + width ≤ n) :
    ((bs.take n).drop offset).take width = (bs.drop offset).take width := by
  rw [List.drop_take, List.take_take, Nat.min_eq_left (by omega)]

theorem word16_take (offset : Nat) (inside : offset + 2 ≤ n) :
    word16 (bs.take n) offset = word16 bs offset := by
  rw [word16, stretch_take inside, word16]

theorem word32_take (offset : Nat) (inside : offset + 4 ≤ n) :
    word32 (bs.take n) offset = word32 bs offset := by
  rw [word32, stretch_take inside, word32]

theorem word64_take (offset : Nat) (inside : offset + 8 ≤ n) :
    word64 (bs.take n) offset = word64 bs offset := by
  rw [word64, stretch_take inside, word64]

theorem byte_take (offset : Nat) (inside : offset < n) :
    byte (bs.take n) offset = byte bs offset := by
  rw [byte, List.getD_eq_getElem?_getD, List.getElem?_take_of_lt inside, byte,
    List.getD_eq_getElem?_getD]

end FirstPart

end Keypad.LittleEndian
