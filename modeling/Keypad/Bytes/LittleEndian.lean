namespace Keypad.LittleEndian

def value : List UInt8 → Nat
  | [] => 0
  | b :: rest => b.toNat + 256 * value rest

def bytes : Nat → Nat → List UInt8
  | 0, _ => []
  | width + 1, n => UInt8.ofNat n :: bytes width (n / 256)

@[simp] theorem length_bytes (width n : Nat) : (bytes width n).length = width := by
  induction width generalizing n with
  | zero => rfl
  | succ width ih => simp [bytes, ih]

def word16 (bs : List UInt8) (offset : Nat) : UInt16 :=
  UInt16.ofNat (value ((bs.drop offset).take 2))

def word32 (bs : List UInt8) (offset : Nat) : UInt32 :=
  UInt32.ofNat (value ((bs.drop offset).take 4))

def word64 (bs : List UInt8) (offset : Nat) : UInt64 :=
  UInt64.ofNat (value ((bs.drop offset).take 8))

/-- The byte at an offset, zero past the end. -/
def byte (bs : List UInt8) (offset : Nat) : UInt8 := bs.getD offset 0

end Keypad.LittleEndian
