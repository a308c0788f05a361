namespace Keypad.Decimal

def digits (n : Nat) : List Char := Nat.toDigits 10 n

def text (n : Nat) : String := String.ofList (digits n)

def padded (width n : Nat) : String :=
  String.ofList (List.replicate (width - (digits n).length) '0' ++ digits n)

def valueFrom? (start : Nat) : List Char → Option Nat
  | [] => some start
  | c :: rest =>
    if c.isDigit then valueFrom? (10 * start + (c.toNat - '0'.toNat)) rest else none

/-- Reads a number of digits only, and of at least one. -/
def value? (chars : List Char) : Option Nat :=
  if chars.isEmpty then none else valueFrom? 0 chars

end Keypad.Decimal
