import Keypad.Decimal

/-! Bytes as text: runs of equal bytes, each two hexadecimal digits and, for a run of more than
one byte, its length, as in "ef be 00*3". -/
namespace Keypad.Runs

def group : List UInt8 → List (UInt8 × Nat)
  | [] => []
  | b :: rest =>
    match group rest with
    | (c, n) :: runs => if b = c then (c, n + 1) :: runs else (b, 1) :: (c, n) :: runs
    | [] => [(b, 1)]

def ungroup (runs : List (UInt8 × Nat)) : List UInt8 :=
  runs.flatMap fun run => List.replicate run.2 run.1

def hexDigit (n : Nat) : Char := Nat.digitChar n

def hexByte (b : UInt8) : String :=
  String.ofList [hexDigit (b.toNat / 16), hexDigit (b.toNat % 16)]

def runText (run : UInt8 × Nat) : String :=
  if run.2 = 1 then hexByte run.1 else hexByte run.1 ++ "*" ++ Decimal.text run.2

def text (bs : List UInt8) : String := " ".intercalate ((group bs).map runText)

def hexValue? (c : Char) : Option Nat :=
  if '0' ≤ c ∧ c ≤ '9' then some (c.toNat - '0'.toNat)
  else if 'a' ≤ c ∧ c ≤ 'f' then some (c.toNat - 'a'.toNat + 10)
  else none

/-- Reads a run; its length may be one, and need not be maximal. -/
def run? (word : List Char) : Option (UInt8 × Nat) :=
  match word with
  | high :: low :: rest =>
    match hexValue? high, hexValue? low with
    | some h, some l =>
      match rest with
      | [] => some (UInt8.ofNat (16 * h + l), 1)
      | '*' :: count => (Decimal.value? count).map fun n => (UInt8.ofNat (16 * h + l), n)
      | _ => none
    | _, _ => none
  | _ => none

def words : List Char → List (List Char)
  | [] => [[]]
  | c :: rest =>
    match words rest with
    | [] => [[c]]
    | word :: more => if c = ' ' then [] :: word :: more else (c :: word) :: more

def bytes? (source : String) : Option (List UInt8) :=
  match source.toList with
  | [] => some []
  | chars => ((words chars).mapM run?).map ungroup

end Keypad.Runs
