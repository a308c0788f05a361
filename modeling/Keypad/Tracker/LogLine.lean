import Keypad.Decimal

/-! A log line of limited length. A piece that does not fit is left out, and so is all behind it. -/
namespace Keypad

def logLineSize : Nat := 64

structure LogLine where
  text : String
  fits : text.utf8ByteSize ≤ logLineSize

namespace LogLine

def empty : LogLine := ⟨"", by decide⟩

def append? (line : LogLine) (piece : String) : Option LogLine :=
  if fits : (line.text ++ piece).utf8ByteSize ≤ logLineSize then some ⟨_, fits⟩ else none

/-- Writes pieces up to the first that does not fit. -/
def write (line : LogLine) : List String → LogLine
  | [] => line
  | piece :: rest =>
    match line.append? piece with
    | some longer => longer.write rest
    | none => line

end LogLine

end Keypad
