/-! Writing into a buffer that is handed in. A filler is given the bytes that are there, and leaves
others, or refuses a buffer that is too short for it. What it does not write over stays. -/
namespace Keypad

abbrev Filler := List UInt8 → Option (List UInt8)

namespace Filler

/-- Puts bytes over a whole buffer, which has to be as long as they are. -/
def copy (bytes : List UInt8) : Filler := fun buffer =>
  if buffer.length = bytes.length then some bytes else none

def within (offset size : Nat) (fill : Filler) : Filler := fun buffer =>
  if buffer.length < offset + size then none
  else
    (fill ((buffer.drop offset).take size)).map fun stretch =>
      buffer.take offset ++ stretch ++ buffer.drop (offset + size)

def behind (offset : Nat) (fill : Filler) : Filler := fun buffer =>
  within offset (buffer.length - offset) fill buffer

/-- Fills chunks of `size` bytes, one after another, as long as whole ones are left. -/
def chunks (size : Nat) : List Filler → Filler
  | [], buffer => some buffer
  | fill :: rest, buffer =>
    if buffer.length < size then some buffer
    else
      match fill (buffer.take size), chunks size rest (buffer.drop size) with
      | some chunk, some others => some (chunk ++ others)
      | _, _ => none

def inTurn : List Filler → Filler
  | [], buffer => some buffer
  | fill :: rest, buffer => (fill buffer).bind (inTurn rest)

end Filler

end Keypad
