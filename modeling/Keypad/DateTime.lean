import Keypad.Bytes.LittleEndian
import Keypad.Decimal

/-! The calendar's date and time, as shown in a log line and as stored in seven bytes. The fields
are kept as they come: a date need not be one of the calendar. -/
namespace Keypad

structure DateTime where
  year : UInt16 := 0
  month : UInt8 := 0
  day : UInt8 := 0
  hour : UInt8 := 0
  minute : UInt8 := 0
  second : UInt8 := 0
  deriving DecidableEq, Repr, Inhabited

namespace DateTime

def unset : DateTime := {}

def isUnset (d : DateTime) : Bool := d == unset

/-- Four digits for the year and two for every other field, more where the number needs them. -/
def text (d : DateTime) : String :=
  Decimal.padded 4 d.year.toNat ++ "-" ++ Decimal.padded 2 d.month.toNat ++ "-" ++
    Decimal.padded 2 d.day.toNat ++ " " ++ Decimal.padded 2 d.hour.toNat ++ ":" ++
    Decimal.padded 2 d.minute.toNat ++ ":" ++ Decimal.padded 2 d.second.toNat

def size : Nat := 7

def bytes (d : DateTime) : List UInt8 :=
  LittleEndian.bytes 2 d.year.toNat ++ [d.month, d.day, d.hour, d.minute, d.second]

@[simp] theorem length_bytes (d : DateTime) : d.bytes.length = size := by simp [bytes, size]

def ofBytes (bs : List UInt8) : DateTime where
  year := LittleEndian.word16 bs 0
  month := LittleEndian.byte bs 2
  day := LittleEndian.byte bs 3
  hour := LittleEndian.byte bs 4
  minute := LittleEndian.byte bs 5
  second := LittleEndian.byte bs 6

def ofBytes? (bs : List UInt8) : Option DateTime :=
  if bs.length < size then none else some (ofBytes bs)

end DateTime

end Keypad
