import Keypad.Bytes.LittleEndian
import Keypad.Storage.Geometry

/-! Records, the values that slots keep. A record is written field by field into a fixed number of
bytes, and read from bytes that may be anything. -/
namespace Keypad

/-- The word that a valid record starts with. An erased or half written slot starts otherwise. -/
def recordMagic : UInt32 := 0xdeadbeef

/-- A type whose values have a stored form of `size` bytes, which fit a slot. `decode` makes a
value of any bytes. It takes the first `needed` of them to be there; how many those are may depend
on the bytes, and a stored form always has them. Bytes that do not come from a slot go through
`decode?`. -/
class Record (α : Type) where
  size : Nat
  needed : List UInt8 → Nat
  encode : α → List UInt8
  decode : List UInt8 → α
  length_encode : ∀ v, (encode v).length = size
  needed_le : ∀ bs, needed bs ≤ size
  size_le : size ≤ slotSize

namespace Record

variable {α : Type} [Record α]

def decode? (bs : List UInt8) : Option α :=
  if bs.length < needed α bs then none else some (decode bs)

theorem decode?_of_size_le {bs : List UInt8} (enough : size α ≤ bs.length) :
    decode? (α := α) bs = some (decode bs) := by
  have := needed_le (α := α) bs
  unfold decode?
  rw [if_neg (by omega)]

end Record

inductive RecordKind where
  | housekeeping
  | keyTable
  | activeFeature
  | sessionTable
  deriving DecidableEq, Repr, Inhabited

namespace RecordKind

def count : Nat := 4

def index : RecordKind → Nat
  | housekeeping => 0
  | keyTable => 1
  | activeFeature => 2
  | sessionTable => 3

theorem index_lt (kind : RecordKind) : kind.index < count := by cases kind <;> decide

end RecordKind

end Keypad
