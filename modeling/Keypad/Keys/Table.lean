import Keypad.Board
import Keypad.Bytes.Blocks
import Keypad.Bytes.Filler
import Keypad.Storage.Record

/-! The key table: what each key sends and shows, and how long a long press is. Keys are places of
the table; of its eight places the first `keyCount` are in use. -/
namespace Keypad

open Filler (inTurn within copy behind chunks)

def maxKeys : Nat := 8

def defaultLongPressMs : UInt32 := 1000

structure KeyEntry where
  value : KeyValue
  color : Color
  deriving DecidableEq, Repr, Inhabited

namespace KeyEntry

def unset : KeyEntry := ⟨.none, .none⟩

def size : Nat := 3

def bytes (e : KeyEntry) : List UInt8 := e.value.bytes ++ [e.color.code]

@[simp] theorem length_bytes (e : KeyEntry) : e.bytes.length = size := rfl

def fill (e : KeyEntry) : Filler :=
  inTurn [within 0 2 (copy e.value.bytes), within 2 1 (copy [e.color.code])]

/-- The entry at an offset. A value with an unknown tag is none; an entry that is cut off is
unset. -/
def ofBytes (bs : List UInt8) (offset : Nat) : KeyEntry :=
  if bs.length < offset + size then unset
  else
    { value :=
        (KeyValue.ofTag? (LittleEndian.byte bs offset) (LittleEndian.byte bs (offset + 1))).getD
          .none
      color := Color.ofCode (LittleEndian.byte bs (offset + 2)) }

end KeyEntry

structure KeyTable where
  magic : UInt32
  longPressMs : UInt32
  keyCount : UInt8
  keys : Vector KeyEntry maxKeys
  deriving DecidableEq, Repr

namespace KeyTable

/-- The table of a board: each button in the place of its id, and as many places in use as the
board has buttons. A button whose id has no place is left out. -/
def ofBoard (board : List ButtonConfig) : KeyTable where
  magic := recordMagic
  longPressMs := defaultLongPressMs
  keyCount := UInt8.ofNat (min board.length maxKeys)
  keys := board.foldl (fun keys b => keys.setIfInBounds b.id.toNat ⟨b.value, b.color⟩)
    (Vector.replicate maxKeys .unset)

def entry? (t : KeyTable) (key : UInt8) : Option KeyEntry :=
  if t.keyCount ≤ key then none else t.keys[key.toNat]?

def value (t : KeyTable) (key : UInt8) : KeyValue := ((t.entry? key).map (·.value)).getD .none

def color (t : KeyTable) (key : UInt8) : Color := ((t.entry? key).map (·.color)).getD .none

def entriesOffset : Nat := 9

instance : Record KeyTable where
  size := entriesOffset + maxKeys * KeyEntry.size
  needed _ := entriesOffset
  encode t :=
    LittleEndian.bytes 4 t.magic.toNat ++ LittleEndian.bytes 4 t.longPressMs.toNat ++
      [t.keyCount] ++ t.keys.toList.flatMap KeyEntry.bytes
  decode bs :=
    { magic := LittleEndian.word32 bs 0
      longPressMs := LittleEndian.word32 bs 4
      keyCount := min (LittleEndian.byte bs 8) (UInt8.ofNat maxKeys)
      keys := Vector.ofFn fun i => KeyEntry.ofBytes bs (entriesOffset + i.val * KeyEntry.size) }
  length_encode t := by
    simp only [List.length_append, LittleEndian.length_bytes, List.length_singleton,
      Blocks.length_flatMap KeyEntry.length_bytes, Vector.length_toList, entriesOffset]
  needed_le _ := Nat.le_add_right ..
  size_le := by decide

/-- Writes the table into a buffer: the fields in front, then as many entries as there is room
for. -/
def fill (t : KeyTable) : Filler :=
  inTurn [within 0 4 (copy (LittleEndian.bytes 4 t.magic.toNat)),
    within 4 4 (copy (LittleEndian.bytes 4 t.longPressMs.toNat)),
    within 8 1 (copy [t.keyCount]),
    behind entriesOffset (chunks KeyEntry.size (t.keys.toList.map KeyEntry.fill))]

end KeyTable

end Keypad
