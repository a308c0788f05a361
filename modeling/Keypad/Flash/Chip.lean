import Keypad.Bytes.Memory
import Keypad.Decimal
import Keypad.Flash.Fault

/-! A flash chip: it reads anywhere, erases whole sectors to ones, and programs by clearing bits.
Faults strike before the chip checks a call, and what a struck call has done stays done. -/
namespace Keypad.Flash

inductive Work where
  | erase (start stop : UInt32)
  | write (start : UInt32) (length : Nat)
  deriving DecidableEq, Repr

structure Entry where
  work : Work
  struck : Bool
  deriving DecidableEq, Repr

namespace Entry

def isErase (e : Entry) : Bool :=
  match e.work with
  | .erase .. => true
  | .write .. => false

/-- The call and its numbers, after an exclamation mark where a fault struck. -/
def text (e : Entry) : String :=
  (if e.struck then "!" else "") ++
    match e.work with
    | .erase start stop => "erase " ++ Decimal.text start.toNat ++ " " ++ Decimal.text stop.toNat
    | .write start length => "write " ++ Decimal.text start.toNat ++ " " ++ Decimal.text length

end Entry

/-- A chip with sectors of one size. The journal holds the changing calls, newest first. -/
structure Chip (sectorSize : Nat) where
  cells : Array UInt8
  faults : List Fault := []
  journal : List Entry := []

namespace Chip

variable {sectorSize : Nat}

def blank (capacity : Nat) : Chip sectorSize where
  cells := Array.replicate capacity Memory.erased

def capacity (c : Chip sectorSize) : Nat := c.cells.size

def read (c : Chip sectorSize) (start : UInt32) (length : Nat) :
    Except FlashError (Array UInt8) × Chip sectorSize :=
  match strike .read c.faults with
  | (some f, faults) => (.error f.error, { c with faults })
  | (none, faults) =>
    if c.cells.size < start.toNat + length then (.error .outOfBounds, { c with faults })
    else (.ok (c.cells.extract start.toNat (start.toNat + length)), { c with faults })

/-- Erases from `start` up to `stop`. A struck call erases from the start on, as far as the fault
lets it. The chip itself refuses what does not begin and end at a sector, then what is outside. -/
def erase (c : Chip sectorSize) (start stop : UInt32) :
    Except FlashError Unit × Chip sectorSize :=
  let ⟨cells, faults, journal⟩ := c
  match strike .erase faults with
  | (some f, faults) =>
    (.error f.error,
      ⟨Memory.erase start.toNat (min f.reach (stop.toNat - start.toNat)) cells, faults,
        ⟨.erase start stop, true⟩ :: journal⟩)
  | (none, faults) =>
    let journal := ⟨.erase start stop, false⟩ :: journal
    if start.toNat % sectorSize ≠ 0 ∨ stop.toNat % sectorSize ≠ 0 then
      (.error .notAligned, ⟨cells, faults, journal⟩)
    else if cells.size < stop.toNat ∨ stop < start then
      (.error .outOfBounds, ⟨cells, faults, journal⟩)
    else
      (.ok (), ⟨Memory.erase start.toNat (stop.toNat - start.toNat) cells, faults, journal⟩)

def write (c : Chip sectorSize) (start : UInt32) (data : Array UInt8) :
    Except FlashError Unit × Chip sectorSize :=
  let ⟨cells, faults, journal⟩ := c
  match strike .write faults with
  | (some f, faults) =>
    (.error f.error,
      ⟨Memory.program start.toNat f.reach data cells, faults,
        ⟨.write start data.size, true⟩ :: journal⟩)
  | (none, faults) =>
    let journal := ⟨.write start data.size, false⟩ :: journal
    if cells.size < start.toNat + data.size then
      (.error .outOfBounds, ⟨cells, faults, journal⟩)
    else
      (.ok (), ⟨Memory.program start.toNat data.size data cells, faults, journal⟩)

@[simp] theorem cells_read (c : Chip sectorSize) (start : UInt32) (length : Nat) :
    (c.read start length).2.cells = c.cells := by
  unfold read
  split
  · rfl
  · split <;> rfl

/-- Puts bytes into the chip from outside, past its checks, its faults and its journal. -/
def poke (c : Chip sectorSize) (start : Nat) (data : Array UInt8) : Chip sectorSize :=
  { c with cells := Memory.place start data.size data c.cells }

end Chip

end Keypad.Flash
