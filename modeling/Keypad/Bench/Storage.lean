import Keypad.Bench.Reply

namespace Keypad.Bench

open Flash (Chip Entry Fault)

inductive ChipCommand where
  | poke (start : Nat) (bytes : List UInt8)
  | setFaults (faults : List Fault)
  | read (start : UInt32) (length : Nat)
  | write (start : UInt32) (bytes : List UInt8)
  | erase (start stop : UInt32)

def ChipCommand.run {n : Nat} (c : Chip n) : ChipCommand → Reply × Chip n
  | poke start bytes => (.done, c.poke start bytes.toArray)
  | setFaults faults => (.done, { c with faults })
  | read start length =>
    let (r, c) := c.read start length
    (.ofChip (fun bytes => .bytes bytes.toList) r, c)
  | write start bytes =>
    let (r, c) := c.write start bytes.toArray
    (.ofChip .acknowledge r, c)
  | erase start stop =>
    let (r, c) := c.erase start stop
    (.ofChip .acknowledge r, c)

def untouched : UInt8 := 0xaa

inductive StoreCommand where
  | chip (command : ChipCommand)
  | init
  | bootCount
  | info
  | readSlot (index room : Nat)
  | writeSlot (index : Nat) (bytes : List UInt8)
  | eraseAll
  | eraseSector (sector : Nat)
  | get (slot as : RecordKind)
  | save (slot : RecordKind) (value : RecordValue)

def StoreCommand.run {g : Geometry} (s : Store g) : StoreCommand → Reply × Store g
  | .chip command =>
    let ⟨c, buffer, size_buffer, housekeeping⟩ := s
    let (r, c) := command.run c
    (r, ⟨c, buffer, size_buffer, housekeeping⟩)
  | init =>
    let (r, s) := s.init
    (.ofStore .found r, s)
  | bootCount => (.number s.bootCount.toNat, s)
  | info => (.numbers [slotSize, g.slotCount, g.sectorSize], s)
  | readSlot index room =>
    let (r, s) := s.readSlot index (Array.replicate room untouched)
    (.ofStore (fun bytes => .bytes bytes.toList) r, s)
  | writeSlot index bytes =>
    let (r, s) := s.writeSlot index bytes.toArray
    (.ofStore .acknowledge r, s)
  | eraseAll =>
    let (r, s) := s.eraseAll
    (.ofStore .acknowledge r, s)
  | eraseSector sector =>
    let (r, s) := s.eraseSector sector
    (.ofStore .acknowledge r, s)
  | get slot as =>
    let (r, s) := s.getAs slot as
    (.ofStore .record r, s)
  | save slot value =>
    let (r, s) := s.saveValue slot value
    (.ofStore .acknowledge r, s)

inductive StorageCommand where
  | store (command : StoreCommand)
  | restart

/-- A reply, and the changing calls that reached the chip meanwhile. A start that succeeds also
tells the boot count. -/
structure StorageReport where
  reply : Reply
  bootCount : Option UInt32 := none
  journal : List Entry := []

def started {g : Geometry} (s : Store g) : StorageReport where
  reply := .booted
  bootCount := some s.bootCount

/-- Runs commands one after another. A restart makes a new store of the chip. -/
def runStore {g : Geometry} (s : Store g) :
    List StorageCommand → List StorageReport × Chip g.sectorSize
  | [] => ([], s.chip)
  | .restart :: rest =>
    match Store.attach s.chip with
    | .ok s =>
      let (reports, chip) := runStore s rest
      (started s :: reports, chip)
    | .error e => ([{ reply := .refused e }], s.chip)
  | .store command :: rest =>
    let before := s.chip.journal.length
    let (reply, s) := command.run s
    let journal := added before s.chip.journal
    let (reports, chip) := runStore s rest
    ({ reply, journal } :: reports, chip)

def runStorage {g : Geometry} (chip : Chip g.sectorSize) (commands : List StorageCommand) :
    List StorageReport × Chip g.sectorSize :=
  match Store.attach chip with
  | .ok s =>
    let (reports, chip) := runStore s commands
    (started s :: reports, chip)
  | .error e => ([{ reply := .refused e }], chip)

end Keypad.Bench
