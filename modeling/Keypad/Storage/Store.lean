import Keypad.Flash.Chip
import Keypad.Storage.Housekeeping

/-! The record store on a flash chip. The chip erases whole sectors only, so writing a slot reads
its sector into a buffer, changes the slot there, erases the sector and programs the buffer. A call
that fails on the way leaves what it has done so far. -/
namespace Keypad

open Flash (Chip FlashError)

inductive StorageError where
  | invalidId
  | invalidInput
  | geometry
  | notAligned
  | outOfBounds
  | flash
  deriving DecidableEq, Repr, Inhabited

namespace StorageError

def name : StorageError → String
  | invalidId => "InvalidId"
  | invalidInput => "InvalidInput"
  | geometry => "Geometry"
  | notAligned => "NotAligned"
  | outOfBounds => "OutOfBounds"
  | flash => "Flash"

def ofFlash : FlashError → StorageError
  | .unknown => flash
  | .notAligned => notAligned
  | .outOfBounds => outOfBounds

end StorageError

/-- A store: the chip, a buffer for one sector, and the housekeeping record as last saved. What
the buffer holds matters only while a slot is being written. -/
structure Store (g : Geometry) where
  chip : Chip g.sectorSize
  buffer : Array UInt8
  size_buffer : buffer.size = g.sectorSize
  housekeeping : Housekeeping

inductive StartKind where
  | factory
  | existing
  deriving DecidableEq, Repr, Inhabited

def StartKind.name : StartKind → String
  | factory => "Factory"
  | existing => "Existing"

namespace Store

variable {g : Geometry}

def attach (chip : Chip g.sectorSize) : Except StorageError (Store g) :=
  if chip.capacity < g.base + g.regionSize then .error .geometry
  else .ok {
    chip
    buffer := Array.replicate g.sectorSize Memory.erased
    size_buffer := by simp
    housekeeping := .unread }

@[inline] def onChip {α : Type} (s : Store g)
    (call : Chip g.sectorSize → Except FlashError α × Chip g.sectorSize) :
    Except StorageError α × Store g :=
  let ⟨chip, buffer, size_buffer, housekeeping⟩ := s
  match call chip with
  | (.ok a, chip) => (.ok a, ⟨chip, buffer, size_buffer, housekeeping⟩)
  | (.error e, chip) => (.error (.ofFlash e), ⟨chip, buffer, size_buffer, housekeeping⟩)

theorem onChip_eq {α : Type} (s : Store g)
    (call : Chip g.sectorSize → Except FlashError α × Chip g.sectorSize) :
    s.onChip call =
      ((call s.chip).1.mapError StorageError.ofFlash, { s with chip := (call s.chip).2 }) := by
  unfold onChip
  cases answer : call s.chip with
  | mk result chip =>
    cases result with
    | ok a => simp only [answer]; rfl
    | error e => simp only [answer]; rfl

def slot (s : Store g) (index : Nat) : Except StorageError (Array UInt8) × Store g :=
  if g.slotCount ≤ index then (.error .invalidId, s)
  else s.onChip (·.read (g.slotAddress index) slotSize)

def readSlot (s : Store g) (index : Nat) (target : Array UInt8) :
    Except StorageError (Array UInt8) × Store g :=
  if g.slotCount ≤ index then (.error .invalidId, s)
  else if target.size < slotSize then (.error .invalidInput, s)
  else
    match s.slot index with
    | (.ok bytes, s) => (.ok (Memory.place 0 slotSize bytes target), s)
    | (.error e, s) => (.error e, s)

def patch (s : Store g) (offset : Nat) (bytes : Array UInt8) : Store g :=
  let ⟨chip, buffer, size_buffer, housekeeping⟩ := s
  ⟨chip, Memory.place offset slotSize bytes buffer, by rw [Memory.size_place, size_buffer],
    housekeeping⟩

/-- Reads `count` slots of a sector into the buffer, from the `done`-th on, and stops at the first
that fails. -/
def loadSlots (s : Store g) (first done : Nat) : Nat → Except StorageError Unit × Store g
  | 0 => (.ok (), s)
  | count + 1 =>
    match s.slot (first + done) with
    | (.ok bytes, s) => loadSlots (s.patch (done * slotSize) bytes) first (done + 1) count
    | (.error e, s) => (.error e, s)

def loadSector (s : Store g) (sector : Nat) : Except StorageError Unit × Store g :=
  s.loadSlots (sector * g.slotsPerSector) 0 g.slotsPerSector

def programSector (s : Store g) (sector : Nat) : Except StorageError Unit × Store g :=
  let start := g.sectorAddress sector
  match s.onChip (·.erase start (start + UInt32.ofNat g.sectorSize)) with
  | (.ok (), s) =>
    let buffer := s.buffer
    s.onChip (·.write start buffer)
  | (.error e, s) => (.error e, s)

/-- Makes `data` the content of a slot, with erased bytes behind it. The other slots of its sector
stay as they are. -/
def writeSlot (s : Store g) (index : Nat) (data : Array UInt8) :
    Except StorageError Unit × Store g :=
  if g.slotCount ≤ index then (.error .invalidId, s)
  else if data.size = 0 ∨ slotSize < data.size then (.error .invalidInput, s)
  else
    match s.loadSector (g.sectorOf index) with
    | (.ok (), s) => (s.patch (g.offsetInSector index) data).programSector (g.sectorOf index)
    | (.error e, s) => (.error e, s)

def eraseAll (s : Store g) : Except StorageError Unit × Store g :=
  s.onChip (·.erase (g.sectorAddress 0) g.endAddress)

def eraseSector (s : Store g) (sector : Nat) : Except StorageError Unit × Store g :=
  if g.sectorCount ≤ sector then (.error .invalidId, s)
  else s.onChip (·.erase (g.sectorAddress sector) (g.sectorAddress (sector + 1)))

/-- Reads the slot of one kind of record as a record, be it of that kind or not. -/
def get {α : Type} [Record α] (s : Store g) (kind : RecordKind) :
    Except StorageError α × Store g :=
  match s.slot kind.index with
  | (.ok bytes, s) => (.ok (Record.decode (bytes.toList.take (Record.size α))), s)
  | (.error e, s) => (.error e, s)

def save {α : Type} [Record α] (s : Store g) (kind : RecordKind) (v : α) :
    Except StorageError Unit × Store g :=
  s.writeSlot kind.index (Record.encode v).toArray

/-- Comes up: counts one more start in the housekeeping record, from nothing where the record is
missing. The count in memory follows only when the record is saved. -/
def init (s : Store g) : Except StorageError StartKind × Store g :=
  match s.get .housekeeping with
  | (.error e, s) => (.error e, s)
  | (.ok stored, s) =>
    let found : StartKind := if stored.magic = recordMagic then .existing else .factory
    let next :=
      (if stored.magic = recordMagic then stored else Housekeeping.factory).counted
    match s.save .housekeeping next with
    | (.ok (), s) => (.ok found, { s with housekeeping := next })
    | (.error e, s) => (.error e, s)

def bootCount (s : Store g) : UInt32 := s.housekeeping.bootCount

end Store

end Keypad
