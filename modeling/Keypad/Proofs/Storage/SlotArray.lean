import Keypad.Storage.Store

namespace Keypad

abbrev Block := Vector UInt8 slotSize

namespace Block

def erased : Block := Vector.replicate slotSize Memory.erased

def padded (data : Array UInt8) : Block := Vector.ofFn fun k => data.getD k Memory.erased

end Block

abbrev SlotArray (g : Geometry) := Vector Block g.slotCount

theorem Geometry.kind_lt (g : Geometry) (kind : RecordKind) : kind.index < g.slotCount :=
  Nat.lt_of_lt_of_le kind.index_lt g.four_le_slotCount

namespace SlotArray

variable {g : Geometry}

def read (a : SlotArray g) (index : Nat) (target : Array UInt8) :
    Except StorageError (Array UInt8) :=
  if known : index < g.slotCount then
    if slotSize ≤ target.size then .ok (a[index].toArray ++ target.extract slotSize)
    else .error .invalidInput
  else .error .invalidId

def write (a : SlotArray g) (index : Nat) (data : Array UInt8) :
    Except StorageError Unit × SlotArray g :=
  if known : index < g.slotCount then
    if 1 ≤ data.size ∧ data.size ≤ slotSize then (.ok (), a.set index (.padded data))
    else (.error .invalidInput, a)
  else (.error .invalidId, a)

def eraseSector (a : SlotArray g) (sector : Nat) : Except StorageError Unit × SlotArray g :=
  if sector < g.slotCount * slotSize / g.sectorSize then
    (.ok (), Vector.ofFn fun i =>
      if sector * g.sectorSize ≤ i * slotSize ∧ i * slotSize < (sector + 1) * g.sectorSize then
        .erased
      else a[i])
  else (.error .invalidId, a)

def blank : SlotArray g := Vector.replicate g.slotCount .erased

def get {α : Type} [Record α] (a : SlotArray g) (kind : RecordKind) : α :=
  have known := g.kind_lt kind
  Record.decode (a[kind.index].toList.take (Record.size α))

end SlotArray

/-- A call of a store by its users. -/
inductive SlotCall : Type 1 where
  | read (index : Nat) (target : Array UInt8)
  | write (index : Nat) (data : Array UInt8)
  | eraseSector (sector : Nat)
  | eraseAll
  | get (α : Type) [Record α] (kind : RecordKind)
  | save {α : Type} [Record α] (kind : RecordKind) (value : α)

inductive SlotAnswer : Type 1 where
  | done
  | bytes (target : Array UInt8)
  | record {α : Type} (value : α)
  | refused (e : StorageError)

namespace SlotAnswer

def ofResult {α : Type} (f : α → SlotAnswer) : Except StorageError α → SlotAnswer
  | .ok a => f a
  | .error e => refused e

def ofUnit : Except StorageError Unit → SlotAnswer := ofResult fun _ => done

end SlotAnswer

namespace SlotCall

variable {g : Geometry}

def onStore (s : Store g) : SlotCall → SlotAnswer × Store g
  | read index target => let (r, s) := s.readSlot index target; (.ofResult .bytes r, s)
  | write index data => let (r, s) := s.writeSlot index data; (.ofUnit r, s)
  | eraseSector sector => let (r, s) := s.eraseSector sector; (.ofUnit r, s)
  | eraseAll => let (r, s) := s.eraseAll; (.ofUnit r, s)
  | get α kind => let (r, s) := s.get (α := α) kind; (.ofResult .record r, s)
  | save kind value => let (r, s) := s.save kind value; (.ofUnit r, s)

def onSlots (a : SlotArray g) : SlotCall → SlotAnswer × SlotArray g
  | read index target => (.ofResult .bytes (a.read index target), a)
  | write index data => let (r, a) := a.write index data; (.ofUnit r, a)
  | eraseSector sector => let (r, a) := a.eraseSector sector; (.ofUnit r, a)
  | eraseAll => (.done, .blank)
  | get α kind => (.record (a.get (α := α) kind), a)
  | save kind value =>
    let (r, a) := a.write kind.index (Record.encode value).toArray
    (.ofUnit r, a)

def runAll {σ : Type} (step : σ → SlotCall → SlotAnswer × σ) (s : σ) :
    List SlotCall → List SlotAnswer × σ
  | [] => ([], s)
  | call :: rest =>
    let (answer, s) := step s call
    let (answers, s) := runAll step s rest
    (answer :: answers, s)

end SlotCall

end Keypad
