import Keypad.Features.Feature
import Keypad.Keys.Table
import Keypad.Storage.Store
import Keypad.Tracker.Table

namespace Keypad

inductive RecordValue where
  | housekeeping (h : Housekeeping)
  | keyTable (t : KeyTable)
  | activeFeature (a : ActiveFeature)
  | sessionTable (t : SessionTable)
  deriving DecidableEq, Repr

namespace RecordKind

def size : RecordKind → Nat
  | housekeeping => Record.size Housekeeping
  | keyTable => Record.size KeyTable
  | activeFeature => Record.size ActiveFeature
  | sessionTable => Record.size SessionTable

end RecordKind

namespace RecordValue

def encode : RecordValue → List UInt8
  | housekeeping h => Record.encode h
  | keyTable t => Record.encode t
  | activeFeature a => Record.encode a
  | sessionTable t => Record.encode t

def kind : RecordValue → RecordKind
  | housekeeping _ => .housekeeping
  | keyTable _ => .keyTable
  | activeFeature _ => .activeFeature
  | sessionTable _ => .sessionTable

def magic : RecordValue → UInt32
  | housekeeping h => h.magic
  | keyTable t => t.magic
  | activeFeature a => a.magic
  | sessionTable t => t.magic

def fill : RecordValue → Filler
  | housekeeping h => h.fill
  | keyTable t => t.fill
  | activeFeature a => a.fill
  | sessionTable t => t.fill

def decode? (kind : RecordKind) (bs : List UInt8) : Option RecordValue :=
  match kind with
  | .housekeeping => (Record.decode? bs).map housekeeping
  | .keyTable => (Record.decode? bs).map keyTable
  | .activeFeature => (Record.decode? bs).map activeFeature
  | .sessionTable => (Record.decode? bs).map sessionTable

end RecordValue

namespace Store

variable {g : Geometry}

/-- Reads the slot of one kind as a record of another. -/
def getAs (s : Store g) (slot as : RecordKind) : Except StorageError RecordValue × Store g :=
  match as with
  | .housekeeping => let (r, s) := s.get slot; (r.map .housekeeping, s)
  | .keyTable => let (r, s) := s.get slot; (r.map .keyTable, s)
  | .activeFeature => let (r, s) := s.get slot; (r.map .activeFeature, s)
  | .sessionTable => let (r, s) := s.get slot; (r.map .sessionTable, s)

def saveValue (s : Store g) (slot : RecordKind) (v : RecordValue) :
    Except StorageError Unit × Store g :=
  match v with
  | .housekeeping h => s.save slot h
  | .keyTable t => s.save slot t
  | .activeFeature a => s.save slot a
  | .sessionTable t => s.save slot t

theorem saveValue_eq (s : Store g) (slot : RecordKind) (v : RecordValue) :
    s.saveValue slot v = s.writeSlot slot.index v.encode.toArray := by
  cases v <;> rfl

end Store

end Keypad
