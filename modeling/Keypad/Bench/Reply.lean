import Keypad.Storage.RecordValue

namespace Keypad.Bench

inductive Reply where
  | done
  | booted
  | absent
  | asleep
  | flag (b : Bool)
  | flags (a b : Bool)
  | number (n : Nat)
  | numbers (ns : List Nat)
  | micros (us : Nat)
  | text (t : String)
  | texts (ts : List String)
  | bytes (bs : List UInt8)
  | found (kind : StartKind)
  | color (c : Color)
  | value (v : KeyValue)
  | event (e : ButtonEvent)
  | config (c : ButtonConfig)
  | record (v : RecordValue)
  | session (s : Session)
  | refused (e : StorageError)
  | chipRefused (e : Flash.FlashError)
  /-- A counter or the clock overflowed; nothing can follow. -/
  | overflow
  /-- The bench has nothing that the command is for. -/
  | misplaced

namespace Reply

def ofOption {α : Type} (f : α → Reply) : Option α → Reply
  | some a => f a
  | none => absent

def ofStore {α : Type} (f : α → Reply) : Except StorageError α → Reply
  | .ok a => f a
  | .error e => refused e

def ofChip {α : Type} (f : α → Reply) : Except Flash.FlashError α → Reply
  | .ok a => f a
  | .error e => chipRefused e

def acknowledge (_ : Unit) : Reply := done

def goesOn : Reply → Bool
  | overflow => false
  | _ => true

end Reply

/-- What came on top of the first `before` entries of a log that is kept newest first, oldest
first. -/
def added {α : Type} (before : Nat) (log : List α) : List α :=
  (log.take (log.length - before)).reverse

end Keypad.Bench
