import Keypad.Input
import Keypad.Keys.Table
import Keypad.Storage.Store

namespace Keypad

structure KeySettings (g : Geometry) where
  store : Store g
  input : Input
  longPressMs : UInt32
  table : KeyTable

namespace KeySettings

variable {g : Geometry}

@[inline] def onStore {α : Type} (k : KeySettings g) (call : Store g → α × Store g) :
    α × KeySettings g :=
  let ⟨store, input, longPressMs, table⟩ := k
  let (a, store) := call store
  (a, ⟨store, input, longPressMs, table⟩)

theorem onStore_eq {α : Type} (k : KeySettings g) (call : Store g → α × Store g) :
    k.onStore call = ((call k.store).1, { k with store := (call k.store).2 }) := rfl

def save (k : KeySettings g) : Except StorageError Unit × KeySettings g :=
  let table := k.table
  k.onStore (·.save .keyTable table)

def tell (first : Nat) : List KeyEntry → Input → Input
  | [], i => i
  | e :: rest, i =>
    let key := UInt8.ofNat first
    tell (first + 1) rest ((i.setValue key e.value).setColor key e.color)

/-- Passes the threshold and the keys in use on. -/
def apply (k : KeySettings g) : KeySettings g :=
  { k with
    longPressMs := k.table.longPressMs
    input := tell 0 (k.table.keys.toList.take k.table.keyCount.toNat) k.input }

/-- The settings of a keypad that comes up: the stored table, or the board's where the store has
none. The board's table is saved, unless the store could not be read. -/
def load (store : Store g) (input : Input) (longPressMs : UInt32) (board : List ButtonConfig) :
    KeySettings g :=
  match store.get (α := KeyTable) .keyTable with
  | (.ok table, store) =>
    if table.magic = recordMagic then apply ⟨store, input, longPressMs, table⟩
    else
      let (_, k) := save ⟨store, input, longPressMs, .ofBoard board⟩
      k.apply
  | (.error _, store) => apply ⟨store, input, longPressMs, .ofBoard board⟩

/-- Changes the entry of a key in use, and saves the table if that makes a difference. -/
def update (k : KeySettings g) (key : UInt8) (f : KeyEntry → KeyEntry) :
    Except StorageError Unit × KeySettings g :=
  match k.table.entry? key with
  | none => (.error .invalidId, k)
  | some before =>
    let after := f before
    if after = before then (.ok (), k)
    else
      save { k with table.keys := k.table.keys.setIfInBounds key.toNat after }

/-- Sets what a key shows. The input hears of it once it is saved. -/
def setColor (k : KeySettings g) (key : UInt8) (color : Color) :
    Except StorageError Unit × KeySettings g :=
  match k.update key fun e => { e with color } with
  | (.ok (), k) => (.ok (), { k with input := k.input.setColor key color })
  | (.error e, k) => (.error e, k)

def setValue (k : KeySettings g) (key : UInt8) (value : KeyValue) :
    Except StorageError Unit × KeySettings g :=
  match k.update key fun e => { e with value } with
  | (.ok (), k) => (.ok (), { k with input := k.input.setValue key value })
  | (.error e, k) => (.error e, k)

/-- Sets how long a press is long. The panel goes by it at once; it is saved if it is new. -/
def setLongPressMs (k : KeySettings g) (ms : UInt32) : Except StorageError Unit × KeySettings g :=
  let k := { k with longPressMs := ms }
  if k.table.longPressMs = ms then (.ok (), k)
  else save { k with table.longPressMs := ms }

end KeySettings

end Keypad
