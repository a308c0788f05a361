import Keypad.Bench.Reply
import Keypad.Keys.Settings

namespace Keypad.Bench

inductive KeysCommand where
  | count
  | color (key : UInt8)
  | value (key : UInt8)
  | setColor (key : UInt8) (color : Color)
  | setValue (key : UInt8) (value : KeyValue)
  | longPressMs
  | setLongPressMs (ms : UInt32)
  | table

def KeysCommand.run {g : Geometry} (k : KeySettings g) : KeysCommand → Reply × KeySettings g
  | .count => (.number k.table.keyCount.toNat, k)
  | .color key => (.color (k.table.color key), k)
  | .value key => (.value (k.table.value key), k)
  | .setColor key c =>
    let (r, k) := k.setColor key c
    (.ofStore .acknowledge r, k)
  | .setValue key v =>
    let (r, k) := k.setValue key v
    (.ofStore .acknowledge r, k)
  | .longPressMs => (.number k.table.longPressMs.toNat, k)
  | .setLongPressMs ms =>
    let (r, k) := k.setLongPressMs ms
    (.ofStore .acknowledge r, k)
  | .table => (.record (.keyTable k.table), k)

inductive ScriptCommand where
  | push (event : ButtonEvent)
  | queued
  | hold (code : Option UInt8) (modifiers : UInt8)
  | valueOf (key : UInt8)
  | threshold
  | isPressed (key : UInt8)

def ScriptCommand.run (s : Script) (thresholdMs : UInt32) : ScriptCommand → Reply × Script
  | .push event => (.done, s.push event)
  | .queued => (.number s.events.length, s)
  | .hold code modifiers => (.done, { s with pressed := code, modifiers })
  | .valueOf key => (.ofOption .value (s.value? key), s)
  | .threshold => (.number thresholdMs.toNat, s)
  | .isPressed key => (.flag ((Input.script s).isPressed key), s)

end Keypad.Bench
