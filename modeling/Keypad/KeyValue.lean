import Keypad.Decimal

namespace Keypad

/-! Usage codes of the keyboard's keys. -/
namespace Usage

def none : UInt8 := 0x00
def a : UInt8 := 0x04
def c : UInt8 := 0x06
def v : UInt8 := 0x19
def x : UInt8 := 0x1b
def z : UInt8 := 0x1d
def enter : UInt8 := 0x28
def escape : UInt8 := 0x29
def space : UInt8 := 0x2c

end Usage

/-! Modifier bits, the first byte of a keyboard report. -/
namespace Modifier

def leftCtrl : UInt8 := 0x01
def leftShift : UInt8 := 0x02
def leftAlt : UInt8 := 0x04
def leftGui : UInt8 := 0x08
def rightCtrl : UInt8 := 0x10
def rightShift : UInt8 := 0x20
def rightAlt : UInt8 := 0x40
def rightGui : UInt8 := 0x80

end Modifier

inductive KeyValue where
  | key (code : UInt8)
  | modifier (flags : UInt8)
  deriving DecidableEq, Repr, Inhabited

namespace KeyValue

def none : KeyValue := key Usage.none

def keyCode? : KeyValue → Option UInt8
  | key code => if code = Usage.none then Option.none else some code
  | modifier _ => Option.none

def modifierFlags : KeyValue → UInt8
  | key _ => 0
  | modifier flags => flags

def tag : KeyValue → UInt8
  | key _ => 0
  | modifier _ => 1

def payload : KeyValue → UInt8
  | key code => code
  | modifier flags => flags

def bytes (v : KeyValue) : List UInt8 := [v.tag, v.payload]

def ofTag? (tag payload : UInt8) : Option KeyValue :=
  if tag = 0 then some (key payload)
  else if tag = 1 then some (modifier payload)
  else Option.none

def text : KeyValue → String
  | key code => "key:" ++ Decimal.text code.toNat
  | modifier flags => "mod:" ++ Decimal.text flags.toNat

def ofText? (source : String) : Option KeyValue :=
  match source.toList with
  | 'k' :: 'e' :: 'y' :: ':' :: number => (Decimal.value? number).map (key ∘ UInt8.ofNat)
  | 'm' :: 'o' :: 'd' :: ':' :: number => (Decimal.value? number).map (modifier ∘ UInt8.ofNat)
  | _ => Option.none

@[simp] theorem ofTag?_tag (v : KeyValue) : ofTag? v.tag v.payload = some v := by
  cases v <;> rfl

end KeyValue

end Keypad
