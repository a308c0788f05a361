namespace Keypad

inductive Color where
  | red
  | green
  | blue
  | yellow
  | white
  | none
  deriving DecidableEq, Repr, Inhabited

namespace Color

def rgb : Color → UInt8 × UInt8 × UInt8
  | red => (0xff, 0, 0)
  | green => (0, 0xff, 0)
  | blue => (0, 0, 0xff)
  | yellow => (0xff, 0xa0, 0)
  | white => (0xff, 0xff, 0xff)
  | none => (0, 0, 0)

/-- The stored code. No colour is the value of an erased byte. -/
def code : Color → UInt8
  | red => 0
  | green => 1
  | blue => 2
  | yellow => 3
  | white => 4
  | none => 0xff

def ofCode (code : UInt8) : Color :=
  if code = 0 then red
  else if code = 1 then green
  else if code = 2 then blue
  else if code = 3 then yellow
  else if code = 4 then white
  else none

@[simp] theorem ofCode_code (c : Color) : ofCode c.code = c := by cases c <;> rfl

def name : Color → String
  | red => "red"
  | green => "green"
  | blue => "blue"
  | yellow => "yellow"
  | white => "white"
  | none => "none"

/-- Only the exact lower-case names are colours. -/
def named? (text : String) : Option Color :=
  if text = "red" then some red
  else if text = "green" then some green
  else if text = "blue" then some blue
  else if text = "yellow" then some yellow
  else if text = "white" then some white
  else if text = "none" then some none
  else Option.none

end Color

end Keypad
