import Keypad.Color
import Keypad.Decimal

namespace Keypad

/-- Who drives the lights: the panel, which lights a key while it is held, or the feature. -/
inductive LightMode where
  | whilePressed
  | byFeature
  deriving DecidableEq, Repr, Inhabited

inductive Light where
  | mode (mode : LightMode)
  | on (key : UInt8) (color : Color)
  | off (key : UInt8)
  | blink (key : UInt8) (periodMs count : UInt32) (color : Color)
  deriving DecidableEq, Repr, Inhabited

namespace Light

def text : Light → String
  | mode .whilePressed => "mode pressed"
  | mode .byFeature => "mode feature"
  | on key color => "on " ++ Decimal.text key.toNat ++ " " ++ color.name
  | off key => "off " ++ Decimal.text key.toNat
  | blink key periodMs count color =>
    "blink " ++ Decimal.text key.toNat ++ " " ++ Decimal.text periodMs.toNat ++ " " ++
      Decimal.text count.toNat ++ " " ++ color.name

end Light

end Keypad
