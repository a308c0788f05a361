import Keypad.Color
import Keypad.KeyValue

namespace Keypad

/-- A button of the board: the key it stands for, its pin, and what the key sends and shows.
A button that is not enabled is wired up but never listened to. -/
structure ButtonConfig where
  id : UInt8
  gpio : UInt8 := 0
  value : KeyValue
  color : Color
  enabled : Bool := true
  deriving DecidableEq, Repr, Inhabited

structure ButtonEvent where
  key : UInt8
  long : Bool
  deriving DecidableEq, Repr, Inhabited

end Keypad
