import Keypad.Device

/-! Copy and paste: a key that sends V, one that sends C, and a modifier. The host hears which key
is held, and once that none is any more. -/
namespace Keypad.Clipboard

variable {g : Geometry}

def keys : List (UInt8 × KeyValue × Color) :=
  [(0, .key Usage.v, .red), (1, .key Usage.c, .green), (2, .modifier Modifier.leftGui, .blue)]

/-- Sets the value and the colour of a key. A setting that fails is passed over. -/
def assign (d : Device g) (key : UInt8) (value : KeyValue) (color : Color) : Device g :=
  let (_, d) := d.onSettings (·.setValue key value)
  let (_, d) := d.onSettings (·.setColor key color)
  d

def start (d : Device g) : Device g :=
  (keys.foldl (fun d (key, value, color) => assign d key value color) d).light
    (.mode .whilePressed)

/-- Reports the held key, or its release if the last report held a key. A host that is not ready
hears nothing. -/
def send (d : Device g) (code : Option UInt8) (modifiers : UInt8) : Device g :=
  if d.host.ready then
    match code with
    | some code => { d.report (.held code modifiers) with keyReported := true }
    | none =>
      let d := if d.keyReported then d.report .release else d
      { d with keyReported := false }
  else d

def stop (d : Device g) : Device g := send d none 0

def handle (d : Device g) : Device g :=
  let (_, d) := d.drain
  send d d.settings.input.pressedKey d.settings.input.modifierFlags

end Keypad.Clipboard
