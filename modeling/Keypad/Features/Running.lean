import Keypad.Features.Clipboard
import Keypad.Tracker.Basic
import Keypad.Tracker.Log

/-! The features, of which one runs at a time. Which one is stored, so that it runs again when the
device comes up. -/
namespace Keypad.Features

variable {g : Geometry}

def start (d : Device g) : Feature → Device g
  | .clipboard => Clipboard.start d
  | .timeTracker => Tracker.start d
  | .none => d

def stop (d : Device g) : Feature → Device g
  | .clipboard => Clipboard.stop d
  | .timeTracker => Tracker.stop d
  | .none => d

def trySave (d : Device g) : Device g :=
  let active := d.active
  (d.onStore (·.save .activeFeature active)).2

def switchTo (d : Device g) (feature : Feature) : Device g :=
  let d := stop d d.active.current
  let d := { d with active := { d.active with feature, isSet := feature != .none } }
  trySave (start d feature)

/-- Switches to the feature of a code. An unknown code leaves all as it is. -/
def switchToCode (d : Device g) (code : UInt8) : Bool × Device g :=
  match Feature.ofCode? code with
  | some feature => (true, switchTo d feature)
  | none => (false, d)

/-- Begins with no sessions, and as a clipboard. -/
def factoryReset (d : Device g) : Device g :=
  switchTo { Tracker.factoryReset d with active := .factory } .clipboard

/-- Comes up with the stored feature. Without a valid record, or without a record that can be read,
everything begins anew. -/
def init (d : Device g) : Device g :=
  match d.onStore (·.get (α := ActiveFeature) .activeFeature) with
  | (.ok active, d) =>
    if active.magic = recordMagic then start { d with active } active.current
    else factoryReset d
  | (.error _, d) => factoryReset d

def handle (d : Device g) : Except CounterOverflow Unit × Device g :=
  match d.active.current with
  | .clipboard => (.ok (), Clipboard.handle d)
  | .timeTracker => Tracker.handle d
  | .none => (.ok (), d)

def tick (d : Device g) : Except CounterOverflow Unit × Device g :=
  match d.active.current with
  | .timeTracker => Tracker.tick d
  | _ => (.ok (), d)

def log (d : Device g) (feature : Feature) (code : UInt32) : LogLine :=
  match feature with
  | .timeTracker => Tracker.log d.tracker.table d.today code
  | _ => .empty

end Keypad.Features
