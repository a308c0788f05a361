import Keypad.Features.Feature
import Keypad.Keys.Settings
import Keypad.Lights
import Keypad.Tracker.Table

namespace Keypad

structure Report where
  modifiers : UInt8
  codes : Vector UInt8 6
  deriving DecidableEq, Repr

namespace Report

def release : Report := ⟨0, #v[0, 0, 0, 0, 0, 0]⟩

def held (code modifiers : UInt8) : Report := ⟨modifiers, #v[code, 0, 0, 0, 0, 0]⟩

end Report

/-- The host's side of the keyboard: whether it takes reports now, and those it got, newest
first. -/
structure Host where
  ready : Bool := true
  reports : List Report := []

/-- What the time tracker remembers: its sessions, the ticks tracked since they were last saved by
a tick, and whether it runs. -/
structure Tracker where
  table : SessionTable := .factory
  intervals : Nat := 0
  running : Bool := false

/-- The device. `lights` holds what was asked of the lights, newest first; `keyReported` is whether
the clipboard's last report held a key. -/
structure Device (g : Geometry) where
  settings : KeySettings g
  today : DateTime
  lights : List Light := []
  host : Host := {}
  keyReported : Bool := false
  tracker : Tracker := {}
  active : ActiveFeature := .unread

structure CounterOverflow where
  deriving DecidableEq, Repr, Inhabited

namespace Device

variable {g : Geometry}

/-- A device that comes up on a store: the key settings are loaded, and no feature runs. -/
def boot (store : Store g) (input : Input) (longPressMs : UInt32) (board : List ButtonConfig)
    (today : DateTime) : Device g where
  settings := .load store input longPressMs board
  today

@[inline] def onSettings {α : Type} (d : Device g) (call : KeySettings g → α × KeySettings g) :
    α × Device g :=
  let ⟨settings, today, lights, host, keyReported, tracker, active⟩ := d
  let (a, settings) := call settings
  (a, ⟨settings, today, lights, host, keyReported, tracker, active⟩)

@[inline] def onStore {α : Type} (d : Device g) (call : Store g → α × Store g) : α × Device g :=
  d.onSettings (·.onStore call)

theorem onStore_eq {α : Type} (d : Device g) (call : Store g → α × Store g) :
    d.onStore call =
      ((call d.settings.store).1, { d with settings.store := (call d.settings.store).2 }) := rfl

def light (d : Device g) (l : Light) : Device g := { d with lights := l :: d.lights }

def report (d : Device g) (r : Report) : Device g :=
  { d with host.reports := r :: d.host.reports }

def drain (d : Device g) : List ButtonEvent × Device g :=
  d.onSettings fun k =>
    let (events, input) := k.input.drain
    (events, { k with input })

end Device

end Keypad
