import Keypad.Panel.Basic

/-! Where presses come from: the panel of buttons, or a script that says what is pressed. Both are
told what keys send and show. -/
namespace Keypad

/-- A scripted input. Presses come in the order they were queued; levels are as set. What keys were
told is kept, newest first. -/
structure Script where
  events : List ButtonEvent := []
  pressed : Option UInt8 := none
  modifiers : UInt8 := 0
  values : List (UInt8 × KeyValue) := []
  colors : List (UInt8 × Color) := []
  deriving DecidableEq, Repr, Inhabited

namespace Script

def push (s : Script) (event : ButtonEvent) : Script := { s with events := s.events ++ [event] }

def take (s : Script) : Option ButtonEvent × Script :=
  match s.events with
  | [] => (none, s)
  | event :: rest => (some event, { s with events := rest })

def value? (s : Script) (key : UInt8) : Option KeyValue :=
  (s.values.find? (·.1 == key)).map (·.2)

end Script

inductive Input where
  | script (s : Script)
  | panel (p : Panel)
  deriving DecidableEq, Repr

namespace Input

def take : Input → Option ButtonEvent × Input
  | script s =>
    let (event, s) := s.take
    (event, script s)
  | panel p =>
    let (event, p) := p.take
    (event, panel p)

def pendingCount : Input → Nat
  | script s => s.events.length
  | panel p => p.pendingCount

theorem pendingCount_take (i : Input) (event : ButtonEvent) (taken : i.take.1 = some event) :
    i.take.2.pendingCount + 1 = i.pendingCount := by
  cases i with
  | script s =>
    cases queued : s.events with
    | nil => simp [take, Script.take, queued] at taken
    | cons first rest => simp [take, Script.take, queued, pendingCount]
  | panel p => exact p.pendingCount_take event taken

def drain (i : Input) : List ButtonEvent × Input :=
  match _taken : i.take with
  | (none, i) => ([], i)
  | (some event, rest) =>
    let (events, i) := rest.drain
    (event :: events, i)
termination_by i.pendingCount
decreasing_by
  have fewer := pendingCount_take i event (by rw [_taken])
  rw [_taken] at fewer
  exact Nat.lt_of_succ_le (Nat.le_of_eq fewer)

theorem drain_of_take_none {i rest : Input} (taken : i.take = (none, rest)) :
    i.drain = ([], rest) := by
  rw [drain]
  split
  · next none_taken => rw [← (Prod.mk.inj (none_taken.symm.trans taken)).2]
  · next some_taken => simp [taken] at some_taken

theorem drain_of_take_some {i rest : Input} {event : ButtonEvent}
    (taken : i.take = (some event, rest)) : i.drain = (event :: rest.drain.1, rest.drain.2) := by
  rw [drain]
  split
  · next none_taken => simp [taken] at none_taken
  · next some_taken =>
    obtain ⟨first, behind⟩ := Prod.mk.inj (some_taken.symm.trans taken)
    rw [Option.some.inj first, behind]

theorem drain_script (s : Script) :
    (script s).drain = (s.events, script { s with events := [] }) := by
  obtain ⟨events, pressed, modifiers, values, colors⟩ := s
  induction events with
  | nil => exact drain_of_take_none rfl
  | cons event rest ih =>
    have taken : (script ⟨event :: rest, pressed, modifiers, values, colors⟩).take =
        (some event, script ⟨rest, pressed, modifiers, values, colors⟩) := rfl
    rw [drain_of_take_some taken, ih]

def pressedKey : Input → Option UInt8
  | script s => s.pressed
  | panel p => p.pressedKey

def modifierFlags : Input → UInt8
  | script s => s.modifiers
  | panel p => p.modifierFlags

/-- Whether a key is held right now. A script holds none. -/
def isPressed : Input → UInt8 → Bool
  | script _, _ => false
  | panel p, key => p.isPressed key

def setValue (i : Input) (key : UInt8) (value : KeyValue) : Input :=
  match i with
  | script s => script { s with values := (key, value) :: s.values }
  | panel p => panel (p.setValue key value)

def setColor (i : Input) (key : UInt8) (color : Color) : Input :=
  match i with
  | script s => script { s with colors := (key, color) :: s.colors }
  | panel p => panel (p.setColor key color)

end Input

end Keypad
