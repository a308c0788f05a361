import Keypad.Panel.Button

/-! The panel: all buttons, one alarm queue, and a signal to whoever waits for a press. Presses are
collected in the order of the buttons. -/
namespace Keypad

/-- The state of the signal: nothing happened, someone waits for it, or it was raised and nobody
has noticed yet. -/
inductive Signal where
  | idle
  | waiting
  | raised
  deriving DecidableEq, Repr, Inhabited

/-- A panel of buttons. `wakes` counts the times that a waiter was woken. -/
structure Panel where
  buttons : List Button
  timers : TimerQueue := {}
  signal : Signal := .idle
  wakes : Nat := 0
  deriving DecidableEq, Repr, Inhabited

namespace Panel

def ofBoard (board : List ButtonConfig) : Panel where
  buttons := board.map fun config => { config }

def resetAll (q : TimerQueue) : List Button → List Button × TimerQueue
  | [] => ([], q)
  | b :: rest =>
    let (b, q) := b.reset q
    let (rest, q) := resetAll q rest
    (b :: rest, q)

/-- Makes every button idle and listens for presses on the enabled ones. The signal stays. -/
def init (p : Panel) : Panel :=
  let (buttons, timers) := resetAll p.timers p.buttons
  { p with buttons, timers }

/-- A falling edge at a pin. It concerns the first button of that pin. -/
def edge (p : Panel) (gpio : UInt8) : Panel :=
  match p.buttons.findIdx? (·.config.gpio == gpio) with
  | none => p
  | some key =>
    match p.buttons[key]? with
    | none => p
    | some b =>
      let (b, timers) := b.edge key p.timers
      { p with buttons := p.buttons.set key b, timers }

/-- The part of a timer's running out that no other caller of the panel sees in between. -/
def expire (p : Panel) (key id now thresholdMs : Nat) : Expiry × Panel :=
  match p.buttons[key]? with
  | none => (.stale, p)
  | some b =>
    let (expiry, b, timers) := b.expire key id now thresholdMs p.timers
    (expiry, { p with buttons := p.buttons.set key b, timers })

def raise (p : Panel) : Panel :=
  { p with
    signal := .raised
    wakes := if p.signal = .waiting then p.wakes + 1 else p.wakes }

/-- A timer runs out; a press that it publishes is signalled afterwards. The answer is whether the
timer goes on. -/
def timer (p : Panel) (key id now thresholdMs : Nat) : Bool × Panel :=
  match p.expire key id now thresholdMs with
  | (.published, p) => (false, p.raise)
  | (.held, p) => (true, p)
  | (_, p) => (false, p)

def takeFirst : List Button → Option ButtonEvent × List Button
  | [] => (none, [])
  | b :: rest =>
    if b.pending then (some b.event, b.collected :: rest)
    else
      let (event, rest) := takeFirst rest
      (event, b :: rest)

def take (p : Panel) : Option ButtonEvent × Panel :=
  let (event, buttons) := takeFirst p.buttons
  (event, { p with buttons })

def pendingCount (p : Panel) : Nat := p.buttons.countP (·.pending)

def config? (p : Panel) (key : UInt8) : Option ButtonConfig :=
  (p.buttons.map (·.config)).find? (·.id == key)

/-- Changes the configuration of the first button of a key. -/
def configure (f : ButtonConfig → ButtonConfig) (key : UInt8) : List Button → List Button
  | [] => []
  | b :: rest =>
    if b.config.id = key then { b with config := f b.config } :: rest
    else b :: configure f key rest

def setValue (p : Panel) (key : UInt8) (value : KeyValue) : Panel :=
  { p with buttons := configure (fun c => { c with value }) key p.buttons }

def setColor (p : Panel) (key : UInt8) (color : Color) : Panel :=
  { p with buttons := configure (fun c => { c with color }) key p.buttons }

def isPressed (p : Panel) (key : UInt8) : Bool :=
  match p.buttons.find? (·.config.id == key) with
  | none => false
  | some b => b.isHeld

def pressedKey (p : Panel) : Option UInt8 :=
  p.buttons.findSome? fun b => if b.isHeld then b.config.value.keyCode? else none

def modifierFlags (p : Panel) : UInt8 :=
  p.buttons.foldl
    (fun flags b => if b.isHeld then flags ||| b.config.value.modifierFlags else flags) 0

def changePin (p : Panel) (place : Nat) (f : Pin → Pin) : Panel :=
  { p with buttons := p.buttons.modify place fun b => { b with pin := f b.pin } }

theorem countP_takeFirst (bs : List Button) (event : ButtonEvent)
    (taken : (takeFirst bs).1 = some event) :
    (takeFirst bs).2.countP (·.pending) + 1 = bs.countP (·.pending) := by
  induction bs with
  | nil => simp [takeFirst] at taken
  | cons b rest ih =>
    by_cases pending : b.pending
    · simp [takeFirst, pending, Button.collected]
    · simp only [takeFirst, pending] at taken ⊢
      simpa [pending] using ih taken

theorem pendingCount_take (p : Panel) (event : ButtonEvent) (taken : p.take.1 = some event) :
    p.take.2.pendingCount + 1 = p.pendingCount :=
  countP_takeFirst p.buttons event taken

end Panel

end Keypad
