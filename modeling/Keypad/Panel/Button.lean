import Keypad.Board
import Keypad.Panel.Timers

/-! One button and its debounce cycle. A falling edge turns the pin's edge interrupt off and starts
a timer; when that runs out the pin is read once. A released pin was a short press; a held one is
watched until it is released (a short press) or has been held for the threshold (a long press).
Then the interrupt is on again, and the press is pending until it is collected. -/
namespace Keypad

/-- The quiet time after an edge, before the pin is trusted. -/
def debounceMs : Nat := 100

def watchMs : Nat := 100

/-- A switch that pulls its pin low while it is down. Reads of the level may fail; `switches` counts
how often the edge interrupt was set. -/
structure Pin where
  isDown : Bool := false
  failing : Bool := false
  interrupt : Bool := false
  switches : Nat := 0
  deriving DecidableEq, Repr, Inhabited

namespace Pin

/-- Whether the pin reads low. A read that fails does not. -/
def isLow (p : Pin) : Bool := p.isDown && !p.failing

def setInterrupt (p : Pin) (on : Bool) : Pin :=
  { p with interrupt := on, switches := p.switches + 1 }

end Pin

/-- A button: its configuration, its pin, and where it is in its cycle. While a held button is
watched, `watchedSince` is when that began, in microseconds. -/
structure Button where
  config : ButtonConfig
  pin : Pin := {}
  debouncing : Bool := false
  pending : Bool := false
  longPress : Bool := false
  watchedSince : Option Nat := none
  timer : Option Nat := none
  deriving DecidableEq, Repr, Inhabited

inductive Expiry where
  /-- It was not the timer that the button holds. -/
  | stale
  /-- The button is held, and watched from now on. -/
  | watched
  /-- The button is still held, and watched on. -/
  | held
  /-- A press is pending. -/
  | published
  deriving DecidableEq, Repr, Inhabited

namespace Button

def reset (b : Button) (q : TimerQueue) : Button × TimerQueue :=
  ({ config := b.config, pin := b.pin.setInterrupt b.config.enabled }, q.release b.timer)

def accepts (b : Button) : Bool := b.config.enabled && !b.debouncing && !b.pending

def settle (b : Button) (long : Bool) (q : TimerQueue) : Button × TimerQueue :=
  ({ b with
    pin := b.pin.setInterrupt true
    debouncing := false
    pending := true
    longPress := long
    watchedSince := none
    timer := none }, q.release b.timer)

def abort (b : Button) (q : TimerQueue) : Button × TimerQueue :=
  ({ b with
    pin := b.pin.setInterrupt true
    debouncing := false
    watchedSince := none
    timer := none }, q.release b.timer)

def edge (b : Button) (key : Nat) (q : TimerQueue) : Button × TimerQueue :=
  if b.accepts then
    let b := { b with pin := b.pin.setInterrupt false, debouncing := true }
    match q.start key debounceMs .oneShot with
    | (some id, q) => ({ b with timer := some id }, q)
    | (none, q) => b.abort q
  else (b, q)

/-- Watches the held button from now on. Without a timer for it the press is short. -/
def watch (b : Button) (key now : Nat) (q : TimerQueue) : Expiry × Button × TimerQueue :=
  let b' := { b with watchedSince := some now }
  match (q.release b.timer).start key watchMs .periodic with
  | (some id, q) => (.watched, { b' with timer := some id }, q)
  | (none, q) => (.published, { b' with timer := none }.settle false q)

def isLong (since now thresholdMs : Nat) : Bool := 1000 * thresholdMs ≤ now - since

def expire (b : Button) (key id now thresholdMs : Nat) (q : TimerQueue) :
    Expiry × Button × TimerQueue :=
  if b.debouncing && b.timer == some id then
    match b.watchedSince with
    | none => if b.pin.isLow then b.watch key now q else (.published, b.settle false q)
    | some since =>
      if !b.pin.isLow then (.published, b.settle false q)
      else if isLong since now thresholdMs then (.published, b.settle true q)
      else (.held, b, q)
  else (.stale, b, q)

/-- Whether the button is enabled and down right now, debounced or not. -/
def isHeld (b : Button) : Bool := b.config.enabled && b.pin.isLow

def event (b : Button) : ButtonEvent := ⟨b.config.id, b.longPress⟩

def collected (b : Button) : Button :=
  { b with debouncing := false, pending := false, longPress := false }

def pinText (b : Button) : String :=
  "Pin \x7b n: " ++ Decimal.text b.config.gpio.toNat ++ ", is_down: " ++ toString b.pin.isDown ++
    ", irq: " ++ toString b.pin.interrupt ++ " \x7d"

end Button

end Keypad
