import Keypad.Bench.Reply
import Keypad.Micros
import Keypad.Panel.Waiting

/-! Commands to a panel of buttons, with a clock that stands still between commands, a threshold,
and at most one waiter. -/
namespace Keypad.Bench

/-- A panel on the bench. The clock counts microseconds, in a word of 64 bits. `waiter` is where
the waiter goes on, if there is one. -/
structure PanelBench where
  panel : Panel
  clock : UInt64
  thresholdMs : UInt32
  waiter : Option WaitPoint := none

inductive PanelCommand where
  | init
  | setDown (place : Nat) (down : Bool)
  | setFailing (place : Nat) (failing : Bool)
  | pins
  | edge (gpio : UInt8)
  | timer (key id : Nat)
  | fire (key : Nat)
  | retire (id : Nat)
  | exhaust (exhausted : Bool)
  | advance (us : Nat)
  | setClock (ms : Nat)
  | sleep (ms : Nat)
  | now
  | setThreshold (ms : UInt32)
  | threshold
  | take
  | buttonCount
  | config (key : UInt8)
  | wait
  | dropWaiter
  | setValue (key : UInt8) (value : KeyValue)
  | setColor (key : UInt8) (color : Color)
  | isPressed (key : UInt8)
  | pressedKey
  | modifierFlags

/-- The time of a clock set to milliseconds. It is never set to nothing. -/
def clockOfMs? (ms : Nat) : Option UInt64 := Micros.ofMs? (max ms 1)

def PanelBench.setClock (b : PanelBench) : Option UInt64 → Reply × PanelBench
  | some clock => (.done, { b with clock })
  | none => (.overflow, b)

/-- Lets the first live timer of a button run out. A one-shot timer is used up by that, and a
periodic one unless it is to go on. -/
def PanelBench.fire (b : PanelBench) (key : Nat) : Option Bool × PanelBench :=
  match b.panel.timers.liveFor? key with
  | none => (none, b)
  | some t =>
    let (goesOn, panel) := b.panel.timer key t.id b.clock.toNat b.thresholdMs.toNat
    let panel :=
      if t.mode = .oneShot ∨ !goesOn then { panel with timers := panel.timers.cancel t.id }
      else panel
    (some goesOn, { b with panel })

/-- Polls the waiter once, a new one if there is none. A waiter that got its press is gone. -/
def PanelBench.wait (b : PanelBench) : Option ButtonEvent × PanelBench :=
  match b.panel.poll (b.waiter.getD .collecting) with
  | (some event, panel) => (some event, { b with panel, waiter := none })
  | (none, panel) => (none, { b with panel, waiter := some .listening })

/-- Sleeps: the first poll sets the clock to the alarm and wakes the sleeper, the second finds it
rung. The alarm has to have a time. -/
def PanelBench.sleep (b : PanelBench) (ms : Nat) : Reply × PanelBench :=
  match Micros.after? b.clock (1000 * ms) with
  | some clock => (.number 2, { b with clock, panel.wakes := b.panel.wakes + 1 })
  | none => (.overflow, b)

def PanelCommand.run (b : PanelBench) : PanelCommand → Reply × PanelBench
  | .init => (.done, { b with panel := b.panel.init })
  | .setDown place down =>
    (.done, { b with panel := b.panel.changePin place fun p => { p with isDown := down } })
  | .setFailing place failing =>
    (.done, { b with panel := b.panel.changePin place fun p => { p with failing } })
  | .pins => (.texts (b.panel.buttons.map Button.pinText), b)
  | .edge gpio => (.done, { b with panel := b.panel.edge gpio })
  | .timer key id =>
    let (goesOn, panel) := b.panel.timer key id b.clock.toNat b.thresholdMs.toNat
    (.flag goesOn, { b with panel })
  | .fire key =>
    let (goesOn, b) := b.fire key
    (.ofOption .flag goesOn, b)
  | .retire id => (.done, { b with panel.timers := b.panel.timers.cancel id })
  | .exhaust exhausted => (.done, { b with panel.timers.exhausted := exhausted })
  | .advance us => b.setClock (Micros.after? b.clock us)
  | .setClock ms => b.setClock (clockOfMs? ms)
  | .sleep ms => b.sleep ms
  | .now => (.micros b.clock.toNat, b)
  | .setThreshold ms => (.done, { b with thresholdMs := ms })
  | .threshold => (.number b.thresholdMs.toNat, b)
  | .take =>
    let (event, panel) := b.panel.take
    (.ofOption .event event, { b with panel })
  | .buttonCount => (.number b.panel.buttons.length, b)
  | .config key => (.ofOption .config (b.panel.config? key), b)
  | .wait =>
    match b.wait with
    | (some event, b) => (.event event, b)
    | (none, b) => (.asleep, b)
  | .dropWaiter => (.done, { b with waiter := none })
  | .setValue key value => (.done, { b with panel := b.panel.setValue key value })
  | .setColor key color => (.done, { b with panel := b.panel.setColor key color })
  | .isPressed key => (.flags (b.panel.isPressed key) (b.panel.isPressed key), b)
  | .pressedKey => (.ofOption (fun code => .number code.toNat) b.panel.pressedKey, b)
  | .modifierFlags => (.number b.panel.modifierFlags.toNat, b)

structure PanelView where
  timers : List Timer
  started : Nat
  interrupts : List (Bool × Nat)
  wakes : Nat

def viewPanel (p : Panel) (before : Nat) : PanelView where
  timers := p.timers.live
  started := p.timers.started
  interrupts := p.buttons.map fun b => (b.pin.interrupt, b.pin.switches)
  wakes := p.wakes - before

def runPanel (b : PanelBench) : List PanelCommand → List (Reply × PanelView)
  | [] => []
  | command :: rest =>
    let (reply, after) := command.run b
    (reply, viewPanel after.panel b.panel.wakes) ::
      if reply.goesOn then runPanel after rest else []

end Keypad.Bench
