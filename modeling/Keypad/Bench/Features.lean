import Keypad.Bench.Reply
import Keypad.Features.Running

namespace Keypad.Bench

def ofCount : Except CounterOverflow Unit → Reply
  | .ok () => .done
  | .error _ => .overflow

/-- Ticks several times, up to the first that overflows a counter. -/
def ticks {g : Geometry} (tick : Device g → Except CounterOverflow Unit × Device g) :
    Nat → Device g → Except CounterOverflow Unit × Device g
  | 0, d => (.ok (), d)
  | n + 1, d =>
    match tick d with
    | (.ok (), d) => ticks tick n d
    | (.error e, d) => (.error e, d)

inductive TrackerCommand where
  | start
  | stop
  | factoryReset
  | tick (times : Nat)
  | handle
  | openSession
  | log (code : UInt32)
  | setMediumMs (ms : UInt64)
  | setLongMs (ms : UInt64)
  | active
  | session (place : Nat)
  | table

def TrackerCommand.run {g : Geometry} (d : Device g) : TrackerCommand → Reply × Device g
  | .start => (.done, Tracker.start d)
  | .stop => (.done, Tracker.stop d)
  | .factoryReset => (.done, Tracker.factoryReset d)
  | .tick times =>
    let (r, d) := ticks Tracker.tick times d
    (ofCount r, d)
  | .handle =>
    let (r, d) := Tracker.handle d
    (ofCount r, d)
  | .openSession =>
    let (r, d) := Tracker.openSession d
    (.ofStore .acknowledge r, d)
  | .log code => (.text (Tracker.log d.tracker.table d.today code).text, d)
  | .setMediumMs ms =>
    let (r, d) := Tracker.setMediumMs d ms
    (.ofStore .acknowledge r, d)
  | .setLongMs ms =>
    let (r, d) := Tracker.setLongMs d ms
    (.ofStore .acknowledge r, d)
  | .active => (.number d.tracker.table.active.toNat, d)
  | .session place => (.ofOption .session (d.tracker.table.session? place), d)
  | .table => (.record (.sessionTable d.tracker.table), d)

inductive FeaturesCommand where
  | init
  | factoryReset
  | switchTo (feature : Feature)
  | switchToCode (code : UInt8)
  | handle
  | tick (times : Nat)
  | log (feature : Feature) (code : UInt32)
  | current

def FeaturesCommand.run {g : Geometry} (d : Device g) : FeaturesCommand → Reply × Device g
  | .init => (.done, Features.init d)
  | .factoryReset => (.done, Features.factoryReset d)
  | .switchTo feature => (.done, Features.switchTo d feature)
  | .switchToCode code =>
    let (known, d) := Features.switchToCode d code
    (.flag known, d)
  | .handle =>
    let (r, d) := Features.handle d
    (ofCount r, d)
  | .tick times =>
    let (r, d) := ticks Features.tick times d
    (ofCount r, d)
  | .log feature code => (.text (Features.log d feature code).text, d)
  | .current => (.texts [d.active.current.name, d.active.current.name], d)

end Keypad.Bench
