import Keypad.Device

/-! Time tracking. One key turns the tracking of work on and off, one that of meetings, and only one
of both runs at a time. The third key shows the hours of the session by blinking, and, held long,
opens the next session. Ticks count the time, light the third key when a threshold is reached, and
save the sessions now and then. -/
namespace Keypad.Tracker

variable {g : Geometry}

def workKey : UInt8 := 0

def meetingKey : UInt8 := 1

def functionKey : UInt8 := 2

def ticksPerSave : Nat := 4

def hoursBlinkMs : UInt32 := 800

def openedBlinkMs : UInt32 := 200

def openedBlinkCount : UInt32 := 3

def msPerHour : UInt64 := 3600 * 1000

def setTable (d : Device g) (table : SessionTable) : Device g := { d with tracker.table := table }

def setCurrent (d : Device g) (s : Session) : Device g :=
  setTable d (d.tracker.table.setCurrent s)

def save (d : Device g) : Except StorageError Unit × Device g :=
  let table := d.tracker.table
  d.onStore (·.save .sessionTable table)

def trySave (d : Device g) : Device g := (save d).2

def factoryReset (d : Device g) : Device g := trySave (setTable d .factory)

/-- Reads the sessions. Without a valid record, or without a record that can be read, the table
begins empty. -/
def load (d : Device g) : Device g :=
  match d.onStore (·.get (α := SessionTable) .sessionTable) with
  | (.ok table, d) => if table.magic = recordMagic then setTable d table else factoryReset d
  | (.error _, d) => factoryReset d

def darken (d : Device g) : Device g :=
  ((d.light (.off workKey)).light (.off meetingKey)).light (.off functionKey)

def stopTracking (d : Device g) : Device g :=
  let s := d.tracker.table.current
  if s.trackingWork then (setCurrent d { s with trackingWork := false }).light (.off workKey)
  else if s.trackingMeeting then
    (setCurrent d { s with trackingMeeting := false }).light (.off meetingKey)
  else d

/-- Dates the current session, if it has no date yet. -/
def dateSession (d : Device g) : Device g :=
  let s := d.tracker.table.current
  if s.date.isUnset then setCurrent d { s with date := d.today } else d

/-- Comes up: reads the sessions, and stops what was being tracked when they were saved. -/
def start (d : Device g) : Device g :=
  let d := dateSession ((stopTracking (darken (load d))).light (.mode .byFeature))
  { d with tracker.intervals := 0, tracker.running := true }

def stop (d : Device g) : Device g :=
  trySave (darken ({ d with tracker.running := false }.light (.mode .whilePressed)))

def openSession (d : Device g) : Except StorageError Unit × Device g :=
  let d := (stopTracking d).light (.off functionKey)
  save (setTable d (d.tracker.table.opened d.today))

def setMediumMs (d : Device g) (ms : UInt64) : Except StorageError Unit × Device g :=
  save { d with tracker.table.mediumMs := ms }

def setLongMs (d : Device g) (ms : UInt64) : Except StorageError Unit × Device g :=
  save { d with tracker.table.longMs := ms }

def trackingKey (work : Bool) : UInt8 := if work then workKey else meetingKey

/-- Turns the tracking of work on or off, or else that of meetings. What is turned on takes over
from the other. -/
def toggle (d : Device g) (work : Bool) : Device g :=
  let s := d.tracker.table.current
  if s.tracking work then (setCurrent d (s.track work false)).light (.off (trackingKey work))
  else
    let d := if s.tracking !work then d.light (.off (trackingKey !work)) else d
    (setCurrent d ((s.track (!work) false).track work true)).light
      (.on (trackingKey work) (d.settings.table.color (trackingKey work)))

/-- The blinks that show a time: one for each whole hour, and at least one. -/
def hourBlinks (trackedMs : UInt64) : UInt32 := max (trackedMs / msPerHour).toUInt32 1

def showHours (d : Device g) : Except CounterOverflow Unit × Device g :=
  let s := d.tracker.table.current
  if s.mediumReached || s.longReached then (.ok (), d)
  else
    match s.trackedMs? with
    | none => (.error {}, d)
    | some ms =>
      (.ok (), d.light (.blink functionKey hoursBlinkMs (hourBlinks ms)
        (d.settings.table.color functionKey)))

def openAndBlink (d : Device g) : Device g :=
  let color := d.settings.table.color functionKey
  (openSession d).2.light (.blink functionKey openedBlinkMs openedBlinkCount color)

def press (d : Device g) (event : ButtonEvent) : Except CounterOverflow Unit × Device g :=
  let d := dateSession d
  if event.key = functionKey then
    if event.long then (.ok (), openAndBlink d) else showHours d
  else if event.long then (.ok (), d)
  else if event.key = workKey then (.ok (), toggle d true)
  else if event.key = meetingKey then (.ok (), toggle d false)
  else (.ok (), d)

/-- Answers presses in order, up to the first that overflows a counter. -/
def pressAll (d : Device g) : List ButtonEvent → Except CounterOverflow Unit × Device g
  | [] => (.ok (), d)
  | event :: rest =>
    match press d event with
    | (.ok (), d) => pressAll d rest
    | (.error e, d) => (.error e, d)

def handle (d : Device g) : Except CounterOverflow Unit × Device g :=
  let (events, d) := d.drain
  pressAll d events

/-- The threshold that a session has just reached, if any, and the session that knows it. The medium
one comes first, also where both are reached at once. -/
def reach (table : SessionTable) (ms : UInt64) (s : Session) : Option Color × Session :=
  if table.mediumMs ≤ ms ∧ !s.mediumReached then (some .yellow, { s with mediumReached := true })
  else if table.longMs ≤ ms ∧ !s.longReached then (some .red, { s with longReached := true })
  else (none, s)

def countTick (d : Device g) : Device g :=
  if d.tracker.intervals + 1 < ticksPerSave then
    { d with tracker.intervals := d.tracker.intervals + 1 }
  else trySave { d with tracker.intervals := 0 }

/-- A tick. It counts only while the tracker runs and tracks something. -/
def tick (d : Device g) : Except CounterOverflow Unit × Device g :=
  let table := d.tracker.table
  if d.tracker.running && table.current.isTracking then
    match table.current.ticked? with
    | none => (.error {}, d)
    | some s =>
      match s.trackedMs? with
      | none => (.error {}, d)
      | some ms =>
        match reach table ms s with
        | (some color, s) => (.ok (), countTick ((setCurrent d s).light (.on functionKey color)))
        | (none, s) => (.ok (), countTick (setCurrent d s))
  else (.ok (), d)

end Keypad.Tracker
