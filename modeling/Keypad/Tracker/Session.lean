import Keypad.Bytes.Filler
import Keypad.DateTime
import Keypad.Micros

namespace Keypad

def tickMs : UInt64 := 250

def usPerMs : UInt64 := 1000

/-- A session: the time in work and in meetings, the date it started, which of both is being
tracked, and which of the two thresholds it has reached. -/
structure Session where
  workUs : UInt64 := 0
  meetingUs : UInt64 := 0
  date : DateTime := {}
  trackingWork : Bool := false
  trackingMeeting : Bool := false
  mediumReached : Bool := false
  longReached : Bool := false
  deriving DecidableEq, Repr, Inhabited

namespace Session

open Filler (inTurn within copy)

def trackedMs? (s : Session) : Option UInt64 :=
  (Micros.after? s.workUs s.meetingUs.toNat).map (· / usPerMs)

def isTracking (s : Session) : Bool := s.trackingWork || s.trackingMeeting

def tracking (s : Session) (work : Bool) : Bool :=
  if work then s.trackingWork else s.trackingMeeting

def track (s : Session) (work on : Bool) : Session :=
  if work then { s with trackingWork := on } else { s with trackingMeeting := on }

/-- The session one tick later: what is being tracked counts on, work before meetings. -/
def ticked? (s : Session) : Option Session :=
  if s.trackingWork then
    (Micros.after? s.workUs (tickMs * usPerMs).toNat).map fun us => { s with workUs := us }
  else if s.trackingMeeting then
    (Micros.after? s.meetingUs (tickMs * usPerMs).toNat).map fun us => { s with meetingUs := us }
  else some s

def flags (s : Session) : UInt8 :=
  s.trackingWork.toUInt8 ||| s.trackingMeeting.toUInt8 <<< 1 ||| s.mediumReached.toUInt8 <<< 2 |||
    s.longReached.toUInt8 <<< 3

/-- The four flags as letters, a dash for a flag that is not set. -/
def flagsText (s : Session) : String :=
  String.ofList [if s.trackingWork then 'w' else '-', if s.trackingMeeting then 'm' else '-',
    if s.mediumReached then 'M' else '-', if s.longReached then 'L' else '-']

def size : Nat := 24

def bytes (s : Session) : List UInt8 :=
  LittleEndian.bytes 8 s.workUs.toNat ++ LittleEndian.bytes 8 s.meetingUs.toNat ++ s.date.bytes ++
    [s.flags]

@[simp] theorem length_bytes (s : Session) : s.bytes.length = size := by
  simp [bytes, DateTime.size, size]

def fill (s : Session) : Filler :=
  inTurn [within 0 8 (copy (LittleEndian.bytes 8 s.workUs.toNat)),
    within 8 8 (copy (LittleEndian.bytes 8 s.meetingUs.toNat)),
    within 16 DateTime.size (copy s.date.bytes), within 23 1 (copy [s.flags])]

/-- The session at an offset; of the flag byte only four bits count. -/
def ofBytes (bs : List UInt8) : Session where
  workUs := LittleEndian.word64 bs 0
  meetingUs := LittleEndian.word64 bs 8
  date := DateTime.ofBytes (bs.drop 16)
  trackingWork := LittleEndian.byte bs 23 &&& 1 != 0
  trackingMeeting := LittleEndian.byte bs 23 &&& 2 != 0
  mediumReached := LittleEndian.byte bs 23 &&& 4 != 0
  longReached := LittleEndian.byte bs 23 &&& 8 != 0

end Session

end Keypad
