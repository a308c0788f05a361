import Keypad.Device
import Keypad.Tracker.LogLine

namespace Keypad.Tracker

inductive Log where
  | workTime
  | meetingTime
  | sessionId
  deriving DecidableEq, Repr, Inhabited

def Log.ofCode? (code : UInt32) : Option Log :=
  if code = 0 then some .workTime
  else if code = 1 then some .meetingTime
  else if code = 2 then some .sessionId
  else none

def Log.name : Log → String
  | .workTime => "WorkTime"
  | .meetingTime => "MeetingTime"
  | .sessionId => "SessionId"

def usPerSecond : UInt64 := 1000 * usPerMs

def durationPieces (date : DateTime) (label : String) (us : UInt64) : List String :=
  let seconds := (us / usPerSecond).toNat
  [date.text, " ", label, ": ", Decimal.text (seconds / 3600), "h ",
    Decimal.text (seconds % 3600 / 60), "min ", Decimal.text (seconds % 60), "s"]

def log (table : SessionTable) (today : DateTime) (code : UInt32) : LogLine :=
  LogLine.empty.write <|
    match Log.ofCode? code with
    | some .workTime => durationPieces today "Work" table.current.workUs
    | some .meetingTime => durationPieces today "Meetings" table.current.meetingUs
    | some .sessionId => ["Current session ID: ", Decimal.text table.active.toNat]
    | none => ["Invalid log ID"]

end Keypad.Tracker
