import Keypad.Proofs.Decimal
import Keypad.Tracker.Log

namespace Keypad

open Decimal (numbersFrom numbersFrom_numeral numbersFrom_numeral_word numbersFrom_word
  numbersFrom_words value?_padded value?_text)

namespace LogLine

/-- Where all pieces fit, all are written. -/
theorem text_write (line : LogLine) {pieces : List String}
    (fits : (line.text ++ String.join pieces).utf8ByteSize ≤ logLineSize) :
    (line.write pieces).text = line.text ++ String.join pieces := by
  induction pieces generalizing line with
  | nil => simp [write]
  | cons piece rest ih =>
    rw [String.join_cons, ← String.append_assoc] at fits
    have first : (line.text ++ piece).utf8ByteSize ≤ logLineSize := by
      rw [String.utf8ByteSize_append] at fits
      omega
    rw [write, append?, dif_pos first, String.join_cons, ← String.append_assoc]
    exact ih ⟨line.text ++ piece, first⟩ fits

theorem text_write_empty (pieces : List String)
    (fits : (String.join pieces).utf8ByteSize ≤ logLineSize) :
    (empty.write pieces).text = String.join pieces := by
  have behind : empty.text ++ String.join pieces = String.join pieces := String.empty_append
  rw [← behind] at fits
  rw [empty.text_write fits, behind]

end LogLine

namespace DateTime

theorem utf8ByteSize_text_le (d : DateTime) : d.text.utf8ByteSize ≤ 25 := by
  have year : (Decimal.padded 4 d.year.toNat).utf8ByteSize ≤ 5 :=
    Decimal.utf8ByteSize_padded_le (by decide) (by decide)
      (Nat.lt_of_lt_of_le d.year.toNat_lt (by decide))
  have field (b : UInt8) : (Decimal.padded 2 b.toNat).utf8ByteSize ≤ 3 :=
    Decimal.utf8ByteSize_padded_le (by decide) (by decide)
      (Nat.lt_of_lt_of_le b.toNat_lt (by decide))
  have month := field d.month
  have day := field d.day
  have hour := field d.hour
  have minute := field d.minute
  have second := field d.second
  have dash : "-".utf8ByteSize = 1 := rfl
  have space : " ".utf8ByteSize = 1 := rfl
  have colon : ":".utf8ByteSize = 1 := rfl
  simp only [text, String.utf8ByteSize_append]
  omega

end DateTime

namespace Tracker

def told? (line : String) : Option (DateTime × Nat) :=
  match Decimal.numbers line with
  | [year, month, day, hour, minute, second, h, m, s] =>
    some (⟨.ofNat year, .ofNat month, .ofNat day, .ofNat hour, .ofNat minute, .ofNat second⟩,
      3600 * h + 60 * m + s)
  | _ => none

theorem numbersFrom_date (d : DateTime) (rest : List Char) :
    numbersFrom none (d.text.toList ++ rest) =
      [d.year.toNat, d.month.toNat, d.day.toNat, d.hour.toNat, d.minute.toNat] ++
        numbersFrom (some d.second.toNat) rest := by
  simp only [DateTime.text, String.toList_append, List.append_assoc]
  rw [numbersFrom_numeral_word (value?_padded 4 _) (by decide) (by decide),
    numbersFrom_numeral_word (value?_padded 2 _) (by decide) (by decide),
    numbersFrom_numeral_word (value?_padded 2 _) (by decide) (by decide),
    numbersFrom_numeral_word (value?_padded 2 _) (by decide) (by decide),
    numbersFrom_numeral_word (value?_padded 2 _) (by decide) (by decide),
    numbersFrom_numeral (value?_padded 2 _)]
  rfl

def timeText (date : DateTime) (label : String) (h m s : Nat) : String :=
  date.text ++ " " ++ label ++ ": " ++ Decimal.text h ++ "h " ++ Decimal.text m ++ "min " ++
    Decimal.text s ++ "s"

theorem numbers_timeText (date : DateTime) {label : String}
    (wordy : label.toList.any (·.isDigit) = false) (h m s : Nat) :
    Decimal.numbers (timeText date label h m s) =
      [date.year.toNat, date.month.toNat, date.day.toNat, date.hour.toNat, date.minute.toNat,
        date.second.toNat, h, m, s] := by
  have unit : "s".toList.any (·.isDigit) = false := by decide
  have behind : numbersFrom none ((Decimal.text s).toList ++ "s".toList) = [s] :=
    numbersFrom_numeral_word (value?_text s) (by decide) unit []
  simp only [Decimal.numbers, timeText, String.toList_append, List.append_assoc]
  rw [numbersFrom_date, numbersFrom_word _ (by decide) (by decide), numbersFrom_words wordy,
    numbersFrom_words (by decide),
    numbersFrom_numeral_word (value?_text h) (by decide) (by decide),
    numbersFrom_numeral_word (value?_text m) (by decide) (by decide), behind]
  rfl

theorem told?_timeText (date : DateTime) {label : String}
    (wordy : label.toList.any (·.isDigit) = false) (h m s : Nat) :
    told? (timeText date label h m s) = some (date, 3600 * h + 60 * m + s) := by
  rw [told?, numbers_timeText date wordy]
  simp

/-- One hour, two minutes and five seconds. -/
example : told? "2025-05-01 09:00:00 Work: 1h 2min 5s" =
    some (⟨2025, 5, 1, 9, 0, 0⟩, 3725) := by decide

theorem join_durationPieces (date : DateTime) (label : String) (us : UInt64) :
    String.join (durationPieces date label us) =
      timeText date label (us.toNat / 10 ^ 6 / 3600) (us.toNat / 10 ^ 6 % 3600 / 60)
        (us.toNat / 10 ^ 6 % 60) := by
  have seconds : (us / usPerSecond).toNat = us.toNat / 10 ^ 6 := UInt64.toNat_div ..
  simp only [durationPieces, timeText, seconds, String.join_cons, String.join_nil,
    String.append_assoc, String.append_empty]

/-- The longest line has a year of five digits, fields of three, and ten digits for the hours. -/
theorem utf8ByteSize_timeText_le (date : DateTime) {label : String} {h m s : Nat}
    (short : label.utf8ByteSize ≤ 8) (hours : h < 10 ^ 10) (minutes : m < 60) (seconds : s < 60) :
    (timeText date label h m s).utf8ByteSize ≤ 57 := by
  have date := date.utf8ByteSize_text_le
  have hours := Decimal.utf8ByteSize_text_le (by decide) hours
  have minutes : (Decimal.text m).utf8ByteSize ≤ 2 :=
    Decimal.utf8ByteSize_text_le (by decide) (by omega)
  have seconds : (Decimal.text s).utf8ByteSize ≤ 2 :=
    Decimal.utf8ByteSize_text_le (by decide) (by omega)
  have fixed : " ".utf8ByteSize = 1 ∧ ": ".utf8ByteSize = 2 ∧ "h ".utf8ByteSize = 2 ∧
      "min ".utf8ByteSize = 4 ∧ "s".utf8ByteSize = 1 := ⟨rfl, rfl, rfl, rfl, rfl⟩
  simp only [timeText, String.utf8ByteSize_append]
  omega

/-- A line that tells a date and a time: it is whole, and both are read off it. -/
structure Tells (line : LogLine) (date : DateTime) (label : String) (us : UInt64) : Prop where
  text : ∃ h m s, m < 60 ∧ s < 60 ∧ 3600 * h + 60 * m + s = us.toNat / 10 ^ 6 ∧
    line.text = timeText date label h m s
  told : told? line.text = some (date, us.toNat / 10 ^ 6)

theorem tells_duration (date : DateTime) {label : String} (us : UInt64)
    (short : label.utf8ByteSize ≤ 8) (wordy : label.toList.any (·.isDigit) = false) :
    Tells (LogLine.empty.write (durationPieces date label us)) date label us := by
  have bound := us.toNat_lt
  have length : (String.join (durationPieces date label us)).utf8ByteSize ≤ 57 := by
    rw [join_durationPieces]
    exact utf8ByteSize_timeText_le date short (by omega) (by omega) (by omega)
  have whole := LogLine.text_write_empty _ (Nat.le_trans length (by decide))
  rw [join_durationPieces] at whole
  have sum : 3600 * (us.toNat / 10 ^ 6 / 3600) + 60 * (us.toNat / 10 ^ 6 % 3600 / 60) +
      us.toNat / 10 ^ 6 % 60 = us.toNat / 10 ^ 6 := by omega
  constructor
  · exact ⟨_, _, _, by omega, by omega, sum, whole⟩
  · rw [whole, told?_timeText date wordy, sum]

theorem text_sessionLine (active : UInt32) :
    (LogLine.empty.write ["Current session ID: ", Decimal.text active.toNat]).text =
      "Current session ID: " ++ Decimal.text active.toNat := by
  have joined : String.join ["Current session ID: ", Decimal.text active.toNat] =
      "Current session ID: " ++ Decimal.text active.toNat := by
    simp only [String.join_cons, String.join_nil, String.append_empty]
  have number : (Decimal.text active.toNat).utf8ByteSize ≤ 10 :=
    Decimal.utf8ByteSize_text_le (by decide) (Nat.lt_of_lt_of_le active.toNat_lt (by decide))
  have label : "Current session ID: ".utf8ByteSize = 20 := rfl
  have fits : (String.join ["Current session ID: ", Decimal.text active.toNat]).utf8ByteSize ≤
      logLineSize := by
    rw [joined, String.utf8ByteSize_append, label]
    exact Nat.le_trans (Nat.add_le_add_left number 20) (by decide)
  rw [LogLine.text_write_empty _ fits, joined]

/-- Whatever was tracked, whatever the date says and whichever line is asked for, it is whole. -/
theorem log_whole (table : SessionTable) (today : DateTime) :
    Tells (log table today 0) today "Work" table.current.workUs ∧
      Tells (log table today 1) today "Meetings" table.current.meetingUs ∧
      (log table today 2).text = "Current session ID: " ++ Decimal.text table.active.toNat ∧
      (∀ code, 2 < code → (log table today code).text = "Invalid log ID") ∧
      ∀ code, (log table today code).text.utf8ByteSize ≤ 64 := by
  refine ⟨?_, ?_, ?_, ?_, fun code => (log table today code).fits⟩
  · exact tells_duration today table.current.workUs (by decide) (by decide)
  · exact tells_duration today table.current.meetingUs (by decide) (by decide)
  · exact text_sessionLine table.active
  · intro code unknown
    have none : Log.ofCode? code = none := by
      rw [UInt32.lt_iff_toNat_lt] at unknown
      have apart (k : UInt32) (known : k.toNat ≤ 2) : code ≠ k := by
        rintro rfl
        exact absurd unknown (Nat.not_lt.2 known)
      rw [Log.ofCode?, if_neg (apart 0 (by decide)), if_neg (apart 1 (by decide)),
        if_neg (apart 2 (by decide))]
    rw [log, none]
    exact LogLine.text_write_empty ["Invalid log ID"] (by decide)

end Tracker

end Keypad
