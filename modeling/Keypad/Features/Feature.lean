import Keypad.Bytes.Filler
import Keypad.Storage.Record

namespace Keypad

inductive Feature where
  | clipboard
  | timeTracker
  | none
  deriving DecidableEq, Repr, Inhabited

namespace Feature

def code : Feature → UInt8
  | clipboard => 0
  | timeTracker => 1
  | none => 2

def ofCode? (code : UInt8) : Option Feature :=
  if code = 0 then some clipboard
  else if code = 1 then some timeTracker
  else if code = 2 then some none
  else Option.none

@[simp] theorem ofCode?_code (f : Feature) : ofCode? f.code = some f := by cases f <;> rfl

def name : Feature → String
  | clipboard => "ctrl_c_v"
  | timeTracker => "time-tracker"
  | none => "none"

/-- Time tracking goes by two names. -/
def named? (text : String) : Option Feature :=
  if text = "ctrl_c_v" then some clipboard
  else if text = "time-tracker" ∨ text = "time_tracker" then some timeTracker
  else if text = "none" then some none
  else Option.none

end Feature

structure ActiveFeature where
  magic : UInt32
  feature : Feature
  isSet : Bool
  deriving DecidableEq, Repr, Inhabited

namespace ActiveFeature

open Filler (inTurn within copy)

/-- What is in memory before the record has been read. -/
def unread : ActiveFeature := ⟨0, .none, false⟩

def factory : ActiveFeature := ⟨recordMagic, .none, false⟩

def current (a : ActiveFeature) : Feature := if a.isSet then a.feature else .none

/-- Behind the code of a feature stands whether it is set. A code of no feature sets none, whatever
stands behind it. -/
instance : Record ActiveFeature where
  size := 6
  needed bs := if (Feature.ofCode? (LittleEndian.byte bs 4)).isSome then 6 else 5
  encode a := LittleEndian.bytes 4 a.magic.toNat ++ [a.feature.code, a.isSet.toUInt8]
  decode bs :=
    match Feature.ofCode? (LittleEndian.byte bs 4) with
    | some feature =>
      { magic := LittleEndian.word32 bs 0, feature, isSet := LittleEndian.byte bs 5 == 1 }
    | Option.none => { magic := LittleEndian.word32 bs 0, feature := .none, isSet := false }
  length_encode a := by simp
  needed_le bs := by split <;> decide
  size_le := by decide

def fill (a : ActiveFeature) : Filler :=
  inTurn [within 0 4 (copy (LittleEndian.bytes 4 a.magic.toNat)),
    within 4 1 (copy [a.feature.code]), within 5 1 (copy [a.isSet.toUInt8])]

end ActiveFeature

end Keypad
