import Keypad.Bytes.Blocks
import Keypad.Storage.Record
import Keypad.Tracker.Session

/-! The table of the last sessions, a ring: the place after the last is the first. -/
namespace Keypad

def maxSessions : Nat := 31

/-- The last sessions, the place of the one being tracked, and the two thresholds. -/
structure SessionTable where
  magic : UInt32
  sessions : Vector Session maxSessions
  active : UInt32
  mediumMs : UInt64
  longMs : UInt64
  deriving DecidableEq, Repr

namespace SessionTable

open Filler (inTurn within copy chunks)

def defaultMediumMs : UInt64 := 6 * 3600 * 1000

def defaultLongMs : UInt64 := 7 * 3600 * 1000 + 1800 * 1000

def factory : SessionTable where
  magic := recordMagic
  sessions := Vector.replicate maxSessions {}
  active := 0
  mediumMs := defaultMediumMs
  longMs := defaultLongMs

def session? (t : SessionTable) (place : Nat) : Option Session := t.sessions[place]?

def current (t : SessionTable) : Session := t.sessions[t.active.toNat]?.getD {}

def setCurrent (t : SessionTable) (s : Session) : SessionTable :=
  { t with sessions := t.sessions.setIfInBounds t.active.toNat s }

/-- The table with a fresh session in the next place, the first after the last. -/
def opened (t : SessionTable) (date : DateTime) : SessionTable :=
  { t with active := (t.active + 1) % UInt32.ofNat maxSessions }.setCurrent { date }

def activeOffset : Nat := 4 + maxSessions * Session.size

instance : Record SessionTable where
  size := activeOffset + 20
  needed _ := activeOffset + 20
  encode t :=
    LittleEndian.bytes 4 t.magic.toNat ++ t.sessions.toList.flatMap Session.bytes ++
      LittleEndian.bytes 4 t.active.toNat ++ LittleEndian.bytes 8 t.mediumMs.toNat ++
      LittleEndian.bytes 8 t.longMs.toNat
  decode bs :=
    let active := LittleEndian.word32 bs activeOffset
    { magic := LittleEndian.word32 bs 0
      sessions := Vector.ofFn fun i => Session.ofBytes (bs.drop (4 + i.val * Session.size))
      active := if active.toNat < maxSessions then active else 0
      mediumMs := LittleEndian.word64 bs (activeOffset + 4)
      longMs := LittleEndian.word64 bs (activeOffset + 12) }
  length_encode t := by
    simp only [List.length_append, LittleEndian.length_bytes,
      Blocks.length_flatMap Session.length_bytes, Vector.length_toList, activeOffset]
  needed_le _ := Nat.le_refl _
  size_le := by decide

/-- Writes the table into a buffer: a field in front, the sessions, and the fields behind them. -/
def fill (t : SessionTable) : Filler :=
  inTurn [within 0 4 (copy (LittleEndian.bytes 4 t.magic.toNat)),
    within 4 (maxSessions * Session.size)
      (chunks Session.size (t.sessions.toList.map Session.fill)),
    within activeOffset 4 (copy (LittleEndian.bytes 4 t.active.toNat)),
    within (activeOffset + 4) 8 (copy (LittleEndian.bytes 8 t.mediumMs.toNat)),
    within (activeOffset + 12) 8 (copy (LittleEndian.bytes 8 t.longMs.toNat))]

end SessionTable

end Keypad
