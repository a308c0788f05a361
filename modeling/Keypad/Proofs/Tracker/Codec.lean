import Keypad.Proofs.Bytes.Filling
import Keypad.Proofs.Bytes.LittleEndian
import Keypad.Tracker.Table

namespace Keypad

open Filler (chunks_lays copy_fills inTurn_cons inTurn_nil within_lays)

theorem DateTime.ofBytes_bytes (d : DateTime) (rest : List UInt8) :
    DateTime.ofBytes (d.bytes ++ rest) = d := by
  have year : LittleEndian.word16 (d.bytes ++ rest) 0 = d.year := by
    have first := LittleEndian.word16_behind (List.length_nil : ([] : List UInt8).length = 0)
      ([d.month, d.day, d.hour, d.minute, d.second] ++ rest) d.year
    simpa [bytes] using first
  simp only [ofBytes, year]
  rfl

theorem DateTime.ofBytes_take {bs : List UInt8} {n : Nat} (inside : size ≤ n) :
    ofBytes (bs.take n) = ofBytes bs := by
  have seven : size = 7 := rfl
  simp only [ofBytes]
  rw [LittleEndian.word16_take _ (by omega), LittleEndian.byte_take 2 (by omega),
    LittleEndian.byte_take 3 (by omega), LittleEndian.byte_take 4 (by omega),
    LittleEndian.byte_take 5 (by omega), LittleEndian.byte_take 6 (by omega)]

namespace Session

theorem flags_read (s : Session) :
    (s.flags &&& 1 != 0) = s.trackingWork ∧ (s.flags &&& 2 != 0) = s.trackingMeeting ∧
      (s.flags &&& 4 != 0) = s.mediumReached ∧ (s.flags &&& 8 != 0) = s.longReached := by
  unfold flags
  cases s.trackingWork <;> cases s.trackingMeeting <;> cases s.mediumReached <;>
    cases s.longReached <;> decide

theorem ofBytes_bytes (s : Session) (rest : List UInt8) : ofBytes (s.bytes ++ rest) = s := by
  have work : LittleEndian.word64 (s.bytes ++ rest) 0 = s.workUs := by
    have first := LittleEndian.word64_behind (List.length_nil : ([] : List UInt8).length = 0)
      (LittleEndian.bytes 8 s.meetingUs.toNat ++ (s.date.bytes ++ ([s.flags] ++ rest))) s.workUs
    simpa [bytes, List.append_assoc] using first
  have meeting : LittleEndian.word64 (s.bytes ++ rest) 8 = s.meetingUs := by
    have second := LittleEndian.word64_behind (LittleEndian.length_bytes 8 s.workUs.toNat)
      (s.date.bytes ++ ([s.flags] ++ rest)) s.meetingUs
    simpa [bytes, List.append_assoc] using second
  have date : DateTime.ofBytes ((s.bytes ++ rest).drop 16) = s.date := by
    have third := s.date.ofBytes_bytes ([s.flags] ++ rest)
    have front : (LittleEndian.bytes 8 s.workUs.toNat ++
        LittleEndian.bytes 8 s.meetingUs.toNat).length = 16 := by simp
    rw [bytes, List.append_assoc, List.append_assoc, List.drop_left' front]
    exact third
  have flags : LittleEndian.byte (s.bytes ++ rest) 23 = s.flags := by
    have front : (LittleEndian.bytes 8 s.workUs.toNat ++
        LittleEndian.bytes 8 s.meetingUs.toNat ++ s.date.bytes).length = 23 := by
      simp [DateTime.size]
    rw [bytes, List.append_assoc]
    exact LittleEndian.byte_behind front rest s.flags
  obtain ⟨tracking_work, tracking_meeting, medium, long⟩ := s.flags_read
  simp only [ofBytes, work, meeting, date, flags, tracking_work, tracking_meeting, medium, long]

theorem ofBytes_take {bs : List UInt8} {n : Nat} (inside : size ≤ n) :
    ofBytes (bs.take n) = ofBytes bs := by
  have whole : size = 24 := rfl
  have date : DateTime.ofBytes ((bs.take n).drop 16) = DateTime.ofBytes (bs.drop 16) := by
    have seven : DateTime.size = 7 := rfl
    rw [List.drop_take, DateTime.ofBytes_take (by omega)]
  simp only [ofBytes, date]
  rw [LittleEndian.word64_take 0 (by omega),
    LittleEndian.word64_take 8 (by omega), LittleEndian.byte_take _ (by omega)]

theorem fill_bytes (s : Session) : s.fill.Fills s.bytes := by
  have work := LittleEndian.length_bytes 8 s.workUs.toNat
  have meeting := LittleEndian.length_bytes 8 s.meetingUs.toNat
  have date := s.date.length_bytes
  have fields := inTurn_cons (within_lays 0 (copy_fills _) work) (by rw [work])
    (inTurn_cons (within_lays 8 (copy_fills _) meeting) (by rw [meeting])
      (inTurn_cons (within_lays 16 (copy_fills _) date) (by rw [date]; rfl)
        (inTurn_cons (within_lays 23 (copy_fills [s.flags]) rfl) rfl inTurn_nil)))
  simpa [fill, bytes] using fields.fills

end Session

namespace SessionTable

variable (t : SessionTable)

def sessionBytes : List UInt8 := t.sessions.toList.flatMap Session.bytes

theorem length_sessionBytes : t.sessionBytes.length = maxSessions * Session.size := by
  rw [sessionBytes, Blocks.length_flatMap Session.length_bytes, Vector.length_toList]

theorem ofBytes_sessionBytes {i : Nat} (place : i < maxSessions) (rest : List UInt8) :
    Session.ofBytes ((t.sessionBytes ++ rest).drop (i * Session.size)) = t.sessions[i] := by
  have within : i * Session.size ≤ t.sessionBytes.length := by
    rw [length_sessionBytes]
    exact Nat.mul_le_mul_right Session.size (Nat.le_of_lt place)
  have present : i < t.sessions.toList.length := by rwa [Vector.length_toList]
  rw [List.drop_append_of_le_length within, sessionBytes,
    Blocks.drop_flatMap Session.length_bytes, List.drop_eq_getElem_cons present, List.flatMap_cons,
    List.append_assoc, Session.ofBytes_bytes, Vector.getElem_toList]

/-- Whatever the bytes, the table that is read tracks a session in one of its places. -/
theorem active_decode_lt (bs : List UInt8) :
    (Record.decode bs : SessionTable).active.toNat < maxSessions := by
  simp only [Record.decode]
  split
  · next within => exact within
  · decide

/-- The table as it is read back: a place beyond the last is read as the first. -/
def anchored : SessionTable :=
  { t with active := if t.active.toNat < maxSessions then t.active else 0 }

theorem decode_encode_anchored : Record.decode (Record.encode t) = t.anchored := by
  let head := LittleEndian.bytes 4 t.magic.toNat
  let tail := LittleEndian.bytes 4 t.active.toNat ++
    (LittleEndian.bytes 8 t.mediumMs.toNat ++ (LittleEndian.bytes 8 t.longMs.toNat ++ []))
  have layout : Record.encode t = head ++ (t.sessionBytes ++ tail) := by
    simp [Record.encode, head, tail, sessionBytes]
  have behind : (head ++ t.sessionBytes).length = activeOffset := by
    rw [List.length_append, LittleEndian.length_bytes, length_sessionBytes, activeOffset]
  have magic : LittleEndian.word32 (Record.encode t) 0 = t.magic := by
    rw [layout]
    exact LittleEndian.word32_behind (List.length_nil : ([] : List UInt8).length = 0) _ t.magic
  have place : LittleEndian.word32 (Record.encode t) activeOffset = t.active := by
    rw [layout, ← List.append_assoc]
    exact LittleEndian.word32_behind behind _ t.active
  have medium : LittleEndian.word64 (Record.encode t) (activeOffset + 4) = t.mediumMs := by
    have front : (head ++ t.sessionBytes ++ LittleEndian.bytes 4 t.active.toNat).length =
        activeOffset + 4 := by rw [List.length_append, behind, LittleEndian.length_bytes]
    rw [layout, ← List.append_assoc, ← List.append_assoc]
    exact LittleEndian.word64_behind front _ t.mediumMs
  have long : LittleEndian.word64 (Record.encode t) (activeOffset + 12) = t.longMs := by
    have front : (head ++ t.sessionBytes ++ LittleEndian.bytes 4 t.active.toNat ++
        LittleEndian.bytes 8 t.mediumMs.toNat).length = activeOffset + 12 := by
      rw [List.length_append, List.length_append, behind, LittleEndian.length_bytes,
        LittleEndian.length_bytes]
    rw [layout, ← List.append_assoc, ← List.append_assoc, ← List.append_assoc]
    exact LittleEndian.word64_behind front _ t.longMs
  have sessions : (Vector.ofFn fun i : Fin maxSessions =>
      Session.ofBytes ((Record.encode t).drop (4 + i.val * Session.size))) = t.sessions := by
    apply Vector.ext
    intro i within
    have first : head.length = 4 := LittleEndian.length_bytes ..
    rw [Vector.getElem_ofFn, layout, ← List.drop_drop, List.drop_left' first]
    exact t.ofBytes_sessionBytes within tail
  simp only [Record.decode]
  rw [magic, place, medium, long, sessions, anchored]

variable {t}

theorem anchored_of_lt (active : t.active.toNat < maxSessions) : t.anchored = t := by
  rw [anchored, if_pos active]

theorem decode_encode (active : t.active.toNat < maxSessions) :
    Record.decode (Record.encode t) = t := by
  rw [decode_encode_anchored, anchored_of_lt active]

theorem fill_encode (t : SessionTable) : t.fill.Fills (Record.encode t) := by
  have magic := LittleEndian.length_bytes 4 t.magic.toNat
  have active := LittleEndian.length_bytes 4 t.active.toNat
  have medium := LittleEndian.length_bytes 8 t.mediumMs.toNat
  have long := LittleEndian.length_bytes 8 t.longMs.toNat
  have sessions := chunks_lays Session.fill_bytes Session.length_bytes t.sessions.toList
  have fields := inTurn_cons (within_lays 0 (copy_fills _) magic) (by rw [magic])
    (inTurn_cons (within_lays 4 sessions.fills t.length_sessionBytes)
      (show 4 + _ = activeOffset by rw [← sessionBytes, length_sessionBytes]; rfl)
      (inTurn_cons (within_lays _ (copy_fills _) active) (by rw [active])
        (inTurn_cons (within_lays _ (copy_fills _) medium) (by rw [medium])
          (inTurn_cons (within_lays _ (copy_fills _) long) rfl inTurn_nil))))
  simpa [fill, Record.encode] using fields.fills

theorem decode_take (bs : List UInt8) :
    (Record.decode (bs.take (Record.size SessionTable)) : SessionTable) = Record.decode bs := by
  have sessions : ∀ i : Fin maxSessions,
      Session.ofBytes ((bs.take (Record.size SessionTable)).drop (4 + i.val * Session.size)) =
        Session.ofBytes (bs.drop (4 + i.val * Session.size)) := by
    intro i
    have last := Nat.mul_le_mul_right Session.size (Nat.succ_le_of_lt i.isLt)
    rw [Nat.succ_mul] at last
    have size : Record.size SessionTable = 4 + maxSessions * Session.size + 20 := rfl
    rw [List.drop_take, Session.ofBytes_take (by omega)]
  simp only [Record.decode, sessions]
  rw [LittleEndian.word32_take 0 (by decide),
    LittleEndian.word32_take activeOffset (by decide),
    LittleEndian.word64_take (activeOffset + 4) (by decide),
    LittleEndian.word64_take (activeOffset + 12) (by decide)]

end SessionTable

end Keypad
