import Keypad.Keys.Table
import Keypad.Proofs.Bytes.Filling
import Keypad.Proofs.Bytes.LittleEndian

namespace Keypad

open Filler (behind_lays chunks_lays copy_fills inTurn_cons inTurn_nil within_lays)

theorem KeyEntry.ofBytes_bytes (e : KeyEntry) {front : List UInt8} {offset : Nat}
    (stands : front.length = offset) (rest : List UInt8) :
    ofBytes (front ++ (e.bytes ++ rest)) offset = e := by
  have tag : LittleEndian.byte (front ++ (e.bytes ++ rest)) offset = e.value.tag :=
    LittleEndian.byte_behind stands ([e.value.payload, e.color.code] ++ rest) e.value.tag
  have payload : LittleEndian.byte (front ++ (e.bytes ++ rest)) (offset + 1) = e.value.payload := by
    have first : (front ++ [e.value.tag]).length = offset + 1 := by simp [stands]
    have second := LittleEndian.byte_behind first ([e.color.code] ++ rest) e.value.payload
    simpa [bytes, KeyValue.bytes] using second
  have color : LittleEndian.byte (front ++ (e.bytes ++ rest)) (offset + 2) = e.color.code := by
    have first : (front ++ [e.value.tag, e.value.payload]).length = offset + 2 := by simp [stands]
    have third := LittleEndian.byte_behind first rest e.color.code
    simpa [bytes, KeyValue.bytes] using third
  have whole : ¬ (front ++ (e.bytes ++ rest)).length < offset + size := by
    rw [List.length_append, List.length_append, length_bytes, stands]
    omega
  rw [ofBytes, if_neg whole, tag, payload, color, KeyValue.ofTag?_tag, Color.ofCode_code,
    Option.getD_some]

theorem KeyEntry.ofBytes_take {bs : List UInt8} {n offset : Nat} (inside : offset + size ≤ n) :
    ofBytes (bs.take n) offset = ofBytes bs offset := by
  have three : size = 3 := rfl
  have long : (bs.take n).length < offset + size ↔ bs.length < offset + size := by
    rw [List.length_take]
    omega
  simp only [ofBytes, long]
  rw [LittleEndian.byte_take _ (by omega), LittleEndian.byte_take _ (by omega),
    LittleEndian.byte_take _ (by omega)]

theorem KeyEntry.fill_bytes (e : KeyEntry) : e.fill.Fills e.bytes :=
  Filler.Lays.fills (inTurn_cons (within_lays _ (copy_fills e.value.bytes) rfl) rfl
    (inTurn_cons (within_lays _ (copy_fills [e.color.code]) rfl) rfl inTurn_nil))

namespace KeyTable

theorem keyCount_decode_le (bs : List UInt8) :
    (Record.decode bs : KeyTable).keyCount.toNat ≤ maxKeys := by
  let count := LittleEndian.byte bs 8
  show (if count ≤ UInt8.ofNat maxKeys then count else UInt8.ofNat maxKeys).toNat ≤ maxKeys
  split
  · next few => exact UInt8.le_iff_toNat_le.1 few
  · decide

theorem keyCount_ofBoard (board : List ButtonConfig) :
    (ofBoard board).keyCount.toNat = min board.length maxKeys := by
  have few : min board.length maxKeys ≤ maxKeys := Nat.min_le_right ..
  exact UInt8.toNat_ofNat_of_lt' (Nat.lt_of_le_of_lt few (by decide))

theorem keyCount_ofBoard_le (board : List ButtonConfig) :
    (ofBoard board).keyCount.toNat ≤ maxKeys := by
  rw [keyCount_ofBoard]
  exact Nat.min_le_right ..

/-- The table as it is read back: no more keys are in use than there are places. -/
def clamped (t : KeyTable) : KeyTable := { t with keyCount := min t.keyCount (UInt8.ofNat maxKeys) }

variable {t : KeyTable}

theorem clamped_of_le (few : t.keyCount.toNat ≤ maxKeys) : t.clamped = t := by
  have same : min t.keyCount (UInt8.ofNat maxKeys) = t.keyCount :=
    if_pos (UInt8.le_iff_toNat_le.2 few)
  rw [clamped, same]

theorem decode_encode_clamped (t : KeyTable) : Record.decode (Record.encode t) = t.clamped := by
  let magicBytes := LittleEndian.bytes 4 t.magic.toNat
  let head := magicBytes ++ LittleEndian.bytes 4 t.longPressMs.toNat
  let entries := t.keys.toList.flatMap KeyEntry.bytes
  have layout : Record.encode t = head ++ t.keyCount :: entries := by
    simp [Record.encode, head, magicBytes, entries]
  have head_length : head.length = 8 := by simp [head, magicBytes]
  have magic : LittleEndian.word32 (Record.encode t) 0 = t.magic := by
    have first := LittleEndian.word32_behind (List.length_nil : ([] : List UInt8).length = 0)
      (LittleEndian.bytes 4 t.longPressMs.toNat ++ t.keyCount :: entries) t.magic
    simpa [layout, head] using first
  have threshold : LittleEndian.word32 (Record.encode t) 4 = t.longPressMs := by
    have second := LittleEndian.word32_behind (LittleEndian.length_bytes 4 t.magic.toNat)
      (t.keyCount :: entries) t.longPressMs
    simpa [layout, head] using second
  have count : LittleEndian.byte (Record.encode t) 8 = t.keyCount := by
    rw [layout]
    exact LittleEndian.byte_behind head_length entries t.keyCount
  have keys : (Vector.ofFn fun i : Fin maxKeys =>
      KeyEntry.ofBytes (Record.encode t) (entriesOffset + i.val * KeyEntry.size)) = t.keys := by
    apply Vector.ext
    intro i within
    have present : i < t.keys.toList.length := by rwa [Vector.length_toList]
    -- The entries before this one are as long as its offset says.
    have split : entries = (t.keys.toList.take i).flatMap KeyEntry.bytes ++
        (t.keys[i].bytes ++ (t.keys.toList.drop (i + 1)).flatMap KeyEntry.bytes) := by
      rw [← Vector.getElem_toList present, ← List.flatMap_cons, ← List.drop_eq_getElem_cons present,
        ← List.flatMap_append, List.take_append_drop]
    have before : (head ++ [t.keyCount] ++
        (t.keys.toList.take i).flatMap KeyEntry.bytes).length =
          entriesOffset + i * KeyEntry.size := by
      rw [List.length_append, List.length_append, head_length,
        Blocks.length_flatMap KeyEntry.length_bytes, List.length_take_of_le (Nat.le_of_lt present)]
      rfl
    have entry := KeyEntry.ofBytes_bytes t.keys[i] before
      ((t.keys.toList.drop (i + 1)).flatMap KeyEntry.bytes)
    rw [Vector.getElem_ofFn, layout, split]
    simpa using entry
  simp only [Record.decode]
  rw [magic, threshold, count, keys, clamped]

theorem decode_encode (few : t.keyCount.toNat ≤ maxKeys) : Record.decode (Record.encode t) = t := by
  rw [decode_encode_clamped, clamped_of_le few]

theorem fill_encode (t : KeyTable) : t.fill.Fills (Record.encode t) := by
  have magic := LittleEndian.length_bytes 4 t.magic.toNat
  have threshold := LittleEndian.length_bytes 4 t.longPressMs.toNat
  have entries := chunks_lays KeyEntry.fill_bytes KeyEntry.length_bytes t.keys.toList
  have fields := inTurn_cons (within_lays 0 (copy_fills _) magic) (by rw [magic])
    (inTurn_cons (within_lays 4 (copy_fills _) threshold) (by rw [threshold])
      (inTurn_cons (within_lays 8 (copy_fills [t.keyCount]) rfl) rfl
        (inTurn_cons (behind_lays entriesOffset entries) rfl inTurn_nil)))
  simpa [fill, Record.encode] using fields.fills

theorem decode_take (bs : List UInt8) :
    (Record.decode (bs.take (Record.size KeyTable)) : KeyTable) = Record.decode bs := by
  have entries : ∀ i : Fin maxKeys,
      KeyEntry.ofBytes (bs.take (Record.size KeyTable)) (entriesOffset + i.val * KeyEntry.size) =
        KeyEntry.ofBytes bs (entriesOffset + i.val * KeyEntry.size) := by
    intro i
    apply KeyEntry.ofBytes_take
    have last := Nat.mul_le_mul_right KeyEntry.size (Nat.succ_le_of_lt i.isLt)
    rw [Nat.succ_mul] at last
    show entriesOffset + i.val * KeyEntry.size + KeyEntry.size ≤
      entriesOffset + maxKeys * KeyEntry.size
    omega
  simp only [Record.decode, entries]
  rw [LittleEndian.word32_take 0 (by decide),
    LittleEndian.word32_take 4 (by decide), LittleEndian.byte_take _ (by decide)]

end KeyTable

end Keypad
