import Keypad.Features.Feature
import Keypad.Proofs.Bytes.Filling
import Keypad.Proofs.Bytes.LittleEndian

namespace Keypad.ActiveFeature

open Filler (copy_fills inTurn_cons inTurn_nil within_lays)

theorem decode_encode (a : ActiveFeature) :
    (Record.decode (Record.encode a) : ActiveFeature) = a := by
  have magic : LittleEndian.word32 (Record.encode a) 0 = a.magic :=
    LittleEndian.word32_behind (List.length_nil : ([] : List UInt8).length = 0) _ a.magic
  have code : LittleEndian.byte (Record.encode a) 4 = a.feature.code :=
    LittleEndian.byte_behind (LittleEndian.length_bytes 4 a.magic.toNat) _ a.feature.code
  have flag : LittleEndian.byte (Record.encode a) 5 = a.isSet.toUInt8 := by
    have front : (LittleEndian.bytes 4 a.magic.toNat ++ [a.feature.code]).length = 5 := by simp
    simpa [Record.encode] using LittleEndian.byte_behind front [] a.isSet.toUInt8
  have isSet : (a.isSet.toUInt8 == 1) = a.isSet := by cases a.isSet <;> rfl
  simp only [Record.decode]
  rw [code, Feature.ofCode?_code]
  simp only [magic, flag, isSet]

theorem fill_encode (a : ActiveFeature) : a.fill.Fills (Record.encode a) := by
  have magic := LittleEndian.length_bytes 4 a.magic.toNat
  have fields := inTurn_cons (within_lays 0 (copy_fills _) magic) (by rw [magic])
    (inTurn_cons (within_lays 4 (copy_fills [a.feature.code]) rfl) rfl
      (inTurn_cons (within_lays _ (copy_fills [a.isSet.toUInt8]) rfl) rfl inTurn_nil))
  exact fields.fills

theorem needed_take (bs : List UInt8) :
    Record.needed ActiveFeature (bs.take (Record.size ActiveFeature)) =
      Record.needed ActiveFeature bs := by
  simp only [Record.needed]
  rw [LittleEndian.byte_take _ (by decide)]

theorem decode_take (bs : List UInt8) :
    (Record.decode (bs.take (Record.size ActiveFeature)) : ActiveFeature) = Record.decode bs := by
  simp only [Record.decode]
  rw [LittleEndian.word32_take _ (by decide), LittleEndian.byte_take 4 (by decide),
    LittleEndian.byte_take 5 (by decide)]

end Keypad.ActiveFeature
