import Keypad.Proofs.Features.Codec
import Keypad.Proofs.Keys.Codec
import Keypad.Proofs.Tracker.Codec
import Keypad.Storage.RecordValue

namespace Keypad

namespace Housekeeping

open Filler (copy_fills inTurn_cons inTurn_nil within_lays)

theorem decode_encode (h : Housekeeping) :
    (Record.decode (Record.encode h) : Housekeeping) = h := by
  have magic : LittleEndian.word32 (Record.encode h) 0 = h.magic :=
    LittleEndian.word32_behind (List.length_nil : ([] : List UInt8).length = 0) _ h.magic
  have count : LittleEndian.word32 (Record.encode h) 4 = h.bootCount := by
    have second := LittleEndian.word32_behind (LittleEndian.length_bytes 4 h.magic.toNat) []
      h.bootCount
    simpa [Record.encode] using second
  simp only [Record.decode]
  rw [magic, count]

theorem fill_encode (h : Housekeeping) : h.fill.Fills (Record.encode h) := by
  have magic := LittleEndian.length_bytes 4 h.magic.toNat
  have count := LittleEndian.length_bytes 4 h.bootCount.toNat
  have fields := inTurn_cons (within_lays 0 (copy_fills _) magic) (by rw [magic])
    (inTurn_cons (within_lays 4 (copy_fills _) count) rfl inTurn_nil)
  simpa [fill, Record.encode] using fields.fills

theorem decode_take (bs : List UInt8) :
    (Record.decode (bs.take (Record.size Housekeeping)) : Housekeeping) = Record.decode bs := by
  simp only [Record.decode]
  rw [LittleEndian.word32_take 0 (by decide),
    LittleEndian.word32_take 4 (by decide)]

end Housekeeping

theorem Record.decode?_take {α : Type} [Record α] {bs : List UInt8}
    (same_needed : needed α (bs.take (size α)) = needed α bs)
    (same : (decode (bs.take (size α)) : α) = decode bs) :
    decode? (α := α) (bs.take (size α)) = decode? bs := by
  have most := needed_le (α := α) bs
  have long : (bs.take (size α)).length < needed α bs ↔ bs.length < needed α bs := by
    rw [List.length_take]
    omega
  simp only [decode?, same_needed, same, long]

namespace RecordValue

/-- No more keys are in use than there are places, and the session being tracked has a place. -/
def WellFormed : RecordValue → Prop
  | housekeeping _ => True
  | keyTable t => t.keyCount.toNat ≤ maxKeys
  | activeFeature _ => True
  | sessionTable t => t.active.toNat < maxSessions

def normal : RecordValue → RecordValue
  | housekeeping h => housekeeping h
  | keyTable t => keyTable t.clamped
  | activeFeature a => activeFeature a
  | sessionTable t => sessionTable t.anchored

theorem normal_of_wellFormed {v : RecordValue} (formed : v.WellFormed) : v.normal = v := by
  cases v with
  | housekeeping h => rfl
  | keyTable t => exact congrArg keyTable (KeyTable.clamped_of_le formed)
  | activeFeature a => rfl
  | sessionTable t => exact congrArg sessionTable (SessionTable.anchored_of_lt formed)

theorem length_encode (v : RecordValue) : v.encode.length = v.kind.size := by
  cases v with
  | housekeeping h => exact Record.length_encode h
  | keyTable t => exact Record.length_encode t
  | activeFeature a => exact Record.length_encode a
  | sessionTable t => exact Record.length_encode t

theorem fill_encode (v : RecordValue) : v.fill.Fills v.encode := by
  cases v with
  | housekeeping h => exact h.fill_encode
  | keyTable t => exact t.fill_encode
  | activeFeature a => exact a.fill_encode
  | sessionTable t => exact t.fill_encode

def decode (kind : RecordKind) (bs : List UInt8) : RecordValue :=
  match kind with
  | .housekeeping => housekeeping (Record.decode bs)
  | .keyTable => keyTable (Record.decode bs)
  | .activeFeature => activeFeature (Record.decode bs)
  | .sessionTable => sessionTable (Record.decode bs)

theorem decode?_of_size_le {kind : RecordKind} {bs : List UInt8} (enough : kind.size ≤ bs.length) :
    decode? kind bs = some (decode kind bs) := by
  cases kind <;>
    (simp only [decode?]; rw [Record.decode?_of_size_le enough]; rfl)

theorem decode?_eq_some {kind : RecordKind} {bs : List UInt8} {v : RecordValue}
    (read : decode? kind bs = some v) : v = decode kind bs := by
  cases kind <;>
    (simp only [decode?, Record.decode?] at read
     split at read
     · simp at read
     · exact (Option.some.inj read).symm)

theorem kind_decode (kind : RecordKind) (bs : List UInt8) : (decode kind bs).kind = kind := by
  cases kind <;> rfl

theorem wellFormed_decode (kind : RecordKind) (bs : List UInt8) : (decode kind bs).WellFormed := by
  cases kind with
  | housekeeping => trivial
  | keyTable => exact KeyTable.keyCount_decode_le bs
  | activeFeature => trivial
  | sessionTable => exact SessionTable.active_decode_lt bs

theorem decode_encode (v : RecordValue) : decode v.kind v.encode = v.normal := by
  cases v with
  | housekeeping h => exact congrArg housekeeping h.decode_encode
  | keyTable t => exact congrArg keyTable t.decode_encode_clamped
  | activeFeature a => exact congrArg activeFeature a.decode_encode
  | sessionTable t => exact congrArg sessionTable t.decode_encode_anchored

theorem decode?_encode (v : RecordValue) : decode? v.kind v.encode = some v.normal := by
  rw [decode?_of_size_le (Nat.le_of_eq v.length_encode.symm), v.decode_encode]

theorem decode?_take (kind : RecordKind) (bs : List UInt8) :
    decode? kind (bs.take kind.size) = decode? kind bs := by
  cases kind with
  | housekeeping =>
    exact congrArg (·.map housekeeping) (Record.decode?_take rfl (Housekeeping.decode_take bs))
  | keyTable =>
    exact congrArg (·.map keyTable) (Record.decode?_take rfl (KeyTable.decode_take bs))
  | activeFeature =>
    exact congrArg (·.map activeFeature)
      (Record.decode?_take (ActiveFeature.needed_take bs) (ActiveFeature.decode_take bs))
  | sessionTable =>
    exact congrArg (·.map sessionTable) (Record.decode?_take rfl (SessionTable.decode_take bs))

/-- What a kind of record keeps of its values through its stored form. -/
structure StoredForm (kind : RecordKind) : Prop where
  /-- The form takes the whole of a buffer of its size, whatever that held. -/
  filled :
    ∀ v : RecordValue, v.kind = kind → v.encode.length = kind.size ∧
      ∀ buffer : List UInt8, buffer.length = kind.size → v.fill buffer = some v.encode
  read_back :
    ∀ v : RecordValue, v.kind = kind → decode? kind v.encode = some v.normal ∧
      (v.WellFormed → v.normal = v)
  /-- As many bytes as the form has are a record, whatever they are. -/
  readable :
    ∀ bs : List UInt8, bs.length = kind.size → ∃ v, decode? kind bs = some v ∧
      decode? kind v.encode = some v ∧
      ∀ w : RecordValue, w.kind = kind → w.WellFormed → bs = w.encode → v.encode = bs
  in_range :
    ∀ (bs : List UInt8) (v : RecordValue), decode? kind bs = some v → v.kind = kind ∧ v.WellFormed
  /-- What stands behind the form is not read. -/
  first_part : ∀ bs : List UInt8, decode? kind (bs.take kind.size) = decode? kind bs

theorem stored_forms (kind : RecordKind) : StoredForm kind where
  filled := by
    rintro v rfl
    refine ⟨v.length_encode, ?_⟩
    intro buffer whole
    exact v.fill_encode buffer (whole.trans v.length_encode.symm)
  read_back := by
    rintro v rfl
    exact ⟨v.decode?_encode, normal_of_wellFormed⟩
  readable := by
    intro bs whole
    have read := decode?_of_size_le (Nat.le_of_eq whole.symm)
    have again := (decode kind bs).decode?_encode
    rw [kind_decode, normal_of_wellFormed (wellFormed_decode kind bs)] at again
    refine ⟨decode kind bs, read, again, ?_⟩
    rintro w rfl formed rfl
    rw [w.decode_encode, normal_of_wellFormed formed]
  in_range := by
    intro bs v read
    obtain rfl := decode?_eq_some read
    exact ⟨kind_decode kind bs, wellFormed_decode kind bs⟩
  first_part := decode?_take kind

/-- Of a table that claims more keys than there are places, the places are read. -/
example :
    let t : KeyTable := { KeyTable.ofBoard [] with keyCount := 200 }
    (keyTable t).normal = keyTable { t with keyCount := 8 } := by
  decide

end RecordValue

end Keypad
