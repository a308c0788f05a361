import Keypad.Proofs.Storage.Codecs
import Keypad.Proofs.Storage.Records

/-! Saves whose program is cut short. The records of the sector are then as they were to be up to
the cut, and erased behind it. A cut in front of a record, or in its magic word, shows when the
record is read; one behind the magic word does not, and what is left of the record is read with
erased bytes for the rest. -/
namespace Keypad

open Flash (Chip Fault strike strikeReads)

/-- The first bytes of a form, and erased bytes for the others. -/
def cutOff (cut : Nat) (bytes : List UInt8) : List UInt8 :=
  bytes.take cut ++ List.replicate (bytes.length - cut) Memory.erased

section CutOff

variable {cut : Nat} {bytes : List UInt8}

theorem getElem?_cutOff (k : Nat) :
    (cutOff cut bytes)[k]? =
      if k < cut then bytes[k]? else bytes[k]?.map fun _ => Memory.erased := by
  unfold cutOff
  rw [List.getElem?_append, List.length_take, List.getElem?_take, List.getElem?_replicate]
  by_cases present : k < bytes.length
  · by_cases kept : k < cut
    · rw [if_pos (by omega), if_pos kept, if_pos kept]
    · rw [if_neg (by omega), if_pos (by omega), if_neg kept, List.getElem?_eq_getElem present]
      rfl
  · rw [List.getElem?_eq_none (by omega : bytes.length ≤ k), if_neg (by omega), if_neg (by omega)]
    split <;> rfl

theorem cutOff_of_length_le (whole : bytes.length ≤ cut) : cutOff cut bytes = bytes := by
  rw [cutOff, List.take_of_length_le whole, Nat.sub_eq_zero_of_le whole]
  exact List.append_nil bytes

theorem take_cutOff : (cutOff cut bytes).take cut = bytes.take cut := by
  apply List.ext_getElem?
  intro k
  rw [List.getElem?_take, List.getElem?_take, getElem?_cutOff]
  split <;> rfl

theorem take_of_recordMagic (valid : LittleEndian.word32 bytes 0 = recordMagic) :
    bytes.take 4 = [0xef, 0xbe, 0xad, 0xde] := by
  have number : (LittleEndian.word32 bytes 0).toNat = 0xdeadbeef := by
    rw [valid]
    rfl
  obtain _ | ⟨a, _ | ⟨b, _ | ⟨c, _ | ⟨d, rest⟩⟩⟩⟩ := bytes
  all_goals simp [LittleEndian.word32, LittleEndian.value] at number
  · have first := a.toNat_lt
    omega
  · have first := a.toNat_lt
    have second := b.toNat_lt
    omega
  · have first := a.toNat_lt
    have second := b.toNat_lt
    have third := c.toNat_lt
    omega
  · have first := a.toNat_lt
    have second := b.toNat_lt
    have third := c.toNat_lt
    have fourth := d.toNat_lt
    simp only [List.take_succ_cons, List.take_zero, List.cons.injEq, ← UInt8.toNat_inj,
      UInt8.reduceToNat, and_true]
    omega

/-- No byte of a valid magic is erased. -/
theorem word32_ne_recordMagic {k : Nat} (within : k < 4)
    (erased : bytes[k]? = some Memory.erased) : LittleEndian.word32 bytes 0 ≠ recordMagic := by
  intro valid
  rw [← List.getElem?_take_of_lt within, take_of_recordMagic valid] at erased
  match k, within with
  | 0, _ | 1, _ | 2, _ | 3, _ => contradiction

end CutOff

namespace RecordKind

theorem four_le_size (kind : RecordKind) : 4 ≤ kind.size := by cases kind <;> decide

theorem size_le_slotSize (kind : RecordKind) : kind.size ≤ slotSize := by cases kind <;> decide

end RecordKind

/-- What is read where a kind's form, cut off somewhere, stands in place of the whole. -/
structure RecordKind.Torn (kind : RecordKind) (cut : Nat) (whole found : RecordValue) : Prop where
  absent : cut < 4 → found.magic ≠ recordMagic
  unnoticed : 4 ≤ cut → found.magic = whole.magic
  complete : kind.size ≤ cut → found = whole

namespace RecordValue

theorem magic_decode (kind : RecordKind) (bs : List UInt8) :
    (decode kind bs).magic = LittleEndian.word32 bs 0 := by
  cases kind with
  | housekeeping => rfl
  | keyTable => rfl
  | activeFeature =>
    simp only [decode, magic, Record.decode]
    split <;> rfl
  | sessionTable => rfl

theorem torn_cutOff {kind : RecordKind} {bytes : List UInt8} (form : bytes.length = kind.size)
    (cut : Nat) : kind.Torn cut (decode kind bytes) (decode kind (cutOff cut bytes)) where
  absent short := by
    have long : 3 < bytes.length := Nat.lt_of_lt_of_le (by decide) (form ▸ kind.four_le_size)
    rw [magic_decode]
    apply word32_ne_recordMagic (show 3 < 4 by decide)
    rw [getElem?_cutOff, if_neg (by omega), List.getElem?_eq_getElem long]
    rfl
  unnoticed behind := by
    rw [magic_decode, magic_decode, ← LittleEndian.word32_take 0 behind, take_cutOff,
      LittleEndian.word32_take 0 behind]
  complete all := by
    rw [cutOff_of_length_le (form ▸ all)]

end RecordValue

namespace SlotArray

variable {g : Geometry} (a : SlotArray g)

def block (kind : RecordKind) : Block :=
  have known := g.kind_lt kind
  a[kind.index]

def form (kind : RecordKind) : List UInt8 := (a.block kind).toList.take kind.size

def record (kind : RecordKind) : RecordValue := RecordValue.decode kind (a.form kind)

theorem length_form (kind : RecordKind) : (a.form kind).length = kind.size := by
  rw [form, List.length_take, Vector.length_toList]
  exact Nat.min_eq_left kind.size_le_slotSize

theorem getElem?_form (kind : RecordKind) (k : Nat) :
    (a.form kind)[k]? =
      if k < kind.size then (a.block kind).toList[k]? else none := by
  rw [form, List.getElem?_take]

theorem record_congr {a b : SlotArray g} {kind : RecordKind}
    (same : a.block kind = b.block kind) : a.record kind = b.record kind := by
  simp only [record, form, same]

variable (v : RecordValue)

def withRecord : SlotArray g := a.set v.kind.index (.padded v.encode.toArray) (g.kind_lt v.kind)

theorem form_withRecord : (a.withRecord v).form v.kind = v.encode := by
  have size := v.length_encode
  have small : v.encode.length ≤ slotSize := size ▸ v.kind.size_le_slotSize
  simp only [form, block, withRecord, Vector.getElem_set_self]
  rw [← size, Block.take_padded small]

theorem record_withRecord (kind : RecordKind) :
    (a.withRecord v).record kind = if kind = v.kind then v.normal else a.record kind := by
  by_cases own : kind = v.kind
  · subst own
    rw [if_pos rfl, record, form_withRecord, v.decode_encode]
  · have apart : v.kind.index ≠ kind.index := fun same => own (RecordKind.index_inj same).symm
    rw [if_neg own]
    exact record_congr (Vector.getElem_set_ne (g.kind_lt v.kind) (g.kind_lt kind) apart)

end SlotArray

namespace Geometry

variable {g : Geometry}

theorem sectorOf_eq_of_within {sector i k : Nat} (small : k < slotSize)
    (lower : g.sectorStart sector ≤ g.slotStart i + k)
    (upper : g.slotStart i + k < g.sectorStart sector + g.sectorSize) : g.sectorOf i = sector := by
  obtain ⟨first, last⟩ := (g.in_sector_iff sector i small).mp ⟨lower, upper⟩
  rw [← g.slotsPerSector_mul, ← Nat.mul_assoc] at first last
  exact Nat.div_eq_of_lt_le (Nat.le_of_mul_le_mul_right first (by decide))
    (Nat.lt_of_mul_lt_mul_right last)

theorem Rewrites.slot_eq {sector i : Nat} {image : Nat → UInt8} {before after : Array UInt8}
    (h : g.Rewrites sector image before after) (known : i < g.slotCount)
    (other : g.sectorOf i ≠ sector) : (g.slots after)[i] = (g.slots before)[i] := by
  apply Vector.ext
  intro k small
  have outside := h.outside (g.slotStart i + k)
    fun both => other (sectorOf_eq_of_within small both.1 both.2)
  rw [g.getElem_slots _ known small, g.getElem_slots _ known small, Array.getD_eq_getD_getElem?,
    outside, Array.getD_eq_getD_getElem?]

/-- A slot of the sector is cut where the sector's program is. -/
theorem Rewrites.cut_slot {index i k reach : Nat} {data before after : Array UInt8}
    (h : g.Rewrites (g.sectorOf index)
      (g.partlyProgrammed (g.sectorOf index) reach (g.intended index data before)) before after)
    (known : index < g.slotCount) (known' : i < g.slotCount)
    (here : g.sectorOf i = g.sectorOf index) (small : k < slotSize) :
    (g.slots after)[i][k] =
      if k < reach - g.offsetInSector i then
        ((g.slots before).set index (.padded data))[i][k]
      else Memory.erased := by
  have start := g.slotStart_eq i
  have room := g.offset_add_le i
  rw [here] at start
  rw [g.getElem_slots _ known' small, Array.getD_eq_getD_getElem?,
    h.inside _ (by omega) (by omega), Option.getD_some, partlyProgrammed,
    ← g.intended_slot data before known known' small]
  by_cases kept : k < reach - g.offsetInSector i
  · rw [if_pos kept, if_pos (by omega)]
  · rw [if_neg kept, if_neg (by omega)]

theorem Rewrites.form_eq {v : RecordValue} {kind : RecordKind} {reach : Nat}
    {before after : Array UInt8}
    (h : g.Rewrites (g.sectorOf v.kind.index)
      (g.partlyProgrammed (g.sectorOf v.kind.index) reach
        (g.intended v.kind.index v.encode.toArray before)) before after)
    (here : g.sectorOf kind.index = g.sectorOf v.kind.index) :
    (g.slots after).form kind =
      cutOff (reach - g.offsetInSector kind.index) (((g.slots before).withRecord v).form kind) := by
  apply List.ext_getElem?
  intro k
  rw [getElem?_cutOff, SlotArray.getElem?_form, SlotArray.getElem?_form]
  by_cases inside : k < kind.size
  · have small : k < slotSize := Nat.lt_of_lt_of_le inside kind.size_le_slotSize
    have byte : ((g.slots after).block kind)[k] =
        if k < reach - g.offsetInSector kind.index then
          (((g.slots before).withRecord v).block kind)[k]
        else Memory.erased :=
      h.cut_slot (g.kind_lt v.kind) (g.kind_lt kind) here small
    rw [if_pos inside, if_pos inside, List.getElem?_eq_getElem (by simpa using small),
      List.getElem?_eq_getElem (by simpa using small), Vector.getElem_toList, Vector.getElem_toList,
      byte]
    split <;> rfl
  · rw [if_neg inside, if_neg inside]
    split <;> rfl

theorem accepts_value (g : Geometry) (v : RecordValue) :
    g.Accepts v.kind.index v.encode.toArray := by
  cases v with
  | housekeeping h => exact g.accepts_encode (by decide) _ h
  | keyTable t => exact g.accepts_encode (by decide) _ t
  | activeFeature a => exact g.accepts_encode (by decide) _ a
  | sessionTable t => exact g.accepts_encode (by decide) _ t

end Geometry

namespace Store

variable {g : Geometry} {s : Store g}

theorem getAs_passed {rest : List Fault} (fits : g.Fits s.chip.capacity) (kind : RecordKind)
    (passed : strike .read s.chip.faults = (none, rest)) :
    (s.getAs kind kind).1 = .ok ((g.slots s.chip.cells).record kind) := by
  cases kind with
  | housekeeping =>
    simp only [getAs, get_passed fits Housekeeping _ passed]
    rfl
  | keyTable =>
    simp only [getAs, get_passed fits KeyTable _ passed]
    rfl
  | activeFeature =>
    simp only [getAs, get_passed fits ActiveFeature _ passed]
    rfl
  | sessionTable =>
    simp only [getAs, get_passed fits SessionTable _ passed]
    rfl

theorem saveValue_writeStruck {v : RecordValue} {f : Fault} {read erased rest : List Fault}
    (fits : g.Fits s.chip.capacity)
    (reads : strikeReads g.slotsPerSector s.chip.faults = (none, read))
    (erase : strike .erase read = (none, erased)) (hit : strike .write erased = (some f, rest)) :
    (s.saveValue v.kind v).1 = .error (.ofFlash f.error) ∧
      g.Rewrites (g.sectorOf v.kind.index)
        (g.partlyProgrammed (g.sectorOf v.kind.index) f.reach
          (g.intended v.kind.index v.encode.toArray s.chip.cells))
        s.chip.cells (s.saveValue v.kind v).2.chip.cells := by
  have accepted := g.accepts_value v
  have within : g.sectorStart (g.sectorOf v.kind.index) + g.sectorSize ≤ s.chip.cells.size :=
    Nat.le_trans (g.sectorEnd_le (g.sectorOf_lt accepted.known)) fits.within
  obtain ⟨answer, chip⟩ := writeSlot_writeStruck fits accepted reads erase hit
  rw [saveValue_eq, answer, chip]
  exact ⟨rfl, g.rewrites_program v.kind.index v.encode.toArray within f.reach⟩

/-- A save whose sector is erased and then programmed only in part. In its sector, every record
reads as it was to be, or as absent, or was cut behind its magic word: then it passes for a whole
one. The other sectors keep their records. -/
theorem save_cut_short (g : Geometry) (s : Store g) (v : RecordValue) (f : Fault)
    (read erased rest : List Fault) (fits : g.Fits s.chip.capacity)
    (reads : strikeReads g.slotsPerSector s.chip.faults = (none, read))
    (erase : strike .erase read = (none, erased)) (hit : strike .write erased = (some f, rest)) :
    (s.saveValue v.kind v).1 = .error (.ofFlash f.error) ∧
      ∀ (u : Store g) (kind : RecordKind),
        u.chip.cells = (s.saveValue v.kind v).2.chip.cells →
        (strike .read u.chip.faults).1 = none →
        ∃ found, (u.getAs kind kind).1 = .ok found ∧
          let before := g.slots s.chip.cells
          let intended := if kind = v.kind then v.normal else before.record kind
          let cut := f.reach - g.offsetInSector kind.index
          if g.sectorOf kind.index = g.sectorOf v.kind.index then
            found = .decode kind (cutOff cut ((before.withRecord v).form kind)) ∧
              kind.Torn cut intended found
          else found = intended := by
  obtain ⟨answer, rewrites⟩ := saveValue_writeStruck (v := v) fits reads erase hit
  refine ⟨answer, ?_⟩
  intro u kind same passed
  rw [← same] at rewrites
  have fits' : g.Fits u.chip.capacity := by
    rw [Chip.capacity, rewrites.size_eq]
    exact fits
  refine ⟨_, getAs_passed fits' kind (Prod.ext passed rfl), ?_⟩
  intro before intended cut
  split
  · rename_i here
    have whole : (before.withRecord v).record kind = intended := before.record_withRecord v kind
    have form : (g.slots u.chip.cells).form kind = cutOff cut ((before.withRecord v).form kind) :=
      rewrites.form_eq here
    rw [← whole, SlotArray.record, form]
    exact ⟨rfl, RecordValue.torn_cutOff ((before.withRecord v).length_form kind) cut⟩
  · rename_i elsewhere
    have other : kind ≠ v.kind := by
      rintro rfl
      exact elsewhere rfl
    rw [show intended = before.record kind from if_neg other]
    exact SlotArray.record_congr (rewrites.slot_eq (g.kind_lt kind) elsewhere)

/-- On an erased chip, a key table is cut two bytes behind its magic word. It passes for a valid
one, with a threshold of its own. -/
theorem save_cut_in_threshold :
    let g := Bench.Layout.standard.geometry
    let f : Fault := { on := .write, reach := 1030 }
    let chip : Chip g.sectorSize := { (Chip.blank 20480 : Chip g.sectorSize) with faults := [f] }
    let v : RecordValue := .keyTable (KeyTable.ofBoard [])
    g.Fits chip.capacity ∧ strikeReads g.slotsPerSector [f] = (none, [f]) ∧
      strike .erase [f] = (none, [f]) ∧ strike .write [f] = (some f, [{ f with count := 0 }]) ∧
      ∃ s : Store g, s.chip = chip ∧ (s.saveValue v.kind v).1 = .error .flash ∧
        ∀ u : Store g, u.chip.cells = (s.saveValue v.kind v).2.chip.cells →
          (strike .read u.chip.faults).1 = none →
          ∃ found, (u.getAs v.kind v.kind).1 = .ok found ∧
            found.magic = recordMagic ∧ found ≠ v.normal := by
  intro g f chip v
  have fits : g.Fits chip.capacity := by
    have size : (Chip.blank 20480 : Chip g.sectorSize).capacity = 20480 := Chip.capacity_blank _
    rw [show chip.capacity = 20480 from size]
    constructor <;> decide
  have reads : strikeReads g.slotsPerSector [f] = (none, [f]) := by decide
  have erase : strike .erase [f] = (none, [f]) := by decide
  have hit : strike .write [f] = (some f, [{ f with count := 0 }]) := by decide
  obtain ⟨s, -, chip_eq⟩ := attach_of_fits chip fits
  have faults : s.chip.faults = [f] := by rw [chip_eq]
  obtain ⟨answer, readings⟩ :=
    save_cut_short g s v f [f] [f] _ (chip_eq ▸ fits) (faults ▸ reads) erase hit
  refine ⟨fits, reads, erase, hit, s, chip_eq, answer, ?_⟩
  intro u same passed
  obtain ⟨found, read, outcome⟩ := readings u v.kind same passed
  rw [if_pos rfl] at outcome
  refine ⟨found, read, ?_⟩
  rw [outcome.1, SlotArray.form_withRecord]
  constructor
  · decide
  · decide

end Store

end Keypad
