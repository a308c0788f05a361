import Keypad.Proofs.Features.ReadFailures
import Keypad.Proofs.Storage.TornProgram

/-! Erases that are cut short. An erase runs upwards, and the least byte of a magic word is the
first of its slot, so that a slot which the erase has reached has no valid magic any more. The other
slots are as they were. Whoever looks for a record then finds the whole of the old one, or none. -/
namespace Keypad

open Flash (Chip Fault strike strikeReads strikeReads_of_spent)

/-- A call that erases: a write of a slot, which erases its sector first, or an erase by itself. -/
inductive Erasure where
  | write (index : Nat) (data : Array UInt8)
  | sector (number : Nat)
  | all

namespace Erasure

variable {g : Geometry}

def run (s : Store g) : Erasure → Except StorageError Unit × Store g
  | .write index data => s.writeSlot index data
  | .sector number => s.eraseSector number
  | .all => s.eraseAll

def first (g : Geometry) : Erasure → Nat
  | .write index _ => g.sectorOf index * g.slotsPerSector
  | .sector number => number * g.slotsPerSector
  | .all => 0

def length (g : Geometry) : Erasure → Nat
  | .all => g.regionSize
  | _ => g.sectorSize

def Struck (g : Geometry) (faults : List Fault) (f : Fault) (rest : List Fault) : Erasure → Prop
  | .write index data =>
    g.Accepts index data ∧ ∃ read, strikeReads g.slotsPerSector faults = (none, read) ∧
      strike .erase read = (some f, rest)
  | .sector number => number < g.sectorCount ∧ strike .erase faults = (some f, rest)
  | .all => strike .erase faults = (some f, rest)

/-- Whether an erase that is cut off after `cut` bytes got as far as a slot. -/
def Reaches (g : Geometry) (cut : Nat) (e : Erasure) (i : Nat) : Prop :=
  e.first g ≤ i ∧ g.slotStart i < g.slotStart (e.first g) + min cut (e.length g)

variable {s : Store g} {f : Fault} {rest : List Fault}

theorem run_struck (fits : g.Fits s.chip.capacity) (e : Erasure)
    (struck : e.Struck g s.chip.faults f rest) :
    (e.run s).1 = .error (.ofFlash f.error) ∧
      (e.run s).2.chip.cells =
        Memory.erase (g.slotStart (e.first g)) (min f.reach (e.length g)) s.chip.cells := by
  cases e with
  | write index data =>
    obtain ⟨accepted, read, reads, hit⟩ := struck
    obtain ⟨answer, chip⟩ := Store.writeSlot_eraseStruck fits accepted reads hit
    rw [first, g.slotStart_of_sector]
    exact ⟨answer, congrArg Chip.cells chip⟩
  | sector number =>
    obtain ⟨known, hit⟩ := struck
    have start := Geometry.toNat_sectorAddress fits (Nat.le_of_lt known)
    have stop := Geometry.toNat_sectorEnd fits known
    rw [first, g.slotStart_of_sector]
    simp only [run, Store.eraseSector, if_neg (Nat.not_le.mpr known), Store.onChip_eq,
      Chip.erase_struck hit, start, stop, Nat.add_sub_cancel_left]
    exact ⟨rfl, rfl⟩
  | all =>
    have start := Geometry.toNat_sectorAddress fits (Nat.zero_le g.sectorCount)
    have stop := Geometry.toNat_endAddress fits
    have base : g.sectorStart 0 = g.base := by rw [Geometry.sectorStart, Nat.zero_mul, Nat.add_zero]
    have zero : g.slotStart 0 = g.base := by rw [Geometry.slotStart, Nat.zero_mul, Nat.add_zero]
    have hit : strike .erase s.chip.faults = (some f, rest) := struck
    rw [first, zero]
    simp only [run, Store.eraseAll, Store.onChip_eq, Chip.erase_struck hit, start, stop, base,
      Nat.add_sub_cancel_left]
    exact ⟨rfl, rfl⟩

end Erasure

namespace Geometry

variable (g : Geometry) (cells : Array UInt8)

/-- An erase from a slot on that ends in front of another, or begins behind it, leaves that one. -/
theorem slot_erase_beside {first n i : Nat} (known : i < g.slotCount)
    (beside : ¬ (first ≤ i ∧ g.slotStart i < g.slotStart first + n)) :
    (g.slots (Memory.erase (g.slotStart first) n cells))[i] = (g.slots cells)[i] := by
  apply Vector.ext
  intro k small
  rw [g.getElem_slots _ known small, g.getElem_slots _ known small, getD_erase, if_neg]
  rintro ⟨above, below⟩
  refine beside ⟨?_, by omega⟩
  unfold slotStart at above
  simp only [slotSize] at small above
  omega

theorem slot_erase_reached {first n i : Nat} (known : i < g.slotCount) (from_first : first ≤ i)
    (reached : g.slotStart i < g.slotStart first + n) :
    (g.slots (Memory.erase (g.slotStart first) n cells))[i].toList[0]? = some Memory.erased := by
  have above : g.slotStart first ≤ g.slotStart i :=
    Nat.add_le_add_left (Nat.mul_le_mul_right slotSize from_first) g.base
  have some_byte : 0 < slotSize := by decide
  rw [List.getElem?_eq_getElem (by simpa using some_byte), Vector.getElem_toList,
    g.getElem_slots _ known some_byte, getD_erase, Nat.add_zero, if_pos ⟨above, reached⟩]

end Geometry

namespace Store

variable {g : Geometry}

/-- The user of a record goes by what is in its slot if the magic word is valid, and begins anew if
it is another: the storage counts its first start, the keys are those of the board, the clipboard is
chosen, and there are no sessions. -/
def TakesUp (u : Store g) : RecordValue → Prop
  | .housekeeping h =>
    (∀ found, u.init.1 = .ok found →
      found = (if h.magic = recordMagic then .existing else .factory) ∧
        u.init.2.housekeeping =
          (if h.magic = recordMagic then h else Housekeeping.factory).counted) ∧
      (u.Healthy → ∃ found, u.init.1 = .ok found)
  | .keyTable t =>
    ∀ input longPressMs board, (KeySettings.load u input longPressMs board).table =
      if t.magic = recordMagic then t else .ofBoard board
  | .activeFeature a =>
    ∀ d : Device g, d.settings.store = u →
      (Features.init d).active = if a.magic = recordMagic then a else Features.fresh
  | .sessionTable t =>
    ∀ d : Device g, d.settings.store = u →
      (Tracker.load d).tracker.table = if t.magic = recordMagic then t else .factory

variable {u : Store g} {rest : List Fault}

theorem init_takes_up (fits : g.Fits u.chip.capacity)
    (passed : strike .read u.chip.faults = (none, rest)) :
    u.TakesUp (.housekeeping (u.stored Housekeeping .housekeeping)) := by
  constructor
  · intro found answered
    simp only [init, get_passed fits Housekeeping .housekeeping passed] at answered ⊢
    generalize save (α := Housekeeping) _ _ _ = r at answered ⊢
    obtain ⟨_ | _, t⟩ := r
    · cases answered
    · exact ⟨(Except.ok.inj answered).symm, rfl⟩
  · intro healthy
    have steady : u.Steady := ⟨fits, fun f member _ => healthy.faultless f member⟩
    apply steady.init_ok
    rw [strikeReads_of_spent _ _ healthy.faultless]

theorem load_takes_up (fits : g.Fits u.chip.capacity)
    (passed : strike .read u.chip.faults = (none, rest)) :
    u.TakesUp (.keyTable (u.stored KeyTable .keyTable)) := by
  intro input longPressMs board
  simp only [KeySettings.load, get_passed fits KeyTable .keyTable passed]
  split <;> rfl

theorem features_take_up (fits : g.Fits u.chip.capacity)
    (passed : strike .read u.chip.faults = (none, rest)) :
    u.TakesUp (.activeFeature (u.stored ActiveFeature .activeFeature)) := by
  rintro d rfl
  simp only [Features.init, Device.onStore_eq,
    get_passed fits ActiveFeature .activeFeature passed]
  split
  · exact Features.active_start _ _
  · exact Features.active_factoryReset _

theorem tracker_takes_up (fits : g.Fits u.chip.capacity)
    (passed : strike .read u.chip.faults = (none, rest)) :
    u.TakesUp (.sessionTable (u.stored SessionTable .sessionTable)) := by
  rintro d rfl
  simp only [Tracker.load, Device.onStore_eq,
    get_passed fits SessionTable .sessionTable passed]
  split <;> rfl

theorem takes_up_record (fits : g.Fits u.chip.capacity)
    (passed : strike .read u.chip.faults = (none, rest)) (kind : RecordKind) :
    u.TakesUp ((g.slots u.chip.cells).record kind) := by
  cases kind with
  | housekeeping => exact init_takes_up fits passed
  | keyTable => exact load_takes_up fits passed
  | activeFeature => exact features_take_up fits passed
  | sessionTable => exact tracker_takes_up fits passed

end Store

namespace RecordValue

/-- A record is valid by the first word of its slot. -/
theorem magic_record {g : Geometry} (a : SlotArray g) (kind : RecordKind) :
    (a.record kind).magic = LittleEndian.word32 (a.block kind).toList 0 := by
  rw [SlotArray.record, magic_decode, SlotArray.form,
    LittleEndian.word32_take 0 kind.four_le_size]

end RecordValue

namespace Erasure

/-- An erase that is cut short, be it by itself or on the way of a write. A slot that it has reached
has lost its magic word, and any other has kept all of its bytes. Whoever comes up on the chip then
goes by the whole of the old record, or by none; and one that was absent does not appear. -/
theorem cut_short_shows (g : Geometry) (s : Store g) (fits : g.Fits s.chip.capacity) (e : Erasure)
    (f : Fault) (rest : List Fault) (struck : e.Struck g s.chip.faults f rest) :
    let before := g.slots s.chip.cells
    let after := g.slots (e.run s).2.chip.cells
    (e.run s).1 = .error (.ofFlash f.error) ∧
      (∀ i (known : i < g.slotCount),
        (e.Reaches g f.reach i → LittleEndian.word32 after[i].toList 0 ≠ recordMagic) ∧
          (¬ e.Reaches g f.reach i → after[i] = before[i])) ∧
      ∀ u : Store g, u.chip.cells = (e.run s).2.chip.cells →
        (strike .read u.chip.faults).1 = none →
        ∀ kind, u.TakesUp (after.record kind) ∧
          (after.record kind = before.record kind ∨ (after.record kind).magic ≠ recordMagic) ∧
          ((before.record kind).magic ≠ recordMagic →
            (after.record kind).magic ≠ recordMagic) := by
  intro before after
  obtain ⟨answer, cells⟩ := run_struck fits e struck
  have slots : ∀ i (known : i < g.slotCount),
      (e.Reaches g f.reach i → LittleEndian.word32 after[i].toList 0 ≠ recordMagic) ∧
        (¬ e.Reaches g f.reach i → after[i] = before[i]) := by
    intro i known
    simp only [after, cells]
    constructor
    · rintro ⟨from_first, reached⟩
      exact word32_ne_recordMagic (show 0 < 4 by decide)
        (g.slot_erase_reached s.chip.cells known from_first reached)
    · exact g.slot_erase_beside s.chip.cells known
  refine ⟨answer, slots, ?_⟩
  intro u same passed kind
  have fits' : g.Fits u.chip.capacity := by
    rw [Chip.capacity, same, cells, Memory.size_erase]
    exact fits
  have found :
      after.record kind = before.record kind ∨ (after.record kind).magic ≠ recordMagic := by
    obtain ⟨lost, kept⟩ := slots kind.index (g.kind_lt kind)
    by_cases reached : e.Reaches g f.reach kind.index
    · right
      rw [RecordValue.magic_record]
      exact lost reached
    · exact .inl (SlotArray.record_congr (kept reached))
  refine ⟨?_, found, ?_⟩
  · have takes := Store.takes_up_record fits' (Prod.ext passed rfl) kind
    rwa [same] at takes
  · intro absent
    obtain whole | torn := found
    · rwa [whole]
    · exact torn

/-- A stored key table, and an erase of everything that is cut off behind the first byte of its
slot. It was valid, and the keys are those of the board again. -/
theorem cut_short_shows_board :
    let g := Bench.Layout.unit.geometry
    let f : Fault := { on := .erase, reach := 1025 }
    ∃ s : Store g, g.Fits s.chip.capacity ∧
      Struck g s.chip.faults f [{ f with count := 0 }] .all ∧
      (s.stored KeyTable .keyTable).magic = recordMagic ∧ (run s .all).1 = .error .flash ∧
      ∀ u : Store g, u.chip.cells = (run s .all).2.chip.cells →
        (strike .read u.chip.faults).1 = none → ∀ input longPressMs board,
          (KeySettings.load u input longPressMs board).table = .ofBoard board := by
  intro g f
  obtain ⟨blank, healthy⟩ := Bench.Layout.exists_healthy
  have saved := (healthy.save (by decide) .keyTable (KeyTable.ofBoard [])).2
  generalize (blank.save .keyTable (KeyTable.ofBoard [])).2 = stored at saved
  let s : Store g := { stored with chip.faults := [f] }
  have fits : g.Fits s.chip.capacity := saved.healthy.fits
  have struck : Struck g s.chip.faults f [{ f with count := 0 }] .all := rfl
  have valid : (s.stored KeyTable .keyTable).magic = recordMagic :=
    congrArg KeyTable.magic saved.stored_eq
  clear_value s
  have reached : all.Reaches g f.reach RecordKind.keyTable.index := by
    constructor
    · decide
    · decide
  obtain ⟨answer, slots, found⟩ := cut_short_shows g s fits .all f _ struck
  have lost : ((g.slots (run s .all).2.chip.cells).record .keyTable).magic ≠ recordMagic := by
    rw [RecordValue.magic_record]
    exact (slots RecordKind.keyTable.index (g.kind_lt .keyTable)).1 reached
  refine ⟨s, fits, struck, valid, answer, ?_⟩
  intro u same passed input longPressMs board
  obtain ⟨takes, -⟩ := found u same passed .keyTable
  exact (takes input longPressMs board).trans (if_neg lost)

end Erasure

end Keypad
