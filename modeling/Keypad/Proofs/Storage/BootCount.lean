import Keypad.Bench.Storage
import Keypad.Proofs.Storage.Codecs
import Keypad.Proofs.Storage.Records

/-! How often a storage came up, counted in its housekeeping record. The record shares its sector
with other slots, so that a write next to it rewrites it too. Where only reads may fail, such a
write either fails before it has touched the chip or writes the record back as it was, and the
count is that of the starts. -/
namespace Keypad

open Flash (Chip Fault ReadsOnly strike strikeReads)

namespace Housekeeping

def starts (h : Housekeeping) : Nat := if h.magic = recordMagic then h.bootCount.toNat else 0

def restarted (h : Housekeeping) : Housekeeping :=
  (if h.magic = recordMagic then h else factory).counted

theorem magic_restarted (h : Housekeeping) : h.restarted.magic = recordMagic := by
  unfold restarted
  split
  · assumption
  · rfl

theorem bootCount_restarted (h : Housekeeping) :
    h.restarted.bootCount.toNat = (h.starts + 1) % 2 ^ 32 := by
  unfold restarted starts
  split <;> exact UInt32.toNat_add ..

def after (first : Housekeeping) : Nat → Housekeeping
  | 0 => first
  | k + 1 => (first.after k).restarted

theorem magic_after_eq_iff (first : Housekeeping) (k : Nat) :
    (first.after k).magic = recordMagic ↔ (k = 0 → first.magic = recordMagic) := by
  cases k with
  | zero => simp [after]
  | succ k => simp [after, magic_restarted]

theorem bootCount_after (first : Housekeeping) (k : Nat) :
    (first.after (k + 1)).bootCount.toNat = (first.starts + (k + 1)) % 2 ^ 32 := by
  induction k with
  | zero => exact first.bootCount_restarted
  | succ k ih =>
    have counted := (first.after (k + 1)).bootCount_restarted
    have present : (first.after (k + 1)).magic = recordMagic := magic_restarted _
    rw [starts, if_pos present, ih] at counted
    rw [after, counted, Nat.mod_add_mod]
    rfl

end Housekeeping

namespace Store

variable {g : Geometry}

theorem chip_onChip {α : Type} (s : Store g)
    (call : Chip g.sectorSize → Except Flash.FlashError α × Chip g.sectorSize) :
    (s.onChip call).2.chip = (call s.chip).2 := by
  rw [onChip_eq]

section Memory

variable (s : Store g)

theorem housekeeping_patch (offset : Nat) (bytes : Array UInt8) :
    (s.patch offset bytes).housekeeping = s.housekeeping := by
  cases s
  rfl

theorem housekeeping_onChip {α : Type}
    (call : Chip g.sectorSize → Except Flash.FlashError α × Chip g.sectorSize) :
    (s.onChip call).2.housekeeping = s.housekeeping := by
  rw [onChip_eq]

theorem housekeeping_slot (index : Nat) : (s.slot index).2.housekeeping = s.housekeeping := by
  unfold slot
  split
  · rfl
  · exact s.housekeeping_onChip _

theorem housekeeping_loadSlots (first done count : Nat) :
    (s.loadSlots first done count).2.housekeeping = s.housekeeping := by
  induction count generalizing s done with
  | zero => rfl
  | succ count ih =>
    have slot := s.housekeeping_slot (first + done)
    rcases read : s.slot (first + done) with ⟨_ | bytes, t⟩
    · rw [read] at slot
      simpa only [loadSlots, read] using slot
    · rw [read] at slot
      simpa only [loadSlots, read, ih, housekeeping_patch] using slot

theorem housekeeping_programSector (sector : Nat) :
    (s.programSector sector).2.housekeeping = s.housekeeping := by
  have erase := s.housekeeping_onChip
    (·.erase (g.sectorAddress sector) (g.sectorAddress sector + UInt32.ofNat g.sectorSize))
  simp only [programSector]
  split
  · rename_i t erased
    rw [erased] at erase
    exact (t.housekeeping_onChip _).trans erase
  · rename_i t erased
    rw [erased] at erase
    exact erase

/-- The record in memory does not follow what is written to its slot. -/
theorem housekeeping_writeSlot (index : Nat) (data : Array UInt8) :
    (s.writeSlot index data).2.housekeeping = s.housekeeping := by
  have load := s.housekeeping_loadSlots (g.sectorOf index * g.slotsPerSector) 0 g.slotsPerSector
  unfold writeSlot loadSector
  split
  · rfl
  · split
    · rfl
    · split
      · rename_i t loaded
        rw [loaded] at load
        rw [housekeeping_programSector, housekeeping_patch]
        exact load
      · rename_i t loaded
        rw [loaded] at load
        exact load

end Memory

/-- A store whose region fits its chip, and in which reads are the only calls that may fail. -/
structure Steady (s : Store g) : Prop where
  fits : g.Fits s.chip.capacity
  readsOnly : ReadsOnly s.chip.faults

structure Untouched (before after : Store g) : Prop where
  steady : after.Steady
  cells_eq : after.chip.cells = before.chip.cells
  housekeeping_eq : after.housekeeping = before.housekeeping

structure Wrote (before : Store g) (index : Nat) (data : Array UInt8) (after : Store g) : Prop where
  steady : after.Steady
  slots_eq : ∃ known : index < g.slotCount,
    g.slots after.chip.cells = (g.slots before.chip.cells).set index (.padded data)
  housekeeping_eq : after.housekeeping = before.housekeeping

theorem Untouched.trans {s t u : Store g} (first : s.Untouched t) (second : t.Untouched u) :
    s.Untouched u where
  steady := second.steady
  cells_eq := second.cells_eq.trans first.cells_eq
  housekeeping_eq := second.housekeeping_eq.trans first.housekeeping_eq

theorem Untouched.stored_eq {s t : Store g} (h : s.Untouched t) (α : Type) [Record α]
    (kind : RecordKind) : t.stored α kind = s.stored α kind := by
  rw [stored, h.cells_eq]
  rfl

theorem Wrote.stored_eq {s t : Store g} {index : Nat} {data : Array UInt8}
    (h : s.Wrote index data t) (α : Type) [Record α] {kind : RecordKind} (apart : index ≠ kind.index) :
    t.stored α kind = s.stored α kind := by
  obtain ⟨known, slots⟩ := h.slots_eq
  rw [stored, slots]
  exact SlotArray.get_set_beside _ kind known apart _

theorem Wrote.stored_saved {α : Type} [Record α] {s t : Store g} {kind : RecordKind} {v : α}
    (h : s.Wrote kind.index (Record.encode v).toArray t) :
    t.stored α kind = Record.decode (Record.encode v) := by
  obtain ⟨known, slots⟩ := h.slots_eq
  rw [stored, slots]
  exact SlotArray.get_set_self _ kind v

namespace Steady

variable {s : Store g} (h : s.Steady)
include h

theorem untouched_of_cells {t : Store g} (cells_eq : t.chip.cells = s.chip.cells)
    (readsOnly : ReadsOnly t.chip.faults) (memory : t.housekeeping = s.housekeeping) :
    s.Untouched t := by
  refine ⟨⟨?_, readsOnly⟩, cells_eq, memory⟩
  rw [Chip.capacity, cells_eq]
  exact h.fits

theorem untouched : s.Untouched s := ⟨h, rfl, rfl⟩

theorem slot (index : Nat) : s.Untouched (s.slot index).2 := by
  unfold Store.slot
  split
  · exact h.untouched
  · have chip := s.chip_onChip (·.read (g.slotAddress index) slotSize)
    rw [Chip.chip_read] at chip
    apply h.untouched_of_cells
    · rw [chip]
    · rw [chip]
      exact h.readsOnly.after_strike .read
    · exact s.housekeeping_onChip _

theorem readSlot (index : Nat) (target : Array UInt8) :
    s.Untouched (s.readSlot index target).2 := by
  have read := h.slot index
  unfold Store.readSlot
  split
  · exact h.untouched
  · split
    · exact h.untouched
    · split <;> simp_all only

theorem get (α : Type) [Record α] (kind : RecordKind) :
    s.Untouched (s.get (α := α) kind).2 ∧
      ((∃ e, (s.get (α := α) kind).1 = .error e) ∨ (s.get kind).1 = .ok (s.stored α kind)) := by
  have left := h.readsOnly.after_strike .read
  rcases struck : strike .read s.chip.faults with ⟨_ | f, rest⟩
  · rw [struck] at left
    rw [get_passed h.fits α kind struck]
    exact ⟨h.untouched_of_cells rfl left rfl, .inr rfl⟩
  · rw [struck] at left
    rw [Store.get, slot_struck (g.kind_lt kind) struck]
    exact ⟨h.untouched_of_cells rfl left rfl, .inl ⟨_, rfl⟩⟩

theorem getAs (slot as : RecordKind) : s.Untouched (s.getAs slot as).2 := by
  cases as with
  | housekeeping => exact (h.get Housekeeping slot).1
  | keyTable => exact (h.get KeyTable slot).1
  | activeFeature => exact (h.get ActiveFeature slot).1
  | sessionTable => exact (h.get SessionTable slot).1

theorem writeSlot (index : Nat) (data : Array UInt8) :
    (∃ e, (s.writeSlot index data).1 = .error e) ∧ s.Untouched (s.writeSlot index data).2 ∨
      (s.writeSlot index data).1 = .ok () ∧ s.Wrote index data (s.writeSlot index data).2 := by
  obtain ⟨r, outcome, answers⟩ :=
    writeSlot_outcome g s.chip.cells s.chip.faults h.fits index data
  obtain ⟨answer, chip⟩ := answers s rfl rfl
  have memory := s.housekeeping_writeSlot index data
  have cells : (s.writeSlot index data).2.chip.cells = r.cells := by rw [chip]
  have faults : (s.writeSlot index data).2.chip.faults = r.faults := by rw [chip]
  have between := h.readsOnly.after_strikeReads g.slotsPerSector
  rw [answer]
  cases outcome with
  | badIndex unknown =>
    exact .inl ⟨⟨_, rfl⟩, h.untouched_of_cells cells (faults ▸ h.readsOnly) memory⟩
  | badData known bad =>
    exact .inl ⟨⟨_, rfl⟩, h.untouched_of_cells cells (faults ▸ h.readsOnly) memory⟩
  | readFailed accepted hit =>
    rw [hit] at between
    exact .inl ⟨⟨_, rfl⟩, h.untouched_of_cells cells (faults ▸ between) memory⟩
  | eraseFailed accepted reads hit torn =>
    rw [reads] at between
    cases hit.symm.trans (between.strike_eq (by decide))
  | programFailed accepted reads erase hit torn =>
    rw [reads] at between
    cases erase.symm.trans (between.strike_eq (by decide))
    cases hit.symm.trans (between.strike_eq (by decide))
  | done accepted reads erase write rewrites =>
    rw [reads] at between
    cases erase.symm.trans (between.strike_eq (by decide))
    cases write.symm.trans (between.strike_eq (by decide))
    have slots := g.slots_intended rewrites accepted.known
    refine .inr ⟨rfl, ⟨?_, faults ▸ between⟩, ⟨accepted.known, cells ▸ slots⟩, memory⟩
    rw [Chip.capacity, cells, rewrites.size_eq]
    exact h.fits

theorem save {α : Type} [Record α] (kind : RecordKind) (v : α) :
    (∃ e, (s.save kind v).1 = .error e) ∧ s.Untouched (s.save kind v).2 ∨
      (s.save kind v).1 = .ok () ∧
        s.Wrote kind.index (Record.encode v).toArray (s.save kind v).2 :=
  h.writeSlot kind.index (Record.encode v).toArray

/-- A start fails without a trace, or counts itself in the record and in memory. -/
theorem init :
    (∃ e, s.init.1 = .error e) ∧ s.Untouched s.init.2 ∨
      s.init.1 =
          .ok (if (s.stored Housekeeping .housekeeping).magic = recordMagic then .existing
            else .factory) ∧
        s.init.2.Steady ∧
        s.init.2.stored Housekeeping .housekeeping =
          (s.stored Housekeeping .housekeeping).restarted ∧
        s.init.2.housekeeping = (s.stored Housekeeping .housekeeping).restarted := by
  obtain ⟨same, answer⟩ := h.get Housekeeping .housekeeping
  unfold Store.init
  rcases read : s.get (α := Housekeeping) .housekeeping with ⟨e | stored, t⟩
  · rw [read] at same
    exact .inl ⟨⟨e, rfl⟩, same⟩
  rw [read] at same answer
  obtain rfl : stored = s.stored Housekeeping .housekeeping := by simpa using answer
  have saved := same.steady.save .housekeeping (s.stored Housekeeping .housekeeping).restarted
  rcases save : t.save .housekeeping (s.stored Housekeeping .housekeeping).restarted
    with ⟨e | _, u⟩
  · rw [save] at saved
    unfold Housekeeping.restarted at save
    simp only [save]
    obtain ⟨-, still⟩ | ⟨answered, -⟩ := saved
    · exact .inl ⟨⟨e, rfl⟩, same.trans still⟩
    · cases answered
  · rw [save] at saved
    unfold Housekeeping.restarted at save
    simp only [save]
    obtain ⟨⟨_, refused⟩, -⟩ | ⟨-, wrote⟩ := saved
    · cases refused
    · refine .inr ⟨trivial, ⟨wrote.steady.fits, wrote.steady.readsOnly⟩, ?_, rfl⟩
      exact wrote.stored_saved.trans (Housekeeping.decode_encode _)

theorem writeSlot_ok {index : Nat} {data : Array UInt8} {rest : List Fault}
    (accepted : g.Accepts index data)
    (passed : strikeReads g.slotsPerSector s.chip.faults = (none, rest)) :
    (s.writeSlot index data).1 = .ok () := by
  have left := h.readsOnly.after_strikeReads g.slotsPerSector
  rw [passed] at left
  exact (writeSlot_done h.fits accepted passed (left.strike_eq (by decide))
    (left.strike_eq (by decide))).1

/-- Only a read can stop a start: that of the record, or one of the slots around it. -/
theorem init_ok (passed : (strikeReads (g.slotsPerSector + 1) s.chip.faults).1 = none) :
    ∃ found, s.init.1 = .ok found := by
  have read := (h.get Housekeeping .housekeeping).1
  unfold strikeReads at passed
  rcases record : strike .read s.chip.faults with ⟨_ | f, between⟩
  · rw [record] at passed
    rcases sector : strikeReads g.slotsPerSector between with ⟨_ | f, rest⟩
    · unfold Store.init
      rw [get_passed h.fits Housekeeping .housekeeping record] at read ⊢
      have saved (r : Housekeeping) :=
        read.steady.writeSlot_ok (g.accepts_encode (by decide) .housekeeping r) sector
      simp only [Store.save]
      split
      · exact ⟨_, rfl⟩
      · rename_i refused
        cases refused ▸ saved _
    · simp [sector] at passed
  · simp [record] at passed

end Steady

end Store

namespace Bench

/-- Commands that leave the housekeeping record to the store, and let nothing fail but reads. -/
def StoreCommand.Spares : StoreCommand → Prop
  | .chip (.poke ..) | .chip (.write ..) | .chip (.erase ..) => False
  | .chip (.read ..) => True
  | .chip (.setFaults faults) => ReadsOnly faults
  | .init | .bootCount | .info | .readSlot .. | .get .. => True
  | .writeSlot index _ => index ≠ RecordKind.housekeeping.index
  | .save slot _ => slot ≠ .housekeeping
  | .eraseAll | .eraseSector _ => False

namespace StorageCommand

variable {g : Geometry}

def Spares : StorageCommand → Prop
  | .restart => True
  | .store command => command.Spares

def next (s : Store g) : StorageCommand → Store g
  | .restart =>
    match Store.attach s.chip with
    | .ok t => t
    | .error _ => s
  | .store command => (command.run s).2

def after (s : Store g) (commands : List StorageCommand) : Store g := commands.foldl next s

def starts (s : Store g) (command : StorageCommand) : Nat :=
  match command, s.init.1 with
  | .store .init, .ok _ => 1
  | _, _ => 0

def startsAfter (s : Store g) : List StorageCommand → Nat
  | [] => 0
  | command :: rest => command.starts s + startsAfter (command.next s) rest

end StorageCommand

end Bench

/-- The housekeeping record of a store counts `k` starts on top of what was there at `first`. -/
structure Store.Counts {g : Geometry} (first : Housekeeping) (k : Nat) (s : Store g) : Prop where
  steady : s.Steady
  stored_eq : s.stored Housekeeping .housekeeping = first.after k

namespace Store.Counts

open Bench

variable {g : Geometry} {first : Housekeeping} {k : Nat} {s t : Store g}

theorem untouched (h : s.Counts first k) (same : s.Untouched t) : t.Counts first k :=
  ⟨same.steady, (same.stored_eq Housekeeping .housekeeping).trans h.stored_eq⟩

theorem wrote {index : Nat} {data : Array UInt8} (h : s.Counts first k)
    (apart : index ≠ RecordKind.housekeeping.index) (wrote : s.Wrote index data t) :
    t.Counts first k :=
  ⟨wrote.steady, (wrote.stored_eq Housekeeping apart).trans h.stored_eq⟩

theorem writeSlot {index : Nat} (h : s.Counts first k)
    (apart : index ≠ RecordKind.housekeeping.index) (data : Array UInt8) :
    (s.writeSlot index data).2.Counts first k := by
  obtain ⟨-, same⟩ | ⟨-, wrote⟩ := h.steady.writeSlot index data
  · exact h.untouched same
  · exact h.wrote apart wrote

theorem saveValue {slot : RecordKind} (h : s.Counts first k) (apart : slot ≠ .housekeeping)
    (v : RecordValue) : (s.saveValue slot v).2.Counts first k := by
  have beside : slot.index ≠ RecordKind.housekeeping.index :=
    fun same => apart (RecordKind.index_inj same)
  rw [saveValue_eq]
  exact h.writeSlot beside _

theorem chip {command : ChipCommand} (h : s.Counts first k)
    (spares : (StoreCommand.chip command).Spares) :
    ((StoreCommand.chip command).run s).2.Counts first k := by
  cases command with
  | poke _ _ => exact spares.elim
  | write _ _ => exact spares.elim
  | erase _ _ => exact spares.elim
  | setFaults faults => exact h.untouched (h.steady.untouched_of_cells rfl spares rfl)
  | read start length =>
    apply h.untouched
    apply h.steady.untouched_of_cells
    · exact Chip.cells_read ..
    · show ReadsOnly (s.chip.read start length).2.faults
      rw [Chip.chip_read]
      exact h.steady.readsOnly.after_strike .read
    · rfl

theorem init (h : s.Counts first k) :
    s.init.2.Counts first (k + StorageCommand.starts s (.store .init)) := by
  unfold StorageCommand.starts
  obtain ⟨⟨e, refused⟩, same⟩ | ⟨came_up, steady, stored, -⟩ := h.steady.init
  · rw [refused]
    exact h.untouched same
  · rw [came_up]
    exact ⟨steady, stored.trans (congrArg Housekeeping.restarted h.stored_eq)⟩

theorem restart (h : s.Counts first k) :
    (StorageCommand.next s .restart).Counts first k := by
  obtain ⟨t, attached, chip⟩ := attach_of_fits s.chip h.steady.fits
  simp only [StorageCommand.next, attached]
  refine ⟨⟨chip ▸ h.steady.fits, chip ▸ h.steady.readsOnly⟩, ?_⟩
  rw [stored, chip]
  exact h.stored_eq

/-- After each command the count is up by the stores that it brought up. -/
theorem next {command : StorageCommand} (h : s.Counts first k) (spares : command.Spares) :
    (command.next s).Counts first (k + command.starts s) := by
  cases command with
  | restart => exact h.restart
  | store command =>
    cases command with
    | chip command => exact h.chip spares
    | init => exact h.init
    | bootCount => exact h
    | info => exact h
    | readSlot index room =>
      exact h.untouched (h.steady.readSlot index _)
    | writeSlot index bytes => exact h.writeSlot spares bytes.toArray
    | eraseAll => exact spares.elim
    | eraseSector sector => exact spares.elim
    | get slot as => exact h.untouched (h.steady.getAs slot as)
    | save slot value => exact h.saveValue spares value

theorem after {commands : List StorageCommand} (h : s.Counts first k)
    (spared : ∀ command ∈ commands, command.Spares) :
    (StorageCommand.after s commands).Counts first
      (k + StorageCommand.startsAfter s commands) := by
  induction commands generalizing s k with
  | nil => exact h
  | cons command rest ih =>
    have one := h.next (spared command List.mem_cons_self)
    have others := ih one fun c member => spared c (List.mem_cons_of_mem command member)
    rw [Nat.add_assoc] at others
    exact others

theorem init_answer (h : s.Counts first k) :
    match s.init with
    | (.ok found, t) =>
      t.housekeeping = first.after (k + 1) ∧
      t.stored Housekeeping .housekeeping = first.after (k + 1) ∧
      (found = .factory ↔ k = 0 ∧ first.magic ≠ recordMagic)
    | (.error _, t) => s.Untouched t := by
  have outcome := h.steady.init
  rw [h.stored_eq] at outcome
  rcases called : s.init with ⟨e | found, t⟩
  · rw [called] at outcome
    obtain ⟨-, same⟩ | ⟨answered, -⟩ := outcome
    · exact same
    · cases answered
  · rw [called] at outcome
    obtain ⟨⟨_, refused⟩, -⟩ | ⟨answered, -, stored, memory⟩ := outcome
    · cases refused
    · refine ⟨memory, stored, ?_⟩
      cases answered
      rw [← Classical.not_imp, ← Housekeeping.magic_after_eq_iff]
      split <;> simp [*]

theorem runStore_chip {commands : List StorageCommand} (h : s.Counts first k)
    (spared : ∀ command ∈ commands, command.Spares) :
    (runStore s commands).2 = (StorageCommand.after s commands).chip := by
  induction commands generalizing s k with
  | nil => rfl
  | cons command rest ih =>
    have others := ih (h.next (spared command List.mem_cons_self))
      fun c member => spared c (List.mem_cons_of_mem command member)
    cases command with
    | restart =>
      obtain ⟨t, attached, chip⟩ := attach_of_fits s.chip h.steady.fits
      simp only [StorageCommand.next, attached] at others
      simp only [runStore, attached, others, StorageCommand.after, List.foldl_cons,
        StorageCommand.next]
    | store command => exact others

end Store.Counts

namespace Bench.StorageCommand

/-- The boot count is that of the stores that came up. Commands that leave the housekeeping record
to the store, through any restarts and any reads that fail, bring up some number of stores. The
next start is the one after those: it counts itself, unless a read fails, and then it leaves the
count and the chip's bytes. -/
theorem starts_counted (g : Geometry) (chip : Chip g.sectorSize) (fits : g.Fits chip.capacity)
    (readsOnly : ReadsOnly chip.faults) (commands : List StorageCommand)
    (spared : ∀ command ∈ commands, command.Spares) :
    ∃ s : Store g, Store.attach chip = .ok s ∧
      let first := s.stored Housekeeping .housekeeping
      let t := after s commands
      let k := startsAfter s commands + 1
      (runStorage chip commands).2 = t.chip ∧
      ((strikeReads (g.slotsPerSector + 1) t.chip.faults).1 = none →
        ∃ found, t.init.1 = .ok found) ∧
      match t.init with
      | (.ok found, u) =>
        u.bootCount.toNat = (first.starts + k) % 2 ^ 32 ∧
        (u.stored Housekeeping .housekeeping).bootCount = u.bootCount ∧
        (u.stored Housekeeping .housekeeping).magic = recordMagic ∧
        (found = .factory ↔ k = 1 ∧ first.magic ≠ recordMagic)
      | (.error _, u) => u.housekeeping = t.housekeeping ∧ u.chip.cells = t.chip.cells := by
  obtain ⟨s, attached, rfl⟩ := Store.attach_of_fits chip fits
  have start : s.Counts (s.stored Housekeeping .housekeeping) 0 := ⟨⟨fits, readsOnly⟩, rfl⟩
  have counts := start.after spared
  have same_chip := start.runStore_chip spared
  have answer := counts.init_answer
  have number := (s.stored Housekeeping .housekeeping).bootCount_after (startsAfter s commands)
  rw [Nat.zero_add] at answer
  refine ⟨s, attached, ?_, counts.steady.init_ok, ?_⟩
  · rw [runStorage, attached]
    exact same_chip
  rcases called : (after s commands).init with ⟨e | found, u⟩
  · rw [called] at answer
    exact ⟨answer.housekeeping_eq, answer.cells_eq⟩
  · rw [called] at answer
    obtain ⟨memory, stored, kind⟩ := answer
    refine ⟨?_, ?_, ?_, ?_⟩
    · rw [Store.bootCount, memory, number]
    · rw [Store.bootCount, memory, stored]
    · rw [stored]
      exact Housekeeping.magic_restarted _
    · rw [kind, Nat.succ_inj]

/-- A store comes up, comes up again on the same chip, saves next to its count, and is to come up
once more when the chip's sixth read fails. -/
theorem starts_counted_unit :
    let g := Layout.unit.geometry
    let faults : List Fault := [{ on := .read, skip := 5 }]
    let chip : Chip g.sectorSize := { (Chip.blank 4096 : Chip g.sectorSize) with faults }
    let commands : List StorageCommand :=
      [.store .init, .restart, .store .init, .store (.save .keyTable (.housekeeping ⟨1, 2⟩))]
    g.Fits chip.capacity ∧ ReadsOnly chip.faults ∧ (∀ command ∈ commands, command.Spares) ∧
      ∃ s : Store g, Store.attach chip = .ok s ∧
        match (after s commands).init with
        | (.ok _, u) =>
          u.bootCount.toNat =
            ((s.stored Housekeeping .housekeeping).starts + (startsAfter s commands + 1)) % 2 ^ 32
        | (.error _, u) => u.chip.cells = (after s commands).chip.cells := by
  intro g faults chip commands
  have fits : g.Fits chip.capacity := Layout.unit_fits
  have readsOnly : ReadsOnly chip.faults := by
    unfold ReadsOnly
    decide
  have spared : ∀ command ∈ commands, command.Spares := by
    simp [commands, Spares, StoreCommand.Spares]
  obtain ⟨s, attached, -, -, answer⟩ := starts_counted g chip fits readsOnly commands spared
  refine ⟨fits, readsOnly, spared, s, attached, ?_⟩
  rcases called : (after s commands).init with ⟨e | found, u⟩
  · rw [called] at answer
    exact answer.2
  · rw [called] at answer
    exact answer.1

end Bench.StorageCommand

end Keypad
