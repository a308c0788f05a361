import Keypad.Flash.Chip

/-! What a call of the chip comes to: a fault strikes it, or it passes and does all of its work.
The chip's own refusals do not arise for a call that stays within the chip and, where it erases,
keeps to whole sectors. -/
namespace Keypad.Flash

/-- Several reads in a row, up to the first that a fault strikes. -/
def strikeReads : Nat → List Fault → Option Fault × List Fault
  | 0, faults => (none, faults)
  | count + 1, faults =>
    match strike .read faults with
    | (some f, faults) => (some f, faults)
    | (none, faults) => strikeReads count faults

theorem strikeReads_of_spent (count : Nat) (faults : List Fault)
    (spent : ∀ f ∈ faults, f.count = 0) : strikeReads count faults = (none, faults) := by
  induction count with
  | zero => rfl
  | succ count ih => simp only [strikeReads, strike_of_spent .read faults spent, ih]

/-- A fault that is left after a call was there before it, and waits for the same calls. -/
theorem mem_strike {call : Call} {faults : List Fault} {f : Fault}
    (left : f ∈ (strike call faults).2) :
    ∃ f' ∈ faults, f.on = f'.on ∧ f.count ≤ f'.count := by
  induction faults with
  | nil => exact absurd left List.not_mem_nil
  | cons first rest ih =>
    have later (member : f ∈ (strike call rest).2) :
        ∃ f' ∈ first :: rest, f.on = f'.on ∧ f.count ≤ f'.count := by
      obtain ⟨f', before, same⟩ := ih member
      exact ⟨f', List.mem_cons_of_mem first before, same⟩
    unfold strike at left
    split at left
    · split at left
      · rcases List.mem_cons.mp left with rfl | member
        · exact ⟨first, List.mem_cons_self, rfl, Nat.sub_le ..⟩
        · exact ⟨f, List.mem_cons_of_mem first member, rfl, Nat.le_refl _⟩
      · rcases List.mem_cons.mp left with rfl | member
        · exact ⟨first, List.mem_cons_self, rfl, Nat.le_refl _⟩
        · exact later member
    · rcases List.mem_cons.mp left with rfl | member
      · exact ⟨f, List.mem_cons_self, rfl, Nat.le_refl _⟩
      · exact later member

def ReadsOnly (faults : List Fault) : Prop := ∀ f ∈ faults, f.on ≠ .read → f.count = 0

namespace ReadsOnly

variable {faults : List Fault} (h : ReadsOnly faults)
include h

theorem strike_eq {call : Call} (other : call ≠ .read) : strike call faults = (none, faults) := by
  induction faults with
  | nil => rfl
  | cons f rest ih =>
    have waits : ¬ (f.on = call ∧ 0 < f.count) := by
      rintro ⟨rfl, some_left⟩
      exact Nat.ne_of_gt some_left (h f List.mem_cons_self other)
    rw [strike, if_neg waits, ih fun f member => h f (List.mem_cons_of_mem _ member)]

theorem after_strike (call : Call) : ReadsOnly (strike call faults).2 := by
  intro f left other
  obtain ⟨f', before, same, fewer⟩ := mem_strike left
  exact Nat.le_zero.mp (h f' before (same ▸ other) ▸ fewer)

theorem after_strikeReads (count : Nat) : ReadsOnly (strikeReads count faults).2 := by
  induction count generalizing faults with
  | zero => exact h
  | succ count ih =>
    have next := h.after_strike .read
    rcases struck : strike .read faults with ⟨_ | f, rest⟩
    · rw [struck] at next
      simpa only [strikeReads, struck] using ih next
    · rw [struck] at next
      simpa only [strikeReads, struck] using next

end ReadsOnly

namespace Chip

variable {sectorSize : Nat} {c : Chip sectorSize} {f : Fault} {rest : List Fault}

theorem capacity_blank (n : Nat) : (blank n : Chip sectorSize).capacity = n := Array.size_replicate

theorem chip_read (c : Chip sectorSize) (start : UInt32) (length : Nat) :
    (c.read start length).2 = { c with faults := (strike .read c.faults).2 } := by
  unfold read
  rcases struck : strike .read c.faults with ⟨_ | f, faults⟩
  · dsimp only
    split <;> rfl
  · rfl

theorem read_struck {start : UInt32} {length : Nat}
    (hit : strike .read c.faults = (some f, rest)) :
    c.read start length = (.error f.error, { c with faults := rest }) := by
  simp only [read, hit]

theorem read_passed {start : UInt32} {length : Nat}
    (passed : strike .read c.faults = (none, rest))
    (within : start.toNat + length ≤ c.cells.size) :
    c.read start length =
      (.ok (c.cells.extract start.toNat (start.toNat + length)), { c with faults := rest }) := by
  simp only [read, passed, if_neg (Nat.not_lt.mpr within)]

theorem erase_struck {start stop : UInt32} (hit : strike .erase c.faults = (some f, rest)) :
    c.erase start stop =
      (.error f.error,
        ⟨Memory.erase start.toNat (min f.reach (stop.toNat - start.toNat)) c.cells, rest,
          ⟨.erase start stop, true⟩ :: c.journal⟩) := by
  simp only [erase, hit]

theorem erase_passed {start stop : UInt32} (passed : strike .erase c.faults = (none, rest))
    (start_aligned : start.toNat % sectorSize = 0) (stop_aligned : stop.toNat % sectorSize = 0)
    (within : stop.toNat ≤ c.cells.size) (ordered : start.toNat ≤ stop.toNat) :
    c.erase start stop =
      (.ok (), ⟨Memory.erase start.toNat (stop.toNat - start.toNat) c.cells, rest,
        ⟨.erase start stop, false⟩ :: c.journal⟩) := by
  have aligned : ¬ (start.toNat % sectorSize ≠ 0 ∨ stop.toNat % sectorSize ≠ 0) := by omega
  have inside : ¬ (c.cells.size < stop.toNat ∨ stop < start) := by
    rintro (past | reversed)
    · omega
    · have := UInt32.lt_iff_toNat_lt.mp reversed
      omega
  simp only [erase, passed, if_neg aligned, if_neg inside]

theorem write_struck {start : UInt32} {data : Array UInt8}
    (hit : strike .write c.faults = (some f, rest)) :
    c.write start data =
      (.error f.error, ⟨Memory.program start.toNat f.reach data c.cells, rest,
        ⟨.write start data.size, true⟩ :: c.journal⟩) := by
  simp only [write, hit]

theorem write_passed {start : UInt32} {data : Array UInt8}
    (passed : strike .write c.faults = (none, rest))
    (within : start.toNat + data.size ≤ c.cells.size) :
    c.write start data =
      (.ok (), ⟨Memory.program start.toNat data.size data c.cells, rest,
        ⟨.write start data.size, false⟩ :: c.journal⟩) := by
  simp only [write, passed, if_neg (Nat.not_lt.mpr within)]

end Chip

end Keypad.Flash
