/-! Changing a stretch of byte memory. Every change of a stretch (filling it, programming it,
copying into it) is `alter` with another rule for its bytes. Main statement: the bytes of the
stretch follow the rule, and the others stay (`getElem?_alter`). -/
namespace Keypad.Memory

/-- Replaces the byte `k` places after `start` by `f k` of it, for every `k` below `count`.
Places past the end are passed over. -/
@[specialize] def alter (f : Nat → UInt8 → UInt8) (start : Nat) :
    Nat → Array UInt8 → Array UInt8
  | 0, cells => cells
  | count + 1, cells => alter f start count (cells.modify (start + count) (f count))

@[simp] theorem size_alter (f : Nat → UInt8 → UInt8) (start count : Nat) (cells : Array UInt8) :
    (alter f start count cells).size = cells.size := by
  induction count generalizing cells with
  | zero => rfl
  | succ count ih => simp [alter, ih]

theorem getElem?_alter (f : Nat → UInt8 → UInt8) (start count : Nat) (cells : Array UInt8)
    (i : Nat) :
    (alter f start count cells)[i]? =
      if start ≤ i ∧ i < start + count then cells[i]?.map (f (i - start)) else cells[i]? := by
  induction count generalizing cells with
  | zero =>
    have outside : ¬ (start ≤ i ∧ i < start + 0) := by omega
    simp only [alter, if_neg outside]
  | succ count ih =>
    rw [alter, ih, Array.getElem?_modify]
    by_cases last : start + count = i
    · have above : ¬ (start ≤ i ∧ i < start + count) := by omega
      have within : start ≤ i ∧ i < start + (count + 1) := by omega
      have offset : i - start = count := by omega
      rw [if_neg above, if_pos last, if_pos within, offset]
    · by_cases within : start ≤ i ∧ i < start + count
      · have wider : start ≤ i ∧ i < start + (count + 1) := by omega
        rw [if_pos within, if_neg last, if_pos wider]
      · have outside : ¬ (start ≤ i ∧ i < start + (count + 1)) := by omega
        rw [if_neg within, if_neg last, if_neg outside]

def erased : UInt8 := 0xff

def erase (start count : Nat) (cells : Array UInt8) : Array UInt8 :=
  alter (fun _ _ => erased) start count cells

/-- Programs the first `count` bytes of `data` at `start`: a bit that is clear stays clear. -/
def program (start count : Nat) (data cells : Array UInt8) : Array UInt8 :=
  alter (fun k b => b &&& data.getD k erased) start (min count data.size) cells

/-- Puts `data` at `start`, and erased bytes behind it up to `count` bytes in all. -/
def place (start count : Nat) (data cells : Array UInt8) : Array UInt8 :=
  alter (fun k _ => data.getD k erased) start count cells

theorem getElem?_erase (start count : Nat) (cells : Array UInt8) (i : Nat) :
    (erase start count cells)[i]? =
      if start ≤ i ∧ i < start + count then cells[i]?.map (fun _ => erased) else cells[i]? :=
  getElem?_alter ..

theorem getElem?_program (start count : Nat) (data cells : Array UInt8) (i : Nat) :
    (program start count data cells)[i]? =
      if start ≤ i ∧ i < start + min count data.size then
        cells[i]?.map (· &&& data.getD (i - start) erased)
      else cells[i]? :=
  getElem?_alter ..

theorem getElem?_place (start count : Nat) (data cells : Array UInt8) (i : Nat) :
    (place start count data cells)[i]? =
      if start ≤ i ∧ i < start + count then
        cells[i]?.map (fun _ => data.getD (i - start) erased)
      else cells[i]? :=
  getElem?_alter ..

@[simp] theorem size_erase (start count : Nat) (cells : Array UInt8) :
    (erase start count cells).size = cells.size := size_alter ..

@[simp] theorem size_program (start count : Nat) (data cells : Array UInt8) :
    (program start count data cells).size = cells.size := size_alter ..

@[simp] theorem size_place (start count : Nat) (data cells : Array UInt8) :
    (place start count data cells).size = cells.size := size_alter ..

end Keypad.Memory
