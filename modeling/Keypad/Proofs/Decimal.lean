import Mathlib.Data.String.Basic
import Keypad.Decimal

namespace Keypad.Decimal

variable {ds cs rest : List Char} {n v : Nat}

theorem isDigit_of_mem_digits {c : Char} (member : c ∈ digits n) : c.isDigit = true :=
  Nat.isDigit_of_mem_toDigits (by decide) (by decide) member

theorem isDigit_of_mem_padding {width : Nat} {c : Char}
    (member : c ∈ List.replicate width '0' ++ digits n) : c.isDigit = true := by
  rcases List.mem_append.1 member with zero | digit
  · rw [List.eq_of_mem_replicate zero]
    rfl
  · exact isDigit_of_mem_digits digit

theorem length_digits_le {k : Nat} (positive : 0 < k) (below : n < 10 ^ k) :
    (digits n).length ≤ k :=
  (Nat.length_toDigits_le_iff (by decide) positive).2 below

theorem utf8ByteSize_ofList (numeral : ∀ c ∈ ds, c.isDigit = true) :
    (String.ofList ds).utf8ByteSize = ds.length := by
  rw [String.utf8ByteSize_ofList]
  induction ds with
  | nil => rfl
  | cons c ds ih =>
    obtain ⟨-, below⟩ := Char.isDigit_iff_toNat.1 (numeral c List.mem_cons_self)
    have single : c.utf8Size = 1 := by
      rw [Char.utf8Size_eq_one_iff, UInt32.le_iff_toNat_le]
      exact Nat.le_trans below (by decide)
    rw [String.utf8Len_cons, single, ih fun c member => numeral c (List.mem_cons_of_mem _ member)]
    rfl

theorem utf8ByteSize_text_le {k : Nat} (positive : 0 < k) (below : n < 10 ^ k) :
    (text n).utf8ByteSize ≤ k := by
  rw [text, utf8ByteSize_ofList fun _ => isDigit_of_mem_digits]
  exact length_digits_le positive below

theorem utf8ByteSize_padded_le {width k : Nat} (positive : 0 < k) (wide : width ≤ k)
    (below : n < 10 ^ k) : (padded width n).utf8ByteSize ≤ k := by
  have short := length_digits_le positive below
  rw [padded, utf8ByteSize_ofList fun _ => isDigit_of_mem_padding, List.length_append,
    List.length_replicate]
  omega

theorem valueFrom?_eq (numeral : ∀ c ∈ ds, c.isDigit = true) (v : Nat) :
    valueFrom? v ds = some (Nat.ofDigitChars 10 ds v) := by
  induction ds generalizing v with
  | nil => rfl
  | cons c ds ih =>
    rw [valueFrom?, if_pos (numeral c List.mem_cons_self), Nat.ofDigitChars_cons]
    exact ih (fun c member => numeral c (List.mem_cons_of_mem _ member)) _

/-- What is written of a number is read as that number. -/
theorem value?_text (n : Nat) : value? (text n).toList = some n := by
  have some_digit : (digits n).isEmpty = false := by
    rw [List.isEmpty_eq_false_iff]
    exact Nat.toDigits_ne_nil
  rw [text, String.toList_ofList, value?, some_digit, valueFrom?_eq fun _ => isDigit_of_mem_digits]
  exact congrArg some Nat.ofDigitChars_ten_toDigits

theorem value?_padded (width n : Nat) : value? (padded width n).toList = some n := by
  have some_digit :
      (List.replicate (width - (digits n).length) '0' ++ digits n).isEmpty = false := by
    rw [List.isEmpty_eq_false_iff]
    exact List.append_ne_nil_of_right_ne_nil _ Nat.toDigits_ne_nil
  rw [padded, String.toList_ofList, value?, some_digit,
    valueFrom?_eq fun _ => isDigit_of_mem_padding, Nat.ofDigitChars_append,
    Nat.ofDigitChars_replicate_zero, Nat.mul_zero]
  exact congrArg some Nat.ofDigitChars_ten_toDigits

/-- The numbers of a text, of which the first may have begun before it. -/
def numbersFrom (begun : Option Nat) : List Char → List Nat
  | [] => begun.toList
  | c :: rest =>
    if c.isDigit then numbersFrom (some (10 * begun.getD 0 + (c.toNat - '0'.toNat))) rest
    else begun.toList ++ numbersFrom none rest

def numbers (source : String) : List Nat := numbersFrom none source.toList

theorem numbersFrom_digits (read : valueFrom? v ds = some n) (rest : List Char) :
    numbersFrom (some v) (ds ++ rest) = numbersFrom (some n) rest := by
  induction ds generalizing v with
  | nil =>
    obtain rfl : v = n := Option.some.inj read
    rfl
  | cons c ds ih =>
    rw [valueFrom?] at read
    split at read
    · next digit =>
      rw [List.cons_append, numbersFrom, if_pos digit]
      exact ih read
    · contradiction

theorem numbersFrom_numeral (read : value? ds = some n) (rest : List Char) :
    numbersFrom none (ds ++ rest) = numbersFrom (some n) rest := by
  cases ds with
  | nil => contradiction
  | cons c ds =>
    replace read : valueFrom? 0 (c :: ds) = some n := read
    rw [valueFrom?] at read
    split at read
    · next digit =>
      rw [List.cons_append, numbersFrom, if_pos digit]
      exact numbersFrom_digits read rest
    · contradiction

theorem numbersFrom_words (wordy : cs.any (·.isDigit) = false) (rest : List Char) :
    numbersFrom none (cs ++ rest) = numbersFrom none rest := by
  induction cs with
  | nil => rfl
  | cons c cs ih =>
    obtain ⟨other, later⟩ : c.isDigit = false ∧ cs.any (·.isDigit) = false := by
      simpa only [List.any_cons, Bool.or_eq_false_iff] using wordy
    rw [List.cons_append, numbersFrom, other, if_neg Bool.false_ne_true]
    exact ih later

/-- A word ends the number before it. -/
theorem numbersFrom_word (begun : Nat) (word : cs ≠ []) (wordy : cs.any (·.isDigit) = false)
    (rest : List Char) :
    numbersFrom (some begun) (cs ++ rest) = begun :: numbersFrom none rest := by
  cases cs with
  | nil => contradiction
  | cons c cs =>
    obtain ⟨other, later⟩ : c.isDigit = false ∧ cs.any (·.isDigit) = false := by
      simpa only [List.any_cons, Bool.or_eq_false_iff] using wordy
    rw [List.cons_append, numbersFrom, other, if_neg Bool.false_ne_true, numbersFrom_words later]
    rfl

theorem numbersFrom_numeral_word (read : value? ds = some n) (word : cs ≠ [])
    (wordy : cs.any (·.isDigit) = false) (rest : List Char) :
    numbersFrom none (ds ++ (cs ++ rest)) = n :: numbersFrom none rest := by
  rw [numbersFrom_numeral read, numbersFrom_word n word wordy]

end Keypad.Decimal
