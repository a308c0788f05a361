namespace Keypad.Blocks

variable {α : Type} {f : α → List UInt8} {size : Nat}

theorem length_flatMap (same : ∀ a, (f a).length = size) (l : List α) :
    (l.flatMap f).length = l.length * size := by
  induction l with
  | nil => simp
  | cons a rest ih =>
    simp only [List.flatMap_cons, List.length_append, same, ih, List.length_cons, Nat.succ_mul]
    omega

theorem drop_flatMap (same : ∀ a, (f a).length = size) (l : List α) (i : Nat) :
    (l.flatMap f).drop (i * size) = (l.drop i).flatMap f := by
  induction l generalizing i with
  | nil => simp
  | cons a rest ih =>
    cases i with
    | zero => simp
    | succ i =>
      rw [List.flatMap_cons, List.drop_succ_cons, ← ih i, List.drop_append, same,
        List.drop_eq_nil_of_le (by rw [same, Nat.succ_mul]; omega), List.nil_append,
        show (i + 1) * size - size = i * size by rw [Nat.succ_mul]; omega]

end Keypad.Blocks
