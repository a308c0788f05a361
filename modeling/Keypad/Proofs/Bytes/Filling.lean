import Keypad.Bytes.Filler

/-! What a filler leaves in a buffer. A filler that lays its bytes at an offset writes nothing else,
and what it leaves does not depend on the bytes that it writes over; laying one field behind another
comes to laying both. -/
namespace Keypad.Filler

def Fills (fill : Filler) (bytes : List UInt8) : Prop :=
  ∀ buffer, buffer.length = bytes.length → fill buffer = some bytes

/-- Writes the bytes at the offset, in any buffer that has room for them. -/
def Lays (fill : Filler) (offset : Nat) (bytes : List UInt8) : Prop :=
  ∀ front back, front.length = offset → bytes.length ≤ back.length →
    fill (front ++ back) = some (front ++ (bytes ++ back.drop bytes.length))

variable {fill : Filler} {rest : List Filler} {bytes more : List UInt8} {offset size : Nat}

theorem Lays.fills (lays : fill.Lays 0 bytes) : fill.Fills bytes := by
  intro buffer same
  have laid := lays [] buffer rfl (Nat.le_of_eq same.symm)
  simpa [← same] using laid

theorem copy_fills (bytes : List UInt8) : (copy bytes).Fills bytes := by
  intro buffer same
  rw [copy, if_pos same]

theorem within_lays (offset : Nat) (fill_bytes : fill.Fills bytes)
    (whole : bytes.length = size) : (within offset size fill).Lays offset bytes := by
  intro front back stands room
  have long : ¬ (front ++ back).length < offset + size := by
    rw [List.length_append]
    omega
  have stretch : ((front ++ back).drop offset).take size = back.take size := by
    rw [List.drop_left' stands]
  have taken : (back.take size).length = bytes.length := by
    rw [List.length_take]
    omega
  have rest : (front ++ back).drop (offset + size) = back.drop bytes.length := by
    rw [← List.drop_drop, List.drop_left' stands, whole]
  rw [within, if_neg long, stretch, fill_bytes _ taken, Option.map_some, List.take_left' stands,
    rest, List.append_assoc]

theorem behind_lays (offset : Nat) (lays : fill.Lays 0 bytes) :
    (behind offset fill).Lays offset bytes := by
  intro front back stands room
  have long : ¬ (front ++ back).length < offset + ((front ++ back).length - offset) := by
    rw [List.length_append]
    omega
  have stretch : ((front ++ back).drop offset).take ((front ++ back).length - offset) = back := by
    rw [List.drop_left' stands, List.length_append, stands, Nat.add_sub_cancel_left,
      List.take_length]
  have rest : (front ++ back).drop (offset + ((front ++ back).length - offset)) = [] :=
    List.drop_eq_nil_of_le (by omega)
  have laid := lays [] back rfl room
  simp only [List.nil_append] at laid
  rw [behind, within, if_neg long, stretch, laid, Option.map_some, List.take_left' stands, rest,
    List.append_nil]

theorem inTurn_nil : (inTurn []).Lays offset [] := by
  intro front back _ _
  rfl

theorem inTurn_cons {next : Nat} (first : fill.Lays offset bytes)
    (stands : offset + bytes.length = next) (others : (inTurn rest).Lays next more) :
    (inTurn (fill :: rest)).Lays offset (bytes ++ more) := by
  intro front back here room
  rw [List.length_append] at room
  have laid := first front back here (by omega)
  have behind := others (front ++ bytes) (back.drop bytes.length)
    (by rw [List.length_append, here, stands]) (by rw [List.length_drop]; omega)
  rw [inTurn, laid, Option.bind_some, ← List.append_assoc, behind, List.drop_drop,
    List.length_append]
  simp only [List.append_assoc]

theorem chunks_lays {α : Type} {write : α → Filler} {form : α → List UInt8}
    (fills : ∀ a, (write a).Fills (form a)) (same : ∀ a, (form a).length = size) (items : List α) :
    (chunks size (items.map write)).Lays 0 (items.flatMap form) := by
  intro front back here room
  obtain rfl := List.eq_nil_of_length_eq_zero here
  simp only [List.nil_append]
  induction items generalizing back with
  | nil => rfl
  | cons a rest ih =>
    simp only [List.flatMap_cons, List.length_append, same] at room
    have first : write a (back.take size) = some (form a) := by
      apply fills
      rw [List.length_take, same]
      omega
    have others := ih (back.drop size) (by rw [List.length_drop]; omega)
    rw [List.map_cons, chunks, if_neg (by omega), first, others]
    simp only [List.flatMap_cons, List.append_assoc, List.length_append, same, List.drop_drop]

end Keypad.Filler
