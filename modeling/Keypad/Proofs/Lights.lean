import Keypad.Device

namespace Keypad

namespace Light

/-- Whether it turns the light of a key on or off. A blink ends by itself. -/
def switches (key : UInt8) : Light → Bool
  | .on other _ => other == key
  | .off other => other == key
  | .mode _ | .blink .. => false

def color? : Light → Option Color
  | .on _ color => some color
  | _ => none

/-- The color that the light of a key was turned on in, if that was the last time it was
switched. -/
def shown (key : UInt8) (lights : List Light) : Option Color :=
  (lights.find? (switches key)).bind color?

variable {key : UInt8} {rest : List Light}

theorem shown_beside {l : Light} (beside : l.switches key = false) :
    shown key (l :: rest) = shown key rest := by
  simp only [shown, List.find?_cons_of_neg (Bool.not_eq_true _ ▸ beside)]

theorem shown_append_beside {before : List Light} (beside : ∀ l ∈ before, l.switches key = false)
    (lights : List Light) : shown key (before ++ lights) = shown key lights := by
  induction before with
  | nil => rfl
  | cons l before ih =>
    obtain ⟨first, others⟩ := List.forall_mem_cons.1 beside
    rw [List.cons_append, shown_beside first, ih others]

@[simp] theorem shown_on (other : UInt8) (color : Color) :
    shown key (.on other color :: rest) = if other = key then some color else shown key rest := by
  by_cases same : other = key
  · simp [shown, switches, color?, same]
  · rw [if_neg same, shown_beside (l := .on other color) (beq_false_of_ne same)]

@[simp] theorem shown_off (other : UInt8) :
    shown key (.off other :: rest) = if other = key then none else shown key rest := by
  by_cases same : other = key
  · simp [shown, switches, color?, same]
  · rw [if_neg same, shown_beside (l := .off other) (beq_false_of_ne same)]

@[simp] theorem shown_mode (m : LightMode) : shown key (.mode m :: rest) = shown key rest :=
  shown_beside rfl

@[simp] theorem shown_blink (other : UInt8) (periodMs count : UInt32) (color : Color) :
    shown key (.blink other periodMs count color :: rest) = shown key rest :=
  shown_beside rfl

end Light

@[simp] theorem Device.lights_light {g : Geometry} (d : Device g) (l : Light) :
    (d.light l).lights = l :: d.lights := rfl

end Keypad
