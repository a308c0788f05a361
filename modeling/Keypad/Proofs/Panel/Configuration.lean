import Keypad.Panel.Basic

namespace Keypad

namespace ButtonConfig

/-- A configuration, but for what its key sends and shows. -/
def wiring (c : ButtonConfig) : ButtonConfig := { c with value := .none, color := .none }

theorem eq_of_wiring {a b : ButtonConfig} (wired : a.wiring = b.wiring) (value : a.value = b.value)
    (color : a.color = b.color) : a = b := by
  obtain ⟨id, gpio, _, _, enabled⟩ := a
  obtain ⟨id', gpio', _, _, enabled'⟩ := b
  simp only [wiring, mk.injEq, true_and] at wired value color
  obtain ⟨rfl, rfl, rfl⟩ := wired
  rw [value, color]

end ButtonConfig

namespace Panel

def wiring (p : Panel) : List ButtonConfig := p.buttons.map (·.config.wiring)

theorem find?_configure {f : ButtonConfig → ButtonConfig} (same_id : ∀ c, (f c).id = c.id)
    (key other : UInt8) (bs : List Button) :
    ((configure f key bs).map (·.config)).find? (·.id == other) =
      if other = key then ((bs.map (·.config)).find? (·.id == key)).map f
      else (bs.map (·.config)).find? (·.id == other) := by
  induction bs with
  | nil => simp [configure]
  | cons b rest ih =>
    unfold configure
    by_cases here : b.config.id = key
    · rw [if_pos here]
      by_cases same : other = key
      · subst same
        simp [here, same_id]
      · have elsewhere : ¬ b.config.id = other := fun equal => same (equal.symm.trans here)
        simp [same, same_id, elsewhere]
    · rw [if_neg here]
      by_cases found : b.config.id = other
      · have different : other ≠ key := fun equal => here (found.trans equal)
        simp [found, different]
      · simpa [here, found] using ih

theorem wiring_configure {f : ButtonConfig → ButtonConfig} (same : ∀ c, (f c).wiring = c.wiring)
    (key : UInt8) (bs : List Button) :
    (configure f key bs).map (·.config.wiring) = bs.map (·.config.wiring) := by
  induction bs with
  | nil => rfl
  | cons b rest ih =>
    unfold configure
    split
    · simp [same]
    · simp [ih]

theorem configure_of_fixed {f : ButtonConfig → ButtonConfig} {key : UInt8} {bs : List Button}
    (fixed : ∀ c, (bs.map (·.config)).find? (·.id == key) = some c → f c = c) :
    configure f key bs = bs := by
  induction bs with
  | nil => rfl
  | cons b rest ih =>
    rw [configure]
    by_cases here : b.config.id = key
    · rw [if_pos here, fixed b.config (by simp [here])]
    · rw [if_neg here, ih]
      exact fun c found => fixed c (by simpa [here] using found)

variable (p : Panel) (key : UInt8)

@[simp] theorem wiring_setValue (v : KeyValue) : (p.setValue key v).wiring = p.wiring :=
  wiring_configure (f := fun c => { c with value := v }) (fun _ => rfl) key p.buttons

@[simp] theorem wiring_setColor (color : Color) : (p.setColor key color).wiring = p.wiring :=
  wiring_configure (f := fun c => { c with color }) (fun _ => rfl) key p.buttons

theorem config?_setValue (v : KeyValue) (other : UInt8) :
    (p.setValue key v).config? other =
      if other = key then (p.config? key).map fun c => { c with value := v }
      else p.config? other :=
  find?_configure (f := fun c => { c with value := v }) (fun _ => rfl) key other p.buttons

theorem config?_setColor (color : Color) (other : UInt8) :
    (p.setColor key color).config? other =
      if other = key then (p.config? key).map fun c => { c with color }
      else p.config? other :=
  find?_configure (f := fun c => { c with color }) (fun _ => rfl) key other p.buttons

theorem wiring_config? : (p.config? key).map (·.wiring) = p.wiring.find? (·.id == key) := by
  unfold config? wiring
  induction p.buttons with
  | nil => rfl
  | cons b rest ih =>
    by_cases here : b.config.id = key
    · simp [here, ButtonConfig.wiring]
    · simpa [here, ButtonConfig.wiring] using ih

variable {p key}

theorem setValue_of_same {v : KeyValue} (same : ∀ c, p.config? key = some c → c.value = v) :
    p.setValue key v = p := by
  have kept : configure (fun c => { c with value := v }) key p.buttons = p.buttons :=
    configure_of_fixed fun c found => by rw [← same c found]
  rw [setValue, kept]

theorem setColor_of_same {color : Color} (same : ∀ c, p.config? key = some c → c.color = color) :
    p.setColor key color = p := by
  have kept : configure (fun c => { c with color }) key p.buttons = p.buttons :=
    configure_of_fixed fun c found => by rw [← same c found]
  rw [setColor, kept]

theorem config?_of_mem {board : List ButtonConfig} (configs : p.buttons.map (·.config) = board)
    (distinct : (board.map (·.id)).Nodup) {b : ButtonConfig} (member : b ∈ board) :
    p.config? b.id = some b := by
  rw [config?, configs]
  clear configs
  induction board with
  | nil => contradiction
  | cons first rest ih =>
    obtain ⟨absent, distinct⟩ := List.nodup_cons.1 distinct
    cases List.mem_cons.1 member with
    | inl here => simp [here]
    | inr later =>
      have other : first.id ≠ b.id := fun same => absent (List.mem_map.2 ⟨b, later, same.symm⟩)
      simp [other, ih distinct later]

end Panel

end Keypad
