import Keypad.Proofs.Keys.Agreement

/-! A keypad that comes up with its board's table. The table has the entry of each button in the
place of its id, but only as many places in use as there are buttons: a button whose id is not below
their number sends and shows what its board says, and the settings do not know of it. -/
namespace Keypad

namespace KeyTable

variable {board : List ButtonConfig}

def putAll (board : List ButtonConfig) (keys : Vector KeyEntry maxKeys) : Vector KeyEntry maxKeys :=
  board.foldl (fun keys b => keys.setIfInBounds b.id.toNat ⟨b.value, b.color⟩) keys

theorem getElem?_putAll_of_absent {id : UInt8} (absent : id ∉ board.map (·.id))
    (keys : Vector KeyEntry maxKeys) : (putAll board keys)[id.toNat]? = keys[id.toNat]? := by
  induction board generalizing keys with
  | nil => rfl
  | cons first rest ih =>
    rw [List.map_cons, List.mem_cons, not_or] at absent
    have apart : first.id.toNat ≠ id.toNat := fun same => absent.1 (UInt8.toNat_inj.1 same.symm)
    show (putAll rest (keys.setIfInBounds _ _))[id.toNat]? = _
    rw [ih absent.2, Vector.getElem?_setIfInBounds_ne apart]

theorem getElem?_putAll (distinct : (board.map (·.id)).Nodup) {b : ButtonConfig}
    (member : b ∈ board) (placed : b.id.toNat < maxKeys) (keys : Vector KeyEntry maxKeys) :
    (putAll board keys)[b.id.toNat]? = some ⟨b.value, b.color⟩ := by
  induction board generalizing keys with
  | nil => contradiction
  | cons first rest ih =>
    obtain ⟨absent, distinct⟩ := List.nodup_cons.1 distinct
    show (putAll rest (keys.setIfInBounds _ _))[b.id.toNat]? = _
    cases List.mem_cons.1 member with
    | inl here =>
      subst here
      rw [getElem?_putAll_of_absent absent, Vector.getElem?_setIfInBounds_self_of_lt placed]
    | inr later => exact ih distinct later _

theorem getElem?_ofBoard (distinct : (board.map (·.id)).Nodup) {b : ButtonConfig}
    (member : b ∈ board) (placed : b.id.toNat < maxKeys) :
    (ofBoard board).keys[b.id.toNat]? = some ⟨b.value, b.color⟩ :=
  getElem?_putAll distinct member placed _

theorem unused_ofBoard_iff {id : UInt8} (placed : id.toNat < maxKeys) :
    (ofBoard board).keyCount ≤ id ↔ board.length ≤ id.toNat := by
  rw [UInt8.le_iff_toNat_le, keyCount_ofBoard]
  omega

end KeyTable

namespace Panel

variable {p : Panel}

/-- Entries that a panel goes by already are told it in vain. -/
theorem tell_of_same {entries : List KeyEntry} {first : Nat}
    (same : ∀ i e, entries[i]? = some e → ∀ c, p.config? (.ofNat (first + i)) = some c →
      c.value = e.value ∧ c.color = e.color) :
    KeySettings.tell first entries (.panel p) = .panel p := by
  induction entries generalizing first with
  | nil => rfl
  | cons entry rest ih =>
    have valued : p.setValue (.ofNat first) entry.value = p :=
      setValue_of_same fun c config => (same 0 entry rfl c config).1
    have colored : p.setColor (.ofNat first) entry.color = p :=
      setColor_of_same fun c config => (same 0 entry rfl c config).2
    show KeySettings.tell (first + 1) rest
      (.panel ((p.setValue (.ofNat first) entry.value).setColor (.ofNat first) entry.color)) = _
    rw [valued, colored]
    apply ih
    intro i e found c config
    rw [Nat.add_right_comm] at config
    exact same (i + 1) e found c config

end Panel

namespace KeySettings

variable {g : Geometry} {board : List ButtonConfig} {k : KeySettings g}

theorem apply_ofBoard {p : Panel} (configs : p.buttons.map (·.config) = board)
    (distinct : (board.map (·.id)).Nodup) (store : Store g) (longPressMs : UInt32) :
    (apply ⟨store, .panel p, longPressMs, .ofBoard board⟩).input = .panel p := by
  apply Panel.tell_of_same
  intro i e found c config
  rw [List.getElem?_take, Vector.getElem?_toList] at found
  split at found
  · have present : (KeyTable.ofBoard board).keys[i]? = some e := found
    obtain ⟨within, -⟩ := Vector.getElem?_eq_some_iff.1 present
    have place : (UInt8.ofNat i).toNat = i :=
      UInt8.toNat_ofNat_of_lt' (Nat.lt_of_lt_of_le within (by decide))
    obtain ⟨member, id⟩ : c ∈ board ∧ c.id = .ofNat i := by
      rw [Nat.zero_add, Panel.config?, configs] at config
      exact ⟨List.mem_of_find?_eq_some config, by simpa using List.find?_some config⟩
    have entry := KeyTable.getElem?_ofBoard distinct member (by rw [id, place]; exact within)
    rw [id, place, present] at entry
    rw [Option.some.inj entry]
    exact ⟨rfl, rfl⟩
  · contradiction

theorem load_of_absent {store : Store g} (healthy : store.Healthy)
    (absent : (store.stored KeyTable .keyTable).magic ≠ recordMagic) (input : Input)
    (longPressMs : UInt32) (board : List ButtonConfig) :
    load store input longPressMs board =
      apply ⟨(store.save .keyTable (KeyTable.ofBoard board)).2, input, longPressMs,
        .ofBoard board⟩ := by
  simp only [load, healthy.get KeyTable .keyTable, if_neg absent]
  rfl

structure Knows (k : KeySettings g) (c : ButtonConfig) : Prop where
  value : k.table.value c.id = c.value
  color : k.table.color c.id = c.color
  panel : ∃ p, k.input = .panel p ∧ p.config? c.id = some c

theorem Knows.of_entry {p : Panel} {c : ButtonConfig}
    (entry : k.table.entry? c.id = some ⟨c.value, c.color⟩) (input : k.input = .panel p)
    (config : p.config? c.id = some c) : k.Knows c := by
  constructor
  · rw [KeyTable.value, entry]
    rfl
  · rw [KeyTable.color, entry]
    rfl
  · exact ⟨p, input, config⟩

/-- A setting that is acknowledged, and that the table and the panel know of from then on. So do
those of a keypad that comes up on the same chip. -/
structure Takes (board : List ButtonConfig) (k : KeySettings g) (s : Setting) (c : ButtonConfig) :
    Prop where
  answer : (s.run k).1 = .ok ()
  now : (s.run k).2.Knows c
  again : ∃ store, Store.attach (s.run k).2.store.chip = .ok store ∧
    ∀ p : Panel, p.buttons.map (·.config) = board → ∀ longPressMs defaults,
      (load store (.panel p) longPressMs defaults).Knows c

structure Serves (board : List ButtonConfig) (k : KeySettings g) (b : ButtonConfig) : Prop where
  knows : k.Knows b
  setValue : ∀ v, Takes board k (.value b.id v) { b with value := v }
  setColor : ∀ color, Takes board k (.color b.id color) { b with color }

/-- The settings know nothing of a button, and refuse whatever is set of it. -/
structure Misses (k : KeySettings g) (b : ButtonConfig) : Prop where
  value : k.table.value b.id = .none
  color : k.table.color b.id = .none
  setValue : ∀ v, k.setValue b.id v = (.error .invalidId, k)
  setColor : ∀ color, k.setColor b.id color = (.error .invalidId, k)

/-- A keypad that came up with its board's table. The panel is as it was, and the table has the
entry of each button; but only the buttons whose ids are below their number are served. -/
structure FromBoard (board : List ButtonConfig) (p : Panel) (k : KeySettings g) : Prop where
  input : k.input = .panel p
  entries : ∀ b ∈ board, k.table.keys[b.id.toNat]? = some ⟨b.value, b.color⟩
  served : ∀ b ∈ board, b.id.toNat < board.length → Serves board k b
  missed : ∀ b ∈ board, board.length ≤ b.id.toNat → Misses k b

theorem misses_of_unused {b : ButtonConfig} (unused : k.table.keyCount ≤ b.id) : Misses k b := by
  have absent := KeyTable.entry?_of_unused unused
  constructor
  · rw [KeyTable.value, absent]
    rfl
  · rw [KeyTable.color, absent]
    rfl
  · exact fun v => Setting.run_refused (s := .value b.id v) (fun concerns => concerns absent)
  · exact fun c => Setting.run_refused (s := .color b.id c) (fun concerns => concerns absent)

/-- What is kept of a button's key is known to a keypad that comes up on the same chip. -/
theorem Kept.knows_again (kept : k.Kept) {c : ButtonConfig}
    (entry : k.table.entry? c.id = some ⟨c.value, c.color⟩) {store : Store g}
    (attached : Store.attach k.store.chip = .ok store) {p : Panel} {b : ButtonConfig}
    (config : p.config? c.id = some b) (wired : b.wiring = c.wiring) (longPressMs : UInt32)
    (defaults : List ButtonConfig) :
    (load store (.panel p) longPressMs defaults).Knows c := by
  obtain ⟨told, tells, wiring, follows⟩ := apply_follows (p := p)
    (k := ⟨store, .panel p, longPressMs, k.table⟩) rfl kept.few
  rw [kept.load_again attached]
  have wirings := told.wiring_config? c.id
  rw [wiring, ← p.wiring_config? c.id, config] at wirings
  obtain ⟨c', config', wired'⟩ := Option.map_eq_some_iff.1 wirings
  obtain ⟨value, color⟩ := follows c.id _ entry c' config'
  have same : c' = c := ButtonConfig.eq_of_wiring (wired'.trans wired) value color
  exact .of_entry entry tells (same ▸ config')

theorem Kept.takes (kept : k.Kept) {p : Panel} (input : k.input = .panel p)
    (distinct : (board.map (·.id)).Nodup) {b c : ButtonConfig} (member : b ∈ board) {s : Setting}
    (concerns : s.Concerns k.table) (wired : c.wiring = b.wiring)
    (entry : KeyTable.entry? (s.table k.table) c.id = some ⟨c.value, c.color⟩) {told : Panel}
    (tells : s.tell (.panel p) = .panel told) (config : told.config? c.id = some c) :
    Takes board k s c := by
  have id : c.id = b.id := by
    show c.wiring.id = b.wiring.id
    rw [wired]
  obtain ⟨store, keeps, ran⟩ := Setting.run_of_healthy kept.healthy concerns
  have after := Setting.run_kept kept s
  have table : (s.run k).2.table = s.table k.table := by rw [ran]
  rw [← table] at entry
  constructor
  · rw [ran]
  · apply Knows.of_entry entry _ config
    rw [ran, input]
    exact tells
  · obtain ⟨again, attached, -⟩ := Store.attach_of_fits (s.run k).2.store.chip after.healthy.fits
    refine ⟨again, attached, ?_⟩
    intro p' configs' longPressMs defaults
    have found := Panel.config?_of_mem configs' distinct member
    rw [← id] at found
    exact after.knows_again entry attached found wired.symm longPressMs defaults

theorem Kept.serves (kept : k.Kept) {p : Panel} (input : k.input = .panel p)
    (configs : p.buttons.map (·.config) = board) (distinct : (board.map (·.id)).Nodup)
    {b : ButtonConfig} (member : b ∈ board)
    (entry : k.table.entry? b.id = some ⟨b.value, b.color⟩) : Serves board k b := by
  have config := Panel.config?_of_mem configs distinct member
  have used : k.table.entry? b.id ≠ none := by simp [entry]
  constructor
  · exact .of_entry entry input config
  · intro v
    apply kept.takes input distinct member (s := .value b.id v)
      (c := { b with value := v }) used rfl _ rfl
    · rw [Panel.config?_setValue, if_pos rfl, config]
      rfl
    · show KeyTable.entry? (k.table.withEntry b.id _) b.id = _
      rw [KeyTable.entry?_withEntry, if_pos rfl, entry]
      rfl
  · intro color
    apply kept.takes input distinct member (s := .color b.id color)
      (c := { b with color }) used rfl _ rfl
    · rw [Panel.config?_setColor, if_pos rfl, config]
      rfl
    · show KeyTable.entry? (k.table.withEntry b.id _) b.id = _
      rw [KeyTable.entry?_withEntry, if_pos rfl, entry]
      rfl

/-- A keypad comes up on a store that has no key table yet, in whatever state its buttons are. -/
theorem load_fromBoard (store : Store g) (fits : g.Fits store.chip.capacity)
    (faultless : ∀ f ∈ store.chip.faults, f.count = 0)
    (absent : (store.stored KeyTable .keyTable).magic ≠ recordMagic) (board : List ButtonConfig)
    (distinct : (board.map (·.id)).Nodup) (placed : ∀ b ∈ board, b.id.toNat < maxKeys) (p : Panel)
    (configs : p.buttons.map (·.config) = board) (longPressMs : UInt32) :
    FromBoard board p (load store (.panel p) longPressMs board) := by
  have healthy : store.Healthy := ⟨fits, faultless⟩
  have kept := load_kept healthy (.panel p) longPressMs board
  have loads := load_of_absent healthy absent (.panel p) longPressMs board
  have input : (load store (.panel p) longPressMs board).input = .panel p := by
    rw [loads]
    exact apply_ofBoard configs distinct _ longPressMs
  have table : (load store (.panel p) longPressMs board).table = .ofBoard board := by
    rw [loads]
    rfl
  have entries : ∀ b ∈ board,
      (load store (.panel p) longPressMs board).table.keys[b.id.toNat]? =
        some ⟨b.value, b.color⟩ := by
    intro b member
    rw [table]
    exact KeyTable.getElem?_ofBoard distinct member (placed b member)
  refine ⟨input, entries, ?_, ?_⟩
  · intro b member below
    have used : ¬ (load store (.panel p) longPressMs board).table.keyCount ≤ b.id := by
      rw [table, KeyTable.unused_ofBoard_iff (placed b member)]
      exact Nat.not_le.2 below
    apply kept.serves input configs distinct member
    rw [KeyTable.entry?_of_used used]
    exact entries b member
  · intro b member beyond
    apply misses_of_unused
    rw [table, KeyTable.unused_ofBoard_iff (placed b member)]
    exact beyond

/-- Two buttons, of which the first has an id beyond their number. -/
theorem load_fromBoard_gap :
    let g := Bench.Layout.unit.geometry
    let board : List ButtonConfig :=
      [{ id := 5, value := .key Usage.a, color := .red },
        { id := 0, value := .none, color := .blue }]
    ∃ store : Store g, g.Fits store.chip.capacity ∧ (∀ f ∈ store.chip.faults, f.count = 0) ∧
      (store.stored KeyTable .keyTable).magic ≠ recordMagic ∧ (board.map (·.id)).Nodup ∧
      (∀ b ∈ board, b.id.toNat < maxKeys) ∧
      let k := load store (.panel (.ofBoard board)) 500 board
      FromBoard board (.ofBoard board) k ∧ k.table.value 5 = .none ∧
        k.setValue 5 (.key Usage.c) = (.error .invalidId, k) := by
  intro g board
  obtain ⟨blank, healthy⟩ := Bench.Layout.exists_healthy
  have saved := (healthy.save (by decide) .keyTable { KeyTable.ofBoard [] with magic := 0 }).2
  generalize (blank.save .keyTable { KeyTable.ofBoard [] with magic := 0 }).2 = store at saved
  have absent : (store.stored KeyTable .keyTable).magic ≠ recordMagic := by
    have magic : (store.stored KeyTable .keyTable).magic = 0 :=
      congrArg KeyTable.magic saved.stored_eq
    rw [magic]
    decide
  have distinct : (board.map (·.id)).Nodup := by decide
  have placed : ∀ b ∈ board, b.id.toNat < maxKeys := by decide
  have fromBoard := load_fromBoard store saved.healthy.fits saved.healthy.faultless absent board
    distinct placed (.ofBoard board) rfl 500
  have missed := fromBoard.missed _ List.mem_cons_self (by decide)
  exact ⟨store, saved.healthy.fits, saved.healthy.faultless, absent, distinct, placed, fromBoard,
    missed.value, missed.setValue (.key Usage.c)⟩

end KeySettings

end Keypad
