import Keypad.Proofs.Features.Clipboard
import Keypad.Proofs.Keys.Durability
import Keypad.Proofs.Panel.Configuration
import Keypad.Storage.RecordValue

/-! The four places that know of a setting: the stored table, the table in memory, the panel and the
threshold. On a chip without faults they agree, and a keypad that comes up again finds the same. -/
namespace Keypad

namespace Panel

/-- A panel that goes by a key table: a key in use that has a button sends and shows what the table
says. -/
def Follows (p : Panel) (t : KeyTable) : Prop :=
  ∀ key e, t.entry? key = some e → ∀ c, p.config? key = some c →
    c.value = e.value ∧ c.color = e.color

variable {p : Panel} {t : KeyTable}

theorem Follows.changed {after : Panel} {key : UInt8} {f : ButtonConfig → ButtonConfig}
    {h : KeyEntry → KeyEntry} (follows : p.Follows t)
    (configs : ∀ other, after.config? other =
      if other = key then (p.config? key).map f else p.config? other)
    (alike : ∀ c e, c.value = e.value → c.color = e.color →
      (f c).value = (h e).value ∧ (f c).color = (h e).color) :
    after.Follows (t.withEntry key h) := by
  intro other e entry c config
  rw [KeyTable.entry?_withEntry] at entry
  rw [configs] at config
  by_cases here : other = key
  · rw [if_pos here] at entry config
    obtain ⟨e, before, rfl⟩ := Option.map_eq_some_iff.1 entry
    obtain ⟨c, configured, rfl⟩ := Option.map_eq_some_iff.1 config
    obtain ⟨value, color⟩ := follows key e before c configured
    exact alike c e value color
  · rw [if_neg here] at entry config
    exact follows other e entry c config

theorem Follows.setValue (follows : p.Follows t) (key : UInt8) (v : KeyValue) :
    (p.setValue key v).Follows (t.withEntry key fun e => { e with value := v }) :=
  follows.changed (p.config?_setValue key v) fun _ _ _ color => ⟨rfl, color⟩

theorem Follows.setColor (follows : p.Follows t) (key : UInt8) (color : Color) :
    (p.setColor key color).Follows (t.withEntry key fun e => { e with color }) :=
  follows.changed (p.config?_setColor key color) fun _ _ value _ => ⟨value, rfl⟩

theorem Follows.config?_eq {p p' : Panel} (follows : p.Follows t) (follows' : p'.Follows t)
    (wired : p'.wiring = p.wiring) {key : UInt8} {e : KeyEntry} (entry : t.entry? key = some e) :
    p'.config? key = p.config? key := by
  have wirings := p'.wiring_config? key
  rw [wired, ← p.wiring_config? key] at wirings
  cases told : p.config? key with
  | none =>
    rw [told] at wirings
    exact Option.map_eq_none_iff.1 wirings
  | some c =>
    rw [told] at wirings
    obtain ⟨c', told', wiring⟩ := Option.map_eq_some_iff.1 wirings
    obtain ⟨value, color⟩ := follows key e entry c told
    obtain ⟨value', color'⟩ := follows' key e entry c' told'
    rw [told', ButtonConfig.eq_of_wiring wiring (value'.trans value.symm) (color'.trans color.symm)]

/-- A panel that hears of entries, one key after the other, goes by them. The other keys stay as
they are. -/
theorem tell_entries (entries : List KeyEntry) (first : Nat) (p : Panel)
    (room : first + entries.length ≤ UInt8.size) :
    ∃ told, KeySettings.tell first entries (.panel p) = .panel told ∧ told.wiring = p.wiring ∧
      (∀ key, key.toNat < first → told.config? key = p.config? key) ∧
      ∀ key i e, key.toNat = first + i → entries[i]? = some e → ∀ c, told.config? key = some c →
        c.value = e.value ∧ c.color = e.color := by
  induction entries generalizing first p with
  | nil => exact ⟨p, rfl, rfl, fun _ _ => rfl, fun _ i e _ entry => by simp at entry⟩
  | cons entry rest ih =>
    rw [List.length_cons] at room
    let key := UInt8.ofNat first
    have place : key.toNat = first := UInt8.toNat_ofNat_of_lt' (by omega)
    obtain ⟨told, tells, wired, before, behind⟩ :=
      ih (first + 1) ((p.setValue key entry.value).setColor key entry.color) (by omega)
    refine ⟨told, tells, by simpa using wired, ?_, ?_⟩
    · intro other earlier
      have apart : other ≠ key := fun same => by
        rw [same] at earlier
        omega
      rw [before other (by omega), config?_setColor, if_neg apart, config?_setValue, if_neg apart]
    · intro other i e stands found c config
      cases i with
      | zero =>
        have here : other = key := UInt8.toNat_inj.1 (by omega)
        rw [before other (by omega), config?_setColor, if_pos here, config?_setValue, if_pos rfl]
          at config
        obtain ⟨_, valued, rfl⟩ := Option.map_eq_some_iff.1 config
        obtain ⟨_, -, rfl⟩ := Option.map_eq_some_iff.1 valued
        obtain rfl : entry = e := by simpa using found
        exact ⟨rfl, rfl⟩
      | succ i => exact behind other i e (by omega) (by simpa using found) c config

end Panel

namespace KeySettings

variable {g : Geometry}

theorem apply_follows {k : KeySettings g} {p : Panel} (input : k.input = .panel p)
    (few : k.table.keyCount.toNat ≤ maxKeys) :
    ∃ told, k.apply.input = .panel told ∧ told.wiring = p.wiring ∧ told.Follows k.table := by
  have length : (k.table.keys.toList.take k.table.keyCount.toNat).length =
      k.table.keyCount.toNat := by
    rw [List.length_take, Vector.length_toList]
    exact Nat.min_eq_left few
  have room : 0 + (k.table.keys.toList.take k.table.keyCount.toNat).length ≤ UInt8.size := by
    rw [length, Nat.zero_add]
    exact Nat.le_of_lt k.table.keyCount.toNat_lt
  obtain ⟨told, tells, wired, -, entries⟩ := Panel.tell_entries _ 0 p room
  refine ⟨told, ?_, wired, ?_⟩
  · rw [apply, input]
    exact tells
  · intro key e entry c config
    obtain ⟨used, present⟩ := KeyTable.entry?_eq_some entry
    have below : key.toNat < k.table.keyCount.toNat := by
      rw [UInt8.le_iff_toNat_le] at used
      omega
    refine entries key key.toNat e (Nat.zero_add _).symm ?_ c config
    rw [List.getElem?_take_of_lt below, Vector.getElem?_toList]
    exact present

structure Kept (k : KeySettings g) : Prop where
  healthy : k.store.Healthy
  few : k.table.keyCount.toNat ≤ maxKeys
  valid : k.table.magic = recordMagic
  stored : k.stored = k.table

/-- Settings in step with the store, with the threshold and with the panel of a board. -/
structure InStep (board : List ButtonConfig) (k : KeySettings g) : Prop where
  kept : k.Kept
  threshold : k.longPressMs = k.table.longPressMs
  panel : ∃ p, k.input = .panel p ∧ p.wiring = (Panel.ofBoard board).wiring ∧ p.Follows k.table

variable {board : List ButtonConfig} {k k' : KeySettings g}

theorem load_of_valid {store : Store g} (healthy : store.Healthy)
    (valid : (store.stored KeyTable .keyTable).magic = recordMagic) (input : Input)
    (longPressMs : UInt32) (defaults : List ButtonConfig) :
    load store input longPressMs defaults =
      apply ⟨store, input, longPressMs, store.stored KeyTable .keyTable⟩ := by
  simp only [load, healthy.get KeyTable .keyTable, if_pos valid]

/-- Whatever the store held, what is passed on in the end is a table that is kept. -/
theorem load_applies {store : Store g} (healthy : store.Healthy) (input : Input)
    (longPressMs : UInt32) (defaults : List ButtonConfig) :
    ∃ k : KeySettings g, k.Kept ∧ k.input = input ∧
      load store input longPressMs defaults = k.apply := by
  by_cases valid : (store.stored KeyTable .keyTable).magic = recordMagic
  · exact ⟨_, ⟨healthy, KeyTable.keyCount_decode_le _, valid, rfl⟩, rfl,
      load_of_valid healthy valid input longPressMs defaults⟩
  · have few := KeyTable.keyCount_ofBoard_le defaults
    have saved := (healthy.save (by decide) .keyTable (KeyTable.ofBoard defaults)).2
    refine ⟨⟨(store.save .keyTable (KeyTable.ofBoard defaults)).2, input, longPressMs,
      .ofBoard defaults⟩, ⟨saved.healthy, few, rfl, ?_⟩, rfl, ?_⟩
    · exact saved.stored_eq.trans (KeyTable.decode_encode few)
    · simp only [load, healthy.get KeyTable .keyTable, if_neg valid]
      rfl

theorem load_kept {store : Store g} (healthy : store.Healthy) (input : Input)
    (longPressMs : UInt32) (defaults : List ButtonConfig) :
    (load store input longPressMs defaults).Kept := by
  obtain ⟨k, kept, -, loads⟩ := load_applies healthy input longPressMs defaults
  rw [loads]
  exact ⟨kept.healthy, kept.few, kept.valid, kept.stored⟩

theorem load_inStep {store : Store g} (healthy : store.Healthy) (longPressMs : UInt32)
    (defaults : List ButtonConfig) :
    InStep board (load store (.panel (.ofBoard board)) longPressMs defaults) := by
  have loaded := load_kept healthy (.panel (.ofBoard board)) longPressMs defaults
  obtain ⟨k, kept, input, loads⟩ :=
    load_applies healthy (.panel (.ofBoard board)) longPressMs defaults
  obtain ⟨told, tells, wired, follows⟩ := apply_follows input kept.few
  rw [loads] at loaded ⊢
  exact ⟨loaded, rfl, told, tells, wired, follows⟩

theorem Kept.of_keeps {kind : RecordKind} (kept : k.Kept) (table : k'.table = k.table)
    (keeps : k.store.Keeps kind k'.store) (other : kind ≠ .keyTable) : k'.Kept where
  healthy := keeps.healthy
  few := table ▸ kept.few
  valid := table ▸ kept.valid
  stored := by
    rw [table]
    exact (keeps.others KeyTable .keyTable other.symm).trans kept.stored

end KeySettings

namespace Setting

open KeySettings (InStep load)

variable {g : Geometry} {board : List ButtonConfig} {k : KeySettings g}

theorem magic_table (t : KeyTable) (s : Setting) : (s.table t).magic = t.magic := by
  cases s with
  | value key v => exact KeyTable.magic_withEntry
  | color key c => exact KeyTable.magic_withEntry
  | longPress ms => rfl

theorem threshold_table (t : KeyTable) (s : Setting) :
    s.threshold t.longPressMs = (s.table t).longPressMs := by
  cases s with
  | value key v => exact KeyTable.longPressMs_withEntry.symm
  | color key c => exact KeyTable.longPressMs_withEntry.symm
  | longPress ms => rfl

theorem tell_follows {p : Panel} {t : KeyTable} (follows : p.Follows t) (s : Setting) :
    ∃ told, s.tell (.panel p) = .panel told ∧ told.wiring = p.wiring ∧
      told.Follows (s.table t) := by
  cases s with
  | value key v => exact ⟨_, rfl, p.wiring_setValue key v, follows.setValue key v⟩
  | color key c => exact ⟨_, rfl, p.wiring_setColor key c, follows.setColor key c⟩
  | longPress ms => exact ⟨p, rfl, rfl, follows⟩

theorem run_kept (kept : k.Kept) (s : Setting) : (s.run k).2.Kept := by
  by_cases concerns : s.Concerns k.table
  · obtain ⟨store, keeps, ran⟩ := run_of_healthy kept.healthy concerns
    have accounted : (s.run k).2.Accounted (s.keeps k true) :=
      run_accounted ⟨kept.healthy.fits, kept.few, fun _ => kept.stored⟩ s
    have acknowledged : s.keeps k true = true := by
      unfold Setting.keeps
      rw [ran]
      split <;> rfl
    rw [acknowledged, ran] at accounted
    rw [ran]
    exact ⟨keeps.healthy, accounted.few, (s.magic_table k.table).trans kept.valid,
      accounted.same rfl⟩
  · rw [run_refused concerns]
    exact kept

theorem run_inStep (inStep : InStep board k) (s : Setting) : InStep board (s.run k).2 := by
  have kept := run_kept inStep.kept s
  by_cases concerns : s.Concerns k.table
  · obtain ⟨store, keeps, ran⟩ := run_of_healthy inStep.kept.healthy concerns
    obtain ⟨p, input, wired, follows⟩ := inStep.panel
    obtain ⟨told, tells, wiring, follows⟩ := s.tell_follows follows
    rw [ran] at kept ⊢
    refine ⟨kept, ?_, told, ?_, wiring.trans wired, follows⟩
    · rw [inStep.threshold]
      exact s.threshold_table k.table
    · rw [input]
      exact tells
  · rw [run_refused concerns]
    exact inStep

end Setting

theorem Store.Healthy.saveValue {g : Geometry} {s : Store g} (healthy : s.Healthy)
    (kind : RecordKind) (v : RecordValue) : s.Keeps kind (s.saveValue kind v).2 := by
  cases v with
  | housekeeping h => exact (healthy.save (by decide) kind h).2.keeps
  | keyTable t => exact (healthy.save (by decide) kind t).2.keeps
  | activeFeature a => exact (healthy.save (by decide) kind a).2.keeps
  | sessionTable t => exact (healthy.save (by decide) kind t).2.keeps

namespace KeySettings

variable {g : Geometry} {board : List ButtonConfig} {d : Device g}

theorem clipboard_induction {P : KeySettings g → Prop}
    (set : ∀ k, P k → ∀ s : Setting, P (s.run k).2) (before : P d.settings) :
    P (Clipboard.start d).settings := by
  have assigned : P (Clipboard.assignAll d Clipboard.keys).settings := by
    apply Clipboard.assignAll_induction (P := fun d => P d.settings) _ _ before
    intro d key value color valued
    exact set _ (set _ valued (.value key value)) (.color key color)
  rw [Clipboard.settings_start]
  exact assigned

theorem InStep.clipboard (inStep : InStep board d.settings) :
    InStep board (Clipboard.start d).settings :=
  clipboard_induction (P := InStep board) (fun _ => Setting.run_inStep) inStep

theorem Kept.clipboard (kept : d.settings.Kept) : (Clipboard.start d).settings.Kept :=
  clipboard_induction (P := Kept) (fun _ => Setting.run_kept) kept

inductive Step where
  | set (s : Setting)
  | clipboard
  | save (kind : RecordKind) (other : kind ≠ .keyTable) (v : RecordValue)

namespace Step

def run (d : Device g) : Step → Device g
  | set s => (d.onSettings s.run).2
  | clipboard => Clipboard.start d
  | save kind _ v => (d.onStore (·.saveValue kind v)).2

theorem run_inStep (inStep : InStep board d.settings) (step : Step) :
    InStep board (step.run d).settings := by
  cases step with
  | set s => exact Setting.run_inStep inStep s
  | clipboard => exact inStep.clipboard
  | save kind other v =>
    have keeps := inStep.kept.healthy.saveValue kind v
    exact ⟨inStep.kept.of_keeps rfl keeps other, inStep.threshold, inStep.panel⟩

def runAll (d : Device g) (steps : List Step) : Device g := steps.foldl run d

theorem runAll_inStep (inStep : InStep board d.settings) (steps : List Step) :
    InStep board (runAll d steps).settings := by
  induction steps generalizing d with
  | nil => exact inStep
  | cons step rest ih => exact ih (step.run_inStep inStep)

end Step

/-- The settings of a keypad that came up again, against those before: the same table and threshold,
and a panel that is told the same of every key in use. -/
structure SameAgain (k up : KeySettings g) : Prop where
  table : up.table = k.table
  threshold : up.longPressMs = k.longPressMs
  panel :
    ∃ p p', k.input = .panel p ∧ up.input = .panel p' ∧
      ∀ key < k.table.keyCount, p'.config? key = p.config? key

structure Agreement (board : List ButtonConfig) (k : KeySettings g) : Prop where
  buttons :
    ∃ p, k.input = .panel p ∧ ∀ key < k.table.keyCount, ∀ c, p.config? key = some c →
      c.value = k.table.value key ∧ c.color = k.table.color key
  threshold : k.longPressMs = k.table.longPressMs
  stored : k.stored = k.table
  again :
    ∃ store, Store.attach k.store.chip = .ok store ∧ ∀ longPressMs defaults,
      SameAgain k (load store (.panel (.ofBoard board)) longPressMs defaults)
  refused :
    ∀ key, k.table.keyCount ≤ key →
      (∀ v, k.setValue key v = (.error .invalidId, k)) ∧
        ∀ c, k.setColor key c = (.error .invalidId, k)

variable {k : KeySettings g}

/-- A keypad that comes up on the chip of another reads the table that this one kept. -/
theorem Kept.load_again (kept : k.Kept) {store : Store g}
    (attached : Store.attach k.store.chip = .ok store) (input : Input) (longPressMs : UInt32)
    (defaults : List ButtonConfig) :
    load store input longPressMs defaults = apply ⟨store, input, longPressMs, k.table⟩ := by
  obtain ⟨healthy, chip⟩ := kept.healthy.attached attached
  have stored : store.stored KeyTable .keyTable = k.table := by
    rw [Store.stored, chip]
    exact kept.stored
  rw [← stored]
  exact load_of_valid healthy (stored ▸ kept.valid) input longPressMs defaults

theorem InStep.again (inStep : InStep board k) {store : Store g}
    (attached : Store.attach k.store.chip = .ok store) (longPressMs : UInt32)
    (defaults : List ButtonConfig) :
    SameAgain k (load store (.panel (.ofBoard board)) longPressMs defaults) := by
  obtain ⟨p, input, wired, follows⟩ := inStep.panel
  obtain ⟨p', tells, wiring, follows'⟩ := apply_follows (p := .ofBoard board)
    (k := ⟨store, .panel (.ofBoard board), longPressMs, k.table⟩) rfl inStep.kept.few
  rw [inStep.kept.load_again attached]
  refine ⟨rfl, inStep.threshold.symm, p, p', input, tells, ?_⟩
  intro key used
  obtain ⟨e, entry⟩ := KeyTable.exists_entry inStep.kept.few (UInt8.not_le.2 used)
  exact follows.config?_eq follows' (wiring.trans wired.symm) entry

theorem InStep.agreement (inStep : InStep board k) : Agreement board k where
  buttons := by
    obtain ⟨p, input, -, follows⟩ := inStep.panel
    refine ⟨p, input, ?_⟩
    intro key used c config
    obtain ⟨e, entry⟩ := KeyTable.exists_entry inStep.kept.few (UInt8.not_le.2 used)
    rw [KeyTable.value, KeyTable.color, entry]
    exact follows key e entry c config
  threshold := inStep.threshold
  stored := inStep.kept.stored
  again := by
    obtain ⟨store, attached, -⟩ := Store.attach_of_fits k.store.chip inStep.kept.healthy.fits
    exact ⟨store, attached, inStep.again attached⟩
  refused key unused := by
    have absent := KeyTable.entry?_of_unused unused
    constructor
    · exact fun v => Setting.run_refused (s := .value key v) (fun concerns => concerns absent)
    · exact fun c => Setting.run_refused (s := .color key c) (fun concerns => concerns absent)

/-- A keypad comes up on any store. Whatever is set and saved from there on, the settings agree. -/
theorem settings_agree (store : Store g) (fits : g.Fits store.chip.capacity)
    (faultless : ∀ f ∈ store.chip.faults, f.count = 0) (board defaults : List ButtonConfig)
    (longPressMs : UInt32) (today : DateTime) (steps : List Step) :
    let d := Device.boot store (.panel (.ofBoard board)) longPressMs defaults today
    Agreement board (Step.runAll d steps).settings :=
  (Step.runAll_inStep (load_inStep ⟨fits, faultless⟩ longPressMs defaults) steps).agreement

/-- One key, which is set, taken over by the clipboard, and set again. -/
theorem settings_agree_blank :
    let g := Bench.Layout.unit.geometry
    let store := Bench.Layout.unitStore
    let board : List ButtonConfig := [{ id := 0, value := .key 4, color := .red }]
    let d := Device.boot store (.panel (.ofBoard board)) 0 board { year := 2024 }
    g.Fits store.chip.capacity ∧ (∀ f ∈ store.chip.faults, f.count = 0) ∧
      Agreement board (Step.runAll d [.set (.value 0 (.key 5)), .clipboard, .set (.longPress 700),
        .save .activeFeature (by decide) (.activeFeature .factory)]).settings := by
  intro g store board d
  have fits : g.Fits store.chip.capacity := Bench.Layout.unit_fits
  have faultless : ∀ f ∈ store.chip.faults, f.count = 0 := Bench.Layout.unit_faultless
  exact ⟨fits, faultless, settings_agree store fits faultless board board 0 { year := 2024 } _⟩

end KeySettings

end Keypad
