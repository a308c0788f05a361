import Keypad.Proofs.Keys.Agreement

/-! What a setting that fails leaves behind. The input never hears of it. A key that is not in use
is refused before anything happens; but where the save fails, the table in memory and the threshold
have the setting already, and keep it, even if the chip was not touched. -/
namespace Keypad

open Flash (Fault FlashError strike strikeReads)

namespace Store

variable {g : Geometry} {s : Store g} {α : Type} [Record α]

/-- Whether a save through these faults gets to erase anything: the reads of the sector come before,
and a fault can strike the erase itself before its first byte. -/
def erases (g : Geometry) (faults : List Fault) : Bool :=
  match strikeReads g.slotsPerSector faults with
  | (some _, _) => false
  | (none, read) =>
    match strike .erase read with
    | (some f, _) => 0 < f.reach
    | (none, _) => true

/-- A save of a record fails by the chip alone, and what it did not get to erase is as before. -/
theorem save_failed (fits : g.Fits s.chip.capacity) (some_bytes : 0 < Record.size α)
    (kind : RecordKind) (v : α) {e : StorageError} (failed : (s.save kind v).1 = .error e) :
    (∃ f : FlashError, e = .ofFlash f) ∧
      (erases g s.chip.faults = false → (s.save kind v).2.chip.cells = s.chip.cells) := by
  have accepted := g.accepts_encode some_bytes kind v
  unfold save at failed ⊢
  rcases reads : strikeReads g.slotsPerSector s.chip.faults with ⟨_ | f, read⟩
  · rcases erase : strike .erase read with ⟨_ | f, erased⟩
    · have reached : erases g s.chip.faults = true := by simp only [erases, reads, erase]
      rw [reached]
      rcases write : strike .write erased with ⟨_ | f, rest⟩
      · have done := (writeSlot_done fits accepted reads erase write).1
        exact absurd (failed.symm.trans done) (by simp)
      · have struck := (writeSlot_writeStruck fits accepted reads erase write).1
        exact ⟨⟨f.error, Except.error.inj (failed.symm.trans struck)⟩, nofun⟩
    · have reached : erases g s.chip.faults = decide (0 < f.reach) := by
        simp only [erases, reads, erase]
      obtain ⟨struck, chip⟩ := writeSlot_eraseStruck fits accepted reads erase
      refine ⟨⟨f.error, Except.error.inj (failed.symm.trans struck)⟩, ?_⟩
      intro at_once
      have nothing : f.reach = 0 := by simpa [reached] using at_once
      rw [chip, nothing, Nat.zero_min]
      rfl
  · obtain ⟨struck, chip⟩ := writeSlot_readStruck fits accepted reads
    refine ⟨⟨f.error, Except.error.inj (failed.symm.trans struck)⟩, ?_⟩
    intro _
    rw [chip]

end Store

theorem StorageError.ofFlash_ne_invalidId (f : FlashError) : ofFlash f ≠ .invalidId := by
  cases f <;> nofun

def KeySettings.struckBy {g : Geometry} (faults : List Fault) (k : KeySettings g) : KeySettings g :=
  { k with store.chip.faults := faults }

namespace Setting

variable {g : Geometry} {board : List ButtonConfig} {k after : KeySettings g} {e : StorageError}

open KeySettings (InStep Step)

/-- What a setting that fails leaves of the settings that it was tried on. -/
structure Tried (k : KeySettings g) (s : Setting) (e : StorageError) (after : KeySettings g) :
    Prop where
  input : after.input = k.input
  table : after.table = s.table k.table
  threshold : after.longPressMs = after.table.longPressMs
  /-- The table in memory is changed by every error but the refusal of a key that is not in use. -/
  refused : e = .invalidId ↔ after.table = k.table
  cells :
    e = .invalidId ∨ Store.erases g k.store.chip.faults = false →
      after.store.chip.cells = k.store.chip.cells

theorem tried (fits : g.Fits k.store.chip.capacity)
    (threshold : k.longPressMs = k.table.longPressMs) {s : Setting}
    (failed : s.run k = (.error e, after)) : Tried k s e after := by
  by_cases concerns : s.Concerns k.table
  · let ahead : KeySettings g :=
      { k with longPressMs := s.threshold k.longPressMs, table := s.table k.table }
    by_cases same : s.table k.table = k.table
    · rw [run_eq concerns, KeySettings.keep, if_pos same] at failed
      exact absurd (congrArg Prod.fst failed) (by simp [told])
    · have ran : s.run k = s.told ahead.save := by
        rw [run_eq concerns, KeySettings.keep, if_neg same]
      have saves : ahead.save =
          ((k.store.save .keyTable (s.table k.table)).1,
            { ahead with store := (k.store.save .keyTable (s.table k.table)).2 }) := rfl
      rw [ran, saves] at failed
      cases answer : (k.store.save .keyTable (s.table k.table)).1 with
      | ok u =>
        rw [answer] at failed
        exact absurd (congrArg Prod.fst failed) (by simp [told])
      | error e' =>
        obtain ⟨⟨f, flash⟩, cells⟩ := Store.save_failed fits (by decide) .keyTable _ answer
        rw [answer] at failed
        obtain ⟨error, rfl⟩ := Prod.mk.inj failed
        obtain rfl := Except.error.inj error
        have struck : e' ≠ .invalidId := flash ▸ StorageError.ofFlash_ne_invalidId f
        refine ⟨rfl, rfl, ?_, by simp [struck, ahead, same], ?_⟩
        · show s.threshold k.longPressMs = (s.table k.table).longPressMs
          rw [threshold, threshold_table]
        · exact fun before => cells (before.resolve_left struck)
  · rw [run_refused concerns] at failed
    obtain ⟨refused, rfl⟩ := Prod.mk.inj failed
    obtain rfl := Except.error.inj refused
    have same := table_of_refused concerns
    exact ⟨rfl, same.symm, threshold, by simp, fun _ => rfl⟩

theorem longPress_unread (inStep : InStep board k) {ms : UInt32} (new : k.longPressMs ≠ ms)
    {faults rest : List Fault} {f : Fault}
    (hit : strikeReads g.slotsPerSector faults = (some f, rest)) :
    (run (k.struckBy faults) (.longPress ms)).1 = .error (.ofFlash f.error) :=
  (second_try_not_stored (k := k.struckBy faults) inStep.kept.healthy.fits inStep.kept.stored
    (inStep.threshold ▸ new) hit).1

theorem settings_runAll_set (d : Device g) (s : Setting) :
    (Step.runAll d [.set s]).settings = (s.run d.settings).2 := rfl

/-- A keypad comes up on any store, things are set and saved on it without a fault, and then a
setting fails, whichever calls of the chip were struck. -/
theorem failed_setting (store : Store g) (fits : g.Fits store.chip.capacity)
    (faultless : ∀ f ∈ store.chip.faults, f.count = 0) (board defaults : List ButtonConfig)
    (longPressMs : UInt32) (today : DateTime) (steps : List Step) (faults : List Fault)
    (s : Setting) :
    let d := Device.boot store (.panel (.ofBoard board)) longPressMs defaults today
    let k := (Step.runAll d steps).settings.struckBy faults
    ∀ e, (s.run k).1 = .error e → Tried k s e (s.run k).2 := by
  intro d k e failed
  have inStep : InStep board (Step.runAll d steps).settings :=
    Step.runAll_inStep (KeySettings.load_inStep ⟨fits, faultless⟩ longPressMs defaults) steps
  exact tried (k := k) inStep.kept.healthy.fits inStep.threshold (Prod.ext failed rfl)

/-- The threshold is set, and set again to another value where the chip cannot be read. -/
theorem failed_setting_unread :
    ∃ store : Store Bench.Layout.unit.geometry,
      Bench.Layout.unit.geometry.Fits store.chip.capacity ∧
      (∀ f ∈ store.chip.faults, f.count = 0) ∧
      let d := Device.boot store (.panel (.ofBoard [])) 0 [] { year := 2024 }
      let k := (Step.runAll d [.set (.longPress 500)]).settings.struckBy [{ on := .read }]
      (run k (.longPress 600)).1 = .error .flash ∧
        Tried k (.longPress 600) .flash (run k (.longPress 600)).2 ∧
        (run k (.longPress 600)).2.longPressMs = 600 ∧
        (run k (.longPress 600)).2.store.chip.cells = k.store.chip.cells := by
  obtain ⟨blank, healthy⟩ := Bench.Layout.exists_healthy
  refine ⟨blank, healthy.fits, healthy.faultless, ?_⟩
  intro d k
  have booted : InStep [] d.settings := KeySettings.load_inStep healthy 0 []
  have inStep : InStep [] (Step.runAll d [.set (.longPress 500)]).settings :=
    Step.runAll_inStep booted _
  obtain ⟨_, _, first⟩ := run_of_healthy (s := .longPress 500) booted.kept.healthy trivial
  have threshold : (Step.runAll d [.set (.longPress 500)]).settings.longPressMs = 500 := by
    rw [settings_runAll_set, first]
    rfl
  have new : (Step.runAll d [.set (.longPress 500)]).settings.longPressMs ≠ 600 := by
    rw [threshold]
    decide
  have struck : strikeReads Bench.Layout.unit.geometry.slotsPerSector [{ on := .read }] =
      (some { on := .read }, [{ on := .read, count := 0 }]) := by decide
  have faults : k.store.chip.faults = [{ on := .read }] := rfl
  have spared : Store.erases Bench.Layout.unit.geometry k.store.chip.faults = false := by
    rw [faults]
    decide
  have failed : (run k (.longPress 600)).1 = .error .flash := longPress_unread inStep new struck
  have tries : Tried k (.longPress 600) .flash (run k (.longPress 600)).2 :=
    failed_setting blank healthy.fits healthy.faultless [] [] 0 { year := 2024 }
      [.set (.longPress 500)] [{ on := .read }] (.longPress 600) .flash failed
  refine ⟨failed, tries, ?_, tries.cells (.inr spared)⟩
  rw [tries.threshold, tries.table]
  rfl

end Setting

end Keypad
