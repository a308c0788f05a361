import Keypad.Proofs.Panel.Commands

namespace Keypad

namespace Button

variable {b b' : Button} {count : PressCount}

structure Idle (b : Button) : Prop where
  debouncing : b.debouncing = false
  pending : b.pending = false
  longPress : b.longPress = false
  watchedSince : b.watchedSince = none
  timer : b.timer = none

structure Consistent (b : Button) : Prop where
  exclusive : ¬(b.debouncing = true ∧ b.pending = true)
  timer_iff : b.timer.isSome = true ↔ b.debouncing = true
  watched : b.watchedSince.isSome = true → b.debouncing = true
  long : b.longPress = true → b.pending = true
  disabled : b.config.enabled = false → b.Idle

/-- The interrupt is on while the button waits for an edge or for its press to be collected. -/
def Listening (b : Button) : Prop := b.pin.interrupt = (b.config.enabled && !b.debouncing)

theorem Idle.consistent (idle : b.Idle) : b.Consistent := by
  obtain ⟨debouncing, pending, longPress, watchedSince, timer⟩ := idle
  constructor
  · simp [debouncing]
  · simp [debouncing, timer]
  · simp [watchedSince]
  · simp [longPress]
  · intro _
    exact ⟨debouncing, pending, longPress, watchedSince, timer⟩

theorem reset_idle (b : Button) (q : TimerQueue) : (b.reset q).1.Idle := ⟨rfl, rfl, rfl, rfl, rfl⟩

theorem reset_listening (b : Button) (q : TimerQueue) : (b.reset q).1.Listening := by
  simp [reset, Listening, Pin.setInterrupt]

theorem accepts_iff :
    b.accepts = true ↔ b.config.enabled = true ∧ b.debouncing = false ∧ b.pending = false := by
  simp [accepts, and_assoc]

theorem Consistent.of_debouncing {id : Nat} (enabled : b.config.enabled = true)
    (debouncing : b.debouncing = true) (pending : b.pending = false) (short : b.longPress = false)
    (timer : b.timer = some id) : b.Consistent := by
  constructor
  · simp [pending]
  · simp [debouncing, timer]
  · simp [debouncing]
  · simp [short]
  · simp [enabled]

theorem Consistent.of_pending (enabled : b.config.enabled = true)
    (debouncing : b.debouncing = false) (pending : b.pending = true)
    (unwatched : b.watchedSince = none) (timer : b.timer = none) : b.Consistent := by
  constructor
  · simp [debouncing]
  · simp [debouncing, timer]
  · simp [unwatched]
  · simp [pending]
  · simp [enabled]

namespace Consistent

theorem enabled_of_debouncing (consistent : b.Consistent) (debouncing : b.debouncing = true) :
    b.config.enabled = true := by
  cases enabled : b.config.enabled with
  | true => rfl
  | false =>
    have idle := (consistent.disabled enabled).debouncing
    rw [debouncing] at idle
    contradiction

theorem pending_of_debouncing (consistent : b.Consistent) (debouncing : b.debouncing = true) :
    b.pending = false := by
  cases pending : b.pending with
  | false => rfl
  | true => exact absurd ⟨debouncing, pending⟩ consistent.exclusive

theorem debouncing_of_pending (consistent : b.Consistent) (pending : b.pending = true) :
    b.debouncing = false := by
  cases debouncing : b.debouncing with
  | false => rfl
  | true => exact absurd ⟨debouncing, pending⟩ consistent.exclusive

theorem longPress_of_not_pending (consistent : b.Consistent) (pending : b.pending = false) :
    b.longPress = false := by
  have long := consistent.long
  rw [pending] at long
  exact Bool.eq_false_iff.2 fun h => Bool.false_ne_true (long h)

theorem watchedSince_of_not_debouncing (consistent : b.Consistent)
    (debouncing : b.debouncing = false) : b.watchedSince = none := by
  have watched := consistent.watched
  rw [debouncing] at watched
  cases since : b.watchedSince with
  | none => rfl
  | some since => simp [since] at watched

theorem timer_of_not_debouncing (consistent : b.Consistent) (debouncing : b.debouncing = false) :
    b.timer = none := by
  have timer_iff := consistent.timer_iff
  rw [debouncing] at timer_iff
  cases timer : b.timer with
  | none => rfl
  | some id => simp [timer] at timer_iff

theorem change (consistent : b.Consistent) (change : b.Change count b') : b'.Consistent := by
  cases change with
  | outside config pin id enabled interrupt =>
    obtain ⟨exclusive, timer_iff, watched, long, disabled⟩ := consistent
    constructor
    · exact exclusive
    · exact timer_iff
    · exact watched
    · exact long
    · intro off
      obtain ⟨debouncing, pending, longPress, watchedSince, timer⟩ := disabled (enabled ▸ off)
      exact ⟨debouncing, pending, longPress, watchedSince, timer⟩
  | reset q => exact (b.reset_idle q).consistent
  | quieted id accepts =>
    obtain ⟨enabled, debouncing, pending⟩ := accepts_iff.1 accepts
    exact of_debouncing enabled rfl pending (consistent.longPress_of_not_pending pending) rfl
  | givenUp accepts =>
    obtain ⟨enabled, debouncing, pending⟩ := accepts_iff.1 accepts
    have short := consistent.longPress_of_not_pending pending
    exact Idle.consistent ⟨rfl, pending, short, rfl, rfl⟩
  | watched id now debouncing =>
    have pending := consistent.pending_of_debouncing debouncing
    exact of_debouncing (consistent.enabled_of_debouncing debouncing) debouncing pending
      (consistent.longPress_of_not_pending pending) rfl
  | published long debouncing =>
    exact of_pending (consistent.enabled_of_debouncing debouncing) rfl rfl rfl rfl
  | collected pending =>
    have debouncing := consistent.debouncing_of_pending pending
    have unwatched := consistent.watchedSince_of_not_debouncing debouncing
    have timer := consistent.timer_of_not_debouncing debouncing
    exact Idle.consistent ⟨rfl, rfl, rfl, unwatched, timer⟩

theorem changes (consistent : b.Consistent) (changes : b.Changes count b') : b'.Consistent := by
  induction changes with
  | refl b => exact consistent
  | step change rest ih => exact ih (consistent.change change)

end Consistent

namespace Listening

theorem change (listening : b.Listening) (consistent : b.Consistent)
    (change : b.Change count b') : b'.Listening := by
  cases change with
  | outside config pin id enabled interrupt =>
    show pin.interrupt = (config.enabled && !b.debouncing)
    rw [interrupt, enabled]
    exact listening
  | reset q => exact b.reset_listening q
  | quieted id accepts => simp [Listening, quieted, Pin.setInterrupt]
  | givenUp accepts =>
    obtain ⟨enabled, -, -⟩ := accepts_iff.1 accepts
    simp [Listening, givenUp, Pin.setInterrupt, enabled]
  | watched id now debouncing => exact listening
  | published long debouncing =>
    have enabled := consistent.enabled_of_debouncing debouncing
    simp [Listening, published, Pin.setInterrupt, enabled]
  | collected pending =>
    have debouncing := consistent.debouncing_of_pending pending
    unfold Listening at listening
    rw [debouncing] at listening
    exact listening

theorem changes (listening : b.Listening) (consistent : b.Consistent)
    (changes : b.Changes count b') : b'.Listening := by
  induction changes with
  | refl b => exact listening
  | step change rest ih =>
    exact ih (listening.change consistent change) (consistent.change change)

end Listening

theorem Change.config_eq (change : b.Change count b') :
    b'.config.id = b.config.id ∧ b'.config.enabled = b.config.enabled := by
  cases change with
  | outside config pin id enabled interrupt => exact ⟨id, enabled⟩
  | _ => exact ⟨rfl, rfl⟩

theorem Changes.config_eq (changes : b.Changes count b') :
    b'.config.id = b.config.id ∧ b'.config.enabled = b.config.enabled := by
  induction changes with
  | refl b => exact ⟨rfl, rfl⟩
  | step change rest ih =>
    obtain ⟨id, enabled⟩ := change.config_eq
    exact ⟨ih.1.trans id, ih.2.trans enabled⟩

end Button

namespace Bench

/-- An initialisation during a run leaves every button listening, to the end of the run. -/
theorem listening_after (b : PanelBench) {commands : List PanelCommand} {key : Nat}
    {button : Button} (initialized : .init ∈ commands)
    (found : (b.after commands).panel.buttons[key]? = some button) : button.Listening := by
  obtain ⟨first, last, rfl⟩ := List.append_of_mem initialized
  rw [after_append] at found
  obtain ⟨before, start, changes⟩ :=
    changes_of_after (PanelCommand.init.run (b.after first)).2 last found
  have reset : ∃ button : Button, (button.reset (b.after first).panel.timers).1 = before := by
    have start : (b.after first).panel.init.buttons[key]? = some before := start
    rw [Panel.buttons_init, List.getElem?_map, Option.map_eq_some_iff] at start
    obtain ⟨button, -, reset⟩ := start
    exact ⟨button, reset⟩
  obtain ⟨button, rfl⟩ := reset
  exact (button.reset_listening _).changes (button.reset_idle _).consistent changes

theorem buttons_consistent (board : List ButtonConfig) (clock : UInt64) (thresholdMs : UInt32)
    (commands : List PanelCommand) :
    let b := (PanelBench.ofBoard board clock thresholdMs).after commands
    b.panel.buttons.length = board.length ∧
      ∀ key : Fin board.length, ∃ button, b.panel.buttons[key.val]? = some button ∧
        button.config.id = (board.get key).id ∧
        button.config.enabled = (board.get key).enabled ∧
        button.Consistent ∧ (.init ∈ commands → button.Listening) := by
  intro b
  constructor
  · rw [length_after]
    exact List.length_map _
  · intro key
    have start := buttons_ofBoard board clock thresholdMs key
    obtain ⟨button, found, changes⟩ := after_changes _ commands start
    obtain ⟨id, enabled⟩ := changes.config_eq
    have idle : ({ config := board[key] } : Button).Idle := ⟨rfl, rfl, rfl, rfl, rfl⟩
    refine ⟨button, found, id, enabled, idle.consistent.changes changes, ?_⟩
    intro initialized
    exact listening_after _ initialized found

end Bench

end Keypad
