import Keypad.Proofs.Panel.TimerMoves

namespace Keypad

namespace TimerBooks

variable {s : TimerBooks}

theorem Sound.mem_liveAt (sound : s.Sound) {key : Nat} {t : Timer}
    (at_key : t ∈ s.queue.live.filter (·.key == key)) : s.held key = some t := by
  obtain ⟨live, here⟩ := List.mem_filter.1 at_key
  obtain rfl : t.key = key := by simpa using here
  exact sound.live_held t live

theorem Sound.length_liveAt (sound : s.Sound) (key : Nat) :
    (s.queue.live.filter (·.key == key)).length ≤ 1 := by
  have within : s.queue.live.filter (·.key == key) ⊆ (s.held key).toList := by
    intro t live
    rw [sound.mem_liveAt live]
    exact List.mem_singleton_self t
  have shorter := (List.subperm_of_subset (sound.nodup.filter _) within).length_le
  refine Nat.le_trans shorter ?_
  cases s.held key <;> simp

/-- Where nothing that is held is missing, the live timers of a place are what it holds. -/
theorem Complete.liveAt (complete : s.Complete) (sound : s.Sound) (key : Nat) :
    s.queue.live.filter (·.key == key) = (s.held key).toList := by
  cases at_place : s.held key with
  | none =>
    apply List.eq_nil_iff_forall_not_mem.2
    intro t live
    have held := sound.mem_liveAt live
    rw [at_place] at held
    contradiction
  | some t =>
    apply List.Perm.eq_singleton
    apply (List.perm_ext_iff_of_nodup (sound.nodup.filter _) (List.pairwise_singleton _ t)).2
    intro u
    constructor
    · intro live
      have held := sound.mem_liveAt live
      rw [at_place] at held
      exact List.mem_singleton.2 (Option.some.inj held).symm
    · intro same
      obtain rfl := List.mem_singleton.1 same
      have here := sound.at_place key u at_place
      exact List.mem_filter.2 ⟨complete key u at_place, by simp [here]⟩

end TimerBooks

theorem Panel.timer_dropped {p : Panel} {id : Nat} (dropped : p.timerBooks.Dropped id)
    (key now thresholdMs : Nat) : p.timer key id now thresholdMs = (false, p) := by
  apply Panel.timer_stale
  cases found : p.buttons[key]? with
  | none => simp only [expire, found]
  | some b =>
    have stale : ¬ (b.debouncing = true ∧ b.timer = some id) := by
      rintro ⟨-, timer⟩
      obtain ⟨t, held, same⟩ := Button.exists_held timer key
      exact dropped.free key t ((heldTimers_of_getElem? found).trans held) same
    obtain ⟨within, rfl⟩ := List.getElem?_eq_some_iff.1 found
    rw [expire_eq found, Button.expire_stale stale, List.set_getElem_self]

namespace Bench

structure TimersSound (b : PanelBench) : Prop where
  consistent : ∀ button ∈ b.panel.buttons, button.Consistent
  books : b.panel.timerBooks.Sound

namespace TimersSound

variable {b : PanelBench}

theorem run (sound : TimersSound b) (c : PanelCommand) : TimersSound (c.run b).2 where
  consistent := by
    intro button member
    obtain ⟨key, found⟩ := List.getElem?_of_mem member
    have changed := run_changed b key c
    unfold ChangedAt at changed
    rw [found] at changed
    generalize before_eq : b.panel.buttons[key]? = before at changed
    cases changed with
    | some change => exact (sound.consistent _ (List.mem_of_getElem? before_eq)).change change
  books := by
    by_cases own : ∀ id, c ≠ .retire id
    · exact sound.books.moves (moves_run sound.consistent sound.books own)
    · obtain ⟨id, rfl⟩ := not_forall_not.1 own
      exact sound.books.cancel id

theorem after (sound : TimersSound b) (commands : List PanelCommand) :
    TimersSound (b.after commands) := by
  induction commands generalizing b with
  | nil => exact sound
  | cons c rest ih => exact ih (sound.run c)

theorem complete_after (sound : TimersSound b) (complete : b.panel.timerBooks.Complete)
    {commands : List PanelCommand} (own : ∀ id, .retire id ∉ commands) :
    (b.after commands).panel.timerBooks.Complete := by
  induction commands generalizing b with
  | nil => exact complete
  | cons c rest ih =>
    have own_first : ∀ id, c ≠ .retire id := by
      rintro id rfl
      exact own id List.mem_cons_self
    refine ih (sound.run c) ?_ fun id member => own id (List.mem_cons_of_mem _ member)
    exact complete.moves sound.books (moves_run sound.consistent sound.books own_first)

theorem dropped_after (sound : TimersSound b) {id : Nat} (dropped : b.panel.timerBooks.Dropped id)
    (commands : List PanelCommand) : (b.after commands).panel.timerBooks.Dropped id := by
  induction commands generalizing b with
  | nil => exact dropped
  | cons c rest ih =>
    refine ih (sound.run c) ?_
    by_cases own : ∀ id, c ≠ .retire id
    · exact dropped.moves (moves_run sound.consistent sound.books own)
    · obtain ⟨retired, rfl⟩ := not_forall_not.1 own
      exact ⟨dropped.issued, dropped.free⟩

end TimersSound

section Start

variable (board : List ButtonConfig) (clock : UInt64) (thresholdMs : UInt32)

theorem heldTimers_ofBoard (key : Nat) :
    heldTimers (PanelBench.ofBoard board clock thresholdMs).panel.buttons key = none := by
  simp only [heldTimers, PanelBench.ofBoard, Panel.ofBoard, List.getElem?_map]
  cases board[key]? <;> rfl

theorem timersSound_ofBoard : TimersSound (.ofBoard board clock thresholdMs) where
  consistent := by
    intro button member
    obtain ⟨config, -, rfl⟩ := List.mem_map.1 member
    exact Button.Idle.consistent ⟨rfl, rfl, rfl, rfl, rfl⟩
  books := by
    have none_held : ∀ key t,
        ¬ (PanelBench.ofBoard board clock thresholdMs).panel.timerBooks.held key = some t := by
      intro key t held
      exact absurd ((heldTimers_ofBoard board clock thresholdMs key).symm.trans held) (by simp)
    constructor
    · intro t live
      exact absurd live List.not_mem_nil
    · exact List.nodup_nil
    · intro key t held
      exact absurd held (none_held key t)
    · intro key t held
      exact absurd held (none_held key t)
    · intro i j t u held
      exact absurd held (none_held i t)

theorem complete_ofBoard :
    (PanelBench.ofBoard board clock thresholdMs).panel.timerBooks.Complete := by
  intro key t held
  exact absurd ((heldTimers_ofBoard board clock thresholdMs key).symm.trans held) (by simp)

end Start

/-- Every live timer belongs to a button that is in a cycle and holds it, and no button has two. -/
structure LiveTimersHeld (b : PanelBench) : Prop where
  held :
    ∀ t ∈ b.panel.timers.live, ∃ button, b.panel.buttons[t.key]? = some button ∧
      button.debouncing = true ∧ button.timer = some t.id
  single : ∀ key, (b.panel.timers.live.filter (·.key == key)).length ≤ 1

/-- A button in a cycle has one live timer, of its phase, and a button in no cycle has none. -/
structure CyclesTimed (b : PanelBench) : Prop where
  debouncing :
    ∀ key button, b.panel.buttons[key]? = some button → button.debouncing = true →
      ∃ id, button.timer = some id ∧
        b.panel.timers.live.filter (·.key == key) =
          [if button.watchedSince.isSome then ⟨id, key, 100, .periodic⟩
           else ⟨id, key, 100, .oneShot⟩]
  idle :
    ∀ key button, b.panel.buttons[key]? = some button → button.debouncing = false →
      b.panel.timers.live.filter (·.key == key) = []

variable {b : PanelBench}

theorem TimersSound.liveTimersHeld (sound : TimersSound b) : LiveTimersHeld b where
  held := by
    intro t live
    obtain ⟨button, found, held⟩ := heldTimers_eq_some (sound.books.live_held t live)
    obtain ⟨timer, -⟩ := Button.held_eq_some held
    have consistent := sound.consistent button (List.mem_of_getElem? found)
    exact ⟨button, found, consistent.timer_iff.1 (by rw [timer]; rfl), timer⟩
  single := sound.books.length_liveAt

theorem TimersSound.cyclesTimed (sound : TimersSound b)
    (complete : b.panel.timerBooks.Complete) : CyclesTimed b where
  debouncing := by
    intro key button found debouncing
    have consistent := sound.consistent button (List.mem_of_getElem? found)
    obtain ⟨id, timer⟩ := Option.isSome_iff_exists.1 (consistent.timer_iff.2 debouncing)
    have live := complete.liveAt sound.books key
    have held : b.panel.timerBooks.held key = button.held key := heldTimers_of_getElem? found
    rw [held, Button.held, timer] at live
    exact ⟨id, timer, live⟩
  idle := by
    intro key button found idle
    have consistent := sound.consistent button (List.mem_of_getElem? found)
    have live := complete.liveAt sound.books key
    have held : b.panel.timerBooks.held key = button.held key := heldTimers_of_getElem? found
    rw [held, Button.held, consistent.timer_of_not_debouncing idle] at live
    exact live

theorem dropped_of_free {id : Nat} (issued : id ≤ b.panel.timers.started)
    (free : ∀ button ∈ b.panel.buttons, button.timer ≠ some id) :
    b.panel.timerBooks.Dropped id := by
  refine ⟨issued, ?_⟩
  rintro key t held rfl
  obtain ⟨button, found, held⟩ := heldTimers_eq_some held
  obtain ⟨timer, -⟩ := Button.held_eq_some held
  exact free button (List.mem_of_getElem? found) timer

theorem timers_accounted (board : List ButtonConfig) (clock : UInt64) (thresholdMs : UInt32)
    (commands : List PanelCommand) :
    let b := (PanelBench.ofBoard board clock thresholdMs).after commands
    LiveTimersHeld b ∧ ((∀ id, .retire id ∉ commands) → CyclesTimed b) ∧
      ∀ id, id ≤ b.panel.timers.started →
        (∀ button ∈ b.panel.buttons, button.timer ≠ some id) →
        ∀ later key,
          (PanelCommand.timer key id).run (b.after later) = (.flag false, b.after later) := by
  intro b
  have start := timersSound_ofBoard board clock thresholdMs
  have sound : TimersSound b := start.after commands
  refine ⟨sound.liveTimersHeld, ?_, ?_⟩
  · intro own
    exact sound.cyclesTimed
      (start.complete_after (complete_ofBoard board clock thresholdMs) own)
  · intro id issued free later key
    have dropped := sound.dropped_after (dropped_of_free issued free) later
    simp only [PanelCommand.run, Panel.timer_dropped dropped]

/-- A press that is let go of after its debounce, and its timer running out again in the next. -/
example :
    let b := (PanelBench.ofBoard [{ id := 1, gpio := 5, value := default, color := default }] 1
      500).after [.init, .edge 5, .fire 0, .take, .edge 5]
    (b.panel.timers.live = [⟨2, 0, 100, .oneShot⟩]) ∧
      ((PanelCommand.timer 0 1).run b).2.panel = b.panel := by
  decide

end Bench

end Keypad
