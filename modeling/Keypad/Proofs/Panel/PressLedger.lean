import Keypad.Proofs.Panel.Consistency

namespace Keypad

namespace Button

variable {b b' : Button} {count : PressCount}

/-- Each change keeps the books: a press that begins goes on its way, and leaves it only when it is
handed over or cut short. -/
theorem Change.balance (consistent : b.Consistent) (change : b.Change count b') :
    count.accepted + b.inFlight = count.delivered + count.discarded + b'.inFlight := by
  cases change with
  | outside config pin id enabled interrupt => simp [inFlight]
  | reset q =>
    have exclusive := consistent.exclusive
    cases debouncing : b.debouncing <;> cases pending : b.pending <;>
      simp_all [inFlight, Button.reset]
  | quieted id accepts =>
    obtain ⟨-, debouncing, pending⟩ := accepts_iff.1 accepts
    simp [inFlight, Button.quieted, debouncing, pending]
  | givenUp accepts =>
    obtain ⟨-, debouncing, pending⟩ := accepts_iff.1 accepts
    simp [inFlight, Button.givenUp, debouncing, pending]
  | watched id now debouncing => simp [inFlight]
  | published long debouncing =>
    have pending := consistent.pending_of_debouncing debouncing
    simp [inFlight, Button.published, debouncing, pending]
  | collected pending =>
    have debouncing := consistent.debouncing_of_pending pending
    simp [inFlight, Button.collected, debouncing, pending]

theorem Changes.balance (consistent : b.Consistent) (changes : b.Changes count b') :
    count.accepted + b.inFlight = count.delivered + count.discarded + b'.inFlight := by
  induction changes with
  | refl b => simp
  | step change rest ih =>
    have first := change.balance consistent
    have last := ih (consistent.change change)
    simp only [PressCount.accepted_add, PressCount.delivered_add, PressCount.discarded_add]
    omega

theorem edge_busy (busy : b.debouncing = true ∨ b.pending = true) (key : Nat) (q : TimerQueue) :
    b.edge key q = (b, q) := by
  apply edge_ignored
  rcases busy with debouncing | pending
  · simp [accepts, debouncing]
  · simp [accepts, pending]

end Button

namespace Bench

structure PressesKept (b : PanelBench) (key : Nat) (count : PressCount) (button : Button) :
    Prop where
  balance :
    count.accepted =
      count.delivered + button.pending.toNat + button.debouncing.toNat + count.discarded
  busy :
    ∀ gpio, b.panel.buttons.findIdx? (·.config.gpio == gpio) = some key →
      button.debouncing = true ∨ button.pending = true →
      (PanelCommand.edge gpio).run b = (.done, b)
  refused :
    ∀ gpio, b.panel.buttons.findIdx? (·.config.gpio == gpio) = some key →
      button.accepts = true → b.panel.timers.exhausted = true →
      ∃ idle : Button, idle.Idle ∧ idle.pin.interrupt = true ∧
        (PanelCommand.edge gpio).run b =
          (.done, { b with panel.buttons := b.panel.buttons.set key idle })
  short :
    ∀ id, button.debouncing = true → button.timer = some id → button.watchedSince = none →
      button.pin.isLow = true → b.panel.timers.exhausted = true →
      ∃ settled : Button,
        settled.pending = true ∧ settled.event = ⟨button.config.id, false⟩ ∧
        settled.debouncing = false ∧ settled.timer = none ∧ settled.pin.interrupt = true ∧
        ∃ after, (PanelCommand.timer key id).run b = (.flag false, after) ∧
          after.panel.signal = .raised ∧
          after.panel.buttons = b.panel.buttons.set key settled

variable {b : PanelBench} {key : Nat} {button : Button}

theorem run_edge {gpio : UInt8}
    (wired : b.panel.buttons.findIdx? (·.config.gpio == gpio) = some key)
    (found : b.panel.buttons[key]? = some button) :
    (PanelCommand.edge gpio).run b =
      (.done,
        { b with
          panel.buttons := b.panel.buttons.set key (button.edge key b.panel.timers).1
          panel.timers := (button.edge key b.panel.timers).2 }) := by
  simp only [PanelCommand.run, Panel.edge_eq wired found]

theorem run_timer (found : b.panel.buttons[key]? = some button) {id : Nat} {settled : Button}
    {q : TimerQueue}
    (expired : button.expire key id b.clock.toNat b.thresholdMs.toNat b.panel.timers =
      (.published, settled, q)) :
    (PanelCommand.timer key id).run b =
      (.flag false,
        { b with
          panel := { b.panel with
            buttons := b.panel.buttons.set key settled
            timers := q }.raise }) := by
  simp only [PanelCommand.run, Panel.timer, Panel.expire, found, expired]

theorem presses_kept (board : List ButtonConfig) (clock : UInt64) (thresholdMs : UInt32)
    (commands : List PanelCommand) (key : Fin board.length) :
    let start := PanelBench.ofBoard board clock thresholdMs
    ∃ button, (start.after commands).panel.buttons[key.val]? = some button ∧
      PressesKept (start.after commands) key (start.account key commands) button := by
  intro start
  have idle : ({ config := board[key] } : Button).Idle := ⟨rfl, rfl, rfl, rfl, rfl⟩
  obtain ⟨button, found, changes⟩ :=
    after_changes start commands (buttons_ofBoard board clock thresholdMs key)
  have consistent := idle.consistent.changes changes
  refine ⟨button, found, ?_⟩
  constructor
  · have balance := changes.balance idle.consistent
    simp only [Button.inFlight, Bool.toNat_false] at balance
    omega
  · intro gpio wired busy
    obtain ⟨within, rfl⟩ := List.getElem?_eq_some_iff.1 found
    rw [run_edge wired found, Button.edge_busy busy, List.set_getElem_self]
  · intro gpio wired accepts exhausted
    obtain ⟨-, debouncing, pending⟩ := Button.accepts_iff.1 accepts
    have short := consistent.longPress_of_not_pending pending
    have timer := consistent.timer_of_not_debouncing debouncing
    refine ⟨button.givenUp, ⟨rfl, pending, short, rfl, rfl⟩, rfl, ?_⟩
    rw [run_edge wired found, Button.edge_refused accepts key.val exhausted, timer]
    rfl
  · intro id debouncing held unwatched low exhausted
    refine ⟨button.published false, rfl, rfl, rfl, rfl, rfl, ?_⟩
    have expired := Button.expire_unwatched debouncing held unwatched low key.val
      (start.after commands).clock.toNat (start.after commands).thresholdMs.toNat exhausted
    exact ⟨_, run_timer found expired, rfl, rfl⟩

example :
    (PanelBench.ofBoard [{ id := 1, gpio := 5, value := default, color := default }] 1 500).account
      0 [.init, .edge 5, .edge 5, .timer 0 1, .take, .edge 5, .init, .timer 0 2, .take] =
      { accepted := 2, delivered := 1, discarded := 1 } := by
  decide

end Bench

end Keypad
