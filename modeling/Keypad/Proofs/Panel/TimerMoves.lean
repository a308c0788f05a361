import Keypad.Proofs.Panel.TimerBooks

namespace Keypad

open Relation (ReflTransGen)

namespace Panel

def timerBooks (p : Panel) : TimerBooks := ⟨heldTimers p.buttons, p.timers⟩

theorem timerBooks_set {p : Panel} {place : Nat} {b : Button} (found : p.buttons[place]? = some b)
    (b' : Button) (q : TimerQueue) :
    timerBooks { p with buttons := p.buttons.set place b', timers := q } =
      ⟨Function.update (heldTimers p.buttons) place (b'.held place), q⟩ := by
  rw [timerBooks, heldTimers_set found]

theorem moves_start {p : Panel} {place periodMs : Nat} {mode : TimerMode} {b b' : Button}
    (found : p.buttons[place]? = some b) (timer : b.timer = none)
    (available : p.timers.exhausted = false)
    (holds : b'.held place = some ⟨p.timers.started + 1, place, periodMs, mode⟩) :
    TimerMove p.timerBooks
      (timerBooks
        { p with
          buttons := p.buttons.set place b'
          timers := (p.timers.start place periodMs mode).2 }) := by
  have free : heldTimers p.buttons place = none := by
    rw [heldTimers_of_getElem? found]
    exact Button.held_eq_none_iff.2 timer
  rw [timerBooks_set found, holds, TimerQueue.start, if_neg (by simp [available])]
  exact TimerMove.taken (t := ⟨p.timers.started + 1, place, periodMs, mode⟩) free rfl rfl

theorem moves_of_same {p p' : Panel} (held : heldTimers p'.buttons = heldTimers p.buttons)
    (timers : p'.timers = p.timers) : ReflTransGen TimerMove p.timerBooks p'.timerBooks := by
  rw [timerBooks, timerBooks, held, timers]

theorem moves_edge {p : Panel} (consistent : ∀ b ∈ p.buttons, b.Consistent) (gpio : UInt8) :
    ReflTransGen TimerMove p.timerBooks (p.edge gpio).timerBooks := by
  have edge := p.edge_edge gpio
  generalize p.edge gpio = after at edge ⊢
  cases edge with
  | ignored => exact .refl
  | started place b wired found accepted available =>
    obtain ⟨-, idle, -⟩ := Button.accepts_iff.1 accepted
    have sound := consistent b (List.mem_of_getElem? found)
    have unwatched := sound.watchedSince_of_not_debouncing idle
    have timer := sound.timer_of_not_debouncing idle
    refine .single (moves_start found timer available ?_)
    simp [Button.held, Button.quieted, unwatched]
  | refused place b wired found accepted exhausted =>
    obtain ⟨-, idle, -⟩ := Button.accepts_iff.1 accepted
    have timer := (consistent b (List.mem_of_getElem? found)).timer_of_not_debouncing idle
    refine moves_of_same ?_ (by rw [timer]; rfl)
    have free : heldTimers p.buttons place = none := by
      rw [heldTimers_of_getElem? found]
      exact Button.held_eq_none_iff.2 timer
    rw [heldTimers_set found, Function.update_eq_self_iff, free]
    rfl

theorem timerBooks_timer (p : Panel) (key id now thresholdMs : Nat) :
    (p.timer key id now thresholdMs).2.timerBooks =
      (p.expire key id now thresholdMs).2.timerBooks := by
  rw [timerBooks, timerBooks, buttons_timer, timers_timer]

/-- Where a timer ends something, its button lets go of it before all else. -/
theorem Expired.moves {p after : Panel} {key id now thresholdMs : Nat} {expiry : Expiry}
    (expired : Expired p key id now thresholdMs expiry after) (current : expiry ≠ .stale)
    (ends : expiry ≠ .held) :
    ∃ t, heldTimers p.buttons key = some t ∧ t.id = id ∧
      ReflTransGen TimerMove
        ⟨Function.update (heldTimers p.buttons) key none, p.timers.cancel id⟩ after.timerBooks := by
  have dropped : ∀ {b idle : Button}, p.buttons[key]? = some b → b.timer = some id →
      idle.timer = none →
      (timerBooks
        { p with buttons := p.buttons.set key idle, timers := p.timers.cancel id }) =
        ⟨Function.update (heldTimers p.buttons) key none, p.timers.cancel id⟩ := by
    intro b idle found timer free
    rw [timerBooks_set found, Button.held_eq_none_iff.2 free]
  have holds : ∀ {b : Button}, p.buttons[key]? = some b → b.timer = some id →
      ∃ t, heldTimers p.buttons key = some t ∧ t.id = id := by
    intro b found timer
    rw [heldTimers_of_getElem? found]
    exact Button.exists_held timer key
  cases expired with
  | stale stale => exact absurd rfl current
  | held b since found debouncing timer watched low short => exact absurd rfl ends
  | watched b found debouncing timer unwatched low available =>
    obtain ⟨t, at_place, number⟩ := holds found timer
    obtain ⟨within, -⟩ := List.getElem?_eq_some_iff.1 found
    -- The panel between both timers: the first is dropped before the second is taken.
    let between : Panel :=
      { p with buttons := p.buttons.set key { b with timer := none }, timers := p.timers.cancel id }
    have between_found : between.buttons[key]? = some { b with timer := none } :=
      List.getElem?_set_self within
    have holds_next :
        ({ b with watchedSince := some now, timer := some (between.timers.started + 1) } :
          Button).held key = some ⟨between.timers.started + 1, key, watchMs, .periodic⟩ := rfl
    have start := moves_start between_found rfl available holds_next
    simp only [between, List.set_set] at start
    rw [dropped found timer rfl] at start
    exact ⟨t, at_place, number, .single start⟩
  | unwatched b found debouncing timer unwatched low exhausted =>
    obtain ⟨t, at_place, number⟩ := holds found timer
    exact ⟨t, at_place, number, by rw [dropped found timer rfl]⟩
  | released b found debouncing timer high =>
    obtain ⟨t, at_place, number⟩ := holds found timer
    exact ⟨t, at_place, number, by rw [dropped found timer rfl]⟩
  | long b since found debouncing timer watched low long =>
    obtain ⟨t, at_place, number⟩ := holds found timer
    exact ⟨t, at_place, number, by rw [dropped found timer rfl]⟩

theorem moves_timer (p : Panel) (key id now thresholdMs : Nat) :
    ReflTransGen TimerMove p.timerBooks (p.timer key id now thresholdMs).2.timerBooks := by
  rw [timerBooks_timer]
  have expired := p.expire_expired key id now thresholdMs
  generalize (p.expire key id now thresholdMs).1 = expiry,
    (p.expire key id now thresholdMs).2 = after at expired ⊢
  by_cases current : expiry = .stale
  · subst current
    cases expired
    exact .refl
  · by_cases goes_on : expiry = .held
    · subst goes_on
      cases expired
      exact .refl
    · obtain ⟨t, at_place, rfl, moves⟩ := expired.moves current goes_on
      exact .head (.dropped at_place) moves

theorem moves_resetAll (before rest : List Button) (q : TimerQueue) :
    ReflTransGen TimerMove ⟨heldTimers (before ++ rest), q⟩
      ⟨heldTimers (before ++ (resetAll q rest).1), (resetAll q rest).2⟩ := by
  induction rest generalizing before q with
  | nil => exact .refl
  | cons b rest ih =>
    have first : ReflTransGen TimerMove ⟨heldTimers (before ++ b :: rest), q⟩
        ⟨heldTimers (before ++ (b.reset q).1 :: rest), (b.reset q).2⟩ := by
      have found : (before ++ b :: rest)[before.length]? = some b := by simp
      have reset : before ++ (b.reset q).1 :: rest =
          (before ++ b :: rest).set before.length (b.reset q).1 := by simp
      have idle : (b.reset q).1.held before.length = none := rfl
      rw [reset, heldTimers_set found, idle]
      cases timer : b.timer with
      | none =>
        have free : heldTimers (before ++ b :: rest) before.length = none := by
          rw [heldTimers_of_getElem? found]
          exact Button.held_eq_none_iff.2 timer
        rw [Function.update_eq_self_iff.2 free.symm, Button.reset, timer]
        exact .refl
      | some id =>
        obtain ⟨t, held, rfl⟩ := Button.exists_held timer before.length
        rw [Button.reset, timer]
        exact .single (.dropped ((heldTimers_of_getElem? found).trans held))
    have later := ih (before ++ [(b.reset q).1]) (b.reset q).2
    simp only [List.append_assoc, List.singleton_append] at later
    exact first.trans later

theorem moves_init (p : Panel) : ReflTransGen TimerMove p.timerBooks p.init.timerBooks :=
  moves_resetAll [] p.buttons p.timers

theorem heldTimers_configure (f : ButtonConfig → ButtonConfig) (key : UInt8) (bs : List Button) :
    heldTimers (configure f key bs) = heldTimers bs := by
  rw [configure_eq_modify]
  apply heldTimers_modify
  intro b place
  rfl

theorem heldTimers_changePin (p : Panel) (place : Nat) (f : Pin → Pin) :
    heldTimers (p.changePin place f).buttons = heldTimers p.buttons := by
  apply heldTimers_modify
  intro b place
  rfl

theorem Collection.heldTimers_eq {bs after : List Button} {event : Option ButtonEvent}
    (collection : Collection bs event after) : heldTimers after = heldTimers bs := by
  cases collection with
  | empty => rfl
  | first place b found at_place =>
    apply heldTimers_modify
    intro b place
    rfl

theorem timers_poll (p : Panel) (point : WaitPoint) : (p.poll point).2.timers = p.timers := by
  have step_timers : ∀ (p : Panel) (point : WaitPoint), (p.waitStep point).2.timers = p.timers := by
    intro p point
    cases point with
    | collecting =>
      simp only [waitStep, take]
      generalize takeFirst p.buttons = taken
      obtain ⟨event, buttons⟩ := taken
      cases event <;> rfl
    | listening =>
      simp only [waitStep, listen]
      by_cases raised : p.signal = .raised
      · rw [if_pos raised]
      · rw [if_neg raised]
  fun_induction poll p point with
  | case1 p point event after delivered =>
    have kept := step_timers p point
    rw [delivered] at kept
    exact kept
  | case2 p point after asleep =>
    have kept := step_timers p point
    rw [asleep] at kept
    exact kept
  | case3 p point next after goesOn ih =>
    have kept := step_timers p point
    rw [goesOn] at kept
    exact ih.trans kept

end Panel

namespace Bench

theorem moves_fire {b : PanelBench} (consistent : ∀ button ∈ b.panel.buttons, button.Consistent)
    (sound : b.panel.timerBooks.Sound) (key : Nat) :
    ReflTransGen TimerMove b.panel.timerBooks (b.fire key).2.panel.timerBooks := by
  cases live : b.panel.timers.liveFor? key with
  | none =>
    simp only [PanelBench.fire, live]
    exact .refl
  | some t =>
    obtain rfl : t.key = key := by simpa using List.find?_some live
    have at_place := sound.live_held t (List.mem_of_find?_eq_some live)
    obtain ⟨button, found, held⟩ := heldTimers_eq_some at_place
    obtain ⟨timer, -⟩ := Button.held_eq_some held
    have debouncing :=
      (consistent button (List.mem_of_getElem? found)).timer_iff.1 (by rw [timer]; rfl)
    have moves := b.panel.moves_timer t.key t.id b.clock.toNat b.thresholdMs.toNat
    have books := b.panel.timerBooks_timer t.key t.id b.clock.toNat b.thresholdMs.toNat
    have answer := b.panel.timer_goesOn_iff t.key t.id b.clock.toNat b.thresholdMs.toNat
    have expired := b.panel.expire_expired t.key t.id b.clock.toNat b.thresholdMs.toNat
    rw [fire_panel live]
    generalize b.panel.timer t.key t.id b.clock.toNat b.thresholdMs.toNat = r
      at moves books answer ⊢
    generalize (b.panel.expire t.key t.id b.clock.toNat b.thresholdMs.toNat).1 = expiry,
      (b.panel.expire t.key t.id b.clock.toNat b.thresholdMs.toNat).2 = after
      at books answer expired
    by_cases goes_on : expiry = .held
    · subst goes_on
      cases expired with
      | held c since there _ _ watched low short =>
        obtain rfl := Option.some.inj (found.symm.trans there)
        have periodic : t.mode = .periodic := by
          rw [Button.held, timer, watched] at held
          exact congrArg Timer.mode (Option.some.inj held).symm
        rw [if_neg (by simp [periodic, answer])]
        exact moves
    · have current : expiry ≠ .stale := by
        rintro rfl
        cases expired with
        | stale stale => exact stale button found debouncing timer
      obtain ⟨u, held_u, same, later⟩ := expired.moves current goes_on
      obtain rfl := Option.some.inj (at_place.symm.trans held_u)
      -- The cycle has let go of the timer, so that ending it once more is no loss.
      have dropped := (sound.dropped at_place).moves later
      rw [← books] at dropped
      have ended : r.1 = false := Bool.eq_false_iff.2 (mt answer.1 goes_on)
      rw [if_pos (.inr ended)]
      exact moves.tail (.spent dropped.free)

/-- Every command but a retirement from outside makes moves. -/
theorem moves_run {b : PanelBench} (consistent : ∀ button ∈ b.panel.buttons, button.Consistent)
    (sound : b.panel.timerBooks.Sound) {c : PanelCommand} (own : ∀ id, c ≠ .retire id) :
    ReflTransGen TimerMove b.panel.timerBooks (c.run b).2.panel.timerBooks := by
  cases c with
  | init => exact b.panel.moves_init
  | setDown place down =>
    exact Panel.moves_of_same (b.panel.heldTimers_changePin place _) rfl
  | setFailing place failing =>
    exact Panel.moves_of_same (b.panel.heldTimers_changePin place _) rfl
  | edge gpio => exact Panel.moves_edge consistent gpio
  | timer key id => exact b.panel.moves_timer key id b.clock.toNat b.thresholdMs.toNat
  | fire key => exact moves_fire consistent sound key
  | retire id => exact absurd rfl (own id)
  | exhaust exhausted => exact .single (.exhausted exhausted)
  | advance | setClock | sleep =>
    exact Panel.moves_of_same (congrArg heldTimers (onlyClock_run b rfl).buttons)
      (onlyClock_run b rfl).timers
  | take =>
    have collection := Panel.takeFirst_collection b.panel.buttons
    exact Panel.moves_of_same collection.heldTimers_eq rfl
  | wait =>
    rw [run_wait]
    exact Panel.moves_of_same (b.panel.poll_collection _).heldTimers_eq (b.panel.timers_poll _)
  | setValue key value => exact Panel.moves_of_same (Panel.heldTimers_configure _ key _) rfl
  | setColor key color => exact Panel.moves_of_same (Panel.heldTimers_configure _ key _) rfl
  | _ => exact .refl

end Bench

end Keypad
