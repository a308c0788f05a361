import Keypad.Proofs.Tracker.Tracking

/-! What the function key answers. A short press blinks the hours of the session, unless a threshold
was reached in it. That is to say, unless the key shows the color of a threshold; but the session
knows of its thresholds across a restart, and the key shows nothing any more then, and answers
nothing. -/
namespace Keypad

open Light (shown)

namespace Session

def reached (s : Session) : Bool := s.mediumReached || s.longReached

def hours (s : Session) : Nat := s.totalUs / 3600000000

end Session

namespace Tracker

variable {g : Geometry} {d d' : Device g} {carried : Bool}

def colored (lights : List Light) : Bool :=
  shown functionKey lights == some .yellow || shown functionKey lights == some .red

theorem colored_append {before : List Light} (beside : ∀ l ∈ before, l.switches functionKey = false)
    (lights : List Light) : colored (before ++ lights) = colored lights := by
  simp only [colored, Light.shown_append_beside beside]

/-- A tick that finds a threshold reached notes it in the session and shows it. -/
theorem reach_colored (t : SessionTable) (ms : UInt64) (s : Session) (lights : List Light) :
    (reach t ms s).2.reached = ((reach t ms s).1.isSome || s.reached) ∧
      colored ((reach t ms s).1.toList.map (.on functionKey) ++ lights) =
        ((reach t ms s).1.isSome || colored lights) := by
  unfold reach
  split
  · simp [Session.reached, colored]
  · split
    · simp [Session.reached, colored]
    · simp

/-- While the tracker runs, the session knows of a threshold because the function key shows it, or
because that was carried over from before. -/
structure Knows (carried : Bool) (d : Device g) : Prop where
  within : d.tracker.table.active.toNat < maxSessions
  reached :
    d.tracker.running = true → d.tracker.table.current.reached = (colored d.lights || carried)

namespace Knows

theorem spares (knows : Knows carried d) (spares : Spares d d') : Knows carried d' := by
  obtain ⟨before, lights, beside⟩ := spares.lights
  have alike := spares.alike knows.within
  refine ⟨spares.retouches.table.active_eq ▸ knows.within, ?_⟩
  intro running
  rw [lights, colored_append beside, Session.reached, alike.medium, alike.long]
  exact knows.reached (spares.retouches.running ▸ running)

theorem openSession (d : Device g) : Knows false (openSession d).2 := by
  obtain ⟨⟨t, -, saves⟩, -⟩ := openSession_opens d
  refine ⟨?_, ?_⟩
  · rw [saves.tracker_eq]
    exact t.active_opened_lt d.today
  · intro _
    have dark : (Tracker.openSession d).2.lights =
      .off functionKey :: (Tracker.stopTracking d).lights := rfl
    rw [saves.tracker_eq, SessionTable.current_opened, dark]
    simp [colored, Session.reached]

theorem press (knows : Knows carried d) (event : ButtonEvent) :
    Knows (carried && !opensNext event) (press d event).2 := by
  cases opens : opensNext event with
  | false =>
    rw [Bool.not_false, Bool.and_true]
    exact knows.spares (.press d opens)
  | true =>
    obtain ⟨function, long⟩ : event.key = functionKey ∧ event.long = true := by
      simpa [opensNext] using opens
    rw [Bool.not_true, Bool.and_false, Tracker.press, if_pos function, if_pos long]
    exact (openSession _).spares ((Spares.refl _).light _ rfl)

theorem pressAll (knows : Knows carried d) (events : List ButtonEvent) :
    Knows (carried && (answered d events).countP opensNext == 0) (pressAll d events).2 := by
  induction events generalizing d carried with
  | nil =>
    rw [answered, List.countP_nil, beq_self_eq_true, Bool.and_true]
    exact knows
  | cons event rest ih =>
    have first := knows.press event
    have none_open : ∀ n, ((opensNext event).toNat + n == 0) = (!opensNext event && n == 0) := by
      intro n
      cases opensNext event <;> simp
    rw [Tracker.pressAll, answered]
    generalize Tracker.press d event = r at first ⊢
    obtain ⟨_ | _, between⟩ := r
    · simp only [countP_opensNext, none_open, List.countP_nil, beq_self_eq_true, Bool.and_true]
      exact first
    · simp only [countP_opensNext, none_open, ← Bool.and_assoc]
      exact ih first

theorem tick (knows : Knows carried d) : Knows carried (tick d).2 := by
  obtain ⟨-, same⟩ | failed | ⟨s, ms, d', answer, counts⟩ := tick_counts d
  · rw [same]
    exact knows
  · rw [failed]
    exact knows
  · rw [answer]
    obtain ⟨medium, long⟩ := Session.reached_of_ticked counts.ticked
    obtain ⟨reached, shows⟩ := reach_colored d.tracker.table ms s d.lights
    refine ⟨counts.table ▸ knows.within, ?_⟩
    intro running
    have before := knows.reached (counts.running ▸ running)
    have same : s.reached = d.tracker.table.current.reached := by
      rw [Session.reached, medium, long, Session.reached]
    rw [counts.table, SessionTable.current_setCurrent knows.within, reached, counts.lights, shows,
      same, before, Bool.or_assoc]

theorem start (d : Device g) : Knows (start d).tracker.table.current.reached (start d) := by
  refine ⟨within_start d, ?_⟩
  intro _
  have dark : shown functionKey (Tracker.start d).lights = none := dark_start d (by simp)
  have no_color : colored (Tracker.start d).lights = false := by rw [colored, dark]; rfl
  rw [no_color, Bool.false_or]

theorem again (knows : Knows carried d) : Knows d.tracker.table.current.reached d := by
  refine ⟨knows.within, ?_⟩
  intro running
  rw [knows.reached running, ← Bool.or_assoc, Bool.or_self]

end Knows

/-- Whether what the session knows of the thresholds is from before: it knew of one when the tracker
last came up, and is still the same session. -/
def carries (before : Bool) (d : Device g) : Occurrence → Bool
  | .event .start => (start d).tracker.table.current.reached
  | .event (.reboot input longPressMs board today) =>
    (Event.run d (.reboot input longPressMs board today)).tracker.table.current.reached
  | .event e => before && e.openings d == 0
  | .restart .. => before

def carriedAfter (before : Bool) (d : Device g) : List Occurrence → Bool
  | [] => before
  | occurrence :: rest => carriedAfter (carries before d occurrence) (occurrence.run d) rest

namespace Knows

theorem event (knows : Knows carried d) (event : Event) :
    Knows (carries carried d (.event event)) (event.run d) := by
  have kept : ∀ d' : Device g, Knows carried d' → Knows (carried && (0 : Nat) == 0) d' := by
    simp
  cases event with
  | outside input today => exact kept _ ⟨knows.within, knows.reached⟩
  | press event =>
    have pressed := knows.press event
    show Knows (carried && (opensNext event).toNat == 0) (Tracker.press d event).2
    cases opens : opensNext event <;> simpa [opens] using pressed
  | handle =>
    have drained : Knows carried d.drain.2 := ⟨knows.within, knows.reached⟩
    exact drained.pressAll d.drain.1
  | tick => exact kept _ knows.tick
  | openSession =>
    show Knows (carried && (1 : Nat) == 0) _
    rw [show ((1 : Nat) == 0) = false from rfl, Bool.and_false]
    exact openSession d
  | setMediumMs ms => exact kept _ ⟨knows.within, knows.reached⟩
  | setLongMs ms => exact kept _ ⟨knows.within, knows.reached⟩
  | stop => exact kept _ ⟨knows.within, nofun⟩
  | start => exact start d
  | reboot input longPressMs board today =>
    simp only [carries, Event.run]
    cases Store.attach d.settings.store.chip with
    | ok store => exact start _
    | error e => exact knows.again

theorem occurrence (knows : Knows carried d) (occurrence : Occurrence) :
    Knows (carries carried d occurrence) (occurrence.run d) := by
  cases occurrence with
  | event event => exact knows.event event
  | restart input longPressMs board today =>
    simp only [carries, Occurrence.run]
    cases Store.attach d.settings.store.chip with
    | ok store =>
      have down : (Device.boot store input longPressMs board today).tracker.running ≠ true :=
        Bool.false_ne_true
      exact ⟨(by decide : SessionTable.factory.active.toNat < maxSessions), (absurd · down)⟩
    | error e => exact knows

theorem runAll (knows : Knows carried d) (occurrences : List Occurrence) :
    Knows (carriedAfter carried d occurrences) (Occurrence.runAll d occurrences) := by
  induction occurrences generalizing d carried with
  | nil => exact knows
  | cons occurrence rest ih => exact ih (knows.occurrence occurrence)

end Knows

theorem hourBlinks_eq {s : Session} {ms : UInt64} (tracked : s.trackedMs? = some ms)
    (few : s.hours < 2 ^ 32) : hourBlinks ms = .ofNat (max 1 s.hours) := by
  have hours : (ms / msPerHour).toNat = s.hours := by
    rw [UInt64.toNat_div, Session.toNat_trackedMs tracked, Session.hours]
    exact Nat.div_div_eq_div_mul ..
  have small : max 1 s.hours < 2 ^ 32 := max_lt (by decide) few
  rw [hourBlinks, ← UInt32.toNat_inj, UInt32.toNat_ofNat_of_lt' small, UInt32.toNat_max,
    UInt64.toNat_toUInt32, hours, Nat.mod_eq_of_lt few, max_comm]
  rfl

theorem trackedMs?_of_hours {s : Session} (few : s.hours < 2 ^ 32) :
    ∃ ms, s.trackedMs? = some ms := by
  refine Option.isSome_iff_exists.1 (Session.trackedMs?_isSome_iff.2 ?_)
  have room : 3600000000 * 2 ^ 32 < UInt64.size := by decide
  unfold Session.hours at few
  omega

/-- How a short press of the function key is answered while the tracker runs: by blinking the hours,
where no threshold was reached. -/
structure AnswersHours (carried : Bool) (d : Device g) : Prop where
  press :
    d.tracker.running = true → d.tracker.table.current.hours < 2 ^ 32 →
      ∃ d', press d ⟨functionKey, false⟩ = (.ok (), d') ∧
        d'.lights =
          if colored d.lights || carried then d.lights
          else
            .blink functionKey hoursBlinkMs (.ofNat (max 1 d.tracker.table.current.hours))
              (d.settings.table.color functionKey) :: d.lights
  /-- A press in a queue is answered like one by itself. -/
  handled : Event.handle.run d = runEvents d (presses d)

theorem Knows.answers (knows : Knows carried d) : AnswersHours carried d := by
  refine ⟨?_, handle_eq_run d⟩
  intro running few
  have reached := knows.reached running
  obtain ⟨date, dates⟩ := dateSession_eq d
  let s : Session := { d.tracker.table.current with date }
  have current : (dateSession d).tracker.table.current = s := by
    rw [dates]
    exact SessionTable.current_setCurrent knows.within s
  have settings : (dateSession d).settings = d.settings := by
    rw [dates]
    rfl
  have pressed : Tracker.press d ⟨functionKey, false⟩ = showHours (dateSession d) := rfl
  rw [pressed, showHours, current, ← reached]
  cases knew : d.tracker.table.current.reached with
  | true =>
    have silent : (s.mediumReached || s.longReached) = true := knew
    simp only [silent, if_true]
    exact ⟨_, rfl, lights_dateSession d⟩
  | false =>
    have open_to : (s.mediumReached || s.longReached) = false := knew
    obtain ⟨ms, tracked⟩ := trackedMs?_of_hours (s := s) few
    simp only [open_to, tracked, settings, Bool.false_eq_true, if_false]
    refine ⟨_, rfl, ?_⟩
    rw [Device.lights_light, lights_dateSession, hourBlinks_eq tracked few]
    rfl

/-- Wherever a run of the tracker has got to, on any chip: a short press of the function key blinks
the hours unless the key shows the color of a threshold, or would show it but for the tracker having
come up again in the session. -/
theorem function_key_answers (d : Device g) (occurrences : List Occurrence) :
    AnswersHours
      (carriedAfter (start d).tracker.table.current.reached (start d) occurrences)
      (Occurrence.runAll (start d) occurrences) :=
  ((Knows.start d).runAll occurrences).answers

/-- A session is stored that has reached a threshold. Coming up on it, the key is dark and
silent. -/
theorem function_key_silent :
    ∃ d : Device Bench.Layout.unit.geometry,
      (start d).tracker.running = true ∧ (start d).tracker.table.current.hours < 2 ^ 32 ∧
      colored (start d).lights = false ∧
      ∃ d', press (start d) ⟨functionKey, false⟩ = (.ok (), d') ∧
        d'.lights = (start d).lights := by
  let s : Session := { mediumReached := true }
  have within : SessionTable.factory.active.toNat < maxSessions := by decide
  obtain ⟨d, healthy, stored⟩ := exists_stored (SessionTable.factory.setCurrent s) within
  have read : (found d).current = s := by
    rw [found_of_healthy healthy, stored, if_pos (by rfl)]
    exact SessionTable.current_setCurrent within s
  obtain ⟨date, current⟩ := current_start healthy.fits
  rw [read] at current
  have knew : (start d).tracker.table.current.reached = true := by rw [current]; rfl
  have few : (start d).tracker.table.current.hours < 2 ^ 32 := by
    rw [current]
    exact (by decide : ({ mediumReached := true } : Session).hours < 2 ^ 32)
  have dark : shown functionKey (start d).lights = none := dark_start d (by simp)
  obtain ⟨d', pressed, lights⟩ := (function_key_answers d []).press (running_start d) few
  refine ⟨d, running_start d, few, ?_, d', pressed, ?_⟩
  · rw [colored, dark]
    rfl
  · rw [lights]
    show (if colored (start d).lights || (start d).tracker.table.current.reached then _ else _) = _
    rw [knew, Bool.or_true, if_pos rfl, Occurrence.runAll, List.foldl_nil]

end Tracker

end Keypad
