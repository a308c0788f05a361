import Keypad.Proofs.Tracker.Starting

namespace Keypad

namespace SessionTable

/-- Nothing is tracked outside of the current place, and there not both. -/
structure OneTracked (t : SessionTable) : Prop where
  within : t.active.toNat < maxSessions
  current : ¬ (t.current.trackingWork = true ∧ t.current.trackingMeeting = true)
  elsewhere :
    ∀ place s, place ≠ t.active.toNat → t.session? place = some s → s.isTracking = false

variable {t : SessionTable}

theorem current_of_session? {s : Session} (here : t.session? t.active.toNat = some s) :
    t.current = s := by
  rw [session?] at here
  rw [SessionTable.current, here, Option.getD_some]

theorem OneTracked.factory : SessionTable.factory.OneTracked := by
  refine ⟨by decide, by decide, ?_⟩
  intro place s _ found
  obtain ⟨within, rfl⟩ := Vector.getElem?_eq_some_iff.1 found
  have empty : SessionTable.factory.sessions[place] = {} := Vector.getElem_replicate within
  rw [empty]
  rfl

namespace OneTracked

variable (one : t.OneTracked)
include one

theorem setCurrent {s : Session} (single : ¬ (s.trackingWork = true ∧ s.trackingMeeting = true)) :
    (t.setCurrent s).OneTracked := by
  refine ⟨one.within, ?_, ?_⟩
  · rwa [current_setCurrent one.within]
  · intro place s' other found
    rw [session?_setCurrent_of_ne (t := t) other] at found
    exact one.elsewhere place s' other found

theorem opened (idle : t.current.isTracking = false) (date : DateTime) :
    (t.opened date).OneTracked := by
  refine ⟨t.active_opened_lt date, ?_, ?_⟩
  · simp [current_opened]
  · intro place s other found
    have kept : t.session? place = some s := by
      rwa [SessionTable.opened, session?_setCurrent_of_ne (by exact other)] at found
    by_cases here : place = t.active.toNat
    · subst here
      rwa [current_of_session? kept] at idle
    · exact one.elsewhere place s here kept

theorem session {place : Nat} {s : Session} (found : t.session? place = some s) :
    ¬ (s.trackingWork = true ∧ s.trackingMeeting = true) := by
  by_cases here : place = t.active.toNat
  · subst here
    rw [← current_of_session? found]
    exact one.current
  · have idle := one.elsewhere place s here found
    simp only [Session.isTracking, Bool.or_eq_false_iff] at idle
    simp [idle.1]

end OneTracked

end SessionTable

namespace Tracker

open Light (shown)

variable {g : Geometry} {d d' : Device g} {up later : Bool}

theorem keys_apart :
    workKey ≠ meetingKey ∧ meetingKey ≠ workKey ∧ functionKey ≠ workKey ∧
      functionKey ≠ meetingKey := by decide

structure ShowsTracked (d : Device g) : Prop where
  work : (shown workKey d.lights).isSome = d.tracker.table.current.trackingWork
  meeting : (shown meetingKey d.lights).isSome = d.tracker.table.current.trackingMeeting

/-- One thing at a time is tracked, and while the tracker is up its lights show which. -/
structure Orderly (up : Bool) (d : Device g) : Prop where
  table : d.tracker.table.OneTracked
  lights : up = true → ShowsTracked d

namespace Orderly

theorem of_setCurrent {s : Session} (orderly : Orderly up d)
    (table : d'.tracker.table = d.tracker.table.setCurrent s)
    (single : ¬ (s.trackingWork = true ∧ s.trackingMeeting = true))
    (lights : up = true → (shown workKey d'.lights).isSome = s.trackingWork ∧
      (shown meetingKey d'.lights).isSome = s.trackingMeeting) : Orderly up d' := by
  have current : d'.tracker.table.current = s := by
    rw [table, SessionTable.current_setCurrent orderly.table.within]
  refine ⟨table ▸ orderly.table.setCurrent single, ?_⟩
  intro is_up
  obtain ⟨work, meeting⟩ := lights is_up
  exact ⟨current ▸ work, current ▸ meeting⟩

theorem dateSession (orderly : Orderly up d) : Orderly up (dateSession d) := by
  obtain ⟨date, dates⟩ := dateSession_eq d
  rw [dates]
  refine orderly.of_setCurrent rfl orderly.table.current ?_
  exact fun is_up => ⟨(orderly.lights is_up).work, (orderly.lights is_up).meeting⟩

theorem stopTracking (orderly : Orderly up d) : Orderly up (stopTracking d) := by
  have single := orderly.table.current
  refine orderly.of_setCurrent (table_stopTracking d) (by simp [Session.stopped]) ?_
  intro is_up
  obtain ⟨work, meeting⟩ := orderly.lights is_up
  simp only [Tracker.stopTracking, Session.stopped]
  cases working : d.tracker.table.current.trackingWork with
  | true => simp_all [keys_apart]
  | false =>
    cases meets : d.tracker.table.current.trackingMeeting with
    | true => simp_all [keys_apart]
    | false => simp_all

theorem toggle (orderly : Orderly up d) (work : Bool) : Orderly up (toggle d work) := by
  have single := orderly.table.current
  cases work <;>
  · simp only [Tracker.toggle, Session.tracking, Session.track, trackingKey, Bool.not_true,
      Bool.not_false, Bool.false_eq_true, if_true, if_false]
    split
    · refine orderly.of_setCurrent rfl (by simp_all) ?_
      intro is_up
      obtain ⟨work, meeting⟩ := orderly.lights is_up
      simp_all [keys_apart]
    · split <;>
      · refine orderly.of_setCurrent rfl (by simp) ?_
        intro is_up
        obtain ⟨work, meeting⟩ := orderly.lights is_up
        simp_all [keys_apart]

theorem of_eq (orderly : Orderly up d) (table : d'.tracker.table = d.tracker.table)
    (work : shown workKey d'.lights = shown workKey d.lights)
    (meeting : shown meetingKey d'.lights = shown meetingKey d.lights) : Orderly up d' := by
  constructor
  · rw [table]
    exact orderly.table
  · intro is_up
    have shows := orderly.lights is_up
    constructor
    · rw [work, table]
      exact shows.work
    · rw [meeting, table]
      exact shows.meeting

theorem thresholds (orderly : Orderly up d) (mediumMs longMs : UInt64)
    (table : d'.tracker.table = { d.tracker.table with mediumMs, longMs })
    (lights : d'.lights = d.lights) : Orderly up d' := by
  obtain ⟨one, shows⟩ := orderly
  refine ⟨table ▸ ⟨one.within, one.current, one.elsewhere⟩, ?_⟩
  intro is_up
  obtain ⟨work, meeting⟩ := shows is_up
  constructor
  · rw [lights, table]
    exact work
  · rw [lights, table]
    exact meeting

theorem showHours (orderly : Orderly up d) : Orderly up (showHours d).2 := by
  simp only [Tracker.showHours]
  split
  · exact orderly
  · split
    · exact orderly
    · exact orderly.of_eq rfl (Light.shown_blink ..) (Light.shown_blink ..)

theorem openSession (orderly : Orderly up d) : Orderly up (openSession d).2 := by
  obtain ⟨table, lights⟩ := orderly.stopTracking
  have idle : (Tracker.stopTracking d).tracker.table.current.isTracking = false := by
    rw [table_stopTracking, SessionTable.current_setCurrent orderly.table.within]
    exact Session.isTracking_stopped orderly.table.current
  refine ⟨table.opened idle _, ?_⟩
  intro is_up
  obtain ⟨work, meeting⟩ := lights is_up
  obtain ⟨no_work, no_meeting⟩ := Bool.or_eq_false_iff.1 idle
  have opened : (Tracker.openSession d).2.tracker.table.current = { date := d.today } := by
    obtain ⟨⟨t, -, saves⟩, -⟩ := openSession_opens d
    rw [saves.tracker_eq]
    exact SessionTable.current_opened t d.today
  have dark : (Tracker.openSession d).2.lights =
      .off functionKey :: (Tracker.stopTracking d).lights := rfl
  constructor
  · rw [opened, dark, Light.shown_off, if_neg keys_apart.2.2.1, work, no_work]
  · rw [opened, dark, Light.shown_off, if_neg keys_apart.2.2.2, meeting, no_meeting]

theorem press (orderly : Orderly up d) (event : ButtonEvent) : Orderly up (press d event).2 := by
  have dated := orderly.dateSession
  simp only [Tracker.press]
  split
  · split
    · exact dated.openSession.of_eq rfl (Light.shown_blink ..) (Light.shown_blink ..)
    · exact dated.showHours
  · split
    · exact dated
    · split
      · exact dated.toggle true
      · split
        · exact dated.toggle false
        · exact dated

theorem tick (orderly : Orderly up d) : Orderly up (tick d).2 := by
  obtain ⟨-, same⟩ | failed | ⟨s, ms, d', answer, counts⟩ := tick_counts d
  · rw [same]
    exact orderly
  · rw [failed]
    exact orderly
  · rw [answer]
    have within := orderly.table.within
    obtain ⟨work, meeting⟩ := counts.tracking within
    have current : d'.tracker.table.current = (reach d.tracker.table ms s).2 := by
      rw [counts.table, SessionTable.current_setCurrent within]
    rw [current] at work meeting
    -- What a tick shows, it shows at the function key.
    have beside : ∀ key, functionKey ≠ key → shown key d'.lights = shown key d.lights := by
      intro key other
      rw [counts.lights]
      cases (reach d.tracker.table ms s).1 with
      | none => rfl
      | some color =>
        show shown key (.on functionKey color :: d.lights) = _
        rw [Light.shown_on, if_neg other]
    refine orderly.of_setCurrent counts.table ?_ ?_
    · rw [work, meeting]
      exact orderly.table.current
    · intro is_up
      have shows := orderly.lights is_up
      rw [beside _ keys_apart.2.2.1, beside _ keys_apart.2.2.2, work, meeting]
      exact ⟨shows.work, shows.meeting⟩

/-- Coming up on a table in order. What was tracked is stopped, and all is dark. -/
theorem start (one : (load d).tracker.table.OneTracked) : Orderly true (start d) := by
  obtain ⟨date, table⟩ := table_start d
  obtain ⟨no_work, no_meeting⟩ := Bool.or_eq_false_iff.1 (Session.isTracking_stopped one.current)
  have current := SessionTable.current_setCurrent one.within
    { (load d).tracker.table.current.stopped with date }
  rw [← table] at current
  refine ⟨table ▸ one.setCurrent (by simp [no_work]), ?_⟩
  intro _
  constructor
  · rw [current, dark_start d (by simp)]
    exact no_work.symm
  · rw [current, dark_start d (by simp)]
    exact no_meeting.symm

end Orderly

inductive Occurrence where
  | event (event : Event)
  | restart (input : Input) (longPressMs : UInt32) (board : List ButtonConfig) (today : DateTime)

namespace Occurrence

def run (d : Device g) : Occurrence → Device g
  | .event e => e.run d
  | .restart input longPressMs board today =>
    match Store.attach d.settings.store.chip with
    | .ok store => .boot store input longPressMs board today
    | .error _ => d

/-- Whether the tracker is up afterwards: it came up, and has neither gone down nor been restarted
since. -/
def leavesUp (up : Bool) : Occurrence → Bool
  | .event .start | .event (.reboot ..) => true
  | .event .stop | .restart .. => false
  | .event _ => up

def runAll (d : Device g) (occurrences : List Occurrence) : Device g :=
  occurrences.foldl run d

def upAfter (occurrences : List Occurrence) : Bool := occurrences.foldl leavesUp true

end Occurrence

structure Sound (up : Bool) (d : Device g) : Prop where
  healthy : d.settings.store.Healthy
  running : d.tracker.running = up
  memory : Orderly up d
  stored : (storedTable d).magic = recordMagic → (storedTable d).OneTracked

namespace Sound

theorem next (sound : Sound up d) (running : d'.tracker.running = later)
    (memory : Orderly later d')
    (stores : d'.settings.store = d.settings.store ∨ Saves d d'.tracker d') : Sound later d' := by
  obtain same | saves := stores
  · refine ⟨same ▸ sound.healthy, running, memory, ?_⟩
    rw [storedTable, same]
    exact sound.stored
  · have saved := saves.saved sound.healthy
    refine ⟨saved.healthy, running, memory, ?_⟩
    rw [storedTable_of_saved memory.table.within saved]
    exact fun _ => memory.table

theorem retouches (sound : Sound up d) (memory : Orderly up d') (retouches : Retouches d d') :
    Sound up d' :=
  sound.next (retouches.running.trans sound.running) memory (.inl retouches.store)

theorem saves {tracker : Tracker} (sound : Sound up d) (saves : Saves d tracker d')
    (running : tracker.running = later) (memory : Orderly later d') : Sound later d' := by
  have tracker_eq := saves.tracker_eq
  subst tracker_eq
  exact sound.next running memory (.inr saves)

theorem press (sound : Sound up d) (event : ButtonEvent) : Sound up (press d event).2 := by
  have memory := sound.memory.press event
  cases press_pressed d event with
  | retouched _ retouches => exact sound.retouches memory retouches
  | opened _ _ opens =>
    obtain ⟨⟨t, -, saves⟩, -⟩ := opens
    exact sound.saves saves sound.running memory

theorem handle (sound : Sound up d) : Sound up (handle d).2 := by
  have drained : Sound up d.drain.2 :=
    sound.retouches (sound.memory.of_eq rfl rfl rfl) (drain_retouches d)
  exact pressAll_induction (P := Sound up) (fun _ event before => before.press event) _ drained

theorem tick (sound : Sound up d) : Sound up (tick d).2 := by
  have memory := sound.memory.tick
  obtain ticked | same := tick_cases d
  · cases ticked with
    | idle _ same =>
      rw [same]
      exact sound
    | counted _ _ _ _ tracker store =>
      refine sound.next ?_ memory (.inl store)
      rw [tracker]
      exact sound.running
    | saved _ _ _ _ saves => exact sound.saves saves sound.running memory
  · rw [same]
    exact sound

theorem openSession (sound : Sound up d) : Sound up (openSession d).2 := by
  obtain ⟨⟨t, -, saves⟩, -⟩ := openSession_opens d
  exact sound.saves saves sound.running sound.memory.openSession

theorem stop (sound : Sound up d) : Sound false (stop d) :=
  sound.saves (stop_saves d) rfl ⟨sound.memory.table, nofun⟩

theorem start (healthy : d.settings.store.Healthy)
    (stored : (storedTable d).magic = recordMagic → (storedTable d).OneTracked) :
    Sound true (start d) := by
  have one : (load d).tracker.table.OneTracked := by
    rw [table_load healthy.fits, found_of_healthy healthy]
    split
    · next valid => exact stored valid
    · exact .factory
  have memory := Orderly.start one
  have running := running_start d
  cases (start_started healthy).1 with
  | loaded _ _ store =>
    have kept : storedTable (Tracker.start d) = storedTable d := by
      rw [storedTable, store, storedTable]
    refine ⟨?_, running, memory, ?_⟩
    · rw [store]
      exact healthy
    · rw [kept]
      exact stored
  | reset _ _ store =>
    have saved := (healthy.save (by decide) .sessionTable SessionTable.factory).2
    rw [← store] at saved
    refine ⟨saved.healthy, running, memory, ?_⟩
    rw [storedTable_of_saved (by decide) saved]
    exact fun _ => .factory

theorem boot {store : Store g} (sound : Sound up d)
    (attached : Store.attach d.settings.store.chip = .ok store) (input : Input)
    (longPressMs : UInt32) (board : List ButtonConfig) (today : DateTime) :
    Sound false (.boot store input longPressMs board today) := by
  obtain ⟨healthy, stored⟩ := storedTable_boot sound.healthy attached input longPressMs board today
  refine ⟨healthy, rfl, ⟨.factory, nofun⟩, ?_⟩
  rw [stored]
  exact sound.stored

theorem event (sound : Sound up d) (event : Event) :
    Sound (Occurrence.leavesUp up (.event event)) (event.run d) := by
  cases event with
  | outside input today => exact ⟨sound.healthy, sound.running, sound.memory.of_eq rfl rfl rfl,
      sound.stored⟩
  | press event => exact sound.press event
  | handle => exact sound.handle
  | tick => exact sound.tick
  | openSession => exact sound.openSession
  | setMediumMs ms =>
    have memory : Orderly up (Tracker.setMediumMs d ms).2 := sound.memory.thresholds ms _ rfl rfl
    exact sound.saves (setMediumMs_saves d ms) sound.running memory
  | setLongMs ms =>
    have memory : Orderly up (Tracker.setLongMs d ms).2 := sound.memory.thresholds _ ms rfl rfl
    exact sound.saves (setLongMs_saves d ms) sound.running memory
  | stop => exact sound.stop
  | start => exact .start sound.healthy sound.stored
  | reboot input longPressMs board today =>
    obtain ⟨store, attached, -⟩ := Store.attach_of_fits _ sound.healthy.fits
    have booted := sound.boot attached input longPressMs board today
    rw [Event.run, attached]
    exact .start booted.healthy booted.stored

theorem occurrence (sound : Sound up d) (occurrence : Occurrence) :
    Sound (occurrence.leavesUp up) (occurrence.run d) := by
  cases occurrence with
  | event event => exact sound.event event
  | restart input longPressMs board today =>
    obtain ⟨store, attached, -⟩ := Store.attach_of_fits _ sound.healthy.fits
    rw [Occurrence.run, attached]
    exact sound.boot attached input longPressMs board today

theorem runAll (sound : Sound up d) (occurrences : List Occurrence) :
    Sound (occurrences.foldl Occurrence.leavesUp up) (Occurrence.runAll d occurrences) := by
  induction occurrences generalizing d up with
  | nil => exact sound
  | cons occurrence rest ih => exact ih (sound.occurrence occurrence)

end Sound

/-- From a chip without a table of sessions on, whatever goes on: no session is ever tracked as work
and as meetings, none but the current one is tracked, and while the tracker is up its lights show
it. -/
theorem one_tracked_and_shown (d : Device g) (fits : g.Fits d.settings.store.chip.capacity)
    (faultless : ∀ f ∈ d.settings.store.chip.faults, f.count = 0)
    (invalid : (storedTable d).magic ≠ recordMagic) (occurrences : List Occurrence) :
    let later := Occurrence.runAll (start d) occurrences
    let up := Occurrence.upAfter occurrences
    (∀ place s, later.tracker.table.session? place = some s →
        ¬ (s.trackingWork = true ∧ s.trackingMeeting = true)) ∧
      Orderly up later ∧ later.tracker.running = up := by
  intro later up
  have started : Sound true (start d) :=
    .start ⟨fits, faultless⟩ fun valid => absurd valid invalid
  have sound : Sound up later := started.runAll occurrences
  exact ⟨fun _ _ => sound.memory.table.session, sound.memory, sound.running⟩

/-- A chip on which no valid table is stored, and a restart while work is tracked. -/
theorem one_tracked_and_shown_restarted :
    ∃ d : Device Bench.Layout.unit.geometry,
      Bench.Layout.unit.geometry.Fits d.settings.store.chip.capacity ∧
      (∀ f ∈ d.settings.store.chip.faults, f.count = 0) ∧
      (storedTable d).magic ≠ recordMagic ∧
      Orderly true (Occurrence.runAll (start d)
        [.event (.press ⟨workKey, false⟩), .restart (.script {}) 500 [] { year := 2025 },
          .event .start, .event (.press ⟨meetingKey, false⟩)]) := by
  obtain ⟨d, ⟨fits, faultless⟩, stored⟩ :=
    exists_stored { SessionTable.factory with magic := 0 } (by decide)
  have invalid : (storedTable d).magic ≠ recordMagic := by
    rw [stored]
    decide
  obtain ⟨-, orderly, -⟩ := one_tracked_and_shown d fits faultless invalid
    [.event (.press ⟨workKey, false⟩), .restart (.script {}) 500 [] { year := 2025 },
      .event .start, .event (.press ⟨meetingKey, false⟩)]
  exact ⟨d, fits, faultless, invalid, orderly⟩

end Tracker

end Keypad
