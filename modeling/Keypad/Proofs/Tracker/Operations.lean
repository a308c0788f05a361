import Keypad.Proofs.Storage.Records
import Keypad.Proofs.Tracker.Codec
import Keypad.Proofs.Tracker.Tables
import Keypad.Tracker.Basic

namespace Keypad

namespace Session

theorem sameTime_track (s : Session) (work on : Bool) : s.SameTime (s.track work on) := by
  cases work <;> exact ⟨rfl, rfl⟩

theorem counted_of_ticked {s s' : Session} (tracking : s.isTracking = true)
    (ticked : s.ticked? = some s') : s.Counted s' := by
  have us : (tickMs * usPerMs).toNat = 250000 := rfl
  unfold ticked? at ticked
  unfold Counted
  rw [us] at ticked
  cases working : s.trackingWork with
  | true =>
    simp only [working, if_true, Option.map_eq_some_iff] at ticked ⊢
    obtain ⟨later, after, rfl⟩ := ticked
    exact ⟨Micros.after?_eq_some_iff.1 after, rfl⟩
  | false =>
    have meeting : s.trackingMeeting = true := by simpa [isTracking, working] using tracking
    simp only [working, meeting, Bool.false_eq_true, if_false, if_true,
      Option.map_eq_some_iff] at ticked ⊢
    obtain ⟨later, after, rfl⟩ := ticked
    exact ⟨rfl, Micros.after?_eq_some_iff.1 after⟩

theorem tracking_of_ticked {s s' : Session} (ticked : s.ticked? = some s') :
    s'.trackingWork = s.trackingWork ∧ s'.trackingMeeting = s.trackingMeeting := by
  unfold ticked? at ticked
  split at ticked
  · obtain ⟨us, -, rfl⟩ := Option.map_eq_some_iff.1 ticked
    exact ⟨rfl, rfl⟩
  · split at ticked
    · obtain ⟨us, -, rfl⟩ := Option.map_eq_some_iff.1 ticked
      exact ⟨rfl, rfl⟩
    · obtain rfl := Option.some.inj ticked
      exact ⟨rfl, rfl⟩

end Session

namespace Tracker

variable {g : Geometry} {d d' d'' : Device g}

def storedTable (d : Device g) : SessionTable := d.settings.store.stored SessionTable .sessionTable

theorem storedTable_of_saved {store : Store g} {t : SessionTable}
    (within : t.active.toNat < maxSessions)
    (saved : store.Saved .sessionTable t d.settings.store) : storedTable d = t :=
  saved.stored_eq.trans (SessionTable.decode_encode within)

theorem exists_stored (t : SessionTable) (within : t.active.toNat < maxSessions) :
    ∃ d : Device Bench.Layout.unit.geometry, d.settings.store.Healthy ∧ storedTable d = t := by
  obtain ⟨blank, healthy⟩ := Bench.Layout.exists_healthy
  have saved := (healthy.save (by decide) .sessionTable t).2
  generalize (blank.save .sessionTable t).2 = store at saved
  let d : Device Bench.Layout.unit.geometry :=
    { settings := ⟨store, .script {}, 500, .ofBoard []⟩, today := { year := 2024 } }
  exact ⟨d, saved.healthy, storedTable_of_saved within saved⟩

/-- An operation that changes nothing but the session being tracked, and not its counters. What it
shows is left out. -/
structure Retouches (d d' : Device g) : Prop where
  table : d.tracker.table.Retouched d'.tracker.table
  intervals : d'.tracker.intervals = d.tracker.intervals
  running : d'.tracker.running = d.tracker.running
  store : d'.settings.store = d.settings.store
  active : d'.active = d.active
  today : d'.today = d.today

namespace Retouches

theorem refl (d : Device g) : Retouches d d := ⟨.refl _, rfl, rfl, rfl, rfl, rfl⟩

theorem trans (first : Retouches d d') (second : Retouches d' d'') : Retouches d d'' where
  table := first.table.trans second.table
  intervals := second.intervals.trans first.intervals
  running := second.running.trans first.running
  store := second.store.trans first.store
  active := second.active.trans first.active
  today := second.today.trans first.today

theorem light (l : Light) (retouches : Retouches d d') : Retouches d (d'.light l) :=
  ⟨retouches.table, retouches.intervals, retouches.running, retouches.store, retouches.active,
    retouches.today⟩

theorem setCurrent {s : Session} (same : d.tracker.table.current.SameTime s) :
    Retouches d (setCurrent d s) := ⟨.mk s same, rfl, rfl, rfl, rfl, rfl⟩

theorem darken (d : Device g) : Retouches d (darken d) :=
  (((refl d).light (.off workKey)).light (.off meetingKey)).light (.off functionKey)

theorem stopTracking (d : Device g) : Retouches d (stopTracking d) := by
  simp only [Tracker.stopTracking]
  split
  · apply light
    exact setCurrent ⟨rfl, rfl⟩
  · split
    · apply light
      exact setCurrent ⟨rfl, rfl⟩
    · exact refl d

theorem dateSession (d : Device g) : Retouches d (dateSession d) := by
  simp only [Tracker.dateSession]
  split
  · exact setCurrent ⟨rfl, rfl⟩
  · exact refl d

theorem toggle (d : Device g) (work : Bool) : Retouches d (toggle d work) := by
  simp only [Tracker.toggle]
  split
  · apply light
    exact setCurrent (Session.sameTime_track ..)
  · apply light
    have switched := (Session.sameTime_track d.tracker.table.current (!work) false).trans
      (Session.sameTime_track _ work true)
    split
    · exact ((refl d).light (.off (trackingKey !work))).trans (setCurrent switched)
    · exact setCurrent switched

theorem showHours (d : Device g) : Retouches d (showHours d).2 := by
  simp only [Tracker.showHours]
  split
  · exact refl d
  · split
    · exact refl d
    · exact (refl d).light _

end Retouches

theorem dateSession_eq (d : Device g) :
    ∃ date, dateSession d = setCurrent d { d.tracker.table.current with date } := by
  simp only [dateSession]
  split
  · exact ⟨_, rfl⟩
  · refine ⟨d.tracker.table.current.date, ?_⟩
    show d = setTable d (d.tracker.table.setCurrent d.tracker.table.current)
    rw [SessionTable.setCurrent_current]
    rfl

/-- An operation that leaves the tracker like this, with its table saved. -/
structure Saves (d : Device g) (tracker : Tracker) (d' : Device g) : Prop where
  tracker_eq : d'.tracker = tracker
  store : d'.settings.store = (d.settings.store.save .sessionTable tracker.table).2
  active : d'.active = d.active

theorem Saves.saved {tracker : Tracker} (healthy : d.settings.store.Healthy)
    (saves : Saves d tracker d') :
    d.settings.store.Saved .sessionTable tracker.table d'.settings.store := by
  rw [saves.store]
  exact (healthy.save (by decide) .sessionTable tracker.table).2

theorem setMediumMs_saves (d : Device g) (ms : UInt64) :
    Saves d { d.tracker with table.mediumMs := ms } (setMediumMs d ms).2 := ⟨rfl, rfl, rfl⟩

theorem setLongMs_saves (d : Device g) (ms : UInt64) :
    Saves d { d.tracker with table.longMs := ms } (setLongMs d ms).2 := ⟨rfl, rfl, rfl⟩

theorem stop_saves (d : Device g) : Saves d { d.tracker with running := false } (stop d) :=
  ⟨rfl, rfl, rfl⟩

theorem Saves.light {tracker : Tracker} (saves : Saves d tracker d') (l : Light) :
    Saves d tracker (d'.light l) := ⟨saves.tracker_eq, saves.store, saves.active⟩

structure Opens (d : Device g) (d' : Device g) : Prop where
  saves :
    ∃ t, d.tracker.table.Retouched t ∧
      Saves d ⟨t.opened d.today, d.tracker.intervals, d.tracker.running⟩ d'
  today : d'.today = d.today

theorem Opens.light (opens : Opens d d') (l : Light) : Opens d (d'.light l) := by
  obtain ⟨⟨t, retouched, saves⟩, today⟩ := opens
  exact ⟨⟨t, retouched, saves.light l⟩, today⟩

theorem Opens.of_retouches (first : Retouches d d') (opens : Opens d' d'') : Opens d d'' := by
  obtain ⟨⟨t, retouched, saves⟩, today⟩ := opens
  rw [first.today, first.intervals, first.running] at saves
  refine ⟨⟨t, first.table.trans retouched, ?_⟩, today.trans first.today⟩
  refine ⟨saves.tracker_eq, ?_, saves.active.trans first.active⟩
  rw [saves.store, first.store]

theorem openSession_opens (d : Device g) : Opens d (openSession d).2 := by
  apply Opens.of_retouches ((Retouches.stopTracking d).light (.off functionKey))
  exact ⟨⟨_, .refl _, rfl, rfl, rfl⟩, rfl⟩

/-- What a press of a key comes to: only a long one of the function key is more than a retouch. -/
inductive Pressed (d : Device g) (event : ButtonEvent) (d' : Device g) : Prop where
  | retouched :
      ¬ (event.key = functionKey ∧ event.long = true) → Retouches d d' → Pressed d event d'
  | opened : event.key = functionKey → event.long = true → Opens d d' → Pressed d event d'

theorem press_pressed (d : Device g) (event : ButtonEvent) : Pressed d event (press d event).2 := by
  have dated := Retouches.dateSession d
  simp only [press]
  generalize Tracker.dateSession d = between at dated ⊢
  by_cases function : event.key = functionKey
  · rw [if_pos function]
    cases long : event.long with
    | true =>
      rw [if_pos rfl]
      exact .opened function long (.of_retouches dated ((openSession_opens between).light _))
    | false =>
      rw [if_neg Bool.false_ne_true]
      exact .retouched (by simp [long]) (dated.trans (.showHours between))
  · rw [if_neg function]
    apply Pressed.retouched (by simp [function])
    split
    · exact dated
    · split
      · exact dated.trans (.toggle between true)
      · split
        · exact dated.trans (.toggle between false)
        · exact dated

theorem fst_drain (d : Device g) : d.drain.1 = d.settings.input.drain.1 := rfl

theorem drain_retouches (d : Device g) : Retouches d d.drain.2 :=
  ⟨.refl _, rfl, rfl, rfl, rfl, rfl⟩

inductive Answers : Device g → List ButtonEvent → Device g → Prop where
  | nil (d : Device g) : Answers d [] d
  | cons {d d' d'' : Device g} {event : ButtonEvent} {rest : List ButtonEvent} :
      Pressed d event d' → Answers d' rest d'' → Answers d (event :: rest) d''

theorem pressAll_answers {events : List ButtonEvent} (answered : pressAll d events = (.ok (), d')) :
    Answers d events d' := by
  induction events generalizing d with
  | nil =>
    obtain rfl : d = d' := congrArg Prod.snd answered
    exact .nil d
  | cons event rest ih =>
    have pressed := press_pressed d event
    rw [pressAll] at answered
    generalize press d event = r at pressed answered
    obtain ⟨_ | _, between⟩ := r
    · simp at answered
    · exact .cons pressed (ih answered)

theorem reach_sameTime (table : SessionTable) (ms : UInt64) (s : Session) :
    s.SameTime (reach table ms s).2 := by
  unfold reach
  split
  · exact ⟨rfl, rfl⟩
  · split
    · exact ⟨rfl, rfl⟩
    · exact ⟨rfl, rfl⟩

def unlessOverflow : Except CounterOverflow Unit × Device g → Option (Device g)
  | (.ok (), d) => some d
  | (.error _, _) => none

theorem unlessOverflow_eq_some {r : Except CounterOverflow Unit × Device g} {d : Device g}
    (passed : unlessOverflow r = some d) : r = (.ok (), d) := by
  obtain ⟨_ | _, after⟩ := r
  · simp [unlessOverflow] at passed
  · obtain rfl : after = d := Option.some.inj passed
    rfl

def tracks (d : Device g) : Bool := d.tracker.running && d.tracker.table.current.isTracking

/-- What a tick comes to that overflows no counter: nothing, or a session that counted on, saved by
every fourth tick that counts. -/
inductive Ticked (d : Device g) (d' : Device g) : Prop where
  | idle : tracks d = false → d' = d → Ticked d d'
  | counted (s : Session) :
      tracks d = true → d.tracker.table.current.Counted s → d.tracker.intervals + 1 < 4 →
      d'.tracker = ⟨d.tracker.table.setCurrent s, d.tracker.intervals + 1, d.tracker.running⟩ →
      d'.settings.store = d.settings.store → d'.active = d.active → Ticked d d'
  | saved (s : Session) :
      tracks d = true → d.tracker.table.current.Counted s → 4 ≤ d.tracker.intervals + 1 →
      Saves d ⟨d.tracker.table.setCurrent s, 0, d.tracker.running⟩ d' → Ticked d d'

theorem Ticked.countTick {between : Device g} {s : Session} (tracked : tracks d = true)
    (counted : d.tracker.table.current.Counted s)
    (tracker :
      between.tracker = ⟨d.tracker.table.setCurrent s, d.tracker.intervals, d.tracker.running⟩)
    (store : between.settings.store = d.settings.store) (active : between.active = d.active) :
    Ticked d (countTick between) := by
  unfold Tracker.countTick
  simp only [tracker, ticksPerSave]
  split
  · next room => exact .counted s tracked counted room rfl store active
  · next full =>
    refine .saved s tracked counted (Nat.not_lt.1 full) ⟨rfl, ?_, active⟩
    show (between.settings.store.save _ _).2 = _
    rw [store]

theorem tick_ticked (ticks : tick d = (.ok (), d')) : Ticked d d' := by
  simp only [tick] at ticks
  cases tracked : tracks d with
  | false =>
    rw [← tracks, tracked, if_neg Bool.false_ne_true] at ticks
    exact .idle tracked (congrArg Prod.snd ticks).symm
  | true =>
    have tracking : d.tracker.table.current.isTracking = true := (Bool.and_eq_true .. ▸ tracked).2
    rw [← tracks, tracked, if_pos rfl] at ticks
    cases ticked : d.tracker.table.current.ticked? with
    | none => simp [ticked] at ticks
    | some s =>
      simp only [ticked] at ticks
      cases total : s.trackedMs? with
      | none => simp [total] at ticks
      | some ms =>
        have counted := (Session.counted_of_ticked tracking ticked).sameTime
          (reach_sameTime d.tracker.table ms s)
        simp only [total] at ticks
        generalize reach d.tracker.table ms s = reached at counted ticks
        obtain ⟨_ | color, s'⟩ := reached
        · obtain rfl : Tracker.countTick (setCurrent d s') = d' := congrArg Prod.snd ticks
          exact .countTick tracked counted rfl rfl rfl
        · obtain rfl := congrArg Prod.snd ticks
          exact .countTick tracked counted rfl rfl rfl

theorem tracks_toggle {work : Bool} (running : d.tracker.running = true)
    (within : d.tracker.table.active.toNat < maxSessions)
    (idle : d.tracker.table.current.tracking work = false) : tracks (toggle d work) = true := by
  let s : Session := (d.tracker.table.current.track (!work) false).track work true
  have toggles : (toggle d work).tracker = (setCurrent d s).tracker := by
    simp only [toggle, idle, Bool.false_eq_true, if_false]
    split <;> rfl
  have current : (toggle d work).tracker.table.current = s := by
    rw [toggles]
    exact SessionTable.current_setCurrent within s
  rw [tracks, current, toggles]
  refine Bool.and_eq_true_iff.2 ⟨running, ?_⟩
  cases work <;> simp [s, Session.isTracking, Session.track]

/-- A short press of the key of work, or of that of meetings, turns on what is not being tracked. -/
theorem handle_toggles {work : Bool} (queued : d.drain.1 = [⟨trackingKey work, false⟩])
    (running : d.tracker.running = true) (within : d.tracker.table.active.toNat < maxSessions)
    (idle : d.tracker.table.current.tracking work = false) :
    ∃ d', handle d = (.ok (), d') ∧ Retouches d d' ∧ tracks d' = true := by
  have drained := drain_retouches d
  have dated := drained.trans (.dateSession d.drain.2)
  have pressed : press d.drain.2 ⟨trackingKey work, false⟩ =
      (.ok (), toggle (dateSession d.drain.2) work) := by
    cases work <;> rfl
  obtain ⟨date, dates⟩ := dateSession_eq d.drain.2
  have still : (dateSession d.drain.2).tracker.table.current.tracking work = false := by
    rw [dates]
    show (d.tracker.table.setCurrent _).current.tracking work = false
    rw [SessionTable.current_setCurrent within]
    exact idle
  refine ⟨toggle (dateSession d.drain.2) work, ?_, dated.trans (.toggle _ work), ?_⟩
  · simp only [handle, queued, pressAll, pressed]
  · exact tracks_toggle (dated.running.trans running) (dated.table.active_eq ▸ within) still

theorem tick_of_idle (idle : tracks d = false) : tick d = (.ok (), d) := by
  rw [tracks] at idle
  simp only [tick, idle, Bool.false_eq_true, if_false]

theorem reach_tracking (t : SessionTable) (ms : UInt64) (s : Session) :
    (reach t ms s).2.trackingWork = s.trackingWork ∧
      (reach t ms s).2.trackingMeeting = s.trackingMeeting := by
  unfold reach
  split
  · exact ⟨rfl, rfl⟩
  · split <;> exact ⟨rfl, rfl⟩

theorem lights_countTick (d : Device g) : (countTick d).lights = d.lights := by
  unfold countTick
  split <;> rfl

structure Counts (d : Device g) (s : Session) (ms : UInt64) (d' : Device g) : Prop where
  tracked : tracks d = true
  ticked : d.tracker.table.current.ticked? = some s
  total : s.trackedMs? = some ms
  table : d'.tracker.table = d.tracker.table.setCurrent (reach d.tracker.table ms s).2
  running : d'.tracker.running = d.tracker.running
  lights :
    d'.lights = (reach d.tracker.table ms s).1.toList.map (.on functionKey) ++ d.lights

theorem tracker_countTick (d : Device g) :
    (countTick d).tracker.table = d.tracker.table ∧
      (countTick d).tracker.running = d.tracker.running := by
  unfold countTick
  split <;> exact ⟨rfl, rfl⟩

theorem tick_of_tracked {s : Session} {ms : UInt64} (tracked : tracks d = true)
    (ticked : d.tracker.table.current.ticked? = some s) (total : s.trackedMs? = some ms) :
    ∃ d', tick d = (.ok (), d') ∧ Counts d s ms d' := by
  have counts : ∀ between : Device g,
      between.tracker.table = d.tracker.table.setCurrent (reach d.tracker.table ms s).2 →
      between.tracker.running = d.tracker.running →
      between.lights =
        (reach d.tracker.table ms s).1.toList.map (.on functionKey) ++ d.lights →
      Counts d s ms (countTick between) := by
    intro between table running lights
    obtain ⟨same_table, same_running⟩ := tracker_countTick between
    exact ⟨tracked, ticked, total, same_table.trans table, same_running.trans running,
      (lights_countTick between).trans lights⟩
  unfold tracks at tracked
  simp only [tick, tracked, if_true, ticked, total]
  generalize reach d.tracker.table ms s = reached at counts ⊢
  obtain ⟨_ | color, s'⟩ := reached
  · exact ⟨_, rfl, counts (setCurrent d s') rfl rfl rfl⟩
  · exact ⟨_, rfl, counts ((setCurrent d s').light (.on functionKey color)) rfl rfl rfl⟩

/-- A tick does nothing, or finds no room for what it counts, or counts. -/
theorem tick_counts (d : Device g) :
    tracks d = false ∧ tick d = (.ok (), d) ∨ tick d = (.error {}, d) ∨
      ∃ s ms d', tick d = (.ok (), d') ∧ Counts d s ms d' := by
  cases tracked : tracks d with
  | false => exact .inl ⟨rfl, tick_of_idle tracked⟩
  | true =>
    have counting : (d.tracker.running && d.tracker.table.current.isTracking) = true := tracked
    right
    cases ticked : d.tracker.table.current.ticked? with
    | none => exact .inl (by simp only [tick, counting, if_true, ticked])
    | some s =>
      cases total : s.trackedMs? with
      | none => exact .inl (by simp only [tick, counting, if_true, ticked, total])
      | some ms => exact .inr ⟨s, ms, tick_of_tracked tracked ticked total⟩

theorem Counts.tracking {s : Session} {ms : UInt64} (counts : Counts d s ms d')
    (within : d.tracker.table.active.toNat < maxSessions) :
    d'.tracker.table.current.trackingWork = d.tracker.table.current.trackingWork ∧
      d'.tracker.table.current.trackingMeeting = d.tracker.table.current.trackingMeeting := by
  obtain ⟨work, meeting⟩ := Session.tracking_of_ticked counts.ticked
  obtain ⟨reach_work, reach_meeting⟩ := reach_tracking d.tracker.table ms s
  rw [counts.table, SessionTable.current_setCurrent within]
  exact ⟨reach_work.trans work, reach_meeting.trans meeting⟩

theorem Counts.tracks {s : Session} {ms : UInt64} (counts : Counts d s ms d')
    (within : d.tracker.table.active.toNat < maxSessions) : tracks d' = true := by
  obtain ⟨work, meeting⟩ := counts.tracking within
  have tracked := counts.tracked
  rw [Tracker.tracks, Session.isTracking] at tracked ⊢
  rwa [counts.running, work, meeting]

theorem Counts.totalUs_eq {s : Session} {ms : UInt64} (counts : Counts d s ms d')
    (within : d.tracker.table.active.toNat < maxSessions) :
    d'.tracker.table.current.totalUs = d.tracker.table.current.totalUs + 250000 := by
  have tracking := (Bool.and_eq_true_iff.1 counts.tracked).2
  rw [counts.table, SessionTable.current_setCurrent within,
    (reach_sameTime d.tracker.table ms s).totalUs_eq,
    (Session.counted_of_ticked tracking counts.ticked).totalUs_eq]

theorem factoryReset_stores (healthy : d.settings.store.Healthy) :
    (factoryReset d).settings.store.Healthy ∧ storedTable (factoryReset d) = .factory := by
  have saved := (healthy.save (by decide) .sessionTable SessionTable.factory).2
  exact ⟨saved.healthy, storedTable_of_saved (by decide) saved⟩

/-- What coming up comes to: the stored table, or a new one that is saved, and its session
retouched. -/
inductive Started (d : Device g) (d' : Device g) : Prop where
  | loaded :
      (storedTable d).magic = recordMagic →
      (storedTable d).Retouched d'.tracker.table →
      d'.settings.store = d.settings.store → Started d d'
  | reset :
      (storedTable d).magic ≠ recordMagic →
      SessionTable.factory.Retouched d'.tracker.table →
      d'.settings.store = (d.settings.store.save .sessionTable SessionTable.factory).2 →
      Started d d'

theorem load_eq (healthy : d.settings.store.Healthy) :
    load d =
      if (storedTable d).magic = recordMagic then
        setTable d (storedTable d)
      else factoryReset d := by
  simp only [load, Device.onStore_eq, healthy.get SessionTable .sessionTable]
  rfl

theorem start_retouches (d : Device g) :
    ∃ e, Retouches (load d) e ∧
      start d = { e with tracker := { e.tracker with intervals := 0, running := true } } := by
  have dark := ((Retouches.darken (load d)).trans (.stopTracking _)).light (.mode .byFeature)
  exact ⟨_, dark.trans (.dateSession _), rfl⟩

theorem start_started (healthy : d.settings.store.Healthy) :
    Started d (start d) ∧ (start d).tracker.intervals = 0 ∧ (start d).tracker.running = true ∧
      (start d).active = d.active := by
  obtain ⟨e, retouches, starts⟩ := start_retouches d
  rw [starts]
  rw [load_eq healthy] at retouches
  by_cases valid : (storedTable d).magic = recordMagic
  · rw [if_pos valid] at retouches
    exact ⟨.loaded valid retouches.table retouches.store, rfl, rfl, retouches.active⟩
  · rw [if_neg valid] at retouches
    exact ⟨.reset valid retouches.table retouches.store, rfl, rfl, retouches.active⟩

/-- A time tracker that has come up has its sessions stored, whether it found any or not. -/
theorem start_stores (healthy : d.settings.store.Healthy) :
    d.settings.store.Keeps .sessionTable (start d).settings.store ∧
      (storedTable (start d)).magic = recordMagic := by
  obtain ⟨started, -⟩ := start_started healthy
  cases started with
  | loaded valid _ store =>
    rw [storedTable, store]
    exact ⟨healthy.keeps _, valid⟩
  | reset _ _ store =>
    have saved := (healthy.save (by decide) .sessionTable SessionTable.factory).2
    rw [← store] at saved
    exact ⟨saved.keeps, congrArg SessionTable.magic (storedTable_of_saved (by decide) saved)⟩

end Tracker

end Keypad
