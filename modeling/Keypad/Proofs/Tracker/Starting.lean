import Keypad.Proofs.Tracker.Colors

/-! How the time tracker comes up. It finds the stored table or begins a new one, its lights are
dark, and what was tracked when the table was stored is stopped. Only one kind is ever stopped: of a
stored session that says to track both, the meetings go on. -/
namespace Keypad

open Flash (strike)
open Light (shown)

namespace Session

/-- The session when its tracking is stopped. Where both are tracked, the meetings go on. -/
def stopped (s : Session) : Session :=
  { s with trackingWork := false, trackingMeeting := s.trackingWork && s.trackingMeeting }

theorem isTracking_stopped {s : Session}
    (single : ¬ (s.trackingWork = true ∧ s.trackingMeeting = true)) :
    s.stopped.isTracking = false := by
  simpa [isTracking, stopped] using single

end Session

namespace Tracker

variable {g : Geometry} {d d' : Device g}

/-- The table that coming up finds: the stored one where it can be read and is valid, or an empty
one. -/
def found (d : Device g) : SessionTable :=
  if (strike .read d.settings.store.chip.faults).1.isNone ∧ (storedTable d).magic = recordMagic then
    storedTable d
  else .factory

theorem found_of_healthy (healthy : d.settings.store.Healthy) :
    found d = if (storedTable d).magic = recordMagic then storedTable d else .factory := by
  have read := Flash.strike_of_spent .read _ healthy.faultless
  simp only [found, read, Option.isNone_none, true_and]

theorem table_load (fits : g.Fits d.settings.store.chip.capacity) :
    (load d).tracker.table = found d := by
  unfold found
  rcases struck : strike .read d.settings.store.chip.faults with ⟨_ | f, rest⟩
  · simp only [load, Device.onStore_eq,
      Store.get_passed fits SessionTable .sessionTable struck, Option.isNone_none, true_and]
    rw [← storedTable]
    split <;> rfl
  · have unread := Store.slot_struck (g.kind_lt .sessionTable) struck
    simp only [load, Device.onStore_eq, Store.get, unread, Option.isNone_some,
      Bool.false_eq_true, false_and, if_false]
    rfl

@[simp] theorem lights_setCurrent (d : Device g) (s : Session) :
    (setCurrent d s).lights = d.lights := rfl

theorem table_stopTracking (d : Device g) :
    (stopTracking d).tracker.table =
      d.tracker.table.setCurrent d.tracker.table.current.stopped := by
  have same := SessionTable.setCurrent_current d.tracker.table
  simp only [stopTracking, Session.stopped]
  generalize d.tracker.table.current = s at same ⊢
  obtain ⟨work, meeting, date, working, meets, medium, long⟩ := s
  cases working with
  | true => rfl
  | false =>
    cases meets with
    | true => rfl
    | false => exact same.symm

/-- Whatever is stored and whatever fails, the table that coming up goes on with is in bounds. -/
theorem within_load (d : Device g) : (load d).tracker.table.active.toNat < maxSessions := by
  simp only [load, Device.onStore_eq, Store.get]
  generalize d.settings.store.slot _ = r
  obtain ⟨_ | bytes, store⟩ := r
  · show SessionTable.factory.active.toNat < maxSessions
    decide
  · have read := SessionTable.active_decode_lt (bytes.toList.take (Record.size SessionTable))
    simp only
    split
    · exact read
    · show SessionTable.factory.active.toNat < maxSessions
      decide

theorem table_stopped (within : d.tracker.table.active.toNat < maxSessions) :
    ∃ date,
      (dateSession ((stopTracking (darken d)).light (.mode .byFeature))).tracker.table =
        d.tracker.table.setCurrent { d.tracker.table.current.stopped with date } := by
  let stopping := (stopTracking (darken d)).light (.mode .byFeature)
  have table : stopping.tracker.table =
      d.tracker.table.setCurrent d.tracker.table.current.stopped :=
    table_stopTracking (darken d)
  have current : stopping.tracker.table.current = d.tracker.table.current.stopped := by
    rw [table, SessionTable.current_setCurrent within]
  obtain ⟨date, dates⟩ := dateSession_eq stopping
  refine ⟨date, ?_⟩
  rw [dates, current]
  show stopping.tracker.table.setCurrent _ = _
  rw [table, SessionTable.setCurrent_setCurrent]

theorem table_start (d : Device g) :
    ∃ date,
      (start d).tracker.table =
        (load d).tracker.table.setCurrent { (load d).tracker.table.current.stopped with date } := by
  obtain ⟨date, table⟩ := table_stopped (within_load d)
  exact ⟨date, by simp only [start, table]⟩

theorem within_start (d : Device g) : (start d).tracker.table.active.toNat < maxSessions := by
  obtain ⟨date, table⟩ := table_start d
  rw [table]
  exact within_load d

theorem current_start (fits : g.Fits d.settings.store.chip.capacity) :
    ∃ date, (start d).tracker.table.current = { (found d).current.stopped with date } := by
  obtain ⟨date, table⟩ := table_start d
  refine ⟨date, ?_⟩
  rw [table, ← table_load fits]
  exact SessionTable.current_setCurrent (within_load d) _

/-- Work, or else meetings, can be tracked as soon as the tracker has come up, if only one of them
was when it went down. -/
theorem start_toggles {e : Device g} {work : Bool} (fits : g.Fits d.settings.store.chip.capacity)
    (same : e.tracker = (start d).tracker) (queued : e.drain.1 = [⟨trackingKey work, false⟩])
    (off : (found d).current.stopped.tracking work = false) :
    ∃ d', handle e = (.ok (), d') ∧ Retouches e d' ∧ tracks d' = true ∧
      d'.tracker.table.active.toNat < maxSessions ∧
      d'.tracker.table.current.totalUs = (found d).current.totalUs := by
  obtain ⟨date, current⟩ := current_start fits
  have running : e.tracker.running = true := by
    rw [same]
    exact running_start d
  have within : e.tracker.table.active.toNat < maxSessions := by
    rw [same]
    exact within_start d
  have idle : e.tracker.table.current.tracking work = false := by
    rw [same, current]
    cases work <;> exact off
  obtain ⟨d', handled, retouches, tracked⟩ := handle_toggles queued running within idle
  refine ⟨d', handled, retouches, tracked, ?_, ?_⟩
  · rw [retouches.table.active_eq]
    exact within
  · rw [(retouches.table.sameTimes.current within).totalUs_eq, same, current]
    rfl

theorem lights_dateSession (d : Device g) : (dateSession d).lights = d.lights := by
  obtain ⟨date, dates⟩ := dateSession_eq d
  rw [dates, lights_setCurrent]

/-- The lights of the keys are off once the tracker has come up. -/
theorem dark_start (d : Device g) {key : UInt8}
    (member : key ∈ [workKey, meetingKey, functionKey]) : shown key (start d).lights = none := by
  have dated := lights_dateSession ((stopTracking (darken (load d))).light (.mode .byFeature))
  have dark : shown key (darken (load d)).lights = none := by
    simp only [List.mem_cons, List.not_mem_nil, or_false] at member
    obtain rfl | rfl | rfl := member <;> rfl
  rw [start]
  simp only [dated, Device.lights_light, Light.shown_mode]
  generalize darken (load d) = e at dark ⊢
  rw [stopTracking]
  split
  · simp [dark]
  · split <;> simp [dark]

structure Meets (s : Session) (n : Nat) (d : Device g) : Prop where
  running : d.tracker.running = true
  within : d.tracker.table.active.toNat < maxSessions
  working : d.tracker.table.current.trackingWork = false
  meeting : d.tracker.table.current.trackingMeeting = true
  workUs : d.tracker.table.current.workUs = s.workUs
  meetingUs : d.tracker.table.current.meetingUs.toNat = s.meetingUs.toNat + n * 250000

theorem Meets.tick {s : Session} {n : Nat} (meets : Meets s n d)
    (room : s.totalUs + (n + 1) * 250000 < UInt64.size) :
    ∃ d', tick d = (.ok (), d') ∧ Meets s (n + 1) d' := by
  obtain ⟨running, within, working, meeting, workUs, meetingUs⟩ := meets
  have tracking : d.tracker.table.current.isTracking = true := by
    simp [Session.isTracking, meeting]
  have total : d.tracker.table.current.totalUs = s.totalUs + n * 250000 := by
    rw [Session.totalUs, workUs, meetingUs, Session.totalUs]
    omega
  have tracked : tracks d = true := by simp [tracks, running, tracking]
  obtain ⟨s', ms, d', ticks, counts⟩ := exists_counts tracked (by unfold usPerTick; omega)
  have counted := Session.counted_of_ticked tracking counts.ticked
  refine ⟨d', ticks, ?_⟩
  obtain ⟨work_flag, meeting_flag⟩ := counts.tracking within
  have current := (counts.table ▸ SessionTable.current_setCurrent within _ :
    d'.tracker.table.current = (reach d.tracker.table ms s').2)
  have later := counted.sameTime (reach_sameTime d.tracker.table ms s')
  rw [← current, Session.Counted, working, if_neg Bool.false_ne_true] at later
  obtain ⟨same, more⟩ := later
  constructor
  · exact counts.running.trans running
  · rw [counts.table]
    exact within
  · exact work_flag.trans working
  · exact meeting_flag.trans meeting
  · exact same.trans workUs
  · omega

theorem Meets.ticks {s : Session} {n : Nat} (more : Nat) (meets : Meets s n d)
    (room : s.totalUs + (n + more) * 250000 < UInt64.size) :
    ∃ d', Bench.ticks Tracker.tick more d = (.ok (), d') ∧ Meets s (n + more) d' := by
  induction more generalizing d n with
  | zero => exact ⟨d, rfl, meets⟩
  | succ more ih =>
    have sum : n + 1 + more = n + (more + 1) := by omega
    have first := Nat.mul_le_mul_right 250000 (Nat.le_add_right (n + 1) more)
    rw [← sum] at room ⊢
    obtain ⟨between, ticked, counted⟩ :=
      meets.tick (Nat.lt_of_le_of_lt (Nat.add_le_add_left first s.totalUs) room)
    obtain ⟨d', rest, met⟩ := ih counted room
    refine ⟨d', ?_, met⟩
    rw [Bench.ticks, ticked]
    exact rest

/-- A tracker that has come up where its table had this session: what it tracks, and what ticks do
before anything else happens. -/
structure Resumes (s : Session) (d : Device g) : Prop where
  work : d.tracker.table.current.trackingWork = false
  meeting : d.tracker.table.current.trackingMeeting = (s.trackingWork && s.trackingMeeting)
  idle :
    s.trackingWork = false ∨ s.trackingMeeting = false → ∀ d' : Device g, d'.tracker = d.tracker →
      ∀ n, Bench.ticks tick n d' = (.ok (), d')
  counts :
    s.trackingWork = true → s.trackingMeeting = true → ∀ n, s.totalUs + n * 250000 < 2 ^ 64 →
      ∃ d', Bench.ticks tick n d = (.ok (), d') ∧
        d'.tracker.table.current.meetingUs.toNat = s.meetingUs.toNat + n * 250000

theorem ticks_of_idle (idle : tracks d = false) (n : Nat) : Bench.ticks tick n d = (.ok (), d) := by
  induction n with
  | zero => rfl
  | succ n ih => simp only [Bench.ticks, tick_of_idle idle, ih]

/-- Whatever the chip holds, and whatever fails while the tracker comes up: no work is tracked then,
and no meetings either unless the stored session says that both are. -/
theorem start_stops_work (d : Device g) (fits : g.Fits d.settings.store.chip.capacity) :
    Resumes (found d).current (start d) := by
  obtain ⟨date, current⟩ := current_start fits
  refine ⟨by rw [current]; rfl, by rw [current]; rfl, ?_, ?_⟩
  · intro single d' same
    apply ticks_of_idle
    have stopped := Session.isTracking_stopped (s := (found d).current) (by
      obtain off | off := single <;> simp [off])
    rw [tracks, same, current, Bool.and_eq_false_iff]
    exact .inr stopped
  · intro working meeting n room
    have met : Meets (found d).current 0 (start d) := by
      refine ⟨running_start d, within_start d, ?_, ?_, ?_, ?_⟩ <;> rw [current]
      · rfl
      · show ((found d).current.trackingWork && _) = true
        simp [working, meeting]
      · rfl
      · rfl
    obtain ⟨d', ticks, later⟩ := met.ticks n (by rw [Nat.zero_add]; exact room)
    rw [Nat.zero_add] at later
    exact ⟨d', ticks, later.meetingUs⟩

/-- A chip on which a session is stored that tracks both. -/
theorem start_stops_work_of_both :
    ∃ d : Device Bench.Layout.unit.geometry,
      Bench.Layout.unit.geometry.Fits d.settings.store.chip.capacity ∧
      (found d).current = { trackingWork := true, trackingMeeting := true } ∧
      Resumes (found d).current (start d) ∧
      (start d).tracker.table.current.trackingMeeting = true := by
  have within : SessionTable.factory.active.toNat < maxSessions := by decide
  let both : Session := { trackingWork := true, trackingMeeting := true }
  obtain ⟨d, healthy, stored⟩ := exists_stored (SessionTable.factory.setCurrent both) within
  have current : (found d).current = both := by
    rw [found_of_healthy healthy, stored, if_pos (by rfl)]
    exact SessionTable.current_setCurrent within both
  have resumes := start_stops_work d healthy.fits
  have meeting := resumes.meeting
  rw [current] at meeting
  exact ⟨d, healthy.fits, current, resumes, meeting⟩

end Tracker

end Keypad
