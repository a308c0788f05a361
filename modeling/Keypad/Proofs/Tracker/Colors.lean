import Mathlib.Algebra.Order.Floor.Div
import Keypad.Bench.Layouts
import Keypad.Proofs.Lights
import Keypad.Proofs.Tracker.Headroom
import Keypad.Proofs.Tracker.Ring

namespace Keypad

namespace Session

theorem toNat_trackedMs {s : Session} {ms : UInt64} (tracked : s.trackedMs? = some ms) :
    ms.toNat = s.totalUs / 1000 := by
  obtain ⟨us, sum, rfl⟩ := Option.map_eq_some_iff.1 tracked
  rw [UInt64.toNat_div, Micros.after?_eq_some_iff.1 sum]
  rfl

theorem reached_of_ticked {s s' : Session} (ticked : s.ticked? = some s') :
    s'.mediumReached = s.mediumReached ∧ s'.longReached = s.longReached := by
  unfold ticked? at ticked
  split at ticked
  · obtain ⟨us, -, rfl⟩ := Option.map_eq_some_iff.1 ticked
    exact ⟨rfl, rfl⟩
  · split at ticked
    · obtain ⟨us, -, rfl⟩ := Option.map_eq_some_iff.1 ticked
      exact ⟨rfl, rfl⟩
    · obtain rfl := Option.some.inj ticked
      exact ⟨rfl, rfl⟩

end Session

namespace SessionTable

theorem Retouched.thresholds_eq {t t' : SessionTable} (retouched : t.Retouched t') :
    t'.mediumMs = t.mediumMs ∧ t'.longMs = t.longMs := by
  obtain ⟨s, -⟩ := retouched
  exact ⟨rfl, rfl⟩

/-- The tracked tick that reaches a threshold. -/
def tickReaching (ms : UInt64) : Nat := max 1 (ms.toNat ⌈/⌉ 250)

theorem tickReaching_le_iff {ms : UInt64} {n : Nat} (tracked : 0 < n) :
    tickReaching ms ≤ n ↔ ms.toNat ≤ 250 * n := by
  rw [tickReaching, max_le_iff, ceilDiv_le_iff_le_mul (by decide)]
  exact and_iff_right tracked

def yellowTick (t : SessionTable) : Nat := tickReaching t.mediumMs

/-- The tick that reaches the long threshold, unless that tick turns the key yellow. -/
def redTick (t : SessionTable) : Nat :=
  if tickReaching t.longMs = t.yellowTick then tickReaching t.longMs + 1
  else tickReaching t.longMs

theorem tickReaching_pos (ms : UInt64) : 0 < tickReaching ms :=
  Nat.lt_of_lt_of_le Nat.one_pos (Nat.le_max_left ..)

theorem yellowTick_pos (t : SessionTable) : 0 < t.yellowTick := tickReaching_pos t.mediumMs

theorem redTick_pos (t : SessionTable) : 0 < t.redTick := by
  have pos := tickReaching_pos t.longMs
  unfold redTick
  split <;> omega

theorem yellowTick_ne_redTick (t : SessionTable) : t.yellowTick ≠ t.redTick := by
  unfold redTick
  split <;> omega

/-- The color that a tracked tick turns the function key, counted from the opening of the
session. -/
def tickColor (t : SessionTable) (n : Nat) : Option Color :=
  if n = t.yellowTick then some .yellow
  else if n = t.redTick then some .red
  else none

end SessionTable

namespace Tracker

open SessionTable (tickReaching tickReaching_le_iff)

variable {g : Geometry} {o d d' d'' : Device g} {n : Nat}

/-- A session that knows of each threshold whether it was reached in so many ticks finds by the next
one what that tick is to show. -/
theorem reach_eq {t : SessionTable} {ms : UInt64} {s : Session} (total : ms.toNat = 250 * (n + 1))
    (medium : s.mediumReached = decide (t.yellowTick ≤ n))
    (long : s.longReached = decide (t.redTick ≤ n)) :
    reach t ms s =
      (t.tickColor (n + 1),
        { s with
          mediumReached := decide (t.yellowTick ≤ n + 1)
          longReached := decide (t.redTick ≤ n + 1) }) := by
  have medium_found : t.mediumMs ≤ ms ↔ t.yellowTick ≤ n + 1 := by
    rw [UInt64.le_iff_toNat_le, total]
    exact (tickReaching_le_iff (Nat.succ_pos n)).symm
  have long_found : t.longMs ≤ ms ↔ tickReaching t.longMs ≤ n + 1 := by
    rw [UInt64.le_iff_toNat_le, total]
    exact (tickReaching_le_iff (Nat.succ_pos n)).symm
  have apart := t.yellowTick_ne_redTick
  have red : t.redTick =
      if tickReaching t.longMs = t.yellowTick then tickReaching t.longMs + 1
      else tickReaching t.longMs := rfl
  obtain ⟨work, meeting, date, working, meets, _, _⟩ := s
  subst medium long
  simp only [reach, medium_found, long_found, SessionTable.tickColor, Bool.not_eq_true',
    decide_eq_false_iff_not]
  by_cases yellow : n + 1 = t.yellowTick
  · rw [if_pos (by omega), if_pos yellow]
    simp
    omega
  · rw [if_neg (by omega), if_neg yellow]
    by_cases turns : n + 1 = t.redTick
    · rw [if_pos (by split at red <;> omega), if_pos turns]
      simp
      omega
    · rw [if_neg (by split at red <;> omega), if_neg turns]
      simp
      omega

def tickLights (t : SessionTable) (n : Nat) : List Light :=
  (t.tickColor n).toList.map (.on functionKey)

/-- A device on which a session has tracked so many ticks since it was opened on the device `o`:
what the session knows of the thresholds, and what was shown of them. -/
structure Shows (o : Device g) (n : Nat) (d : Device g) : Prop where
  running : d.tracker.running = true
  within : d.tracker.table.active.toNat < maxSessions
  mediumMs : d.tracker.table.mediumMs = o.tracker.table.mediumMs
  longMs : d.tracker.table.longMs = o.tracker.table.longMs
  total : d.tracker.table.current.totalUs = 250000 * n
  medium : d.tracker.table.current.mediumReached = decide (o.tracker.table.yellowTick ≤ n)
  long : d.tracker.table.current.longReached = decide (o.tracker.table.redTick ≤ n)
  lights :
    ∃ shown, d.lights = shown ++ o.lights ∧
      shown.count (.on functionKey .yellow) =
        (if o.tracker.table.yellowTick ≤ n then 1 else 0) ∧
      shown.count (.on functionKey .red) = if o.tracker.table.redTick ≤ n then 1 else 0

theorem tickLights_eq (t : SessionTable) (n : Nat) :
    tickLights t n =
      if n = t.yellowTick then [.on functionKey .yellow]
      else if n = t.redTick then [.on functionKey .red]
      else [] := by
  unfold tickLights SessionTable.tickColor
  split
  · rfl
  · split <;> rfl

theorem count_tickLights (t : SessionTable) (n : Nat) :
    (tickLights t n).count (.on functionKey .yellow) = (if n = t.yellowTick then 1 else 0) ∧
      (tickLights t n).count (.on functionKey .red) = if n = t.redTick then 1 else 0 := by
  have apart := t.yellowTick_ne_redTick
  rw [tickLights_eq]
  by_cases yellow : n = t.yellowTick
  · rw [if_pos yellow, if_pos yellow, if_neg (by omega)]
    exact ⟨rfl, rfl⟩
  · rw [if_neg yellow, if_neg yellow]
    by_cases red : n = t.redTick
    · rw [if_pos red, if_pos red]
      exact ⟨rfl, rfl⟩
    · rw [if_neg red, if_neg red]
      exact ⟨rfl, rfl⟩

structure Alike (s s' : Session) : Prop where
  times : s.SameTime s'
  medium : s'.mediumReached = s.mediumReached
  long : s'.longReached = s.longReached

theorem Alike.trans {s s' s'' : Session} (first : Alike s s') (second : Alike s' s'') :
    Alike s s'' :=
  ⟨first.times.trans second.times, second.medium.trans first.medium,
    second.long.trans first.long⟩

theorem alike_track (s : Session) (work on : Bool) : Alike s (s.track work on) := by
  cases work <;> exact ⟨⟨rfl, rfl⟩, rfl, rfl⟩

theorem switches_off_trackingKey (work : Bool) :
    (Light.off (trackingKey work)).switches functionKey = false := by
  cases work <;> rfl

theorem switches_on_trackingKey (work : Bool) (color : Color) :
    (Light.on (trackingKey work) color).switches functionKey = false := by
  cases work <;> rfl

structure Spares (d d' : Device g) : Prop where
  retouches : Retouches d d'
  alike :
    d.tracker.table.active.toNat < maxSessions →
      Alike d.tracker.table.current d'.tracker.table.current
  lights : ∃ before, d'.lights = before ++ d.lights ∧ ∀ l ∈ before, l.switches functionKey = false

namespace Spares

theorem refl (d : Device g) : Spares d d :=
  ⟨.refl d, fun _ => ⟨.refl _, rfl, rfl⟩, [], rfl, nofun⟩

theorem trans (first : Spares d d') (second : Spares d' d'') : Spares d d'' := by
  obtain ⟨before, lights, beside⟩ := first.lights
  obtain ⟨before', lights', beside'⟩ := second.lights
  refine ⟨first.retouches.trans second.retouches, ?_, before' ++ before, ?_, ?_⟩
  · intro within
    exact (first.alike within).trans (second.alike (first.retouches.table.active_eq ▸ within))
  · rw [lights', lights, List.append_assoc]
  · intro l member
    exact (List.mem_append.1 member).elim (beside' l) (beside l)

theorem light (l : Light) (spares : Spares d d') (beside : l.switches functionKey = false) :
    Spares d (d'.light l) := by
  obtain ⟨before, lights, others⟩ := spares.lights
  refine ⟨spares.retouches.light l, spares.alike, l :: before, ?_, ?_⟩
  · rw [Device.lights_light, lights, List.cons_append]
  · exact List.forall_mem_cons.2 ⟨beside, others⟩

theorem setCurrent {s : Session} (alike : Alike d.tracker.table.current s) :
    Spares d (setCurrent d s) := by
  refine ⟨.setCurrent alike.times, ?_, [], rfl, nofun⟩
  intro within
  show Alike _ (d.tracker.table.setCurrent s).current
  rwa [SessionTable.current_setCurrent within]

theorem dateSession (d : Device g) : Spares d (dateSession d) := by
  simp only [Tracker.dateSession]
  split
  · exact setCurrent ⟨⟨rfl, rfl⟩, rfl, rfl⟩
  · exact refl d

theorem toggle (d : Device g) (work : Bool) : Spares d (toggle d work) := by
  simp only [Tracker.toggle]
  split
  · exact light _ (setCurrent (alike_track ..)) (switches_off_trackingKey work)
  · refine light _ ?_ (switches_on_trackingKey work _)
    have alike :=
      (alike_track d.tracker.table.current (!work) false).trans (alike_track _ work true)
    split
    · exact ((refl d).light _ (switches_off_trackingKey !work)).trans (setCurrent alike)
    · exact setCurrent alike

theorem showHours (d : Device g) : Spares d (showHours d).2 := by
  simp only [Tracker.showHours]
  split
  · exact refl d
  · split
    · exact refl d
    · exact (refl d).light _ rfl

theorem press (d : Device g) {event : ButtonEvent} (stays : opensNext event = false) :
    Spares d (press d event).2 := by
  have dated := dateSession d
  simp only [Tracker.press]
  split
  · next function =>
    have short : event.long = false := by simpa [opensNext, function] using stays
    rw [short, if_neg Bool.false_ne_true]
    exact dated.trans (showHours _)
  · split
    · exact dated
    · split
      · exact dated.trans (toggle _ true)
      · split
        · exact dated.trans (toggle _ false)
        · exact dated

end Spares

namespace Shows

theorem spares (shows : Shows o n d) (spares : Spares d d') : Shows o n d' := by
  obtain ⟨before, lights, beside⟩ := spares.lights
  obtain ⟨shown, all, yellow, red⟩ := shows.lights
  obtain ⟨times, medium, long⟩ := spares.alike shows.within
  obtain ⟨mediumMs, longMs⟩ := spares.retouches.table.thresholds_eq
  have within : d'.tracker.table.active.toNat < maxSessions :=
    spares.retouches.table.active_eq ▸ shows.within
  have none_of : ∀ color, before.count (.on functionKey color) = 0 := by
    intro color
    refine List.count_eq_zero.2 fun member => ?_
    exact absurd (beside _ member) (by simp [Light.switches])
  refine ⟨spares.retouches.running.trans shows.running, within, mediumMs.trans shows.mediumMs,
    longMs.trans shows.longMs, times.totalUs_eq.trans shows.total,
    medium.trans shows.medium, long.trans shows.long, before ++ shown, ?_, ?_, ?_⟩
  · rw [lights, all, List.append_assoc]
  · rw [List.count_append, none_of, Nat.zero_add, yellow]
  · rw [List.count_append, none_of, Nat.zero_add, red]

theorem pressAll {events : List ButtonEvent} (shows : Shows o n d)
    (stays : events.any opensNext = false) : Shows o n (pressAll d events).2 := by
  induction events generalizing d with
  | nil => exact shows
  | cons event rest ih =>
    rw [List.any_cons, Bool.or_eq_false_iff] at stays
    have first := shows.spares (.press d stays.1)
    rw [Tracker.pressAll]
    generalize Tracker.press d event = r at first ⊢
    obtain ⟨_ | _, between⟩ := r
    · exact first
    · exact ih first stays.2

theorem handle (shows : Shows o n d) (stays : d.drain.1.any opensNext = false) :
    Shows o n (handle d).2 := by
  have drained : Shows o n d.drain.2 := ⟨shows.running, shows.within, shows.mediumMs,
    shows.longMs, shows.total, shows.medium, shows.long, shows.lights⟩
  exact drained.pressAll stays

/-- The next tracked tick: what it writes into the session, and what it shows. -/
theorem next {s : Session} (shows : Shows o n d)
    (running : d'.tracker.running = d.tracker.running)
    (table : d'.tracker.table = d.tracker.table.setCurrent s)
    (shown : d'.lights = tickLights o.tracker.table (n + 1) ++ d.lights)
    (total : s.totalUs = 250000 * (n + 1))
    (medium : s.mediumReached = decide (o.tracker.table.yellowTick ≤ n + 1))
    (long : s.longReached = decide (o.tracker.table.redTick ≤ n + 1)) : Shows o (n + 1) d' := by
  have current : d'.tracker.table.current = s := by
    rw [table]
    exact SessionTable.current_setCurrent shows.within s
  obtain ⟨before, lights, yellow, red⟩ := shows.lights
  obtain ⟨more_yellow, more_red⟩ := count_tickLights o.tracker.table (n + 1)
  refine ⟨running.trans shows.running, ?_, ?_, ?_, ?_, ?_, ?_,
    tickLights o.tracker.table (n + 1) ++ before, ?_, ?_, ?_⟩
  · rw [table]
    exact shows.within
  · rw [table]
    exact shows.mediumMs
  · rw [table]
    exact shows.longMs
  · rwa [current]
  · rwa [current]
  · rwa [current]
  · rw [shown, lights, List.append_assoc]
  · rw [List.count_append, yellow, more_yellow]
    grind
  · rw [List.count_append, red, more_red]
    grind

theorem tick (shows : Shows o n d) (tracked : tracks d = true) (ticks : tick d = (.ok (), d')) :
    Shows o (n + 1) d' ∧ d'.lights = tickLights o.tracker.table (n + 1) ++ d.lights := by
  obtain ⟨idle, -⟩ | failed | ⟨s, ms, e, answer, counts⟩ := tick_counts d
  · exact absurd tracked (by simp [idle])
  · exact absurd (ticks.symm.trans failed) (by simp)
  · obtain rfl : e = d' := congrArg Prod.snd (answer.symm.trans ticks)
    have tracking : d.tracker.table.current.isTracking = true := (Bool.and_eq_true_iff.1 tracked).2
    have total : s.totalUs = 250000 * (n + 1) := by
      rw [(Session.counted_of_ticked tracking counts.ticked).totalUs_eq, shows.total]
      rfl
    have ms_eq : ms.toNat = 250 * (n + 1) := by
      rw [Session.toNat_trackedMs counts.total, total]
      omega
    obtain ⟨medium, long⟩ := Session.reached_of_ticked counts.ticked
    have same : reach d.tracker.table ms s = reach o.tracker.table ms s := by
      simp only [reach, shows.mediumMs, shows.longMs]
    have reached := reach_eq ms_eq (medium.trans shows.medium) (long.trans shows.long)
    have table := counts.table
    have lights := counts.lights
    rw [same, reached] at table lights
    exact ⟨shows.next counts.running table lights total rfl rfl, lights⟩

theorem openSession (running : d.tracker.running = true) :
    Shows (openSession d).2 0 (openSession d).2 := by
  obtain ⟨⟨t, retouched, saves⟩, -⟩ := openSession_opens d
  have yellow := SessionTable.yellowTick_pos (Tracker.openSession d).2.tracker.table
  have red := SessionTable.redTick_pos (Tracker.openSession d).2.tracker.table
  refine ⟨?_, ?_, rfl, rfl, ?_, ?_, ?_, [], rfl, ?_, ?_⟩
  · rw [saves.tracker_eq]
    exact running
  · rw [saves.tracker_eq]
    exact t.active_opened_lt d.today
  · rw [saves.tracker_eq, SessionTable.current_opened]
    rfl
  · rw [decide_eq_false (by omega), saves.tracker_eq, SessionTable.current_opened]
  · rw [decide_eq_false (by omega), saves.tracker_eq, SessionTable.current_opened]
  · rw [if_neg (by omega), List.count_nil]
  · rw [if_neg (by omega), List.count_nil]

end Shows

inductive Moment where
  /-- Presses come in, and time goes on. -/
  | outside (input : Input) (today : DateTime)
  | handle
  | tick

namespace Moment

def run (d : Device g) : Moment → Option (Device g)
  | outside input today => some { d with settings.input := input, today }
  | handle => if d.drain.1.any opensNext then none else unlessOverflow (Tracker.handle d)
  | tick => unlessOverflow (Tracker.tick d)

def isTracked (d : Device g) : Moment → Bool
  | tick => tracks d
  | _ => false

def runAll (d : Device g) (n : Nat) : List Moment → Option (Device g × Nat)
  | [] => some (d, n)
  | moment :: rest =>
    match moment.run d with
    | none => none
    | some d' => runAll d' (n + (moment.isTracked d).toNat) rest

end Moment

theorem Shows.moment {moment : Moment} (shows : Shows o n d) (ran : moment.run d = some d') :
    Shows o (n + (moment.isTracked d).toNat) d' := by
  cases moment with
  | outside input today =>
    obtain rfl := Option.some.inj ran
    exact ⟨shows.running, shows.within, shows.mediumMs, shows.longMs, shows.total, shows.medium,
      shows.long, shows.lights⟩
  | handle =>
    rw [Moment.run] at ran
    split at ran
    · contradiction
    · next stays =>
      have after := shows.handle (Bool.not_eq_true _ ▸ stays)
      rw [unlessOverflow_eq_some ran] at after
      exact after
  | tick =>
    have ticks := unlessOverflow_eq_some ran
    cases tracked : tracks d with
    | false =>
      obtain rfl : d = d' := congrArg Prod.snd ((tick_of_idle tracked).symm.trans ticks)
      rw [Moment.isTracked, tracked]
      exact shows
    | true =>
      rw [Moment.isTracked, tracked]
      exact (shows.tick tracked ticks).1

theorem Shows.runAll {m : Nat} {moments : List Moment} (shows : Shows o n d)
    (ran : Moment.runAll d n moments = some (d', m)) : Shows o m d' := by
  induction moments generalizing d n with
  | nil =>
    obtain ⟨rfl, rfl⟩ := Prod.mk.inj (Option.some.inj ran)
    exact shows
  | cons moment rest ih =>
    rw [Moment.runAll] at ran
    cases first : moment.run d with
    | none => simp [first] at ran
    | some between =>
      simp only [first] at ran
      exact ih (shows.moment first) ran

end Tracker

end Keypad
