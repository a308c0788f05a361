import Keypad.Proofs.Features.Sessions
import Keypad.Proofs.Features.Turns
import Keypad.Proofs.Tracker.Starting

namespace Keypad

open Tracker (storedTable)

namespace Features

variable {g : Geometry} {d d' : Device g}

inductive Step where
  /-- Presses come in, time goes on, and the host comes and goes. -/
  | outside (input : Input) (today : DateTime) (ready : Bool)
  | handle
  | tick
  | switchTo (feature : Feature)
  | switchToCode (code : UInt8)

def Step.run (d : Device g) : Step → Option (Device g)
  | .outside input today ready =>
    some { d with settings.input := input, today, host.ready := ready }
  | .handle => Tracker.unlessOverflow (Features.handle d)
  | .tick => Tracker.unlessOverflow (Features.tick d)
  | .switchTo feature => some (Features.switchTo d feature)
  | .switchToCode code => some (Features.switchToCode d code).2

def Step.isTick : Step → Bool
  | .tick => true
  | _ => false

/-- What is to be expected of a session's time: what it began with, nothing once it was opened
anew, and the ticks that counted for it since. -/
structure Tally where
  startUs : Nat
  ticks : Nat := 0

def Tally.totalUs (t : Tally) : Nat := t.startUs + 250000 * t.ticks

theorem Tally.totalUs_succ (t : Tally) :
    Tally.totalUs { t with ticks := t.ticks + 1 } = t.totalUs + 250000 := by
  show t.startUs + 250000 * (t.ticks + 1) = t.startUs + 250000 * t.ticks + 250000
  omega

def Tally.start (i : Fin maxSessions) (d : Device g) : Tally :=
  { startUs := (sessions d).sessions[i.val].totalUs }

def Tally.next (i : Fin maxSessions) (t : Tally) (d : Device g) : Step → Tally
  | .handle =>
    if ∃ k < toOpen d, ((sessions d).active.toNat + k + 1) % maxSessions = i.val then
      { startUs := 0 }
    else t
  | .tick =>
    if counts d ∧ (sessions d).active.toNat = i.val then { t with ticks := t.ticks + 1 } else t
  | _ => t

def runTallied (i : Fin maxSessions) (d : Device g) (t : Tally) :
    List Step → Option (Device g × Tally)
  | [] => some (d, t)
  | step :: rest =>
    match step.run d with
    | none => none
    | some d' => runTallied i d' (t.next i d step) rest

structure Tallied (i : Fin maxSessions) (d : Device g) (t : Tally) : Prop where
  sound : Sound d
  total : (sessions d).sessions[i.val].totalUs = t.totalUs

theorem Sound.tallied (sound : Sound d) (i : Fin maxSessions) : Tallied i d (.start i d) :=
  ⟨sound, rfl⟩

theorem Tallied.same_times {i : Fin maxSessions} {t : Tally} (tallied : Tallied i d t)
    (sound : Sound d') (same : (sessions d).SameTimes (sessions d')) : Tallied i d' t :=
  ⟨sound, (same.sessions i).totalUs_eq.trans tallied.total⟩

theorem Tallied.handle {i : Fin maxSessions} {t : Tally} (tallied : Tallied i d t)
    (handled : Features.handle d = (.ok (), d')) : Tallied i d' (t.next i d .handle) := by
  obtain ⟨sound, opened⟩ := handle_opens tallied.sound handled
  have session := opened.sessions i
  refine ⟨sound, ?_⟩
  rw [Tally.next]
  split
  · next zeroed =>
    rw [if_pos zeroed] at session
    rw [Session.totalUs, session.1, session.2]
    rfl
  · next kept =>
    rw [if_neg kept] at session
    exact session.totalUs_eq.trans tallied.total

theorem Tallied.tick {i : Fin maxSessions} {t : Tally} (tallied : Tallied i d t)
    (ticked : Features.tick d = (.ok (), d')) : Tallied i d' (t.next i d .tick) := by
  have within := tallied.sound.within
  obtain ⟨sound, outcome⟩ := tick_counts tallied.sound ticked
  refine ⟨sound, ?_⟩
  rw [Tally.next]
  -- A tick that counts may still count for another session than this one.
  by_cases counting : counts d
  · rw [if_pos counting] at outcome
    by_cases here : (sessions d).active.toNat = i.val
    · have more := outcome.counted.totalUs_eq
      have within' : (sessions d').active.toNat < maxSessions := outcome.active ▸ within
      rw [SessionTable.current_eq within, SessionTable.current_eq within'] at more
      simp only [outcome.active, here] at more
      rw [if_pos ⟨counting, here⟩, more, tallied.total, Tally.totalUs_succ]
    · rw [if_neg fun h => here h.2]
      exact (outcome.others i (Ne.symm here)).totalUs_eq.trans tallied.total
  · rw [if_neg counting] at outcome
    rw [if_neg fun h => counting h.1, outcome]
    exact tallied.total

theorem Tallied.step {i : Fin maxSessions} {t : Tally} {step : Step} (tallied : Tallied i d t)
    (ran : step.run d = some d') : Tallied i d' (t.next i d step) := by
  have sound := tallied.sound
  cases step with
  | outside input today ready =>
    obtain rfl := Option.some.inj ran
    exact ⟨⟨sound.healthy, sound.valid, sound.within, sound.running⟩, tallied.total⟩
  | handle => exact tallied.handle (Tracker.unlessOverflow_eq_some ran)
  | tick => exact tallied.tick (Tracker.unlessOverflow_eq_some ran)
  | switchTo feature =>
    obtain rfl := Option.some.inj ran
    obtain ⟨sound', same⟩ := switchTo_goes_on sound feature
    exact tallied.same_times sound' same
  | switchToCode code =>
    obtain rfl := Option.some.inj ran
    obtain ⟨sound', same⟩ := switchToCode_goes_on sound code
    exact tallied.same_times sound' same

theorem Tallied.run {i : Fin maxSessions} {t t' : Tally} {steps : List Step}
    (tallied : Tallied i d t) (ran : runTallied i d t steps = some (d', t')) : Tallied i d' t' := by
  induction steps generalizing d t with
  | nil =>
    obtain ⟨rfl, rfl⟩ := Prod.mk.inj (Option.some.inj ran)
    exact tallied
  | cons step rest ih =>
    rw [runTallied] at ran
    cases first : step.run d with
    | none => simp [first] at ran
    | some between =>
      simp only [first] at ran
      exact ih (tallied.step first) ran

theorem Sound.tick_passes_iff (sound : Sound d) :
    (Features.tick d).1 = .ok () ↔
      (counts d → (sessions d).current.totalUs + 250000 < UInt64.size) := by
  by_cases tracking : d.active.current = .timeTracker
  · rw [tick_of_tracking tracking, sessions_of_tracking tracking,
      counts_iff_tracks sound tracking]
    exact Tracker.tick_passes_iff d
  · rw [tick_of_other tracking]
    exact iff_of_true rfl fun counting => absurd counting.1 tracking

theorem Sound.handle_passes (sound : Sound d) (room : (sessions d).Room 0) :
    (Features.handle d).1 = .ok () := by
  by_cases tracking : d.active.current = .timeTracker
  · have within := sound.within
    rw [sessions_of_tracking tracking] at room within
    have head : Tracker.Headroom 0 d := ⟨within, room, fun _ => room⟩
    rw [handle_of_tracking tracking]
    exact head.handle.1
  · obtain ⟨_, _, _, handles⟩ := handle_of_other tracking
    rw [handles]

/-- A step gets through where the sessions have room for it. -/
theorem Sound.passes {step : Step} {us : Nat} (sound : Sound d)
    (room : (sessions d).Room (us + usPerTick * step.isTick.toNat)) :
    ∃ d', step.run d = some d' ∧ (sessions d').Room us := by
  have later : (sessions d).Room us := room.mono (Nat.le_add_right ..)
  cases step with
  | outside input today ready => exact ⟨_, rfl, later⟩
  | handle =>
    have passes := sound.handle_passes (later.mono (Nat.zero_le us))
    have handled : Features.handle d = (.ok (), (Features.handle d).2) := Prod.ext passes rfl
    refine ⟨_, by rw [Step.run, handled]; rfl, ?_⟩
    exact later.openedTimes (handle_opens sound handled).2
  | tick =>
    have one : (sessions d).Room (usPerTick + us) := by
      rwa [Step.isTick, Bool.toNat_true, Nat.mul_one, Nat.add_comm] at room
    have passes : (Features.tick d).1 = .ok () := by
      refine sound.tick_passes_iff.2 fun _ => ?_
      have fits := one.current sound.within
      unfold usPerTick at fits
      omega
    have ticked : Features.tick d = (.ok (), (Features.tick d).2) := Prod.ext passes rfl
    refine ⟨_, by rw [Step.run, ticked]; rfl, ?_⟩
    have outcome := (tick_counts sound ticked).2
    split at outcome
    · exact one.countsTick sound.within outcome
    · rw [outcome]
      exact later
  | switchTo feature => exact ⟨_, rfl, later.sameTimes (switchTo_goes_on sound feature).2⟩
  | switchToCode code => exact ⟨_, rfl, later.sameTimes (switchToCode_goes_on sound code).2⟩

theorem runTallied_cons {i : Fin maxSessions} {t : Tally} {step : Step}
    (ran : step.run d = some d') (rest : List Step) :
    runTallied i d t (step :: rest) = runTallied i d' (t.next i d step) rest := by
  rw [runTallied, ran]

theorem Tallied.runs {i : Fin maxSessions} {t : Tally} {steps : List Step} (tallied : Tallied i d t)
    (room : (sessions d).Room (usPerTick * steps.countP Step.isTick)) :
    ∃ d' t', runTallied i d t steps = some (d', t') := by
  induction steps generalizing d t with
  | nil => exact ⟨d, t, rfl⟩
  | cons step rest ih =>
    have first : (sessions d).Room
        (usPerTick * rest.countP Step.isTick + usPerTick * step.isTick.toNat) := by
      rw [List.countP_cons, Nat.mul_add] at room
      cases ticks : step.isTick <;> rwa [ticks] at room
    obtain ⟨between, ran, later⟩ := tallied.sound.passes first
    rw [runTallied_cons ran]
    exact ih (tallied.step ran) later

/-- What each call does to the counters, and when it has no room to do it. -/
structure TimeConserved (d : Device g) : Prop where
  passes :
    (Features.tick d).1 = .ok () ↔ (counts d → (sessions d).current.totalUs + 250000 < 2 ^ 64)
  tick :
    ∀ d', Features.tick d = (.ok (), d') →
      if counts d then (sessions d).CountsTick (sessions d') else sessions d' = sessions d
  handles :
    (∀ i : Fin maxSessions, (sessions d).sessions[i.val].totalUs < 2 ^ 64) →
      (Features.handle d).1 = .ok ()
  handle :
    ∀ d', Features.handle d = (.ok (), d') → (sessions d).Opened (toOpen d) (sessions d')
  switchTo : ∀ feature, (sessions d).SameTimes (sessions (Features.switchTo d feature))
  switchToCode : ∀ code, (sessions d).SameTimes (sessions (Features.switchToCode d code).2)

theorem Sound.timeConserved (sound : Sound d) : TimeConserved d where
  passes := sound.tick_passes_iff
  tick _ ticked := (tick_counts sound ticked).2
  handles := sound.handle_passes
  handle _ handled := (handle_opens sound handled).2
  switchTo feature := (switchTo_goes_on sound feature).2
  switchToCode code := (switchToCode_goes_on sound code).2

theorem Tallied.counted_ticks {i : Fin maxSessions} {t : Tally} (n : Nat)
    (tallied : Tallied i d t) (counting : counts d)
    (here : (sessions d).active.toNat = i.val) (room : t.totalUs + usPerTick * n < UInt64.size) :
    ∃ d', ∀ rest, runTallied i d t (.replicate n .tick ++ rest) =
      runTallied i d' { t with ticks := t.ticks + n } rest := by
  induction n generalizing d t with
  | zero => exact ⟨d, fun _ => rfl⟩
  | succ n ih =>
    have sound := tallied.sound
    have tracking := counting.1
    rw [Nat.mul_succ] at room
    have total : (sessions d).current.totalUs = t.totalUs := by
      have same := tallied.total
      simp only [← here] at same
      rw [SessionTable.current_eq sound.within, same]
    rw [sessions_of_tracking tracking] at total
    obtain ⟨s, ms, between, ticks, counted⟩ := Tracker.exists_counts
      ((counts_iff_tracks sound tracking).1 counting) (by omega)
    have ticked : Features.tick d = (.ok (), between) := by rw [tick_of_tracking tracking, ticks]
    have ran : Step.tick.run d = some between := by rw [Step.run, ticked, Tracker.unlessOverflow]
    have next : t.next i d .tick = { t with ticks := t.ticks + 1 } := by
      rw [Tally.next, if_pos ⟨counting, here⟩]
    have later := tallied.step ran
    have outcome := (tick_counts sound ticked).2
    rw [if_pos counting] at outcome
    have tracking' : between.active.current = .timeTracker := by
      have active := active_tick d
      rw [ticked] at active
      rw [active, tracking]
    have within : d.tracker.table.active.toNat < maxSessions :=
      sessions_of_tracking tracking ▸ sound.within
    have counting' := (counts_iff_tracks later.sound tracking').2 (counted.tracks within)
    rw [next] at later
    obtain ⟨d', rest⟩ := ih later counting' (by rw [outcome.active, here]) (by
      rw [Tally.totalUs_succ]
      unfold usPerTick at room ⊢
      omega)
    refine ⟨d', fun more => ?_⟩
    rw [List.replicate_succ, List.cons_append, runTallied_cons ran, next, rest, Nat.add_assoc,
      Nat.add_comm 1 n]

theorem Tallied.work {i : Fin maxSessions} {t : Tally} (tallied : Tallied i d t)
    (tracking : d.active.current = .timeTracker)
    (idle : (sessions d).current.trackingWork = false)
    (here : (sessions d).active.toNat = i.val) (today : DateTime) :
    ∃ d', Tallied i d' t ∧ counts d' ∧ (sessions d').active.toNat = i.val ∧
      ∀ rest,
        runTallied i d t
            (.outside (.script { events := [⟨Tracker.workKey, false⟩] }) today true ::
              .handle :: rest) =
          runTallied i d' t rest := by
  let pressed : Input := .script { events := [⟨Tracker.workKey, false⟩] }
  let outside : Device g := { d with settings.input := pressed, today, host.ready := true }
  have running := tallied.sound.running tracking
  have within := tallied.sound.within
  rw [sessions_of_tracking tracking] at idle within here
  have queued : outside.drain.1 = [⟨Tracker.trackingKey true, false⟩] :=
    congrArg Prod.fst (Input.drain_script { events := [⟨Tracker.workKey, false⟩] })
  have off : outside.tracker.table.current.tracking true = false := idle
  obtain ⟨d', handled, retouches, tracked⟩ := Tracker.handle_toggles queued running within off
  have tracking' : d'.active.current = .timeTracker := by
    rw [retouches.active]
    exact tracking
  have arrives : (Step.outside pressed today true).run d = some outside := rfl
  have ran : Step.handle.run outside = some d' := by
    rw [Step.run, handle_of_tracking (d := outside) tracking, handled, Tracker.unlessOverflow]
  have opens_none : toOpen outside = 0 := by
    rw [toOpen, if_pos (show outside.active.current = .timeTracker from tracking)]
    show openings outside.drain.1 = 0
    rw [queued]
    rfl
  have next : t.next i outside .handle = t := by
    rw [Tally.next, opens_none, if_neg (by simp)]
  have later := (tallied.step arrives).step ran
  have waits : t.next i d (.outside pressed today true) = t := rfl
  rw [waits, next] at later
  refine ⟨d', later, (counts_iff_tracks later.sound tracking').2 tracked, ?_, ?_⟩
  · rw [sessions_of_tracking tracking', retouches.table.active_eq]
    exact here
  · intro rest
    rw [runTallied_cons arrives, waits, runTallied_cons ran, next]

/-- A device whose choice is the time tracker comes up with the stored sessions, and no work is
tracked yet. -/
theorem init_tracking (healthy : d.settings.store.Healthy)
    (valid : (storedTable d).magic = recordMagic)
    (chosen :
      d.settings.store.stored ActiveFeature .activeFeature = ⟨recordMagic, .timeTracker, true⟩) :
    Sound (init d) ∧ (storedTable d).SameTimes (sessions (init d)) ∧
      (init d).active.current = .timeTracker ∧
      (sessions (init d)).current.trackingWork = false := by
  let found : Device g := { d with active := ⟨recordMagic, .timeTracker, true⟩ }
  have starts : init d = start found found.active.current := by
    rw [init_of_healthy healthy, chosen]
    rfl
  obtain ⟨sound, same⟩ := start_goes_on (d := found) healthy valid
  have tracking : (start found found.active.current).active.current = .timeTracker := by
    rw [active_start]
    rfl
  obtain ⟨date, current⟩ := Tracker.current_start (d := found) healthy.fits
  rw [starts]
  refine ⟨sound, same, tracking, ?_⟩
  rw [sessions_of_tracking tracking]
  show (Tracker.start found).tracker.table.current.trackingWork = false
  rw [current]
  rfl

/-- However the features change, a session has the time that it began with and that of the ticks
that counted for it. All steps get through if every stored session has room for all the ticks. -/
theorem time_conserved (d : Device g) (fits : g.Fits d.settings.store.chip.capacity)
    (faultless : ∀ f ∈ d.settings.store.chip.faults, f.count = 0)
    (valid : (storedTable d).magic = recordMagic) (i : Fin maxSessions) (steps : List Step) :
    (∀ d' t, runTallied i (init d) (.start i (init d)) steps = some (d', t) →
        TimeConserved d' ∧
          (sessions d').sessions[i.val].totalUs = t.startUs + 250000 * t.ticks) ∧
      ((∀ j : Fin maxSessions,
          (storedTable d).sessions[j.val].totalUs + 250000 * steps.countP Step.isTick < 2 ^ 64) →
        ∃ d' t, runTallied i (init d) (.start i (init d)) steps = some (d', t)) := by
  obtain ⟨sound, times⟩ := init_goes_on ⟨fits, faultless⟩ valid
  have tallied := sound.tallied i
  constructor
  · intro d' t ran
    have after := tallied.run ran
    exact ⟨after.sound.timeConserved, after.total⟩
  · intro room
    have stored : (storedTable d).Room (usPerTick * steps.countP Step.isTick) := room
    apply tallied.runs
    cases times with
    | inl same => exact stored.sameTimes same
    | inr same => exact (SessionTable.Room.factory stored.lt).sameTimes same

/-- A device that finds an hour of work and goes on with it, until it is switched off. Of three
ticks two count. -/
theorem time_conserved_at_work :
    let recorded : SessionTable := SessionTable.factory.setCurrent { workUs := 3600000000 }
    let first : Fin maxSessions := ⟨0, by decide⟩
    let pressed : Input := .script { events := [⟨Tracker.workKey, false⟩] }
    let steps : List Step :=
      [.outside pressed { year := 2025 } true, .handle, .tick, .tick, .switchTo .none, .tick]
    ∃ d : Device Bench.Layout.unit.geometry,
      Bench.Layout.unit.geometry.Fits d.settings.store.chip.capacity ∧
      (∀ f ∈ d.settings.store.chip.faults, f.count = 0) ∧ storedTable d = recorded ∧
      (storedTable d).magic = recordMagic ∧
      (∀ j : Fin maxSessions,
        (storedTable d).sessions[j.val].totalUs + 250000 * steps.countP Step.isTick < 2 ^ 64) ∧
      ∃ d', runTallied first (init d) (.start first (init d)) steps = some (d', ⟨3600000000, 2⟩) ∧
        TimeConserved d' ∧ (sessions d').sessions[first.val].totalUs = 3600500000 := by
  intro recorded first pressed steps
  obtain ⟨d, healthy, stored, chosen⟩ :=
    exists_chosen recorded (by decide) ⟨recordMagic, .timeTracker, true⟩
  have valid : (storedTable d).magic = recordMagic := by
    rw [stored]
    rfl
  have room : ∀ j : Fin maxSessions,
      (storedTable d).sessions[j.val].totalUs + 250000 * steps.countP Step.isTick < 2 ^ 64 := by
    rw [stored]
    decide
  have bounds := time_conserved d healthy.fits healthy.faultless valid first steps
  obtain ⟨sound, same, tracking, idle⟩ := init_tracking healthy valid chosen
  refine ⟨d, healthy.fits, healthy.faultless, stored, valid, room, ?_⟩
  rw [stored] at same
  generalize init d = up at bounds sound same tracking idle ⊢
  have here : (sessions up).active.toNat = first.val := by
    rw [same.active]
    rfl
  have begins : Tally.start first up = ⟨3600000000, 0⟩ := by
    have total : recorded.sessions[0].totalUs = 3600000000 := by decide
    rw [Tally.start, (same.sessions first).totalUs_eq]
    exact congrArg (Tally.mk · 0) total
  have tallied := sound.tallied first
  rw [begins] at bounds tallied ⊢
  obtain ⟨working, tallied', counting, here', goes⟩ :=
    tallied.work tracking idle here { year := 2025 }
  obtain ⟨later, ticks⟩ := tallied'.counted_ticks 2 counting here' (by decide)
  let off := switchTo later .none
  have idle' : ¬ counts off := by
    intro counting
    have current := counting.1
    rw [current_switchTo] at current
    exact absurd current (by decide)
  have switches : (Step.switchTo .none).run later = some off := rfl
  have same_tally : ∀ t : Tally, t.next first later (.switchTo .none) = t := fun _ => rfl
  have ticked : Features.tick off = (.ok (), off) :=
    tick_of_other (by rw [current_switchTo]; decide)
  have passes : Step.tick.run off = some off := by rw [Step.run, ticked, Tracker.unlessOverflow]
  have idles : ∀ t : Tally, t.next first off .tick = t := by
    intro t
    rw [Tally.next, if_neg fun h => idle' h.1]
  have ran : runTallied first up ⟨3600000000, 0⟩ steps = some (off, ⟨3600000000, 2⟩) := by
    refine (goes [.tick, .tick, .switchTo .none, .tick]).trans ?_
    refine (ticks [.switchTo .none, .tick]).trans ?_
    rw [runTallied_cons switches, same_tally, runTallied_cons passes, idles]
    rfl
  obtain ⟨conserved, total⟩ := bounds.1 off _ ran
  exact ⟨off, ran, conserved, total.trans (by decide)⟩

end Features

end Keypad
