import Keypad.Proofs.Tracker.Starting
import Keypad.Proofs.Tracker.Trailing

namespace Keypad.Tracker

variable {g : Geometry} {d d' : Device g}

inductive Step where
  /-- Presses come in and time goes on. -/
  | outside (input : Input) (today : DateTime)
  | start
  | stop
  | handle
  | tick
  | openSession
  | setMediumMs (ms : UInt64)
  | setLongMs (ms : UInt64)

def Step.run (d : Device g) : Step → Option (Device g)
  | .outside input today => some { d with settings.input := input, today }
  | .start => some (Tracker.start d)
  | .stop => some (Tracker.stop d)
  | .handle => unlessOverflow (Tracker.handle d)
  | .tick => unlessOverflow (Tracker.tick d)
  | .openSession => some (Tracker.openSession d).2
  | .setMediumMs ms => some (Tracker.setMediumMs d ms).2
  | .setLongMs ms => some (Tracker.setLongMs d ms).2

def Step.isTick : Step → Bool
  | .tick => true
  | _ => false

/-- The ticks that counted, since the sessions were last saved or read and since the tracker last
came up. -/
structure Meter where
  sinceSave : Nat := 0
  sinceStart : Nat := 0

def Meter.next (m : Meter) (d d' : Device g) : Step → Meter
  | .start => {}
  | .tick =>
    if tracks d then
      { sinceSave := if wrote d d' then 0 else m.sinceSave + 1, sinceStart := m.sinceStart + 1 }
    else m
  | _ => { m with sinceSave := if wrote d d' then 0 else m.sinceSave }

def runMetered (d : Device g) (m : Meter) : List Step → Option (Device g × Meter)
  | [] => some (d, m)
  | step :: rest =>
    match step.run d with
    | none => none
    | some d' => runMetered d' (m.next d d' step) rest

theorem runMetered_cons {m : Meter} {step : Step} (ran : step.run d = some d') (rest : List Step) :
    runMetered d m (step :: rest) = runMetered d' (m.next d d' step) rest := by
  rw [runMetered, ran]

theorem runMetered_append {m m' : Meter} {steps : List Step}
    (ran : runMetered d m steps = some (d', m')) (rest : List Step) :
    runMetered d m (steps ++ rest) = runMetered d' m' rest := by
  induction steps generalizing d m with
  | nil =>
    obtain ⟨rfl, rfl⟩ := Prod.mk.inj (Option.some.inj ran)
    rfl
  | cons step later ih =>
    cases first : step.run d with
    | none => simp [runMetered, first] at ran
    | some between =>
      rw [runMetered_cons first] at ran
      rw [List.cons_append, runMetered_cons first]
      exact ih ran

/-- The stored sessions are behind by what the meter says, which the count of intervals bounds. -/
structure Metered (d : Device g) (m : Meter) : Prop where
  behind : Behind d m.sinceSave
  few : m.sinceSave ≤ d.tracker.intervals
  cycle : d.tracker.intervals = m.sinceStart % 4

theorem Metered.other {m : Meter} (metered : Metered d m)
    (intervals : d'.tracker.intervals = d.tracker.intervals)
    (later : Behind d' m.sinceSave ∧ d'.settings.store = d.settings.store ∨
      Behind d' 0 ∧ wrote d d' = true) :
    Metered d' { m with sinceSave := if wrote d d' then 0 else m.sinceSave } := by
  have cycle := intervals.trans metered.cycle
  cases later with
  | inl same =>
    rw [wrote_of_store_eq same.2, if_neg Bool.false_ne_true]
    exact ⟨same.1, intervals ▸ metered.few, cycle⟩
  | inr saved =>
    rw [if_pos saved.2]
    exact ⟨saved.1, Nat.zero_le _, cycle⟩

theorem Metered.saves {m : Meter} {tracker : Tracker} (metered : Metered d m)
    (saves : Saves d tracker d') (valid : tracker.table.magic = recordMagic)
    (within : tracker.table.active.toNat < maxSessions)
    (intervals : tracker.intervals = d.tracker.intervals) :
    Metered d' { m with sinceSave := if wrote d d' then 0 else m.sinceSave } := by
  have healthy := metered.behind.healthy
  have same : d'.tracker.intervals = d.tracker.intervals := by rw [saves.tracker_eq, intervals]
  exact metered.other same (.inr ⟨saves.behind healthy valid within, saves.wrote healthy⟩)

theorem Metered.tick {m : Meter} (metered : Metered d m) (ticked : Ticked d d') :
    Metered d' (m.next d d' .tick) := by
  obtain ⟨behind, few, cycle⟩ := metered
  rw [Meter.next]
  cases tracked : tracks d with
  | false =>
    rw [if_neg Bool.false_ne_true]
    cases ticked with
    | idle untracked same =>
      subst same
      exact ⟨behind, few, cycle⟩
    | counted s contrary => simp [tracked] at contrary
    | saved s contrary => simp [tracked] at contrary
  | true =>
    have later := ticked.behind behind tracked
    rw [if_pos rfl]
    by_cases room : d.tracker.intervals + 1 < 4
    · rw [if_pos room] at later
      obtain ⟨saved, store, intervals⟩ := later
      rw [wrote_of_store_eq store, if_neg Bool.false_ne_true]
      refine ⟨saved, ?_, ?_⟩
      · show m.sinceSave + 1 ≤ _
        omega
      · show _ = (m.sinceStart + 1) % 4
        omega
    · rw [if_neg room] at later
      obtain ⟨saved, written, intervals⟩ := later
      rw [if_pos written]
      refine ⟨saved, Nat.zero_le _, ?_⟩
      show _ = (m.sinceStart + 1) % 4
      omega

theorem Metered.next {m : Meter} {step : Step} (metered : Metered d m)
    (ran : step.run d = some d') : Metered d' (m.next d d' step) := by
  have behind := metered.behind
  cases step with
  | outside input today =>
    obtain rfl := Option.some.inj ran
    exact metered.other rfl
      (.inl ⟨⟨behind.healthy, behind.valid, behind.within, behind.trails⟩, rfl⟩)
  | start =>
    obtain rfl := Option.some.inj ran
    obtain ⟨started, intervals, -⟩ := start_started behind.healthy
    exact ⟨started.behind behind.healthy, Nat.zero_le _, intervals⟩
  | stop =>
    obtain rfl := Option.some.inj ran
    exact metered.saves (stop_saves d) behind.valid behind.within rfl
  | handle =>
    have drained := drain_retouches d
    have answered := pressAll_answers (unlessOverflow_eq_some ran)
    obtain ⟨intervals, later⟩ := answered.behind (behind.retouches drained)
    exact metered.other (intervals.trans drained.intervals) later
  | tick => exact metered.tick (tick_ticked (unlessOverflow_eq_some ran))
  | openSession =>
    obtain rfl := Option.some.inj ran
    have opens := openSession_opens d
    have later := opens.behind behind
    obtain ⟨⟨t, -, saves⟩, -⟩ := opens
    exact metered.other (by rw [saves.tracker_eq]) (.inr later)
  | setMediumMs ms =>
    obtain rfl := Option.some.inj ran
    exact metered.saves (setMediumMs_saves d ms) behind.valid behind.within rfl
  | setLongMs ms =>
    obtain rfl := Option.some.inj ran
    exact metered.saves (setLongMs_saves d ms) behind.valid behind.within rfl

theorem Metered.run {m m' : Meter} {steps : List Step} (metered : Metered d m)
    (ran : runMetered d m steps = some (d', m')) : Metered d' m' := by
  induction steps generalizing d m with
  | nil =>
    obtain ⟨rfl, rfl⟩ := Prod.mk.inj (Option.some.inj ran)
    exact metered
  | cons step rest ih =>
    rw [runMetered] at ran
    cases first : step.run d with
    | none => simp [first] at ran
    | some between =>
      simp only [first] at ran
      exact ih (metered.next first) ran

theorem Metered.passes {m : Meter} {step : Step} {us : Nat} (metered : Metered d m)
    (room : d.tracker.table.Room (us + usPerTick * step.isTick.toNat)) :
    ∃ d', step.run d = some d' ∧ d'.tracker.table.Room us := by
  have behind := metered.behind
  have within := behind.within
  have later : d.tracker.table.Room us := room.mono (Nat.le_add_right ..)
  cases step with
  | outside input today => exact ⟨_, rfl, later⟩
  | start =>
    have stored := behind.trails.room within later
    obtain ⟨-, retouched⟩ := behind.start_of_stored behind.healthy rfl
    exact ⟨_, rfl, stored.retouched retouched⟩
  | stop =>
    refine ⟨_, rfl, ?_⟩
    rw [(stop_saves d).tracker_eq]
    exact later
  | handle =>
    have head : Headroom 0 d :=
      ⟨within, later.mono (Nat.zero_le _), fun _ => later.mono (Nat.zero_le _)⟩
    have handled : Tracker.handle d = (.ok (), (Tracker.handle d).2) := Prod.ext head.handle.1 rfl
    have drained := drain_retouches d
    refine ⟨_, by rw [Step.run, handled]; rfl, ?_⟩
    exact (pressAll_answers handled).room (later.retouched drained.table)
      (drained.table.active_eq ▸ within)
  | tick =>
    have one : d.tracker.table.Room (usPerTick + us) := by
      rwa [Step.isTick, Bool.toNat_true, Nat.mul_one, Nat.add_comm] at room
    have passes : (Tracker.tick d).1 = .ok () := by
      refine (tick_passes_iff d).2 fun _ => ?_
      have fits := one.current within
      omega
    have ticked : Tracker.tick d = (.ok (), (Tracker.tick d).2) := Prod.ext passes rfl
    exact ⟨_, by rw [Step.run, ticked]; rfl, (tick_ticked ticked).room one within⟩
  | openSession => exact ⟨_, rfl, ((openSession_opens d).room later within).1⟩
  | setMediumMs ms =>
    refine ⟨_, rfl, ?_⟩
    rw [(setMediumMs_saves d ms).tracker_eq]
    exact later
  | setLongMs ms =>
    refine ⟨_, rfl, ?_⟩
    rw [(setLongMs_saves d ms).tracker_eq]
    exact later

theorem Metered.runs {m : Meter} {steps : List Step} (metered : Metered d m)
    (room : d.tracker.table.Room (usPerTick * steps.countP Step.isTick)) :
    ∃ d' m', runMetered d m steps = some (d', m') := by
  induction steps generalizing d m with
  | nil => exact ⟨d, m, rfl⟩
  | cons step rest ih =>
    have first : d.tracker.table.Room
        (usPerTick * rest.countP Step.isTick + usPerTick * step.isTick.toNat) := by
      rw [List.countP_cons, Nat.mul_add] at room
      cases ticks : step.isTick <;> rwa [ticks] at room
    obtain ⟨between, ran, later⟩ := metered.passes first
    rw [runMetered_cons ran]
    exact ih (metered.next ran) later

/-- A tick of a metered tracker writes the sessions just when the meter has come round. -/
theorem Metered.journal_tick {m : Meter} (metered : Metered d m)
    (ticks : Tracker.tick d = (.ok (), d')) :
    if tracks d = true ∧ (m.sinceStart + 1) % 4 = 0 then
      journal d' = Store.written (g := g) .sessionTable (journal d)
    else d'.settings.store = d.settings.store := by
  have healthy := metered.behind.healthy
  have cycle := metered.cycle
  cases tick_ticked ticks with
  | idle untracked same =>
    rw [if_neg (by simp [untracked]), same]
  | counted s tracked counted room tracker store active =>
    rw [if_neg (by omega)]
    exact store
  | saved s tracked counted full saves =>
    rw [if_pos ⟨tracked, by omega⟩]
    exact (saves.saved healthy).journal_eq

structure LossBounded (d : Device g) (m : Meter) : Prop where
  agrees : d.tracker.table.AgreesBeside (storedTable d)
  behind : d.tracker.table.current.totalUs = (storedTable d).current.totalUs + 250000 * m.sinceSave
  few : m.sinceSave ≤ d.tracker.intervals ∧ d.tracker.intervals ≤ 3
  passes :
    (Tracker.tick d).1 = .ok () ↔
      (tracks d = true → d.tracker.table.current.totalUs + 250000 < 2 ^ 64)
  ticks :
    ∀ d', Tracker.tick d = (.ok (), d') →
      if tracks d = true ∧ (m.sinceStart + 1) % 4 = 0 then
        journal d' = Store.written (g := g) .sessionTable (journal d)
      else d'.settings.store = d.settings.store
  /-- A reboot at this moment loses at most three ticks of the session being tracked. -/
  reboot :
    ∃ store, Store.attach d.settings.store.chip = .ok store ∧
      ∀ input longPressMs board today,
        let t := (Tracker.start (.boot store input longPressMs board today)).tracker.table
        d.tracker.table.AgreesBeside t ∧ t.current.totalUs ≤ d.tracker.table.current.totalUs ∧
          d.tracker.table.current.totalUs ≤ t.current.totalUs + 750000

theorem Metered.lossBounded {m : Meter} (metered : Metered d m) : LossBounded d m := by
  obtain ⟨behind, few, cycle⟩ := metered
  have at_most : d.tracker.intervals ≤ 3 := by omega
  refine ⟨behind.trails.agrees, behind.trails.total behind.within, ⟨few, at_most⟩,
    tick_passes_iff d, ?_, ?_⟩
  · intro d' ticks
    exact Metered.journal_tick ⟨behind, few, cycle⟩ ticks
  · obtain ⟨store, attached, rebooted⟩ := behind.reboot
    refine ⟨store, attached, ?_⟩
    intro input longPressMs board today t
    have trails := behind.trails.of_retouched behind.within
      (rebooted input longPressMs board today)
    have total : d.tracker.table.current.totalUs = t.current.totalUs + 250000 * m.sinceSave :=
      trails.total behind.within
    refine ⟨trails.agrees, ?_, ?_⟩ <;> omega

theorem start_metered (healthy : d.settings.store.Healthy) : Metered (Tracker.start d) {} := by
  obtain ⟨started, intervals, -⟩ := start_started healthy
  exact ⟨started.behind healthy, Nat.zero_le _, intervals⟩

theorem start_room {us : Nat} (fits : g.Fits d.settings.store.chip.capacity)
    (room : (found d).Room us) : (Tracker.start d).tracker.table.Room us := by
  obtain ⟨date, table⟩ := table_start d
  rw [table, table_load fits]
  exact room.retouched (.mk _ ⟨rfl, rfl⟩)

/-- Where nothing but ticks has saved the sessions, a tick that counts moves the meter on, and every
fourth one sets it back. -/
theorem Metered.tracked_tick {m : Meter} (metered : Metered d m) (tracked : tracks d = true)
    (alone : m.sinceSave = m.sinceStart % 4)
    (room : d.tracker.table.current.totalUs + usPerTick < UInt64.size) :
    ∃ d', Tracker.tick d = (.ok (), d') ∧ tracks d' = true ∧
      d'.tracker.table.current.totalUs = d.tracker.table.current.totalUs + usPerTick ∧
      m.next d d' .tick = ⟨(m.sinceStart + 1) % 4, m.sinceStart + 1⟩ := by
  obtain ⟨s, ms, d', ticks, counts⟩ := exists_counts tracked room
  have within := metered.behind.within
  refine ⟨d', ticks, counts.tracks within, counts.totalUs_eq within, ?_⟩
  have stored := metered.journal_tick ticks
  rw [Meter.next, if_pos tracked]
  split at stored
  · next fourth =>
    have written : wrote d d' = true := by
      rw [wrote, stored, decide_eq_true_iff]
      exact Nat.lt_add_of_pos_right (by decide : 0 < 2)
    rw [if_pos written, fourth.2]
  · next other =>
    have early : (m.sinceStart + 1) % 4 ≠ 0 := fun fourth => other ⟨tracked, fourth⟩
    rw [wrote_of_store_eq stored, if_neg Bool.false_ne_true, alone]
    congr 1
    omega

theorem Metered.tracked_ticks {m : Meter} (n : Nat) (metered : Metered d m)
    (tracked : tracks d = true) (alone : m.sinceSave = m.sinceStart % 4)
    (room : d.tracker.table.current.totalUs + usPerTick * n < UInt64.size) :
    ∃ d', runMetered d m (.replicate n .tick) =
        some (d', ⟨(m.sinceStart + n) % 4, m.sinceStart + n⟩) ∧
      tracks d' = true ∧
      d'.tracker.table.current.totalUs = d.tracker.table.current.totalUs + usPerTick * n := by
  induction n generalizing d m with
  | zero =>
    refine ⟨d, ?_, tracked, rfl⟩
    rw [Nat.add_zero, ← alone]
    rfl
  | succ n ih =>
    rw [Nat.mul_succ] at room ⊢
    obtain ⟨between, ticks, tracked', total, next⟩ :=
      metered.tracked_tick tracked alone (by omega)
    have ran : Step.tick.run d = some between := by rw [Step.run, ticks, unlessOverflow]
    obtain ⟨d', rest, tracked'', more⟩ :=
      ih (next ▸ metered.next ran) tracked' rfl (by rw [total]; omega)
    refine ⟨d', ?_, tracked'', by rw [more, total]; omega⟩
    rw [List.replicate_succ, runMetered_cons ran, next, rest, Nat.add_assoc, Nat.add_comm 1 n]

theorem start_work (healthy : d.settings.store.Healthy) (today : DateTime) :
    ∃ d', Metered d' {} ∧ tracks d' = true ∧
      d'.tracker.table.current.totalUs = (found d).current.totalUs ∧
      ∀ rest, runMetered (Tracker.start d) {}
          (.outside (.script { events := [⟨workKey, false⟩] }) today :: .handle :: rest) =
        runMetered d' {} rest := by
  let pressed : Input := .script { events := [⟨workKey, false⟩] }
  let outside : Device g := { Tracker.start d with settings.input := pressed, today }
  have queued : outside.drain.1 = [⟨trackingKey true, false⟩] :=
    congrArg Prod.fst (Input.drain_script { events := [⟨workKey, false⟩] })
  have off : (found d).current.stopped.tracking true = false := rfl
  obtain ⟨d', handled, -, tracked, -, total⟩ :=
    start_toggles (e := outside) healthy.fits rfl queued off
  have waits : Meter.next {} (Tracker.start d) outside (.outside pressed today) = {} := by
    simp only [Meter.next, ite_self]
  have metered : Metered outside {} := waits ▸ (start_metered healthy).next rfl
  have ran : Step.handle.run outside = some d' := by rw [Step.run, handled, unlessOverflow]
  have next : Meter.next {} outside d' .handle = {} := by simp only [Meter.next, ite_self]
  refine ⟨d', next ▸ metered.next ran, tracked, total, ?_⟩
  intro rest
  have arrives : (Step.outside pressed today).run (Tracker.start d) = some outside := rfl
  rw [runMetered_cons arrives, waits, runMetered_cons ran, next]

/-- Whatever a tracker goes through from its start on, a reboot loses at most three ticks, and every
fourth tick that counts is stored. It gets through all of it if every session that it finds has room
for all the ticks. -/
theorem loss_bounded (d : Device g) (fits : g.Fits d.settings.store.chip.capacity)
    (faultless : ∀ f ∈ d.settings.store.chip.faults, f.count = 0) (steps : List Step) :
    (∀ d' m, runMetered (Tracker.start d) {} steps = some (d', m) → LossBounded d' m) ∧
      ((∀ i : Fin maxSessions,
          (getElem (found d).sessions i.val i.isLt).totalUs +
            250000 * steps.countP Step.isTick < 2 ^ 64) →
        ∃ d' m, runMetered (Tracker.start d) {} steps = some (d', m)) := by
  have metered : Metered (Tracker.start d) {} := start_metered ⟨fits, faultless⟩
  exact ⟨fun d' m ran => (metered.run ran).lossBounded,
    fun room => metered.runs (start_room fits room)⟩

/-- A device that finds an hour of work, and goes on with it. Three ticks are not stored yet, and
the fourth is. -/
theorem loss_bounded_at_work :
    let recorded : SessionTable := SessionTable.factory.setCurrent { workUs := 3600000000 }
    let pressed : Input := .script { events := [⟨workKey, false⟩] }
    let steps : List Step := [.outside pressed { year := 2025 }, .handle, .tick, .tick, .tick]
    ∃ d : Device Bench.Layout.unit.geometry,
      Bench.Layout.unit.geometry.Fits d.settings.store.chip.capacity ∧
      (∀ f ∈ d.settings.store.chip.faults, f.count = 0) ∧ storedTable d = recorded ∧
      (∀ i : Fin maxSessions,
        (getElem (found d).sessions i.val i.isLt).totalUs +
          250000 * steps.countP Step.isTick < 2 ^ 64) ∧
      ∃ d' d'',
        runMetered (Tracker.start d) {} steps = some (d', ⟨3, 3⟩) ∧ LossBounded d' ⟨3, 3⟩ ∧
        d'.tracker.table.current.totalUs = 3600750000 ∧
        (storedTable d').current.totalUs = 3600000000 ∧ tracks d' = true ∧
        Tracker.tick d' = (.ok (), d'') ∧
        journal d'' = Store.written (g := Bench.Layout.unit.geometry) .sessionTable (journal d') ∧
        runMetered (Tracker.start d) {} (steps ++ [.tick]) = some (d'', ⟨0, 4⟩) ∧
        LossBounded d'' ⟨0, 4⟩ ∧ (storedTable d'').current.totalUs = 3601000000 := by
  intro recorded pressed steps
  have within : SessionTable.factory.active.toNat < maxSessions := by decide
  obtain ⟨d, healthy, stored⟩ := exists_stored recorded within
  have finds : found d = recorded := by
    rw [found_of_healthy healthy, stored, if_pos (by rfl)]
  have current : recorded.current = { workUs := 3600000000 } :=
    SessionTable.current_setCurrent within _
  have room : ∀ i : Fin maxSessions,
      (getElem (found d).sessions i.val i.isLt).totalUs +
        250000 * steps.countP Step.isTick < 2 ^ 64 := by
    rw [finds]
    decide
  obtain ⟨working, metered, tracked, total, goes⟩ := start_work healthy { year := 2025 }
  rw [finds, current] at total
  have total_eq : working.tracker.table.current.totalUs = 3600000000 := total
  have bounded := loss_bounded d healthy.fits healthy.faultless
  refine ⟨d, healthy.fits, healthy.faultless, stored, room, ?_⟩
  generalize Tracker.start d = up at goes bounded
  obtain ⟨d', three, tracked', total'⟩ :=
    metered.tracked_ticks 3 tracked rfl (by rw [total_eq]; decide)
  have total_late : d'.tracker.table.current.totalUs = 3600750000 := by
    rw [total', total_eq]
    rfl
  have ran : runMetered up {} steps = some (d', ⟨3, 3⟩) := (goes [.tick, .tick, .tick]).trans three
  have late := (bounded steps).1 d' ⟨3, 3⟩ ran
  obtain ⟨d'', ticks, -, total'', next⟩ :=
    (metered.run three).tracked_tick tracked' rfl (by rw [total_late]; decide)
  have fourth : Step.tick.run d' = some d'' := by rw [Step.run, ticks, unlessOverflow]
  have ran' : runMetered up {} (steps ++ [.tick]) = some (d'', ⟨0, 4⟩) := by
    rw [runMetered_append ran, runMetered_cons fourth]
    exact congrArg (fun m => some (d'', m)) next
  have saved := (bounded (steps ++ [.tick])).1 d'' ⟨0, 4⟩ ran'
  have written := late.ticks d'' ticks
  rw [if_pos ⟨tracked', rfl⟩] at written
  have stored_late : d'.tracker.table.current.totalUs =
      (storedTable d').current.totalUs + 250000 * 3 := late.behind
  have stored_saved : d''.tracker.table.current.totalUs =
      (storedTable d'').current.totalUs + 250000 * 0 := saved.behind
  rw [total_late, usPerTick] at total''
  refine ⟨d', d'', ran, late, total_late, by omega, tracked', ticks, written, ran', saved, by omega⟩

end Keypad.Tracker
