import Keypad.Features.Running
import Keypad.Proofs.Features.Clipboard
import Keypad.Proofs.Features.Codec
import Keypad.Proofs.Tracker.Operations

namespace Keypad

open Tracker (storedTable Retouches Saves Opens Answers Ticked)

namespace Features

variable {g : Geometry} {d d' d'' : Device g} {kind : RecordKind}

/-- What leaves the tracker and the choice of the feature alone, and stores records of one kind at
most. -/
structure Beside (kind : RecordKind) (d d' : Device g) : Prop where
  store : d.settings.store.Keeps kind d'.settings.store
  tracker : d'.tracker = d.tracker
  active : d'.active = d.active

theorem Beside.refl (healthy : d.settings.store.Healthy) : Beside kind d d :=
  ⟨healthy.keeps kind, rfl, rfl⟩

theorem Beside.trans (first : Beside kind d d') (second : Beside kind d' d'') :
    Beside kind d d'' :=
  ⟨first.store.trans second.store, second.tracker.trans first.tracker,
    second.active.trans first.active⟩

theorem Beside.light (beside : Beside kind d d') (l : Light) : Beside kind d (d'.light l) :=
  ⟨beside.store, beside.tracker, beside.active⟩

theorem Beside.storedTable_eq (beside : Beside kind d d') (other : kind ≠ .sessionTable) :
    storedTable d' = storedTable d :=
  beside.store.others SessionTable .sessionTable other.symm

theorem assign_beside (healthy : d.settings.store.Healthy) (key : UInt8) (value : KeyValue)
    (color : Color) : Beside .keyTable d (Clipboard.assign d key value color) := by
  have valued := KeySettings.setValue_keeps healthy key value
  have colored := KeySettings.setColor_keeps valued.healthy key color
  exact ⟨valued.trans colored, rfl, rfl⟩

theorem clipboard_start_beside (healthy : d.settings.store.Healthy) :
    Beside .keyTable d (Clipboard.start d) := by
  have assigned : Beside .keyTable d (Clipboard.assignAll d Clipboard.keys) := by
    apply Clipboard.assignAll_induction (P := Beside .keyTable d) _ _ (.refl healthy)
    intro d' key value color beside
    exact beside.trans (assign_beside beside.store.healthy key value color)
  exact assigned.light _

theorem clipboard_send_beside (healthy : d.settings.store.Healthy) (code : Option UInt8)
    (modifiers : UInt8) : Beside .keyTable d (Clipboard.send d code modifiers) := by
  unfold Clipboard.send
  split
  · split
    · exact ⟨healthy.keeps _, rfl, rfl⟩
    · simp only
      split
      · exact ⟨healthy.keeps _, rfl, rfl⟩
      · exact ⟨healthy.keeps _, rfl, rfl⟩
  · exact .refl healthy

theorem clipboard_handle_beside (healthy : d.settings.store.Healthy) :
    Beside .keyTable d (Clipboard.handle d) := by
  have drained : Beside .keyTable d d.drain.2 := ⟨healthy.keeps _, rfl, rfl⟩
  exact drained.trans (clipboard_send_beside drained.store.healthy _ _)

theorem trySave_beside (healthy : d.settings.store.Healthy) :
    Beside .activeFeature d (trySave d) :=
  ⟨(healthy.save (by decide) .activeFeature d.active).2.keeps, rfl, rfl⟩

/-- The sessions, wherever they are kept now. -/
def sessions (d : Device g) : SessionTable :=
  if d.active.current = .timeTracker then d.tracker.table else storedTable d

theorem sessions_of_tracking (current : d.active.current = .timeTracker) :
    sessions d = d.tracker.table := if_pos current

theorem sessions_of_other (other : d.active.current ≠ .timeTracker) :
    sessions d = storedTable d := if_neg other

theorem Beside.sessions_eq (beside : Beside kind d d') (other : kind ≠ .sessionTable) :
    sessions d' = sessions d := by
  unfold sessions
  rw [beside.active, beside.tracker, beside.storedTable_eq other]

/-- What holds between calls, from the first start on. -/
structure Sound (d : Device g) : Prop where
  healthy : d.settings.store.Healthy
  valid : (sessions d).magic = recordMagic
  within : (sessions d).active.toNat < maxSessions
  running : d.active.current = .timeTracker → d.tracker.running = true

theorem Beside.sound (beside : Beside kind d d') (other : kind ≠ .sessionTable) (sound : Sound d) :
    Sound d' where
  healthy := beside.store.healthy
  valid := beside.sessions_eq other ▸ sound.valid
  within := beside.sessions_eq other ▸ sound.within
  running := by
    rw [beside.active, beside.tracker]
    exact sound.running

theorem stop_stores (sound : Sound d) :
    (stop d d.active.current).settings.store.Healthy ∧
      storedTable (stop d d.active.current) = sessions d := by
  have healthy := sound.healthy
  have within := sound.within
  cases current : d.active.current with
  | clipboard =>
    have beside := clipboard_send_beside healthy none 0
    rw [sessions_of_other (by simp [current])]
    exact ⟨beside.store.healthy, beside.storedTable_eq (by decide)⟩
  | timeTracker =>
    have saved := (Tracker.stop_saves d).saved healthy
    rw [sessions_of_tracking current] at within ⊢
    exact ⟨saved.healthy, Tracker.storedTable_of_saved within saved⟩
  | none =>
    rw [sessions_of_other (by simp [current])]
    exact ⟨healthy, rfl⟩

theorem sound_of_other (other : d.active.current ≠ .timeTracker)
    (healthy : d.settings.store.Healthy) (valid : (storedTable d).magic = recordMagic) :
    Sound d := by
  have kept := sessions_of_other other
  constructor
  · exact healthy
  · rwa [kept]
  · rw [kept]
    exact SessionTable.active_decode_lt _
  · exact fun tracking => absurd tracking other

/-- A feature that comes up goes on with the stored sessions. -/
theorem start_goes_on (healthy : d.settings.store.Healthy)
    (valid : (storedTable d).magic = recordMagic) :
    Sound (start d d.active.current) ∧
      (storedTable d).SameTimes (sessions (start d d.active.current)) := by
  cases current : d.active.current with
  | clipboard =>
    have other : d.active.current ≠ .timeTracker := by simp [current]
    have beside := clipboard_start_beside healthy
    rw [start, beside.sessions_eq (by decide), sessions_of_other other]
    exact ⟨beside.sound (by decide) (sound_of_other other healthy valid), .refl _⟩
  | timeTracker =>
    obtain ⟨started, -, running, active⟩ := Tracker.start_started healthy
    have kept : sessions (Tracker.start d) = (Tracker.start d).tracker.table := by
      apply sessions_of_tracking
      rw [active, current]
    cases started with
    | reset invalid => exact absurd valid invalid
    | loaded _ retouched store =>
      rw [start]
      constructor
      · constructor
        · rwa [store]
        · rw [kept, retouched.magic_eq]
          exact valid
        · rw [kept, retouched.active_eq]
          exact SessionTable.active_decode_lt _
        · exact fun _ => running
      · rw [kept]
        exact retouched.sameTimes
  | none =>
    have other : d.active.current ≠ .timeTracker := by simp [current]
    rw [start, sessions_of_other other]
    exact ⟨sound_of_other other healthy valid, .refl _⟩

theorem switchTo_goes_on (sound : Sound d) (feature : Feature) :
    Sound (switchTo d feature) ∧ (sessions d).SameTimes (sessions (switchTo d feature)) := by
  -- What goes down stores the sessions, what comes up reads them, and the save of the choice in the
  -- end is of another record.
  obtain ⟨healthy, stored⟩ := stop_stores sound
  let chosen : ActiveFeature :=
    { (stop d d.active.current).active with feature, isSet := feature != .none }
  let between : Device g := { stop d d.active.current with active := chosen }
  have current : between.active.current = feature := by
    cases feature <;> rfl
  have valid : (storedTable between).magic = recordMagic := stored ▸ sound.valid
  obtain ⟨sound', same⟩ := start_goes_on (d := between) healthy valid
  rw [current] at sound' same
  have beside := trySave_beside sound'.healthy
  have switched : switchTo d feature = trySave (start between feature) := rfl
  rw [switched]
  refine ⟨beside.sound (by decide) sound', ?_⟩
  rw [beside.sessions_eq (by decide)]
  exact stored ▸ same

theorem switchToCode_goes_on (sound : Sound d) (code : UInt8) :
    Sound (switchToCode d code).2 ∧ (sessions d).SameTimes (sessions (switchToCode d code).2) := by
  unfold switchToCode
  cases Feature.ofCode? code with
  | none => exact ⟨sound, .refl _⟩
  | some feature => exact switchTo_goes_on sound feature

def openings (events : List ButtonEvent) : Nat :=
  events.countP fun event => event.key == Tracker.functionKey && event.long

structure Answered (n : Nat) (d d' : Device g) : Prop where
  healthy : d'.settings.store.Healthy
  opened : d.tracker.table.Opened n d'.tracker.table
  valid : d'.tracker.table.magic = d.tracker.table.magic
  running : d'.tracker.running = d.tracker.running
  active : d'.active = d.active

theorem answers_answered {events : List ButtonEvent} (answers : Answers d events d')
    (healthy : d.settings.store.Healthy) (within : d.tracker.table.active.toNat < maxSessions) :
    Answered (openings events) d d' := by
  -- An opening moves the place of the session, so that `within` is carried along.
  induction answers with
  | nil d => exact ⟨healthy, .zero within (.refl _), rfl, rfl, rfl⟩
  | cons pressed rest ih =>
    cases pressed with
    | retouched plain retouches =>
      have later := ih (retouches.store ▸ healthy) (retouches.table.active_eq ▸ within)
      rw [openings, List.countP_cons_of_neg (by simpa using plain)]
      exact ⟨later.healthy, later.opened.of_sameTimes retouches.table.sameTimes,
        later.valid.trans retouches.table.magic_eq, later.running.trans retouches.running,
        later.active.trans retouches.active⟩
    | opened function long opens =>
      obtain ⟨⟨t, retouched, saves⟩, -⟩ := opens
      have within_t : t.active.toNat < maxSessions := retouched.active_eq ▸ within
      have saved := saves.saved healthy
      have later := ih saved.healthy (by
        rw [saves.tracker_eq, SessionTable.toNat_active_opened within_t]
        exact Nat.mod_lt _ (by decide))
      obtain ⟨healthy', opened, valid, running, active⟩ := later
      rw [saves.tracker_eq] at opened valid running
      rw [openings, List.countP_cons_of_pos (by simp [function, long])]
      exact ⟨healthy', (opened.succ within_t).of_sameTimes retouched.sameTimes,
        valid.trans retouched.magic_eq, running, active.trans saves.active⟩

def toOpen (d : Device g) : Nat :=
  if d.active.current = .timeTracker then openings d.settings.input.drain.1 else 0

theorem handle_opens (sound : Sound d) (handled : handle d = (.ok (), d')) :
    Sound d' ∧ (sessions d).Opened (toOpen d) (sessions d') := by
  have healthy := sound.healthy
  have within := sound.within
  unfold handle at handled
  unfold toOpen
  cases current : d.active.current with
  | clipboard =>
    simp only [current] at handled
    obtain rfl : Clipboard.handle d = d' := congrArg Prod.snd handled
    have beside := clipboard_handle_beside healthy
    rw [beside.sessions_eq (by decide), if_neg (by decide)]
    exact ⟨beside.sound (by decide) sound, .zero within (.refl _)⟩
  | timeTracker =>
    simp only [current] at handled
    have drained := Tracker.drain_retouches d
    have answers := Tracker.pressAll_answers handled
    have kept := sessions_of_tracking current
    rw [kept] at within
    have answered := answers_answered answers (drained.store ▸ healthy) within
    have kept' := sessions_of_tracking (d := d') (by rw [answered.active]; exact current)
    rw [kept, kept', if_pos rfl]
    refine ⟨⟨answered.healthy, ?_, ?_, fun _ => ?_⟩, answered.opened⟩
    · rw [kept', answered.valid]
      exact kept ▸ sound.valid
    · rw [kept', answered.opened.active]
      exact Nat.mod_lt _ (by decide)
    · rw [answered.running]
      exact sound.running current
  | none =>
    simp only [current] at handled
    obtain rfl : d = d' := congrArg Prod.snd handled
    rw [if_neg (by decide)]
    exact ⟨sound, .zero within (.refl _)⟩

structure TickCounted (d d' : Device g) : Prop where
  healthy : d'.settings.store.Healthy
  table : ∃ s, d.tracker.table.current.Counted s ∧ d'.tracker.table = d.tracker.table.setCurrent s
  running : d'.tracker.running = d.tracker.running
  active : d'.active = d.active

theorem ticked_counted (healthy : d.settings.store.Healthy) (ticked : Ticked d d') :
    if Tracker.tracks d then TickCounted d d' else d' = d := by
  cases ticked with
  | idle untracked same =>
    rw [untracked]
    exact same
  | counted s tracked counted room tracker store active =>
    rw [if_pos tracked]
    refine ⟨store ▸ healthy, ⟨s, counted, ?_⟩, ?_, active⟩
    · rw [tracker]
    · rw [tracker]
  | saved s tracked counted full saves =>
    rw [if_pos tracked]
    refine ⟨(saves.saved healthy).healthy, ⟨s, counted, ?_⟩, ?_, saves.active⟩
    · rw [saves.tracker_eq]
    · rw [saves.tracker_eq]

def counts (d : Device g) : Prop :=
  d.active.current = .timeTracker ∧ (sessions d).current.isTracking = true

instance (d : Device g) : Decidable (counts d) := inferInstanceAs (Decidable (_ ∧ _))

theorem counts_iff_tracks (sound : Sound d) (current : d.active.current = .timeTracker) :
    counts d ↔ Tracker.tracks d = true := by
  simp [counts, Tracker.tracks, current, sessions_of_tracking current, sound.running current]

theorem tick_counts (sound : Sound d) (ticked : tick d = (.ok (), d')) :
    Sound d' ∧
      if counts d then (sessions d).CountsTick (sessions d') else sessions d' = sessions d := by
  have within := sound.within
  by_cases current : d.active.current = .timeTracker
  · have ticks : Tracker.tick d = (.ok (), d') := by rwa [tick, current] at ticked
    have outcome := ticked_counted sound.healthy (Tracker.tick_ticked ticks)
    have kept := sessions_of_tracking current
    rw [kept] at within
    by_cases tracked : Tracker.tracks d = true
    · rw [if_pos tracked] at outcome
      obtain ⟨healthy, ⟨s, counted, table⟩, running, active⟩ := outcome
      have kept' : sessions d' = d.tracker.table.setCurrent s := by
        rw [sessions_of_tracking (by rw [active]; exact current), table]
      rw [if_pos ((counts_iff_tracks sound current).2 tracked), kept, kept']
      refine ⟨⟨healthy, ?_, ?_, fun _ => ?_⟩, .setCurrent within counted⟩
      · exact kept' ▸ kept ▸ sound.valid
      · exact kept' ▸ within
      · exact running.trans (sound.running current)
    · rw [if_neg tracked] at outcome
      subst outcome
      rw [if_neg (mt (counts_iff_tracks sound current).1 tracked)]
      exact ⟨sound, rfl⟩
  · have same : d = d' := by
      unfold tick at ticked
      split at ticked
      · contradiction
      · exact congrArg Prod.snd ticked
    subst same
    rw [if_neg (fun h => current h.1)]
    exact ⟨sound, rfl⟩

theorem factoryReset_goes_on (healthy : d.settings.store.Healthy) :
    Sound (factoryReset d) ∧ SessionTable.factory.SameTimes (sessions (factoryReset d)) := by
  obtain ⟨stored_healthy, stored⟩ := Tracker.factoryReset_stores healthy
  let cleared : Device g := { Tracker.factoryReset d with active := .factory }
  have other : cleared.active.current ≠ .timeTracker := by
    show ActiveFeature.factory.current ≠ .timeTracker
    decide
  have empty : storedTable cleared = .factory := stored
  have sound := sound_of_other other stored_healthy (congrArg SessionTable.magic empty)
  obtain ⟨sound', same⟩ := switchTo_goes_on sound .clipboard
  rw [sessions_of_other other, empty] at same
  exact ⟨sound', same⟩

theorem init_of_healthy (healthy : d.settings.store.Healthy) :
    init d =
      let active := d.settings.store.stored ActiveFeature .activeFeature
      if active.magic = recordMagic then start { d with active } active.current
      else factoryReset d := by
  simp only [init, Device.onStore_eq, healthy.get ActiveFeature .activeFeature]

theorem init_goes_on (healthy : d.settings.store.Healthy)
    (valid : (storedTable d).magic = recordMagic) :
    Sound (init d) ∧
      ((storedTable d).SameTimes (sessions (init d)) ∨
        SessionTable.factory.SameTimes (sessions (init d))) := by
  let active : ActiveFeature := d.settings.store.stored ActiveFeature .activeFeature
  let chosen : Device g := { d with active }
  rw [init_of_healthy healthy]
  dsimp only
  split
  · obtain ⟨sound, same⟩ := start_goes_on (d := chosen) healthy valid
    exact ⟨sound, .inl same⟩
  · obtain ⟨sound, same⟩ := factoryReset_goes_on healthy
    exact ⟨sound, .inr same⟩

theorem exists_chosen (t : SessionTable) (within : t.active.toNat < maxSessions)
    (active : ActiveFeature) :
    ∃ d : Device Bench.Layout.unit.geometry, d.settings.store.Healthy ∧ storedTable d = t ∧
      d.settings.store.stored ActiveFeature .activeFeature = active := by
  obtain ⟨d, healthy, stored⟩ := Tracker.exists_stored t within
  have saved := (healthy.save (by decide) .activeFeature active).2
  generalize (d.settings.store.save .activeFeature active).2 = store at saved
  refine ⟨{ d with settings.store := store }, saved.healthy, ?_, ?_⟩
  · exact (saved.keeps.others SessionTable .sessionTable (by decide)).trans stored
  · exact saved.stored_eq.trans (ActiveFeature.decode_encode active)

end Features

end Keypad
