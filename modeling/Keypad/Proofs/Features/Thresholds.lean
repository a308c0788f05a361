import Keypad.Proofs.Features.Sessions
import Keypad.Proofs.Features.Turns

/-! What a threshold costs that is set while the time tracker does not run. It is saved with the
sessions in memory. Those are the stored ones once the tracker has been used since the keypad came
up; before that they are none, and whatever was stored is gone. -/
namespace Keypad

open Tracker (storedTable)

namespace Features

variable {g : Geometry} {d d' : Device g} {used : Bool}

/-- What the sessions in memory are while the tracker does not run: the stored ones if it was used
since the keypad came up, and none otherwise. -/
def Idle (used : Bool) (d : Device g) : Prop :=
  if used then storedTable d = d.tracker.table else d.tracker.table = .factory

structure Rests (used : Bool) (d : Device g) : Prop where
  healthy : d.settings.store.Healthy
  within : d.tracker.table.active.toNat < maxSessions
  idle : Idle used d

structure Remembers (used : Bool) (d : Device g) : Prop where
  healthy : d.settings.store.Healthy
  within : d.tracker.table.active.toNat < maxSessions
  idle : d.active.current ≠ .timeTracker → Idle used d
  running : d.active.current = .timeTracker → used = true

inductive Use where
  /-- Presses come in, time goes on, and the host comes and goes. -/
  | outside (input : Input) (today : DateTime) (ready : Bool)
  | set (s : Setting)
  | handle
  | tick
  | switchTo (feature : Feature)
  | switchToCode (code : UInt8)
  | factoryReset
  | openSession
  | setMediumMs (ms : UInt64)
  | setLongMs (ms : UInt64)

namespace Use

def run (d : Device g) : Use → Option (Device g)
  | outside input today ready =>
    some { d with settings.input := input, today, host.ready := ready }
  | set s => some (d.onSettings s.run).2
  | handle => Tracker.unlessOverflow (Features.handle d)
  | tick => Tracker.unlessOverflow (Features.tick d)
  | switchTo feature => some (Features.switchTo d feature)
  | switchToCode code => some (Features.switchToCode d code).2
  | factoryReset => some (Features.factoryReset d)
  | openSession => some (Tracker.openSession d).2
  | setMediumMs ms => some (Tracker.setMediumMs d ms).2
  | setLongMs ms => some (Tracker.setLongMs d ms).2

/-- Whether the sessions in memory are read or saved on the way. -/
def reaches : Use → Bool
  | switchTo feature => feature == .timeTracker
  | switchToCode code => Feature.ofCode? code == some .timeTracker
  | factoryReset | openSession | setMediumMs _ | setLongMs _ => true
  | outside .. | set _ | handle | tick => false

def runAll (d : Device g) (used : Bool) : List Use → Option (Device g × Bool)
  | [] => some (d, used)
  | use :: rest =>
    match use.run d with
    | none => none
    | some d' => runAll d' (used || use.reaches) rest

end Use

theorem Idle.table_eq (idle : Idle used d) :
    (if used then storedTable d else .factory) = d.tracker.table := by
  cases used with
  | false => exact Eq.symm idle
  | true => exact idle

theorem Rests.beside {kind : RecordKind} (rests : Rests used d) (beside : Beside kind d d')
    (other : kind ≠ .sessionTable) : Rests used d' where
  healthy := beside.store.healthy
  within := beside.tracker ▸ rests.within
  idle := by
    rw [Idle, beside.tracker, beside.storedTable_eq other]
    exact rests.idle

theorem rests_of_saves {tracker : Tracker} (healthy : d.settings.store.Healthy)
    (saves : Tracker.Saves d tracker d') (within : tracker.table.active.toNat < maxSessions) :
    Rests true d' := by
  have saved := saves.saved healthy
  rw [← saves.tracker_eq] at saved within
  exact ⟨saved.healthy, within, Tracker.storedTable_of_saved within saved⟩

theorem Rests.remembers (rests : Rests used d) (resting : d.active.current ≠ .timeTracker) :
    Remembers used d :=
  ⟨rests.healthy, rests.within, fun _ => rests.idle, fun running => absurd running resting⟩

theorem Rests.remembers_saved (rests : Rests true d) : Remembers true d :=
  ⟨rests.healthy, rests.within, fun _ => rests.idle, fun _ => rfl⟩

theorem Remembers.rests (remembers : Remembers used d)
    (resting : d.active.current ≠ .timeTracker) : Rests used d :=
  ⟨remembers.healthy, remembers.within, remembers.idle resting⟩

theorem Remembers.beside {kind : RecordKind} (remembers : Remembers used d)
    (beside : Beside kind d d') (other : kind ≠ .sessionTable) : Remembers used d' where
  healthy := beside.store.healthy
  within := beside.tracker ▸ remembers.within
  idle := by
    rw [beside.active]
    exact fun resting => ((remembers.rests resting).beside beside other).idle
  running := by
    rw [beside.active]
    exact remembers.running

/-- What goes down leaves its sessions stored, if it has any. -/
theorem Remembers.stop (remembers : Remembers used d) :
    Rests used (stop d d.active.current) := by
  have healthy := remembers.healthy
  cases current : d.active.current with
  | clipboard =>
    have rests := remembers.rests (by rw [current]; decide)
    exact rests.beside (clipboard_send_beside healthy none 0) (by decide)
  | timeTracker =>
    obtain rfl := remembers.running current
    exact rests_of_saves healthy (Tracker.stop_saves d) remembers.within
  | none => exact remembers.rests (by rw [current]; decide)

theorem Rests.start (rests : Rests used d) :
    Remembers (used || d.active.current == .timeTracker) (start d d.active.current) := by
  have healthy := rests.healthy
  cases current : d.active.current with
  | clipboard =>
    have beside := clipboard_start_beside healthy
    rw [show (Feature.clipboard == .timeTracker) = false from rfl, Bool.or_false]
    exact (rests.remembers (by rw [current]; decide)).beside beside (by decide)
  | timeTracker =>
    obtain ⟨started, -, -, active⟩ := Tracker.start_started healthy
    rw [show (Feature.timeTracker == .timeTracker) = true from rfl, Bool.or_true]
    have runs : (Features.start d .timeTracker).active.current = .timeTracker := by
      rw [Features.start, active, current]
    cases started with
    | loaded _ retouched store =>
      refine ⟨?_, ?_, fun resting => absurd runs resting, fun _ => rfl⟩
      · rw [Features.start, store]
        exact healthy
      · rw [Features.start, retouched.active_eq]
        exact SessionTable.active_decode_lt _
    | reset _ retouched store =>
      refine ⟨?_, ?_, fun resting => absurd runs resting, fun _ => rfl⟩
      · rw [Features.start, store]
        exact (healthy.save (by decide) .sessionTable SessionTable.factory).2.healthy
      · rw [Features.start, retouched.active_eq]
        decide
  | none =>
    rw [show (Feature.none == .timeTracker) = false from rfl, Bool.or_false]
    exact rests.remembers (by rw [current]; decide)

theorem Remembers.switchTo (remembers : Remembers used d) (feature : Feature) :
    Remembers (used || feature == .timeTracker) (switchTo d feature) := by
  let chosen : ActiveFeature :=
    { (Features.stop d d.active.current).active with feature, isSet := feature != .none }
  let between : Device g := { Features.stop d d.active.current with active := chosen }
  have current : between.active.current = feature := by
    cases feature <;> rfl
  have stopped := remembers.stop
  have rests : Rests used between := ⟨stopped.healthy, stopped.within, stopped.idle⟩
  have started := rests.start
  rw [current] at started
  exact started.beside (trySave_beside started.healthy) (by decide)

theorem Remembers.switchToCode (remembers : Remembers used d) (code : UInt8) :
    Remembers (used || Feature.ofCode? code == some .timeTracker) (switchToCode d code).2 := by
  unfold Features.switchToCode
  cases Feature.ofCode? code with
  | none =>
    rw [show ((none : Option Feature) == some .timeTracker) = false from rfl, Bool.or_false]
    exact remembers
  | some feature => exact remembers.switchTo feature

theorem factoryReset_remembers (healthy : d.settings.store.Healthy) :
    Remembers true (factoryReset d) := by
  obtain ⟨reset_healthy, stored⟩ := Tracker.factoryReset_stores healthy
  let cleared : Device g := { Tracker.factoryReset d with active := .factory }
  have within : SessionTable.factory.active.toNat < maxSessions := by decide
  have rests : Rests true cleared := ⟨reset_healthy, within, stored⟩
  exact rests.remembers_saved.switchTo .clipboard

/-- Whether the tracker is used as the keypad comes up: it is the feature that is stored, or
everything begins anew. -/
def usedAtStart (store : Store g) : Bool :=
  let active := store.stored ActiveFeature .activeFeature
  active.magic != recordMagic || active.current == .timeTracker

theorem init_remembers (healthy : d.settings.store.Healthy) (fresh : d.tracker.table = .factory) :
    Remembers (usedAtStart d.settings.store) (init d) := by
  let active := d.settings.store.stored ActiveFeature .activeFeature
  let chosen : Device g := { d with active }
  have rests : Rests false chosen := by
    refine ⟨healthy, ?_, fresh⟩
    show d.tracker.table.active.toNat < maxSessions
    rw [fresh]
    decide
  rw [init_of_healthy healthy]
  dsimp only
  by_cases valid : active.magic = recordMagic
  · have started := rests.start
    have found : usedAtStart d.settings.store = (false || active.current == .timeTracker) := by
      simp [usedAtStart, active, valid]
    rw [if_pos valid, found]
    exact started
  · have anew : usedAtStart d.settings.store = true := by simp [usedAtStart, active, valid]
    rw [if_neg valid, anew]
    exact factoryReset_remembers healthy

theorem Remembers.handle (remembers : Remembers used d) (handled : handle d = (.ok (), d')) :
    Remembers used d' := by
  have healthy := remembers.healthy
  unfold Features.handle at handled
  cases current : d.active.current with
  | clipboard =>
    simp only [current] at handled
    obtain rfl : Clipboard.handle d = d' := congrArg Prod.snd handled
    exact remembers.beside (clipboard_handle_beside healthy) (by decide)
  | timeTracker =>
    simp only [current] at handled
    have drained := Tracker.drain_retouches d
    have answered := answers_answered (Tracker.pressAll_answers handled)
      (drained.store ▸ healthy) remembers.within
    refine ⟨answered.healthy, ?_, ?_, fun _ => remembers.running current⟩
    · rw [answered.opened.active]
      exact Nat.mod_lt _ (by decide)
    · rw [answered.active]
      exact fun resting => absurd current resting
  | none =>
    simp only [current] at handled
    obtain rfl : d = d' := congrArg Prod.snd handled
    exact remembers

theorem Remembers.tick (remembers : Remembers used d) (ticked : tick d = (.ok (), d')) :
    Remembers used d' := by
  by_cases current : d.active.current = .timeTracker
  · have ticks : Tracker.tick d = (.ok (), d') := by rwa [Features.tick, current] at ticked
    have outcome := ticked_counted remembers.healthy (Tracker.tick_ticked ticks)
    split at outcome
    · obtain ⟨healthy, ⟨s, -, table⟩, -, active⟩ := outcome
      refine ⟨healthy, ?_, ?_, fun _ => remembers.running current⟩
      · rw [table]
        exact remembers.within
      · rw [active]
        exact fun resting => absurd current resting
    · exact outcome ▸ remembers
  · have same : Features.tick d = (.ok (), d) := by
      unfold Features.tick
      split
      · contradiction
      · rfl
    obtain rfl : d = d' := congrArg Prod.snd (same.symm.trans ticked)
    exact remembers

theorem Remembers.openSession (remembers : Remembers used d) :
    Remembers true (Tracker.openSession d).2 := by
  obtain ⟨⟨t, retouched, saves⟩, -⟩ := Tracker.openSession_opens d
  have within : t.active.toNat < maxSessions := retouched.active_eq ▸ remembers.within
  apply (rests_of_saves remembers.healthy saves ?_).remembers_saved
  show (t.opened d.today).active.toNat < maxSessions
  rw [SessionTable.toNat_active_opened within]
  exact Nat.mod_lt _ (by decide)

theorem Remembers.run (remembers : Remembers used d) {use : Use} (ran : use.run d = some d') :
    Remembers (used || use.reaches) d' := by
  cases use with
  | outside input today ready =>
    obtain rfl := Option.some.inj ran
    rw [Use.reaches, Bool.or_false]
    exact ⟨remembers.healthy, remembers.within, remembers.idle, remembers.running⟩
  | set s =>
    obtain rfl := Option.some.inj ran
    rw [Use.reaches, Bool.or_false]
    exact remembers.beside ⟨s.run_keeps remembers.healthy, rfl, rfl⟩ (by decide)
  | handle =>
    rw [Use.reaches, Bool.or_false]
    exact remembers.handle (Tracker.unlessOverflow_eq_some ran)
  | tick =>
    rw [Use.reaches, Bool.or_false]
    exact remembers.tick (Tracker.unlessOverflow_eq_some ran)
  | switchTo feature =>
    obtain rfl := Option.some.inj ran
    exact remembers.switchTo feature
  | switchToCode code =>
    obtain rfl := Option.some.inj ran
    exact remembers.switchToCode code
  | factoryReset =>
    obtain rfl := Option.some.inj ran
    rw [Use.reaches, Bool.or_true]
    exact factoryReset_remembers remembers.healthy
  | openSession =>
    obtain rfl := Option.some.inj ran
    rw [Use.reaches, Bool.or_true]
    exact remembers.openSession
  | setMediumMs ms =>
    obtain rfl := Option.some.inj ran
    rw [Use.reaches, Bool.or_true]
    exact (rests_of_saves remembers.healthy (Tracker.setMediumMs_saves d ms)
      remembers.within).remembers_saved
  | setLongMs ms =>
    obtain rfl := Option.some.inj ran
    rw [Use.reaches, Bool.or_true]
    exact (rests_of_saves remembers.healthy (Tracker.setLongMs_saves d ms)
      remembers.within).remembers_saved

theorem Remembers.runAll {used' : Bool} {uses : List Use} (remembers : Remembers used d)
    (ran : Use.runAll d used uses = some (d', used')) : Remembers used' d' := by
  induction uses generalizing d used with
  | nil =>
    obtain ⟨rfl, rfl⟩ := Prod.mk.inj (Option.some.inj ran)
    exact remembers
  | cons use rest ih =>
    rw [Use.runAll] at ran
    cases first : use.run d with
    | none => simp [first] at ran
    | some between =>
      simp only [first] at ran
      exact ih (remembers.run first) ran

/-- With no feature chosen, nothing but the choice is read when a device comes up. -/
theorem init_of_none (healthy : d.settings.store.Healthy)
    (chosen : d.settings.store.stored ActiveFeature .activeFeature = .factory) :
    init d = { d with active := .factory } := by
  rw [init_of_healthy healthy, chosen]
  rfl

/-- After any use of a keypad that came up with no fault about: a threshold that is set while the
tracker does not run changes nothing else in the store, if the tracker was used before. If it was
not, the sessions are gone, and the other threshold is what it is by default. -/
theorem threshold_stored (store : Store g) (fits : g.Fits store.chip.capacity)
    (faultless : ∀ f ∈ store.chip.faults, f.count = 0) (input : Input) (longPressMs : UInt32)
    (board : List ButtonConfig) (today : DateTime) (uses : List Use)
    (ran : Use.runAll (init (.boot store input longPressMs board today)) (usedAtStart store) uses =
      some (d, used))
    (resting : d.active.current ≠ .timeTracker) (ms : UInt64) :
    let before := if used then storedTable d else .factory
    ((Tracker.setMediumMs d ms).1 = .ok () ∧
        storedTable (Tracker.setMediumMs d ms).2 = { before with mediumMs := ms }) ∧
      (Tracker.setLongMs d ms).1 = .ok () ∧
        storedTable (Tracker.setLongMs d ms).2 = { before with longMs := ms } := by
  have loaded := KeySettings.load_keeps ⟨fits, faultless⟩ input longPressMs board
  have came_up := init_remembers (d := .boot store input longPressMs board today) loaded.healthy rfl
  have start : usedAtStart (Device.boot store input longPressMs board today).settings.store =
      usedAtStart store := by
    rw [usedAtStart, usedAtStart, ← loaded.others ActiveFeature .activeFeature (by decide)]
    rfl
  rw [start] at came_up
  have rests := (came_up.runAll ran).rests resting
  intro before
  have before_eq : before = d.tracker.table := rests.idle.table_eq
  rw [before_eq]
  refine ⟨⟨?_, ?_⟩, ?_, ?_⟩
  · exact (rests.healthy.save (by decide) .sessionTable { d.tracker.table with mediumMs := ms }).1
  · exact Tracker.storedTable_of_saved (t := { d.tracker.table with mediumMs := ms }) rests.within
      ((Tracker.setMediumMs_saves d ms).saved rests.healthy)
  · exact (rests.healthy.save (by decide) .sessionTable { d.tracker.table with longMs := ms }).1
  · exact Tracker.storedTable_of_saved (t := { d.tracker.table with longMs := ms }) rests.within
      ((Tracker.setLongMs_saves d ms).saved rests.healthy)

/-- An hour of work is stored, and no feature runs. A threshold that is set at once costs it; one
that is set after the tracker has been up and down does not. -/
theorem threshold_stored_at_rest :
    let recorded : SessionTable := SessionTable.factory.setCurrent { workUs := 3600000000 }
    ∃ store : Store Bench.Layout.unit.geometry,
      Bench.Layout.unit.geometry.Fits store.chip.capacity ∧
      (∀ f ∈ store.chip.faults, f.count = 0) ∧
      let up := init (.boot store (.script {}) 500 [] { year := 2024 })
      usedAtStart store = false ∧ up.active.current ≠ .timeTracker ∧ storedTable up = recorded ∧
        (Tracker.setMediumMs up 5).1 = .ok () ∧
        storedTable (Tracker.setMediumMs up 5).2 = { SessionTable.factory with mediumMs := 5 } ∧
        ∃ d, Use.runAll up false [.switchTo .timeTracker, .switchTo .none] = some (d, true) ∧
          d.active.current ≠ .timeTracker ∧ recorded.SameTimes (storedTable d) ∧
          (Tracker.setMediumMs d 5).1 = .ok () ∧
          storedTable (Tracker.setMediumMs d 5).2 = { storedTable d with mediumMs := 5 } := by
  intro recorded
  obtain ⟨found, healthy, stored, chosen⟩ := exists_chosen recorded (by decide) .factory
  have unused : usedAtStart found.settings.store = false := by
    rw [usedAtStart, chosen]
    rfl
  let booted := Device.boot found.settings.store (.script {}) 500 [] { year := 2024 }
  have loaded : found.settings.store.Keeps .keyTable booted.settings.store :=
    KeySettings.load_keeps healthy (.script {}) 500 []
  have up_stored : storedTable booted = recorded :=
    (loaded.others SessionTable .sessionTable (by decide)).trans stored
  have up_chosen : booted.settings.store.stored ActiveFeature .activeFeature = .factory :=
    (loaded.others ActiveFeature .activeFeature (by decide)).trans chosen
  have up_init := init_of_none (d := booted) loaded.healthy up_chosen
  have set : ∀ uses d used, Use.runAll (init booted) false uses = some (d, used) →
      d.active.current ≠ .timeTracker →
        (Tracker.setMediumMs d 5).1 = .ok () ∧
          storedTable (Tracker.setMediumMs d 5).2 =
            { if used then storedTable d else .factory with mediumMs := 5 } := by
    intro uses d used ran resting
    exact (threshold_stored found.settings.store healthy.fits healthy.faultless (.script {}) 500 []
      { year := 2024 } uses (by rw [unused]; exact ran) resting 5).1
  refine ⟨found.settings.store, healthy.fits, healthy.faultless, ?_⟩
  have resting : (init booted).active.current ≠ .timeTracker := by
    rw [up_init]
    show ActiveFeature.factory.current ≠ .timeTracker
    decide
  have same : storedTable (init booted) = recorded := by
    rw [up_init]
    exact up_stored
  have sound : Sound (init booted) :=
    sound_of_other resting (by rw [up_init]; exact loaded.healthy) (by rw [same]; rfl)
  generalize init booted = up at set resting same sound
  obtain ⟨ok, forgets⟩ := set [] up false rfl resting
  obtain ⟨sound_up, same_up⟩ := switchTo_goes_on sound .timeTracker
  obtain ⟨-, same_down⟩ := switchTo_goes_on sound_up .none
  let down := switchTo (switchTo up .timeTracker) .none
  have ran :
      Use.runAll up false [.switchTo .timeTracker, .switchTo .none] = some (down, true) := rfl
  have resting_down : down.active.current ≠ .timeTracker := by
    rw [current_switchTo]
    decide
  obtain ⟨ok_down, keeps⟩ := set _ down true ran resting_down
  have stored_same := same_up.trans same_down
  rw [sessions_of_other resting, same, sessions_of_other resting_down] at stored_same
  exact ⟨unused, resting, same, ok, forgets, down, ran, resting_down, stored_same, ok_down, keeps⟩

end Features

end Keypad
