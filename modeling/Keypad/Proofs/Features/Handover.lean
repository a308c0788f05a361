import Keypad.Bench.Layouts
import Keypad.Proofs.Features.Turns
import Keypad.Proofs.Lights

/-! The time tracker runs while it is the chosen feature, and a switch stops it. Only where the
choice is replaced in memory, by a reset or by a record that is read, nobody stops it: it is left
running until the tracker is chosen again. -/
namespace Keypad

namespace Light

def Dark (lights : List Light) : Prop :=
  ∀ key ∈ [Tracker.workKey, Tracker.meetingKey, Tracker.functionKey], ∀ l,
    lights.find? (switches key) = some l → l = .off key

theorem Dark.mode {lights : List Light} (dark : Dark lights) (m : LightMode) :
    Dark (.mode m :: lights) := dark

theorem dark_off (lights : List Light) :
    Dark (.off Tracker.functionKey :: .off Tracker.meetingKey :: .off Tracker.workKey ::
      lights) := by
  intro key member l found
  simp only [List.mem_cons, List.not_mem_nil, or_false] at member
  obtain rfl | rfl | rfl := member
  all_goals exact (Option.some.inj found).symm

end Light

namespace Features

open Light (Dark dark_off)

variable {g : Geometry} {d d' : Device g} {left replaces : Bool} {feature : Feature}

/-- Whether the tracker is left running: its choice was replaced, and it has not been chosen
since. -/
def leaves (d : Device g) (left replaces : Bool) (d' : Device g) : Bool :=
  (left || replaces && d.active.current == .timeTracker) && d'.active.current != .timeTracker

/-- The tracker runs while it is chosen or was left running, and otherwise its lights are dark. -/
structure Attended (d : Device g) (left : Bool) : Prop where
  running : d.tracker.running = (d.active.current == .timeTracker || left)
  elsewhere : left = true → d.active.current ≠ .timeTracker
  dark : d.active.current ≠ .timeTracker → left = false → Dark d.lights

structure Between (d : Device g) (left : Bool) : Prop where
  running : d.tracker.running = left
  dark : left = false → Dark d.lights

theorem start_of_other (other : feature ≠ .timeTracker) (d : Device g) :
    (start d feature).tracker = d.tracker ∧ (Dark d.lights → Dark (start d feature).lights) := by
  cases feature with
  | clipboard =>
    rw [start, clipboard_start_eq]
    exact ⟨rfl, fun dark => dark.mode _⟩
  | timeTracker => contradiction
  | none => exact ⟨rfl, fun dark => dark⟩

theorem Between.start (between : Between d left) (current : d.active.current = feature) :
    Attended (start d feature) (left && feature != .timeTracker) := by
  have same : (Features.start d feature).active.current = feature := by rw [active_start, current]
  by_cases tracking : feature = .timeTracker
  · subst tracking
    refine ⟨?_, ?_, ?_⟩
    · rw [same]
      exact Tracker.running_start d
    · simp
    · exact fun other => absurd same other
  · obtain ⟨tracker, dark⟩ := start_of_other tracking d
    have kept : (left && feature != .timeTracker) = left := by simp [tracking]
    rw [kept]
    refine ⟨?_, ?_, ?_⟩
    · rw [same, tracker, between.running, beq_false_of_ne tracking, Bool.false_or]
    · intro _
      rw [same]
      exact tracking
    · exact fun _ stopped => dark (between.dark stopped)

theorem Attended.stop (attended : Attended d left) : Between (stop d d.active.current) left := by
  have running := attended.running
  cases current : d.active.current with
  | timeTracker =>
    have stopped : left = false := by
      rw [← Bool.not_eq_true]
      exact fun left => attended.elsewhere left current
    exact ⟨stopped.symm, fun _ => dark_off _⟩
  | clipboard =>
    obtain ⟨_, _, sends⟩ := clipboard_send_eq d none 0
    rw [current] at running
    rw [Features.stop, Clipboard.stop, sends]
    exact ⟨running, attended.dark (by simp [current])⟩
  | none =>
    rw [current] at running
    exact ⟨running, attended.dark (by simp [current])⟩

/-- A tracker whose choice is replaced is not stopped. -/
theorem Attended.replaced (attended : Attended d left) :
    Between d (left || d.active.current == .timeTracker) := by
  refine ⟨attended.running.trans (Bool.or_comm ..), ?_⟩
  intro stopped
  obtain ⟨stopped, other⟩ := Bool.or_eq_false_iff.1 stopped
  exact attended.dark (ne_of_beq_false other) stopped

theorem Attended.trySave (attended : Attended d left) : Attended (trySave d) left :=
  ⟨attended.running, attended.elsewhere, attended.dark⟩

theorem Attended.of_active (attended : Attended d left) (active : d'.active = d.active)
    (running : d'.tracker.running = d.tracker.running)
    (lights : d.active.current ≠ .timeTracker → d'.lights = d.lights) : Attended d' left where
  running := by rw [running, active, attended.running]
  elsewhere := by
    rw [active]
    exact attended.elsewhere
  dark := by
    intro other stopped
    rw [active] at other
    rw [lights other]
    exact attended.dark other stopped

theorem Attended.handle (attended : Attended d left) : Attended (handle d).2 left := by
  by_cases tracking : d.active.current = .timeTracker
  · apply attended.of_active (active_handle d)
    · rw [handle_of_tracking tracking]
      exact Tracker.running_handle d
    · exact fun other => absurd tracking other
  · obtain ⟨_, _, _, handles⟩ := handle_of_other tracking
    rw [handles]
    exact attended.of_active rfl rfl fun _ => rfl

theorem Attended.tick (attended : Attended d left) : Attended (tick d).2 left := by
  by_cases tracking : d.active.current = .timeTracker
  · apply attended.of_active (active_tick d)
    · rw [tick_of_tracking tracking]
      exact Tracker.running_tick d
    · exact fun other => absurd tracking other
  · rw [tick_of_other tracking]
    exact attended

theorem Attended.leaves_eq (attended : Attended d left) (active : d'.active = d.active) :
    leaves d left false d' = left := by
  cases left with
  | false => rfl
  | true => simp [leaves, active, attended.elsewhere rfl]

theorem Attended.next (attended : Attended d left) (turned : Turned d replaces d') :
    Attended d' (leaves d left replaces d') := by
  cases turned with
  | goesOn settings today ready =>
    rw [attended.leaves_eq]
    · exact attended.of_active rfl rfl fun _ => rfl
    · rfl
  | handles =>
    rw [attended.leaves_eq (active_handle d)]
    exact attended.handle
  | ticks times =>
    obtain ⟨active, ticked⟩ := Bench.ticks_induction
      (P := fun d' => d'.active = d.active ∧ Attended d' left)
      (fun d' before => ⟨(active_tick d').trans before.1, before.2.tick⟩) times ⟨rfl, attended⟩
    rw [attended.leaves_eq active]
    exact ticked
  | switches feature =>
    -- The tracker is stopped before anything comes up, and it is left running only if it was
    -- before.
    let chosen : Device g :=
      { Features.stop d d.active.current with active := d.active.choosing feature }
    have between : Between chosen left := ⟨attended.stop.running, attended.stop.dark⟩
    have started := between.start (ActiveFeature.current_choosing d.active feature)
    rw [leaves, current_switchTo, Bool.false_and, Bool.or_false, switchTo_eq]
    exact started.trySave
  | comesUp store active =>
    let found : Device g := { d with settings.store := store, active }
    have between : Between found _ := ⟨attended.replaced.running, attended.replaced.dark⟩
    have started := between.start rfl
    rw [leaves, active_start, Bool.true_and]
    exact started
  | beginsAnew store =>
    let cleared : Device g :=
      { Tracker.factoryReset { d with settings.store := store } with
        active := ⟨recordMagic, .clipboard, true⟩ }
    have between : Between cleared _ := ⟨attended.replaced.running, attended.replaced.dark⟩
    have started : Attended (Features.start cleared .clipboard) _ := between.start rfl
    rw [leaves, current_factoryReset, factoryReset_eq, Bool.true_and]
    exact started.trySave

/-- A reset is no switch: the tracker goes on under the clipboard, with its lights as they are. -/
theorem factoryReset_leaves (attended : Attended d left)
    (tracking : d.active.current = .timeTracker) :
    (factoryReset d).active.current = .clipboard ∧ (factoryReset d).tracker.running = true := by
  have current := current_factoryReset d
  refine ⟨current, ?_⟩
  rw [(attended.next (.beginsAnew d.settings.store)).running, leaves, current, tracking]
  simp

/-- A switch hands over: what was chosen goes down, and only then what is chosen comes up. -/
def HandsOver (d : Device g) (feature : Feature) (d' : Device g) : Prop :=
  d' = trySave
    (start { stop d d.active.current with active := d.active.choosing feature } feature)

theorem Turned.handsOver (turned : Turned d false d')
    (changed : d'.active.current ≠ d.active.current) : ∃ feature, HandsOver d feature d' := by
  cases turned with
  | goesOn => exact absurd rfl changed
  | handles => exact absurd (congrArg ActiveFeature.current (active_handle d)) changed
  | ticks times =>
    have active := Bench.ticks_induction (P := fun d' => d'.active = d.active)
      (fun d' before => (active_tick d').trans before) times rfl
    exact absurd (congrArg ActiveFeature.current active) changed
  | switches feature => exact ⟨feature, switchTo_eq d feature⟩

def noteLeft (d : Device g) (left : Bool) (turn : Turn) : Bool :=
  leaves d left turn.replaces (turn.run d)

/-- Whatever the store answers, from the start of a device on: the tracker runs just while it is
chosen or was left running, its lights are dark otherwise, and every turn that changes the feature,
unless it replaces the choice, hands over. -/
theorem tracker_attended (store : Store g) (input : Input) (longPressMs : UInt32)
    (board : List ButtonConfig) (today : DateTime) (turns : List Turn) :
    let d := Device.boot store input longPressMs board today
    let (d, left) := runNoting noteLeft d false turns
    Attended d left ∧
      ∀ turn : Turn, turn.replaces = false →
        (turn.run d).active.current ≠ d.active.current →
          ∃ feature, HandsOver d feature (turn.run d) := by
  intro d
  have attended := runNoting_induction (P := Attended) (d := d) noteLeft
    (fun d left turn before => before.next (turn.turned d)) turns (a := false)
    ⟨rfl, by simp, fun _ _ _ _ _ found => by contradiction⟩
  refine ⟨attended, ?_⟩
  intro turn plain changed
  have turned := turn.turned (runNoting noteLeft d false turns).1
  rw [plain] at turned
  exact turned.handsOver changed

/-- The tracker is chosen, runs, and goes down for the clipboard. -/
theorem tracker_attended_chosen :
    ∃ store : Store Bench.Layout.unit.geometry,
      let d := Device.boot store (.script {}) 500 [] { year := 2024 }
      let choose : Turn := .features (.switchTo .timeTracker)
      let turn : Turn := .features (.switchTo .clipboard)
      let up := runNoting noteLeft d false [choose]
      let down := runNoting noteLeft d false [choose, turn]
      Attended up.1 up.2 ∧ up.1.active.current = .timeTracker ∧ up.1.tracker.running = true ∧
        turn.replaces = false ∧ (turn.run up.1).active.current ≠ up.1.active.current ∧
        (∃ feature, HandsOver up.1 feature (turn.run up.1)) ∧
        Attended down.1 down.2 ∧ down.1 = turn.run up.1 ∧ down.1.tracker.running = false ∧
        Dark down.1.lights := by
  obtain ⟨store, -⟩ := Bench.Layout.exists_healthy
  refine ⟨store, ?_⟩
  intro d choose turn
  have attended : ∀ turns, Attended (runNoting noteLeft d false turns).1
        (runNoting noteLeft d false turns).2 ∧
      ∀ turn : Turn, turn.replaces = false →
        (turn.run (runNoting noteLeft d false turns).1).active.current ≠
            (runNoting noteLeft d false turns).1.active.current →
          ∃ feature, HandsOver (runNoting noteLeft d false turns).1 feature
            (turn.run (runNoting noteLeft d false turns).1) :=
    tracker_attended store (.script {}) 500 [] { year := 2024 }
  clear_value d
  obtain ⟨up, handsOver⟩ := attended [choose]
  have down := (attended [choose, turn]).1
  have tracking : (choose.run d).active.current = .timeTracker := current_switchTo d .timeTracker
  have off : (turn.run (choose.run d)).active.current = .clipboard :=
    current_switchTo (choose.run d) .clipboard
  simp only [runNoting] at up down handsOver ⊢
  have remains : noteLeft (choose.run d) (noteLeft d false choose) turn = false := by
    simp [noteLeft, leaves, choose, turn, Turn.replaces]
  rw [remains] at down ⊢
  have running := up.running
  have running' := down.running
  generalize choose.run d = tracker at up down handsOver tracking off running running' ⊢
  rw [tracking] at running
  rw [off] at running'
  have changed : (turn.run tracker).active.current ≠ tracker.active.current := by
    rw [off, tracking]
    decide
  exact ⟨up, tracking, running, rfl, changed, handsOver turn rfl changed, down, trivial, running',
    down.dark (by rw [off]; decide) rfl⟩

end Features

end Keypad
