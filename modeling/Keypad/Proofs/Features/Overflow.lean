import Keypad.Proofs.Features.Bounds
import Keypad.Proofs.Tracker.Starting

/-! What a device can run out of. Whatever is asked of the store, of the key settings, of the time
tracker and of the features, all that is looked up is there, and the one thing that can go wrong for
good is a counter of tracked time that overflows. It does not if every session that is ever read has
room for all the ticks of the run. -/
namespace Keypad

def Roomy (n : Nat) (sessions : List Session) : Prop :=
  ∀ s ∈ sessions, s.totalUs + 250000 * n < UInt64.size

namespace Roomy

variable {n m : Nat} {sessions : List Session}

theorem mono (roomy : Roomy n sessions) (less : m ≤ n) : Roomy m sessions := by
  intro s member
  have room := roomy s member
  have fewer := Nat.mul_le_mul_left 250000 less
  omega

theorem of_append_left {more : List Session} (roomy : Roomy n (sessions ++ more)) :
    Roomy n sessions := fun s member => roomy s (List.mem_append_left _ member)

theorem of_append_right {more : List Session} (roomy : Roomy n (more ++ sessions)) :
    Roomy n sessions := fun s member => roomy s (List.mem_append_right _ member)

theorem table {t : SessionTable} (roomy : Roomy n t.sessions.toList) : t.Room (usPerTick * n) :=
  fun i => roomy _ (Vector.mem_toList_iff.2 (Vector.getElem_mem i.isLt))

end Roomy

def Tracker.loaded {g : Geometry} (d : Device g) : List Session :=
  (load d).tracker.table.sessions.toList

namespace Features

open Tracker (Headroom)

variable {g : Geometry} {d : Device g} {n : Nat}

/-- The sessions that a feature reads when it comes up: only the time tracker reads any. -/
def loaded (d : Device g) : Feature → List Session
  | .timeTracker => Tracker.loaded d
  | _ => []

def loadedBySwitch (d : Device g) (feature : Feature) : List Session :=
  loaded { stop d d.active.current with active := d.active.choosing feature } feature

def loadedByInit (d : Device g) : List Session :=
  match d.onStore (·.get (α := ActiveFeature) .activeFeature) with
  | (.ok active, d) =>
    if active.magic = recordMagic then loaded { d with active } active.current else []
  | (.error _, _) => []

theorem start_headroom (head : Headroom n d) {feature : Feature}
    (roomy : Roomy n (loaded d feature)) : Headroom n (start d feature) := by
  cases feature with
  | clipboard =>
    show Headroom n (Clipboard.start d)
    rw [clipboard_start_eq]
    exact head.of_tracker_eq rfl
  | timeTracker => exact .start (Tracker.active_load_lt d) roomy.table
  | none => exact head

theorem stop_headroom (head : Headroom n d) (feature : Feature) : Headroom n (stop d feature) := by
  cases feature with
  | clipboard =>
    obtain ⟨host, keyReported, sends⟩ := clipboard_send_eq d none 0
    show Headroom n (Clipboard.send d none 0)
    rw [sends]
    exact head.of_tracker_eq rfl
  | timeTracker => exact head.stop
  | none => exact head

theorem trySave_headroom (head : Headroom n d) : Headroom n (trySave d) := head.of_tracker_eq rfl

theorem switchTo_headroom (head : Headroom n d) {feature : Feature}
    (roomy : Roomy n (loadedBySwitch d feature)) : Headroom n (switchTo d feature) := by
  have stopped := stop_headroom head d.active.current
  have chosen : Headroom n
      { stop d d.active.current with active := d.active.choosing feature } :=
    stopped.of_tracker_eq rfl
  have started := start_headroom chosen roomy
  rw [switchTo_eq]
  exact trySave_headroom started

theorem factoryReset_headroom (head : Headroom n d) : Headroom n (factoryReset d) := by
  have emptied : Headroom n
      { Tracker.factoryReset d with active := ⟨recordMagic, .clipboard, true⟩ } :=
    head.factoryReset.of_tracker_eq rfl
  have started : Headroom n (start _ .clipboard) := start_headroom emptied nofun
  rw [factoryReset_eq]
  exact trySave_headroom started

theorem init_headroom (head : Headroom n d) (roomy : Roomy n (loadedByInit d)) :
    Headroom n (init d) := by
  simp only [loadedByInit, init, Device.onStore_eq] at roomy ⊢
  generalize d.settings.store.get (α := ActiveFeature) .activeFeature = r at roomy ⊢
  obtain ⟨_ | active, store⟩ := r
  · have read : Headroom n { d with settings.store := store } := head.of_tracker_eq rfl
    exact factoryReset_headroom read
  · simp only at roomy ⊢
    split at roomy
    · next valid =>
      have found : Headroom n { d with settings.store := store, active } :=
        head.of_tracker_eq rfl
      rw [if_pos valid]
      exact start_headroom found roomy
    · next invalid =>
      have read : Headroom n { d with settings.store := store } := head.of_tracker_eq rfl
      rw [if_neg invalid]
      exact factoryReset_headroom read

theorem handle_headroom (head : Headroom n d) :
    (handle d).1 = .ok () ∧ Headroom n (handle d).2 := by
  by_cases tracking : d.active.current = .timeTracker
  · rw [handle_of_tracking tracking]
    exact head.handle
  · obtain ⟨_, _, _, handles⟩ := handle_of_other tracking
    rw [handles]
    exact ⟨rfl, head.of_tracker_eq rfl⟩

theorem tick_headroom (head : Headroom (n + 1) d) :
    (tick d).1 = .ok () ∧ Headroom n (tick d).2 := by
  by_cases tracking : d.active.current = .timeTracker
  · rw [tick_of_tracking tracking]
    exact head.tick
  · rw [tick_of_other tracking]
    exact ⟨rfl, head.mono (Nat.le_succ n)⟩

end Features

namespace Bench

open Tracker (Headroom)

variable {g : Geometry} {n m : Nat}

namespace Reply

theorem goesOn_ofStore {α : Type} {f : α → Reply} (goes : ∀ a, (f a).goesOn = true)
    (r : Except StorageError α) : (ofStore f r).goesOn = true := by
  cases r with
  | ok a => exact goes a
  | error e => rfl

theorem goesOn_ofOption {α : Type} {f : α → Reply} (goes : ∀ a, (f a).goesOn = true)
    (r : Option α) : (ofOption f r).goesOn = true := by
  cases r with
  | some a => exact goes a
  | none => rfl

end Reply

theorem ChipCommand.goesOn {k : Nat} (chip : Flash.Chip k) (command : ChipCommand) :
    (command.run chip).1.goesOn = true := by
  cases command with
  | poke | setFaults => rfl
  | read start length =>
    simp only [ChipCommand.run]
    cases (chip.read start length).1 <;> rfl
  | write start bytes =>
    simp only [ChipCommand.run]
    cases (chip.write start bytes.toArray).1 <;> rfl
  | erase start stop =>
    simp only [ChipCommand.run]
    cases (chip.erase start stop).1 <;> rfl

theorem StoreCommand.goesOn (store : Store g) (command : StoreCommand) :
    (command.run store).1.goesOn = true := by
  cases command with
  | chip command => exact command.goesOn store.chip
  | init | readSlot | writeSlot | eraseAll | eraseSector | get | save =>
    exact Reply.goesOn_ofStore (fun _ => rfl) _
  | bootCount | info => rfl

theorem KeysCommand.goesOn (k : KeySettings g) (command : KeysCommand) :
    (command.run k).1.goesOn = true := by
  cases command with
  | setColor | setValue | setLongPressMs => exact Reply.goesOn_ofStore (fun _ => rfl) _
  | count | color | value | longPressMs | table => rfl

theorem ScriptCommand.goesOn (script : Script) (thresholdMs : UInt32) (command : ScriptCommand) :
    (command.run script thresholdMs).1.goesOn = true := by
  cases command with
  | valueOf => exact Reply.goesOn_ofOption (fun _ => rfl) _
  | push | queued | hold | threshold | isPressed => rfl

def TrackerCommand.ticks : TrackerCommand → Nat
  | tick times => times
  | _ => 0

def FeaturesCommand.ticks : FeaturesCommand → Nat
  | tick times => times
  | _ => 0

def TrackerCommand.loads (d : Device g) : TrackerCommand → List Session
  | start => Tracker.loaded d
  | _ => []

def FeaturesCommand.loads (d : Device g) : FeaturesCommand → List Session
  | init => Features.loadedByInit d
  | switchTo feature => Features.loadedBySwitch d feature
  | switchToCode code => (Feature.ofCode? code).elim [] (Features.loadedBySwitch d)
  | _ => []

theorem TrackerCommand.passes {d : Device g} (command : TrackerCommand)
    (head : Headroom (command.ticks + n) d) (roomy : Roomy n (command.loads d)) :
    (command.run d).1.goesOn = true ∧ Headroom n (command.run d).2 := by
  have now : Headroom n d := head.mono (Nat.le_add_left ..)
  cases command with
  | start => exact ⟨rfl, .start (Tracker.active_load_lt d) roomy.table⟩
  | stop => exact ⟨rfl, now.stop⟩
  | factoryReset => exact ⟨rfl, now.factoryReset⟩
  | tick times =>
    obtain ⟨passes, later⟩ := Headroom.ticks (fun _ _ before => before.tick) times head
    refine ⟨?_, later⟩
    simp only [TrackerCommand.run, passes]
    rfl
  | handle =>
    obtain ⟨passes, later⟩ := now.handle
    refine ⟨?_, later⟩
    simp only [TrackerCommand.run, passes]
    rfl
  | openSession =>
    exact ⟨Reply.goesOn_ofStore (fun _ => rfl) _, now.opens (Tracker.openSession_opens d)⟩
  | setMediumMs | setLongMs =>
    exact ⟨Reply.goesOn_ofStore (fun _ => rfl) _, now.within, now.sums, now.room⟩
  | log | active | table => exact ⟨rfl, now⟩
  | session => exact ⟨Reply.goesOn_ofOption (fun _ => rfl) _, now⟩

theorem FeaturesCommand.passes {d : Device g} (command : FeaturesCommand)
    (head : Headroom (command.ticks + n) d) (roomy : Roomy n (command.loads d)) :
    (command.run d).1.goesOn = true ∧ Headroom n (command.run d).2 := by
  have now : Headroom n d := head.mono (Nat.le_add_left ..)
  cases command with
  | init =>
    have later := Features.init_headroom now roomy
    simp only [FeaturesCommand.run]
    exact ⟨rfl, later⟩
  | factoryReset =>
    have later := Features.factoryReset_headroom now
    simp only [FeaturesCommand.run]
    exact ⟨rfl, later⟩
  | switchTo feature =>
    have later := Features.switchTo_headroom now roomy
    simp only [FeaturesCommand.run]
    exact ⟨rfl, later⟩
  | switchToCode code =>
    simp only [FeaturesCommand.run, Features.switchToCode]
    rw [FeaturesCommand.loads] at roomy
    cases known : Feature.ofCode? code with
    | none => exact ⟨rfl, now⟩
    | some feature =>
      rw [known] at roomy
      exact ⟨rfl, Features.switchTo_headroom now roomy⟩
  | handle =>
    obtain ⟨passes, later⟩ := Features.handle_headroom now
    refine ⟨?_, later⟩
    simp only [FeaturesCommand.run, passes]
    rfl
  | tick times =>
    obtain ⟨passes, later⟩ :=
      Headroom.ticks (fun _ _ before => Features.tick_headroom before) times head
    refine ⟨?_, later⟩
    simp only [FeaturesCommand.run, passes]
    rfl
  | log | current => exact ⟨rfl, now⟩

namespace DeviceCommand

def isPanel : DeviceCommand → Bool
  | panel _ => true
  | _ => false

def ticks : DeviceCommand → Nat
  | tracker command => command.ticks
  | features command => command.ticks
  | _ => 0

def loads (d : Device g) : DeviceCommand → List Session
  | tracker command => command.loads d
  | features command => command.loads d
  | _ => []

theorem inBounds (s : Setup) {b : DeviceBench g} (bounds : InBounds b.device)
    (command : DeviceCommand) : InBounds (command.run s b).2.device := by
  cases command with
  | store command => exact bounds.of_same rfl rfl
  | panel command =>
    simp only [run, DeviceBench.runPanel]
    split
    · exact bounds
    · exact bounds.of_same rfl rfl
  | script command =>
    simp only [run, DeviceBench.runScript]
    split
    · exact bounds
    · exact bounds.of_same rfl rfl
  | keys command => exact bounds.keysCommand command
  | tracker command => exact bounds.trackerCommand command
  | features command => exact bounds.featuresCommand command
  | setDate | setReady => exact bounds.of_same rfl rfl
  | restart =>
    simp only [run, DeviceBench.restart]
    split
    · exact .boot ..
    · exact bounds

theorem passes (s : Setup) {b : DeviceBench g} (command : DeviceCommand)
    (head : Headroom (command.ticks + n) b.device) (roomy : Roomy n (command.loads b.device)) :
    (command.isPanel = false → (command.run s b).1.goesOn = true) ∧
      Headroom n (command.run s b).2.device := by
  have now : Headroom n b.device := head.mono (Nat.le_add_left ..)
  cases command with
  | store command => exact ⟨fun _ => command.goesOn _, now.of_tracker_eq rfl⟩
  | panel command =>
    refine ⟨nofun, ?_⟩
    simp only [run, DeviceBench.runPanel]
    split
    · exact now
    · exact now.of_tracker_eq rfl
  | script command =>
    simp only [run, DeviceBench.runScript]
    split
    · exact ⟨fun _ => rfl, now⟩
    · exact ⟨fun _ => command.goesOn _ _, now.of_tracker_eq rfl⟩
  | keys command => exact ⟨fun _ => command.goesOn _, now.of_tracker_eq rfl⟩
  | tracker command =>
    obtain ⟨goes, later⟩ := command.passes head roomy
    exact ⟨fun _ => goes, later⟩
  | features command =>
    obtain ⟨goes, later⟩ := command.passes head roomy
    exact ⟨fun _ => goes, later⟩
  | setDate | setReady => exact ⟨fun _ => rfl, now.of_tracker_eq rfl⟩
  | restart =>
    simp only [run, DeviceBench.restart]
    split
    · exact ⟨fun _ => rfl, Headroom.boot ..⟩
    · exact ⟨fun _ => rfl, now⟩

end DeviceCommand

namespace DeviceBench

def after (s : Setup) (b : DeviceBench g) (commands : List DeviceCommand) : DeviceBench g :=
  commands.foldl (fun b command => (command.run s b).2) b

/-- The commands, each with what is answered to it. -/
def answers (s : Setup) (b : DeviceBench g) : List DeviceCommand → List (DeviceCommand × Reply)
  | [] => []
  | command :: rest =>
    let (reply, b) := command.run s b
    (command, reply) :: b.answers s rest

def loads (s : Setup) (b : DeviceBench g) : List DeviceCommand → List Session
  | [] => []
  | command :: rest => command.loads b.device ++ (command.run s b).2.loads s rest

theorem after_inBounds {s : Setup} {b : DeviceBench g} (bounds : InBounds b.device)
    (commands : List DeviceCommand) : InBounds (b.after s commands).device := by
  induction commands generalizing b with
  | nil => exact bounds
  | cons command rest ih => exact ih (command.inBounds s bounds)

theorem answers_pass {s : Setup} {b : DeviceBench g} {commands : List DeviceCommand}
    (head : Headroom (commands.map DeviceCommand.ticks).sum b.device)
    (roomy : Roomy m (b.loads s commands))
    (enough : (commands.map DeviceCommand.ticks).sum ≤ m) :
    ∀ answer ∈ b.answers s commands, answer.1.isPanel = false → answer.2.goesOn = true := by
  induction commands generalizing b with
  | nil =>
    intro answer member
    exact absurd member List.not_mem_nil
  | cons command rest ih =>
    rw [List.map_cons, List.sum_cons] at head enough
    have fewer : (rest.map DeviceCommand.ticks).sum ≤ m :=
      Nat.le_trans (Nat.le_add_left ..) enough
    have read : Roomy m (command.loads b.device) := roomy.of_append_left
    have first := command.passes s head (read.mono fewer)
    have later := ih first.2 roomy.of_append_right fewer
    intro answer member
    rcases List.mem_cons.1 member with rfl | member
    · exact first.1
    · exact later answer member

/-- On a bench whose script has nothing queued, work is pressed, and the tracker comes up, answers and
ticks. -/
theorem works (s : Setup) {b : DeviceBench g} {script : Script} (n : Nat)
    (input : b.device.settings.input = .script script) (empty : script.events = [])
    (healthy : b.device.settings.store.Healthy)
    (valid : (Tracker.storedTable b.device).magic = recordMagic)
    (idle : (Tracker.storedTable b.device).current.stopped.trackingWork = false)
    (room :
      (Tracker.storedTable b.device).current.totalUs + usPerTick * n < UInt64.size) :
    let commands : List DeviceCommand :=
      [.script (.push ⟨Tracker.workKey, false⟩), .tracker .start, .tracker .handle,
        .tracker (.tick n)]
    b.loads s commands = (Tracker.storedTable b.device).sessions.toList ∧
      (b.after s commands).device.tracker.table.current.totalUs =
        (Tracker.storedTable b.device).current.totalUs + usPerTick * n := by
  intro commands
  let pressed : Device g :=
    { b.device with settings.input := .script (script.push ⟨Tracker.workKey, false⟩) }
  have pushes : (DeviceCommand.run s b (.script (.push ⟨Tracker.workKey, false⟩))).2 =
      { b with device := pressed } := by
    simp only [DeviceCommand.run, DeviceBench.runScript, input]
    rfl
  have fits : g.Fits pressed.settings.store.chip.capacity := healthy.fits
  have finds : Tracker.found pressed = Tracker.storedTable b.device := by
    have kept : Tracker.storedTable pressed = Tracker.storedTable b.device := rfl
    rw [Tracker.found_of_healthy (d := pressed) healthy, kept, if_pos valid]
  have queued : (Tracker.start pressed).drain.1 = [⟨Tracker.trackingKey true, false⟩] := by
    rw [Tracker.fst_drain, Tracker.input_start, Input.drain_script, Script.push, empty]
    rfl
  obtain ⟨working, handled, -, tracked, here, total⟩ :=
    Tracker.start_toggles fits rfl queued (by rw [finds]; exact idle)
  rw [finds] at total
  obtain ⟨later, ticks, more⟩ := Tracker.tracked_ticks n tracked here (by rw [total]; exact room)
  constructor
  · show DeviceBench.loads s (DeviceCommand.run s b _).2 _ = _
    rw [pushes]
    show (Tracker.load pressed).tracker.table.sessions.toList ++ [] = _
    rw [Tracker.table_load fits, finds, List.append_nil]
  · have ends : (b.after s commands).device = later := by
      simp only [DeviceBench.after, commands, List.foldl, pushes]
      simp only [DeviceCommand.run, DeviceBench.onDevice, TrackerCommand.run]
      rw [handled]
      simp only [ticks]
    rw [ends, more, total]

end DeviceBench

/-- What the bounds mean for the places that are looked up: those of the keys in use, one by one and
all together, and that of the session being tracked. -/
structure LooksUp (d : Device g) : Prop where
  keyCount : d.settings.table.keyCount.toNat ≤ 8
  active : d.tracker.table.active.toNat < 31
  entry : ∀ key, d.settings.table.entry? key = none ↔ d.settings.table.keyCount ≤ key
  told :
    (d.settings.table.keys.toList.take d.settings.table.keyCount.toNat).length =
      d.settings.table.keyCount.toNat
  session :
    d.tracker.table.session? d.tracker.table.active.toNat = some d.tracker.table.current

theorem looksUp_of_inBounds {d : Device g} (bounds : InBounds d) : LooksUp d := by
  refine ⟨bounds.keyCount, bounds.active, ?_, ?_, ?_⟩
  · intro key
    constructor
    · intro absent
      by_cases used : d.settings.table.keyCount ≤ key
      · exact used
      · obtain ⟨e, found⟩ := KeyTable.exists_entry bounds.keyCount used
        rw [found] at absent
        contradiction
    · exact KeyTable.entry?_of_unused
  · rw [List.length_take, Vector.length_toList]
    exact Nat.min_eq_left bounds.keyCount
  · rw [SessionTable.session?, Vector.getElem?_eq_getElem bounds.active,
      SessionTable.current_eq bounds.active]

/-- Whatever a device is asked for, from any store and through any failures and restarts: all that
is looked up is there, and no counter overflows if every session that is ever read has room for all
the ticks that are asked for. -/
theorem only_counters_overflow (s : Setup) (store : Store g) (clock : UInt64) (today : DateTime)
    (commands : List DeviceCommand) :
    let b : DeviceBench g :=
      { device := .boot store s.input s.longPressMs s.board today, clock }
    LooksUp (b.after s commands).device ∧
      ((∀ session ∈ b.loads s commands,
          session.workUs.toNat + session.meetingUs.toNat +
            250000 * (commands.map DeviceCommand.ticks).sum ≤ 2 ^ 64 - 1) →
        ∀ answer ∈ b.answers s commands,
          answer.1.isPanel = false → answer.2.goesOn = true) := by
  intro b
  have bounds : InBounds b.device := .boot ..
  refine ⟨looksUp_of_inBounds (b.after_inBounds bounds commands), ?_⟩
  intro room
  have head : Headroom (commands.map DeviceCommand.ticks).sum b.device := .boot ..
  have roomy : Roomy (commands.map DeviceCommand.ticks).sum (b.loads s commands) := by
    intro session member
    have fits := room session member
    rw [Session.totalUs]
    show _ < 2 ^ 64
    omega
  exact b.answers_pass head roomy (Nat.le_refl _)

/-- A tracker that finds an hour of work: the key of work is pressed, and four ticks count. -/
theorem only_counters_overflow_at_work :
    let recorded : SessionTable := SessionTable.factory.setCurrent { workUs := 3600000000 }
    let today : DateTime := { year := 2024 }
    let s : Setup := ⟨[], false, 500⟩
    let commands : List DeviceCommand :=
      [.script (.push ⟨Tracker.workKey, false⟩), .tracker .start, .tracker .handle,
        .tracker (.tick 4)]
    ∃ store : Store Layout.unit.geometry,
      let b : DeviceBench Layout.unit.geometry :=
        { device := .boot store s.input s.longPressMs s.board today, clock := 0 }
      Tracker.storedTable b.device = recorded ∧
        (∀ session ∈ b.loads s commands,
          session.workUs.toNat + session.meetingUs.toNat +
            250000 * (commands.map DeviceCommand.ticks).sum ≤ 2 ^ 64 - 1) ∧
        LooksUp (b.after s commands).device ∧
        (∀ answer ∈ b.answers s commands, answer.1.isPanel = false → answer.2.goesOn = true) ∧
        (b.after s commands).device.tracker.table.current.totalUs = 3601000000 := by
  intro recorded today s commands
  have within : SessionTable.factory.active.toNat < maxSessions := by decide
  obtain ⟨d, healthy, stored⟩ := Tracker.exists_stored recorded within
  have booted := KeySettings.load_keeps healthy s.input s.longPressMs s.board
  obtain ⟨script, scripted, empty⟩ :=
    KeySettings.load_script d.settings.store {} s.longPressMs s.board
  have bounds := only_counters_overflow s d.settings.store 0 today commands
  refine ⟨d.settings.store, ?_⟩
  intro b
  have found : Tracker.storedTable b.device = recorded :=
    (booted.others SessionTable .sessionTable (by decide)).trans stored
  have hour : recorded.current = { workUs := 3600000000 } :=
    SessionTable.current_setCurrent within _
  have works := DeviceBench.works s (b := b) 4 scripted empty booted.healthy
  rw [found, hour] at works
  obtain ⟨loads, total⟩ := works rfl rfl (by decide)
  have room : ∀ session ∈ b.loads s commands,
      session.workUs.toNat + session.meetingUs.toNat +
        250000 * (commands.map DeviceCommand.ticks).sum ≤ 2 ^ 64 - 1 := by
    rw [loads]
    decide
  refine ⟨found, room, bounds.1, bounds.2 room, ?_⟩
  rw [total]
  rfl

end Bench

end Keypad
