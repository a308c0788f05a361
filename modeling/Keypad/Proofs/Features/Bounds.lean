import Keypad.Bench.Device
import Keypad.Proofs.Features.Turns
import Keypad.Proofs.Keys.Codec

namespace Keypad

theorem Store.get_decodes {g : Geometry} {α : Type} [Record α] {s s' : Store g} {kind : RecordKind}
    {v : α} (read : s.get kind = (.ok v, s')) : ∃ bs, v = Record.decode bs := by
  unfold Store.get at read
  generalize s.slot kind.index = r at read
  obtain ⟨_ | bytes, after⟩ := r
  · simp at read
  · exact ⟨_, (Except.ok.inj (Prod.mk.inj read).1).symm⟩

namespace KeySettings

variable {g : Geometry}

theorem keyCount_load (store : Store g) (input : Input) (longPressMs : UInt32)
    (board : List ButtonConfig) :
    (load store input longPressMs board).table.keyCount.toNat ≤ maxKeys := by
  unfold load
  split
  · next table rest read =>
    split
    · obtain ⟨bs, decoded⟩ := Store.get_decodes read
      show table.keyCount.toNat ≤ maxKeys
      rw [decoded]
      exact KeyTable.keyCount_decode_le bs
    · exact KeyTable.keyCount_ofBoard_le board
  · exact KeyTable.keyCount_ofBoard_le board

theorem keyCount_set (k : KeySettings g) (s : Setting) :
    (s.run k).2.table.keyCount = k.table.keyCount := by
  rw [Setting.table_run]
  exact Setting.keyCount_table k.table s

end KeySettings

theorem Tracker.active_load_lt {g : Geometry} (d : Device g) :
    (load d).tracker.table.active.toNat < maxSessions := by
  have factory : SessionTable.factory.active.toNat < maxSessions := by decide
  simp only [load, Device.onStore_eq]
  generalize read : d.settings.store.get (α := SessionTable) .sessionTable = r
  obtain ⟨_ | table, store⟩ := r
  · exact factory
  · obtain ⟨bs, decoded⟩ := Store.get_decodes read
    simp only
    split
    · show table.active.toNat < maxSessions
      rw [decoded]
      exact SessionTable.active_decode_lt bs
    · exact factory

structure InBounds {g : Geometry} (d : Device g) : Prop where
  keyCount : d.settings.table.keyCount.toNat ≤ maxKeys
  active : d.tracker.table.active.toNat < maxSessions

namespace InBounds

variable {g : Geometry} {d d' : Device g}

theorem boot (store : Store g) (input : Input) (longPressMs : UInt32) (board : List ButtonConfig)
    (today : DateTime) : InBounds (Device.boot store input longPressMs board today) where
  keyCount := KeySettings.keyCount_load store input longPressMs board
  active := show SessionTable.factory.active.toNat < maxSessions by decide

theorem of_same (bounds : InBounds d)
    (keyCount : d'.settings.table.keyCount = d.settings.table.keyCount)
    (active : d'.tracker.table.active = d.tracker.table.active) : InBounds d' :=
  ⟨keyCount ▸ bounds.keyCount, active ▸ bounds.active⟩

theorem light (bounds : InBounds d) (l : Light) : InBounds (d.light l) := bounds.of_same rfl rfl

theorem set (bounds : InBounds d) (s : Setting) : InBounds (d.onSettings s.run).2 :=
  bounds.of_same (KeySettings.keyCount_set d.settings s) rfl

section Tracker

open Tracker

theorem load (bounds : InBounds d) : InBounds (load d) := by
  refine ⟨?_, active_load_lt d⟩
  have same : (Tracker.load d).settings.table = d.settings.table := by
    simp only [Tracker.load, Device.onStore_eq]
    generalize d.settings.store.get (α := SessionTable) .sessionTable = r
    obtain ⟨_ | table, store⟩ := r
    · rfl
    · simp only
      split <;> rfl
  rw [same]
  exact bounds.keyCount

theorem stopTracking (bounds : InBounds d) : InBounds (stopTracking d) := by
  simp only [Tracker.stopTracking]
  split
  · exact bounds.of_same rfl rfl
  · split
    · exact bounds.of_same rfl rfl
    · exact bounds

theorem dateSession (bounds : InBounds d) : InBounds (dateSession d) := by
  simp only [Tracker.dateSession]
  split
  · exact bounds.of_same rfl rfl
  · exact bounds

theorem darken (bounds : InBounds d) : InBounds (darken d) := bounds.of_same rfl rfl

theorem start (bounds : InBounds d) : InBounds (start d) := by
  have dated := (bounds.load.darken.stopTracking.light (.mode .byFeature)).dateSession
  unfold Tracker.start
  generalize Tracker.dateSession _ = e at dated ⊢
  exact dated.of_same rfl rfl

theorem openSession (bounds : InBounds d) : InBounds (openSession d).2 :=
  ⟨bounds.stopTracking.keyCount, SessionTable.active_opened_lt _ _⟩

theorem toggle (bounds : InBounds d) (work : Bool) : InBounds (toggle d work) := by
  simp only [Tracker.toggle]
  split
  · exact bounds.of_same rfl rfl
  · split <;> exact bounds.of_same rfl rfl

theorem showHours (bounds : InBounds d) : InBounds (showHours d).2 := by
  simp only [Tracker.showHours]
  split
  · exact bounds
  · split
    · exact bounds
    · exact bounds.of_same rfl rfl

theorem press (bounds : InBounds d) (event : ButtonEvent) : InBounds (press d event).2 := by
  have dated := bounds.dateSession
  simp only [Tracker.press]
  split
  · split
    · exact dated.openSession.of_same rfl rfl
    · exact dated.showHours
  · split
    · exact dated
    · split
      · exact dated.toggle true
      · split
        · exact dated.toggle false
        · exact dated

theorem trackerHandle (bounds : InBounds d) : InBounds (Tracker.handle d).2 :=
  pressAll_induction (P := InBounds) (fun _ event before => before.press event) _
    (bounds.of_same rfl rfl)

theorem trackerTick (bounds : InBounds d) : InBounds (Tracker.tick d).2 := by
  have counts : ∀ e : Device g, InBounds e → InBounds (countTick e) := by
    intro e before
    unfold countTick
    split <;> exact before.of_same rfl rfl
  simp only [Tracker.tick]
  split
  · split
    · exact bounds
    · split
      · exact bounds
      · split <;> exact counts _ (bounds.of_same rfl rfl)
  · exact bounds

theorem trackerCommand (bounds : InBounds d) (command : Bench.TrackerCommand) :
    InBounds (command.run d).2 := by
  cases command with
  | start => exact bounds.start
  | stop => exact bounds.of_same rfl rfl
  | factoryReset => exact ⟨bounds.keyCount, show SessionTable.factory.active.toNat < _ by decide⟩
  | tick times =>
    exact Bench.ticks_induction (P := InBounds) (fun _ before => before.trackerTick) times bounds
  | handle => exact bounds.trackerHandle
  | openSession => exact bounds.openSession
  | setMediumMs | setLongMs => exact bounds.of_same rfl rfl
  | log | active | session | table => exact bounds

end Tracker

section Features

theorem featureStart (bounds : InBounds d) (feature : Feature) :
    InBounds (Features.start d feature) := by
  cases feature with
  | clipboard =>
    have assigned : InBounds (Clipboard.assignAll d Clipboard.keys) := by
      apply Clipboard.assignAll_induction (P := InBounds) _ _ bounds
      exact fun e key value color before => (before.set (.value key value)).set (.color key color)
    show InBounds (Clipboard.start d)
    rw [Features.clipboard_start_eq, Clipboard.settings_start]
    generalize Clipboard.assignAll d Clipboard.keys = e at assigned ⊢
    exact ⟨assigned.keyCount, bounds.active⟩
  | timeTracker => exact bounds.start
  | none => exact bounds

theorem featureStop (bounds : InBounds d) (feature : Feature) :
    InBounds (Features.stop d feature) := by
  cases feature with
  | clipboard =>
    obtain ⟨host, keyReported, sends⟩ := Features.clipboard_send_eq d none 0
    show InBounds (Clipboard.send d none 0)
    rw [sends]
    exact bounds.of_same rfl rfl
  | timeTracker => exact bounds.of_same rfl rfl
  | none => exact bounds

theorem trySave (bounds : InBounds d) : InBounds (Features.trySave d) := bounds.of_same rfl rfl

theorem switchTo (bounds : InBounds d) (feature : Feature) :
    InBounds (Features.switchTo d feature) := by
  rw [Features.switchTo_eq]
  have stopped := bounds.featureStop d.active.current
  generalize Features.stop d d.active.current = e at stopped ⊢
  have started := featureStart (d := { e with active := d.active.choosing feature })
    (stopped.of_same rfl rfl) feature
  exact started.trySave

theorem factoryReset (bounds : InBounds d) : InBounds (Features.factoryReset d) := by
  have emptied : InBounds
      { Tracker.factoryReset d with active := ⟨recordMagic, .clipboard, true⟩ } :=
    ⟨bounds.keyCount, show SessionTable.factory.active.toNat < maxSessions by decide⟩
  have started := emptied.featureStart .clipboard
  rw [Features.factoryReset_eq]
  exact started.trySave

theorem init (bounds : InBounds d) : InBounds (Features.init d) := by
  obtain ⟨store, ⟨active, up⟩ | anew⟩ := Features.init_cases d
  · have found : InBounds { d with settings.store := store, active } := bounds.of_same rfl rfl
    rw [up]
    exact found.featureStart active.current
  · have read : InBounds { d with settings.store := store } := bounds.of_same rfl rfl
    rw [anew]
    exact read.factoryReset

theorem handle (bounds : InBounds d) : InBounds (Features.handle d).2 := by
  by_cases tracking : d.active.current = .timeTracker
  · rw [Features.handle_of_tracking tracking]
    exact bounds.trackerHandle
  · obtain ⟨_, _, _, handles⟩ := Features.handle_of_other tracking
    rw [handles]
    exact bounds.of_same rfl rfl

theorem tick (bounds : InBounds d) : InBounds (Features.tick d).2 := by
  by_cases tracking : d.active.current = .timeTracker
  · rw [Features.tick_of_tracking tracking]
    exact bounds.trackerTick
  · rw [Features.tick_of_other tracking]
    exact bounds

theorem featuresCommand (bounds : InBounds d) (command : Bench.FeaturesCommand) :
    InBounds (command.run d).2 :=
  Features.command_induction bounds.init bounds.factoryReset bounds.switchTo bounds.handle
    (fun _ before => before.tick) bounds command

end Features

theorem keysCommand (bounds : InBounds d) (command : Bench.KeysCommand) :
    InBounds (d.onSettings command.run).2 := by
  cases command with
  | setColor key color => exact bounds.set (.color key color)
  | setValue key value => exact bounds.set (.value key value)
  | setLongPressMs ms => exact bounds.set (.longPress ms)
  | count | color | value | longPressMs | table => exact bounds.of_same rfl rfl

end InBounds

end Keypad
