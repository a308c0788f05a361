import Keypad.Bench.Features
import Keypad.Bench.Keys
import Keypad.Bench.Panel
import Keypad.Bench.Storage

/-! Commands to a whole device, and a bench that runs them through any number of restarts. What
survives a restart is the chip with its faults, the clock and the calendar. -/
namespace Keypad.Bench

inductive DeviceCommand where
  | store (command : StoreCommand)
  | panel (command : PanelCommand)
  | script (command : ScriptCommand)
  | keys (command : KeysCommand)
  | tracker (command : TrackerCommand)
  | features (command : FeaturesCommand)
  | setDate (date : DateTime)
  | setReady (ready : Bool)
  | restart

/-- What a device is made of at every start: the board, whether the input is its panel or a script,
and the threshold before the settings are loaded. -/
structure Setup where
  board : List ButtonConfig
  withPanel : Bool
  longPressMs : UInt32

def Setup.input (s : Setup) : Input := if s.withPanel then .panel (.ofBoard s.board) else .script {}

structure DeviceBench (g : Geometry) where
  device : Device g
  clock : UInt64
  waiter : Option WaitPoint := none

def DeviceBench.runPanel {g : Geometry} (b : DeviceBench g) (command : PanelCommand) :
    Reply × DeviceBench g :=
  match b.device.settings.input with
  | .script _ => (.misplaced, b)
  | .panel panel =>
    let (reply, after) :=
      command.run ⟨panel, b.clock, b.device.settings.longPressMs, b.waiter⟩
    (reply, { b with
      device.settings.input := .panel after.panel
      device.settings.longPressMs := after.thresholdMs
      clock := after.clock
      waiter := after.waiter })

def DeviceBench.runScript {g : Geometry} (b : DeviceBench g) (command : ScriptCommand) :
    Reply × DeviceBench g :=
  match b.device.settings.input with
  | .panel _ => (.misplaced, b)
  | .script script =>
    let (reply, script) := command.run script b.device.settings.longPressMs
    (reply, { b with device.settings.input := .script script })

def DeviceBench.onDevice {g : Geometry} (b : DeviceBench g)
    (run : Device g → Reply × Device g) : Reply × DeviceBench g :=
  let ⟨device, clock, waiter⟩ := b
  let (reply, device) := run device
  (reply, ⟨device, clock, waiter⟩)

/-- Starts the device anew. A store that cannot be attached leaves the bench as it is. -/
def DeviceBench.restart {g : Geometry} (s : Setup) (b : DeviceBench g) :
    Reply × DeviceBench g :=
  match Store.attach b.device.settings.store.chip with
  | .ok store =>
    (.booted, { device := .boot store s.input s.longPressMs s.board b.device.today,
                clock := b.clock })
  | .error e => (.refused e, b)

def DeviceCommand.run {g : Geometry} (s : Setup) (b : DeviceBench g) :
    DeviceCommand → Reply × DeviceBench g
  | .store command => b.onDevice (·.onStore command.run)
  | .panel command => b.runPanel command
  | .script command => b.runScript command
  | .keys command => b.onDevice (·.onSettings command.run)
  | .tracker command => b.onDevice command.run
  | .features command => b.onDevice command.run
  | .setDate date => (.done, { b with device.today := date })
  | .setReady ready => (.done, { b with device.host.ready := ready })
  | .restart => b.restart s

structure Marks where
  values : Nat := 0
  colors : Nat := 0
  wakes : Nat := 0
  lights : Nat := 0
  reports : Nat := 0
  journal : Nat := 0

def Marks.of {g : Geometry} (d : Device g) : Marks :=
  let logs : Marks :=
    { lights := d.lights.length
      reports := d.host.reports.length
      journal := d.settings.store.chip.journal.length }
  match d.settings.input with
  | .script s => { logs with values := s.values.length, colors := s.colors.length }
  | .panel p => { logs with wakes := p.wakes }

structure DeviceReport where
  reply : Reply
  values : List (UInt8 × KeyValue)
  colors : List (UInt8 × Color)
  panel : Option PanelView
  active : UInt32
  session : Session
  feature : Feature
  lights : List Light
  reports : List Report
  journal : List Flash.Entry

def DeviceReport.of {g : Geometry} (reply : Reply) (before : Marks) (d : Device g) :
    DeviceReport where
  reply
  values :=
    match d.settings.input with
    | .script s => added before.values s.values
    | .panel _ => []
  colors :=
    match d.settings.input with
    | .script s => added before.colors s.colors
    | .panel _ => []
  panel :=
    match d.settings.input with
    | .script _ => none
    | .panel p => some (viewPanel p before.wakes)
  active := d.tracker.table.active
  session := d.tracker.table.current
  feature := d.active.current
  lights := added before.lights d.lights
  reports := added before.reports d.host.reports
  journal := added before.journal d.settings.store.chip.journal

namespace DeviceReport

/-- The erases that no fault struck, the writes that none struck, and all that were struck. -/
def counts (r : DeviceReport) : Nat × Nat × Nat :=
  (r.journal.countP fun e => !e.struck && e.isErase,
    r.journal.countP fun e => !e.struck && !e.isErase,
    r.journal.countP (·.struck))

end DeviceReport

def marksFor {g : Geometry} (d : Device g) : DeviceCommand → Marks
  | .restart => { journal := d.settings.store.chip.journal.length }
  | _ => .of d

/-- Runs commands one after another, until a counter or the clock overflows. -/
def runDevice {g : Geometry} (s : Setup) (b : DeviceBench g) :
    List DeviceCommand → List DeviceReport × Flash.Chip g.sectorSize
  | [] => ([], b.device.settings.store.chip)
  | command :: rest =>
    let before := marksFor b.device command
    let (reply, b) := command.run s b
    let report := DeviceReport.of reply before b.device
    if reply.goesOn then
      let (reports, chip) := runDevice s b rest
      (report :: reports, chip)
    else ([report], b.device.settings.store.chip)

def runBooted {g : Geometry} (s : Setup) (chip : Flash.Chip g.sectorSize) (clock : UInt64)
    (today : DateTime) (commands : List DeviceCommand) :
    Except StorageError (List DeviceReport × Flash.Chip g.sectorSize) :=
  let before : Marks := { journal := chip.journal.length }
  match Store.attach chip with
  | .error e => .error e
  | .ok store =>
    let device := Device.boot store s.input s.longPressMs s.board today
    let (reports, chip) := runDevice s { device, clock } commands
    .ok (DeviceReport.of .booted before device :: reports, chip)

end Keypad.Bench
