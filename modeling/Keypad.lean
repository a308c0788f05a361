import Keypad.Bench.Device
import Keypad.Bench.Layouts
import Keypad.Bytes.Runs
import Keypad.Proofs.Flash.Calls
import Keypad.Proofs.Storage.Addresses
import Keypad.Proofs.Storage.SectorImage
import Keypad.Proofs.Storage.SlotArray
import Keypad.Proofs.Storage.SlotWrite
import Keypad.Proofs.Panel.Changes
import Keypad.Proofs.Storage.Refinement
import Keypad.Proofs.Panel.Commands
import Keypad.Proofs.Panel.Consistency
import Keypad.Proofs.Panel.PressLedger
import Keypad.Proofs.Bytes.LittleEndian
import Keypad.Proofs.Bytes.Filling
import Keypad.Proofs.Panel.TimerBooks
import Keypad.Proofs.Panel.TimerMoves
import Keypad.Proofs.Panel.TimerLedger
import Keypad.Proofs.Panel.Interleaving
import Keypad.Proofs.Panel.Polling
import Keypad.Proofs.Panel.Wakeups
import Keypad.Proofs.Tracker.Codec
import Keypad.Proofs.Storage.Records
import Keypad.Proofs.Tracker.Tables
import Keypad.Proofs.Tracker.Operations
import Keypad.Proofs.Keys.Storing
import Keypad.Proofs.Tracker.Trailing
import Keypad.Proofs.Tracker.BoundedLoss
import Keypad.Proofs.Features.Sessions
import Keypad.Proofs.Features.TimeConserved
import Keypad.Proofs.Keys.Codec
import Keypad.Proofs.Keys.Setting
import Keypad.Proofs.Keys.Durability
import Keypad.Proofs.Panel.Configuration
import Keypad.Proofs.Features.Clipboard
import Keypad.Proofs.Keys.Agreement
import Keypad.Proofs.Features.Reboot
import Keypad.Proofs.Features.Thresholds
import Keypad.Proofs.Features.Codec
import Keypad.Proofs.Storage.Codecs
import Keypad.Proofs.Storage.BootCount
import Keypad.Proofs.Storage.TornProgram
import Keypad.Proofs.Panel.Renaming
import Keypad.Proofs.Panel.Surroundings
import Keypad.Proofs.Panel.Matching
import Keypad.Proofs.Panel.Projection
import Keypad.Proofs.Panel.Apart
import Keypad.Proofs.Tracker.Commands
import Keypad.Proofs.Features.Turns
import Keypad.Proofs.Features.Survival
import Keypad.Proofs.Tracker.Ring
import Keypad.Proofs.Features.Handover
import Keypad.Proofs.Features.Release
import Keypad.Proofs.Tracker.Headroom
import Keypad.Proofs.Tracker.Colors
import Keypad.Proofs.Features.Bounds
import Keypad.Proofs.Features.Overflow
import Keypad.Proofs.Panel.LongPress
import Keypad.Proofs.Features.ReadFailures
import Keypad.Proofs.Lights
import Keypad.Proofs.Tracker.Starting
import Keypad.Proofs.Tracker.Tracking
import Keypad.Proofs.Tracker.FunctionKey
import Keypad.Proofs.Keys.Failing
import Keypad.Proofs.Features.TornErase
import Keypad.Proofs.Features.Reports
import Keypad.Proofs.Decimal
import Keypad.Proofs.Tracker.LogLines
import Keypad.Proofs.Keys.BoardDefaults
