import RidFirmware.Lib.Machine
import RidFirmware.Lib.Service
import RidFirmware.Lib.Wire
import RidFirmware.Lib.Elements
import RidFirmware.Lib.Ieee
import RidFirmware.Lib.DualSlot
import RidFirmware.Lib.BoundedQueue
import RidFirmware.Lib.Ring
import RidFirmware.Lib.InFlight
import RidFirmware.Lib.Largest
import RidFirmware.Lib.LeastFirst
import RidFirmware.Lib.Grid
import RidFirmware.Lib.Stagger
import RidFirmware.Lib.Path
import RidFirmware.Lib.Steady
import RidFirmware.Lib.Polyline
import RidFirmware.Lib.Rates
import RidFirmware.Lib.Ledger
import RidFirmware.Lib.Numeral
import RidFirmware.Lib.Traverse
import RidFirmware.Lib.Rounding
import RidFirmware.Lib.Quantizer
import RidFirmware.Lib.Nearest
import RidFirmware.Lib.Literal
import RidFirmware.Lib.FirstSeen
import RidFirmware.Lib.SlotTable
import RidFirmware.Lib.Presence
import RidFirmware.Lib.Numbering
import RidFirmware.Lib.WrappedClock
import RidFirmware.Model
import RidFirmware.Config.Identity
import RidFirmware.Trajectory.Config
import RidFirmware.Config.Config
import RidFirmware.Config.Accepted
import RidFirmware.Config.Fleet
import RidFirmware.NvsStore.Codec
import RidFirmware.NvsStore.Store
import RidFirmware.NvsStore.Blob
import RidFirmware.NvsStore.CrashSafety
import RidFirmware.NvsStore.Canonical
import RidFirmware.NvsStore.Capacity
import RidFirmware.Scheduler.Payload
import RidFirmware.Scheduler.Scheduler
import RidFirmware.Scheduler.Freshest
import RidFirmware.Scheduler.Drain
import RidFirmware.Radio.Framing
import RidFirmware.Radio.BeaconCheck
import RidFirmware.Radio.BeaconGrammar
import RidFirmware.Radio.EspWifiBackend
import RidFirmware.Radio.WifiOwnership
import RidFirmware.Radio.RadioCoordinator
import RidFirmware.Radio.WifiService
import RidFirmware.Radio.WifiStarvation
import RidFirmware.Radio.WifiReport
import RidFirmware.Radio.WifiRotation
import RidFirmware.Radio.WifiStack
import RidFirmware.Radio.BleTransport
import RidFirmware.Radio.BleAccounting
import RidFirmware.Radio.BleFailure
import RidFirmware.Radio.BleOrder
import RidFirmware.Radio.CompletionRing
import RidFirmware.Radio.CallbackTeardown
import RidFirmware.Radio.NimbleBackend
import RidFirmware.Radio.Intake
import RidFirmware.Radio.Overload
import RidFirmware.Radio.Handover
import RidFirmware.Radio.WifiDrain
import RidFirmware.Radio.BleStack
import RidFirmware.Gb.Encoder
import RidFirmware.Gb.Decoder
import RidFirmware.Gb.Recovery
import RidFirmware.Gb.Markers
import RidFirmware.Odid.Core
import RidFirmware.Odid.Encoder
import RidFirmware.Odid.Decoder
import RidFirmware.Odid.Received
import RidFirmware.Odid.Accuracy
import RidFirmware.Odid.Receiver
import RidFirmware.Odid.MessagePack
import RidFirmware.Odid.Repack
import RidFirmware.Odid.FlightReport
import RidFirmware.Radio.PackFraming
import RidFirmware.Radio.VendorBeacon
import RidFirmware.Runtime.Runtime
import RidFirmware.Runtime.Schedule
import RidFirmware.Runtime.Encoding
import RidFirmware.Runtime.SinkRule
import RidFirmware.Runtime.EncodeErrors
import RidFirmware.Runtime.Sending
import RidFirmware.Runtime.Attempts
import RidFirmware.Runtime.Payloads
import RidFirmware.Runtime.Expiry
import RidFirmware.Runtime.Bursts
import RidFirmware.Runtime.Plan
import RidFirmware.Runtime.Numbered
import RidFirmware.Runtime.Pace
import RidFirmware.Runtime.Counters
import RidFirmware.Runtime.FleetMix
import RidFirmware.Runtime.Reception
import RidFirmware.Runtime.Tracking
import RidFirmware.Trajectory.Engine
import RidFirmware.Trajectory.Motion
import RidFirmware.Trajectory.Flight
import RidFirmware.Trajectory.Envelope
import RidFirmware.Trajectory.Legs
import RidFirmware.Trajectory.Encodable
import RidFirmware.Trajectory.Sampling
import RidFirmware.Trajectory.Unbroken
import RidFirmware.Trajectory.Loops
import RidFirmware.Trajectory.Rates
import RidFirmware.Runtime.Flights
import RidFirmware.Runtime.Elapsed
import RidFirmware.Shell.LineBuffer
import RidFirmware.Shell.Lines
import RidFirmware.Shell.Shell
import RidFirmware.Shell.Commands
import RidFirmware.Shell.Transactions
import RidFirmware.Shell.Console
import RidFirmware.Shell.Script
import RidFirmware.App.Radios
import RidFirmware.App.Switch
import RidFirmware.App.Accounting
import RidFirmware.App.RuntimeTask
import RidFirmware.App.TaskSteps
import RidFirmware.App.Device
import RidFirmware.App.Restore
import RidFirmware.App.Agreement
import RidFirmware.App.Savable
import RidFirmware.Acceptance.ReceiverLog
import RidFirmware.Acceptance.ReadRecords
import RidFirmware.Acceptance.Neighbours
import RidFirmware.Acceptance.LogOrder
