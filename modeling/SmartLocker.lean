import SmartLocker.Lib.Machine
import SmartLocker.Lib.Traced
import SmartLocker.Lib.Cut
import SmartLocker.Lib.Decimal
import SmartLocker.Lib.Python
import SmartLocker.Lib.OrdMap
import SmartLocker.Lib.JsonText
import SmartLocker.Lib.JsonDump
import SmartLocker.Lib.JsonRoundTrip
import SmartLocker.Lib.Utf8
import SmartLocker.Firmware.Command
import SmartLocker.Firmware.Receive
import SmartLocker.Firmware.Grammar
import SmartLocker.Firmware.Frames
import SmartLocker.Firmware.Loop
import SmartLocker.Firmware.Safety
import SmartLocker.Firmware.UsbPort
import SmartLocker.Firmware.Debounce
import SmartLocker.Firmware.DoorState
import SmartLocker.Firmware.DebounceTime
import SmartLocker.Gateway.Listener
import SmartLocker.Gateway.Reconnect
import SmartLocker.Gateway.Connect
import SmartLocker.Gateway.Commands
import SmartLocker.Gateway.SerialManager
import SmartLocker.Gateway.CabinetState
import SmartLocker.Gateway.Persistence
import SmartLocker.Gateway.LockerService
import SmartLocker.Gateway.SetupHandler
import SmartLocker.Gateway.SetupThreads
import SmartLocker.Gateway.Store
import SmartLocker.Gateway.LockerTable
import SmartLocker.Gateway.Reports
import SmartLocker.Gateway.Startup
import SmartLocker.Gateway.Settings
import SmartLocker.Gateway.HeartbeatThreads
import SmartLocker.Gateway.Simulator
import SmartLocker.System.BusDelivery
import SmartLocker.System.FrameCodec
import SmartLocker.System.ReplyCodec
import SmartLocker.System.Transactions
import SmartLocker.System.Requests
import SmartLocker.System.SerialThreads
import SmartLocker.System.Discovery
import SmartLocker.System.SlotCounts
import SmartLocker.System.Confinement
import SmartLocker.System.EndToEnd
import SmartLocker.System.Routing
import SmartLocker.System.Recovery
import SmartLocker.System.Subscriptions
import SmartLocker.System.SingleSetup
import SmartLocker.System.SetupRun
import SmartLocker.System.FailedSetup
import SmartLocker.System.FileMirror
import SmartLocker.System.Reset
import SmartLocker.System.DoorEvents
import SmartLocker.System.SetupOutcome
import SmartLocker.System.LockerRestart
import SmartLocker.System.SetupReport
import SmartLocker.System.BulkSetup
import SmartLocker.System.ReportedState
import SmartLocker.System.HeartbeatCover
import SmartLocker.System.SimulatorContract
import SmartLocker.System.Traffic
import SmartLocker.System.Feedback
import SmartLocker.Lib.Js
import SmartLocker.Kiosk.Payment
import SmartLocker.Kiosk.OrderPrice
import SmartLocker.Kiosk.PaidUnlock
import SmartLocker.Kiosk.Screens
import SmartLocker.Kiosk.Isolation
import SmartLocker.Kiosk.PaymentScreens
import SmartLocker.Kiosk.KioskUnlocks
import SmartLocker.System.Network
import SmartLocker.System.BusScan
import SmartLocker.System.BoardSetup
import SmartLocker.System.Orders
import SmartLocker.Firmware.Operations
import SmartLocker.System.WireReports
import SmartLocker.System.DoorReports
import SmartLocker.Lib.Timer
import SmartLocker.Firmware.Alive
import SmartLocker.System.CleanEffects
import SmartLocker.System.WireText
import SmartLocker.System.StateText
import SmartLocker.System.ConfigRestart
import SmartLocker.System.HeartbeatLoops
