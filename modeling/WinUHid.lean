import WinUHid.ReportAgreement
import WinUHid.ParserSafety
import WinUHid.CompletionSafety
import WinUHid.DeliveryOrder
import WinUHid.CompleteReadEvent
import WinUHid.WakeUps
import WinUHid.ReadyForRead
import WinUHid.SetupRuns
import WinUHid.ChildDevices
import WinUHid.Mouse
import WinUHid.MouseScroll
import WinUHid.MouseButtons
import WinUHid.Ps5Rumble
import WinUHid.Ps5Channels
import WinUHid.XOnePhases
import WinUHid.FfiAgreement
import WinUHid.HistoryIndependence
import WinUHid.InputHandOff
import WinUHid.CacheOrder
import WinUHid.CallbackAnswers
import WinUHid.LoggedOnce
import WinUHid.TokenCarriers
import WinUHid.SdkDevice
import WinUHid.SdkSteps
import WinUHid.CallbackLifetime
import WinUHid.StopDevice
import WinUHid.Custody
import WinUHid.ThrottleHandOff
import WinUHid.PresetWorkers
import WinUHid.HardwareIds
import WinUHid.SubmitPaths
import WinUHid.EventRecords
import WinUHid.XOneRepeats
import WinUHid.ReportPacking
import WinUHid.SensorTimestamps
import WinUHid.RequestDiscipline
import WinUHid.PollBuffer
import WinUHid.SharedQueue
import WinUHid.DriverFiles
import WinUHid.SharedOwnership
import WinUHid.DeviceManager
import WinUHid.ManagerMoves
import WinUHid.ManagerOwnership
import WinUHid.ManagerWiring
import WinUHid.ManagerRuns
import WinUHid.DeviceLifetimes
import WinUHid.ManagerAccounts
import WinUHid.ManagerIds
import WinUHid.MacAddresses
import WinUHid.EventStream
import WinUHid.Inspector
import WinUHid.ResourceLog
import WinUHid.DeviceCreation
import WinUHid.DeviceResources
import WinUHid.DeviceHandOver
import WinUHid.EventAnswers
import WinUHid.AnsweredEvents
import WinUHid.OperationHistory
import WinUHid.Quiescence
import WinUHid.PresetResources
import WinUHid.HandledEvents
import WinUHid.MouseResolution
import WinUHid.Trackpad
