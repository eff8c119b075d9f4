import WinUHid.GamepadReports
import WinUHid.InputReports
import WinUHid.Mouse
import WinUHid.Ps4Led
import WinUHid.Ps5Output
import WinUHid.GenericInputs

namespace WinUHid

open Bits

/-- The call with which a callback completes its event; `NULL` is a read that fails. -/
inductive Completion where
  | read (data : Option (List UInt8))
  | write (success : Bool)
  deriving DecidableEq

def MouseReply.completions : MouseReply → List Completion
  | .completedRead data => [.read data]
  | .completedWrite success => [.write success]
  | .submitted _ => []
  | .invalidParameter => []

/-- `generic_event_callback`, without the event that it broadcasts. -/
def GenericCache.eventCallback (c : GenericCache) (event : ParsedEvent) : List Completion :=
  if event.kind.isRead then [.read (c.pickReadSnapshot event)] else [.write true]

/-- The only input report of `k_PS4ReportDescriptor` and of `k_PS5ReportDescriptor`. -/
def inputReportId : UInt8 := 0x01

/-- An input report that a client passes on. Its `ReportId` is marked `Do not modify`. -/
structure ClientReport where
  report : GamepadReport
  marked : read report (.bytes 0 1) = inputReportId.toNat

/-- An event for a gamepad. -/
structure GamepadEvent extends ReceivedEvent where
  declared : type = .readReport → reportId = 0 ∨ reportId = inputReportId

/-- What the two gamepads have of their own: how they prepare input reports, which data they have
for feature reports and how they take output reports, with the calls of the client's callbacks. -/
structure GamepadPreset (D φ : Type) extends HandOff.Place D Int64 GamepadReport where
  getFeature : D → UInt8 → Option (List UInt8)
  outputReport : D → ReceivedEvent → D × List φ × Bool

/-- A gamepad, the calls of the client's callbacks, the events that the SDK has delivered, and those
whose callbacks have returned. -/
structure GamepadRun (D φ : Type) where
  device : D
  feedback : List φ
  delivered : List GamepadEvent
  returned : List (GamepadEvent × List Completion)

/-- What a thread is about to do for a gamepad. `completeRead` is the rest of the callback of a read
event, after the lock. -/
inductive GamepadProc where
  | callback (event : GamepadEvent)
  | completeRead (event : GamepadEvent)
  | reportInput (report : ClientReport)

inductive GamepadAction where
  | event (event : GamepadEvent)
  | reportInput (report : ClientReport)
  | run (i : Nat) (now : Int64)

namespace GamepadPreset

variable {D φ : Type} (g : GamepadPreset D φ)

/-- The callback of a gamepad: its completions once it returns, and none yet where it has prepared
the input report and released the lock. -/
def callback (now : Int64) (d : D) (event : ReceivedEvent) :
    D × List φ × Option (List Completion) :=
  match event.type with
  | .getFeature => (d, [], some [.read (g.getFeature d event.reportId)])
  | .setFeature => (d, [], some [.write true])
  | .readReport => (g.prepare d now, [], none)
  | .writeReport =>
    let (d, feedback, success) := g.outputReport d event
    (d, feedback, some [.write success])

/-- A report call is over with its locked section: the submission that follows reads
`LastInputReport` only. -/
def body (now : Int64) (s : GamepadRun D φ) : GamepadProc → GamepadRun D φ × List GamepadProc
  | .callback event =>
    let (d, feedback, completions) := g.callback now s.device event.toReceivedEvent
    let s := { s with device := d, feedback := s.feedback ++ feedback }
    match completions with
    | some completions => ({ s with returned := s.returned ++ [(event, completions)] }, [])
    | none => (s, [.completeRead event])
  | .completeRead event =>
    let completions := [.read (some (toBytes (g.content s.device)))]
    ({ s with returned := s.returned ++ [(event, completions)] }, [])
  | .reportInput report =>
    ({ s with device := g.prepare (g.load s.device report.report) now }, [])

def step (p : Pool (GamepadRun D φ) GamepadProc) :
    GamepadAction → Option (Pool (GamepadRun D φ) GamepadProc)
  | .event event =>
    let s := { p.shared with delivered := p.shared.delivered ++ [event] }
    some (p.spawn s (.callback event))
  | .reportInput report => some (p.spawn p.shared (.reportInput report))
  | .run i now => p.run (g.body now) i

end GamepadPreset

/-- A device that has been created and started. -/
def Started {D : Type} (φ : Type) (d : D) (p : Pool (GamepadRun D φ) GamepadProc) : Prop :=
  p = ⟨⟨d, [], [], []⟩, []⟩

/-- The calibration data of both gamepads. -/
def neutralCalibration : List UInt8 := [
  0x02,
  0x00, 0x00, 0x00, 0x00, 0x00, 0x00,
  0x10, 0x27, 0xF0, 0xD8, 0x10, 0x27, 0xF0, 0xD8, 0x10, 0x27, 0xF0, 0xD8,
  0xF4, 0x01, 0xF4, 0x01,
  0x10, 0x27, 0xF0, 0xD8, 0x10, 0x27, 0xF0, 0xD8, 0x10, 0x27, 0xF0, 0xD8]

abbrev MacAddress := Vector UInt8 6

/-- The pairing data of both gamepads, with the MAC address in reverse order. -/
def pairingInfo (macAddress : MacAddress) : List UInt8 := 0x12 :: macAddress.toList.reverse

section Ps4

/-- `WINUHID_PS4_GAMEPAD`, as its callback and its report calls use it. -/
structure Ps4Device where
  rumbleCallback : Bool
  ledThread : Bool
  ledUpdated : Bool
  ledState : Ps4LedState
  input : Ps4Input
  macAddress : MacAddress

/-- A call of the client's rumble callback. -/
structure Ps4Rumble where
  leftMotor : UInt8
  rightMotor : UInt8
  deriving DecidableEq

def ps4RumbleValid (event : ReceivedEvent) : Bool :=
  ((event.writeData.drop 1).getD 0 0).toNat.testBit 0

/-- `RumbleLeft` and `RumbleRight` of the `PS4_OUTPUT_REPORT`, which come the other way round. -/
def ps4Rumble (event : ReceivedEvent) : Ps4Rumble :=
  ⟨(event.writeData.drop 1).getD 4 0, (event.writeData.drop 1).getD 3 0⟩

namespace Ps4Device

def featureReportCalibration : UInt8 := 0x02
def featureReportFirmwareInfo : UInt8 := 0xa3
def featureReportPairingInfo : UInt8 := 0x12

def firmwareInfo : List UInt8 := [
  0xA3, 0x41, 0x75, 0x67, 0x20, 0x20, 0x33, 0x20,
  0x32, 0x30, 0x31, 0x33, 0x00, 0x00, 0x00, 0x00,
  0x00, 0x30, 0x37, 0x3A, 0x30, 0x31, 0x3A, 0x31,
  0x32, 0x00, 0x00, 0x00, 0x00, 0x00, 0x00, 0x00,
  0x00, 0x00, 0x01, 0x00, 0x31, 0x03, 0x00, 0x00,
  0x00, 0x49, 0x00, 0x05, 0x00, 0x00, 0x80, 0x03,
  0x00]

def getFeature (d : Ps4Device) (reportId : UInt8) : Option (List UInt8) :=
  if reportId = featureReportCalibration then some neutralCalibration
  else if reportId = featureReportFirmwareInfo then some firmwareInfo
  else if reportId = featureReportPairingInfo then some (pairingInfo d.macAddress)
  else none

def outputReport (d : Ps4Device) (event : ReceivedEvent) : Ps4Device × List Ps4Rumble × Bool :=
  if !event.isPs4Effects then (d, [], false)
  else
    let d :=
      if d.ledThread && event.hasPs4LedState then
        { d with ledState := event.ps4Effects.updateLedState d.ledState, ledUpdated := true }
      else d
    (d, if ps4RumbleValid event && d.rumbleCallback then [ps4Rumble event] else [], true)

/-- The functions of `WinUHidPS4.cpp`. -/
def preset : GamepadPreset Ps4Device Ps4Rumble where
  load := fun d report => { d with input := ps4InputPlace.load d.input report }
  prepare := fun d now => { d with input := d.input.prepareInputReportForSubmission now }
  content := fun d => d.input.lastInputReport
  getFeature := getFeature
  outputReport := outputReport

/-- What `WinUHidPS4Create` leaves before its first report. -/
def create {F : Type} (scale : SensorScale F) (rumbleCallback ledCallback : Bool)
    (macAddress : MacAddress) (qpcFrequency now : Int64) : Ps4Device :=
  ⟨rumbleCallback, ledCallback, false, ⟨0, 0, 0, 0, 0⟩,
    ⟨qpcFrequency, now, defaultPs4Report scale, 0⟩, macAddress⟩

end Ps4Device

end Ps4

section Ps5

structure Ps5Device where
  gamepad : Ps5Gamepad
  input : Ps5Input
  macAddress : MacAddress
  firmwareInfoReport : List UInt8

/-- The `FirmwareInfo` that a client passes. Where it is taken, the first byte must be the report
ID. -/
structure FirmwareInfo where
  blob : List UInt8
  first : blob.length = 64 → blob.head? = some 0x20

namespace Ps5Device

def featureReportCalibration : UInt8 := 0x05
def featureReportPairingInfo : UInt8 := 0x09
def featureReportFirmwareInfo : UInt8 := 0x20

def defaultFirmwareInfo : List UInt8 := [
  0x20, 0x4d, 0x61, 0x72, 0x20, 0x31, 0x35, 0x20,
  0x32, 0x30, 0x32, 0x35, 0x31, 0x30, 0x3a, 0x30,
  0x30, 0x3a, 0x30, 0x30, 0x04, 0x00, 0x14, 0x00,
  0x2c, 0x04, 0x00, 0x00, 0x0a, 0x00, 0x0c, 0x01,
  0x51, 0x0a, 0x00, 0x00, 0x00, 0x00, 0x00, 0x00,
  0x00, 0x00, 0x00, 0x00, 0x58, 0x04, 0x00, 0x00,
  0x2a, 0x00, 0x01, 0x00, 0x09, 0x00, 0x02, 0x00,
  0x06, 0x00, 0x00, 0x00, 0x00, 0x00, 0x00, 0x00]

def getFeature (d : Ps5Device) (reportId : UInt8) : List UInt8 :=
  if reportId = featureReportCalibration then neutralCalibration
  else if reportId = featureReportFirmwareInfo then d.firmwareInfoReport
  else if reportId = featureReportPairingInfo then pairingInfo d.macAddress
  else (List.replicate 64 0).set 0 reportId

/-- The functions of `WinUHidPS5.cpp`. -/
def preset : GamepadPreset Ps5Device Ps5Feedback where
  load := fun d report => { d with input := ps5InputPlace.load d.input report }
  prepare := fun d now => { d with input := d.input.prepareInputReportForSubmission now }
  content := fun d => d.input.lastInputReport
  getFeature := fun d reportId => some (d.getFeature reportId)
  outputReport := fun d event =>
    let (gamepad, feedback, success) := d.gamepad.outputReport event
    ({ d with gamepad := gamepad }, feedback, success)

/-- What `WinUHidPS5Create` leaves before its first report. -/
def create {F : Type} (scale : SensorScale F)
    (rumble lightBarLed playerLed triggerEffect micLed : Bool) (macAddress : MacAddress)
    (firmwareInfo : Option FirmwareInfo) (qpcFrequency now : Int64) : Ps5Device where
  gamepad := .create rumble lightBarLed playerLed triggerEffect micLed
  input := ⟨qpcFrequency, now, defaultPs5Report scale, 0, 0⟩
  macAddress := macAddress
  firmwareInfoReport :=
    match firmwareInfo with
    | some info => if info.blob.length = 64 then info.blob else defaultFirmwareInfo
    | none => defaultFirmwareInfo

end Ps5Device

end Ps5

end WinUHid
