import WinUHid.DriverInterface

namespace WinUHid

structure Ps5LedState where
  red : UInt8
  green : UInt8
  blue : UInt8
  deriving DecidableEq

structure Ps5RumbleState where
  right : UInt8
  left : UInt8
  deriving DecidableEq

/-- `WINUHID_PS5_TRIGGER_EFFECT`: the type and ten bytes of data. -/
abbrev Ps5TriggerEffect := List UInt8

def sizeofPs5TriggerEffect : Nat := 11

/-- The fields of `PS5_OUTPUT_REPORT` that the callback reads. -/
structure Ps5OutputReport where
  compatibleVibration : Bool
  rightTriggerEffectValid : Bool
  leftTriggerEffectValid : Bool
  micMuteLedValid : Bool
  lightBarControlValid : Bool
  playerIndicatorValid : Bool
  motorState : Ps5RumbleState
  muteButtonLed : UInt8
  rightTriggerEffect : Ps5TriggerEffect
  leftTriggerEffect : Ps5TriggerEffect
  compatibleVibration2 : Bool
  playerLeds : UInt8
  ledState : Ps5LedState

/-- `sizeof(PS5_OUTPUT_REPORT)` of the packed structure. -/
def sizeofPs5OutputReport : Nat := 2 + 2 + 4 + 1 + 1 + 11 + 11 + 6 + 1 + 2 + 1 + 1 + 1 + 3

/-- The structure laid over the bytes after the report id. -/
def Ps5OutputReport.ofBytes (b : List UInt8) : Ps5OutputReport :=
  let byte := fun i => b.getD i 0
  let bit := fun i k => (byte i).toNat.testBit k
  { compatibleVibration := bit 0 0
    rightTriggerEffectValid := bit 0 2
    leftTriggerEffectValid := bit 0 3
    micMuteLedValid := bit 1 0
    lightBarControlValid := bit 1 2
    playerIndicatorValid := bit 1 4
    motorState := ⟨byte 2, byte 3⟩
    muteButtonLed := byte 8
    rightTriggerEffect := (b.drop 10).take sizeofPs5TriggerEffect
    leftTriggerEffect := (b.drop 21).take sizeofPs5TriggerEffect
    compatibleVibration2 := bit 38 2
    playerLeds := byte 43
    ledState := ⟨byte 44, byte 45, byte 46⟩ }

/-- A call of one of the client's callbacks. -/
inductive Ps5Feedback where
  | lightBarLed (red green blue : UInt8)
  | playerLed (leds : UInt8)
  | rumble (leftMotor rightMotor : UInt8)
  | triggerEffect (left right : Option Ps5TriggerEffect)
  | micLed (led : UInt8)
  deriving DecidableEq

/-- What output reports change of a `WINUHID_PS5_GAMEPAD`, and which callbacks are registered. -/
structure Ps5Gamepad where
  rumbleCallback : Bool
  lastMotorState : Ps5RumbleState
  lightBarCallback : Bool
  lastLedState : Ps5LedState
  triggerEffectCallback : Bool
  lastRightTriggerEffect : Ps5TriggerEffect
  lastLeftTriggerEffect : Ps5TriggerEffect
  playerLedCallback : Bool
  lastPlayerLedState : UInt8
  micLedCallback : Bool
  lastMicLedState : UInt8

/-- `WinUHidPS5Create` zeroes the gamepad and registers the callbacks that are not `NULL`. -/
def Ps5Gamepad.create (rumble lightBarLed playerLed triggerEffect micLed : Bool) : Ps5Gamepad where
  rumbleCallback := rumble
  lastMotorState := ⟨0, 0⟩
  lightBarCallback := lightBarLed
  lastLedState := ⟨0, 0, 0⟩
  triggerEffectCallback := triggerEffect
  lastRightTriggerEffect := List.replicate sizeofPs5TriggerEffect 0
  lastLeftTriggerEffect := List.replicate sizeofPs5TriggerEffect 0
  playerLedCallback := playerLed
  lastPlayerLedState := 0
  micLedCallback := micLed
  lastMicLedState := 0

def ps5OutputReportEffects : UInt8 := 0x02

/-- Whether an output report event has the one defined report id and length. -/
def ReceivedEvent.isPs5Effects (event : ReceivedEvent) : Bool :=
  event.reportId == ps5OutputReportEffects &&
    decide (1 + sizeofPs5OutputReport ≤ event.writeData.length)

/-- `(PPS5_OUTPUT_REPORT)&Event->Write.Data[1]` -/
def ReceivedEvent.ps5Effects (event : ReceivedEvent) : Ps5OutputReport :=
  .ofBytes (event.writeData.drop 1)

/-- A motor byte shifted by the mode and passed as a `UCHAR`. -/
def Ps5OutputReport.amplitude (report : Ps5OutputReport) (motor : UInt8) : UInt8 :=
  UInt8.ofNat (motor.toNat <<< (if report.compatibleVibration2 then 0 else 1))

namespace Ps5Gamepad

def lightBar (g : Ps5Gamepad) (report : Ps5OutputReport) : Ps5Gamepad × List Ps5Feedback :=
  if g.lightBarCallback && report.lightBarControlValid && report.ledState != g.lastLedState then
    ({ g with lastLedState := report.ledState },
      [.lightBarLed report.ledState.red report.ledState.green report.ledState.blue])
  else (g, [])

def playerLed (g : Ps5Gamepad) (report : Ps5OutputReport) : Ps5Gamepad × List Ps5Feedback :=
  if g.playerLedCallback && report.playerIndicatorValid &&
      report.playerLeds != g.lastPlayerLedState then
    ({ g with lastPlayerLedState := report.playerLeds }, [.playerLed report.playerLeds])
  else (g, [])

def rumble (g : Ps5Gamepad) (report : Ps5OutputReport) : Ps5Gamepad × List Ps5Feedback :=
  if g.rumbleCallback && (report.compatibleVibration || report.compatibleVibration2) &&
      report.motorState != g.lastMotorState then
    ({ g with lastMotorState := report.motorState },
      [.rumble (report.amplitude report.motorState.left) (report.amplitude report.motorState.right)])
  else (g, [])

def triggerEffect (g : Ps5Gamepad) (report : Ps5OutputReport) : Ps5Gamepad × List Ps5Feedback :=
  if g.triggerEffectCallback &&
      ((report.rightTriggerEffectValid &&
          report.rightTriggerEffect != g.lastRightTriggerEffect) ||
        (report.leftTriggerEffectValid &&
          report.leftTriggerEffect != g.lastLeftTriggerEffect)) then
    ({ g with
        lastRightTriggerEffect :=
          if report.rightTriggerEffectValid then report.rightTriggerEffect
          else g.lastRightTriggerEffect
        lastLeftTriggerEffect :=
          if report.leftTriggerEffectValid then report.leftTriggerEffect
          else g.lastLeftTriggerEffect },
      [.triggerEffect
        (if report.leftTriggerEffectValid then some report.leftTriggerEffect else none)
        (if report.rightTriggerEffectValid then some report.rightTriggerEffect else none)])
  else (g, [])

def micLed (g : Ps5Gamepad) (report : Ps5OutputReport) : Ps5Gamepad × List Ps5Feedback :=
  if g.micLedCallback && report.micMuteLedValid && report.muteButtonLed != g.lastMicLedState then
    ({ g with lastMicLedState := report.muteButtonLed }, [.micLed report.muteButtonLed])
  else (g, [])

/-- The output report branch of `WinUHidPS5Callback`: the callbacks it calls, in order, and
whether it completes the event with success. -/
def outputReport (g : Ps5Gamepad) (event : ReceivedEvent) :
    Ps5Gamepad × (List Ps5Feedback × Bool) :=
  if !event.isPs5Effects then (g, [], false)
  else
    let report := event.ps5Effects
    let (g, lightBar) := g.lightBar report
    let (g, playerLed) := g.playerLed report
    let (g, rumble) := g.rumble report
    let (g, triggerEffect) := g.triggerEffect report
    let (g, micLed) := g.micLed report
    (g, lightBar ++ playerLed ++ rumble ++ triggerEffect ++ micLed, true)

end Ps5Gamepad

theorem outputReport_refused {g : Ps5Gamepad} {event : ReceivedEvent}
    (he : event.isPs5Effects = false) : g.outputReport event = (g, [], false) := by
  simp only [Ps5Gamepad.outputReport, he, Bool.not_false, if_true]

end WinUHid
