import WinUHid.FfiStructures
import WinUHid.BitAssignments

namespace WinUHid

open Bits StructLayout

def RustPs4ReportField.span (f : RustPs4ReportField) : Span := spanOf (layout 1 declaration) f

def XOneReportField.span (f : XOneReportField) : Span := spanOf (layout 1 declaration) f

/-- The bits of the 64 bytes of a PS4 or PS5 report. -/
def gamepadReportBits : Nat := 8 * 64

def xOneReportBits : Nat := 8 * 17

/-- An assignment to a PS4 or PS5 report. -/
abbrev ReportAssignment := Assignment gamepadReportBits

abbrev XOneAssignment := Assignment xOneReportBits

/-- The conversion of a sensor reading, from metres per second squared or radians per second, to
the number in the report, and the readings that the preset itself reports. -/
structure SensorScale (F : Type) where
  accel : F → UInt16
  gyro : F → UInt16
  zero : F
  gravity : F

/-- The direction of the hat in a PS4 or PS5 report. -/
def hatState (hatX hatY : Int) : Nat :=
  if hatX = 0 ∧ hatY = 0 then 0x8
  else if hatX < 0 ∧ hatY < 0 then 0x7
  else if hatX < 0 ∧ hatY = 0 then 0x6
  else if hatX < 0 ∧ hatY > 0 then 0x5
  else if hatX = 0 ∧ hatY > 0 then 0x4
  else if hatX > 0 ∧ hatY > 0 then 0x3
  else if hatX > 0 ∧ hatY = 0 then 0x2
  else if hatX > 0 ∧ hatY < 0 then 0x1
  else 0x0

def xOneHatState (hatX hatY : Int) : Nat :=
  if hatX = 0 ∧ hatY = 0 then 0x0
  else if hatX < 0 ∧ hatY < 0 then 0x8
  else if hatX < 0 ∧ hatY = 0 then 0x7
  else if hatX < 0 ∧ hatY > 0 then 0x6
  else if hatX = 0 ∧ hatY > 0 then 0x5
  else if hatX > 0 ∧ hatY > 0 then 0x4
  else if hatX > 0 ∧ hatY = 0 then 0x3
  else if hatX > 0 ∧ hatY < 0 then 0x2
  else 0x1

/-- What the setters of the touch state do with one touch point. -/
def setTouchPoint {n : Nat} (point : TouchPointField → Span) (touchDown : Bool)
    (touchX touchY : UInt16) : List (Assignment n) :=
  (if touchDown then
    [.update (point .ContactSeq) (· + 1), .update (point .ContactSeq) (· &&& 0x7F)]
  else [.update (point .ContactSeq) (· ||| 0x80)]) ++
  [.set (point .XLowPart) (touchX &&& 0xFF).toNat,
    .set (point .XHighPart) ((touchX >>> 8) &&& 0xF).toNat,
    .set (point .YLowPart) (touchY &&& 0xF).toNat,
    .set (point .YHighPart) ((touchY >>> 4) &&& 0xFF).toNat]

/-- The setters of three values of a sensor. -/
def setSensor {n : Nat} {F : Type} (x y z : Span) (scale : F → UInt16) (valueX valueY valueZ : F) :
    List (Assignment n) :=
  [.set x (scale valueX).toNat, .set y (scale valueY).toNat, .set z (scale valueZ).toNat]

section Ps4

variable {F : Type} (scale : SensorScale F)

open Ps4ReportField

def ps4SetHatState (hatX hatY : Int) : List ReportAssignment := [.set Hat.span (hatState hatX hatY)]

def ps4SetTouchState (touchIndex : Fin 2) (touchDown : Bool) (touchX touchY : UInt16) :
    List ReportAssignment :=
  .set TouchReportCount.span 1 ::
    (setTouchPoint (fun part => (TouchPoint 0 touchIndex part).span) touchDown touchX touchY ++
      [.update (TouchTimestamp 0).span (· + 1)])

def ps4SetAccelState (accelX accelY accelZ : F) : List ReportAssignment :=
  setSensor AccelX.span AccelY.span AccelZ.span scale.accel accelX accelY accelZ

def ps4SetGyroState (gyroX gyroY gyroZ : F) : List ReportAssignment :=
  setSensor GyroX.span GyroY.span GyroZ.span scale.gyro gyroX gyroY gyroZ

def ps4SetBatteryState (wired : Bool) (percentage : UInt8) : List ReportAssignment :=
  if percentage = 100 ∧ wired then
    [.set BatteryLevel.span 0xFF, .set BatteryLevelSpecial.span 0x1B]
  else
    [.set BatteryLevel.span (percentage.toNat * 255 / 100),
      .set BatteryLevelSpecial.span (percentage.toNat / 10),
      if wired then .update BatteryLevelSpecial.span (· ||| 0x10)
      else .update BatteryLevelSpecial.span (· &&& 0xEF)]

def ps4InitializeInputReport : List ReportAssignment := [
  [.set (.bytes 0 64) 0,
    .set ReportId.span 0x01,
    .set LeftStickX.span 0x80,
    .set LeftStickY.span 0x80,
    .set RightStickX.span 0x80,
    .set RightStickY.span 0x80,
    .set Hat.span 0x8],
  ps4SetTouchState 0 false 0 0,
  ps4SetTouchState 1 false 0 0,
  ps4SetBatteryState true 100,
  ps4SetAccelState scale scale.zero scale.gravity scale.zero].flatten

/-- The counters of the touches: the time of the touch report and the contacts' sequence numbers,
without the bit that says whether the contact is down. -/
def ps4Counters : BitVec gamepadReportBits := maskOf _ [(TouchTimestamp 0).span,
  (TouchPoint 0 0 .ContactSeq).span.part 0 7, (TouchPoint 0 1 .ContactSeq).span.part 0 7]

end Ps4

section Ps5

variable {F : Type} (scale : SensorScale F)

open Ps5ReportField

def ps5SetHatState (hatX hatY : Int) : List ReportAssignment := [.set Hat.span (hatState hatX hatY)]

def ps5SetTouchState (touchIndex : Fin 2) (touchDown : Bool) (touchX touchY : UInt16) :
    List ReportAssignment :=
  setTouchPoint (fun part => (TouchPoint touchIndex part).span) touchDown touchX touchY ++
    [.update TouchTimestamp.span (· + 1)]

def ps5SetAccelState (accelX accelY accelZ : F) : List ReportAssignment :=
  setSensor AccelX.span AccelY.span AccelZ.span scale.accel accelX accelY accelZ

def ps5SetGyroState (gyroX gyroY gyroZ : F) : List ReportAssignment :=
  setSensor GyroX.span GyroY.span GyroZ.span scale.gyro gyroX gyroY gyroZ

def ps5SetBatteryState (wired : Bool) (percentage : UInt8) : List ReportAssignment :=
  if percentage = 100 ∧ wired then [.set BatteryPercent.span 0xA, .set BatteryState.span 0x02]
  else [.set BatteryPercent.span (percentage.toNat / 10), .set BatteryState.span wired.toNat]

def ps5InitializeInputReport : List ReportAssignment := [
  [.set (.bytes 0 64) 0,
    .set ReportId.span 0x01,
    .set LeftStickX.span 0x80,
    .set LeftStickY.span 0x80,
    .set RightStickX.span 0x80,
    .set RightStickY.span 0x80,
    .set Hat.span 0x8],
  ps5SetTouchState 0 false 0 0,
  ps5SetTouchState 1 false 0 0,
  ps5SetBatteryState true 100,
  ps5SetAccelState scale scale.zero scale.gravity scale.zero].flatten

def ps5Counters : BitVec gamepadReportBits := maskOf _ [TouchTimestamp.span,
  (TouchPoint 0 .ContactSeq).span.part 0 7, (TouchPoint 1 .ContactSeq).span.part 0 7]

end Ps5

section XOne

open XOneReportField

def xOneSetHatState (hatX hatY : Int) : List XOneAssignment :=
  [.set Hat.span (xOneHatState hatX hatY)]

def xOneInitializeInputReport : List XOneAssignment := [
  .set (.bytes 0 17) 0,
  .set LeftStickX.span 0x8000,
  .set LeftStickY.span 0x8000,
  .set RightStickX.span 0x8000,
  .set RightStickY.span 0x8000,
  .set BatteryLevel.span 0xFF]

end XOne

/-- A touch of the touchpad as the web client sends it. -/
structure Touch where
  active : Bool
  x : UInt16
  y : UInt16

/-- `Ps4State` of the web server; its sensor readings are of a type `F`. -/
structure Ps4State (F : Type) where
  leftStickX : UInt8
  leftStickY : UInt8
  rightStickX : UInt8
  rightStickY : UInt8
  leftTrigger : UInt8
  rightTrigger : UInt8
  hatX : Int8
  hatY : Int8
  btnSquare : Bool
  btnCross : Bool
  btnCircle : Bool
  btnTriangle : Bool
  btnL1 : Bool
  btnR1 : Bool
  btnL2 : Bool
  btnR2 : Bool
  btnShare : Bool
  btnOptions : Bool
  btnL3 : Bool
  btnR3 : Bool
  btnHome : Bool
  btnTouchpad : Bool
  touchpad : Touch
  touchpad2 : Touch
  accelX : F
  accelY : F
  accelZ : F
  gyroX : F
  gyroY : F
  gyroZ : F

structure Ps5State (F : Type) extends Ps4State F where
  btnMute : Bool
  triggerRightStatus : UInt8
  triggerRightStopLocation : UInt8
  triggerLeftStatus : UInt8
  triggerLeftStopLocation : UInt8
  triggerRightEffect : UInt8
  triggerLeftEffect : UInt8

structure XOneState where
  leftStickX : UInt16
  leftStickY : UInt16
  rightStickX : UInt16
  rightStickY : UInt16
  leftTrigger : UInt16
  rightTrigger : UInt16
  hatX : Int8
  hatY : Int8
  btnA : Bool
  btnB : Bool
  btnX : Bool
  btnY : Bool
  btnLb : Bool
  btnRb : Bool
  btnBack : Bool
  btnMenu : Bool
  btnLs : Bool
  btnRs : Bool
  btnHome : Bool
  batteryLevel : UInt8

/-- `if on { mask } else { 0 }` -/
def flag (on : Bool) (mask : Nat) : Nat := if on then mask else 0

def applyPs4StateBytes {F : Type} (state : Ps4State F) : List ReportAssignment :=
  let face := flag state.btnSquare ps4FaceSquare ||| flag state.btnCross ps4FaceCross |||
    flag state.btnCircle ps4FaceCircle ||| flag state.btnTriangle ps4FaceTriangle
  let shoulderStick := flag state.btnL1 ps4BtnL1 ||| flag state.btnR1 ps4BtnR1 |||
    flag state.btnL2 ps4BtnL2 ||| flag state.btnR2 ps4BtnR2 |||
    flag state.btnShare ps4BtnShare ||| flag state.btnOptions ps4BtnOptions |||
    flag state.btnL3 ps4BtnL3 ||| flag state.btnR3 ps4BtnR3
  let buttons := flag state.btnHome ps4BtnHome ||| flag state.btnTouchpad ps4BtnTouchpad
  open RustPs4ReportField in [
  .set LeftStickX.span state.leftStickX.toNat,
  .set LeftStickY.span state.leftStickY.toNat,
  .set RightStickX.span state.rightStickX.toNat,
  .set RightStickY.span state.rightStickY.toNat,
  .set LeftTrigger.span state.leftTrigger.toNat,
  .set RightTrigger.span state.rightTrigger.toNat,
  .update packed_hat_face.span fun old => (old &&& 0x0F) ||| face,
  .set packed_shoulder_stick.span shoulderStick,
  .update packed_meta.span fun old => (old &&& 0xFC) ||| buttons]

def applyPs5StateBytes {F : Type} (state : Ps5State F) : List ReportAssignment :=
  let face := flag state.btnSquare ps5FaceSquare ||| flag state.btnCross ps5FaceCross |||
    flag state.btnCircle ps5FaceCircle ||| flag state.btnTriangle ps5FaceTriangle
  let shoulder := flag state.btnL1 ps5BtnL1 ||| flag state.btnR1 ps5BtnR1 |||
    flag state.btnL2 ps5BtnL2 ||| flag state.btnR2 ps5BtnR2 |||
    flag state.btnShare ps5BtnShare ||| flag state.btnOptions ps5BtnOptions |||
    flag state.btnL3 ps5BtnL3 ||| flag state.btnR3 ps5BtnR3
  let buttons := flag state.btnHome ps5BtnHome ||| flag state.btnTouchpad ps5BtnTouchpad |||
    flag state.btnMute ps5BtnMute
  let nibbles := fun low high : UInt8 => (low &&& 0x0F).toNat ||| ((high &&& 0x0F) <<< 4).toNat
  [.set (.bytes ps5OffLeftStickX 1) state.leftStickX.toNat,
    .set (.bytes ps5OffLeftStickY 1) state.leftStickY.toNat,
    .set (.bytes ps5OffRightStickX 1) state.rightStickX.toNat,
    .set (.bytes ps5OffRightStickY 1) state.rightStickY.toNat,
    .set (.bytes ps5OffLeftTrigger 1) state.leftTrigger.toNat,
    .set (.bytes ps5OffRightTrigger 1) state.rightTrigger.toNat,
    .update (.bytes ps5OffHatFace 1) fun old => (old &&& 0x0F) ||| face,
    .set (.bytes ps5OffShoulderStick 1) shoulder,
    .set (.bytes ps5OffMeta 1) buttons,
    .set (.bytes ps5OffTriggerRightStatus 1)
      (nibbles state.triggerRightStopLocation state.triggerRightStatus),
    .set (.bytes ps5OffTriggerLeftStatus 1)
      (nibbles state.triggerLeftStopLocation state.triggerLeftStatus),
    .set (.bytes ps5OffTriggerEffect 1) (nibbles state.triggerRightEffect state.triggerLeftEffect)]

def applyXOneStateBytes (state : XOneState) : List XOneAssignment :=
  let buttons := flag state.btnA xOneBtnA ||| flag state.btnB xOneBtnB |||
    flag state.btnX xOneBtnX ||| flag state.btnY xOneBtnY |||
    flag state.btnLb xOneBtnLb ||| flag state.btnRb xOneBtnRb |||
    flag state.btnBack xOneBtnBack ||| flag state.btnMenu xOneBtnMenu
  [.set (.bytes xOneOffLx 2) state.leftStickX.toNat,
    .set (.bytes xOneOffLy 2) state.leftStickY.toNat,
    .set (.bytes xOneOffRx 2) state.rightStickX.toNat,
    .set (.bytes xOneOffRy 2) state.rightStickY.toNat,
    .set (.bytes xOneOffLt 2) (min state.leftTrigger 1023).toNat,
    .set (.bytes xOneOffRt 2) (min state.rightTrigger 1023).toNat,
    .set (.bytes xOneOffBtn1 1) buttons,
    .set (.bytes xOneOffBtn2 1) (flag state.btnLs xOneBtnLs ||| flag state.btnRs xOneBtnRs),
    .set (.bytes xOneOffHome 1) (flag state.btnHome xOneBtnHome),
    .set (.bytes xOneOffBattery 1) state.batteryLevel.toNat]

section Submit

variable {F : Type} (scale : SensorScale F)

/-- What `submit_ps4_state` does with the device's report before it passes it on. -/
def submitPs4State (state : Ps4State F) : List ReportAssignment :=
  ps4SetHatState state.hatX.toInt state.hatY.toInt ++
  applyPs4StateBytes state ++
  ps4SetTouchState 0 state.touchpad.active (min state.touchpad.x 1919)
    (min state.touchpad.y 942) ++
  ps4SetTouchState 1 state.touchpad2.active (min state.touchpad2.x 1919)
    (min state.touchpad2.y 942) ++
  ps4SetAccelState scale state.accelX state.accelY state.accelZ ++
  ps4SetGyroState scale state.gyroX state.gyroY state.gyroZ

def submitPs5State (state : Ps5State F) : List ReportAssignment :=
  ps5SetHatState state.hatX.toInt state.hatY.toInt ++
  applyPs5StateBytes state ++
  ps5SetTouchState 0 state.touchpad.active (min state.touchpad.x 1919)
    (min state.touchpad.y 1079) ++
  ps5SetTouchState 1 state.touchpad2.active (min state.touchpad2.x 1919)
    (min state.touchpad2.y 1079) ++
  ps5SetAccelState scale state.accelX state.accelY state.accelZ ++
  ps5SetGyroState scale state.gyroX state.gyroY state.gyroZ

def submitXOneState (state : XOneState) : List XOneAssignment :=
  xOneSetHatState state.hatX.toInt state.hatY.toInt ++ applyXOneStateBytes state

/-- `default_ps4_report` -/
def defaultPs4Report : BitVec gamepadReportBits := runAll (ps4InitializeInputReport scale) 0

def defaultPs5Report : BitVec gamepadReportBits := runAll (ps5InitializeInputReport scale) 0

def defaultXOneReport : BitVec xOneReportBits := runAll xOneInitializeInputReport 0

end Submit

end WinUHid
