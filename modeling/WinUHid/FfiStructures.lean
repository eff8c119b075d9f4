import WinUHid.StructLayout

namespace WinUHid

open StructLayout StructLayout.Member

/-- The default packing of MSVC on x64, under which members have their natural alignment. -/
def naturalPack : Nat := 16

def sizeofPointer : Nat := 8

/-- A `GUID`, aligned as its first member. -/
def guid {ι : Type} (name : ι) : Member ι := { name, size := 16, align := 4 }

inductive DeviceConfigField where
  | SupportedEvents
  | VendorID
  | ProductID
  | VersionNumber
  | ReportDescriptorLength
  | ReportDescriptor
  | ContainerId
  | InstanceID
  | HardwareIDs
  | ReadReportPeriodUs
  deriving DecidableEq

namespace DeviceConfigField

/-- `WINUHID_DEVICE_CONFIG`, in the same order on both sides -/
def declaration : List (Member DeviceConfigField) := [
  scalar SupportedEvents 4,
  scalar VendorID 2,
  scalar ProductID 2,
  scalar VersionNumber 2,
  scalar ReportDescriptorLength 2,
  scalar ReportDescriptor sizeofPointer,
  guid ContainerId,
  scalar InstanceID sizeofPointer,
  scalar HardwareIDs sizeofPointer,
  scalar ReadReportPeriodUs 4]

end DeviceConfigField

inductive PresetDeviceInfoField where
  | VendorID
  | ProductID
  | VersionNumber
  | ContainerId
  | InstanceID
  | HardwareIDs
  deriving DecidableEq

namespace PresetDeviceInfoField

/-- `WINUHID_PRESET_DEVICE_INFO` -/
def declaration : List (Member PresetDeviceInfoField) := [
  scalar VendorID 2,
  scalar ProductID 2,
  scalar VersionNumber 2,
  guid ContainerId,
  scalar InstanceID sizeofPointer,
  scalar HardwareIDs sizeofPointer]

end PresetDeviceInfoField

inductive Ps4GamepadInfoField where
  | BasicInfo
  | MacAddress
  deriving DecidableEq

/-- `WINUHID_PS4_GAMEPAD_INFO` -/
def Ps4GamepadInfoField.declaration : List (Member Ps4GamepadInfoField) := [
  scalar BasicInfo sizeofPointer,
  array MacAddress 1 6]

inductive Ps5GamepadInfoField where
  | BasicInfo
  | MacAddress
  | FirmwareInfo
  | FirmwareInfoLength
  deriving DecidableEq

/-- `WINUHID_PS5_GAMEPAD_INFO` -/
def Ps5GamepadInfoField.declaration : List (Member Ps5GamepadInfoField) := [
  scalar BasicInfo sizeofPointer,
  array MacAddress 1 6,
  scalar FirmwareInfo sizeofPointer,
  scalar FirmwareInfoLength 1]

/-- The members of a touch point. -/
inductive TouchPointField where
  | ContactSeq
  | XLowPart
  | XHighPart
  | YLowPart
  | YHighPart
  deriving DecidableEq

/-- `TouchPoints[2]`, the members of each point in turn. The nested structures are packed, and each
begins and ends with a member that is no bit field. -/
def touchPoints {ι : Type} (name : Fin 2 → TouchPointField → ι) : List (Member ι) :=
  (List.finRange 2).flatMap fun j => [
    scalar (name j .ContactSeq) 1,
    scalar (name j .XLowPart) 1,
    bitField (name j .XHighPart) 1 4,
    bitField (name j .YLowPart) 1 4,
    scalar (name j .YHighPart) 1]

inductive Ps4ReportField where
  | ReportId
  | LeftStickX
  | LeftStickY
  | RightStickX
  | RightStickY
  | Hat
  | ButtonSquare
  | ButtonCross
  | ButtonCircle
  | ButtonTriangle
  | ButtonL1
  | ButtonR1
  | ButtonL2
  | ButtonR2
  | ButtonShare
  | ButtonOptions
  | ButtonL3
  | ButtonR3
  | ButtonHome
  | ButtonTouchpad
  | Reserved
  | LeftTrigger
  | RightTrigger
  | Timestamp
  | BatteryLevel
  | GyroX
  | GyroY
  | GyroZ
  | AccelX
  | AccelY
  | AccelZ
  | Reserved2
  | BatteryLevelSpecial
  | Status
  | TouchReportCount
  | TouchTimestamp (i : Fin 3)
  | TouchPoint (i : Fin 3) (j : Fin 2) (part : TouchPointField)
  | Reserved3
  deriving DecidableEq

namespace Ps4ReportField

/-- `WINUHID_PS4_INPUT_REPORT` of `WinUHidPS4.h` -/
def declaration : List (Member Ps4ReportField) := [
  [scalar ReportId 1,
    scalar LeftStickX 1,
    scalar LeftStickY 1,
    scalar RightStickX 1,
    scalar RightStickY 1,
    bitField Hat 1 4,
    bitField ButtonSquare 1 1,
    bitField ButtonCross 1 1,
    bitField ButtonCircle 1 1,
    bitField ButtonTriangle 1 1,
    bitField ButtonL1 1 1,
    bitField ButtonR1 1 1,
    bitField ButtonL2 1 1,
    bitField ButtonR2 1 1,
    bitField ButtonShare 1 1,
    bitField ButtonOptions 1 1,
    bitField ButtonL3 1 1,
    bitField ButtonR3 1 1,
    bitField ButtonHome 1 1,
    bitField ButtonTouchpad 1 1,
    bitField Reserved 1 6,
    scalar LeftTrigger 1,
    scalar RightTrigger 1,
    scalar Timestamp 2,
    scalar BatteryLevel 1,
    scalar GyroX 2,
    scalar GyroY 2,
    scalar GyroZ 2,
    scalar AccelX 2,
    scalar AccelY 2,
    scalar AccelZ 2,
    array Reserved2 1 5,
    scalar BatteryLevelSpecial 1,
    array Status 1 2,
    scalar TouchReportCount 1],
  (List.finRange 3).flatMap fun i => scalar (TouchTimestamp i) 1 :: touchPoints (TouchPoint i),
  [array Reserved3 1 3]].flatten

end Ps4ReportField

/-- The members of a `Ps4TouchPoint` of `ffi.rs`. -/
inductive RustTouchPointField where
  | ContactSeq
  | XLowPart
  | packed_x_high_y_low
  | YHighPart
  deriving DecidableEq

inductive RustPs4ReportField where
  | ReportId
  | LeftStickX
  | LeftStickY
  | RightStickX
  | RightStickY
  | packed_hat_face
  | packed_shoulder_stick
  | packed_meta
  | LeftTrigger
  | RightTrigger
  | Timestamp
  | BatteryLevel
  | GyroX
  | GyroY
  | GyroZ
  | AccelX
  | AccelY
  | AccelZ
  | Reserved2
  | BatteryLevelSpecial
  | Status
  | TouchReportCount
  | TouchTimestamp (i : Fin 3)
  | TouchPoint (i : Fin 3) (j : Fin 2) (part : RustTouchPointField)
  | Reserved3
  deriving DecidableEq

namespace RustPs4ReportField

/-- `WINUHID_PS4_INPUT_REPORT` of `ffi.rs` -/
def declaration : List (Member RustPs4ReportField) := [
  [scalar ReportId 1,
    scalar LeftStickX 1,
    scalar LeftStickY 1,
    scalar RightStickX 1,
    scalar RightStickY 1,
    scalar packed_hat_face 1,
    scalar packed_shoulder_stick 1,
    scalar packed_meta 1,
    scalar LeftTrigger 1,
    scalar RightTrigger 1,
    scalar Timestamp 2,
    scalar BatteryLevel 1,
    scalar GyroX 2,
    scalar GyroY 2,
    scalar GyroZ 2,
    scalar AccelX 2,
    scalar AccelY 2,
    scalar AccelZ 2,
    array Reserved2 1 5,
    scalar BatteryLevelSpecial 1,
    array Status 1 2,
    scalar TouchReportCount 1],
  (List.finRange 3).flatMap fun i => scalar (TouchTimestamp i) 1 ::
    (List.finRange 2).flatMap fun j => [
      scalar (TouchPoint i j .ContactSeq) 1,
      scalar (TouchPoint i j .XLowPart) 1,
      scalar (TouchPoint i j .packed_x_high_y_low) 1,
      scalar (TouchPoint i j .YHighPart) 1],
  [array Reserved3 1 3]].flatten

end RustPs4ReportField

inductive Ps5ReportField where
  | ReportId
  | LeftStickX
  | LeftStickY
  | RightStickX
  | RightStickY
  | LeftTrigger
  | RightTrigger
  | SequenceNumber
  | Hat
  | ButtonSquare
  | ButtonCross
  | ButtonCircle
  | ButtonTriangle
  | ButtonL1
  | ButtonR1
  | ButtonL2
  | ButtonR2
  | ButtonShare
  | ButtonOptions
  | ButtonL3
  | ButtonR3
  | ButtonHome
  | ButtonTouchpad
  | ButtonMute
  | Reserved
  | ButtonLeftFunction
  | ButtonRightFunction
  | ButtonLeftPaddle
  | ButtonRightPaddle
  | Reserved2
  | GyroX
  | GyroY
  | GyroZ
  | AccelX
  | AccelY
  | AccelZ
  | SensorTimestamp
  | Temperature
  | TouchPoint (j : Fin 2) (part : TouchPointField)
  | TouchTimestamp
  | TriggerRightStopLocation
  | TriggerRightStatus
  | TriggerLeftStopLocation
  | TriggerLeftStatus
  | HostTimestamp
  | TriggerRightEffect
  | TriggerLeftEffect
  | DeviceTimestamp
  | BatteryPercent
  | BatteryState
  | Reserved3
  deriving DecidableEq

namespace Ps5ReportField

/-- `WINUHID_PS5_INPUT_REPORT` of `WinUHidPS5.h` -/
def declaration : List (Member Ps5ReportField) := [
  [scalar ReportId 1,
    scalar LeftStickX 1,
    scalar LeftStickY 1,
    scalar RightStickX 1,
    scalar RightStickY 1,
    scalar LeftTrigger 1,
    scalar RightTrigger 1,
    scalar SequenceNumber 1,
    bitField Hat 1 4,
    bitField ButtonSquare 1 1,
    bitField ButtonCross 1 1,
    bitField ButtonCircle 1 1,
    bitField ButtonTriangle 1 1,
    bitField ButtonL1 1 1,
    bitField ButtonR1 1 1,
    bitField ButtonL2 1 1,
    bitField ButtonR2 1 1,
    bitField ButtonShare 1 1,
    bitField ButtonOptions 1 1,
    bitField ButtonL3 1 1,
    bitField ButtonR3 1 1,
    bitField ButtonHome 1 1,
    bitField ButtonTouchpad 1 1,
    bitField ButtonMute 1 1,
    bitField Reserved 1 1,
    bitField ButtonLeftFunction 1 1,
    bitField ButtonRightFunction 1 1,
    bitField ButtonLeftPaddle 1 1,
    bitField ButtonRightPaddle 1 1,
    array Reserved2 1 5,
    scalar GyroX 2,
    scalar GyroY 2,
    scalar GyroZ 2,
    scalar AccelX 2,
    scalar AccelY 2,
    scalar AccelZ 2,
    scalar SensorTimestamp 4,
    scalar Temperature 1],
  touchPoints TouchPoint,
  [scalar TouchTimestamp 1,
    bitField TriggerRightStopLocation 1 4,
    bitField TriggerRightStatus 1 4,
    bitField TriggerLeftStopLocation 1 4,
    bitField TriggerLeftStatus 1 4,
    scalar HostTimestamp 4,
    bitField TriggerRightEffect 1 4,
    bitField TriggerLeftEffect 1 4,
    scalar DeviceTimestamp 4,
    bitField BatteryPercent 1 4,
    bitField BatteryState 1 4,
    array Reserved3 1 10]].flatten

end Ps5ReportField

inductive XOneReportField where
  | LeftStickX
  | LeftStickY
  | RightStickX
  | RightStickY
  | LeftTrigger
  | RightTrigger
  | ButtonA
  | ButtonB
  | ButtonX
  | ButtonY
  | ButtonLB
  | ButtonRB
  | ButtonBack
  | ButtonMenu
  | ButtonLS
  | ButtonRS
  | Reserved3
  | Hat
  | Reserved4
  | ButtonHome
  | Reserved5
  | BatteryLevel
  deriving DecidableEq

namespace XOneReportField

/-- `WINUHID_XONE_INPUT_REPORT` of `WinUHidXOne.h` -/
def declaration : List (Member XOneReportField) := [
  scalar LeftStickX 2,
  scalar LeftStickY 2,
  scalar RightStickX 2,
  scalar RightStickY 2,
  bitField LeftTrigger 2 10,
  bitField RightTrigger 2 10,
  bitField ButtonA 1 1,
  bitField ButtonB 1 1,
  bitField ButtonX 1 1,
  bitField ButtonY 1 1,
  bitField ButtonLB 1 1,
  bitField ButtonRB 1 1,
  bitField ButtonBack 1 1,
  bitField ButtonMenu 1 1,
  bitField ButtonLS 1 1,
  bitField ButtonRS 1 1,
  bitField Reserved3 1 6,
  bitField Hat 1 4,
  bitField Reserved4 1 4,
  bitField ButtonHome 1 1,
  bitField Reserved5 1 7,
  scalar BatteryLevel 1]

end XOneReportField

/-- Where the compiler of the headers puts a field. -/
def Ps4ReportField.span (f : Ps4ReportField) : Bits.Span := spanOf (layout 1 declaration) f

def Ps5ReportField.span (f : Ps5ReportField) : Bits.Span := spanOf (layout 1 declaration) f

-- The byte offsets and bit masks of `ffi.rs`.

def ps4FaceSquare : Nat := 1 <<< 4
def ps4FaceCross : Nat := 1 <<< 5
def ps4FaceCircle : Nat := 1 <<< 6
def ps4FaceTriangle : Nat := 1 <<< 7

def ps4BtnL1 : Nat := 1 <<< 0
def ps4BtnR1 : Nat := 1 <<< 1
def ps4BtnL2 : Nat := 1 <<< 2
def ps4BtnR2 : Nat := 1 <<< 3
def ps4BtnShare : Nat := 1 <<< 4
def ps4BtnOptions : Nat := 1 <<< 5
def ps4BtnL3 : Nat := 1 <<< 6
def ps4BtnR3 : Nat := 1 <<< 7

def ps4BtnHome : Nat := 1 <<< 0
def ps4BtnTouchpad : Nat := 1 <<< 1

def ps5OffLeftStickX : Nat := 1
def ps5OffLeftStickY : Nat := 2
def ps5OffRightStickX : Nat := 3
def ps5OffRightStickY : Nat := 4
def ps5OffLeftTrigger : Nat := 5
def ps5OffRightTrigger : Nat := 6
def ps5OffHatFace : Nat := 8
def ps5OffShoulderStick : Nat := 9
def ps5OffMeta : Nat := 10
def ps5OffTriggerRightStatus : Nat := 42
def ps5OffTriggerLeftStatus : Nat := 43
def ps5OffTriggerEffect : Nat := 48

def ps5FaceSquare : Nat := 1 <<< 4
def ps5FaceCross : Nat := 1 <<< 5
def ps5FaceCircle : Nat := 1 <<< 6
def ps5FaceTriangle : Nat := 1 <<< 7

def ps5BtnL1 : Nat := 1 <<< 0
def ps5BtnR1 : Nat := 1 <<< 1
def ps5BtnL2 : Nat := 1 <<< 2
def ps5BtnR2 : Nat := 1 <<< 3
def ps5BtnShare : Nat := 1 <<< 4
def ps5BtnOptions : Nat := 1 <<< 5
def ps5BtnL3 : Nat := 1 <<< 6
def ps5BtnR3 : Nat := 1 <<< 7

def ps5BtnHome : Nat := 1 <<< 0
def ps5BtnTouchpad : Nat := 1 <<< 1
def ps5BtnMute : Nat := 1 <<< 2
def ps5BtnLeftFunction : Nat := 1 <<< 4
def ps5BtnRightFunction : Nat := 1 <<< 5
def ps5BtnLeftPaddle : Nat := 1 <<< 6
def ps5BtnRightPaddle : Nat := 1 <<< 7

def xOneOffLx : Nat := 0
def xOneOffLy : Nat := 2
def xOneOffRx : Nat := 4
def xOneOffRy : Nat := 6
def xOneOffLt : Nat := 8
def xOneOffRt : Nat := 10
def xOneOffBtn1 : Nat := 12
def xOneOffBtn2 : Nat := 13
def xOneOffHat : Nat := 14
def xOneOffHome : Nat := 15
def xOneOffBattery : Nat := 16

def xOneBtnA : Nat := 1 <<< 0
def xOneBtnB : Nat := 1 <<< 1
def xOneBtnX : Nat := 1 <<< 2
def xOneBtnY : Nat := 1 <<< 3
def xOneBtnLb : Nat := 1 <<< 4
def xOneBtnRb : Nat := 1 <<< 5
def xOneBtnBack : Nat := 1 <<< 6
def xOneBtnMenu : Nat := 1 <<< 7

def xOneBtnLs : Nat := 1 <<< 0
def xOneBtnRs : Nat := 1 <<< 1

def xOneBtnHome : Nat := 1 <<< 0

end WinUHid
