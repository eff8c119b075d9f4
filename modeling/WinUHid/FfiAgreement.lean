import WinUHid.FfiStructures

namespace WinUHid

open Bits StructLayout

/-- Where the touch point of `ffi.rs` keeps the members of the one in the header. -/
def TouchPointField.kept : TouchPointField → RustTouchPointField × Nat
  | ContactSeq => (.ContactSeq, 0)
  | XLowPart => (.XLowPart, 0)
  | XHighPart => (.packed_x_high_y_low, 0)
  | YLowPart => (.packed_x_high_y_low, 4)
  | YHighPart => (.YHighPart, 0)

/-- The field of `ffi.rs` that has the field's name, or whose mask or comment names it. -/
def Ps4ReportField.kept : Ps4ReportField → RustPs4ReportField × Nat
  | ReportId => (.ReportId, 0)
  | LeftStickX => (.LeftStickX, 0)
  | LeftStickY => (.LeftStickY, 0)
  | RightStickX => (.RightStickX, 0)
  | RightStickY => (.RightStickY, 0)
  | Hat => (.packed_hat_face, 0)
  | ButtonSquare => (.packed_hat_face, ps4FaceSquare.log2)
  | ButtonCross => (.packed_hat_face, ps4FaceCross.log2)
  | ButtonCircle => (.packed_hat_face, ps4FaceCircle.log2)
  | ButtonTriangle => (.packed_hat_face, ps4FaceTriangle.log2)
  | ButtonL1 => (.packed_shoulder_stick, ps4BtnL1.log2)
  | ButtonR1 => (.packed_shoulder_stick, ps4BtnR1.log2)
  | ButtonL2 => (.packed_shoulder_stick, ps4BtnL2.log2)
  | ButtonR2 => (.packed_shoulder_stick, ps4BtnR2.log2)
  | ButtonShare => (.packed_shoulder_stick, ps4BtnShare.log2)
  | ButtonOptions => (.packed_shoulder_stick, ps4BtnOptions.log2)
  | ButtonL3 => (.packed_shoulder_stick, ps4BtnL3.log2)
  | ButtonR3 => (.packed_shoulder_stick, ps4BtnR3.log2)
  | ButtonHome => (.packed_meta, ps4BtnHome.log2)
  | ButtonTouchpad => (.packed_meta, ps4BtnTouchpad.log2)
  | Reserved => (.packed_meta, 2)
  | LeftTrigger => (.LeftTrigger, 0)
  | RightTrigger => (.RightTrigger, 0)
  | Timestamp => (.Timestamp, 0)
  | BatteryLevel => (.BatteryLevel, 0)
  | GyroX => (.GyroX, 0)
  | GyroY => (.GyroY, 0)
  | GyroZ => (.GyroZ, 0)
  | AccelX => (.AccelX, 0)
  | AccelY => (.AccelY, 0)
  | AccelZ => (.AccelZ, 0)
  | Reserved2 => (.Reserved2, 0)
  | BatteryLevelSpecial => (.BatteryLevelSpecial, 0)
  | Status => (.Status, 0)
  | TouchReportCount => (.TouchReportCount, 0)
  | TouchTimestamp i => (.TouchTimestamp i, 0)
  | TouchPoint i j part => (.TouchPoint i j part.kept.1, part.kept.2)
  | Reserved3 => (.Reserved3, 0)

/-- The bit of the array of `ffi.rs` at which its offsets and masks have the field. The fields that
only the SDK's functions touch have none. -/
def Ps5ReportField.kept : Ps5ReportField → Option Nat
  | LeftStickX => some (8 * ps5OffLeftStickX)
  | LeftStickY => some (8 * ps5OffLeftStickY)
  | RightStickX => some (8 * ps5OffRightStickX)
  | RightStickY => some (8 * ps5OffRightStickY)
  | LeftTrigger => some (8 * ps5OffLeftTrigger)
  | RightTrigger => some (8 * ps5OffRightTrigger)
  | SequenceNumber => some (8 * 7)
  | Hat => some (8 * ps5OffHatFace)
  | ButtonSquare => some (8 * ps5OffHatFace + ps5FaceSquare.log2)
  | ButtonCross => some (8 * ps5OffHatFace + ps5FaceCross.log2)
  | ButtonCircle => some (8 * ps5OffHatFace + ps5FaceCircle.log2)
  | ButtonTriangle => some (8 * ps5OffHatFace + ps5FaceTriangle.log2)
  | ButtonL1 => some (8 * ps5OffShoulderStick + ps5BtnL1.log2)
  | ButtonR1 => some (8 * ps5OffShoulderStick + ps5BtnR1.log2)
  | ButtonL2 => some (8 * ps5OffShoulderStick + ps5BtnL2.log2)
  | ButtonR2 => some (8 * ps5OffShoulderStick + ps5BtnR2.log2)
  | ButtonShare => some (8 * ps5OffShoulderStick + ps5BtnShare.log2)
  | ButtonOptions => some (8 * ps5OffShoulderStick + ps5BtnOptions.log2)
  | ButtonL3 => some (8 * ps5OffShoulderStick + ps5BtnL3.log2)
  | ButtonR3 => some (8 * ps5OffShoulderStick + ps5BtnR3.log2)
  | ButtonHome => some (8 * ps5OffMeta + ps5BtnHome.log2)
  | ButtonTouchpad => some (8 * ps5OffMeta + ps5BtnTouchpad.log2)
  | ButtonMute => some (8 * ps5OffMeta + ps5BtnMute.log2)
  | Reserved => some (8 * ps5OffMeta + 3)
  | ButtonLeftFunction => some (8 * ps5OffMeta + ps5BtnLeftFunction.log2)
  | ButtonRightFunction => some (8 * ps5OffMeta + ps5BtnRightFunction.log2)
  | ButtonLeftPaddle => some (8 * ps5OffMeta + ps5BtnLeftPaddle.log2)
  | ButtonRightPaddle => some (8 * ps5OffMeta + ps5BtnRightPaddle.log2)
  | TriggerRightStopLocation => some (8 * ps5OffTriggerRightStatus)
  | TriggerRightStatus => some (8 * ps5OffTriggerRightStatus + 4)
  | TriggerLeftStopLocation => some (8 * ps5OffTriggerLeftStatus)
  | TriggerLeftStatus => some (8 * ps5OffTriggerLeftStatus + 4)
  | TriggerRightEffect => some (8 * ps5OffTriggerEffect)
  | TriggerLeftEffect => some (8 * ps5OffTriggerEffect + 4)
  | _ => none

/-- The bit of the array of `ffi.rs` at which its table of offsets has the field. -/
def XOneReportField.kept : XOneReportField → Nat
  | LeftStickX => 8 * xOneOffLx
  | LeftStickY => 8 * xOneOffLy
  | RightStickX => 8 * xOneOffRx
  | RightStickY => 8 * xOneOffRy
  | LeftTrigger => 8 * xOneOffLt
  | RightTrigger => 8 * xOneOffRt
  | ButtonA => 8 * xOneOffBtn1 + xOneBtnA.log2
  | ButtonB => 8 * xOneOffBtn1 + xOneBtnB.log2
  | ButtonX => 8 * xOneOffBtn1 + xOneBtnX.log2
  | ButtonY => 8 * xOneOffBtn1 + xOneBtnY.log2
  | ButtonLB => 8 * xOneOffBtn1 + xOneBtnLb.log2
  | ButtonRB => 8 * xOneOffBtn1 + xOneBtnRb.log2
  | ButtonBack => 8 * xOneOffBtn1 + xOneBtnBack.log2
  | ButtonMenu => 8 * xOneOffBtn1 + xOneBtnMenu.log2
  | ButtonLS => 8 * xOneOffBtn2 + xOneBtnLs.log2
  | ButtonRS => 8 * xOneOffBtn2 + xOneBtnRs.log2
  | Reserved3 => 8 * xOneOffBtn2 + 2
  | Hat => 8 * xOneOffHat
  | Reserved4 => 8 * xOneOffHat + 4
  | ButtonHome => 8 * xOneOffHome + xOneBtnHome.log2
  | Reserved5 => 8 * xOneOffHome + 1
  | BatteryLevel => 8 * xOneOffBattery

/-- The structures that the web server shares with the SDK. -/
inductive FfiStructure where
  | deviceConfig
  | presetDeviceInfo
  | ps4GamepadInfo
  | ps5GamepadInfo
  | ps4InputReport
  | ps5InputReport
  | xOneInputReport
  deriving DecidableEq

/-- The header's declaration with the packing in force there, and the `repr(C, packed)` one. -/
def FfiStructure.mirror : FfiStructure → Mirror
  | deviceConfig => .ofNames 1 DeviceConfigField.declaration
  | presetDeviceInfo => .ofNames naturalPack PresetDeviceInfoField.declaration
  | ps4GamepadInfo => .ofNames naturalPack Ps4GamepadInfoField.declaration
  | ps5GamepadInfo => .ofNames naturalPack Ps5GamepadInfoField.declaration
  | ps4InputReport =>
    { Field := Ps4ReportField
      Part := RustPs4ReportField
      pack := 1
      fields := Ps4ReportField.declaration
      parts := RustPs4ReportField.declaration
      kept := fun f => some f.kept }
  | ps5InputReport => .ofArray 1 Ps5ReportField.declaration 64 Ps5ReportField.kept
  | xOneInputReport => .ofArray 1 XOneReportField.declaration 17 fun f => some f.kept

/-- The structures that the headers declare behind `poppack.h` with a member that padding moves. -/
def FfiStructure.padded : FfiStructure → Bool
  | presetDeviceInfo | ps5GamepadInfo => true
  | _ => false

theorem ffi_matches (s : FfiStructure) (h : s.padded = false) : s.mirror.Matches := by
  cases s with
  | presetDeviceInfo => cases h
  | ps5GamepadInfo => cases h
  | deviceConfig => decide
  | ps4GamepadInfo => decide
  | ps4InputReport => decide +kernel
  | ps5InputReport => decide +kernel
  | xOneInputReport => decide +kernel

theorem presetDeviceInfo_beyond (value : FfiStructure.presetDeviceInfo.mirror.Part → Nat) :
    ¬FfiStructure.presetDeviceInfo.mirror.Agrees value := by
  have field : (PresetDeviceInfoField.HardwareIDs, Span.bytes 32 8) ∈
      layout naturalPack PresetDeviceInfoField.declaration := by decide
  exact Mirror.not_agrees_of_beyond field (by decide) value

theorem ps5GamepadInfo_beyond (value : FfiStructure.ps5GamepadInfo.mirror.Part → Nat) :
    ¬FfiStructure.ps5GamepadInfo.mirror.Agrees value := by
  have field : (Ps5GamepadInfoField.FirmwareInfo, Span.bytes 16 8) ∈
      layout naturalPack Ps5GamepadInfoField.declaration := by decide
  exact Mirror.not_agrees_of_beyond field (by decide) value

/-- The two sides agree on every value of a structure exactly when it is neither of the two whose
header pads it where the packed declaration does not. -/
theorem ffi_agrees_iff (s : FfiStructure) (value : s.mirror.Part → Nat) :
    s.mirror.Agrees value ↔ s ≠ .presetDeviceInfo ∧ s ≠ .ps5GamepadInfo := by
  constructor
  · intro agrees
    refine ⟨?_, ?_⟩
    · rintro rfl
      exact presetDeviceInfo_beyond value agrees
    · rintro rfl
      exact ps5GamepadInfo_beyond value agrees
  · rintro ⟨hp, h5⟩
    refine (ffi_matches s ?_).agrees value
    cases s <;> first | rfl | contradiction

/-- A firmware report of 64 bytes at an address, for a gamepad without further information. -/
def firmwareInfoValue : Ps5GamepadInfoField → Nat
  | .BasicInfo => 0
  | .MacAddress => 0
  | .FirmwareInfo => 0x1122334455667788
  | .FirmwareInfoLength => 64

/-- The seven bytes of the pointer that lie inside the object are the upper ones of the pointer
stored and the length. -/
theorem ps5GamepadInfo_disagrees :
    (Ps5GamepadInfoField.FirmwareInfo, Span.bytes 16 8) ∈
      layout naturalPack Ps5GamepadInfoField.declaration ∧
    read (store (layout 1 Ps5GamepadInfoField.declaration) firmwareInfoValue : Object 23)
      (.bytes 16 7) = 0x40112233445566 ∧
    ¬∀ (s : FfiStructure) (value : s.mirror.Part → Nat), s.mirror.Agrees value := by
  refine ⟨by decide, by decide +kernel, fun all => ?_⟩
  exact ps5GamepadInfo_beyond firmwareInfoValue (all .ps5GamepadInfo firmwareInfoValue)

end WinUHid
