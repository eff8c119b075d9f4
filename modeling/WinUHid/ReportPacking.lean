import WinUHid.HistoryIndependence
import Mathlib.Data.Int.Order.Basic

namespace WinUHid

open Bits

/-- The directions of a hat clockwise from the top; the y axis points down. -/
def compass : List (Int × Int) :=
  [(0, -1), (1, -1), (1, 0), (1, 1), (0, 1), (-1, 1), (-1, 0), (-1, -1)]

/-- The direction of the signs in a PS4 or PS5 report: its place on the compass, and 8 for none. -/
def hatDirection (x y : Int) : Nat := compass.idxOf (x.sign, y.sign)

/-- The direction in an Xbox One report: 0 for none, and its place on the compass from 1 on. -/
def xOneHatDirection (x y : Int) : Nat := ((0, 0) :: compass).idxOf (x.sign, y.sign)

/-- Assignments that put these values into the fields: they read back, every byte that has no bit
of a field stays as it is, and doing it again changes nothing. -/
structure Packs {Field : Type} {n : Nat} (span : Field → Span) (value : Field → Option Nat)
    (as : List (Assignment n)) : Prop where
  fields : ∀ m f v, value f = some v → read (runAll as m) (span f) = v
  outside : ∀ m i, 8 * i < n → (∀ f, (value f).isSome → (Span.bytes i 1).Disjoint (span f)) →
    read (runAll as m) (.bytes i 1) = read m (.bytes i 1)
  twice : ∀ m, runAll as (runAll as m) = runAll as m

section Values

variable {F : Type}

/-- What a field of the header has to hold for the state, of the fields that the state is packed
into. -/
def Ps4State.value (state : Ps4State F) : Ps4ReportField → Option Nat
  | .LeftStickX => some state.leftStickX.toNat
  | .LeftStickY => some state.leftStickY.toNat
  | .RightStickX => some state.rightStickX.toNat
  | .RightStickY => some state.rightStickY.toNat
  | .Hat => some (hatDirection state.hatX.toInt state.hatY.toInt)
  | .ButtonSquare => some state.btnSquare.toNat
  | .ButtonCross => some state.btnCross.toNat
  | .ButtonCircle => some state.btnCircle.toNat
  | .ButtonTriangle => some state.btnTriangle.toNat
  | .ButtonL1 => some state.btnL1.toNat
  | .ButtonR1 => some state.btnR1.toNat
  | .ButtonL2 => some state.btnL2.toNat
  | .ButtonR2 => some state.btnR2.toNat
  | .ButtonShare => some state.btnShare.toNat
  | .ButtonOptions => some state.btnOptions.toNat
  | .ButtonL3 => some state.btnL3.toNat
  | .ButtonR3 => some state.btnR3.toNat
  | .ButtonHome => some state.btnHome.toNat
  | .ButtonTouchpad => some state.btnTouchpad.toNat
  | .LeftTrigger => some state.leftTrigger.toNat
  | .RightTrigger => some state.rightTrigger.toNat
  | _ => none

/-- Of the adaptive triggers' numbers four bits are kept. -/
def Ps5State.value (state : Ps5State F) : Ps5ReportField → Option Nat
  | .LeftStickX => some state.leftStickX.toNat
  | .LeftStickY => some state.leftStickY.toNat
  | .RightStickX => some state.rightStickX.toNat
  | .RightStickY => some state.rightStickY.toNat
  | .LeftTrigger => some state.leftTrigger.toNat
  | .RightTrigger => some state.rightTrigger.toNat
  | .Hat => some (hatDirection state.hatX.toInt state.hatY.toInt)
  | .ButtonSquare => some state.btnSquare.toNat
  | .ButtonCross => some state.btnCross.toNat
  | .ButtonCircle => some state.btnCircle.toNat
  | .ButtonTriangle => some state.btnTriangle.toNat
  | .ButtonL1 => some state.btnL1.toNat
  | .ButtonR1 => some state.btnR1.toNat
  | .ButtonL2 => some state.btnL2.toNat
  | .ButtonR2 => some state.btnR2.toNat
  | .ButtonShare => some state.btnShare.toNat
  | .ButtonOptions => some state.btnOptions.toNat
  | .ButtonL3 => some state.btnL3.toNat
  | .ButtonR3 => some state.btnR3.toNat
  | .ButtonHome => some state.btnHome.toNat
  | .ButtonTouchpad => some state.btnTouchpad.toNat
  | .ButtonMute => some state.btnMute.toNat
  | .TriggerRightStopLocation => some (state.triggerRightStopLocation.toNat % 16)
  | .TriggerRightStatus => some (state.triggerRightStatus.toNat % 16)
  | .TriggerLeftStopLocation => some (state.triggerLeftStopLocation.toNat % 16)
  | .TriggerLeftStatus => some (state.triggerLeftStatus.toNat % 16)
  | .TriggerRightEffect => some (state.triggerRightEffect.toNat % 16)
  | .TriggerLeftEffect => some (state.triggerLeftEffect.toNat % 16)
  | _ => none

/-- The triggers are clamped. -/
def XOneState.value (state : XOneState) : XOneReportField → Option Nat
  | .LeftStickX => some state.leftStickX.toNat
  | .LeftStickY => some state.leftStickY.toNat
  | .RightStickX => some state.rightStickX.toNat
  | .RightStickY => some state.rightStickY.toNat
  | .LeftTrigger => some (min state.leftTrigger.toNat 1023)
  | .RightTrigger => some (min state.rightTrigger.toNat 1023)
  | .ButtonA => some state.btnA.toNat
  | .ButtonB => some state.btnB.toNat
  | .ButtonX => some state.btnX.toNat
  | .ButtonY => some state.btnY.toNat
  | .ButtonLB => some state.btnLb.toNat
  | .ButtonRB => some state.btnRb.toNat
  | .ButtonBack => some state.btnBack.toNat
  | .ButtonMenu => some state.btnMenu.toNat
  | .ButtonLS => some state.btnLs.toNat
  | .ButtonRS => some state.btnRs.toNat
  | .Hat => some (xOneHatDirection state.hatX.toInt state.hatY.toInt)
  | .ButtonHome => some state.btnHome.toNat
  | .BatteryLevel => some state.batteryLevel.toNat
  | _ => none

end Values

section Hat

theorem sign_mem (x : Int) : x.sign ∈ [-1, 0, 1] := by
  obtain h | rfl | h := lt_trichotomy x 0
  · simp [Int.sign_eq_neg_one_of_neg h]
  · simp
  · simp [Int.sign_eq_one_of_pos h]

/-- Only the signs of the two numbers count. -/
theorem hatState_sign (x y : Int) : hatState x y = hatState x.sign y.sign := by
  simp only [hatState, Int.sign_eq_zero_iff_zero, Int.sign_neg_iff, gt_iff_lt, Int.sign_pos_iff]

theorem xOneHatState_sign (x y : Int) : xOneHatState x y = xOneHatState x.sign y.sign := by
  simp only [xOneHatState, Int.sign_eq_zero_iff_zero, Int.sign_neg_iff, gt_iff_lt,
    Int.sign_pos_iff]

theorem hatState_eq (x y : Int) : hatState x y = hatDirection x y := by
  have all : ∀ a ∈ [-1, 0, 1], ∀ b ∈ [-1, 0, 1], hatState a b = compass.idxOf (a, b) := by decide
  rw [hatState_sign, hatDirection]
  exact all _ (sign_mem x) _ (sign_mem y)

theorem xOneHatState_eq (x y : Int) : xOneHatState x y = xOneHatDirection x y := by
  have all : ∀ a ∈ [-1, 0, 1], ∀ b ∈ [-1, 0, 1],
      xOneHatState a b = ((0, 0) :: compass).idxOf (a, b) := by decide
  rw [xOneHatState_sign, xOneHatDirection]
  exact all _ (sign_mem x) _ (sign_mem y)

theorem hatDirection_lt (x y : Int) : hatDirection x y < 16 := by
  have le : hatDirection x y ≤ compass.length := List.idxOf_le_length
  exact Nat.lt_of_le_of_lt le (by decide)

theorem xOneHatDirection_lt (x y : Int) : xOneHatDirection x y < 16 := by
  have le : xOneHatDirection x y ≤ ((0, 0) :: compass).length := List.idxOf_le_length
  exact Nat.lt_of_le_of_lt le (by decide)

end Hat

section Bytes

theorem testBit_flag (on : Bool) (j k : Nat) :
    (flag on (1 <<< j)).testBit k = (on && decide (j = k)) := by
  cases on with
  | false => simp [flag]
  | true => simp [flag, Nat.one_shiftLeft, Nat.testBit_two_pow]

/-- A field of one bit. -/
theorem div_mod_eq_testBit (v j : Nat) : v / 2 ^ j % 2 ^ 1 = (v.testBit j).toNat := by
  rw [Nat.toNat_testBit, pow_one]

theorem toNat_and_nibble (v : UInt8) : (v &&& 0x0F).toNat = v.toNat % 16 := by
  rw [UInt8.toNat_and]
  exact Nat.and_two_pow_sub_one_eq_mod v.toNat 4

/-- The two nibbles of a byte do not overlap. -/
theorem nibbles_eq (low high : UInt8) :
    ((low &&& 0x0F).toNat ||| ((high &&& 0x0F) <<< 4).toNat) =
      high.toNat % 16 * 16 + low.toNat % 16 := by
  have shifted : ((high &&& 0x0F) <<< 4).toNat = (high.toNat % 16) <<< 4 := by
    rw [UInt8.toNat_shiftLeft, toNat_and_nibble]
    have small : (high.toNat % 16) <<< (4 : UInt8).toNat < 2 ^ 8 := by
      rw [Nat.shiftLeft_eq, show (4 : UInt8).toNat = 4 from rfl]
      omega
    exact Nat.mod_eq_of_lt small
  rw [shifted, toNat_and_nibble, Nat.lor_comm, ← Nat.shiftLeft_add_eq_or_of_lt (by omega),
    Nat.shiftLeft_eq]

/-- A byte that keeps its lower nibble: what it kept. -/
theorem hatFace_hat {old face hat : Nat} (kept : old / 2 ^ 0 % 2 ^ 4 = hat)
    (high : face % 2 ^ 4 = 0) : ((old &&& 0x0F) ||| face) / 2 ^ 0 % 2 ^ 4 = hat := by
  rw [pow_zero, Nat.div_one] at kept ⊢
  rw [Nat.or_mod_two_pow, high, Nat.or_zero, ← kept]
  have nibble : old &&& 0x0F = old % 2 ^ 4 := Nat.and_two_pow_sub_one_eq_mod old 4
  rw [nibble, Nat.mod_mod]

/-- And what it was given. -/
theorem hatFace_button {old face j : Nat} (hj : 4 ≤ j) :
    ((old &&& 0x0F) ||| face) / 2 ^ j % 2 ^ 1 = (face.testBit j).toNat := by
  have nibble : Nat.testBit 0x0F j = false :=
    Nat.testBit_lt_two_pow (Nat.lt_of_lt_of_le (by decide) (Nat.pow_le_pow_right (by decide) hj))
  rw [div_mod_eq_testBit, Nat.testBit_or, Nat.testBit_and, nibble, Bool.and_false, Bool.false_or]

/-- The hat was set first, and nothing between touches the byte it shares. -/
theorem hatFace_kept (targets : List Span) (hat : Span) {as : List ReportAssignment} {s : Span}
    {m : BitVec gamepadReportBits} {x y : Int} (ht : as.map Assignment.target = targets)
    (placed : Placed gamepadReportBits targets hat 0 0 4) (part : hat = s.part 0 4)
    (width : 4 ≤ s.width) (first : assigned as m 0 = hatState x y) :
    read (runAll as m) s / 2 ^ 0 % 2 ^ 4 = hatDirection x y := by
  rw [← read_part (by omega), ← part, placed.read_runAll ht, first, hatState_eq, pow_zero,
    Nat.div_one]
  exact Nat.mod_eq_of_lt (hatDirection_lt x y)

theorem face_high (square cross circle triangle : Bool) :
    (flag square (1 <<< 4) ||| flag cross (1 <<< 5) ||| flag circle (1 <<< 6) |||
      flag triangle (1 <<< 7)) % 2 ^ 4 = 0 := by
  revert square cross circle triangle
  decide

end Bytes

/-- Where the assignments of a preset place its fields: `packed` says which assignment leaves a
field as it is read back, and from which bit of its target on, and `fields` are the ones that a
state is packed into. A byte that none of them reaches is reached by no target. -/
structure Packing (n size : Nat) (Field : Type) where
  span : Field → Span
  targets : List Span
  packed : Field → Option (Nat × Nat × Nat)
  fields : List Field
  placed : ∀ f k j width, packed f = some (k, j, width) → Placed n targets (span f) k j width
  touched : ∀ i < size, (∀ f ∈ fields, (Span.bytes i 1).Disjoint (span f)) →
    ∀ t ∈ targets, (Span.bytes i 1).Disjoint t

namespace Packing

variable {n size : Nat} {Field : Type} (P : Packing n size Field) {as : List (Assignment n)}

theorem read_packed (ht : as.map Assignment.target = P.targets) {f : Field} {k j width : Nat}
    (h : P.packed f = some (k, j, width)) (m : BitVec n) :
    read (runAll as m) (P.span f) = assigned as m k / 2 ^ j % 2 ^ width :=
  (P.placed f k j width h).read_runAll ht m

theorem read_outside (ht : as.map Assignment.target = P.targets) {value : Field → Option Nat}
    (given : ∀ f ∈ P.fields, (value f).isSome) {i : Nat} (hi : i < size)
    (h : ∀ f, (value f).isSome → (Span.bytes i 1).Disjoint (P.span f)) (m : BitVec n) :
    read (runAll as m) (.bytes i 1) = read m (.bytes i 1) := by
  refine read_runAll_disjoint ?_ m
  rw [ht]
  exact P.touched i hi fun f hf => h f (given f hf)

end Packing

section Ps4

variable {F : Type} (state : Ps4State F)

/-- What the two functions do with a report. -/
def packPs4State : List ReportAssignment :=
  ps4SetHatState state.hatX.toInt state.hatY.toInt ++ applyPs4StateBytes state

def ps4PackTargets : List Span := Ps4ReportField.Hat.span :: ps4StateTargets

theorem packPs4State_targets :
    (packPs4State state).map Assignment.target = ps4PackTargets := rfl

def Ps4ReportField.packed : Ps4ReportField → Option (Nat × Nat × Nat)
  | LeftStickX => some (1, 0, 8)
  | LeftStickY => some (2, 0, 8)
  | RightStickX => some (3, 0, 8)
  | RightStickY => some (4, 0, 8)
  | LeftTrigger => some (5, 0, 8)
  | RightTrigger => some (6, 0, 8)
  | Hat => some (7, 0, 4)
  | ButtonSquare => some (7, 4, 1)
  | ButtonCross => some (7, 5, 1)
  | ButtonCircle => some (7, 6, 1)
  | ButtonTriangle => some (7, 7, 1)
  | ButtonL1 => some (8, 0, 1)
  | ButtonR1 => some (8, 1, 1)
  | ButtonL2 => some (8, 2, 1)
  | ButtonR2 => some (8, 3, 1)
  | ButtonShare => some (8, 4, 1)
  | ButtonOptions => some (8, 5, 1)
  | ButtonL3 => some (8, 6, 1)
  | ButtonR3 => some (8, 7, 1)
  | ButtonHome => some (9, 0, 1)
  | ButtonTouchpad => some (9, 1, 1)
  | _ => none

def ps4Packing : Packing gamepadReportBits 64 Ps4ReportField where
  span := Ps4ReportField.span
  targets := ps4PackTargets
  packed := Ps4ReportField.packed
  fields := [.LeftStickX, .LeftStickY, .RightStickX, .RightStickY, .Hat, .ButtonSquare,
    .ButtonCross, .ButtonCircle, .ButtonTriangle, .ButtonL1, .ButtonR1, .ButtonL2, .ButtonR2,
    .ButtonShare, .ButtonOptions, .ButtonL3, .ButtonR3, .ButtonHome, .ButtonTouchpad, .LeftTrigger,
    .RightTrigger]
  placed := fun f k j width h => by cases f <;> cases h <;> decide +kernel
  touched := by decide +kernel

theorem read_packPs4State {f : Ps4ReportField} {k j width : Nat}
    (h : f.packed = some (k, j, width)) (m : BitVec gamepadReportBits) :
    read (runAll (packPs4State state) m) f.span =
      assigned (packPs4State state) m k / 2 ^ j % 2 ^ width :=
  ps4Packing.read_packed (packPs4State_targets state) h m

theorem ps4_fields (m : BitVec gamepadReportBits) (f : Ps4ReportField) (v : Nat)
    (h : state.value f = some v) : read (runAll (packPs4State state) m) f.span = v := by
  have face : assigned (packPs4State state) m 7 =
      ((read (runAll ((packPs4State state).take 7) m) RustPs4ReportField.packed_hat_face.span &&&
        0x0F) ||| (flag state.btnSquare (1 <<< 4) ||| flag state.btnCross (1 <<< 5) |||
          flag state.btnCircle (1 <<< 6) ||| flag state.btnTriangle (1 <<< 7))) := rfl
  have shoulderStick : assigned (packPs4State state) m 8 =
      (flag state.btnL1 (1 <<< 0) ||| flag state.btnR1 (1 <<< 1) ||| flag state.btnL2 (1 <<< 2) |||
        flag state.btnR2 (1 <<< 3) ||| flag state.btnShare (1 <<< 4) |||
        flag state.btnOptions (1 <<< 5) ||| flag state.btnL3 (1 <<< 6) |||
        flag state.btnR3 (1 <<< 7)) := rfl
  have buttons : assigned (packPs4State state) m 9 =
      ((read (runAll ((packPs4State state).take 9) m) RustPs4ReportField.packed_meta.span &&&
        0xFC) ||| (flag state.btnHome (1 <<< 0) ||| flag state.btnTouchpad (1 <<< 1))) := rfl
  have hat : read (runAll ((packPs4State state).take 7) m)
      RustPs4ReportField.packed_hat_face.span / 2 ^ 0 % 2 ^ 4 =
        hatDirection state.hatX.toInt state.hatY.toInt :=
    hatFace_kept (ps4PackTargets.take 7) Ps4ReportField.Hat.span rfl
      (by decide +kernel) (by decide +kernel) (by decide +kernel) rfl
  cases f <;> cases h <;> rw [read_packPs4State state rfl]
  case LeftStickX | LeftStickY | RightStickX | RightStickY | LeftTrigger | RightTrigger =>
    simp [assigned, packPs4State, ps4SetHatState, applyPs4StateBytes, Assignment.set]
  case Hat =>
    rw [face]
    exact hatFace_hat hat (face_high _ _ _ _)
  case ButtonSquare | ButtonCross | ButtonCircle | ButtonTriangle =>
    rw [face, hatFace_button (by decide)]
    simp only [Nat.testBit_or, testBit_flag]
    simp
  case ButtonL1 | ButtonR1 | ButtonL2 | ButtonR2 | ButtonShare | ButtonOptions | ButtonL3 |
      ButtonR3 =>
    rw [shoulderStick, div_mod_eq_testBit]
    simp only [Nat.testBit_or, testBit_flag]
    simp
  case ButtonHome | ButtonTouchpad =>
    rw [buttons, div_mod_eq_testBit]
    simp only [Nat.testBit_or, Nat.testBit_and, testBit_flag]
    simp [show Nat.testBit 252 0 = false from rfl, show Nat.testBit 252 1 = false from rfl]

theorem ps4_outside (m : BitVec gamepadReportBits) {i : Nat} (hi : 8 * i < gamepadReportBits)
    (h : ∀ f, (state.value f).isSome → (Span.bytes i 1).Disjoint f.span) :
    read (runAll (packPs4State state) m) (.bytes i 1) = read m (.bytes i 1) :=
  ps4Packing.read_outside (packPs4State_targets state) (by simp [ps4Packing, Ps4State.value])
    (by unfold gamepadReportBits at hi; omega) h m

theorem ps4_twice (m : BitVec gamepadReportBits) :
    runAll (packPs4State state) (runAll (packPs4State state) m) =
      runAll (packPs4State state) m := by
  have hat : Settles ps4Kept (ps4Kept ||| Ps4ReportField.Hat.span.mask _)
    (ps4SetHatState state.hatX.toInt state.hatY.toInt) := Settles.set _
  have keeps : Keeps ps4Kept (packPs4State state) :=
    .append (.assign (by decide +kernel) _) (applyPs4StateBytes_keeps state)
  refine runAll_runAll keeps (hat.append (applyPs4StateBytes_settles state)) ?_ m
  refine .of_targets (l := ps4PackTargets) (fun a ha => ?_) (by decide +kernel)
  exact packPs4State_targets state ▸ List.mem_map_of_mem ha

theorem packPs4State_packs : Packs Ps4ReportField.span state.value (packPs4State state) :=
  ⟨ps4_fields state, fun m _ hi h => ps4_outside state m hi h, ps4_twice state⟩

end Ps4

section Ps5

variable {F : Type} (state : Ps5State F)

def packPs5State : List ReportAssignment :=
  ps5SetHatState state.hatX.toInt state.hatY.toInt ++ applyPs5StateBytes state

def ps5PackTargets : List Span := Ps5ReportField.Hat.span :: ps5StateTargets

theorem packPs5State_targets :
    (packPs5State state).map Assignment.target = ps5PackTargets := rfl

def Ps5ReportField.packed : Ps5ReportField → Option (Nat × Nat × Nat)
  | LeftStickX => some (1, 0, 8)
  | LeftStickY => some (2, 0, 8)
  | RightStickX => some (3, 0, 8)
  | RightStickY => some (4, 0, 8)
  | LeftTrigger => some (5, 0, 8)
  | RightTrigger => some (6, 0, 8)
  | Hat => some (7, 0, 4)
  | ButtonSquare => some (7, 4, 1)
  | ButtonCross => some (7, 5, 1)
  | ButtonCircle => some (7, 6, 1)
  | ButtonTriangle => some (7, 7, 1)
  | ButtonL1 => some (8, 0, 1)
  | ButtonR1 => some (8, 1, 1)
  | ButtonL2 => some (8, 2, 1)
  | ButtonR2 => some (8, 3, 1)
  | ButtonShare => some (8, 4, 1)
  | ButtonOptions => some (8, 5, 1)
  | ButtonL3 => some (8, 6, 1)
  | ButtonR3 => some (8, 7, 1)
  | ButtonHome => some (9, 0, 1)
  | ButtonTouchpad => some (9, 1, 1)
  | ButtonMute => some (9, 2, 1)
  | TriggerRightStopLocation => some (10, 0, 4)
  | TriggerRightStatus => some (10, 4, 4)
  | TriggerLeftStopLocation => some (11, 0, 4)
  | TriggerLeftStatus => some (11, 4, 4)
  | TriggerRightEffect => some (12, 0, 4)
  | TriggerLeftEffect => some (12, 4, 4)
  | _ => none

def ps5Packing : Packing gamepadReportBits 64 Ps5ReportField where
  span := Ps5ReportField.span
  targets := ps5PackTargets
  packed := Ps5ReportField.packed
  fields := [.LeftStickX, .LeftStickY, .RightStickX, .RightStickY, .LeftTrigger, .RightTrigger,
    .Hat, .ButtonSquare, .ButtonCross, .ButtonCircle, .ButtonTriangle, .ButtonL1, .ButtonR1,
    .ButtonL2, .ButtonR2, .ButtonShare, .ButtonOptions, .ButtonL3, .ButtonR3, .ButtonHome,
    .ButtonTouchpad, .ButtonMute, .TriggerRightStopLocation, .TriggerRightStatus,
    .TriggerLeftStopLocation, .TriggerLeftStatus, .TriggerRightEffect, .TriggerLeftEffect]
  placed := fun f k j width h => by cases f <;> cases h <;> decide +kernel
  touched := by decide +kernel

theorem read_packPs5State {f : Ps5ReportField} {k j width : Nat}
    (h : f.packed = some (k, j, width)) (m : BitVec gamepadReportBits) :
    read (runAll (packPs5State state) m) f.span =
      assigned (packPs5State state) m k / 2 ^ j % 2 ^ width :=
  ps5Packing.read_packed (packPs5State_targets state) h m

theorem ps5_fields (m : BitVec gamepadReportBits) (f : Ps5ReportField) (v : Nat)
    (h : state.value f = some v) : read (runAll (packPs5State state) m) f.span = v := by
  have face : assigned (packPs5State state) m 7 =
      ((read (runAll ((packPs5State state).take 7) m) (.bytes ps5OffHatFace 1) &&&
        0x0F) ||| (flag state.btnSquare (1 <<< 4) ||| flag state.btnCross (1 <<< 5) |||
          flag state.btnCircle (1 <<< 6) ||| flag state.btnTriangle (1 <<< 7))) := rfl
  have shoulder : assigned (packPs5State state) m 8 =
      (flag state.btnL1 (1 <<< 0) ||| flag state.btnR1 (1 <<< 1) ||| flag state.btnL2 (1 <<< 2) |||
        flag state.btnR2 (1 <<< 3) ||| flag state.btnShare (1 <<< 4) |||
        flag state.btnOptions (1 <<< 5) ||| flag state.btnL3 (1 <<< 6) |||
        flag state.btnR3 (1 <<< 7)) := rfl
  have buttons : assigned (packPs5State state) m 9 =
      (flag state.btnHome (1 <<< 0) ||| flag state.btnTouchpad (1 <<< 1) |||
        flag state.btnMute (1 <<< 2)) := rfl
  have right : assigned (packPs5State state) m 10 =
      ((state.triggerRightStopLocation &&& 0x0F).toNat |||
        ((state.triggerRightStatus &&& 0x0F) <<< 4).toNat) := rfl
  have left : assigned (packPs5State state) m 11 =
      ((state.triggerLeftStopLocation &&& 0x0F).toNat |||
        ((state.triggerLeftStatus &&& 0x0F) <<< 4).toNat) := rfl
  have effect : assigned (packPs5State state) m 12 =
      ((state.triggerRightEffect &&& 0x0F).toNat |||
        ((state.triggerLeftEffect &&& 0x0F) <<< 4).toNat) := rfl
  have hat : read (runAll ((packPs5State state).take 7) m) (.bytes ps5OffHatFace 1) / 2 ^ 0 %
      2 ^ 4 = hatDirection state.hatX.toInt state.hatY.toInt :=
    hatFace_kept (ps5PackTargets.take 7) Ps5ReportField.Hat.span rfl
      (by decide +kernel) (by decide +kernel) (by decide +kernel) rfl
  cases f <;> cases h <;> rw [read_packPs5State state rfl]
  case LeftStickX | LeftStickY | RightStickX | RightStickY | LeftTrigger | RightTrigger =>
    simp [assigned, packPs5State, ps5SetHatState, applyPs5StateBytes, Assignment.set]
  case Hat =>
    rw [face]
    exact hatFace_hat hat (face_high _ _ _ _)
  case ButtonSquare | ButtonCross | ButtonCircle | ButtonTriangle =>
    rw [face, hatFace_button (by decide)]
    simp only [Nat.testBit_or, testBit_flag]
    simp
  case ButtonL1 | ButtonR1 | ButtonL2 | ButtonR2 | ButtonShare | ButtonOptions | ButtonL3 |
      ButtonR3 =>
    rw [shoulder, div_mod_eq_testBit]
    simp only [Nat.testBit_or, testBit_flag]
    simp
  case ButtonHome | ButtonTouchpad | ButtonMute =>
    rw [buttons, div_mod_eq_testBit]
    simp only [Nat.testBit_or, testBit_flag]
    simp
  case TriggerRightStopLocation | TriggerRightStatus =>
    rw [right, nibbles_eq]
    omega
  case TriggerLeftStopLocation | TriggerLeftStatus =>
    rw [left, nibbles_eq]
    omega
  case TriggerRightEffect | TriggerLeftEffect =>
    rw [effect, nibbles_eq]
    omega

theorem ps5_outside (m : BitVec gamepadReportBits) {i : Nat} (hi : 8 * i < gamepadReportBits)
    (h : ∀ f, (state.value f).isSome → (Span.bytes i 1).Disjoint f.span) :
    read (runAll (packPs5State state) m) (.bytes i 1) = read m (.bytes i 1) :=
  ps5Packing.read_outside (packPs5State_targets state) (by simp [ps5Packing, Ps5State.value])
    (by unfold gamepadReportBits at hi; omega) h m

theorem ps5_twice (m : BitVec gamepadReportBits) :
    runAll (packPs5State state) (runAll (packPs5State state) m) =
      runAll (packPs5State state) m := by
  have hat : Settles ps5Kept (ps5Kept ||| Ps5ReportField.Hat.span.mask _)
    (ps5SetHatState state.hatX.toInt state.hatY.toInt) := Settles.set _
  have keeps : Keeps ps5Kept (packPs5State state) :=
    .append (.assign (by decide +kernel) _) (applyPs5StateBytes_keeps state (by decide +kernel))
  refine runAll_runAll keeps (hat.append (applyPs5StateBytes_settles state)) ?_ m
  refine .of_targets (l := ps5PackTargets) (fun a ha => ?_) (by decide +kernel)
  exact packPs5State_targets state ▸ List.mem_map_of_mem ha

theorem packPs5State_packs : Packs Ps5ReportField.span state.value (packPs5State state) :=
  ⟨ps5_fields state, fun m _ hi h => ps5_outside state m hi h, ps5_twice state⟩

end Ps5

section XOne

variable (state : XOneState)

def XOneReportField.packed : XOneReportField → Option (Nat × Nat × Nat)
  | Hat => some (0, 0, 4)
  | LeftStickX => some (1, 0, 16)
  | LeftStickY => some (2, 0, 16)
  | RightStickX => some (3, 0, 16)
  | RightStickY => some (4, 0, 16)
  | LeftTrigger => some (5, 0, 10)
  | RightTrigger => some (6, 0, 10)
  | ButtonA => some (7, 0, 1)
  | ButtonB => some (7, 1, 1)
  | ButtonX => some (7, 2, 1)
  | ButtonY => some (7, 3, 1)
  | ButtonLB => some (7, 4, 1)
  | ButtonRB => some (7, 5, 1)
  | ButtonBack => some (7, 6, 1)
  | ButtonMenu => some (7, 7, 1)
  | ButtonLS => some (8, 0, 1)
  | ButtonRS => some (8, 1, 1)
  | ButtonHome => some (9, 0, 1)
  | BatteryLevel => some (10, 0, 8)
  | _ => none

def xOnePacking : Packing xOneReportBits 17 XOneReportField where
  span := XOneReportField.span
  targets := xOneStateTargets
  packed := XOneReportField.packed
  fields := [.LeftStickX, .LeftStickY, .RightStickX, .RightStickY, .LeftTrigger, .RightTrigger,
    .ButtonA, .ButtonB, .ButtonX, .ButtonY, .ButtonLB, .ButtonRB, .ButtonBack, .ButtonMenu,
    .ButtonLS, .ButtonRS, .Hat, .ButtonHome, .BatteryLevel]
  placed := fun f k j width h => by cases f <;> cases h <;> decide +kernel
  touched := by decide +kernel

theorem read_submitXOneState {f : XOneReportField} {k j width : Nat}
    (h : f.packed = some (k, j, width)) (m : BitVec xOneReportBits) :
    read (runAll (submitXOneState state) m) f.span =
      assigned (submitXOneState state) m k / 2 ^ j % 2 ^ width :=
  xOnePacking.read_packed (submitXOneState_targets state) h m

theorem toNat_clamped (v : UInt16) : (min v 1023).toNat = min v.toNat 1023 := by
  have clamped : min v 1023 = if v ≤ 1023 then v else 1023 := rfl
  rw [clamped]
  split
  next h =>
    have le : v.toNat ≤ 1023 := h
    omega
  next h =>
    have lt : ¬v.toNat ≤ 1023 := h
    show 1023 = _
    omega

theorem xOne_fields (m : BitVec xOneReportBits) (f : XOneReportField) (v : Nat)
    (h : state.value f = some v) : read (runAll (submitXOneState state) m) f.span = v := by
  have hat : assigned (submitXOneState state) m 0 =
      xOneHatState state.hatX.toInt state.hatY.toInt := rfl
  have left : assigned (submitXOneState state) m 5 = (min state.leftTrigger 1023).toNat := rfl
  have right : assigned (submitXOneState state) m 6 = (min state.rightTrigger 1023).toNat := rfl
  have buttons : assigned (submitXOneState state) m 7 =
      (flag state.btnA (1 <<< 0) ||| flag state.btnB (1 <<< 1) ||| flag state.btnX (1 <<< 2) |||
        flag state.btnY (1 <<< 3) ||| flag state.btnLb (1 <<< 4) ||| flag state.btnRb (1 <<< 5) |||
        flag state.btnBack (1 <<< 6) ||| flag state.btnMenu (1 <<< 7)) := rfl
  have sticks : assigned (submitXOneState state) m 8 =
      (flag state.btnLs (1 <<< 0) ||| flag state.btnRs (1 <<< 1)) := rfl
  have home : assigned (submitXOneState state) m 9 = flag state.btnHome (1 <<< 0) := rfl
  cases f <;> cases h <;> rw [read_submitXOneState state rfl]
  case LeftStickX | LeftStickY | RightStickX | RightStickY | BatteryLevel =>
    simp [assigned, submitXOneState, xOneSetHatState, applyXOneStateBytes, Assignment.set]
  case Hat =>
    rw [hat, xOneHatState_eq, pow_zero, Nat.div_one]
    exact Nat.mod_eq_of_lt (xOneHatDirection_lt _ _)
  case LeftTrigger =>
    rw [left, toNat_clamped]
    omega
  case RightTrigger =>
    rw [right, toNat_clamped]
    omega
  case ButtonA | ButtonB | ButtonX | ButtonY | ButtonLB | ButtonRB | ButtonBack | ButtonMenu =>
    rw [buttons, div_mod_eq_testBit]
    simp only [Nat.testBit_or, testBit_flag]
    simp
  case ButtonLS | ButtonRS =>
    rw [sticks, div_mod_eq_testBit]
    simp only [Nat.testBit_or, testBit_flag]
    simp
  case ButtonHome =>
    rw [home, div_mod_eq_testBit, testBit_flag]
    simp

theorem xOne_outside (m : BitVec xOneReportBits) {i : Nat} (hi : 8 * i < xOneReportBits)
    (h : ∀ f, (state.value f).isSome → (Span.bytes i 1).Disjoint f.span) :
    read (runAll (submitXOneState state) m) (.bytes i 1) = read m (.bytes i 1) :=
  xOnePacking.read_outside (submitXOneState_targets state)
    (by simp [xOnePacking, XOneState.value]) (by unfold xOneReportBits at hi; omega) h m

theorem xOne_twice (m : BitVec xOneReportBits) :
    runAll (submitXOneState state) (runAll (submitXOneState state) m) =
      runAll (submitXOneState state) m := by
  refine runAll_runAll (submitXOneState_keeps state (p := 0) (by simp))
    (submitXOneState_settles state 0) (submitXOneState_keeps state ?_) m
  decide +kernel

theorem submitXOneState_packs : Packs XOneReportField.span state.value (submitXOneState state) :=
  ⟨xOne_fields state, fun m _ hi h => xOne_outside state m hi h, xOne_twice state⟩

end XOne

/-- What the web server packs into a report, the header's fields hold. -/
theorem packed_readBack {F : Type} (ps4 : Ps4State F) (ps5 : Ps5State F) (xOne : XOneState) :
    Packs Ps4ReportField.span ps4.value
      (ps4SetHatState ps4.hatX.toInt ps4.hatY.toInt ++ applyPs4StateBytes ps4) ∧
    Packs Ps5ReportField.span ps5.value
      (ps5SetHatState ps5.hatX.toInt ps5.hatY.toInt ++ applyPs5StateBytes ps5) ∧
    Packs XOneReportField.span xOne.value
      (xOneSetHatState xOne.hatX.toInt xOne.hatY.toInt ++ applyXOneStateBytes xOne) :=
  ⟨packPs4State_packs ps4, packPs5State_packs ps5, submitXOneState_packs xOne⟩

end WinUHid
