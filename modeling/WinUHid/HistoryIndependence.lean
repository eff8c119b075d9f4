import WinUHid.GamepadReports

namespace WinUHid

open Bits

section Setters

variable {n : Nat} {p : BitVec n} {F : Type}

theorem setSensor_settles (x y z : Span) (scale : F → UInt16) (valueX valueY valueZ : F) :
    Settles p (p ||| maskOf n [x, y, z]) (setSensor x y z scale valueX valueY valueZ) :=
  .constants rfl (by simp [setSensor, Assignment.set])

theorem setSensor_keeps {x y z : Span} (h : p &&& maskOf n [x, y, z] = 0) (scale : F → UInt16)
    (valueX valueY valueZ : F) : Keeps p (setSensor x y z scale valueX valueY valueZ) :=
  .of_targets (by simp [setSensor, Assignment.set]) h

/-- The spans of a contact, whose sequence number is a byte. -/
structure Contact where
  point : TouchPointField → Span
  width : (point .ContactSeq).width = 8

/-- Of the contact's sequence number only the bit that says whether it is down is settled. -/
def settledOfPoint (point : TouchPointField → Span) : List Span :=
  [(point .ContactSeq).part 7 1, point .XLowPart, point .XHighPart, point .YLowPart,
    point .YHighPart]

theorem setTouchPoint_settles (c : Contact) (hp : p &&& (c.point .ContactSeq).mask n = 0)
    (touchDown : Bool) (touchX touchY : UInt16) :
    Settles p (p ||| maskOf n (settledOfPoint c.point))
      (setTouchPoint c.point touchDown touchX touchY) := by
  obtain ⟨point, hw⟩ := c
  have contact : Settles p (p ||| ((point .ContactSeq).part 7 1).mask n)
      (if touchDown then
        [.update (point .ContactSeq) (· + 1), .update (point .ContactSeq) (· &&& 0x7F)]
      else [.update (point .ContactSeq) (· ||| 0x80)]) := by
    cases touchDown with
    | true =>
      have up : ∀ v : Nat, (v &&& 0x7F).testBit 7 = false := fun v => by
        rw [Nat.testBit_and]
        simp [show Nat.testBit 0x7F 7 = false from rfl]
      exact (Settles.count hp).cons (.bit (by omega) hp up)
    | false =>
      have down : ∀ v : Nat, (v ||| 0x80).testBit 7 = true := fun v => by
        rw [Nat.testBit_or]
        simp [show Nat.testBit 0x80 7 = true from rfl]
      exact .bit (by omega) hp down
  refine (contact.append (.constants (l := (settledOfPoint point).tail) rfl ?_)).weaken ?_
  · simp [Assignment.set]
  · simp [maskOf, settledOfPoint, BitVec.or_assoc]

theorem setTouchPoint_keeps (point : TouchPointField → Span)
    (h : p &&& maskOf n [point .ContactSeq, point .XLowPart, point .XHighPart, point .YLowPart,
      point .YHighPart] = 0) (touchDown : Bool) (touchX touchY : UInt16) :
    Keeps p (setTouchPoint point touchDown touchX touchY) := by
  refine .of_targets ?_ h
  cases touchDown <;> simp [setTouchPoint, Assignment.set, Assignment.update]

/-- A byte that keeps its low nibble is settled with it. -/
theorem hatFace_settles {s : Span} (hp : (s.part 0 4).mask n &&& ~~~p = 0) (hn : s.stop ≤ n)
    (face : Nat) : Settles p (p ||| s.mask n) [.update s fun old => (old &&& 0x0F) ||| face] := by
  refine .update 0x0F (fun v => by rw [Nat.and_assoc]; rfl) fun k hk hb => ?_
  have low : k < 4 := by
    by_contra hge
    have high := Nat.testBit_lt_two_pow (show 0x0F < 2 ^ k from
      lt_of_lt_of_le (by decide) (Nat.pow_le_pow_right (by decide) (show 4 ≤ k by omega)))
    rw [hb] at high
    cases high
  have inside : s.start + k < n := by
    unfold Span.stop at hn
    omega
  have part : ((s.part 0 4).mask n).getLsbD (s.start + k) = true := by
    rw [Span.getLsbD_mask, decide_eq_true_eq]
    exact ⟨inside, by simp only [Span.part]; omega, by simp only [Span.part, Span.stop]; omega⟩
  simpa [inside] using getLsbD_false_of_and hp part

end Setters

section Ps4

open Ps4ReportField

/-- The fields that no submission changes (the touch reports but the first among them), and those
bits of `packed_meta` that it writes back. -/
def ps4Kept : BitVec gamepadReportBits :=
  maskOf _ [ReportId.span, Reserved.span, Timestamp.span, BatteryLevel.span, Reserved2.span,
    BatteryLevelSpecial.span, Status.span, .bytes 43 18, Reserved3.span]

def ps4StateTargets : List Span :=
  [.LeftStickX, .LeftStickY, .RightStickX, .RightStickY, .LeftTrigger, .RightTrigger,
    .packed_hat_face, .packed_shoulder_stick, .packed_meta].map RustPs4ReportField.span

variable {F : Type} (scale : SensorScale F)

theorem applyPs4StateBytes_keeps (state : Ps4State F) :
    Keeps ps4Kept (applyPs4StateBytes state) := by
  have written : Keeps ps4Kept ((applyPs4StateBytes state).take 8) :=
    .of_targets (l := ps4StateTargets.take 8)
      (by simp [applyPs4StateBytes, ps4StateTargets, Assignment.set, Assignment.update])
      (by decide +kernel)
  have reserved : ∀ k < 8, ps4Kept.getLsbD (RustPs4ReportField.packed_meta.span.start + k) = true →
      Nat.testBit 0xFC k = true ∧ ∀ home touchpad,
        (flag home ps4BtnHome ||| flag touchpad ps4BtnTouchpad).testBit k = false := by
    decide +kernel
  refine written.split (.update fun v k hk hp => ?_)
  obtain ⟨old, buttons⟩ := reserved k hk hp
  rw [Nat.testBit_or, Nat.testBit_and, old, buttons, Bool.and_true, Bool.or_false]

theorem applyPs4StateBytes_settles (state : Ps4State F) :
    Settles (ps4Kept ||| Hat.span.mask _) (ps4Kept ||| maskOf _ ps4StateTargets)
      (applyPs4StateBytes state) := by
  have sticks : Settles (ps4Kept ||| Hat.span.mask _)
      (ps4Kept ||| Hat.span.mask _ ||| maskOf _ (ps4StateTargets.take 6))
      ((applyPs4StateBytes state).take 6) :=
    .constants rfl (by simp [applyPs4StateBytes, Assignment.set])
  refine (sticks.split ((hatFace_settles ?_ ?_ _).cons
    ((Settles.set _).cons (.update 0xFC (fun v => ?_) ?_)))).weaken ?_
  · decide +kernel
  · decide +kernel
  · rw [Nat.and_assoc]
    rfl
  · decide +kernel
  · decide +kernel

def ps4Contact (report : Fin 3) (i : Fin 2) : Contact where
  point := fun part => (TouchPoint report i part).span
  width := by
    revert report i
    decide +kernel

theorem ps4SetTouchState_keeps (i : Fin 2) (touchDown : Bool) (touchX touchY : UInt16) :
    Keeps ps4Kept (ps4SetTouchState i touchDown touchX touchY) := by
  refine (Keeps.assign (by decide +kernel) _).cons (.append (setTouchPoint_keeps _ ?_ _ _ _)
    (.assign (by decide +kernel) _))
  revert i
  decide +kernel

theorem ps4SetTouchState_settles {p : BitVec gamepadReportBits} (i : Fin 2)
    (hp : (p ||| TouchReportCount.span.mask _) &&& (TouchPoint 0 i .ContactSeq).span.mask _ = 0)
    (ht : (p ||| TouchReportCount.span.mask _ |||
      maskOf _ (settledOfPoint fun part => (TouchPoint 0 i part).span)) &&&
        (TouchTimestamp 0).span.mask _ = 0) (touchDown : Bool) (touchX touchY : UInt16) :
    Settles p (p ||| TouchReportCount.span.mask _ |||
        maskOf _ (settledOfPoint fun part => (TouchPoint 0 i part).span))
      (ps4SetTouchState i touchDown touchX touchY) := by
  have point := setTouchPoint_settles (ps4Contact 0 i) hp touchDown touchX touchY
  have time := Settles.count (v := fun m => read m (TouchTimestamp 0).span + 1) ht
  exact (Settles.set 1).cons (point.append time)

theorem submitPs4State_independent :
    HistoryIndependent (submitPs4State scale) (defaultPs4Report scale) ps4Counters := by
  refine .of_settles (p := ps4Kept) (fun state => ?_) fun state => ?_
  · refine ((((Keeps.append ?_ ?_).append ?_).append ?_).append ?_).append ?_
    · exact .assign (by decide +kernel) _
    · exact applyPs4StateBytes_keeps state
    · exact ps4SetTouchState_keeps 0 _ _ _
    · exact ps4SetTouchState_keeps 1 _ _ _
    · exact setSensor_keeps (by decide +kernel) _ _ _ _
    · exact setSensor_keeps (by decide +kernel) _ _ _ _
  · have hat : Settles ps4Kept (ps4Kept ||| Hat.span.mask _)
        (ps4SetHatState state.hatX.toInt state.hatY.toInt) := Settles.set _
    refine ((((hat.append (applyPs4StateBytes_settles state)).append
      (ps4SetTouchState_settles 0 ?_ ?_ _ _ _)).append
      (ps4SetTouchState_settles 1 ?_ ?_ _ _ _)).append (setSensor_settles _ _ _ _ _ _ _)).append
      (setSensor_settles _ _ _ _ _ _ _) |>.weaken ?_
    · decide +kernel
    · decide +kernel
    · decide +kernel
    · decide +kernel
    · decide +kernel

end Ps4

section Ps5

open Ps5ReportField

/-- The fields that no submission changes. -/
def ps5Kept : BitVec gamepadReportBits :=
  maskOf _ ([ReportId, SequenceNumber, Reserved2, SensorTimestamp, Temperature, HostTimestamp,
    DeviceTimestamp, BatteryPercent, BatteryState, Reserved3].map span)

def ps5StateTargets : List Span :=
  [ps5OffLeftStickX, ps5OffLeftStickY, ps5OffRightStickX, ps5OffRightStickY, ps5OffLeftTrigger,
    ps5OffRightTrigger, ps5OffHatFace, ps5OffShoulderStick, ps5OffMeta, ps5OffTriggerRightStatus,
    ps5OffTriggerLeftStatus, ps5OffTriggerEffect].map (Span.bytes · 1)

variable {F : Type} (scale : SensorScale F)

theorem applyPs5StateBytes_keeps (state : Ps5State F) {p : BitVec gamepadReportBits}
    (h : p &&& maskOf _ ps5StateTargets = 0) : Keeps p (applyPs5StateBytes state) :=
  .of_targets
    (by simp [applyPs5StateBytes, ps5StateTargets, Assignment.set, Assignment.update]) h

theorem applyPs5StateBytes_settles (state : Ps5State F) :
    Settles (ps5Kept ||| Hat.span.mask _) (ps5Kept ||| maskOf _ ps5StateTargets)
      (applyPs5StateBytes state) := by
  have sticks : Settles (ps5Kept ||| Hat.span.mask _)
      (ps5Kept ||| Hat.span.mask _ ||| maskOf _ (ps5StateTargets.take 6))
      ((applyPs5StateBytes state).take 6) :=
    .constants rfl (by simp [applyPs5StateBytes, Assignment.set])
  have others : ∀ p, Settles p (p ||| maskOf gamepadReportBits (ps5StateTargets.drop 7))
      ((applyPs5StateBytes state).drop 7) := fun _ =>
    .constants rfl (by simp [applyPs5StateBytes, Assignment.set])
  refine (sticks.split ((hatFace_settles ?_ ?_ _).cons (others _))).weaken ?_
  · decide +kernel
  · decide +kernel
  · decide +kernel

def ps5Contact (i : Fin 2) : Contact where
  point := fun part => (TouchPoint i part).span
  width := by
    revert i
    decide +kernel

theorem ps5SetTouchState_settles {p : BitVec gamepadReportBits} (i : Fin 2)
    (hp : p &&& (TouchPoint i .ContactSeq).span.mask _ = 0)
    (ht : (p ||| maskOf _ (settledOfPoint fun part => (TouchPoint i part).span)) &&&
        TouchTimestamp.span.mask _ = 0) (touchDown : Bool) (touchX touchY : UInt16) :
    Settles p (p ||| maskOf _ (settledOfPoint fun part => (TouchPoint i part).span))
      (ps5SetTouchState i touchDown touchX touchY) := by
  have point := setTouchPoint_settles (ps5Contact i) hp touchDown touchX touchY
  exact point.append (Settles.count (v := fun m => read m TouchTimestamp.span + 1) ht)

theorem ps5SetTouchState_keeps (i : Fin 2) (touchDown : Bool) (touchX touchY : UInt16) :
    Keeps ps5Kept (ps5SetTouchState i touchDown touchX touchY) := by
  refine .append (setTouchPoint_keeps _ ?_ _ _ _) (.assign (by decide +kernel) _)
  revert i
  decide +kernel

theorem submitPs5State_independent :
    HistoryIndependent (submitPs5State scale) (defaultPs5Report scale) ps5Counters := by
  refine .of_settles (p := ps5Kept) (fun state => ?_) fun state => ?_
  · refine ((((Keeps.append ?_ ?_).append ?_).append ?_).append ?_).append ?_
    · exact .assign (by decide +kernel) _
    · exact applyPs5StateBytes_keeps state (by decide +kernel)
    · exact ps5SetTouchState_keeps 0 _ _ _
    · exact ps5SetTouchState_keeps 1 _ _ _
    · exact setSensor_keeps (by decide +kernel) _ _ _ _
    · exact setSensor_keeps (by decide +kernel) _ _ _ _
  · have hat : Settles ps5Kept (ps5Kept ||| Hat.span.mask _)
        (ps5SetHatState state.hatX.toInt state.hatY.toInt) := Settles.set _
    refine ((((hat.append (applyPs5StateBytes_settles state)).append
      (ps5SetTouchState_settles 0 ?_ ?_ _ _ _)).append
      (ps5SetTouchState_settles 1 ?_ ?_ _ _ _)).append (setSensor_settles _ _ _ _ _ _ _)).append
      (setSensor_settles _ _ _ _ _ _ _) |>.weaken ?_
    · decide +kernel
    · decide +kernel
    · decide +kernel
    · decide +kernel
    · decide +kernel

end Ps5

section XOne

open XOneReportField

def xOneStateTargets : List Span :=
  [Hat.span, .bytes xOneOffLx 2, .bytes xOneOffLy 2, .bytes xOneOffRx 2, .bytes xOneOffRy 2,
    .bytes xOneOffLt 2, .bytes xOneOffRt 2, .bytes xOneOffBtn1 1, .bytes xOneOffBtn2 1,
    .bytes xOneOffHome 1, .bytes xOneOffBattery 1]

theorem submitXOneState_targets (state : XOneState) :
    (submitXOneState state).map Assignment.target = xOneStateTargets := rfl

theorem submitXOneState_keeps (state : XOneState) {p : BitVec xOneReportBits}
    (h : p &&& maskOf _ xOneStateTargets = 0) : Keeps p (submitXOneState state) :=
  .of_targets (fun _ ha => submitXOneState_targets state ▸ List.mem_map_of_mem ha) h

theorem submitXOneState_settles (state : XOneState) (p : BitVec xOneReportBits) :
    Settles p (p ||| maskOf _ xOneStateTargets) (submitXOneState state) :=
  .constants (submitXOneState_targets state)
    (by simp [submitXOneState, xOneSetHatState, applyXOneStateBytes, Assignment.set])

theorem submitXOneState_independent :
    HistoryIndependent submitXOneState defaultXOneReport 0 := by
  refine .of_settles (p := Reserved4.span.mask _) (fun state => ?_) fun state => ?_
  · exact submitXOneState_keeps state (by decide +kernel)
  · exact (submitXOneState_settles state _).weaken (by decide +kernel)

end XOne

/-- For each preset, two histories that end with the same state leave the same report behind, but
for the counters of the touches; on an Xbox One gamepad there are none. -/
theorem submitted_historyIndependent {F : Type} (scale : SensorScale F) :
    HistoryIndependent (submitPs4State scale) (defaultPs4Report scale) ps4Counters ∧
    HistoryIndependent (submitPs5State scale) (defaultPs5Report scale) ps5Counters ∧
    HistoryIndependent submitXOneState defaultXOneReport 0 :=
  ⟨submitPs4State_independent scale, submitPs5State_independent scale, submitXOneState_independent⟩

end WinUHid
