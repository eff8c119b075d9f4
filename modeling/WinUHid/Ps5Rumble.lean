import WinUHid.Ps5Output
import WinUHid.Replies

namespace WinUHid

/-- The amplitudes of the two motors. -/
structure MotorAmplitudes where
  left : UInt8
  right : UInt8
  deriving DecidableEq

/-- The amplitude a motor byte commands: itself, or doubled up to the maximum in legacy mode. -/
def Ps5OutputReport.commandedAmplitude (report : Ps5OutputReport) (motor : UInt8) : UInt8 :=
  if report.compatibleVibration2 then motor else UInt8.ofNat (min 255 (2 * motor.toNat))

def Ps5OutputReport.commanded (report : Ps5OutputReport) : MotorAmplitudes :=
  ⟨report.commandedAmplitude report.motorState.left,
    report.commandedAmplitude report.motorState.right⟩

def Ps5OutputReport.vibrates (report : Ps5OutputReport) : Bool :=
  report.compatibleVibration || report.compatibleVibration2

/-- An accepted output report with a vibration flag. -/
def ReceivedEvent.vibrates (event : ReceivedEvent) : Bool :=
  event.isPs5Effects && event.ps5Effects.vibrates

/-- The amplitudes a client has been told last, after some more callbacks. -/
def MotorAmplitudes.deliver (last : MotorAmplitudes) (feedback : List Ps5Feedback) :
    MotorAmplitudes :=
  feedback.foldl (fun last f =>
    match f with
    | .rumble left right => ⟨left, right⟩
    | _ => last) last

/-- A gamepad beside the amplitudes commanded by the last vibration report and those delivered
last. -/
structure Ps5Rumble where
  gamepad : Ps5Gamepad
  commanded : MotorAmplitudes
  delivered : MotorAmplitudes

def Ps5Rumble.outputReport (s : Ps5Rumble) (event : ReceivedEvent) :
    Ps5Rumble × (List Ps5Feedback × Bool) :=
  ({ gamepad := (s.gamepad.outputReport event).1
     commanded := if event.vibrates then event.ps5Effects.commanded else s.commanded
     delivered := s.delivered.deliver (s.gamepad.outputReport event).2.1 },
    (s.gamepad.outputReport event).2)

/-- A new gamepad with a rumble callback. -/
def Ps5Rumble.create (lightBarLed playerLed triggerEffect micLed : Bool) : Ps5Rumble :=
  ⟨.create true lightBarLed playerLed triggerEffect micLed, ⟨0, 0⟩, ⟨0, 0⟩⟩

/-- A vibration report with new motor bytes that doubling does not overflow, or one with the bytes
of the vibration report before it that also commands what that one did. -/
def FaithfulRumble (s : Ps5Rumble) (event : ReceivedEvent) : Prop :=
  event.vibrates = true →
    if event.ps5Effects.motorState = s.gamepad.lastMotorState then
      event.ps5Effects.commanded = s.commanded
    else
      event.ps5Effects.compatibleVibration2 = true ∨
        (event.ps5Effects.motorState.left < 128 ∧ event.ps5Effects.motorState.right < 128)

theorem amplitude_eq_commanded_iff (report : Ps5OutputReport) (motor : UInt8) :
    report.amplitude motor = report.commandedAmplitude motor ↔
      report.compatibleVibration2 = true ∨ motor < 128 := by
  have hm := motor.toNat_lt
  rw [UInt8.lt_iff_toNat_lt]
  unfold Ps5OutputReport.amplitude Ps5OutputReport.commandedAmplitude
  cases report.compatibleVibration2 with
  | true => simp
  | false =>
    rw [← UInt8.toNat_inj]
    simp only [Bool.false_eq_true, if_false, UInt8.toNat_ofNat', Nat.shiftLeft_eq, false_or,
      UInt8.reduceToNat]
    omega

theorem MotorAmplitudes.deliver_append (last : MotorAmplitudes) (fs fs' : List Ps5Feedback) :
    last.deliver (fs ++ fs') = (last.deliver fs).deliver fs' := List.foldl_append

/-- A part of the branch that leaves the motors alone. -/
def LeavesMotors (g : Ps5Gamepad) (x : Ps5Gamepad × List Ps5Feedback) : Prop :=
  x.1.rumbleCallback = g.rumbleCallback ∧ x.1.lastMotorState = g.lastMotorState ∧
    ∀ last : MotorAmplitudes, last.deliver x.2 = last

section Channels

variable (g : Ps5Gamepad) (report : Ps5OutputReport)

theorem lightBar_leavesMotors : LeavesMotors g (g.lightBar report) := by
  unfold Ps5Gamepad.lightBar
  split <;> exact ⟨rfl, rfl, fun _ => rfl⟩

theorem playerLed_leavesMotors : LeavesMotors g (g.playerLed report) := by
  unfold Ps5Gamepad.playerLed
  split <;> exact ⟨rfl, rfl, fun _ => rfl⟩

theorem triggerEffect_leavesMotors : LeavesMotors g (g.triggerEffect report) := by
  unfold Ps5Gamepad.triggerEffect
  split <;> exact ⟨rfl, rfl, fun _ => rfl⟩

theorem micLed_leavesMotors : LeavesMotors g (g.micLed report) := by
  unfold Ps5Gamepad.micLed
  split <;> exact ⟨rfl, rfl, fun _ => rfl⟩

end Channels

/-- What an accepted report does to the motors, all other channels left out. -/
theorem outputReport_motors {g : Ps5Gamepad} (hg : g.rumbleCallback = true)
    {event : ReceivedEvent} (he : event.isPs5Effects = true) (last : MotorAmplitudes) :
    (g.outputReport event).1.rumbleCallback = true ∧
    if event.ps5Effects.vibrates = true ∧ event.ps5Effects.motorState ≠ g.lastMotorState then
      (g.outputReport event).1.lastMotorState = event.ps5Effects.motorState ∧
        last.deliver (g.outputReport event).2.1 =
          ⟨event.ps5Effects.amplitude event.ps5Effects.motorState.left,
            event.ps5Effects.amplitude event.ps5Effects.motorState.right⟩
    else
      (g.outputReport event).1.lastMotorState = g.lastMotorState ∧
        last.deliver (g.outputReport event).2.1 = last := by
  simp only [Ps5Gamepad.outputReport, he, Bool.not_true, Bool.false_eq_true, if_false,
    MotorAmplitudes.deliver_append]
  generalize event.ps5Effects = report
  obtain ⟨hc1, hs1, hd1⟩ := lightBar_leavesMotors g report
  generalize g.lightBar report = x1 at *
  obtain ⟨hc2, hs2, hd2⟩ := playerLed_leavesMotors x1.1 report
  generalize x1.1.playerLed report = x2 at *
  obtain ⟨hc4, hs4, hd4⟩ := triggerEffect_leavesMotors (x2.1.rumble report).1 report
  generalize hx4 : (x2.1.rumble report).1.triggerEffect report = x4 at *
  obtain ⟨hc5, hs5, hd5⟩ := micLed_leavesMotors x4.1 report
  have hcallback : x2.1.rumbleCallback = true := hc2.trans (hc1.trans hg)
  have hmotor : x2.1.lastMotorState = g.lastMotorState := hs2.trans hs1
  rw [hd1, hd2, hd4, hd5, hc5, hs5, hc4, hs4]
  unfold Ps5Gamepad.rumble
  rw [hcallback, hmotor]
  split
  next h =>
    rw [if_pos (by simpa [Ps5OutputReport.vibrates] using h)]
    exact ⟨rfl, rfl, rfl⟩
  next h =>
    rw [if_neg (by simpa [Ps5OutputReport.vibrates] using h)]
    exact ⟨hcallback, hmotor, rfl⟩

/-- The delivered amplitudes are the commanded ones, on a gamepad with a rumble callback. -/
structure RumbleDelivered (s : Ps5Rumble) : Prop where
  callback : s.gamepad.rumbleCallback = true
  delivered : s.delivered = s.commanded

/-- One event after which the delivered amplitudes are still the commanded ones. -/
theorem rumbleDelivered_next_iff {s : Ps5Rumble} (h : RumbleDelivered s) (event : ReceivedEvent) :
    RumbleDelivered (s.outputReport event).1 ↔ FaithfulRumble s event := by
  cases he : event.isPs5Effects with
  | false =>
    have hv : event.vibrates = false := by simp [ReceivedEvent.vibrates, he]
    refine ⟨fun _ hn => absurd (hv.symm.trans hn) nofun, fun _ => ⟨?_, ?_⟩⟩
    · rw [Ps5Rumble.outputReport, outputReport_refused he]
      exact h.callback
    · simp only [Ps5Rumble.outputReport, outputReport_refused he, hv, Bool.false_eq_true, if_false]
      exact h.delivered
  | true =>
    obtain ⟨hc, hm⟩ := outputReport_motors h.callback he s.delivered
    have hiff : RumbleDelivered (s.outputReport event).1 ↔
        s.delivered.deliver (s.gamepad.outputReport event).2.1 =
          if event.vibrates then event.ps5Effects.commanded else s.commanded :=
      ⟨fun h => h.delivered, fun hd => ⟨hc, hd⟩⟩
    have hv : event.vibrates = event.ps5Effects.vibrates := by simp [ReceivedEvent.vibrates, he]
    rw [hiff, FaithfulRumble, hv]
    cases hvib : event.ps5Effects.vibrates with
    | false =>
      rw [hvib, if_neg (by simp)] at hm
      rw [hm.2]
      exact ⟨fun _ => nofun, fun _ => h.delivered⟩
    | true =>
      rw [hvib] at hm
      simp only [if_true, forall_const]
      by_cases hsame : event.ps5Effects.motorState = s.gamepad.lastMotorState
      · rw [if_neg (fun hn => hn.2 hsame)] at hm
        rw [if_pos hsame, hm.2, h.delivered]
        exact eq_comm
      · rw [if_pos ⟨rfl, hsame⟩] at hm
        rw [if_neg hsame, hm.2, Ps5OutputReport.commanded, MotorAmplitudes.mk.injEq,
          amplitude_eq_commanded_iff, amplitude_eq_commanded_iff]
        exact or_and_left.symm

theorem outputReport_rumbleCallback {g : Ps5Gamepad} (hg : g.rumbleCallback = true)
    (event : ReceivedEvent) : (g.outputReport event).1.rumbleCallback = true := by
  cases he : event.isPs5Effects with
  | false =>
    rw [outputReport_refused he]
    exact hg
  | true => exact (outputReport_motors hg he ⟨0, 0⟩).1

/-- Rumble feedback over a run of output reports: after each of them the amplitudes delivered last
are those commanded last, exactly when no vibration report overflows the doubling or changes what
is commanded without changing the motor bytes. -/
theorem ps5Rumble_delivered (lightBarLed playerLed triggerEffect micLed : Bool)
    (events : List ReceivedEvent) :
    (∀ events', events' <+: events →
      (Replies.after Ps5Rumble.outputReport
        (.create lightBarLed playerLed triggerEffect micLed) events').delivered =
      (Replies.after Ps5Rumble.outputReport
        (.create lightBarLed playerLed triggerEffect micLed) events').commanded) ↔
    Replies.Along Ps5Rumble.outputReport FaithfulRumble
      (.create lightBarLed playerLed triggerEffect micLed) events := by
  rw [← Replies.forall_prefix_iff_along (P := fun _ s => RumbleDelivered s) ⟨rfl, rfl⟩
    (fun _ _ event h => rumbleDelivered_next_iff h event)]
  refine forall_congr' fun events' => imp_congr_right fun _ => ⟨fun hd => ⟨?_, hd⟩, fun h => h.delivered⟩
  exact Replies.invariant (P := fun _ (s : Ps5Rumble) => s.gamepad.rumbleCallback = true) rfl
    (fun _ _ event h => outputReport_rumbleCallback h event) events'

/-- An effects report with the given vibration flags and motor bytes. -/
def vibrationEvent (legacy v2 : Bool) (left right : UInt8) : ReceivedEvent where
  type := .writeReport
  reportId := ps5OutputReportEffects
  writeData := [ps5OutputReportEffects, if legacy then 0x01 else 0x00, 0x00, right, left] ++
    List.replicate 34 0 ++ [if v2 then 0x04 else 0x00] ++ List.replicate 8 0

theorem ps5Rumble_not_delivered :
    ((Ps5Gamepad.create true false false false false).outputReport
      (vibrationEvent true false 128 0)).2 = ([.rumble 0 0], true) ∧
    (vibrationEvent true false 128 0).ps5Effects.commanded = ⟨255, 0⟩ ∧
    (Replies.after Ps5Rumble.outputReport (.create false false false false)
      [vibrationEvent false true 10 0, vibrationEvent true false 10 0]).delivered = ⟨10, 0⟩ ∧
    (vibrationEvent true false 10 0).ps5Effects.commanded = ⟨20, 0⟩ ∧
    ¬∀ events : List ReceivedEvent,
      (Replies.after Ps5Rumble.outputReport (.create false false false false) events).delivered =
        (Replies.after Ps5Rumble.outputReport (.create false false false false) events).commanded := by
  refine ⟨by decide, by decide, by decide, by decide, fun h => ?_⟩
  exact absurd (h [vibrationEvent true false 128 0]) (by decide)

end WinUHid
