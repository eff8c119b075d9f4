import WinUHid.DriverInterface
import WinUHid.Mailbox

namespace WinUHid

/-- `XONE_OUTPUT_REPORT`; the times are in units of 10 ms. -/
structure XOneOutputReport where
  motorsEnabled : UInt8
  leftTriggerMotor : UInt8
  rightTriggerMotor : UInt8
  leftMotor : UInt8
  rightMotor : UInt8
  duration : UInt8
  delay : UInt8
  repeats : UInt8
  deriving DecidableEq

def sizeofXOneOutputReport : Nat := 8

def XOneOutputReport.ofBytes (b : List UInt8) : XOneOutputReport :=
  let byte := fun i => b.getD i 0
  ⟨byte 0, byte 1, byte 2, byte 3, byte 4, byte 5, byte 6, byte 7⟩

/-- `XONE_TIME_TO_FILETIME`: a relative time in units of 100 ns. -/
def xOneTimeToFiletime (x : UInt8) : Int := x.toNat * -100000

/-- Whether `WinUHidXOneCallback` takes an event for the one defined output report. -/
def ReceivedEvent.isXOneOutput (event : ReceivedEvent) : Bool :=
  event.reportId == 0 && decide (sizeofXOneOutputReport ≤ event.writeData.length)

/-- A call of the client's callback: the amplitudes of the motors. -/
structure XOneMotors where
  left : UInt8
  right : UInt8
  leftTrigger : UInt8
  rightTrigger : UInt8
  deriving DecidableEq

def XOneMotors.off : XOneMotors := ⟨0, 0, 0, 0⟩

namespace XOneOutputReport

def enabled (report : XOneOutputReport) (bit : Nat) (motor : UInt8) : UInt8 :=
  if report.motorsEnabled.toNat.testBit bit then motor else 0

def motors (report : XOneOutputReport) : XOneMotors where
  left := report.enabled 0 report.leftMotor
  right := report.enabled 1 report.rightMotor
  leftTrigger := report.enabled 2 report.leftTriggerMotor
  rightTrigger := report.enabled 3 report.rightTriggerMotor

/-- All the repeats of an effect without delay are put into its first wait. -/
def consolidate (report : XOneOutputReport) : XOneOutputReport × Int :=
  let dueTime := xOneTimeToFiletime report.duration
  if report.delay == 0 && report.repeats != 0 then
    ({ report with repeats := 0 }, dueTime + dueTime * report.repeats.toNat)
  else (report, dueTime)

/-- What a report asks for: the amplitude of each motor whose bit of `MotorsEnabled` is set, 0x1 for
the left motor, 0x2 for the right one, 0x4 and 0x8 for those of the triggers. -/
def asked (report : XOneOutputReport) : XOneMotors where
  left := if report.motorsEnabled &&& 0x1 = 0 then 0 else report.leftMotor
  right := if report.motorsEnabled &&& 0x2 = 0 then 0 else report.rightMotor
  leftTrigger := if report.motorsEnabled &&& 0x4 = 0 then 0 else report.leftTriggerMotor
  rightTrigger := if report.motorsEnabled &&& 0x8 = 0 then 0 else report.rightTriggerMotor

theorem enabled_eq_ite (report : XOneOutputReport) {bit : Nat} {mask : UInt8}
    (hm : mask.toNat = 2 ^ bit) (motor : UInt8) :
    report.enabled bit motor = if report.motorsEnabled &&& mask = 0 then 0 else motor := by
  have clear : report.motorsEnabled &&& mask = 0 ↔ report.motorsEnabled.toNat &&& 2 ^ bit = 0 := by
    rw [← UInt8.toNat_inj, UInt8.toNat_and, hm]
    rfl
  rw [enabled, if_congr clear rfl rfl, Nat.and_two_pow]
  cases report.motorsEnabled.toNat.testBit bit <;> simp

theorem motors_eq_asked (report : XOneOutputReport) : report.motors = report.asked := by
  rw [motors, asked, @enabled_eq_ite report 0 0x1 rfl, @enabled_eq_ite report 1 0x2 rfl,
    @enabled_eq_ite report 2 0x4 rfl, @enabled_eq_ite report 3 0x8 rfl]

end XOneOutputReport

/-- The next operation of `XOneRumbleThreadProc` with a report that it has loaded, in the
iteration `i`. The waits are for the event or for the timer, set to `dueTime`. -/
inductive XOneRumblePhase where
  | iteration (report : XOneOutputReport) (i : Nat)
  | waitDelay (report : XOneOutputReport) (i : Nat) (dueTime : Int)
  | stoppingDelay (report : XOneOutputReport) (i : Nat)
  | motorsOn (report : XOneOutputReport) (i : Nat)
  | waitDuration (report : XOneOutputReport) (i : Nat) (dueTime : Int)
  | stoppingDuration (report : XOneOutputReport) (i : Nat)
  | motorsOff (report : XOneOutputReport) (i : Nat)
  deriving DecidableEq

/-- The inner part of `XOneRumbleThreadProc`. -/
def xOneRumbleThreadProc :
    XOneRumblePhase → Mailbox.Sight → Option (List XOneMotors × Option XOneRumblePhase)
  | .iteration report i, _ =>
    if report.repeats.toNat < i then some ([], none)
    else if report.duration == 0 || report.motors == .off then some ([.off], none)
    else if report.delay != 0 then
      some ([], some (.waitDelay report i (xOneTimeToFiletime report.delay)))
    else some ([], some (.motorsOn report i))
  | .waitDelay report i _, sight =>
    if sight.signalled then some ([], none)
    else if sight.expired then some ([], some (.stoppingDelay report i))
    else none
  | .stoppingDelay report i, sight =>
    if sight.stopping then some ([], none) else some ([], some (.motorsOn report i))
  | .motorsOn report i, _ =>
    some ([report.motors], some (.waitDuration report.consolidate.1 i report.consolidate.2))
  | .waitDuration report i _, sight =>
    if sight.signalled then some ([], none)
    else if sight.expired then some ([], some (.stoppingDuration report i))
    else none
  | .stoppingDuration report i, sight =>
    if sight.stopping then some ([], none) else some ([], some (.motorsOff report i))
  | .motorsOff report i, _ => some ([.off], some (.iteration report (i + 1)))

/-- `WinUHidXOneCallback`, `XOneRumbleThreadProc` with its timer, and `WinUHidXOneDestroy` -/
def xOneGamepad :
    Mailbox.Service XOneOutputReport XOneRumblePhase XOneMotors ReceivedEvent where
  initial := ⟨0, 0, 0, 0, 0, 0, 0, 0⟩
  prepares := true
  publishes := ReceivedEvent.isXOneOutput
  update := fun event _ => .ofBytes event.writeData
  enter := fun report => .iteration report 0
  body := xOneRumbleThreadProc

end WinUHid
