import WinUHid.DriverInterface
import WinUHid.Mailbox

namespace WinUHid

structure Ps4LedState where
  ledRed : UInt8
  ledGreen : UInt8
  ledBlue : UInt8
  blinkOn : UInt8
  blinkOff : UInt8
  deriving DecidableEq

/-- The fields of `PS4_OUTPUT_REPORT` that the callback hands to the LED thread. -/
structure Ps4OutputReport where
  ledValid : Bool
  blinkValid : Bool
  ledRed : UInt8
  ledGreen : UInt8
  ledBlue : UInt8
  blinkOn : UInt8
  blinkOff : UInt8

/-- `sizeof(PS4_OUTPUT_REPORT)`: the six reserved bits do not fit into the first byte. -/
def sizeofPs4OutputReport : Nat := 1 + 1 + 1 + 2 + 3 + 2

def Ps4OutputReport.ofBytes (b : List UInt8) : Ps4OutputReport :=
  let byte := fun i => b.getD i 0
  { ledValid := (byte 0).toNat.testBit 1
    blinkValid := (byte 0).toNat.testBit 2
    ledRed := byte 5
    ledGreen := byte 6
    ledBlue := byte 7
    blinkOn := byte 8
    blinkOff := byte 9 }

def ds4OutputReportEffects : UInt8 := 0x05

/-- The last branch of `WinUHidPS4Callback`, with its checks of the report id and length. -/
def ReceivedEvent.isPs4Effects (event : ReceivedEvent) : Bool :=
  event.type == .writeReport && event.reportId == ds4OutputReportEffects &&
    decide (1 + sizeofPs4OutputReport ≤ event.writeData.length)

/-- `(PPS4_OUTPUT_REPORT)&Event->Write.Data[1]` -/
def ReceivedEvent.ps4Effects (event : ReceivedEvent) : Ps4OutputReport :=
  .ofBytes (event.writeData.drop 1)

def ReceivedEvent.hasPs4LedState (event : ReceivedEvent) : Bool :=
  event.isPs4Effects && (event.ps4Effects.ledValid || event.ps4Effects.blinkValid)

/-- The locked section of `WinUHidPS4Callback`. -/
def Ps4OutputReport.updateLedState (report : Ps4OutputReport) (state : Ps4LedState) : Ps4LedState :=
  let state := if report.ledValid then
      { state with
        ledRed := report.ledRed, ledGreen := report.ledGreen, ledBlue := report.ledBlue }
    else state
  if report.blinkValid then
    { state with blinkOn := report.blinkOn, blinkOff := report.blinkOff }
  else state

/-- A call of the client's LED callback. -/
structure Ps4LedColor where
  red : UInt8
  green : UInt8
  blue : UInt8
  deriving DecidableEq

def Ps4LedState.color (state : Ps4LedState) : Ps4LedColor :=
  ⟨state.ledRed, state.ledGreen, state.ledBlue⟩

/-- The next operation of `PS4LedThreadProc` with an LED state that it has loaded. -/
inductive Ps4LedPhase where
  | solid (state : Ps4LedState)
  | blinkOn (state : Ps4LedState)
  | waitOn (state : Ps4LedState)
  | stoppingOn (state : Ps4LedState)
  | blinkOff (state : Ps4LedState)
  | waitOff (state : Ps4LedState)
  | stoppingOff (state : Ps4LedState)
  deriving DecidableEq

def Ps4LedState.enter (state : Ps4LedState) : Ps4LedPhase :=
  if state.blinkOn == 0 && state.blinkOff == 0 then .solid state else .blinkOn state

/-- The inner part of `PS4LedThreadProc`. A wait ends with the event, or with its time-out. -/
def ps4LedThreadProc : Ps4LedPhase → Mailbox.Sight → Option (List Ps4LedColor × Option Ps4LedPhase)
  | .solid state, _ => some ([state.color], none)
  | .blinkOn state, _ => some ([state.color], some (.waitOn state))
  | .waitOn state, sight =>
    if sight.signalled then some ([], none)
    else if sight.expired then some ([], some (.stoppingOn state))
    else none
  | .stoppingOn state, sight =>
    if sight.stopping then some ([], none) else some ([], some (.blinkOff state))
  | .blinkOff state, _ => some ([⟨0, 0, 0⟩], some (.waitOff state))
  | .waitOff state, sight =>
    if sight.signalled then some ([], none)
    else if sight.expired then some ([], some (.stoppingOff state))
    else none
  | .stoppingOff state, sight =>
    if sight.stopping then some ([], none) else some ([], some (.blinkOn state))

/-- `WinUHidPS4Callback`, `PS4LedThreadProc` and `WinUHidPS4Destroy` -/
def ps4Gamepad : Mailbox.Service Ps4LedState Ps4LedPhase Ps4LedColor ReceivedEvent where
  initial := ⟨0, 0, 0, 0, 0⟩
  prepares := false
  publishes := ReceivedEvent.hasPs4LedState
  update := fun event => event.ps4Effects.updateLedState
  enter := Ps4LedState.enter
  body := ps4LedThreadProc

end WinUHid
