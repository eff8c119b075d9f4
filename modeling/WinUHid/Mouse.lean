import WinUHid.DriverInterface
import WinUHid.Replies

namespace WinUHid

structure BasicReport where
  id : UInt8
  buttons : UInt8
  deltaX : Int16
  deltaY : Int16
  vScroll : Int16
  hScroll : Int16
  deriving DecidableEq

def basicReportId : UInt8 := 0x01

/-- A zeroed report with the id and the buttons, as each report function begins. -/
def BasicReport.start (buttons : UInt8) : BasicReport := ⟨basicReportId, buttons, 0, 0, 0, 0⟩

def BasicReport.scroll (r : BasicReport) (horizontal : Bool) : Int16 :=
  if horizontal then r.hScroll else r.vScroll

/-- The state of a `WINUHID_MOUSE_DEVICE`. -/
structure MouseDevice where
  buttons : UInt8
  resolutionMultiplier : UInt8
  accumulatedVScroll : UInt8
  accumulatedHScroll : UInt8

/-- What `WinUHidMouseCreate` leaves. -/
def MouseDevice.initial : MouseDevice := ⟨0, 0, 0, 0⟩

def wheelDelta : Int := 120

def getVRes (x : UInt8) : UInt8 := x &&& 0x3

def getHRes (x : UInt8) : UInt8 := (x >>> 2) &&& 0x3

/-- What a call into the mouse does for its caller or for the event it is called with. -/
inductive MouseReply where
  | submitted (report : BasicReport)
  | invalidParameter
  | completedRead (data : Option (List UInt8))
  | completedWrite (success : Bool)
  deriving DecidableEq

inductive MouseCall where
  | reportMotion (deltaX deltaY : Int16)
  | reportButton (buttonIndex : UInt8) (down : Bool)
  | reportScroll (scrollValue : Int16) (horizontal : Bool)
  | callback (event : ReceivedEvent)

namespace MouseDevice

/-- `WinUHidMouseCallback` -/
def callback (m : MouseDevice) (event : ReceivedEvent) : MouseDevice × MouseReply :=
  if event.type.isRead then
    if event.reportId ≠ 18 then (m, .completedRead none)
    else (m, .completedRead (some [event.reportId, m.resolutionMultiplier]))
  else if event.reportId ≠ 18 then (m, .completedWrite false)
  else
    match event.writeData with
    | _ :: multiplier :: _ => ({ m with resolutionMultiplier := multiplier }, .completedWrite true)
    | _ => (m, .completedWrite false)

/-- `WinUHidMouseReportMotion` -/
def reportMotion (m : MouseDevice) (deltaX deltaY : Int16) : MouseDevice × MouseReply :=
  (m, .submitted { BasicReport.start m.buttons with deltaX := deltaX, deltaY := deltaY })

/-- `WinUHidMouseReportButton` -/
def reportButton (m : MouseDevice) (buttonIndex : UInt8) (down : Bool) :
    MouseDevice × MouseReply :=
  if buttonIndex ≥ 5 then (m, .invalidParameter)
  else
    let buttons :=
      if down then m.buttons ||| (1 <<< buttonIndex) else m.buttons &&& ~~~(1 <<< buttonIndex)
    ({ m with buttons := buttons }, .submitted (.start buttons))

/-- `WinUHidMouseReportScroll`: the sum is an `int`, its quotient and remainder truncate, and are
stored in a `SHORT` and in a `UCHAR`. -/
def reportScroll (m : MouseDevice) (scrollValue : Int16) (horizontal : Bool) :
    MouseDevice × MouseReply :=
  let report := BasicReport.start m.buttons
  if horizontal then
    if getHRes m.resolutionMultiplier ≠ 0 then
      (m, .submitted { report with hScroll := scrollValue })
    else
      let sum := scrollValue.toInt + m.accumulatedHScroll.toNat
      ({ m with accumulatedHScroll := UInt8.ofInt (sum.tmod wheelDelta) },
        .submitted { report with hScroll := Int16.ofInt (sum.tdiv wheelDelta) })
  else
    if getVRes m.resolutionMultiplier ≠ 0 then
      (m, .submitted { report with vScroll := scrollValue })
    else
      let sum := scrollValue.toInt + m.accumulatedVScroll.toNat
      ({ m with accumulatedVScroll := UInt8.ofInt (sum.tmod wheelDelta) },
        .submitted { report with vScroll := Int16.ofInt (sum.tdiv wheelDelta) })

/-- One call, every submission succeeding. -/
def call (m : MouseDevice) : MouseCall → MouseDevice × MouseReply
  | .reportMotion deltaX deltaY => m.reportMotion deltaX deltaY
  | .reportButton buttonIndex down => m.reportButton buttonIndex down
  | .reportScroll scrollValue horizontal => m.reportScroll scrollValue horizontal
  | .callback event => m.callback event

def lowResolution (m : MouseDevice) (horizontal : Bool) : Bool :=
  (if horizontal then getHRes m.resolutionMultiplier else getVRes m.resolutionMultiplier) == 0

def accumulated (m : MouseDevice) (horizontal : Bool) : UInt8 :=
  if horizontal then m.accumulatedHScroll else m.accumulatedVScroll

end MouseDevice

end WinUHid
