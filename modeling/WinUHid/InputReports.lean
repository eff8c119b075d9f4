import WinUHid.FfiStructures
import WinUHid.HandOff

namespace WinUHid

open Bits StructLayout

/-- `WINUHID_PS4_INPUT_REPORT` and `WINUHID_PS5_INPUT_REPORT` as the 64 bytes they are. -/
abbrev GamepadReport := Object 64

/-- What `WinUHidPS5ReportInput` and the read branch of the callback change of a
`WINUHID_PS5_GAMEPAD`. Times are those of `QueryPerformanceCounter`. -/
structure Ps5Input where
  qpcFrequency : Int64
  lastInputReportTime : Int64
  lastInputReport : GamepadReport
  timestamp : UInt32
  sequenceNumber : UInt8

/-- `PrepareInputReportForSubmission` of `WinUHidPS5.cpp` -/
def Ps5Input.prepareInputReportForSubmission (g : Ps5Input) (now : Int64) : Ps5Input :=
  let deltaNs := (now - g.lastInputReportTime) * 1000000000 / g.qpcFrequency
  let timestamp := g.timestamp + (deltaNs / 333).toUInt64.toUInt32
  let report := write g.lastInputReport Ps5ReportField.SequenceNumber.span g.sequenceNumber.toNat
  { g with
    lastInputReportTime := now
    lastInputReport := write report Ps5ReportField.SensorTimestamp.span timestamp.toNat
    timestamp := timestamp
    sequenceNumber := g.sequenceNumber + 1 }

structure Ps4Input where
  qpcFrequency : Int64
  lastInputReportTime : Int64
  lastInputReport : GamepadReport
  timestamp : UInt16

/-- `PrepareInputReportForSubmission` of `WinUHidPS4.cpp` -/
def Ps4Input.prepareInputReportForSubmission (g : Ps4Input) (now : Int64) : Ps4Input :=
  let deltaNs := (now - g.lastInputReportTime) * 1000000000 / g.qpcFrequency
  let timestamp := g.timestamp + (deltaNs / 5333).toUInt64.toUInt16
  { g with
    lastInputReportTime := now
    lastInputReport := write g.lastInputReport Ps4ReportField.Timestamp.span timestamp.toNat
    timestamp := timestamp }

/-- `WinUHidPS5ReportInput` loads the caller's report, `WinUHidPS5Callback` none. -/
def ps5InputPlace : HandOff.Place Ps5Input Int64 GamepadReport where
  load := fun g report => { g with lastInputReport := report }
  prepare := Ps5Input.prepareInputReportForSubmission
  content := Ps5Input.lastInputReport

def ps4InputPlace : HandOff.Place Ps4Input Int64 GamepadReport where
  load := fun g report => { g with lastInputReport := report }
  prepare := Ps4Input.prepareInputReportForSubmission
  content := Ps4Input.lastInputReport

def sequenceNumber (report : GamepadReport) : Nat := read report Ps5ReportField.SequenceNumber.span

theorem ps5_prepare_numbers (g : Ps5Input) (now : Int64) :
    (g.prepareInputReportForSubmission now).sequenceNumber.toNat =
        (g.sequenceNumber.toNat + 1) % 256 ∧
      sequenceNumber (g.prepareInputReportForSubmission now).lastInputReport =
        g.sequenceNumber.toNat % 256 := by
  have apart : Ps5ReportField.SequenceNumber.span.Disjoint Ps5ReportField.SensorTimestamp.span := by
    decide +kernel
  have inside : Ps5ReportField.SequenceNumber.span.stop ≤ 8 * 64 := by decide +kernel
  have width : Ps5ReportField.SequenceNumber.span.width = 8 := by decide +kernel
  refine ⟨UInt8.toNat_add .., ?_⟩
  unfold sequenceNumber Ps5Input.prepareInputReportForSubmission
  dsimp only
  rw [read_write_disjoint apart, read_write_self inside, width]
  rfl

end WinUHid
