import WinUHid.DriverInterface
import Mathlib.Data.Vector.Basic

namespace WinUHid

/-- The three kinds of report a Main item can contribute to. -/
inductive ReportKind where
  | input
  | output
  | feature
  deriving DecidableEq, Repr

/-- `HID_REPORT_SIZE`: bits while parsing, bytes after the post-processing. -/
structure HidReportSize where
  inputReportSize : UInt32
  outputReportSize : UInt32
  featureReportSize : UInt32
  deriving DecidableEq

def HidReportSize.get (e : HidReportSize) : ReportKind → UInt32
  | .input => e.inputReportSize
  | .output => e.outputReportSize
  | .feature => e.featureReportSize

def HidReportSize.set (e : HidReportSize) (v : UInt32) : ReportKind → HidReportSize
  | .input => { e with inputReportSize := v }
  | .output => { e with outputReportSize := v }
  | .feature => { e with featureReportSize := v }

theorem HidReportSize.get_set (e : HidReportSize) (v : UInt32) (k k' : ReportKind) :
    (e.set v k).get k' = if k' = k then v else e.get k' := by
  cases k <;> cases k' <;> rfl

/-- What `ParseReportDescriptor` leaves in the `FILE_CONTEXT`. -/
structure ParsedReports where
  reportSizes : UInt8 → HidReportSize
  numberedReports : Bool

def ParsedReports.setSize (r : ParsedReports) (id : UInt8) (k : ReportKind) (v : UInt32) :
    ParsedReports :=
  { r with reportSizes := Function.update r.reportSizes id ((r.reportSizes id).set v k) }

theorem ParsedReports.get_setSize (r : ParsedReports) (id id' : UInt8) (k k' : ReportKind)
    (v : UInt32) : ((r.setSize id k v).reportSizes id').get k' =
      if id' = id ∧ k' = k then v else (r.reportSizes id').get k' := by
  by_cases hid : id' = id
  · subst hid
    simp [setSize, HidReportSize.get_set]
  · simp [setSize, hid]

/-- A report descriptor with a length that fits the `USHORT` of the `VHF_CONFIG`. -/
structure ReportDescriptor where
  bytes : List UInt8
  length_le : bytes.length ≤ 65535

/-- One element of `hidParserFrames`. -/
structure ParserFrame where
  reportId : UInt8
  reportCount : UInt32
  reportSize : UInt32

/-- The locals of the parsing loop. -/
structure ParserState where
  i : Nat
  frames : Vector ParserFrame 32
  currentFrame : Nat
  reports : ParsedReports

/-- Why parsing stops early. The last two would be undefined behaviour and an endless loop. -/
inductive ParseStop where
  | failed (status : NTSTATUS) (left : ParsedReports)
  | outOfBounds
  | outOfFuel

abbrev Parse := Except ParseStop

/-- `ReportDescriptor[i]` -/
def fetch (d : List UInt8) (i : Nat) : Parse UInt8 :=
  match d[i]? with
  | some b => .ok b
  | none => .error .outOfBounds

/-- `ULongMult` of intsafe.h -/
def uLongMult (a b : UInt32) : Option UInt32 :=
  if a.toNat * b.toNat < 2 ^ 32 then some (a * b) else none

/-- `ULongAdd` of intsafe.h -/
def uLongAdd (a b : UInt32) : Option UInt32 :=
  if a.toNat + b.toNat < 2 ^ 32 then some (a + b) else none

/-- `ULongToUChar` of intsafe.h -/
def uLongToUChar (a : UInt32) : Option UInt8 :=
  if a.toNat ≤ 255 then some a.toUInt8 else none

/-- The value intsafe.h stores through the result pointer when it reports an overflow. -/
def uLongError : UInt32 := 0xffffffff

/-- What the code knows of an item once its prefix is read; `next` is the new value of `i`. -/
structure ItemHeader where
  tag : UInt8
  type : UInt8
  size : Nat
  next : Nat

def readItemHeader (d : List UInt8) (st : ParserState) : Parse ItemHeader := do
  let header ← fetch d st.i
  let tag := (header >>> 4) &&& 0x0F
  let type := (header >>> 2) &&& 0x03
  let size := header &&& 0x03
  if tag = 0xF then
    -- Long items: the prefix is followed by the data size and the long item tag
    if st.i + 1 + 2 > d.length then
      .error (.failed statusInvalidParameter st.reports)
    else
      let size ← fetch d (st.i + 1)
      let tag ← fetch d (st.i + 2)
      pure ⟨tag, type, size.toNat, st.i + 3⟩
  else
    pure ⟨tag, type, if size = 3 then 4 else size.toNat, st.i + 1⟩

/-- The `switch (size)`: `none` where the item is skipped. -/
def readItemData (d : List UInt8) (i size : Nat) : Parse (Option UInt32) :=
  match size with
  | 0 => pure (some 0)
  | 1 => do
    let b0 ← fetch d i
    pure (some b0.toUInt32)
  | 2 => do
    let b0 ← fetch d i
    let b1 ← fetch d (i + 1)
    pure (some (b0.toUInt32 ||| (b1.toUInt32 <<< 8)))
  | 4 => do
    let b0 ← fetch d i
    let b1 ← fetch d (i + 1)
    let b2 ← fetch d (i + 2)
    let b3 ← fetch d (i + 3)
    pure (some (b0.toUInt32 ||| (b1.toUInt32 <<< 8) ||| (b2.toUInt32 <<< 16) |||
      (b3.toUInt32 <<< 24)))
  | _ => pure none

/-- `hidParserFrames[currentFrame]` -/
def ParserState.frame (st : ParserState) : Parse ParserFrame :=
  match st.frames[st.currentFrame]? with
  | some f => .ok f
  | none => .error .outOfBounds

def ParserState.setFrame (st : ParserState) (f : ParserFrame) : ParserState :=
  { st with frames := st.frames.setIfInBounds st.currentFrame f }

def globalItem (st : ParserState) (tag : UInt8) (data : UInt32) : Parse ParserState :=
  if tag = 0x7 then do
    let f ← st.frame
    pure (st.setFrame { f with reportSize := data })
  else if tag = 0x8 then do
    let f ← st.frame
    match uLongToUChar data with
    | none => .error (.failed statusInvalidParameter st.reports)
    | some id =>
      let st := st.setFrame { f with reportId := id }
      pure { st with reports := { st.reports with numberedReports := true } }
  else if tag = 0x9 then do
    let f ← st.frame
    pure (st.setFrame { f with reportCount := data })
  else if tag = 0xA then
    -- Push state frame
    if st.currentFrame + 1 ≥ 32 then
      .error (.failed statusNotImplemented st.reports)
    else do
      let f ← st.frame
      pure { st with
        frames := st.frames.setIfInBounds (st.currentFrame + 1) f
        currentFrame := st.currentFrame + 1 }
  else if tag = 0xB then
    -- Pop state frame
    if st.currentFrame = 0 then
      .error (.failed statusInvalidParameter st.reports)
    else
      pure { st with currentFrame := st.currentFrame - 1 }
  else
    pure st

/-- The accumulator a Main item adds to, by its tag. -/
def mainItemKind (tag : UInt8) : Option ReportKind :=
  if tag = 0x8 then some .input
  else if tag = 0x9 then some .output
  else if tag = 0xB then some .feature
  else none

def mainItem (st : ParserState) (tag : UInt8) : Parse ParserState := do
  let f ← st.frame
  match uLongMult f.reportSize f.reportCount with
  | none => .error (.failed statusIntegerOverflow st.reports)
  | some bits =>
    match mainItemKind tag with
    | none => pure st
    | some kind =>
      match uLongAdd ((st.reports.reportSizes f.reportId).get kind) bits with
      | none =>
        .error (.failed statusIntegerOverflow (st.reports.setSize f.reportId kind uLongError))
      | some total => pure { st with reports := st.reports.setSize f.reportId kind total }

/-- One iteration of the `while` loop. -/
def parseItem (d : List UInt8) (st : ParserState) : Parse ParserState := do
  let h ← readItemHeader d st
  if h.next + h.size > d.length then
    .error (.failed statusInvalidParameter st.reports)
  else
    let data ← readItemData d h.next h.size
    let st := { st with i := h.next + h.size }
    match data with
    | none => pure st
    | some data =>
      if h.type = 0x01 then globalItem st h.tag data
      else if h.type = 0x00 then mainItem st h.tag
      else pure st

/-- The `while` loop, with at most `fuel` iterations. -/
def parseLoop (d : List UInt8) : Nat → ParserState → Parse ParserState
  | 0, st => if st.i < d.length then .error .outOfFuel else pure st
  | fuel + 1, st => if st.i < d.length then parseItem d st >>= parseLoop d fuel else pure st

def postProcessReportSize (size : UInt32) (numberedReports : Bool) : UInt32 :=
  let hidReportSizeBytes := size / 8
  -- Round up to the next byte boundary
  let hidReportSizeBytes := if size % 8 ≠ 0 then hidReportSizeBytes + 1 else hidReportSizeBytes
  -- Add a byte for the report ID prefix
  if numberedReports then hidReportSizeBytes + 1 else hidReportSizeBytes

/-- The body of the `for` loop over `ReportSizes`, for one of the three sizes. -/
def finalReportSize (numberedReports : Bool) (size : UInt32) : UInt32 :=
  if size ≠ 0 then postProcessReportSize size numberedReports else size

def ParsedReports.postProcess (r : ParsedReports) : ParsedReports :=
  { r with reportSizes := fun id =>
      let e := r.reportSizes id
      ⟨finalReportSize r.numberedReports e.inputReportSize,
        finalReportSize r.numberedReports e.outputReportSize,
        finalReportSize r.numberedReports e.featureReportSize⟩ }

theorem ParsedReports.get_postProcess (r : ParsedReports) (id : UInt8) (k : ReportKind) :
    (r.postProcess.reportSizes id).get k =
      finalReportSize r.numberedReports ((r.reportSizes id).get k) := by
  cases k <;> rfl

/-- The reinitialised parser state and parsed data. -/
def ParserState.initial : ParserState where
  i := 0
  frames := Vector.replicate 32 ⟨0, 0, 0⟩
  currentFrame := 0
  reports := ⟨fun _ => ⟨0, 0, 0⟩, false⟩

/-- An iteration consumes at least one byte, so the length of the descriptor is fuel enough. -/
def parseReportDescriptor (d : ReportDescriptor) : Parse ParsedReports := do
  let st ← parseLoop d.bytes d.bytes.length .initial
  pure st.reports.postProcess

end WinUHid
