import WinUHid.CompleteReadEvent

namespace WinUHid

/-- An event that `EventThreadProc` keeps in `PendingReadReportEvent`. -/
structure PendingEvent where
  event : Event
  isReadReport : event.type = .readReport
  noLength : event.dataLength = 0

/-- What `WinUHidSubmitInputReport` uses of the `WINUHID_DEVICE`. The event is `none` on a device
that is not throttled, and else whether it is set. -/
structure SubmitDevice where
  readReportReadyEvent : Option Bool
  pendingReadReportEvent : Option PendingEvent

/-- The calls into Windows on the way, and whether the I/O manager passes the request on to the
driver. -/
structure SubmitCalls extends SdkCalls where
  requestIssued : Bool := true

/-- A call of `WinUHidSubmitInputReport`: what it returns, and what it does to the driver and to
the device. -/
structure SubmitRun where
  result : Bool
  effects : List Effect
  ctx : FileContext
  device : SubmitDevice

/-- The status that a request was completed with. -/
def requestStatus (effects : List Effect) : Option NTSTATUS :=
  effects.findSome? fun
    | .requestComplete _ status _ _ => some status
    | _ => none

section

variable (calls : SubmitCalls) (garbage : UInt8) (beyond : Nat → UInt8) (fw : Framework)
  (ctx : FileContext) (request : IoRequest)

/-- `WriteFile`, up to the result of the request. -/
def writeFile (device : SubmitDevice) (report : Nat → UInt8) (reportSize : UInt32) : SubmitRun :=
  if calls.requestIssued then
    let effects := evtIoWrite fw ctx request ⟨(List.range reportSize.toNat).map report, beyond⟩
    ⟨(requestStatus effects).any ntSuccess, effects, ctx, device⟩
  else ⟨false, [], ctx, device⟩

/-- `WinUHidCompleteReadEvent`, which returns nothing. -/
def completePending (event : Event) (report : Nat → UInt8) (reportSize : UInt32) : CompletionRun :=
  if calls.requestIssued then
    answerReadEvent calls.toSdkCalls garbage beyond fw ctx request event (some report) reportSize
  else ⟨[], ctx, none, false⟩

/-- `WinUHidSubmitInputReport` -/
def winUHidSubmitInputReport (device : SubmitDevice) (report : Nat → UInt8) (reportSize : UInt32) :
    SubmitRun :=
  if reportSize = 0 then ⟨false, [], ctx, device⟩
  else
    match device.readReportReadyEvent with
    | some true =>
      -- the wait has reset the event, and the exchange leaves no pending event
      match device.pendingReadReportEvent with
      | some pending =>
        let run := completePending calls garbage beyond fw ctx request pending.event report
          reportSize
        ⟨true, run.effects, run.ctx, ⟨some false, none⟩⟩
      | none => ⟨false, [], ctx, ⟨some false, none⟩⟩
    | some false => ⟨false, [], ctx, device⟩
    | none =>
      if calls.createEvent then
        writeFile calls beyond fw ctx request device report reportSize
      else ⟨false, [], ctx, device⟩

end

/-- The reports passed to `VhfReadReportSubmit`, with what it returned. -/
def submitted (effects : List Effect) : List (HidXferPacket × NTSTATUS) :=
  effects.filterMap fun
    | .readReportSubmit packet status _ => some (packet, status)
    | _ => none

/-- VHF was given these bytes, once, and took them. -/
def Accepted (numberedReports : Bool) (report : List UInt8) (effects : List Effect) : Prop :=
  ∃ packet status, submitted effects = [(packet, status)] ∧ ntSuccess status ∧
    packet.report = report ∧ packet.reportId = if numberedReports then report.headD 0 else 0

def Rejected (effects : List Effect) : Prop :=
  ∃ submission ∈ submitted effects, ntSuccess submission.2 = false

/-- `TRUE` stands for a report that VHF took, and a report that VHF rejects gives `FALSE`. -/
structure SubmitRun.Truthful (run : SubmitRun) (numberedReports : Bool) (report : List UInt8) :
    Prop where
  accepted : run.result = true → Accepted numberedReports report run.effects
  rejected : Rejected run.effects → run.result = false

/-- The answer to an event of the throttling period gets as far as VHF. -/
structure AnswerReaches (calls : SubmitCalls) (ctx : FileContext) (event : Event)
    (reportSize : UInt32) : Prop where
  allocated : calls.heapAlloc = true
  created : calls.createEvent = true
  issued : calls.requestIssued = true
  vhfHandle : ctx.vhfHandle = true
  pseudo : event.requestId = 0
  outstanding : (ctx.outstandingOperation 0).isSome
  short : reportSize.toNat < 2 ^ 32 - readDataOffset

/-- One report is submitted if the condition is met, and otherwise none. -/
structure Submits (condition : Prop) (status : NTSTATUS) (numberedReports : Bool)
    (report : List UInt8) (effects : List Effect) : Prop where
  once : condition → ∃ packet, submitted effects = [(packet, status)] ∧ packet.report = report ∧
    packet.reportId = if numberedReports then report.headD 0 else 0
  nothing : ¬ condition → submitted effects = []

theorem submitted_append (a b : List Effect) : submitted (a ++ b) = submitted a ++ submitted b :=
  List.filterMap_append

theorem submitted_headerReads (ctx : FileContext) (input : InputBuffer) :
    submitted (headerReads ctx input) = [] := by
  unfold headerReads
  split <;> rfl

/-- Of the ways a completion goes on, one submits a report. -/
theorem submitted_readCompletion (fw : Framework) (numberedReports : Bool) (request : IoRequest)
    (op : Operation) (completion : ReadCompletion) :
    submitted (completion.effects fw numberedReports request op) =
      match completion with
      | .submitReport packet => [(packet, fw.readReportSubmit)]
      | _ => [] := by
  cases completion with
  | submitReport packet => cases numberedReports <;> rfl
  | readyForNextReadReport => rfl
  | acknowledge => rfl
  | fail status => rfl
  | fill status dataLength =>
    simp only [ReadCompletion.effects, fillReport]
    split <;> rfl

/-- It does so for a pseudo-operation that is answered with data. -/
theorem submitted_of_taken (fw : Framework) (numberedReports : Bool) (request : IoRequest)
    (op : Operation) (input : InputBuffer) (c : ReadEventComplete) :
    submitted ((readCompletion numberedReports input c).effects fw numberedReports request op) =
      if c.requestId = 0 ∧ ntSuccess c.status ∧ c.dataLength ≠ 0 then
        [(input.readReport numberedReports c.dataLength, fw.readReportSubmit)]
      else [] := by
  rw [submitted_readCompletion]
  unfold readCompletion
  by_cases pseudo : c.requestId = 0
  · cases success : ntSuccess c.status with
    | false => simp [pseudo]
    | true => by_cases empty : c.dataLength = 0 <;> simp [pseudo, empty]
  · cases success : ntSuccess c.status with
    | false => simp [pseudo]
    | true => simp [pseudo]

section

variable {calls : SubmitCalls} {garbage : UInt8} {beyond : Nat → UInt8} {fw : Framework}
  {ctx : FileContext} {request : IoRequest} {event : Event} {report : Nat → UInt8}
  {reportSize : UInt32}

theorem answerRecord_of_noLength (h : event.dataLength = 0) (allocated : calls.heapAlloc = true) :
    answerRecord calls.toSdkCalls event (some report) reportSize =
      ⟨event.requestId, statusSuccess, reportSize⟩ := by
  simp [answerRecord, allocated, truncatedLength, h]

theorem answerData_of_noLength (h : event.dataLength = 0) (allocated : calls.heapAlloc = true) :
    answerData calls.toSdkCalls garbage event (some report) reportSize =
      (List.range reportSize.toNat).map report := by
  simp [answerData, allocated, truncatedLength, h]

/-- What is sent is the record with all its data, or does not hold a header. -/
theorem answerReadEvent_sends (h : event.dataLength = 0) (created : calls.createEvent = true) :
    (∃ sent : List UInt8, sent.length < sizeofReadEventComplete ∧
      ¬ reportSize.toNat < 2 ^ 32 - readDataOffset ∧
      answerReadEvent calls.toSdkCalls garbage beyond fw ctx request event (some report)
        reportSize = completeReadEvent fw ctx request ⟨sent, beyond⟩) ∨
    (calls.heapAlloc = true → reportSize.toNat < 2 ^ 32 - readDataOffset) ∧
      answerReadEvent calls.toSdkCalls garbage beyond fw ctx request event (some report)
        reportSize = completeReadEvent fw ctx request
          (answerInput calls.toSdkCalls garbage beyond event (some report) reportSize) := by
  by_cases short : reportSize.toNat < 2 ^ 32 - readDataOffset
  · refine .inr ⟨fun _ => short, ?_⟩
    rw [answerReadEvent, winUHidCompleteReadEvent_eq short, created]
    rfl
  · cases allocated : calls.heapAlloc with
    | false =>
      refine .inr ⟨Bool.noConfusion, ?_⟩
      simp [answerReadEvent, winUHidCompleteReadEvent, answerInput, answerRecord, answerData,
        created, allocated]
    | true =>
      have wraps := readEventCompleteLength_of_ge (Nat.not_lt.mp short)
      refine .inl ⟨((readEventCompleteBytes ⟨event.requestId, statusSuccess, reportSize⟩
        ((List.range reportSize.toNat).map report)).take
          (readEventCompleteLength reportSize).toNat), ?_, short, ?_⟩
      · rw [List.length_take, sizeofReadEventComplete]
        omega
      · simp [answerReadEvent, winUHidCompleteReadEvent, created, allocated, truncatedLength, h]

theorem submits_of_nothing {effects : List Effect} (nothing : submitted effects = [])
    (hno : ¬ AnswerReaches calls ctx event reportSize) :
    Submits (AnswerReaches calls ctx event reportSize) fw.readReportSubmit
      ctx.reports.numberedReports ((List.range reportSize.toNat).map report) effects :=
  ⟨fun hr => absurd hr hno, fun _ => nothing⟩

theorem reportSize_pos (nonempty : reportSize ≠ 0) : 0 < reportSize.toNat :=
  Nat.pos_of_ne_zero fun hz => nonempty (UInt32.toNat_inj.mp hz)

theorem headD_report (nonempty : reportSize ≠ 0) :
    ((List.range reportSize.toNat).map report).headD 0 = report 0 := by
  obtain ⟨n, hn⟩ := Nat.exists_eq_succ_of_ne_zero (Nat.ne_of_gt (reportSize_pos nonempty))
  rw [hn, List.range_succ_eq_map]
  rfl

/-- The packet points at the data of the answer. -/
theorem readReport_answer (h : event.dataLength = 0) (allocated : calls.heapAlloc = true)
    (nonempty : reportSize ≠ 0) (numberedReports : Bool) :
    let packet := (answerInput calls.toSdkCalls garbage beyond event (some report)
      reportSize).readReport numberedReports reportSize
    packet.report = (List.range reportSize.toNat).map report ∧
      packet.reportId =
        if numberedReports then ((List.range reportSize.toNat).map report).headD 0 else 0 := by
  have read (i : Nat) (hi : i < reportSize.toNat) :
      (answerInput calls.toSdkCalls garbage beyond event (some report) reportSize).read
        (readDataOffset + i) = report i := by
    have data : answerData calls.toSdkCalls garbage event (some report) reportSize = _ :=
      answerData_of_noLength h allocated
    rw [answerInput, read_stored (by simpa [data] using hi)]
    simp [data]
  constructor
  · exact List.map_congr_left fun i hi => read i (List.mem_range.mp hi)
  · rw [headD_report nonempty]
    cases numberedReports with
    | false => rfl
    | true => exact read 0 (reportSize_pos nonempty)

/-- The driver's side of an answer that was sent with all its data. -/
theorem submits_completeReadEvent (h : event.dataLength = 0) (nonempty : reportSize ≠ 0)
    (created : calls.createEvent = true) (issued : calls.requestIssued = true)
    (short : calls.heapAlloc = true → reportSize.toNat < 2 ^ 32 - readDataOffset) :
    Submits (AnswerReaches calls ctx event reportSize) fw.readReportSubmit
      ctx.reports.numberedReports ((List.range reportSize.toNat).map report)
      (completeReadEvent fw ctx request (answerInput calls.toSdkCalls garbage beyond event
        (some report) reportSize)).effects := by
  have record : (answerInput calls.toSdkCalls garbage beyond event (some report)
      reportSize).readEventComplete =
        answerRecord calls.toSdkCalls event (some report) reportSize :=
    readEventComplete_stored _ _ _
  have idOf : (answerRecord calls.toSdkCalls event (some report) reportSize).requestId =
      event.requestId := answerRecord_requestId
  rcases completeReadEvent_cases fw ctx request (answerInput calls.toSdkCalls garbage beyond event
      (some report) reportSize) with
    ⟨status, missing, hr⟩ | ⟨op, before, after, handle, -, -, -, -, found, hr⟩
  · rw [hr]
    refine submits_of_nothing ?_ fun reaches => ?_
    · rw [submitted_append, submitted_headerReads]
      rfl
    · have length : (answerInput calls.toSdkCalls garbage beyond event (some report)
          reportSize).length = readDataOffset + reportSize.toNat := by
        rw [answerInput, InputBuffer.length, length_readEventCompleteBytes,
          answerData_of_noLength h reaches.allocated, List.length_map, List.length_range]
      have whole : sizeofReadEventComplete ≤ (answerInput calls.toSdkCalls garbage beyond event
          (some report) reportSize).length := by
        rw [length, sizeofReadEventComplete]
        have := reportSize_pos nonempty
        omega
      have outstanding := missing reaches.vhfHandle whole
        (by rw [record, answerRecord_of_noLength h reaches.allocated, length,
          readEventCompleteLength_of_lt reaches.short])
      rw [record, idOf, reaches.pseudo] at outstanding
      have := reaches.outstanding
      rw [outstanding] at this
      cases this
  · rw [hr, record]
    rw [record, idOf] at found
    have taken := submitted_of_taken fw ctx.reports.numberedReports request op
      (answerInput calls.toSdkCalls garbage beyond event (some report) reportSize)
      (answerRecord calls.toSdkCalls event (some report) reportSize)
    by_cases reaches : AnswerReaches calls ctx event reportSize
    · refine ⟨fun _ => ?_, fun hno => absurd reaches hno⟩
      rw [answerRecord_of_noLength h reaches.allocated] at taken ⊢
      rw [if_pos ⟨reaches.pseudo, rfl, nonempty⟩] at taken
      exact ⟨_, taken,
        readReport_answer h reaches.allocated nonempty ctx.reports.numberedReports⟩
    · refine submits_of_nothing ?_ reaches
      have refused : ¬ ((answerRecord calls.toSdkCalls event (some report)
          reportSize).requestId = 0 ∧ ntSuccess (answerRecord calls.toSdkCalls event (some report)
          reportSize).status ∧ (answerRecord calls.toSdkCalls event (some report)
          reportSize).dataLength ≠ 0) := by
        rintro ⟨pseudo, success, -⟩
        rw [idOf] at pseudo
        have allocated : calls.heapAlloc = true := by simpa [answerRecord_status] using success
        refine reaches ⟨allocated, created, issued, handle, pseudo, ?_, short allocated⟩
        rw [← pseudo, found]
        rfl
      rw [if_neg refused] at taken
      exact taken

/-- An answer to the held event submits its report, or nothing. -/
theorem submits_completePending (h : event.dataLength = 0) (nonempty : reportSize ≠ 0) :
    Submits (AnswerReaches calls ctx event reportSize) fw.readReportSubmit
      ctx.reports.numberedReports ((List.range reportSize.toNat).map report)
      (completePending calls garbage beyond fw ctx request event report reportSize).effects := by
  unfold completePending
  split
  next issued =>
    cases created : calls.createEvent with
    | false =>
      refine submits_of_nothing ?_ fun reaches => ?_
      · simp [answerReadEvent, winUHidCompleteReadEvent, created, submitted]
      · cases created.symm.trans reaches.created
    | true =>
      rcases @answerReadEvent_sends _ garbage beyond fw ctx request _ report reportSize h created
        with ⟨sent, tooShort, wraps, he⟩ | ⟨short, he⟩
      · rw [he]
        refine submits_of_nothing ?_ fun reaches => wraps reaches.short
        rcases completeReadEvent_cases fw ctx request ⟨sent, beyond⟩ with
          ⟨status, -, hr⟩ | ⟨op, before, after, -, long, -⟩
        · rw [hr, submitted_append, submitted_headerReads]
          rfl
        · exact absurd long (Nat.not_le.mpr tooShort)
      · rw [he]
        exact submits_completeReadEvent h nonempty created issued short
  next issued => exact submits_of_nothing rfl fun reaches => issued reaches.issued

/-- Nothing was sent. -/
theorem false_truthful (left : FileContext) (device : SubmitDevice) (numberedReports : Bool)
    (bytes : List UInt8) : SubmitRun.Truthful ⟨false, [], left, device⟩ numberedReports bytes :=
  ⟨nofun, fun _ => rfl⟩

/-- The status of a write is the one that VHF gives its report, if it gets that far. -/
theorem writeFile_truthful (device : SubmitDevice) (nonempty : reportSize ≠ 0) :
    (writeFile calls beyond fw ctx request device report reportSize).Truthful
      ctx.reports.numberedReports ((List.range reportSize.toNat).map report) := by
  have pos := reportSize_pos nonempty
  have lt := reportSize.toNat_lt
  unfold writeFile
  split
  next =>
    unfold evtIoWrite
    cases ctx.vhfHandle with
    | false =>
      refine ⟨fun success => Bool.noConfusion success, ?_⟩
      rintro ⟨submission, hm, -⟩
      cases hm
    | true =>
      have length : (InputBuffer.mk ((List.range reportSize.toNat).map report) beyond).length =
          reportSize.toNat := by
        simp [InputBuffer.length]
      have some : ¬ (InputBuffer.mk ((List.range reportSize.toNat).map report) beyond).length <
          1 := by
        omega
      have short : ¬ 0xFFFFFFFF <
          (InputBuffer.mk ((List.range reportSize.toNat).map report) beyond).length := by
        omega
      simp only [Bool.not_true, Bool.false_eq_true, if_false, if_neg some, if_neg short]
      refine ⟨fun success => ⟨_, _, rfl, success, ?_, ?_⟩, ?_⟩
      · simp only [HidXferPacket.report, InputBuffer.length, List.length_map, List.length_range,
          UInt32.ofNat_toNat]
        refine List.map_congr_left fun i hi => ?_
        have hi := List.mem_range.mp hi
        rw [InputBuffer.read_of_lt (by simpa using hi)]
        simp
      · rw [headD_report nonempty, InputBuffer.read_of_lt (by simpa using pos)]
        simp
      · rintro ⟨submission, hm, rejected⟩
        obtain rfl := List.mem_singleton.mp hm
        exact rejected
  next => exact false_truthful _ _ _ _

/-- The held event is answered with `TRUE` whatever becomes of the answer. -/
theorem answered_truthful_iff (pending : PendingEvent) (nonempty : reportSize ≠ 0)
    (device : SubmitDevice) (left : FileContext) :
    SubmitRun.Truthful ⟨true, (completePending calls garbage beyond fw ctx request pending.event
        report reportSize).effects, left, device⟩
        ctx.reports.numberedReports ((List.range reportSize.toNat).map report) ↔
      AnswerReaches calls ctx pending.event reportSize ∧ ntSuccess fw.readReportSubmit := by
  have submits := @submits_completePending calls garbage beyond fw ctx request _ report _
    pending.noLength nonempty
  constructor
  · intro truthful
    obtain ⟨packet, status, one, success, -⟩ := truthful.accepted rfl
    by_cases reaches : AnswerReaches calls ctx pending.event reportSize
    · obtain ⟨packet', one', -⟩ := submits.once reaches
      cases one.symm.trans one'
      exact ⟨reaches, success⟩
    · cases one.symm.trans (submits.nothing reaches)
  · rintro ⟨reaches, success⟩
    obtain ⟨packet, one, bytes, id⟩ := submits.once reaches
    refine ⟨fun _ => ⟨packet, _, one, success, bytes, id⟩, ?_⟩
    rintro ⟨submission, hm, rejected⟩
    rw [one, List.mem_singleton] at hm
    obtain rfl := hm
    cases success.symm.trans rejected

end

/-- Only a report that answers the held event of a throttled device may go wrong: its `TRUE` does
not depend on what the driver and VHF make of the answer. -/
theorem winUHidSubmitInputReport_truthful_iff (calls : SubmitCalls) (garbage : UInt8)
    (beyond : Nat → UInt8) (fw : Framework) (ctx : FileContext) (request : IoRequest)
    (device : SubmitDevice) (report : Nat → UInt8) {reportSize : UInt32}
    (nonempty : reportSize ≠ 0) :
    (winUHidSubmitInputReport calls garbage beyond fw ctx request device report
        reportSize).Truthful ctx.reports.numberedReports
          ((List.range reportSize.toNat).map report) ↔
      ∀ pending, device.readReportReadyEvent = some true →
        device.pendingReadReportEvent = some pending →
        AnswerReaches calls ctx pending.event reportSize ∧ ntSuccess fw.readReportSubmit := by
  unfold winUHidSubmitInputReport
  rw [if_neg nonempty]
  split
  next throttled =>
    split
    next pending held =>
      rw [answered_truthful_iff pending nonempty]
      constructor
      · intro h pending' _ held'
        cases held.symm.trans held'
        exact h
      · exact fun h => h pending throttled held
    next held =>
      refine iff_of_true (false_truthful _ _ _ _) fun pending _ held' => ?_
      cases held.symm.trans held'
  next notReady =>
    refine iff_of_true (false_truthful _ _ _ _) fun pending ready _ => ?_
    cases notReady.symm.trans ready
  next unthrottled =>
    refine iff_of_true ?_ fun pending ready _ => ?_
    · split
      next => exact writeFile_truthful device nonempty
      next => exact false_truthful _ _ _ _
    · cases unthrottled.symm.trans ready

theorem winUHidSubmitInputReport_unthrottled :
    (winUHidSubmitInputReport {} 0 (fun _ => 0) { readReportSubmit := statusInvalidParameter }
      ⟨⟨fun _ => ⟨8, 0, 0⟩, true⟩, 1, true, [], []⟩ 1 ⟨none, none⟩ (fun _ => 3) 2).Truthful true
        ((List.range 2).map fun _ => 3) :=
  (winUHidSubmitInputReport_truthful_iff {} 0 (fun _ => 0)
    { readReportSubmit := statusInvalidParameter } ⟨⟨fun _ => ⟨8, 0, 0⟩, true⟩, 1, true, [], []⟩ 1
    ⟨none, none⟩ (fun _ => 3) (by decide : (2 : UInt32) ≠ 0)).mpr nofun

def heldEvent : PendingEvent := ⟨⟨.readReport, 0, 0, 0⟩, rfl, rfl⟩

/-- In a reached state that has delivered the held event, VHF rejects the report and the call
returns `TRUE`. -/
theorem throttledSubmit_untruthful : ∃ p, FileReach Runs.anyStep ⟨fun _ => ⟨8, 0, 0⟩, false⟩ p ∧
    ¬ (winUHidSubmitInputReport {} 0 (fun _ => 0) { readReportSubmit := statusInvalidParameter }
      p.shared.ctx 1 ⟨some true, some heldEvent⟩ (fun _ => 3) 2).Truthful
        p.shared.ctx.reports.numberedReports ((List.range 2).map fun _ => 3) ∧
    Rejected (winUHidSubmitInputReport {} 0 (fun _ => 0)
      { readReportSubmit := statusInvalidParameter } p.shared.ctx 1 ⟨some true, some heldEvent⟩
        (fun _ => 3) 2).effects := by
  obtain ⟨p, hr, handle, outstanding⟩ := exists_fileReach ⟨fun _ => ⟨8, 0, 0⟩, false⟩
    handPseudoOperation (P := fun p => p.shared.ctx.vhfHandle = true ∧
      (p.shared.ctx.outstandingOperation 0).isSome) rfl
  have reaches : AnswerReaches {} p.shared.ctx heldEvent.event 2 :=
    ⟨rfl, rfl, rfl, handle, rfl, outstanding, by decide⟩
  obtain ⟨packet, one, -⟩ := (@submits_completePending {} 0 (fun _ => 0)
    { readReportSubmit := statusInvalidParameter } _ 1 _ (fun _ => 3) _ heldEvent.noLength
    (by decide)).once reaches
  have rejected : Rejected (winUHidSubmitInputReport {} 0 (fun _ => 0)
      { readReportSubmit := statusInvalidParameter } p.shared.ctx 1 ⟨some true, some heldEvent⟩
        (fun _ => 3) 2).effects :=
    ⟨(packet, statusInvalidParameter), one ▸ List.mem_singleton_self _, rfl⟩
  exact ⟨p, hr, fun truthful => Bool.noConfusion (truthful.rejected rejected), rejected⟩

end WinUHid
