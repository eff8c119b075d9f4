import WinUHid.DriverOperations

namespace WinUHid

/-- The checks of the COMPLETE_WRITE_EVENT handler; the input buffer is retrieved unless it is
too short. -/
def checkWriteEvent (ctx : FileContext) (input : InputBuffer) :
    Except NTSTATUS WriteEventComplete :=
  if !ctx.vhfHandle then .error statusInvalidDeviceState
  else if input.length < sizeofWriteEventComplete then .error statusBufferTooSmall
  else .ok input.writeEventComplete

/-- `FIELD_OFFSET(WINUHID_READ_EVENT_COMPLETE, Data) + DataLength` as a `ULONG`. -/
def readEventCompleteLength (dataLength : UInt32) : UInt32 :=
  UInt32.ofNat readDataOffset + dataLength

/-- The checks of the COMPLETE_READ_EVENT handler. -/
def checkReadEvent (ctx : FileContext) (input : InputBuffer) : Except NTSTATUS ReadEventComplete :=
  if !ctx.vhfHandle then .error statusInvalidDeviceState
  else if input.length < sizeofReadEventComplete then .error statusBufferTooSmall
  else if input.length < (readEventCompleteLength input.readEventComplete.dataLength).toNat then
    .error statusBufferTooSmall
  else .ok input.readEventComplete

def FileContext.takeOutstanding (ctx : FileContext) (id : RequestId) :
    Option (Operation × FileContext) :=
  (takeOutstandingRequestById ctx.outstandingRequests id).map fun found =>
    (found.1, { ctx with outstandingRequests := found.2 })

/-- `WdfRequestComplete` with an error. -/
def requestFailed (request : IoRequest) (status : NTSTATUS) : List Effect :=
  [.requestComplete request status 0 none]

/-- Complete and delete an operation, then complete the request with what VHF returned. -/
def completeOperation (fw : Framework) (request : IoRequest) (op : Operation) (status : NTSTATUS) :
    List Effect :=
  [.asyncOperationComplete op.handle status, .objectDelete op.object,
    .requestComplete request fw.asyncOperationComplete 0 none]

/-- The ways the COMPLETE_READ_EVENT handler goes on with the operation it has taken. -/
inductive ReadCompletion where
  | submitReport (packet : HidXferPacket)
  | readyForNextReadReport
  | acknowledge
  | fail (status : NTSTATUS)
  | fill (status : NTSTATUS) (dataLength : UInt32)

/-- The packet for `VhfReadReportSubmit`, which points into the input buffer. -/
def InputBuffer.readReport (input : InputBuffer) (numberedReports : Bool) (dataLength : UInt32) :
    HidXferPacket where
  reportBuffer := fun k => input.read (readDataOffset + k)
  reportBufferLen := dataLength
  reportId := if numberedReports then input.read readDataOffset else 0

def readCompletion (numberedReports : Bool) (input : InputBuffer)
    (readComplete : ReadEventComplete) : ReadCompletion :=
  if readComplete.requestId = 0 then
    if ntSuccess readComplete.status && readComplete.dataLength != 0 then
      .submitReport (input.readReport numberedReports readComplete.dataLength)
    else if !ntSuccess readComplete.status then .readyForNextReadReport
    else .acknowledge
  else if !ntSuccess readComplete.status then .fail readComplete.status
  else .fill readComplete.status readComplete.dataLength

theorem readCompletion_eq_readyForNextReadReport {numberedReports : Bool} {input : InputBuffer}
    {c : ReadEventComplete} : readCompletion numberedReports input c = .readyForNextReadReport ↔
      c.requestId = 0 ∧ ntSuccess c.status = false := by
  unfold readCompletion
  split
  next hz =>
    split
    next hs => simp_all
    next => split <;> simp_all
  next hz => split <;> simp [hz]

theorem readCompletion_of_failed {numberedReports : Bool} {input : InputBuffer}
    {c : ReadEventComplete} (hid : c.requestId ≠ 0) (hs : ntSuccess c.status = false) :
    readCompletion numberedReports input c = .fail c.status := by
  simp [readCompletion, hid, hs]

theorem readCompletion_of_success {numberedReports : Bool} {input : InputBuffer}
    {c : ReadEventComplete} (hid : c.requestId ≠ 0) (hs : ntSuccess c.status) :
    readCompletion numberedReports input c = .fill c.status c.dataLength := by
  simp [readCompletion, hid, hs]

def ReadCompletion.isReadyForNextReadReport : ReadCompletion → Bool
  | .readyForNextReadReport => true
  | _ => false

theorem ReadCompletion.isReadyForNextReadReport_iff {completion : ReadCompletion} :
    completion.isReadyForNextReadReport = true ↔ completion = .readyForNextReadReport := by
  cases completion <;> simp [isReadyForNextReadReport]

/-- `RtlCopyMemory` of `min(DataLength, reportBufferLen)` bytes, and `RtlZeroMemory` for the part
of the report that is not populated. -/
def fillReport (op : Operation) (dataLength : UInt32) : List Effect :=
  [.copyReport op readDataOffset
      (min dataLength.toNat op.hidTransferPacket.reportBufferLen.toNat)] ++
    if dataLength < op.hidTransferPacket.reportBufferLen then
      [.zeroReport op dataLength.toNat
        (op.hidTransferPacket.reportBufferLen - dataLength).toNat]
    else []

/-- Every read of the range that `VhfReadReportSubmit` is given. -/
def submitReads (numberedReports : Bool) (packet : HidXferPacket) : List Effect :=
  (if numberedReports then [.inputRead readDataOffset 1] else []) ++
    [.inputRead readDataOffset packet.reportBufferLen.toNat]

/-- The pseudo-operation is deleted and the request completed, after the branch for it. -/
def finishPseudoOperation (request : IoRequest) (object : ObjectId) (status : NTSTATUS) :
    List Effect :=
  [.objectDelete object, .requestComplete request status 0 none]

def ReadCompletion.effects (fw : Framework) (numberedReports : Bool) (request : IoRequest)
    (op : Operation) : ReadCompletion → List Effect
  | .submitReport packet =>
    submitReads numberedReports packet ++
      [.readReportSubmit packet fw.readReportSubmit (some op.object)] ++
      finishPseudoOperation request op.object fw.readReportSubmit
  | .readyForNextReadReport => finishPseudoOperation request op.object statusSuccess
  | .acknowledge =>
    [.acknowledged op.object] ++ finishPseudoOperation request op.object statusSuccess
  | .fail status => completeOperation fw request op status
  | .fill status dataLength => fillReport op dataLength ++ completeOperation fw request op status

/-- What a completion IOCTL does from a point on to its end: the effects, the context it leaves,
the operation it takes, and whether it calls `WinUHidEvtVhfReadyForNextReadReport` for another
pseudo-operation before these effects. -/
structure CompletionRun where
  effects : List Effect
  ctx : FileContext
  taken : Option Operation
  readyForNextReadReport : Bool

def CompletionRun.rejected (ctx : FileContext) (request : IoRequest) (status : NTSTATUS) :
    CompletionRun :=
  ⟨requestFailed request status, ctx, none, false⟩

def takeWriteEvent (fw : Framework) (ctx : FileContext) (request : IoRequest)
    (writeComplete : WriteEventComplete) : CompletionRun :=
  match ctx.takeOutstanding writeComplete.requestId with
  | none => .rejected ctx request statusNotFound
  | some (op, left) =>
    ⟨completeOperation fw request op writeComplete.status, left, some op, false⟩

/-- IOCTL_WINUHID_COMPLETE_WRITE_EVENT -/
def completeWriteEvent (fw : Framework) (ctx : FileContext) (request : IoRequest)
    (input : InputBuffer) : CompletionRun :=
  match checkWriteEvent ctx input with
  | .error status => .rejected ctx request status
  | .ok writeComplete => takeWriteEvent fw ctx request writeComplete

def takeReadEvent (fw : Framework) (ctx : FileContext) (request : IoRequest) (input : InputBuffer)
    (readComplete : ReadEventComplete) : CompletionRun :=
  match ctx.takeOutstanding readComplete.requestId with
  | none => .rejected ctx request statusNotFound
  | some (op, left) =>
    let completion := readCompletion ctx.reports.numberedReports input readComplete
    ⟨completion.effects fw ctx.reports.numberedReports request op, left, some op,
      completion.isReadyForNextReadReport⟩

/-- The fixed part of the input buffer is read as soon as the buffer is known to hold it. -/
def headerReads (ctx : FileContext) (input : InputBuffer) : List Effect :=
  if ctx.vhfHandle && sizeofReadEventComplete ≤ input.length then [.inputRead 0 readDataOffset]
  else []

/-- IOCTL_WINUHID_COMPLETE_READ_EVENT -/
def completeReadEvent (fw : Framework) (ctx : FileContext) (request : IoRequest)
    (input : InputBuffer) : CompletionRun :=
  let run := match checkReadEvent ctx input with
    | .error status => CompletionRun.rejected ctx request status
    | .ok readComplete => takeReadEvent fw ctx request input readComplete
  { run with effects := headerReads ctx input ++ run.effects }

theorem checkWriteEvent_eq_ok {ctx : FileContext} {input : InputBuffer} {c : WriteEventComplete} :
    checkWriteEvent ctx input = .ok c ↔
      ctx.vhfHandle ∧ sizeofWriteEventComplete ≤ input.length ∧ c = input.writeEventComplete := by
  unfold checkWriteEvent
  split
  next h => simp [show ctx.vhfHandle = false by simpa using h]
  next h =>
    have hv : ctx.vhfHandle := by simpa using h
    split
    next hl => simp [Nat.not_le.mpr hl]
    next hl => simp [hv, Nat.not_lt.mp hl, eq_comm]

theorem readEventCompleteLength_toNat (n : UInt32) :
    (readEventCompleteLength n).toNat = (readDataOffset + n.toNat) % 2 ^ 32 := by
  rw [readEventCompleteLength, UInt32.toNat_add]
  rfl

/-- The 32-bit sum of the size check only misses the lengths that wrap it. -/
theorem readEventCompleteLength_of_lt {n : UInt32} (h : n.toNat < 2 ^ 32 - readDataOffset) :
    (readEventCompleteLength n).toNat = readDataOffset + n.toNat := by
  have hn : readDataOffset + n.toNat < 2 ^ 32 := by omega
  rw [readEventCompleteLength_toNat, Nat.mod_eq_of_lt hn]

theorem readEventCompleteLength_of_ge {n : UInt32} (h : 2 ^ 32 - readDataOffset ≤ n.toNat) :
    (readEventCompleteLength n).toNat < readDataOffset := by
  have hn := n.toNat_lt
  rw [readEventCompleteLength_toNat]
  simp only [readDataOffset] at h ⊢
  omega

theorem checkReadEvent_eq_ok {ctx : FileContext} {input : InputBuffer} {c : ReadEventComplete} :
    checkReadEvent ctx input = .ok c ↔
      ctx.vhfHandle ∧ sizeofReadEventComplete ≤ input.length ∧
        (readEventCompleteLength input.readEventComplete.dataLength).toNat ≤ input.length ∧
          c = input.readEventComplete := by
  unfold checkReadEvent
  split
  next h => simp [show ctx.vhfHandle = false by simpa using h]
  next h =>
    have hv : ctx.vhfHandle := by simpa using h
    split
    next hl => simp [Nat.not_le.mpr hl]
    next hl =>
      split
      next hd => simp [Nat.not_le.mpr hd]
      next hd => simp [hv, Nat.not_lt.mp hl, Nat.not_lt.mp hd, eq_comm]

/-- The operation that an id names: the first one in `OutstandingRequests`. -/
def FileContext.outstandingOperation (ctx : FileContext) (id : RequestId) : Option Operation :=
  ctx.outstandingRequests.find? fun op => op.requestId == id

theorem FileContext.takeOutstanding_cases (ctx : FileContext) (id : RequestId) :
    (ctx.outstandingOperation id = none ∧ ctx.takeOutstanding id = none) ∨
    ∃ op before after, ctx.outstandingRequests = before ++ op :: after ∧ op.requestId = id ∧
      ctx.outstandingOperation id = some op ∧
      ctx.takeOutstanding id = some (op, { ctx with outstandingRequests := before ++ after }) := by
  cases ht : takeOutstandingRequestById ctx.outstandingRequests id with
  | none =>
    refine .inl ⟨?_, by rw [takeOutstanding, ht]; rfl⟩
    have hall := takeOutstandingRequestById_eq_none.mp ht
    simpa [outstandingOperation] using hall
  | some found =>
    obtain ⟨op, left⟩ := found
    obtain ⟨before, after, ho, rfl, hid, hb⟩ := takeOutstandingRequestById_eq_some.mp ht
    refine .inr ⟨op, before, after, ho, hid, ?_, by rw [takeOutstanding, ht]; rfl⟩
    rw [outstandingOperation, ho, List.find?_append]
    have hnone : before.find? (fun o => o.requestId == id) = none := by simpa using hb
    simp [hnone, hid]

theorem takeWriteEvent_cases (fw : Framework) (ctx : FileContext) (request : IoRequest)
    (c : WriteEventComplete) :
    (ctx.outstandingOperation c.requestId = none ∧
      takeWriteEvent fw ctx request c = .rejected ctx request statusNotFound) ∨
    ∃ op before after, ctx.outstandingRequests = before ++ op :: after ∧
      op.requestId = c.requestId ∧ ctx.outstandingOperation c.requestId = some op ∧
      takeWriteEvent fw ctx request c =
        ⟨completeOperation fw request op c.status,
          { ctx with outstandingRequests := before ++ after }, some op, false⟩ := by
  rcases ctx.takeOutstanding_cases c.requestId with
    ⟨hf, ht⟩ | ⟨op, before, after, ho, hid, hf, ht⟩
  · exact .inl ⟨hf, by rw [takeWriteEvent, ht]⟩
  · exact .inr ⟨op, before, after, ho, hid, hf, by rw [takeWriteEvent, ht]⟩

theorem takeReadEvent_cases (fw : Framework) (ctx : FileContext) (request : IoRequest)
    (input : InputBuffer) (c : ReadEventComplete) :
    (ctx.outstandingOperation c.requestId = none ∧
      takeReadEvent fw ctx request input c = .rejected ctx request statusNotFound) ∨
    ∃ op before after, ctx.outstandingRequests = before ++ op :: after ∧
      op.requestId = c.requestId ∧ ctx.outstandingOperation c.requestId = some op ∧
      takeReadEvent fw ctx request input c =
        ⟨(readCompletion ctx.reports.numberedReports input c).effects fw
            ctx.reports.numberedReports request op,
          { ctx with outstandingRequests := before ++ after }, some op,
          (readCompletion ctx.reports.numberedReports input c).isReadyForNextReadReport⟩ := by
  rcases ctx.takeOutstanding_cases c.requestId with
    ⟨hf, ht⟩ | ⟨op, before, after, ho, hid, hf, ht⟩
  · exact .inl ⟨hf, by rw [takeReadEvent, ht]⟩
  · exact .inr ⟨op, before, after, ho, hid, hf, by rw [takeReadEvent, ht]⟩

theorem completeWriteEvent_cases (fw : Framework) (ctx : FileContext) (request : IoRequest)
    (input : InputBuffer) :
    (∃ status, (ctx.vhfHandle → sizeofWriteEventComplete ≤ input.length →
        ctx.outstandingOperation input.writeEventComplete.requestId = none) ∧
      completeWriteEvent fw ctx request input = .rejected ctx request status) ∨
    ∃ op before after, ctx.vhfHandle ∧ sizeofWriteEventComplete ≤ input.length ∧
      ctx.outstandingRequests = before ++ op :: after ∧
      op.requestId = input.writeEventComplete.requestId ∧
      ctx.outstandingOperation input.writeEventComplete.requestId = some op ∧
      completeWriteEvent fw ctx request input =
        ⟨completeOperation fw request op input.writeEventComplete.status,
          { ctx with outstandingRequests := before ++ after }, some op, false⟩ := by
  cases hc : checkWriteEvent ctx input with
  | error status =>
    refine .inl ⟨status, fun hv hl => ?_, by simp only [completeWriteEvent, hc]⟩
    cases hc.symm.trans (checkWriteEvent_eq_ok.mpr ⟨hv, hl, rfl⟩)
  | ok c =>
    obtain ⟨hv, hl, rfl⟩ := checkWriteEvent_eq_ok.mp hc
    rcases takeWriteEvent_cases fw ctx request input.writeEventComplete with
      ⟨hf, ht⟩ | ⟨op, before, after, ho, hid, hf, ht⟩
    · exact .inl ⟨statusNotFound, fun _ _ => hf, by simp only [completeWriteEvent, hc, ht]⟩
    · exact .inr ⟨op, before, after, hv, hl, ho, hid, hf, by simp only [completeWriteEvent, hc, ht]⟩

theorem completeReadEvent_cases (fw : Framework) (ctx : FileContext) (request : IoRequest)
    (input : InputBuffer) :
    (∃ status, (ctx.vhfHandle → sizeofReadEventComplete ≤ input.length →
        (readEventCompleteLength input.readEventComplete.dataLength).toNat ≤ input.length →
        ctx.outstandingOperation input.readEventComplete.requestId = none) ∧
      completeReadEvent fw ctx request input =
        ⟨headerReads ctx input ++ requestFailed request status, ctx, none, false⟩) ∨
    ∃ op before after, ctx.vhfHandle ∧ sizeofReadEventComplete ≤ input.length ∧
      (readEventCompleteLength input.readEventComplete.dataLength).toNat ≤ input.length ∧
      ctx.outstandingRequests = before ++ op :: after ∧
      op.requestId = input.readEventComplete.requestId ∧
      ctx.outstandingOperation input.readEventComplete.requestId = some op ∧
      completeReadEvent fw ctx request input =
        ⟨.inputRead 0 readDataOffset ::
            (readCompletion ctx.reports.numberedReports input input.readEventComplete).effects fw
              ctx.reports.numberedReports request op,
          { ctx with outstandingRequests := before ++ after }, some op,
          (readCompletion ctx.reports.numberedReports input
            input.readEventComplete).isReadyForNextReadReport⟩ := by
  cases hc : checkReadEvent ctx input with
  | error status =>
    refine .inl ⟨status, fun hv hl hd => ?_,
      by simp only [completeReadEvent, hc, CompletionRun.rejected]⟩
    cases hc.symm.trans (checkReadEvent_eq_ok.mpr ⟨hv, hl, hd, rfl⟩)
  | ok c =>
    obtain ⟨hv, hl, hd, rfl⟩ := checkReadEvent_eq_ok.mp hc
    rcases takeReadEvent_cases fw ctx request input input.readEventComplete with
      ⟨hf, ht⟩ | ⟨op, before, after, ho, hid, hf, ht⟩
    · exact .inl ⟨statusNotFound, fun _ _ _ => hf,
        by simp only [completeReadEvent, hc, ht, CompletionRun.rejected]⟩
    · refine .inr ⟨op, before, after, hv, hl, hd, ho, hid, hf, ?_⟩
      simp only [completeReadEvent, hc, ht, headerReads, hv, hl, Bool.true_and, decide_true,
        if_true, List.singleton_append]

/-- `WinUHidEvtIoWrite`: the whole buffer is submitted as an input report. -/
def evtIoWrite (fw : Framework) (ctx : FileContext) (request : IoRequest) (input : InputBuffer) :
    List Effect :=
  if !ctx.vhfHandle then requestFailed request statusInvalidDeviceState
  else if input.length < 1 then requestFailed request statusBufferTooSmall
  else if 0xFFFFFFFF < input.length then requestFailed request statusInvalidParameter
  else
    let packet : HidXferPacket :=
      { reportBuffer := input.read
        reportBufferLen := UInt32.ofNat input.length
        reportId := if ctx.reports.numberedReports then input.read 0 else 0 }
    [.readReportSubmit packet fw.readReportSubmit none,
      .requestComplete request fw.readReportSubmit
        (if ntSuccess fw.readReportSubmit then input.length else 0) none]

end WinUHid
