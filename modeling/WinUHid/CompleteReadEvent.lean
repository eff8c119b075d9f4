import WinUHid.CompletionDirection
import WinUHid.RequestIds
import Mathlib.Data.Multiset.ZeroCons

namespace WinUHid

/-- What the SDK's calls into Windows return on the way to the IOCTL. -/
structure SdkCalls where
  heapAlloc : Bool := true
  createEvent : Bool := true

/-- `WINUHID_READ_EVENT_COMPLETE` with its data, packed. -/
def readEventCompleteBytes (c : ReadEventComplete) (data : List UInt8) : List UInt8 :=
  ulongBytes c.requestId ++ ulongBytes c.status ++ ulongBytes c.dataLength ++ data

/-- Additional data is truncated to the requested buffer size. -/
def truncatedLength (event : Event) (dataLength : UInt32) : UInt32 :=
  if event.dataLength ≠ 0 ∧ event.dataLength < dataLength then event.dataLength else dataLength

/-- `WinUHidCompleteReadEvent`: the input buffer of the IOCTL it sends, if it sends one. `data` is
the memory that `Data` points at, `garbage` the byte of the stack record that is never set. -/
def winUHidCompleteReadEvent (calls : SdkCalls) (garbage : UInt8) (event : Event)
    (data : Option (Nat → UInt8)) (dataLength : UInt32) : Option (List UInt8) :=
  let sent :=
    if calls.heapAlloc then
      match data with
      | some buffer =>
        let n := truncatedLength event dataLength
        (readEventCompleteBytes ⟨event.requestId, statusSuccess, n⟩
          ((List.range n.toNat).map buffer)).take (readEventCompleteLength n).toNat
      | none =>
        (readEventCompleteBytes ⟨event.requestId, statusUnsuccessful, 0⟩ []).take
          (readEventCompleteLength 0).toNat
    else readEventCompleteBytes ⟨event.requestId, statusNoMemory, 0⟩ [garbage]
  -- DeviceIoControlInSync gives up without an event to wait on
  if calls.createEvent then some sent else none

theorem length_readEventCompleteBytes (c : ReadEventComplete) (data : List UInt8) :
    (readEventCompleteBytes c data).length = readDataOffset + data.length := by
  simp only [readEventCompleteBytes, List.length_append, length_ulongBytes]
  rfl

theorem readEventComplete_stored (c : ReadEventComplete) (data : List UInt8)
    (beyond : Nat → UInt8) :
    (InputBuffer.mk (readEventCompleteBytes c data) beyond).readEventComplete = c := by
  generalize hb : InputBuffer.mk (readEventCompleteBytes c data) beyond = b
  have hbytes : b.bytes = readEventCompleteBytes c data := by rw [← hb]
  have at0 : b.bytes = [] ++ ulongBytes c.requestId ++
      (ulongBytes c.status ++ ulongBytes c.dataLength ++ data) := by
    simp [hbytes, readEventCompleteBytes]
  have at4 : b.bytes = ulongBytes c.requestId ++ ulongBytes c.status ++
      (ulongBytes c.dataLength ++ data) := by
    simp [hbytes, readEventCompleteBytes]
  have at8 : b.bytes = (ulongBytes c.requestId ++ ulongBytes c.status) ++
      ulongBytes c.dataLength ++ data := hbytes
  have h0 := InputBuffer.ulong_of_stored at0
  have h4 := InputBuffer.ulong_of_stored at4
  have h8 := InputBuffer.ulong_of_stored at8
  simp only [List.length_nil, List.length_append, length_ulongBytes] at h0 h4 h8
  rw [InputBuffer.readEventComplete, h0, h4, h8]

theorem read_stored {c : ReadEventComplete} {data : List UInt8} {beyond : Nat → UInt8} {i : Nat}
    (h : i < data.length) :
    (InputBuffer.mk (readEventCompleteBytes c data) beyond).read (readDataOffset + i) = data[i] := by
  have hlen : (ulongBytes c.requestId ++ ulongBytes c.status ++ ulongBytes c.dataLength).length =
      readDataOffset := by
    simp only [List.length_append, length_ulongBytes]
    rfl
  rw [InputBuffer.read_of_lt (by simpa [length_readEventCompleteBytes] using h)]
  simp only [readEventCompleteBytes]
  rw [List.getElem_append_right (by omega)]
  simp only [hlen, Nat.add_sub_cancel_left]

/-- The record an answer carries: the three ways the SDK fills it in. -/
def answerRecord (calls : SdkCalls) (event : Event) (data : Option (Nat → UInt8))
    (dataLength : UInt32) : ReadEventComplete :=
  if calls.heapAlloc then
    if data.isSome then ⟨event.requestId, statusSuccess, truncatedLength event dataLength⟩
    else ⟨event.requestId, statusUnsuccessful, 0⟩
  else ⟨event.requestId, statusNoMemory, 0⟩

def answerData (calls : SdkCalls) (garbage : UInt8) (event : Event) (data : Option (Nat → UInt8))
    (dataLength : UInt32) : List UInt8 :=
  if calls.heapAlloc then
    match data with
    | some buffer => (List.range (truncatedLength event dataLength).toNat).map buffer
    | none => []
  else [garbage]

theorem truncatedLength_le (event : Event) (dataLength : UInt32) :
    (truncatedLength event dataLength).toNat ≤ dataLength.toNat := by
  unfold truncatedLength
  split
  next h =>
    have hlt : event.dataLength.toNat < dataLength.toNat := h.2
    omega
  next => exact Nat.le_refl _

theorem truncatedLength_eq_zero (event : Event) (dataLength : UInt32) :
    truncatedLength event dataLength = 0 ↔ dataLength = 0 := by
  unfold truncatedLength
  split
  next h =>
    have hlt : event.dataLength.toNat < dataLength.toNat := h.2
    refine iff_of_false h.1 fun hz => ?_
    rw [hz] at hlt
    exact Nat.not_lt_zero _ hlt
  next => exact Iff.rfl

section

variable {calls : SdkCalls} {garbage : UInt8} {event : Event} {data : Option (Nat → UInt8)}
  {dataLength : UInt32}

/-- Below the lengths that wrap, the SDK sends the record and all of its data. -/
theorem winUHidCompleteReadEvent_eq (hn : dataLength.toNat < 2 ^ 32 - readDataOffset) :
    winUHidCompleteReadEvent calls garbage event data dataLength =
      if calls.createEvent then
        some (readEventCompleteBytes (answerRecord calls event data dataLength)
          (answerData calls garbage event data dataLength))
      else none := by
  have htake : ∀ (c : ReadEventComplete) (bytes : List UInt8), c.dataLength.toNat = bytes.length →
      c.dataLength.toNat < 2 ^ 32 - readDataOffset →
      (readEventCompleteBytes c bytes).take (readEventCompleteLength c.dataLength).toNat =
        readEventCompleteBytes c bytes := by
    intro c bytes hc hlt
    rw [readEventCompleteLength_of_lt hlt, hc, ← length_readEventCompleteBytes c,
      List.take_length]
  unfold winUHidCompleteReadEvent answerRecord answerData
  cases calls.heapAlloc with
  | false => rfl
  | true =>
    have hle := truncatedLength_le event dataLength
    cases data with
    | none =>
      have h := htake ⟨event.requestId, statusUnsuccessful, 0⟩ [] rfl (by simp [readDataOffset])
      simp only at h
      simp [h]
    | some buffer =>
      have h := htake ⟨event.requestId, statusSuccess, truncatedLength event dataLength⟩
        ((List.range (truncatedLength event dataLength).toNat).map buffer) (by simp)
        (by simp only; omega)
      simp only at h
      simp only [if_true, Option.isSome_some, h]

/-- The IOCTL is sent and carries a byte behind the record. -/
def SdkCalls.Deliver (calls : SdkCalls) (data : Option (Nat → UInt8)) (dataLength : UInt32) : Prop :=
  calls.createEvent ∧ (calls.heapAlloc = false ∨ (data.isSome ∧ dataLength ≠ 0))

theorem deliver_iff (garbage : UInt8) (event : Event) : calls.Deliver data dataLength ↔
    calls.createEvent ∧ 1 ≤ (answerData calls garbage event data dataLength).length := by
  refine and_congr_right fun _ => ?_
  unfold answerData
  cases calls.heapAlloc with
  | false => simp
  | true =>
    cases data with
    | none => simp
    | some buffer =>
      have hz := truncatedLength_eq_zero event dataLength
      have hpos : 1 ≤ (truncatedLength event dataLength).toNat ↔
          truncatedLength event dataLength ≠ 0 := by
        rw [Nat.one_le_iff_ne_zero, ne_eq, ne_eq, ← UInt32.toNat_inj]
        rfl
      simp [hpos, hz]

theorem answerRecord_dataLength_le :
    (answerRecord calls event data dataLength).dataLength.toNat ≤
      (answerData calls garbage event data dataLength).length := by
  unfold answerRecord answerData
  cases calls.heapAlloc <;> cases data <;> simp

theorem answerRecord_requestId :
    (answerRecord calls event data dataLength).requestId = event.requestId := by
  unfold answerRecord
  split
  · split <;> rfl
  · rfl

theorem answerRecord_status : ntSuccess (answerRecord calls event data dataLength).status =
    (data.isSome && calls.heapAlloc) := by
  unfold answerRecord
  cases calls.heapAlloc <;> cases data <;> rfl

end

/-- An answer of the SDK up to its completion in the driver. -/
def answerReadEvent (calls : SdkCalls) (garbage : UInt8) (beyond : Nat → UInt8) (fw : Framework)
    (ctx : FileContext) (request : IoRequest) (event : Event) (data : Option (Nat → UInt8))
    (dataLength : UInt32) : CompletionRun :=
  match winUHidCompleteReadEvent calls garbage event data dataLength with
  | none => ⟨[], ctx, none, false⟩
  | some sent => completeReadEvent fw ctx request ⟨sent, beyond⟩

section

variable (calls : SdkCalls) (garbage : UInt8) (beyond : Nat → UInt8) (fw : Framework)
  (ctx : FileContext) (request : IoRequest) (event : Event) (data : Option (Nat → UInt8))
  (dataLength : UInt32)

def answerInput : InputBuffer :=
  ⟨readEventCompleteBytes (answerRecord calls event data dataLength)
    (answerData calls garbage event data dataLength), beyond⟩

theorem answerReadEvent_cases (hn : dataLength.toNat < 2 ^ 32 - readDataOffset)
    (hv : ctx.vhfHandle) :
    (¬(calls.Deliver data dataLength ∧ (ctx.outstandingOperation event.requestId).isSome) ∧
      (answerReadEvent calls garbage beyond fw ctx request event data dataLength).ctx = ctx) ∨
    ∃ op before after, calls.Deliver data dataLength ∧
      ctx.outstandingRequests = before ++ op :: after ∧ op.requestId = event.requestId ∧
      ctx.outstandingOperation event.requestId = some op ∧
      answerReadEvent calls garbage beyond fw ctx request event data dataLength =
        ⟨.inputRead 0 readDataOffset ::
            (readCompletion ctx.reports.numberedReports
              (answerInput calls garbage beyond event data dataLength)
              (answerRecord calls event data dataLength)).effects fw ctx.reports.numberedReports
                request op,
          { ctx with outstandingRequests := before ++ after }, some op,
          (readCompletion ctx.reports.numberedReports
            (answerInput calls garbage beyond event data dataLength)
            (answerRecord calls event data dataLength)).isReadyForNextReadReport⟩ := by
  cases hc : calls.createEvent with
  | false =>
    refine .inl ⟨fun h => ?_, ?_⟩
    · have hcreate := h.1.1
      rw [hc] at hcreate
      cases hcreate
    · rw [answerReadEvent, winUHidCompleteReadEvent_eq hn, hc]
      rfl
  | true =>
    have hsent : answerReadEvent calls garbage beyond fw ctx request event data dataLength =
        completeReadEvent fw ctx request (answerInput calls garbage beyond event data dataLength) := by
      rw [answerReadEvent, winUHidCompleteReadEvent_eq hn, hc]
      rfl
    have hrecord : (answerInput calls garbage beyond event data dataLength).readEventComplete =
        answerRecord calls event data dataLength := readEventComplete_stored _ _ _
    have hlen : (answerInput calls garbage beyond event data dataLength).length =
        readDataOffset + (answerData calls garbage event data dataLength).length :=
      length_readEventCompleteBytes _ _
    have hle : (answerRecord calls event data dataLength).dataLength.toNat ≤
        (answerData calls garbage event data dataLength).length := answerRecord_dataLength_le
    have hdeliver : calls.Deliver data dataLength ↔
        sizeofReadEventComplete ≤ (answerInput calls garbage beyond event data dataLength).length := by
      rw [deliver_iff garbage event, hlen, hc, sizeofReadEventComplete]
      simp
    have hwrap : (readEventCompleteLength
        (answerRecord calls event data dataLength).dataLength).toNat ≤
          (answerInput calls garbage beyond event data dataLength).length := by
      rw [readEventCompleteLength_toNat, hlen]
      exact Nat.le_trans (Nat.mod_le _ _) (by omega)
    rcases completeReadEvent_cases fw ctx request
        (answerInput calls garbage beyond event data dataLength) with
      ⟨status, hno, hr⟩ | ⟨op, before, after, _, hl, _, ho, hid, hf, hr⟩
    · refine .inl ⟨fun h => ?_, by rw [hsent, hr]⟩
      have hnone := hno hv (hdeliver.mp h.1) (by rw [hrecord]; exact hwrap)
      rw [hrecord, answerRecord_requestId] at hnone
      rw [hnone] at h
      cases h.2
    · rw [hrecord] at hid hf hr
      rw [answerRecord_requestId] at hid hf
      exact .inr ⟨op, before, after, hdeliver.mpr hl, ho, hid, hf, by rw [hsent, hr]⟩

end

/-- The operation has left `OutstandingRequests` and has been completed, with success or not. A
pseudo-operation succeeds when a report is submitted for it or it is acknowledged, and fails by
being issued again. -/
structure CompletedAs (success : Bool) (ctx : FileContext) (op : Operation) (run : CompletionRun) :
    Prop where
  removed : ctx.outstandingRequests.Perm (op :: run.ctx.outstandingRequests)
  completed :
    if op.requestId = 0 then
      if success then
        .acknowledged op.object ∈ run.effects ∨
          ∃ packet status, .readReportSubmit packet status (some op.object) ∈ run.effects
      else run.readyForNextReadReport
    else
      ∃ status, ntSuccess status = success ∧
        ∀ status', .asyncOperationComplete op.handle status' ∈ run.effects ↔ status' = status

theorem not_completedAs_of_ctx_eq {success : Bool} {ctx : FileContext} {op : Operation}
    {run : CompletionRun} (h : run.ctx = ctx) : ¬CompletedAs success ctx op run := by
  intro hc
  have hlen := hc.removed.length_eq
  rw [h, List.length_cons] at hlen
  omega

theorem CompletedAs.taken {success : Bool} {ctx : FileContext} {op found : Operation}
    {run : CompletionRun} (h : CompletedAs success ctx op run) {before after : List Operation}
    (ho : ctx.outstandingRequests = before ++ found :: after)
    (hr : run.ctx.outstandingRequests = before ++ after) : found = op := by
  have hremoved := h.removed
  rw [hr, ho] at hremoved
  have hperm : (found :: (before ++ after)).Perm (op :: (before ++ after)) :=
    List.perm_middle.symm.trans hremoved
  have hcoe : found ::ₘ (↑(before ++ after) : Multiset Operation) = op ::ₘ ↑(before ++ after) :=
    Multiset.coe_eq_coe.mpr hperm
  exact (Multiset.cons_inj_left _).mp hcoe

theorem completedAs_readCompletion (fw : Framework) (ctx : FileContext) (request : IoRequest)
    (input : InputBuffer) {op : Operation} {before after : List Operation} {c : ReadEventComplete}
    (ho : ctx.outstandingRequests = before ++ op :: after) (hid : op.requestId = c.requestId) :
    CompletedAs (ntSuccess c.status) ctx op
      ⟨.inputRead 0 readDataOffset ::
          (readCompletion ctx.reports.numberedReports input c).effects fw
            ctx.reports.numberedReports request op,
        { ctx with outstandingRequests := before ++ after }, some op,
        (readCompletion ctx.reports.numberedReports input c).isReadyForNextReadReport⟩ := by
  refine ⟨by rw [ho]; exact List.perm_middle, ?_⟩
  split
  next hz =>
    cases hs : ntSuccess c.status with
    | false =>
      exact ReadCompletion.isReadyForNextReadReport_iff.mpr
        (readCompletion_eq_readyForNextReadReport.mpr ⟨hid ▸ hz, hs⟩)
    | true =>
      have hzero : c.requestId = 0 := hid ▸ hz
      simp only [readCompletion, hzero, hs]
      by_cases hd : c.dataLength = 0
      · exact .inl (by simp [hd, ReadCompletion.effects])
      · exact .inr ⟨input.readReport ctx.reports.numberedReports c.dataLength,
          fw.readReportSubmit, by simp [hd, ReadCompletion.effects]⟩
  next hz =>
    refine ⟨c.status, rfl, fun status' => ?_⟩
    rw [List.mem_cons, or_iff_right (by simp), mem_effects_of_real (hid ▸ hz)]
    simp

/-- Completing a read event, in every reached state, for each outstanding read operation and every
answer below the lengths that wrap: the operation is completed, with success exactly when there is
data and memory for it, if and only if the IOCTL is sent, carries a byte behind the record, and
finds this operation by its id. -/
theorem completeReadEvent_completes {reports : ParsedReports} {p : FilePool}
    (h : FileReach Runs.anyStep reports p) {op : Operation}
    (hop : op ∈ p.shared.ctx.outstandingRequests) (calls : SdkCalls) (garbage : UInt8)
    (beyond : Nat → UInt8) (fw : Framework) (request : IoRequest)
    (data : Option (Nat → UInt8)) {dataLength : UInt32}
    (hn : dataLength.toNat < 2 ^ 32 - readDataOffset) :
    CompletedAs (data.isSome && calls.heapAlloc) p.shared.ctx op
        (answerReadEvent calls garbage beyond fw p.shared.ctx request op.event data dataLength) ↔
      calls.createEvent ∧ p.shared.ctx.outstandingOperation op.requestId = some op ∧
        (calls.heapAlloc = false ∨ (data.isSome ∧ dataLength ≠ 0)) := by
  have hv := vhfHandle_of_outstanding h hop
  rcases answerReadEvent_cases calls garbage beyond fw p.shared.ctx request op.event data dataLength
      hn hv with ⟨hno, hctx⟩ | ⟨found, before, after, hdeliver, ho, hid, hf, hr⟩
  · constructor
    · exact fun hc => absurd hc (not_completedAs_of_ctx_eq hctx)
    · rintro ⟨hcreate, hfirst, hdata⟩
      refine absurd ⟨⟨hcreate, hdata⟩, ?_⟩ hno
      rw [show op.event.requestId = op.requestId from rfl, hfirst]
      rfl
  · constructor
    · intro hc
      have heq : found = op := hc.taken ho (by rw [hr])
      exact ⟨hdeliver.1, heq ▸ hf, hdeliver.2⟩
    · rintro ⟨_, hfirst, _⟩
      cases Option.some.inj (hf.symm.trans hfirst)
      have hst : ntSuccess (answerRecord calls op.event data dataLength).status =
          (data.isSome && calls.heapAlloc) := answerRecord_status
      rw [hr, ← hst]
      exact completedAs_readCompletion fw p.shared.ctx request _ ho
        (hid.trans answerRecord_requestId.symm)

def featureDescriptor : ReportDescriptor := ⟨[0x75, 8, 0x95, 4, 0xB1, 2], by decide⟩

def featureDevice : ParsedReports :=
  match parseReportDescriptor featureDescriptor with
  | .ok reports => reports
  | .error _ => ⟨fun _ => ⟨0, 0, 0⟩, false⟩

def handGetFeature : List Action :=
  [.asyncOperation .getFeature ⟨fun _ => 0xEE, 6, 0⟩, .run 0 {}, .run 0 {}, .run 0 {},
    .getNextEvent 14, .run 0 {}, .run 0 {}, .run 0 {}]

theorem handGetFeature_reaches : ∃ p op, FileReach Runs.anyStep featureDevice p ∧
    p.shared.ctx.outstandingRequests = [op] ∧ op.type.isRead = true ∧ op.requestId ≠ 0 := by
  obtain ⟨p, hr, hl, hall⟩ := exists_fileReach featureDevice handGetFeature
    (P := fun p => p.shared.ctx.outstandingRequests.length = 1 ∧
      ∀ op ∈ p.shared.ctx.outstandingRequests, op.type.isRead = true ∧ op.requestId ≠ 0) rfl
  obtain ⟨op, hop⟩ := List.length_eq_one_iff.mp hl
  obtain ⟨hread, hid⟩ := hall op (by simp [hop])
  exact ⟨p, op, hr, hop, hread, hid⟩

theorem outstandingOperation_singleton {ctx : FileContext} {op : Operation}
    (h : ctx.outstandingRequests = [op]) : ctx.outstandingOperation op.requestId = some op := by
  simp [FileContext.outstandingOperation, h]

theorem completeReadEvent_completes_getFeature : ∃ p op,
    CompletedAs true p op
      (answerReadEvent {} 0 (fun _ => 0) {} p 1 op.event (some fun _ => 7) 3) := by
  obtain ⟨p, op, hr, hop, _, _⟩ := handGetFeature_reaches
  have hmem : op ∈ p.shared.ctx.outstandingRequests := by simp [hop]
  have hn : (3 : UInt32).toNat < 2 ^ 32 - readDataOffset := by decide
  exact ⟨p.shared.ctx, op, (completeReadEvent_completes hr hmem {} 0 (fun _ => 0) {} 1
    (some fun _ => 7) hn).mpr ⟨rfl, outstandingOperation_singleton hop, .inr ⟨rfl, by decide⟩⟩⟩

theorem nullData_notCompleted : ∃ p op, FileReach Runs.anyStep featureDevice p ∧
    op ∈ p.shared.ctx.outstandingRequests ∧ op.type.isRead ∧
      ¬CompletedAs false p.shared.ctx op
        (answerReadEvent {} 0 (fun _ => 0) {} p.shared.ctx 1 op.event none 0) := by
  obtain ⟨p, op, hr, hop, hread, _⟩ := handGetFeature_reaches
  have hmem : op ∈ p.shared.ctx.outstandingRequests := by simp [hop]
  refine ⟨p, op, hr, hmem, hread, not_completedAs_of_ctx_eq ?_⟩
  rcases answerReadEvent_cases {} 0 (fun _ => 0) {} p.shared.ctx 1 op.event none 0 (by decide)
      (vhfHandle_of_outstanding hr hmem) with ⟨_, hctx⟩ | ⟨_, _, _, hdeliver, _⟩
  · exact hctx
  · rcases hdeliver.2 with halloc | hdata
    · cases halloc
    · cases hdata.1

def ReportByte.value (input : InputBuffer) (old : UInt8) : ReportByte → UInt8
  | .unwritten => old
  | .input offset => input.read offset
  | .zero => 0

theorem min_truncatedLength (op : Operation) (dataLength : UInt32) :
    min (truncatedLength op.event dataLength).toNat op.hidTransferPacket.reportBufferLen.toNat =
      min dataLength.toNat op.hidTransferPacket.reportBufferLen.toNat := by
  unfold truncatedLength
  split
  next h =>
    have hlt : op.hidTransferPacket.reportBufferLen.toNat < dataLength.toNat := h.2
    show min op.hidTransferPacket.reportBufferLen.toNat _ = _
    omega
  next => rfl

theorem issued_reportBufferLen {s : FileState} {op : Operation} (h : s.Issued op)
    (hid : op.requestId ≠ 0) : ∃ type handle packet,
      .asyncOperation type handle packet ∈ s.trace ∧ op.type = type ∧ op.handle = some handle ∧
      op.hidTransferPacket.reportId = packet.reportId ∧
      op.hidTransferPacket.reportBufferLen.toNat = min packet.reportBufferLen.toNat
        (s.ctx.reports.sizeFor type packet.reportId).toNat := by
  rcases h with hp | ⟨type, handle, packet, n, hm, _, heq⟩
  · rw [hp] at hid
    exact absurd rfl hid
  · refine ⟨type, handle, packet, hm, by rw [heq]; rfl, by rw [heq]; rfl, ?_, ?_⟩
    · rw [heq]
      simp only [Operation.request, HidXferPacket.clamp]
      split <;> rfl
    · rw [heq]
      exact HidXferPacket.clamp_reportBufferLen packet _

theorem answerReadEvent_fill {ctx : FileContext} {op : Operation} {calls : SdkCalls}
    (hv : ctx.vhfHandle) (hid : op.requestId ≠ 0)
    (hfirst : ctx.outstandingOperation op.requestId = some op) (halloc : calls.heapAlloc)
    (hcreate : calls.createEvent) (garbage : UInt8) (beyond : Nat → UInt8) (fw : Framework)
    (request : IoRequest) (buffer : Nat → UInt8) {dataLength : UInt32}
    (hpos : 1 ≤ dataLength.toNat) (hn : dataLength.toNat < 2 ^ 32 - readDataOffset) :
    CompletedAs true ctx op
        (answerReadEvent calls garbage beyond fw ctx request op.event (some buffer) dataLength) ∧
      (answerReadEvent calls garbage beyond fw ctx request op.event (some buffer)
          dataLength).effects =
        .inputRead 0 readDataOffset :: (fillReport op (truncatedLength op.event dataLength) ++
          completeOperation fw request op statusSuccess) := by
  have hsend : calls.Deliver (some buffer) dataLength := by
    refine ⟨hcreate, .inr ⟨rfl, fun hz => ?_⟩⟩
    rw [hz] at hpos
    exact absurd hpos (by decide)
  rcases answerReadEvent_cases calls garbage beyond fw ctx request op.event (some buffer)
      dataLength hn hv with ⟨hno, _⟩ | ⟨found, before, after, _, ho, hfid, hf, hr⟩
  · exact absurd ⟨hsend, by rw [show op.event.requestId = op.requestId from rfl, hfirst]; rfl⟩ hno
  · cases Option.some.inj (hf.symm.trans hfirst)
    have hrecord : answerRecord calls op.event (some buffer) dataLength =
        ⟨op.requestId, statusSuccess, truncatedLength op.event dataLength⟩ := by
      rw [answerRecord, if_pos halloc]
      rfl
    rw [hr, hrecord]
    refine ⟨?_, ?_⟩
    · exact completedAs_readCompletion fw ctx request _ (c := ⟨op.requestId, statusSuccess, _⟩) ho rfl
    · rw [readCompletion_of_success hid rfl]
      rfl

/-- Answering a real operation with data, in every reached state of a device with this report
descriptor: where the memory and the event for the call are there and the id finds the operation,
it is completed with success, its report is the data padded with zeros or truncated, and nothing
behind the report is written. -/
theorem completeReadEvent_fillsReport {d : ReportDescriptor} {reports : ParsedReports}
    (hd : parseReportDescriptor d = .ok reports) {p : FilePool}
    (h : FileReach Runs.anyStep reports p) {op : Operation}
    (hop : op ∈ p.shared.ctx.outstandingRequests) (hid : op.requestId ≠ 0)
    (hfirst : p.shared.ctx.outstandingOperation op.requestId = some op) {calls : SdkCalls}
    (halloc : calls.heapAlloc) (hcreate : calls.createEvent) (garbage : UInt8)
    (beyond : Nat → UInt8) (fw : Framework) (request : IoRequest) (buffer : Nat → UInt8)
    {dataLength : UInt32} (hpos : 1 ≤ dataLength.toNat)
    (hn : dataLength.toNat < 2 ^ 32 - readDataOffset) :
    (CompletedAs true p.shared.ctx op (answerReadEvent calls garbage beyond fw p.shared.ctx request
      op.event (some buffer) dataLength)) ∧
    (∃ sent, winUHidCompleteReadEvent calls garbage op.event (some buffer) dataLength = some sent ∧
      ∀ i < op.hidTransferPacket.reportBufferLen.toNat,
        (reportContents op.object (answerReadEvent calls garbage beyond fw p.shared.ctx request
          op.event (some buffer) dataLength).effects i).value ⟨sent, beyond⟩
            (op.hidTransferPacket.reportBuffer i) =
          if i < dataLength.toNat then buffer i else 0) ∧
    (∀ i, op.hidTransferPacket.reportBufferLen.toNat ≤ i →
      reportContents op.object (answerReadEvent calls garbage beyond fw p.shared.ctx request
        op.event (some buffer) dataLength).effects i = .unwritten) ∧
    ∃ type handle packet r, .asyncOperation type handle packet ∈ p.shared.trace ∧
      op.type = type ∧ op.handle = some handle ∧
      op.hidTransferPacket.reportId = packet.reportId ∧ parseReportDescriptor d = .ok r ∧
      op.hidTransferPacket.reportBufferLen.toNat = min packet.reportBufferLen.toNat
        (r.sizeFor type packet.reportId).toNat := by
  obtain ⟨hcompleted, heffects⟩ := answerReadEvent_fill (vhfHandle_of_outstanding h hop) hid hfirst
    halloc hcreate garbage beyond fw request buffer hpos hn
  have hcontents : ∀ i, reportContents op.object (answerReadEvent calls garbage beyond fw
      p.shared.ctx request op.event (some buffer) dataLength).effects i =
      if i < min dataLength.toNat op.hidTransferPacket.reportBufferLen.toNat then
        .input (readDataOffset + i)
      else if i < op.hidTransferPacket.reportBufferLen.toNat then .zero
      else .unwritten := by
    intro i
    have hcomplete : reportContents op.object (fillReport op (truncatedLength op.event dataLength) ++
        completeOperation fw request op statusSuccess) =
          reportContents op.object (fillReport op (truncatedLength op.event dataLength)) :=
      reportContents_append (by simp [completeOperation, Effect.reportWritten])
    rw [heffects, ← min_truncatedLength, ← reportContents_fillReport, ← hcomplete]
    rfl
  refine ⟨hcompleted, ⟨_, winUHidCompleteReadEvent_eq hn |>.trans (if_pos hcreate), ?_⟩, ?_, ?_⟩
  · intro i hi
    rw [hcontents]
    by_cases hlt : i < dataLength.toNat
    · have hdata : answerData calls garbage op.event (some buffer) dataLength =
          (List.range (truncatedLength op.event dataLength).toNat).map buffer := by
        rw [answerData, if_pos halloc]
      have htrunc : i < (truncatedLength op.event dataLength).toNat := by
        have := min_truncatedLength op dataLength
        omega
      rw [if_pos (by omega), if_pos hlt, ReportByte.value,
        read_stored (by simpa [hdata] using htrunc)]
      simp [hdata]
    · rw [if_neg (by omega), if_pos hi, if_neg hlt, ReportByte.value]
  · intro i hi
    rw [hcontents, if_neg (by omega), if_neg (by omega)]
  · have hissued := (operations_issued h).1 op (by simp [FileContext.operations, hop])
    obtain ⟨type, handle, packet, hm, ht, hh, hrid, hlen⟩ := issued_reportBufferLen hissued hid
    rw [reports_constant h] at hlen
    exact ⟨type, handle, packet, reports, hm, ht, hh, hrid, hd, hlen⟩

theorem completeReadEvent_fillsReport_getFeature : ∃ p op,
    FileReach Runs.anyStep featureDevice p ∧ CompletedAs true p.shared.ctx op
      (answerReadEvent {} 0 (fun _ => 0) {} p.shared.ctx 1 op.event (some fun _ => 7) 3) := by
  obtain ⟨p, op, hr, hop, _, hid⟩ := handGetFeature_reaches
  have hmem : op ∈ p.shared.ctx.outstandingRequests := by simp [hop]
  have hd : parseReportDescriptor featureDescriptor = .ok featureDevice := rfl
  exact ⟨p, op, hr, (completeReadEvent_fillsReport hd hr hmem hid
    (outstandingOperation_singleton hop) rfl rfl 0 (fun _ => 0) {} 1 (fun _ => 7) (by decide)
    (by decide)).1⟩

theorem CompletedAs.unique {success success' : Bool} {ctx : FileContext} {op : Operation}
    {run : CompletionRun} (hid : op.requestId ≠ 0) (h : CompletedAs success ctx op run)
    (h' : CompletedAs success' ctx op run) : success = success' := by
  have hc := h.completed
  have hc' := h'.completed
  rw [if_neg hid] at hc hc'
  obtain ⟨status, hs, hall⟩ := hc
  obtain ⟨status', hs', hall'⟩ := hc'
  have heq : status = status' := (hall' status).mp ((hall status).mpr rfl)
  rw [← hs, ← hs', heq]

/-- In some reached state, an answer with data to an outstanding GET_FEATURE or READ_REPORT
operation does not complete it with success. -/
def AnswerFails (calls : SdkCalls) : Prop :=
  ∃ p op, FileReach Runs.anyStep featureDevice p ∧ op ∈ p.shared.ctx.outstandingRequests ∧
    op.type.isRead ∧ op.requestId ≠ 0 ∧ ¬CompletedAs true p.shared.ctx op
      (answerReadEvent calls 0 (fun _ => 0) {} p.shared.ctx 1 op.event (some fun _ => 7) 3)

/-- Without memory for the record the SDK answers with STATUS_NO_MEMORY, whatever the data. -/
theorem outOfMemory_fails : AnswerFails { heapAlloc := false } := by
  obtain ⟨p, op, hr, hop, hread, hid⟩ := handGetFeature_reaches
  have hmem : op ∈ p.shared.ctx.outstandingRequests := by simp [hop]
  refine ⟨p, op, hr, hmem, hread, hid, fun h => ?_⟩
  rcases answerReadEvent_cases { heapAlloc := false } 0 (fun _ => 0) {} p.shared.ctx 1 op.event
      (some fun _ => 7) 3 (by decide) (vhfHandle_of_outstanding hr hmem) with
    ⟨_, hctx⟩ | ⟨found, before, after, _, ho, hfid, hf, hrun⟩
  · exact not_completedAs_of_ctx_eq hctx h
  · cases Option.some.inj (hf.symm.trans (outstandingOperation_singleton hop))
    have hfailed := completedAs_readCompletion {} p.shared.ctx 1
      (answerInput { heapAlloc := false } 0 (fun _ => 0) op.event (some fun _ => 7) 3)
      (c := answerRecord { heapAlloc := false } op.event (some fun _ => 7) 3) ho rfl
    rw [← hrun] at hfailed
    cases CompletedAs.unique hid h hfailed

theorem noEvent_fails : AnswerFails { createEvent := false } := by
  obtain ⟨p, op, hr, hop, hread, hid⟩ := handGetFeature_reaches
  exact ⟨p, op, hr, by simp [hop], hread, hid, not_completedAs_of_ctx_eq rfl⟩

/-- A SET_FEATURE operation with the same request id is found first. -/
theorem repeatedId_fails : AnswerFails {} := by
  let packet : HidXferPacket := ⟨fun _ => 0, 4, 0⟩
  have hset : featureDevice.sizeFor .setFeature packet.reportId ≠ 0 := by decide
  have hget : featureDevice.sizeFor .getFeature packet.reportId ≠ 0 := by decide
  have hnone : featureDevice.sizeFor .writeReport packet.reportId = 0 := by decide
  obtain ⟨p, first, op, hr, hops, hfirst, hop, hsame⟩ := requestIds_repeat hset hget hnone
  have hmem : op ∈ p.shared.ctx.outstandingRequests := by simp [hops]
  have hid : op.requestId ≠ 0 := by
    intro hz
    have htype := op.pseudo_type hz
    rw [hop] at htype
    cases htype
  have hfound : p.shared.ctx.outstandingOperation op.event.requestId = some first := by
    simp [FileContext.outstandingOperation, hops, Operation.event, hsame]
  refine ⟨p, op, hr, hmem, by rw [hop]; rfl, hid, fun h => ?_⟩
  rcases answerReadEvent_cases {} 0 (fun _ => 0) {} p.shared.ctx 1 op.event (some fun _ => 7) 3
      (by decide) (vhfHandle_of_outstanding hr hmem) with
    ⟨_, hctx⟩ | ⟨found, before, after, _, ho, _, hf, hrun⟩
  · exact not_completedAs_of_ctx_eq hctx h
  · have heq : found = op := h.taken ho (by rw [hrun])
    cases Option.some.inj (hf.symm.trans hfound)
    rw [heq, hop] at hfirst
    cases hfirst

/-- What a successful answer rests on: the two calls of the SDK, and the id finding the operation. -/
theorem answerReadEvent_fails :
    AnswerFails { heapAlloc := false } ∧ AnswerFails { createEvent := false } ∧ AnswerFails {} :=
  ⟨outOfMemory_fails, noEvent_fails, repeatedId_fails⟩

end WinUHid
