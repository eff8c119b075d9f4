import WinUHid.DriverOperations

namespace WinUHid

/-- A byte of an output buffer: as the caller passed it, copied from a field the code never
initialised, or holding a byte of the event. -/
inductive OutputByte where
  | untouched
  | uninitialised
  | content (b : UInt8)
  deriving DecidableEq

abbrev OutputMemory := List OutputByte

def OutputByte.isContent : OutputByte → Bool
  | .content _ => true
  | _ => false

def OutputByte.isWritten : OutputByte → Bool
  | .untouched => false
  | _ => true

/-- `WdfMemoryCopyFromBuffer`, `none` where the bytes do not fit. -/
def memoryCopyFromBuffer (mem : OutputMemory) (offset : Nat) (src : List OutputByte) :
    Option OutputMemory :=
  if offset + src.length ≤ mem.length then
    some (mem.take offset ++ src ++ mem.drop (offset + src.length))
  else none

/-- The event with which an operation is delivered: the fields of `eventHeader`. -/
def Operation.event (op : Operation) : Event where
  type := op.type
  requestId := op.requestId
  reportId := op.hidTransferPacket.reportId
  dataLength := op.hidTransferPacket.reportBufferLen

def eventFields (op : Operation) : List UInt8 :=
  ulongBytes op.event.type.value ++ ulongBytes op.event.requestId ++ [op.event.reportId] ++
    ulongBytes op.event.dataLength

/-- `eventHeader` as it lies on the stack: the one byte of `Write.Data` is never set. -/
def eventHeader (op : Operation) : List OutputByte :=
  (eventFields op).map .content ++ [.uninitialised]

/-- The bytes of the report that follow the header of a write event. -/
def eventData (op : Operation) : List UInt8 :=
  if op.type.isWrite then op.hidTransferPacket.report else []

theorem length_eventFields (op : Operation) : (eventFields op).length = eventDataOffset := by
  simp [eventFields, eventDataOffset]

theorem length_eventData (op : Operation) : (eventData op).length =
    if op.type.isWrite then op.hidTransferPacket.reportBufferLen.toNat else 0 := by
  unfold eventData
  split <;> simp

theorem length_eventHeader (op : Operation) : (eventHeader op).length = sizeofEvent := by
  simp [eventHeader, sizeofEvent, length_eventFields]

/-- The output buffer after the copies of `TryCompleteGetNextEvent`. -/
def copyEvent (op : Operation) (outputLength : Nat) : Option OutputMemory := do
  let mem ← memoryCopyFromBuffer (List.replicate outputLength .untouched) 0 (eventHeader op)
  if op.type.isWrite then
    memoryCopyFromBuffer mem eventDataOffset (op.hidTransferPacket.report.map .content)
  else some mem

def bytesTransferred (op : Operation) : Nat :=
  sizeofEvent + (if op.type.isWrite then op.hidTransferPacket.reportBufferLen.toNat else 0)

/-- What `TryCompleteGetNextEvent` does with the request: leave it to the caller, or complete it
with a status and, on success, a byte count and an output buffer. -/
inductive TryResult where
  | pending
  | failed (status : NTSTATUS)
  | completed (op : Operation) (status : NTSTATUS) (bytesTransferred : Nat)
      (output : OutputMemory)

/-- The body of `TryCompleteGetNextEvent` under `RequestLock`. -/
def tryCompleteGetNextEvent (fw : Framework) (ctx : FileContext) (outputLength : Nat) :
    TryResult × FileContext :=
  match ctx.waitingRequests with
  | [] => (.pending, ctx)
  | op :: waiting =>
    if !ntSuccess fw.retrieveOutputMemory then (.failed fw.retrieveOutputMemory, ctx)
    else
      match copyEvent op outputLength with
      | none => (.failed statusBufferTooSmall, ctx)
      | some output =>
        -- the buffer is filled by now, but the operation stays first in line
        if !ntSuccess fw.collectionAdd then (.failed fw.collectionAdd, ctx)
        else
          (.completed op fw.collectionAdd (bytesTransferred op) output,
            { ctx with
              waitingRequests := waiting
              outstandingRequests := ctx.outstandingRequests ++ [op] })

def Fits (op : Operation) (outputLength : Nat) : Prop :=
  sizeofEvent ≤ outputLength ∧ eventDataOffset + (eventData op).length ≤ outputLength

instance (op : Operation) (outputLength : Nat) : Decidable (Fits op outputLength) :=
  inferInstanceAs (Decidable (_ ∧ _))

/-- What the copies leave in a buffer of `outputLength` bytes: the byte after the fields keeps
its garbage only where no data byte lands on it. -/
def deliveredOutput (op : Operation) (outputLength : Nat) : OutputMemory :=
  (eventFields op ++ eventData op).map .content ++
    (if eventData op = [] then [.uninitialised] else []) ++
      List.replicate (outputLength - max sizeofEvent (eventDataOffset + (eventData op).length))
        .untouched

theorem copyHeader (op : Operation) (outputLength : Nat) :
    memoryCopyFromBuffer (List.replicate outputLength .untouched) 0 (eventHeader op) =
      if sizeofEvent ≤ outputLength then
        some (eventHeader op ++ List.replicate (outputLength - sizeofEvent) .untouched)
      else none := by
  simp [memoryCopyFromBuffer, length_eventHeader]

theorem drop_uninitialised (data : List UInt8) (n : Nat) :
    (OutputByte.uninitialised :: List.replicate n .untouched).drop data.length =
      (if data = [] then [.uninitialised] else []) ++
        List.replicate (n + 1 - max 1 data.length) .untouched := by
  cases data with
  | nil => simp
  | cons b bs =>
    rw [if_neg (List.cons_ne_nil b bs), List.nil_append, List.length_cons, List.drop_succ_cons,
      List.drop_replicate]
    congr 1
    omega

/-- The report bytes of a write event go over the last byte of the header and what follows it. -/
theorem copyReportBytes {op : Operation} (hw : op.type.isWrite) {outputLength : Nat}
    (hs : sizeofEvent ≤ outputLength) :
    memoryCopyFromBuffer
        (eventHeader op ++ List.replicate (outputLength - sizeofEvent) .untouched) eventDataOffset
        (op.hidTransferPacket.report.map .content) =
      if eventDataOffset + (eventData op).length ≤ outputLength then
        some (deliveredOutput op outputLength)
      else none := by
  have hdata : op.hidTransferPacket.report = eventData op := by rw [eventData, if_pos hw]
  have hlen : (eventHeader op ++
      List.replicate (outputLength - sizeofEvent) OutputByte.untouched).length = outputLength := by
    rw [List.length_append, length_eventHeader, List.length_replicate]
    omega
  have hfields : ((eventFields op).map OutputByte.content).length = eventDataOffset := by
    rw [List.length_map, length_eventFields]
  have hheader : eventHeader op ++ List.replicate (outputLength - sizeofEvent) .untouched =
      (eventFields op).map .content ++
        (.uninitialised :: List.replicate (outputLength - sizeofEvent) .untouched) := by
    rw [eventHeader, List.append_assoc, List.singleton_append]
  rw [memoryCopyFromBuffer, hlen, hdata, List.length_map]
  by_cases hd : eventDataOffset + (eventData op).length ≤ outputLength
  · rw [if_pos hd, if_pos hd, hheader, List.take_left' hfields, ← List.drop_drop,
      List.drop_left' hfields, deliveredOutput, List.map_append, drop_uninitialised, sizeofEvent]
    simp only [List.append_assoc]
    rw [show max (eventDataOffset + 1) (eventDataOffset + (eventData op).length) =
      eventDataOffset + max 1 (eventData op).length by omega]
    simp only [sizeofEvent] at hs
    congr 4
    rw [show outputLength - (eventDataOffset + 1) + 1 - max 1 (eventData op).length =
      outputLength - (eventDataOffset + max 1 (eventData op).length) by omega]
  · rw [if_neg hd, if_neg hd]

theorem copyEvent_eq (op : Operation) (outputLength : Nat) :
    copyEvent op outputLength =
      if Fits op outputLength then some (deliveredOutput op outputLength) else none := by
  rw [copyEvent, copyHeader]
  by_cases hs : sizeofEvent ≤ outputLength
  · rw [if_pos hs]
    simp only [Option.bind_eq_bind, Option.bind_some]
    by_cases hw : op.type.isWrite
    · rw [if_pos hw, copyReportBytes hw hs]
      by_cases hd : eventDataOffset + (eventData op).length ≤ outputLength
      · rw [if_pos hd, if_pos ⟨hs, hd⟩]
      · rw [if_neg hd, if_neg (fun hf => hd hf.2)]
    · have hd : eventData op = [] := by rw [eventData, if_neg hw]
      have hfits : Fits op outputLength := by
        refine ⟨hs, ?_⟩
        rw [hd]
        simp only [sizeofEvent, List.length_nil] at hs ⊢
        omega
      rw [if_neg hw, if_pos hfits, deliveredOutput, eventHeader, hd]
      simp [sizeofEvent]
  · rw [if_neg hs, if_neg (fun hf => hs hf.1)]
    rfl

theorem tryCompleteGetNextEvent_cases (fw : Framework) (ctx : FileContext) (outputLength : Nat) :
    (ctx.waitingRequests = [] ∧ tryCompleteGetNextEvent fw ctx outputLength = (.pending, ctx)) ∨
    (∃ op waiting status, ctx.waitingRequests = op :: waiting ∧ ntSuccess status = false ∧
      ¬(ntSuccess fw.retrieveOutputMemory ∧ Fits op outputLength ∧ ntSuccess fw.collectionAdd) ∧
      tryCompleteGetNextEvent fw ctx outputLength = (.failed status, ctx)) ∨
    (∃ op waiting, ctx.waitingRequests = op :: waiting ∧ ntSuccess fw.retrieveOutputMemory ∧
      Fits op outputLength ∧ ntSuccess fw.collectionAdd ∧
      tryCompleteGetNextEvent fw ctx outputLength =
        (.completed op fw.collectionAdd (bytesTransferred op) (deliveredOutput op outputLength),
          { ctx with
            waitingRequests := waiting
            outstandingRequests := ctx.outstandingRequests ++ [op] })) := by
  cases hw : ctx.waitingRequests with
  | nil => exact .inl ⟨rfl, by rw [tryCompleteGetNextEvent, hw]⟩
  | cons op waiting =>
    right
    by_cases hm : ntSuccess fw.retrieveOutputMemory
    · by_cases hf : Fits op outputLength
      · by_cases ha : ntSuccess fw.collectionAdd
        · refine .inr ⟨op, waiting, rfl, hm, hf, ha, ?_⟩
          rw [tryCompleteGetNextEvent, hw]
          simp [hm, copyEvent_eq, hf, ha]
        · refine .inl ⟨op, waiting, fw.collectionAdd, rfl, by simpa using ha,
            fun h => ha h.2.2, ?_⟩
          rw [tryCompleteGetNextEvent, hw]
          simp [hm, copyEvent_eq, hf, ha]
      · refine .inl ⟨op, waiting, statusBufferTooSmall, rfl, by decide, fun h => hf h.2.1, ?_⟩
        rw [tryCompleteGetNextEvent, hw]
        simp [hm, copyEvent_eq, hf]
    · refine .inl ⟨op, waiting, fw.retrieveOutputMemory, rfl, by simpa using hm,
        fun h => hm h.1, ?_⟩
      rw [tryCompleteGetNextEvent, hw]
      simp [hm]

/-- How many leading bytes of a buffer hold event content. -/
def contentLength (output : OutputMemory) : Nat := (output.takeWhile OutputByte.isContent).length

def writtenLength (output : OutputMemory) : Nat := (output.takeWhile OutputByte.isWritten).length

theorem takeWhile_append_replicate {p : OutputByte → Bool} {front : OutputMemory}
    (hp : ∀ b ∈ front, p b) (hu : p .untouched = false) (n : Nat) :
    (front ++ List.replicate n OutputByte.untouched).takeWhile p = front := by
  rw [List.takeWhile_append_of_pos hp]
  cases n with
  | zero => simp
  | succ n => simp [List.replicate_succ, hu]

/-- Fields and data, never the header's last byte: one byte less than the count. -/
theorem contentLength_deliveredOutput (op : Operation) (outputLength : Nat) :
    contentLength (deliveredOutput op outputLength) + 1 = bytesTransferred op := by
  have hlen : ((eventFields op ++ eventData op).map OutputByte.content).length + 1 =
      bytesTransferred op := by
    simp only [List.length_map, List.length_append, length_eventFields, length_eventData,
      bytesTransferred, sizeofEvent]
    omega
  have hcontent : ∀ b ∈ (eventFields op ++ eventData op).map OutputByte.content,
      b.isContent := by
    intro b hb
    obtain ⟨_, _, rfl⟩ := List.mem_map.mp hb
    rfl
  rw [← hlen, contentLength, deliveredOutput, List.append_assoc,
    List.takeWhile_append_of_pos hcontent]
  by_cases hd : eventData op = []
  · simp [hd, OutputByte.isContent]
  · rw [if_neg hd, List.nil_append]
    cases outputLength - max sizeofEvent (eventDataOffset + (eventData op).length) <;>
      simp [List.replicate_succ, OutputByte.isContent]

theorem writtenLength_deliveredOutput (op : Operation) (outputLength : Nat) :
    writtenLength (deliveredOutput op outputLength) =
      max sizeofEvent (eventDataOffset + (eventData op).length) := by
  have hall : ∀ b ∈ (eventFields op ++ eventData op).map OutputByte.content ++
      (if eventData op = [] then [.uninitialised] else []), OutputByte.isWritten b := by
    intro b hb
    rcases List.mem_append.mp hb with hb | hb
    · obtain ⟨_, _, rfl⟩ := List.mem_map.mp hb
      rfl
    · split at hb
      · cases List.mem_singleton.mp hb
        rfl
      · cases hb
  rw [writtenLength, deliveredOutput, takeWhile_append_replicate hall rfl]
  simp only [List.length_append, List.length_map, length_eventFields]
  cases hd : eventData op with
  | nil => simp [sizeofEvent]
  | cons b bs => simp [sizeofEvent]

/-- Whether a GET_NEXT_EVENT with this output buffer is completed with success now. -/
def Delivers (fw : Framework) (ctx : FileContext) (outputLength : Nat) : Prop :=
  ∃ op waiting, ctx.waitingRequests = op :: waiting ∧ ntSuccess fw.retrieveOutputMemory ∧
    Fits op outputLength ∧ ntSuccess fw.collectionAdd

/-- The byte count of a successful completion is within the buffer and is what `measure` counts
in it. -/
def CountsBytes (measure : OutputMemory → Nat) (fw : Framework) (ctx : FileContext)
    (outputLength : Nat) : Prop :=
  ∀ op status count output ctx',
    tryCompleteGetNextEvent fw ctx outputLength = (.completed op status count output, ctx') →
    count ≤ outputLength ∧ count = measure output

theorem countsBytes_iff (measure : OutputMemory → Nat) (fw : Framework) (ctx : FileContext)
    (outputLength : Nat) :
    CountsBytes measure fw ctx outputLength ↔ ∀ op waiting, ctx.waitingRequests = op :: waiting →
      ntSuccess fw.retrieveOutputMemory → Fits op outputLength → ntSuccess fw.collectionAdd →
      bytesTransferred op ≤ outputLength ∧
        bytesTransferred op = measure (deliveredOutput op outputLength) := by
  rcases tryCompleteGetNextEvent_cases fw ctx outputLength with
    ⟨hw, he⟩ | ⟨op, waiting, status, hw, _, hno, he⟩ | ⟨op, waiting, hw, hm, hf, ha, he⟩
  · simp [CountsBytes, he, hw]
  · refine ⟨fun _ op' waiting' hw' hm hf ha => ?_, fun _ op' status count output ctx' h => ?_⟩
    · obtain ⟨rfl, _⟩ := List.cons.inj (hw.symm.trans hw')
      exact absurd ⟨hm, hf, ha⟩ hno
    · cases he.symm.trans h
  · refine ⟨fun h op' waiting' hw' _ _ _ => ?_, fun h op' status count output ctx' heq => ?_⟩
    · obtain ⟨rfl, _⟩ := List.cons.inj (hw.symm.trans hw')
      exact h _ _ _ _ _ he
    · cases he.symm.trans heq
      exact h op waiting hw hm hf ha

/-- The byte count against the buffer, for every waiting operation, buffer size and outcome of
the framework calls. Counting the bytes that hold event content, it is right only when nothing is
delivered; counting the header's uninitialised byte too, it is right for read events and for write
events without data. -/
theorem tryCompleteGetNextEvent_byteCount (fw : Framework) (ctx : FileContext)
    (outputLength : Nat) :
    (CountsBytes contentLength fw ctx outputLength ↔ ¬Delivers fw ctx outputLength) ∧
    (CountsBytes writtenLength fw ctx outputLength ↔
      (Delivers fw ctx outputLength →
        ∀ op ∈ ctx.waitingRequests.head?, op.type.isRead ∨
          op.hidTransferPacket.reportBufferLen = 0)) := by
  constructor
  · rw [countsBytes_iff]
    constructor
    · rintro h ⟨op, waiting, hw, hm, hf, ha⟩
      have hc := (h op waiting hw hm hf ha).2
      have hd := contentLength_deliveredOutput op outputLength
      omega
    · intro h op waiting hw hm hf ha
      exact absurd ⟨op, waiting, hw, hm, hf, ha⟩ h
  · rw [countsBytes_iff]
    constructor
    · rintro h ⟨op, waiting, hw, hm, hf, ha⟩ op' hop
      rw [hw] at hop
      cases Option.some.inj hop
      have hc := (h op waiting hw hm hf ha).2
      rw [writtenLength_deliveredOutput, length_eventData] at hc
      by_cases hr : op.type.isRead
      · exact .inl hr
      · have hwrite : op.type.isWrite := by simpa [EventType.isWrite_eq_not_isRead] using hr
        simp only [bytesTransferred, hwrite, if_true, sizeofEvent] at hc
        exact .inr (UInt32.toNat_inj.mp (by show _ = 0; omega))
    · intro h op waiting hw hm hf ha
      have hop := h ⟨op, waiting, hw, hm, hf, ha⟩ op (by rw [hw]; rfl)
      have hz : (if op.type.isWrite then op.hidTransferPacket.reportBufferLen.toNat else 0) = 0 := by
        rcases hop with hr | hl
        · simp [EventType.isWrite_eq_not_isRead, hr]
        · simp [hl]
      rw [writtenLength_deliveredOutput, length_eventData, bytesTransferred, hz]
      have hs := hf.1
      simp only [sizeofEvent] at hs ⊢
      omega

/-- A WRITE_REPORT of 115 bytes exactly fills the 128 bytes of the first poll buffer, and 129
bytes are reported. -/
def filledBuffer : FileContext where
  reports := ⟨fun _ => ⟨0, 115, 0⟩, false⟩
  nextRequestId := 1
  vhfHandle := true
  waitingRequests := [.request 0 .writeReport 1 0 ⟨fun _ => 0, 115, 0⟩]
  outstandingRequests := []

theorem filledBuffer_overcounted :
    (¬CountsBytes contentLength {} filledBuffer 128) ∧
      ¬CountsBytes writtenLength {} filledBuffer 128 := by
  constructor <;>
  · rw [countsBytes_iff]
    intro h
    have hfits : Fits (.request 0 .writeReport 1 0 ⟨fun _ => 0, 115, 0⟩) 128 := by decide
    have hle := (h _ _ rfl rfl hfits rfl).1
    exact absurd hle (by decide)

end WinUHid
