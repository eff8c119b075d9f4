import WinUHid.RequestDiscipline
import WinUHid.CompleteReadEvent
import WinUHid.EventSizes

namespace WinUHid

/-- `WINUHID_WRITE_EVENT_COMPLETE`, packed. -/
def writeEventCompleteBytes (c : WriteEventComplete) : List UInt8 :=
  ulongBytes c.requestId ++ ulongBytes c.status

/-- `WinUHidCompleteWriteEvent`: the input buffer of the IOCTL it sends, if it sends one. -/
def winUHidCompleteWriteEvent (calls : SdkCalls) (event : Event) (success : Bool) :
    Option (List UInt8) :=
  if calls.createEvent then
    some (writeEventCompleteBytes
      ⟨event.requestId, if success then statusSuccess else statusUnsuccessful⟩)
  else none

/-- The call with which the client answers an event. -/
inductive EventAnswer where
  | write (calls : SdkCalls) (success : Bool)
  | read (calls : SdkCalls) (garbage : UInt8) (data : Option (Nat → UInt8)) (dataLength : UInt32)

namespace EventAnswer

def sent (event : Event) : EventAnswer → Option (List UInt8)
  | .write calls success => winUHidCompleteWriteEvent calls event success
  | .read calls garbage data dataLength =>
    winUHidCompleteReadEvent calls garbage event data dataLength

def ioctl (input : InputBuffer) : EventAnswer → Action
  | .write _ _ => .completeWriteEvent input
  | .read _ _ _ _ => .completeReadEvent input

/-- The IOCTL is sent, and the driver's checks of its length let it pass. -/
def Arrives : EventAnswer → Prop
  | .write calls _ => calls.createEvent
  | .read calls _ data dataLength =>
    calls.Deliver data dataLength ∧ dataLength.toNat < 2 ^ 32 - readDataOffset

/-- Whether VHF is to be told that the operation succeeded. -/
def success : EventAnswer → Bool
  | .write _ success => success
  | .read calls _ data _ => data.isSome && calls.heapAlloc

/-- A byte of the report that the client's data makes, where the answer has any. -/
def fills (i : Nat) : EventAnswer → Option UInt8
  | .read calls _ (some buffer) dataLength =>
    if calls.heapAlloc then some (if i < dataLength.toNat then buffer i else 0) else none
  | _ => none

end EventAnswer

/-- An answer with the operation whose event it answers. -/
structure EventReply where
  op : Operation
  answer : EventAnswer

/-- What became of an answer for which the driver looked for the operation; `input` is the buffer of
an answer with data. -/
structure SettledAnswer where
  reply : EventReply
  input : Option InputBuffer
  run : CompletionRun

/-- A file object and its client, which is handed the event of each operation that a completed
request delivers and answers it at most once. -/
structure ServedFile where
  file : LoggedFile
  /-- The operations whose events the client has and has not answered. -/
  received : List Operation
  /-- What a completion IOCTL answers. -/
  answered : IoRequest → Option EventReply
  /-- Answers that were not sent, or that the driver's checks refused. -/
  lost : List EventReply
  settled : List SettledAnswer

namespace ServedFile

def start (reports : ParsedReports) : ServedFile :=
  ⟨⟨⟨.created reports, []⟩, ⟨[], []⟩⟩, [], fun _ => none, [], []⟩

abbrev ctx (f : ServedFile) : FileContext := f.file.pool.shared.ctx

def lose (f : ServedFile) (request : IoRequest) : ServedFile :=
  { f with lost := f.lost ++ (f.answered request).toList }

def settle (f : ServedFile) (request : IoRequest) (input : Option InputBuffer)
    (run : CompletionRun) : ServedFile :=
  { f with settled := f.settled ++ (f.answered request).toList.map (⟨·, input, run⟩) }

/-- What a step of a thread is for the client and its answers. -/
def ran (f : ServedFile) (fw : Framework) : Thread → ServedFile
  | .calls (e :: _) => { f with received := f.received ++ (deliveries [e]).map Prod.snd }
  | .completeWrite request input =>
    match checkWriteEvent f.ctx input with
    | .error _ => f.lose request
    | .ok _ => f
  | .completeRead request input =>
    match checkReadEvent f.ctx input with
    | .error _ => f.lose request
    | .ok _ => f
  | .takeWrite request c => f.settle request none (takeWriteEvent fw f.ctx request c)
  | .takeRead request input c => f.settle request input (takeReadEvent fw f.ctx request input c)
  | _ => f

end ServedFile

inductive ServedAction where
  /-- A step of the file or of VHF, or a request that does not complete an event. -/
  | file (a : Action)
  | answer (i : Nat) (answer : EventAnswer) (beyond : Nat → UInt8)

def Action.completesEvent : Action → Bool
  | .completeWriteEvent _ | .completeReadEvent _ => true
  | _ => false

def Action.served (f : ServedFile) : Action → ServedFile
  | .run i fw => (f.file.pool.threads[i]?).elim f (f.ran fw)
  | _ => f

def servedStep (f : ServedFile) : ServedAction → Option ServedFile
  | .file a =>
    if a.completesEvent then none
    else (loggedStep f.file a).map fun file => { a.served f with file }
  | .answer i answer beyond =>
    (f.received[i]?).bind fun op =>
      let left := { f with received := f.received.eraseIdx i }
      match answer.sent op.event with
      | none => some { left with lost := f.lost ++ [⟨op, answer⟩] }
      | some bytes =>
        (loggedStep f.file (answer.ioctl ⟨bytes, beyond⟩)).map fun file =>
          { left with
            file
            answered := Function.update f.answered f.file.pool.shared.nextRequest
              (some ⟨op, answer⟩) }

/-- No operation is left unanswered while 2^31 others are dispatched. -/
def ServedFile.Recent (f : ServedFile) : Prop :=
  ∀ op ∈ f.ctx.outstandingRequests, f.file.log.since op < 2 ^ 31

instance (f : ServedFile) : Decidable f.Recent :=
  inferInstanceAs (Decidable (∀ op ∈ f.ctx.outstandingRequests, _))

def ServedReach (reports : ParsedReports) : ServedFile → Prop :=
  Runs.Reach servedStep (fun f _ => f.Recent) fun f => f = .start reports

theorem exists_servedReach (reports : ParsedReports) (actions : List ServedAction)
    {P : ServedFile → Prop} [DecidablePred P]
    (h : (Runs.exec (Runs.guarded servedStep fun f _ => f.Recent) (.start reports) actions).any
      (fun f => decide (P f)) = true) : ∃ f, ServedReach reports f ∧ P f :=
  Runs.exists_reach_of_run servedStep _ (by rfl) actions h

/-- What a step can be: of the file, an answer that is not sent, or one that is. -/
inductive ServedStep (f : ServedFile) : ServedAction → ServedFile → Prop
  | file {a : Action} {file : LoggedFile} : a.completesEvent = false →
      loggedStep f.file a = some file → ServedStep f (.file a) { a.served f with file }
  | unsent {i : Nat} {answer : EventAnswer} {beyond : Nat → UInt8} {op : Operation} :
      f.received[i]? = some op → answer.sent op.event = none →
      ServedStep f (.answer i answer beyond)
        { f with received := f.received.eraseIdx i, lost := f.lost ++ [⟨op, answer⟩] }
  | sent {i : Nat} {answer : EventAnswer} {beyond : Nat → UInt8} {op : Operation}
      {bytes : List UInt8} {file : LoggedFile} : f.received[i]? = some op →
      answer.sent op.event = some bytes →
      loggedStep f.file (answer.ioctl ⟨bytes, beyond⟩) = some file →
      ServedStep f (.answer i answer beyond)
        { f with
          file
          received := f.received.eraseIdx i
          answered := Function.update f.answered f.file.pool.shared.nextRequest
            (some ⟨op, answer⟩) }

theorem servedStep_cases {f f' : ServedFile} {a : ServedAction} (h : servedStep f a = some f') :
    ServedStep f a f' := by
  cases a with
  | file a =>
    simp only [servedStep] at h
    cases completes : a.completesEvent with
    | true => simp [completes] at h
    | false =>
      simp only [completes, Bool.false_eq_true, if_false] at h
      obtain ⟨file, hfile, rfl⟩ := Option.map_eq_some_iff.mp h
      exact .file completes hfile
  | answer i answer beyond =>
    obtain ⟨op, hop, h⟩ := Option.bind_eq_some_iff.mp h
    cases sent : answer.sent op.event with
    | none =>
      simp only [sent, Option.some.injEq] at h
      subst h
      exact .unsent hop sent
    | some bytes =>
      simp only [sent] at h
      obtain ⟨file, hfile, rfl⟩ := Option.map_eq_some_iff.mp h
      exact .sent hop sent hfile

/-- The file of a served run is in a run of its own. -/
theorem ServedReach.logged {reports : ParsedReports} {f : ServedFile} (h : ServedReach reports f) :
    LoggedReach reports f.file := by
  induction h with
  | start hi =>
    cases hi
    exact .start rfl
  | next _ _ hs ih =>
    cases servedStep_cases hs with
    | file _ hfile => exact ih.next trivial hfile
    | unsent => exact ih
    | sent _ _ hfile => exact ih.next trivial hfile

section Records

variable {calls : SdkCalls} {event : Event} {bytes : List UInt8} (beyond : Nat → UInt8)

theorem winUHidCompleteWriteEvent_some {success : Bool}
    (h : winUHidCompleteWriteEvent calls event success = some bytes) :
    sizeofWriteEventComplete ≤ (InputBuffer.mk bytes beyond).length ∧
      (InputBuffer.mk bytes beyond).writeEventComplete =
        ⟨event.requestId, if success then statusSuccess else statusUnsuccessful⟩ := by
  unfold winUHidCompleteWriteEvent at h
  split at h
  next =>
    cases Option.some.inj h
    generalize (if success then statusSuccess else statusUnsuccessful) = status
    generalize hb : InputBuffer.mk (writeEventCompleteBytes ⟨event.requestId, status⟩) beyond = b
    have bytes : b.bytes = writeEventCompleteBytes ⟨event.requestId, status⟩ := by rw [← hb]
    have at0 : b.bytes = [] ++ ulongBytes event.requestId ++ ulongBytes status := bytes
    have at4 : b.bytes = ulongBytes event.requestId ++ ulongBytes status ++ [] := by
      rw [bytes, List.append_nil]
      rfl
    have first := InputBuffer.ulong_of_stored at0
    have second := InputBuffer.ulong_of_stored at4
    rw [List.length_nil] at first
    rw [length_ulongBytes] at second
    refine ⟨?_, by rw [InputBuffer.writeEventComplete, first, second]⟩
    rw [InputBuffer.length, bytes, writeEventCompleteBytes, List.length_append, length_ulongBytes,
      length_ulongBytes]
    exact Nat.le_refl _
  next => cases h

/-- A length that wraps leaves less than the fixed part of the record. -/
theorem readEventCompleteBytes_of_take {c : ReadEventComplete} {data : List UInt8}
    (all : c.dataLength.toNat = data.length)
    (h : ((readEventCompleteBytes c data).take
      (readEventCompleteLength c.dataLength).toNat) = bytes)
    (long : sizeofReadEventComplete ≤ bytes.length) : bytes = readEventCompleteBytes c data := by
  by_cases wraps : c.dataLength.toNat < 2 ^ 32 - readDataOffset
  · rw [readEventCompleteLength_of_lt wraps, all, ← length_readEventCompleteBytes c,
      List.take_length] at h
    exact h.symm
  · have few := readEventCompleteLength_of_ge (Nat.not_lt.mp wraps)
    have short := List.length_take_le (readEventCompleteLength c.dataLength).toNat
      (readEventCompleteBytes c data)
    rw [h] at short
    simp only [sizeofReadEventComplete] at long
    omega

/-- What the SDK sends is long enough for the driver only with the whole record and its data. -/
theorem winUHidCompleteReadEvent_some {garbage : UInt8} {data : Option (Nat → UInt8)}
    {dataLength : UInt32}
    (h : winUHidCompleteReadEvent calls garbage event data dataLength = some bytes)
    (long : sizeofReadEventComplete ≤ bytes.length) :
    bytes = readEventCompleteBytes (answerRecord calls event data dataLength)
      (answerData calls garbage event data dataLength) := by
  cases created : calls.createEvent with
  | false => simp [winUHidCompleteReadEvent, created] at h
  | true =>
    unfold answerRecord answerData
    cases memory : calls.heapAlloc with
    | false => simpa [winUHidCompleteReadEvent, created, memory] using h.symm
    | true =>
      cases data with
      | none =>
        have sent : (readEventCompleteBytes ⟨event.requestId, statusUnsuccessful, 0⟩ []).take
            (readEventCompleteLength 0).toNat = bytes := by
          simpa [winUHidCompleteReadEvent, created, memory] using h
        exact readEventCompleteBytes_of_take (c := ⟨event.requestId, statusUnsuccessful, 0⟩) rfl
          sent long
      | some buffer =>
        have sent : (readEventCompleteBytes
            ⟨event.requestId, statusSuccess, truncatedLength event dataLength⟩
            ((List.range (truncatedLength event dataLength).toNat).map buffer)).take
              (readEventCompleteLength (truncatedLength event dataLength)).toNat = bytes := by
          simpa [winUHidCompleteReadEvent, created, memory] using h
        exact readEventCompleteBytes_of_take
          (c := ⟨event.requestId, statusSuccess, truncatedLength event dataLength⟩) (by simp) sent
          long

theorem readEventComplete_of_sent {garbage : UInt8} {data : Option (Nat → UInt8)}
    {dataLength : UInt32}
    (h : winUHidCompleteReadEvent calls garbage event data dataLength = some bytes)
    (long : sizeofReadEventComplete ≤ bytes.length) :
    (InputBuffer.mk bytes beyond).readEventComplete = answerRecord calls event data dataLength := by
  rw [winUHidCompleteReadEvent_some h long]
  exact readEventComplete_stored _ _ beyond

theorem checkWriteEvent_of_sent {ctx : FileContext} {success : Bool} (handle : ctx.vhfHandle)
    (h : winUHidCompleteWriteEvent calls event success = some bytes) :
    ∃ c, checkWriteEvent ctx ⟨bytes, beyond⟩ = .ok c :=
  ⟨_, checkWriteEvent_eq_ok.mpr ⟨handle, (winUHidCompleteWriteEvent_some beyond h).1, rfl⟩⟩

theorem checkReadEvent_of_deliver {ctx : FileContext} {garbage : UInt8}
    {data : Option (Nat → UInt8)} {dataLength : UInt32} (handle : ctx.vhfHandle)
    (hn : dataLength.toNat < 2 ^ 32 - readDataOffset) (deliver : calls.Deliver data dataLength)
    (h : winUHidCompleteReadEvent calls garbage event data dataLength = some bytes) :
    ∃ c, checkReadEvent ctx ⟨bytes, beyond⟩ = .ok c := by
  rw [winUHidCompleteReadEvent_eq hn, if_pos deliver.1] at h
  have record : (InputBuffer.mk bytes beyond).readEventComplete =
      answerRecord calls event data dataLength := by
    rw [← Option.some.inj h]
    exact readEventComplete_stored _ _ beyond
  have length : (InputBuffer.mk bytes beyond).length =
      readDataOffset + (answerData calls garbage event data dataLength).length := by
    rw [← Option.some.inj h]
    exact length_readEventCompleteBytes _ _
  have one := ((deliver_iff garbage event).mp deliver).2
  have fits : (answerRecord calls event data dataLength).dataLength.toNat ≤
      (answerData calls garbage event data dataLength).length := answerRecord_dataLength_le
  refine ⟨_, checkReadEvent_eq_ok.mpr ⟨handle, ?_, ?_, rfl⟩⟩
  · rw [length, sizeofReadEventComplete]
    omega
  · rw [record, length, readEventCompleteLength_toNat]
    exact Nat.le_trans (Nat.mod_le _ _) (by omega)

end Records

/-- The operation, where VHF waits for it. -/
def Operation.real (op : Operation) : Multiset Operation := if op.requestId = 0 then 0 else {op}

def realOperations (ops : List Operation) : Multiset Operation := (ops.map Operation.real).sum

@[simp] theorem realOperations_nil : realOperations [] = 0 := rfl

@[simp] theorem realOperations_cons (op : Operation) (ops : List Operation) :
    realOperations (op :: ops) = op.real + realOperations ops := by simp [realOperations]

@[simp] theorem realOperations_append (ops ops' : List Operation) :
    realOperations (ops ++ ops') = realOperations ops + realOperations ops' := by
  simp [realOperations]

theorem mem_real {op o : Operation} : o ∈ op.real ↔ o = op ∧ op.requestId ≠ 0 := by
  unfold Operation.real
  split <;> simp [*]

theorem mem_realOperations {ops : List Operation} {op : Operation} :
    op ∈ realOperations ops ↔ op ∈ ops ∧ op.requestId ≠ 0 := by
  rw [realOperations, mem_sum_map]
  constructor
  · rintro ⟨o, ho, hm⟩
    obtain ⟨rfl, real⟩ := mem_real.mp hm
    exact ⟨ho, real⟩
  · exact fun h => ⟨op, h.1, mem_real.mpr ⟨rfl, h.2⟩⟩

/-- The completion IOCTL that a thread is about. -/
def Thread.completing : Thread → Option IoRequest
  | .completeWrite request _ | .takeWrite request _ | .completeRead request _
  | .takeRead request _ _ => some request
  | _ => none

/-- The operations whose events a thread is about to deliver, and the one whose answer it brings. -/
def Thread.inTransit (answered : IoRequest → Option EventReply) (t : Thread) : Multiset Operation :=
  realOperations ((deliveries t.effects).map Prod.snd ++
    (t.completing.bind answered).toList.map EventReply.op)

/-- What a completion IOCTL carries is what the client answered. -/
def Thread.Answering (answered : IoRequest → Option EventReply) : Thread → Prop
  | .completeWrite request input => ∃ op calls success,
    answered request = some ⟨op, .write calls success⟩ ∧
      winUHidCompleteWriteEvent calls op.event success = some input.bytes
  | .completeRead request input => ∃ op calls garbage data dataLength,
    answered request = some ⟨op, .read calls garbage data dataLength⟩ ∧
      winUHidCompleteReadEvent calls garbage op.event data dataLength = some input.bytes
  | .takeWrite request c => ∃ op calls success,
    answered request = some ⟨op, .write calls success⟩ ∧
      c.requestId = op.requestId ∧ ntSuccess c.status = success
  | .takeRead request input c => ∃ op calls garbage data dataLength,
    answered request = some ⟨op, .read calls garbage data dataLength⟩ ∧
      winUHidCompleteReadEvent calls garbage op.event data dataLength = some input.bytes ∧
      sizeofReadEventComplete ≤ input.bytes.length ∧ c = input.readEventComplete
  | _ => True

theorem inTransit_congr {answered answered' : IoRequest → Option EventReply} {t : Thread}
    (h : ∀ request ∈ t.completing, answered' request = answered request) :
    t.inTransit answered' = t.inTransit answered := by
  unfold Thread.inTransit
  cases hc : t.completing with
  | none => rfl
  | some request => rw [Option.bind_some, Option.bind_some, h request hc]

theorem answering_congr {answered answered' : IoRequest → Option EventReply} {t : Thread}
    (h : ∀ request ∈ t.completing, answered' request = answered request)
    (ht : t.Answering answered) : t.Answering answered' := by
  cases t <;> simp_all [Thread.Answering, Thread.completing]

theorem inTransit_remaining (answered : IoRequest → Option EventReply) (es : List Effect) :
    ((remaining es).map (Thread.inTransit answered)).sum =
      realOperations ((deliveries es).map Prod.snd) := by
  cases es <;> simp [remaining, Thread.inTransit, Thread.effects, Thread.completing, deliveries]

theorem LoggedReach.file {reports : ParsedReports} {f : LoggedFile} (h : LoggedReach reports f) :
    FileReach Runs.anyStep reports f.pool := by
  induction h with
  | start hi =>
    cases hi
    exact .start rfl
  | next _ _ hs ih =>
    obtain ⟨p, hp, rfl⟩ := Option.map_eq_some_iff.mp hs
    exact ih.next trivial hp

theorem completing_lt {guard : FilePool → Action → Prop} {reports : ParsedReports} {p : FilePool}
    (h : FileReach guard reports p) {t : Thread} (ht : t ∈ p.threads) {request : IoRequest}
    (hr : request ∈ t.completing) : request < p.shared.nextRequest := by
  by_contra fresh
  have located := token_located h (.request request)
  rw [count_issued_of_fresh (Nat.not_lt.mp fresh)] at located
  have nowhere : .request request ∉ (p.threads.map Thread.holds).sum :=
    Multiset.count_eq_zero.mp (by omega)
  refine nowhere (mem_sum_map.mpr ⟨t, ht, ?_⟩)
  cases t <;> simp_all [Thread.completing, Thread.holds]

/-- An id names one operation that is out with the client. -/
theorem LoggedReach.outstanding_unique {reports : ParsedReports} {f : LoggedFile}
    (h : LoggedReach reports f)
    (recent : ∀ op ∈ f.pool.shared.ctx.outstandingRequests, f.log.since op < 2 ^ 31)
    {a b : Operation} (ha : a ∈ f.pool.shared.ctx.outstandingRequests)
    (hb : b ∈ f.pool.shared.ctx.outstandingRequests) (real : a.requestId ≠ 0)
    (same : a.requestId = b.requestId) : a = b := by
  have order := requestIds_inOrder h
  have present {op : Operation} (hop : op ∈ f.pool.shared.ctx.outstandingRequests) :
      op ∈ present f.pool.shared f.log f.pool.threads := by
    simp [WinUHid.present, FileContext.operations, hop]
  have object := order.same_object (present ha) (present hb) real same (recent a ha) (recent b hb)
  have distinct : (f.pool.shared.ctx.operations.map Operation.object).Nodup := by
    have objects := order.objects
    rw [WinUHid.present, Multiset.map_add, Multiset.map_add] at objects
    have apart := Multiset.coe_nodup.mp (Multiset.nodup_add.mp objects).2.1
    exact (List.nodup_append'.mp apart).1
  exact List.inj_on_of_nodup_map distinct (List.mem_append_right _ ha)
    (List.mem_append_right _ hb) object

end WinUHid
