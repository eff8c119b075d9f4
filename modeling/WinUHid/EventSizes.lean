import WinUHid.DeliveryOrder
import WinUHid.ParserSafety

namespace WinUHid

/-- A buffer of `n` bytes has room for every event of a device with these report sizes: the
header, and the report of any operation after its fields. -/
def ParsedReports.EveryEventFits (reports : ParsedReports) (n : Nat) : Prop :=
  sizeofEvent ≤ n ∧ ∀ type reportId, eventDataOffset + (reports.sizeFor type reportId).toNat ≤ n

theorem sizeFor_le_of_parsed {d : ReportDescriptor} {reports : ParsedReports}
    (hd : parseReportDescriptor d = .ok reports) (type : EventType) (reportId : UInt8) :
    (reports.sizeFor type reportId).toNat ≤ 2 ^ 29 + 1 := by
  rcases parseReportDescriptor32_simulates d with ⟨_, parsed, _, hp, rfl, sizes⟩ | ⟨_, _, _, hp⟩
  · cases hp.symm.trans hd
    exact sizes reportId type.reportKind
  · cases hp.symm.trans hd

theorem everyEventFits_of_parsed {d : ReportDescriptor} {reports : ParsedReports}
    (hd : parseReportDescriptor d = .ok reports) {n : Nat} (hn : 2 ^ 30 ≤ n) :
    reports.EveryEventFits n := by
  refine ⟨?_, fun type reportId => ?_⟩
  · simp only [sizeofEvent, eventDataOffset]
    omega
  · have hsize := sizeFor_le_of_parsed hd type reportId
    simp only [eventDataOffset]
    omega

theorem length_eventData_of_issued {s : FileState} {op : Operation} (h : s.Issued op) :
    (eventData op).length = 0 ∨
      ∃ type reportId, (eventData op).length ≤ (s.ctx.reports.sizeFor type reportId).toNat := by
  rcases h with hp | ⟨type, handle, packet, n, _, _, heq⟩
  · left
    rw [hp, length_eventData]
    rfl
  · right
    refine ⟨type, packet.reportId, ?_⟩
    have hlen : op.hidTransferPacket.reportBufferLen.toNat = min packet.reportBufferLen.toNat
        (s.ctx.reports.sizeFor type packet.reportId).toNat := by
      rw [heq]
      exact HidXferPacket.clamp_reportBufferLen packet _
    rw [length_eventData]
    split <;> omega

theorem fits_of_issued {s : FileState} {op : Operation} (h : s.Issued op) {n : Nat}
    (hn : s.ctx.reports.EveryEventFits n) : Fits op n := by
  obtain ⟨header, report⟩ := hn
  refine ⟨header, ?_⟩
  rcases length_eventData_of_issued h with hlen | ⟨type, reportId, hlen⟩
  · rw [hlen]
    simp only [sizeofEvent] at header
    omega
  · have := report type reportId
    omega

theorem tryCompleteGetNextEvent_failed {fw : Framework} {ctx ctx' : FileContext} {n : Nat}
    {status : NTSTATUS} (h : tryCompleteGetNextEvent fw ctx n = (.failed status, ctx')) :
    status = fw.retrieveOutputMemory ∨ status = fw.collectionAdd ∨
      status = statusBufferTooSmall ∧ ∃ op ∈ ctx.waitingRequests, ¬Fits op n := by
  unfold tryCompleteGetNextEvent at h
  split at h
  next => cases h
  next op waiting hw =>
    rw [copyEvent_eq] at h
    split at h
    · cases h
      exact .inl rfl
    · by_cases hf : Fits op n
      · rw [if_pos hf] at h
        dsimp only at h
        split at h
        · cases h
          exact .inr (.inl rfl)
        · cases h
      · rw [if_neg hf] at h
        cases h
        exact .inr (.inr ⟨rfl, op, by rw [hw]; exact List.mem_cons_self, hf⟩)

/-- What is documented of the calls that the next step of a thread can make: none returns
STATUS_BUFFER_TOO_SMALL, save `WdfRequestRetrieveOutputMemory` for an output buffer of length
zero. -/
def Framework.Documented (fw : Framework) (_ : FilePool) : Thread → Prop
  | .serve event _ _ =>
    (fw.retrieveOutputMemory = statusBufferTooSmall → event.outputLength = 0) ∧
      fw.collectionAdd ≠ statusBufferTooSmall
  | .park _ _ _ =>
    fw.forwardToIoQueue ≠ statusBufferTooSmall ∧ fw.requestRequeue ≠ statusBufferTooSmall
  | _ => True

instance (fw : Framework) (p : FilePool) : ∀ t, Decidable (fw.Documented p t)
  | .serve _ _ _ => inferInstanceAs (Decidable (_ ∧ _))
  | .park _ _ _ => inferInstanceAs (Decidable (_ ∧ _))
  | .dispatch _ _ | .enqueue _ _ | .retrieve _ | .getNextEvent _ | .completeWrite _ _
  | .takeWrite _ _ | .completeRead _ _ | .takeRead _ _ _ | .write _ _ | .close
  | .calls _ => .isTrue trivial

/-- The request is completed with STATUS_BUFFER_TOO_SMALL. -/
def Effect.refuses (request : IoRequest) : Effect → Bool
  | .requestComplete r status _ _ => r == request && status == statusBufferTooSmall
  | _ => false

theorem not_refuses_of_spends {request : IoRequest} {es : List Effect}
    (h : .request request ∉ spends es) : ∀ e ∈ es, e.refuses request = false := by
  induction es with
  | nil => simp
  | cons e es ih =>
    rw [spends_cons, Multiset.mem_add, not_or] at h
    refine List.forall_mem_cons.mpr ⟨?_, ih h.2⟩
    by_contra hr
    refine h.1 ?_
    cases e with
    | requestComplete r status information event =>
      obtain ⟨rfl, _⟩ : r = request ∧ status = statusBufferTooSmall := by
        simpa [Effect.refuses] using hr
      exact Multiset.mem_singleton_self _
    | _ => exact absurd rfl hr

/-- If the request is a GET_NEXT_EVENT its output buffer has `n` bytes, and what is left of the
thread does not refuse it. -/
def Thread.Unrefused (request : IoRequest) (n : Nat) : Thread → Prop
  | .dispatch _ rest | .enqueue _ rest | .retrieve rest | .calls rest =>
    ∀ e ∈ rest, e.refuses request = false
  | .getNextEvent event => event.request = request → event.outputLength = n
  | .serve event _ rest | .park event _ rest =>
    (event.request = request → event.outputLength = n) ∧ ∀ e ∈ rest, e.refuses request = false
  | .completeWrite r _ | .takeWrite r _ | .completeRead r _ | .takeRead r _ _ | .write r _ =>
    r ≠ request
  | .close => True

structure FileState.Unrefused (s : FileState) (request : IoRequest) (n : Nat) : Prop where
  parked : ∀ event ∈ s.getNextEventQueue, event.request = request → event.outputLength = n
  trace : ∀ e ∈ effectsOf s.trace, e.refuses request = false

/-- The request was made, and no thread refuses it or will. -/
structure FilePool.Unrefused (p : FilePool) (request : IoRequest) (n : Nat) : Prop where
  made : request < p.shared.nextRequest
  shared : p.shared.Unrefused request n
  threads : ∀ t ∈ p.threads, t.Unrefused request n

section

variable {request : IoRequest} {n : Nat}

theorem unrefused_remaining {es : List Effect} (h : ∀ e ∈ es, e.refuses request = false) :
    ∀ u ∈ remaining es, u.Unrefused request n := by
  intro u hu
  cases es with
  | nil => cases hu
  | cons e es =>
    cases List.mem_singleton.mp hu
    exact h

theorem unrefused_of_not_holds {t : Thread} (h : .request request ∉ t.holds) :
    t.Unrefused request n := by
  cases t with
  | dispatch call rest | enqueue op rest =>
    rw [Thread.holds, Multiset.mem_add, not_or] at h
    exact not_refuses_of_spends h.2
  | retrieve rest | calls effects => exact not_refuses_of_spends h
  | getNextEvent event =>
    intro he
    exact absurd (Multiset.mem_singleton.mpr (by rw [he])) h
  | serve event caller rest | park event caller rest =>
    rw [Thread.holds, Multiset.mem_add, not_or] at h
    refine ⟨fun he => ?_, not_refuses_of_spends h.2⟩
    exact absurd (Multiset.mem_singleton.mpr (by rw [he])) h.1
  | close => trivial
  | _ =>
    intro he
    exact h (Multiset.mem_singleton.mpr (by rw [he]))

/-- Once every waiting event fits in its buffer, the request is not refused when it is served. -/
theorem serve_unrefused {fw : Framework} {s : FileState} {event : GetNextEvent} {caller : Caller}
    {rest : List Effect} (ht : (Thread.serve event caller rest).Unrefused request n)
    {p : FilePool} (hdoc : fw.Documented p (.serve event caller rest)) (hpos : 0 < n)
    (fits : ∀ op ∈ s.ctx.waitingRequests, Fits op n) :
    ∀ u ∈ (s.serve fw event caller rest).2, u.Unrefused request n := by
  obtain ⟨length, quiet⟩ := ht
  obtain ⟨memory, added⟩ := hdoc
  have refused : ∀ status, (event.request = request → status ≠ statusBufferTooSmall) →
      ∀ information delivered, (Effect.requestComplete event.request status information
        delivered).refuses request = false := by
    intro status hstatus information delivered
    simpa [Effect.refuses] using hstatus
  unfold FileState.serve
  rcases tryCompleteGetNextEvent_cases fw s.ctx event.outputLength with
    ⟨_, he⟩ | ⟨op, waiting, status, hw, _, _, he⟩ | ⟨op, waiting, _, _, _, _, he⟩
  · rw [he]
    exact List.forall_mem_singleton.mpr ⟨length, quiet⟩
  · rw [he]
    refine unrefused_remaining (List.forall_mem_cons.mpr ⟨refused status ?_ _ _, quiet⟩)
    intro hr hsmall
    have hn := length hr
    rcases tryCompleteGetNextEvent_failed he with hs | hs | ⟨_, op, hop, hf⟩
    · have := memory (hs.symm.trans hsmall)
      omega
    · exact added (hs.symm.trans hsmall)
    · rw [hn] at hf
      exact hf (fits op hop)
  · rw [he]
    exact unrefused_remaining (List.forall_mem_cons.mpr ⟨refused _ (fun _ => added) _ _, quiet⟩)

theorem not_refuses_completeIfHandle (handle : Option OperationHandle) (status : NTSTATUS) :
    ∀ e ∈ completeIfHandle handle status, e.refuses request = false := by
  refine not_refuses_of_spends ?_
  rw [spends_completeIfHandle]
  cases handle <;> simp [handleToken]

theorem Thread.Steps.unrefused_threads {fw : Framework} {s s' : FileState} {t : Thread}
    {ts : List Thread} (h : Thread.Steps fw s t s' ts) (hs : s.Unrefused request n)
    (ht : t.Unrefused request n) {p : FilePool} (hdoc : fw.Documented p t)
    (other : ∀ event caller rest, t ≠ .serve event caller rest) :
    ∀ u ∈ ts, u.Unrefused request n := by
  cases h with
  | notCreated call rest =>
    refine unrefused_remaining (List.forall_mem_append.mpr ⟨?_, ht⟩)
    exact not_refuses_completeIfHandle _ _
  | unknownReport call rest | givenUp op rest =>
    refine unrefused_remaining (List.forall_mem_append.mpr ⟨?_, List.forall_mem_cons.mpr ⟨rfl, ht⟩⟩)
    exact not_refuses_completeIfHandle _ _
  | created call rest | queued op rest => exact List.forall_mem_singleton.mpr ht
  | writeAccepted r input | readAccepted r input => exact List.forall_mem_singleton.mpr ht
  | nothingParked rest => exact unrefused_remaining ht
  | retrieved event queue rest hq =>
    exact List.forall_mem_singleton.mpr ⟨hs.parked event (by simp [hq]), ht⟩
  | noDevice event =>
    refine unrefused_remaining (List.forall_mem_singleton.mpr ?_)
    simp [Effect.refuses, statusInvalidDeviceState, statusBufferTooSmall]
  | accepted event => exact List.forall_mem_singleton.mpr ⟨ht, by simp⟩
  | pending event caller rest | failed event caller rest | handed event caller rest =>
    exact absurd rfl (other event caller rest)
  | forwarded event rest | requeued event rest => exact unrefused_remaining ht.2
  | notParked event caller rest status _ hstatus =>
    refine unrefused_remaining (List.forall_mem_cons.mpr ⟨?_, ht.2⟩)
    have hne : status ≠ statusBufferTooSmall := by
      rcases hstatus with rfl | rfl
      · exact hdoc.1
      · exact hdoc.2
    simp [Effect.refuses, hne]
  | writeRejected r input status | writeNotFound r c | readRejected r input status
  | readNotFound r input c | written r input =>
    refine unrefused_remaining (not_refuses_of_spends ?_)
    simpa using Ne.symm ht
  | writeTaken r c op before after =>
    refine unrefused_remaining (not_refuses_of_spends ?_)
    simpa [request_notMem_tokens] using Ne.symm ht
  | readTaken r input c op before after completion _ hid hcompletion =>
    refine unrefused_remaining (not_refuses_of_spends ?_)
    rw [hcompletion, spends_readCompletion fw _ r input hid]
    simpa [request_notMem_tokens] using Ne.symm ht
  | readFailed r input c op before after =>
    refine List.forall_mem_singleton.mpr (not_refuses_of_spends ?_)
    simpa using Ne.symm ht
  | closed =>
    refine unrefused_remaining (not_refuses_of_spends ?_)
    split <;> simp [Effect.spends]
  | ended => simp
  | called e effects => exact unrefused_remaining (List.forall_mem_cons.mp ht).2

theorem FileState.Unrefused.emit {s : FileState} (hs : s.Unrefused request n) {es : List Effect}
    (hes : ∀ e ∈ es, e.refuses request = false) : (s.emit es).Unrefused request n := by
  refine ⟨hs.parked, ?_⟩
  rw [FileState.emit_trace, effectsOf_append, effectsOf_map_effect]
  exact List.forall_mem_append.mpr ⟨hs.trace, hes⟩

theorem FileState.Unrefused.record {s : FileState} (hs : s.Unrefused request n)
    {event : FileEvent} (he : event.effects = []) : (s.record event).Unrefused request n := by
  refine ⟨hs.parked, ?_⟩
  rw [FileState.record_trace, effectsOf_append, effectsOf_singleton, he, List.append_nil]
  exact hs.trace

theorem Thread.Steps.unrefused_shared {fw : Framework} {s s' : FileState} {t : Thread}
    {ts : List Thread} (h : Thread.Steps fw s t s' ts) (hs : s.Unrefused request n)
    (ht : t.Unrefused request n) : s'.Unrefused request n := by
  have same : ∀ ctx, FileState.Unrefused { s with ctx } request n := fun _ => ⟨hs.parked, hs.trace⟩
  cases h with
  | queued op rest | handed event caller rest op => exact (same _).record rfl
  | retrieved event queue rest hq => exact ⟨fun e he => hs.parked e (by simp [hq, he]), hs.trace⟩
  | forwarded event rest =>
    exact ⟨List.forall_mem_append.mpr ⟨hs.parked, List.forall_mem_singleton.mpr ht.1⟩, hs.trace⟩
  | requeued event rest => exact ⟨List.forall_mem_cons.mpr ⟨ht.1, hs.parked⟩, hs.trace⟩
  | readRejected r input status | readAccepted r input =>
    exact hs.emit (not_refuses_of_spends (by simp))
  | closed =>
    refine (same _).emit (List.forall_mem_append.mpr ⟨?_, ?_⟩) <;>
    · refine not_refuses_of_spends ?_
      rw [spends_rundown]
      exact request_notMem_operationTokens request _
  | called e effects =>
    exact hs.emit (List.forall_mem_singleton.mpr (List.forall_mem_cons.mp ht).1)
  | _ => exact ⟨hs.parked, hs.trace⟩

theorem Thread.Steps.nextRequest {fw : Framework} {s s' : FileState} {t : Thread}
    {ts : List Thread} (h : Thread.Steps fw s t s' ts) : s'.nextRequest = s.nextRequest := by
  cases h <;> rfl

theorem Thread.step_unrefused {fw : Framework} {s : FileState} {t : Thread}
    (hs : s.Unrefused request n) (ht : t.Unrefused request n) {p : FilePool}
    (hdoc : fw.Documented p t) (hpos : 0 < n) (fits : ∀ op ∈ s.ctx.waitingRequests, Fits op n) :
    (t.step fw s).1.Unrefused request n ∧ ∀ u ∈ (t.step fw s).2, u.Unrefused request n := by
  have hsteps := Thread.step_cases fw s t
  refine ⟨hsteps.unrefused_shared hs ht, ?_⟩
  cases t with
  | serve event caller rest => exact serve_unrefused ht hdoc hpos fits
  | _ => exact hsteps.unrefused_threads hs ht hdoc (by simp)

theorem Arrives.unrefused {s s' : FileState} {a : Action} {t : Thread} (h : Arrives s a s' t)
    (hmade : request < s.nextRequest) (hs : s.Unrefused request n) :
    request < s'.nextRequest ∧ s'.Unrefused request n ∧ t.Unrefused request n := by
  have hne : s.nextRequest ≠ request := Nat.ne_of_gt hmade
  cases h with
  | readyForNextReadReport => exact ⟨hmade, hs.record rfl, by simp [Thread.Unrefused]⟩
  | asyncOperation type packet =>
    have hhandle : FileState.Unrefused { s with nextHandle := s.nextHandle + 1 } request n :=
      ⟨hs.parked, hs.trace⟩
    exact ⟨hmade, hhandle.record rfl, by simp [Thread.Unrefused]⟩
  | fileClose => exact ⟨hmade, hs, trivial⟩
  | getNextEvent outputLength =>
    exact ⟨Nat.lt_succ_of_lt hmade, ⟨hs.parked, hs.trace⟩, fun he => absurd he hne⟩
  | _ => exact ⟨Nat.lt_succ_of_lt hmade, ⟨hs.parked, hs.trace⟩, hne⟩

/-- Where every waiting event fits in its buffer, no step refuses a request. -/
theorem FilePool.Unrefused.step {p p' : FilePool} {a : Action} (h : FilePool.Unrefused p request n)
    (hdoc : onRun Framework.Documented p a) (hpos : 0 < n)
    (fits : ∀ op ∈ p.shared.ctx.waitingRequests, Fits op n) (hstep : fileStep p a = some p') :
    FilePool.Unrefused p' request n := by
  obtain ⟨made, shared, threads⟩ := h
  rcases fileStep_cases hstep with ⟨s, t, ha, rfl⟩ | ⟨i, before, event, after, rfl, hq, rfl⟩ |
    ⟨i, fw, _, _, _, _, _, rfl, -⟩
  · obtain ⟨hmade, hs, ht⟩ := ha.unrefused made shared
    exact ⟨hmade, hs, Pool.forall_spawn threads ht⟩
  · have hqueue : FileState.Unrefused
        { p.shared with getNextEventQueue := before ++ after } request n := by
      refine ⟨fun e he => shared.parked e ?_, shared.trace⟩
      rw [hq]
      rcases List.mem_append.mp he with he | he
      · exact List.mem_append_left _ he
      · exact List.mem_append_right _ (List.mem_cons_of_mem _ he)
    refine ⟨made, hqueue.emit (List.forall_mem_singleton.mpr ?_), threads⟩
    simp [Effect.refuses, statusCancelled, statusBufferTooSmall]
  · obtain ⟨l, t, r, hp, ht, hs, hts⟩ := Pool.run_cases hstep
    have hmem : t ∈ p.threads := by simp [hp]
    obtain ⟨hshared, hnew⟩ := Thread.step_unrefused shared (threads t hmem) (hdoc t ht) hpos fits
    refine ⟨?_, hs ▸ hshared, ?_⟩
    · rw [hs, (Thread.step_cases fw p.shared t).nextRequest]
      exact made
    · rw [hts]
      exact Pool.forall_replace (fun u hu => threads u (hp ▸ hu)) fun _ => hnew

theorem count_issued_of_fresh {s : FileState} (hr : s.nextRequest ≤ request) :
    s.issued.count (.request request) = 0 := by
  rw [FileState.issued, Multiset.count_add, Multiset.count_add,
    count_tokensBelow fun _ _ => Token.request.inj, if_neg (Nat.not_lt.mpr hr)]
  simp [count_tokensBelow_of_ne]

/-- A request that has not been made yet is nowhere. -/
theorem unrefused_of_fresh {guard : FilePool → Action → Prop} {reports : ParsedReports}
    {p : FilePool} (h : FileReach guard reports p) (hr : p.shared.nextRequest ≤ request) :
    p.shared.Unrefused request n ∧ ∀ t ∈ p.threads, t.Unrefused request n := by
  have hloc := token_located h (.request request)
  rw [count_issued_of_fresh hr] at hloc
  have hheld : .request request ∉ (p.threads.map Thread.holds).sum :=
    Multiset.count_eq_zero.mp (by omega)
  refine ⟨⟨fun event he hevent => ?_, ?_⟩, fun t ht => ?_⟩
  · have hparked : .request request ∉ queueTokens p.shared.getNextEventQueue :=
      Multiset.count_eq_zero.mp (by omega)
    refine absurd (mem_sum_map.mpr ⟨event, he, ?_⟩) hparked
    exact Multiset.mem_singleton.mpr (by rw [hevent])
  · refine not_refuses_of_spends (Multiset.count_eq_zero.mp ?_)
    rw [count_spends]
    exact (by omega : uses (.request request) p.shared.trace = 0)
  · exact unrefused_of_not_holds fun hm => hheld (mem_sum_map.mpr ⟨t, ht, hm⟩)

end

end WinUHid
