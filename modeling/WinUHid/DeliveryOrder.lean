import WinUHid.ExactlyOnce

namespace WinUHid

def FileEvent.queuedOperation : FileEvent → Option Operation
  | .queued op => some op
  | _ => none

def FileEvent.handedOperation : FileEvent → Option (IoRequest × Operation)
  | .handed request op => some (request, op)
  | _ => none

/-- The operations added to `WaitingRequests`, in order. -/
def addedOperations (trace : List FileEvent) : List Operation :=
  trace.filterMap FileEvent.queuedOperation

/-- The operations taken from `WaitingRequests`, in order, with the requests that took them. -/
def handedOperations (trace : List FileEvent) : List (IoRequest × Operation) :=
  trace.filterMap FileEvent.handedOperation

/-- The event a request is completed with, if it is completed with success and one. -/
def Effect.delivery : Effect → Option (IoRequest × Operation)
  | .requestComplete request status _ (some op) => if ntSuccess status then some (request, op) else none
  | _ => none

def deliveries (es : List Effect) : List (IoRequest × Operation) := es.filterMap Effect.delivery

@[simp] theorem addedOperations_append (trace trace' : List FileEvent) :
    addedOperations (trace ++ trace') = addedOperations trace ++ addedOperations trace' := by
  simp [addedOperations]

@[simp] theorem handedOperations_append (trace trace' : List FileEvent) :
    handedOperations (trace ++ trace') = handedOperations trace ++ handedOperations trace' := by
  simp [handedOperations]

@[simp] theorem addedOperations_effects (es : List Effect) :
    addedOperations (es.map .effect) = [] := by
  simp [addedOperations, FileEvent.queuedOperation]

@[simp] theorem handedOperations_effects (es : List Effect) :
    handedOperations (es.map .effect) = [] := by
  simp [handedOperations, FileEvent.handedOperation]

@[simp] theorem handedOperations_effect (e : Effect) : handedOperations [.effect e] = [] := rfl

@[simp] theorem handedOperations_queued (op : Operation) : handedOperations [.queued op] = [] := rfl

/-- What has been taken and what still waits make up what was added, except what a close ran
down. -/
def FileState.InOrder (s : FileState) : Prop :=
  (handedOperations s.trace).map Prod.snd ++ s.ctx.waitingRequests <+: addedOperations s.trace ∧
    (s.ctx.vhfHandle →
      (handedOperations s.trace).map Prod.snd ++ s.ctx.waitingRequests = addedOperations s.trace)

theorem FileState.InOrder.of_eq {s s' : FileState} (h : s.InOrder)
    (ha : addedOperations s'.trace = addedOperations s.trace)
    (hh : handedOperations s'.trace = handedOperations s.trace)
    (hw : s'.ctx.waitingRequests = s.ctx.waitingRequests)
    (hv : s'.ctx.vhfHandle = s.ctx.vhfHandle) : s'.InOrder := by
  rw [FileState.InOrder, ha, hh, hw, hv]
  exact h

theorem Thread.Steps.inOrder {fw : Framework} {s s' : FileState} {t : Thread} {ts : List Thread}
    (h : Thread.Steps fw s t s' ts) (hs : s.InOrder) : s'.InOrder := by
  cases h with
  | unknownReport call rest ctx _ hc | created call rest ctx op _ hc =>
    obtain ⟨hctx, _⟩ := FileContext.createOperation_eq hc
    exact hs.of_eq rfl rfl (by rw [hctx]) (by rw [hctx])
  | queued op rest hv =>
    have hall := hs.2 hv
    have heq : (handedOperations (s.trace ++ [.queued op])).map Prod.snd ++
        (s.ctx.waitingRequests ++ [op]) = addedOperations (s.trace ++ [.queued op]) := by
      rw [handedOperations_append, addedOperations_append, ← hall]
      simp [handedOperations, addedOperations, FileEvent.handedOperation,
        FileEvent.queuedOperation]
    exact ⟨heq ▸ List.prefix_rfl, fun _ => heq⟩
  | handed event caller rest op waiting hw =>
    have hadded : addedOperations (s.trace ++ [.handed event.request op]) =
        addedOperations s.trace := by
      rw [addedOperations_append]
      exact List.append_nil _
    have hhanded : (handedOperations (s.trace ++ [.handed event.request op])).map Prod.snd ++
        waiting = (handedOperations s.trace).map Prod.snd ++ s.ctx.waitingRequests := by
      rw [handedOperations_append, hw, List.map_append, List.append_assoc]
      rfl
    refine ⟨?_, fun hv => ?_⟩
    · simp only [FileState.record_trace, FileState.record_ctx, hadded, hhanded]
      exact hs.1
    · simp only [FileState.record_trace, FileState.record_ctx, hadded, hhanded]
      exact hs.2 hv
  | closed =>
    refine ⟨?_, fun hv => by cases hv⟩
    simp only [FileState.emit_trace, addedOperations_append, handedOperations_append,
      addedOperations_effects, handedOperations_effects, FileState.emit_ctx, List.append_nil]
    exact List.IsPrefix.trans (List.prefix_append _ _) hs.1
  | readRejected | readAccepted => exact hs.of_eq (by simp) (by simp) rfl rfl
  | called e effects =>
    refine hs.of_eq ?_ ?_ rfl rfl
    · exact (addedOperations_append _ _).trans (List.append_nil _)
    · exact (handedOperations_append _ _).trans (List.append_nil _)
  | _ => exact hs.of_eq rfl rfl rfl rfl

section

variable {guard : FilePool → Action → Prop} {reports : ParsedReports} {p : FilePool}

theorem handed_inOrder (h : FileReach guard reports p) : p.shared.InOrder := by
  induction h using FileReach.induct with
  | start => exact ⟨List.prefix_rfl, fun _ => rfl⟩
  | arrives p a s t _ _ _ ha ih =>
    cases ha with
    | readyForNextReadReport | asyncOperation =>
      refine ih.of_eq ?_ ?_ rfl rfl
      · exact (addedOperations_append _ _).trans (List.append_nil _)
      · exact (handedOperations_append _ _).trans (List.append_nil _)
    | _ => exact ih.of_eq rfl rfl rfl rfl
  | cancelled p before event after _ _ _ ih => exact ih.of_eq (by simp) (by simp) rfl rfl
  | ran p i fw l t r s ts _ _ _ _ _ hs ih => exact hs.inOrder ih

end

@[simp] theorem deliveries_nil : deliveries [] = [] := rfl

@[simp] theorem deliveries_append (es fs : List Effect) :
    deliveries (es ++ fs) = deliveries es ++ deliveries fs := by simp [deliveries]

theorem deliveries_cons_of_none {e : Effect} (h : e.delivery = none) (es : List Effect) :
    deliveries (e :: es) = deliveries es := by simp [deliveries, h]

@[simp] theorem deliveries_objectDelete (object : ObjectId) (es : List Effect) :
    deliveries (.objectDelete object :: es) = deliveries es := deliveries_cons_of_none rfl es

theorem deliveries_of_none {es : List Effect} (h : ∀ e ∈ es, e.delivery = none) :
    deliveries es = [] := by
  simpa [deliveries] using h

@[simp] theorem deliveries_completeIfHandle (handle : Option OperationHandle) (status : NTSTATUS) :
    deliveries (completeIfHandle handle status) = [] := by cases handle <;> rfl

@[simp] theorem deliveries_requestFailed (request : IoRequest) (status : NTSTATUS) :
    deliveries (requestFailed request status) = [] := rfl

@[simp] theorem deliveries_completeOperation (fw : Framework) (request : IoRequest)
    (op : Operation) (status : NTSTATUS) :
    deliveries (completeOperation fw request op status) = [] := rfl

@[simp] theorem deliveries_finishPseudoOperation (request : IoRequest) (object : ObjectId)
    (status : NTSTATUS) : deliveries (finishPseudoOperation request object status) = [] := rfl

@[simp] theorem deliveries_readCompletion (fw : Framework) (numberedReports : Bool)
    (request : IoRequest) (op : Operation) (completion : ReadCompletion) :
    deliveries (completion.effects fw numberedReports request op) = [] := by
  refine deliveries_of_none ?_
  cases completion with
  | submitReport packet =>
    cases numberedReports <;>
      simp [ReadCompletion.effects, submitReads, finishPseudoOperation, Effect.delivery]
  | fill status n =>
    simp only [ReadCompletion.effects, fillReport]
    split <;> simp [completeOperation, Effect.delivery]
  | _ => simp [ReadCompletion.effects, finishPseudoOperation, completeOperation, Effect.delivery]

@[simp] theorem deliveries_rundown (ops : List Operation) : deliveries (rundown ops) = [] := by
  induction ops with
  | nil => rfl
  | cons op ops ih =>
    rw [rundown, List.append_assoc, deliveries_append, deliveries_append, ih]
    split <;> rfl

@[simp] theorem deliveries_evtIoWrite (fw : Framework) (ctx : FileContext) (request : IoRequest)
    (input : InputBuffer) : deliveries (evtIoWrite fw ctx request input) = [] := by
  unfold evtIoWrite
  split
  · rfl
  · split
    · rfl
    · split <;> rfl

@[simp] theorem deliveries_headerReads (ctx : FileContext) (input : InputBuffer) :
    deliveries (headerReads ctx input) = [] := by
  unfold headerReads
  split <;> rfl

/-- The calls a thread is already committed to. -/
def Thread.effects : Thread → List Effect
  | .dispatch _ rest => rest
  | .enqueue _ rest => rest
  | .retrieve rest => rest
  | .serve _ _ rest => rest
  | .park _ _ rest => rest
  | .calls effects => effects
  | _ => []

/-- The events a thread is about to deliver. -/
def Thread.owes (t : Thread) : Multiset (IoRequest × Operation) := ↑(deliveries t.effects)

@[simp] theorem owes_remaining (es : List Effect) :
    ((remaining es).map Thread.owes).sum = ↑(deliveries es) := by
  cases es <;> simp [remaining, Thread.owes, Thread.effects]

def FileState.delivered (s : FileState) : Multiset (IoRequest × Operation) :=
  ↑(deliveries (effectsOf s.trace))

def FileState.taken (s : FileState) : Multiset (IoRequest × Operation) :=
  ↑(handedOperations s.trace)

/-- A step of a thread delivers nothing it did not owe, and owes what it takes. -/
theorem Thread.Steps.deliveryLedger {fw : Framework} {s s' : FileState} {t : Thread}
    {ts : List Thread} (h : Thread.Steps fw s t s' ts) : ∃ gain, s'.taken = s.taken + gain ∧
      s'.delivered + (ts.map Thread.owes).sum = s.delivered + t.owes + gain := by
  cases h with
  | handed event caller rest op waiting hw hf ha =>
    refine ⟨↑[(event.request, op)], ?_, ?_⟩
    · rw [FileState.taken, FileState.record_trace, handedOperations_append, ← Multiset.coe_add]
      rfl
    · have hpay : deliveries (.requestComplete event.request fw.collectionAdd (bytesTransferred op)
          (some op) :: rest) = (event.request, op) :: deliveries rest := by
        simp [deliveries, Effect.delivery, ha]
      simp [FileState.delivered, effectsOf_singleton, Thread.owes, Thread.effects, hpay]
      rw [add_comm, Multiset.singleton_add, Multiset.cons_coe]
      exact Multiset.coe_eq_coe.mpr List.perm_middle
  | called e effects =>
    refine ⟨0, ?_, ?_⟩
    · simp [FileState.taken, FileState.emit]
    · have hpay : deliveries (e :: effects) = deliveries [e] ++ deliveries effects :=
        deliveries_append [e] effects
      simp [FileState.delivered, effectsOf_singleton, Thread.owes, Thread.effects, hpay]
  | closed =>
    have hclose : deliveries (if s.ctx.vhfHandle then [.vhfDelete] else []) = [] := by
      split <;> rfl
    refine ⟨0, by simp [FileState.taken], ?_⟩
    simp [FileState.delivered, Thread.owes, Thread.effects, hclose]
  | queued | readRejected | readAccepted =>
    refine ⟨0, by simp [FileState.taken], ?_⟩
    simp [FileState.delivered, effectsOf_singleton, Thread.owes, Thread.effects]
  | _ =>
    refine ⟨0, (add_zero _).symm, ?_⟩
    simp [FileState.delivered, Thread.owes, Thread.effects]

theorem Arrives.deliveryLedger {s s' : FileState} {a : Action} {t : Thread}
    (h : Arrives s a s' t) : s'.taken = s.taken ∧ s'.delivered = s.delivered ∧ t.owes = 0 := by
  cases h with
  | readyForNextReadReport | asyncOperation =>
    refine ⟨?_, ?_, rfl⟩
    · rw [FileState.taken, FileState.record_trace, handedOperations_append]
      exact congrArg _ (List.append_nil _)
    · rw [FileState.delivered, FileState.record_trace, effectsOf_append, deliveries_append]
      simp [FileState.delivered, effectsOf_singleton, FileEvent.effects]
  | _ => exact ⟨rfl, rfl, rfl⟩

section

variable {guard : FilePool → Action → Prop} {reports : ParsedReports} {p : FilePool}

theorem deliveries_conserved (h : FileReach guard reports p) :
    p.total FileState.delivered Thread.owes = p.shared.taken := by
  induction h using FileReach.induct with
  | start => rfl
  | arrives p a s t _ _ _ ha ih =>
    obtain ⟨ht, hd, ho⟩ := ha.deliveryLedger
    exact Pool.balanced_spawn ih (by rw [ht, add_zero]) (by rw [hd, ho])
  | cancelled p before event after _ _ _ ih =>
    have htaken : (FileState.emit
        { p.shared with getNextEventQueue := before ++ after }
        (requestFailed event.request statusCancelled)).taken = p.shared.taken := by
      simp [FileState.taken]
    have hdelivered : (FileState.emit
        { p.shared with getNextEventQueue := before ++ after }
        (requestFailed event.request statusCancelled)).delivered = p.shared.delivered := by
      simp [FileState.delivered]
    rw [Pool.total, htaken, hdelivered]
    exact ih
  | ran p i fw l t r s ts _ _ _ hp _ hs ih =>
    obtain ⟨gain, hi, hg⟩ := hs.deliveryLedger
    exact Pool.balanced_replace hp ih hi hg

theorem mem_effectsOf {e : Effect} {trace : List FileEvent} :
    e ∈ effectsOf trace ↔ .effect e ∈ trace := by
  rw [effectsOf, List.mem_flatMap]
  constructor
  · rintro ⟨event, hm, he⟩
    cases event with
    | effect e' =>
      cases List.mem_singleton.mp he
      exact hm
    | _ => cases he
  · exact fun hm => ⟨_, hm, List.mem_singleton.mpr rfl⟩

theorem mem_deliveries {request : IoRequest} {op : Operation} {es : List Effect}
    (h : (request, op) ∈ deliveries es) : ∃ status information,
      ntSuccess status ∧ .requestComplete request status information (some op) ∈ es := by
  obtain ⟨e, he, hd⟩ := List.mem_filterMap.mp h
  unfold Effect.delivery at hd
  split at hd
  next request' status information op' =>
    split at hd
    next hs =>
      cases hd
      exact ⟨status, information, hs, he⟩
    next => cases hd
  next => cases hd

theorem mem_sum_map {α β : Type*} {w : α → Multiset β} {l : List α} {x : β} :
    x ∈ (l.map w).sum ↔ ∃ a ∈ l, x ∈ w a := by
  induction l with
  | nil => simp
  | cons a l ih => simp [ih]

theorem request_mem_holds {request : IoRequest} {op : Operation} {t : Thread}
    (h : (request, op) ∈ t.owes) : .request request ∈ t.holds := by
  obtain ⟨status, information, _, hmem⟩ := mem_deliveries (Multiset.mem_coe.mp h)
  have hspends : .request request ∈ spends t.effects :=
    mem_sum_map.mpr ⟨_, hmem, Multiset.mem_singleton_self _⟩
  cases t with
  | dispatch | enqueue | serve | park => exact Multiset.mem_add.mpr (.inr hspends)
  | retrieve | calls => exact hspends
  | _ => cases hmem

theorem eq_of_countP_le_one {α : Type*} {p : α → Bool} {l : List α} {a b : α}
    (h : l.countP p ≤ 1) (ha : a ∈ l) (hpa : p a) (hb : b ∈ l) (hpb : p b) : a = b := by
  rw [List.countP_eq_length_filter] at h
  have hma : a ∈ l.filter p := List.mem_filter.mpr ⟨ha, hpa⟩
  have hmb : b ∈ l.filter p := List.mem_filter.mpr ⟨hb, hpb⟩
  match hl : l.filter p with
  | [] => rw [hl] at hma; cases hma
  | [x] =>
    rw [hl] at hma hmb
    rw [List.mem_singleton.mp hma, List.mem_singleton.mp hmb]
  | x :: y :: rest =>
    rw [hl] at h
    simp at h

theorem failed_takes_nothing (h : FileReach guard reports p) {request : IoRequest}
    {status : NTSTATUS} {information : Nat} {event : Option Operation}
    (hm : .effect (.requestComplete request status information event) ∈ p.shared.trace)
    (hs : ntSuccess status = false) (op : Operation) : .handed request op ∉ p.shared.trace := by
  intro hh
  have hfailed := mem_effectsOf.mpr hm
  have htaken : (request, op) ∈ p.shared.taken :=
    Multiset.mem_coe.mpr (List.mem_filterMap.mpr ⟨_, hh, rfl⟩)
  rw [← deliveries_conserved h, Pool.total, Multiset.mem_add] at htaken
  have hone := (count_issued p.shared (.request request)).1
  rw [← token_located h] at hone
  rcases htaken with hd | hd
  · obtain ⟨status', information', hs', hmem⟩ := mem_deliveries (Multiset.mem_coe.mp hd)
    have heq := eq_of_countP_le_one (uses_le_one h (.request request)) hfailed
      (by simp [Token.usedBy]) hmem (by simp [Token.usedBy])
    cases heq
    rw [hs'] at hs
    cases hs
  · obtain ⟨t, ht, howes⟩ := mem_sum_map.mp hd
    have hheld : .request request ∈ (p.threads.map Thread.holds).sum :=
      mem_sum_map.mpr ⟨t, ht, request_mem_holds howes⟩
    have hpos := Multiset.count_pos.mpr hheld
    have hused : 0 < uses (.request request) p.shared.trace :=
      List.countP_pos_iff.mpr ⟨_, hfailed, by simp [Token.usedBy]⟩
    omega

theorem request_answered (h : FileReach guard reports p) {request : IoRequest}
    (hr : request < p.shared.nextRequest) : uses (.request request) p.shared.trace ≤ 1 ∧
      (p.threads = [] → uses (.request request) p.shared.trace = 1 ∨
        ∃ event ∈ p.shared.getNextEventQueue, event.request = request) := by
  refine ⟨uses_le_one h _, fun hthreads => ?_⟩
  have hissued : p.shared.IsIssued (.request request) := hr
  have hloc := token_located h (.request request)
  rw [(count_issued p.shared (.request request)).2 hissued, hthreads] at hloc
  by_cases hparked : .request request ∈ queueTokens p.shared.getNextEventQueue
  · obtain ⟨event, hm, he⟩ := mem_sum_map.mp hparked
    exact .inr ⟨event, hm, (Token.request.inj (Multiset.mem_singleton.mp he)).symm⟩
  · left
    have hops : .request request ∉ operationTokens p.shared.ctx.operations :=
      request_notMem_operationTokens request _
    rw [Multiset.count_eq_zero_of_notMem hops, Multiset.count_eq_zero_of_notMem hparked] at hloc
    simpa using hloc

end

def Thread.event : Thread → Option GetNextEvent
  | .getNextEvent event => some event
  | .serve event _ _ => some event
  | .park event _ _ => some event
  | _ => none

theorem Thread.Steps.untouched {fw : Framework} {s s' : FileState} {t : Thread} {ts : List Thread}
    (h : Thread.Steps fw s t s' ts) {event : GetNextEvent} (he : t.event = some event) :
    s'.ctx = s.ctx ∨ ∃ op, s'.trace = s.trace ++ [.handed event.request op] := by
  cases h with
  | handed event' caller rest op =>
    cases he
    exact .inr ⟨op, rfl⟩
  | noDevice | accepted | pending | failed | forwarded | requeued | notParked => exact .inl rfl
  | _ => cases he

/-- Delivery over every run of a file object. The requests take operations in the order in which
they were added, and while the device is open what has not been taken is waiting. What is delivered
are the operations taken, each once and by the request that took it, all of them when no thread is
left. A request that fails takes nothing, and no other step for a request touches the collections.
Every request is completed at most once and, when no thread is left, completed or parked. -/
theorem events_delivered {reports : ParsedReports} {p : FilePool}
    (h : FileReach Runs.anyStep reports p) :
    ((handedOperations p.shared.trace).map Prod.snd <+: addedOperations p.shared.trace ∧
      (p.shared.ctx.vhfHandle →
        (handedOperations p.shared.trace).map Prod.snd ++ p.shared.ctx.waitingRequests =
          addedOperations p.shared.trace)) ∧
    ((deliveries (effectsOf p.shared.trace)).Subperm (handedOperations p.shared.trace) ∧
      (p.threads = [] →
        (deliveries (effectsOf p.shared.trace)).Perm (handedOperations p.shared.trace))) ∧
    (∀ request status information event,
      .effect (.requestComplete request status information event) ∈ p.shared.trace →
      ntSuccess status = false → ∀ op, .handed request op ∉ p.shared.trace) ∧
    (∀ fw t event, Thread.event t = some event → (t.step fw p.shared).1.ctx = p.shared.ctx ∨
      ∃ op, (t.step fw p.shared).1.trace = p.shared.trace ++ [.handed event.request op]) ∧
    ∀ request < p.shared.nextRequest, uses (.request request) p.shared.trace ≤ 1 ∧
      (p.threads = [] → uses (.request request) p.shared.trace = 1 ∨
        ∃ event ∈ p.shared.getNextEventQueue, event.request = request) := by
  have horder := handed_inOrder h
  have hdeliveries := deliveries_conserved h
  refine ⟨⟨(List.prefix_append _ _).trans horder.1, horder.2⟩, ⟨?_, fun hthreads => ?_⟩, ?_, ?_,
    fun request hr => request_answered h hr⟩
  · refine Multiset.coe_le.mp ?_
    rw [Pool.total] at hdeliveries
    exact le_of_le_of_eq (Multiset.le_add_right _ _) hdeliveries
  · rw [Pool.total, hthreads] at hdeliveries
    exact Multiset.coe_eq_coe.mp ((add_zero _).symm.trans hdeliveries)
  · exact fun request status information event hm hs op => failed_takes_nothing h hm hs op
  · exact fun fw t event he => (t.step_cases fw p.shared).untouched he

/-- Two operations are added, two requests take them in this order, and the second request is
completed first. -/
def overtaking : List Action :=
  [.asyncOperation .getFeature ⟨fun _ => 0, 4, 0⟩, .run 0 {}, .run 0 {}, .run 0 {},
    .asyncOperation .setFeature ⟨fun _ => 0, 4, 0⟩, .run 0 {}, .run 0 {}, .run 0 {},
    .getNextEvent 64, .getNextEvent 64, .run 0 {}, .run 0 {}, .run 1 {}, .run 1 {}, .run 1 {},
    .run 0 {}]

theorem overtaking_reaches : ∃ p, FileReach Runs.anyStep featureReports p ∧ p.threads = [] ∧
    (deliveries (effectsOf p.shared.trace)).map (fun d => d.2.object) = [1, 0] ∧
      (addedOperations p.shared.trace).map Operation.object = [0, 1] := by
  obtain ⟨p, hr, ht, hd, ha⟩ := exists_fileReach featureReports overtaking
    (P := fun p => p.threads.isEmpty = true ∧
      (deliveries (effectsOf p.shared.trace)).map (fun d => d.2.object) = [1, 0] ∧
      (addedOperations p.shared.trace).map Operation.object = [0, 1]) rfl
  exact ⟨p, hr, List.isEmpty_iff.mp ht, hd, ha⟩

theorem events_delivered_overtaking : ∃ p, FileReach Runs.anyStep featureReports p ∧
    (deliveries (effectsOf p.shared.trace)).Perm (handedOperations p.shared.trace) ∧
      uses (.request 0) p.shared.trace ≤ 1 := by
  obtain ⟨p, hr, ht, _, _⟩ := overtaking_reaches
  obtain ⟨_, hdelivered, _, _, _⟩ := events_delivered hr
  exact ⟨p, hr, hdelivered.2 ht, uses_le_one hr _⟩

/-- The requests are completed outside the lock, so the completions may overtake each other. -/
theorem overtaking_notPrefix : ∃ p, FileReach Runs.anyStep featureReports p ∧
    ¬(deliveries (effectsOf p.shared.trace)).map Prod.snd <+: addedOperations p.shared.trace := by
  obtain ⟨p, hr, _, hd, ha⟩ := overtaking_reaches
  refine ⟨p, hr, fun hprefix => ?_⟩
  have hobjects := hprefix.map Operation.object
  rw [List.map_map, ha] at hobjects
  have : ([1, 0] : List ObjectId) <+: [0, 1] := hd ▸ hobjects
  revert this
  decide

end WinUHid
