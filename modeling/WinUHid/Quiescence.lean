import WinUHid.DeliveryOrder

namespace WinUHid

/-- More than the steps that a thread can still take. -/
def Thread.stepsLeft : Thread → Nat
  | .calls effects => effects.length + 1
  | .park _ _ rest => rest.length + 3
  | .serve _ _ rest => rest.length + 4
  | .retrieve rest => rest.length + 5
  | .enqueue _ rest => rest.length + 6
  | .dispatch _ rest => rest.length + 7
  | .getNextEvent _ => 5
  | .completeWrite _ _ => 6
  | .takeWrite _ _ => 5
  | .completeRead _ _ => 11
  | .takeRead _ _ _ => 10
  | .write _ _ => 4
  | .close => 3

def FilePool.stepsLeft (p : FilePool) : Nat := (p.threads.map Thread.stepsLeft).sum

theorem stepsLeft_remaining (es : List Effect) :
    ((remaining es).map Thread.stepsLeft).sum ≤ es.length + 1 := by
  cases es <;> simp [remaining, Thread.stepsLeft]

theorem length_completeIfHandle (handle : Option OperationHandle) (status : NTSTATUS) :
    (completeIfHandle handle status).length ≤ 1 := by
  cases handle <;> simp [completeIfHandle]

theorem length_fillReport (op : Operation) (n : UInt32) : (fillReport op n).length ≤ 2 := by
  unfold fillReport
  split <;> simp

theorem length_readCompletion (fw : Framework) (numberedReports : Bool) (request : IoRequest)
    (op : Operation) (completion : ReadCompletion) :
    (completion.effects fw numberedReports request op).length ≤ 5 := by
  cases completion with
  | submitReport packet =>
    cases numberedReports <;>
      simp [ReadCompletion.effects, submitReads, finishPseudoOperation]
  | fill status n =>
    have filled := length_fillReport op n
    simp only [ReadCompletion.effects, List.length_append, completeOperation, List.length_cons,
      List.length_nil]
    omega
  | _ => simp [ReadCompletion.effects, finishPseudoOperation, completeOperation]

theorem length_evtIoWrite (fw : Framework) (ctx : FileContext) (request : IoRequest)
    (input : InputBuffer) : (evtIoWrite fw ctx request input).length ≤ 2 := by
  unfold evtIoWrite
  split
  · simp [requestFailed]
  · split
    · simp [requestFailed]
    · split <;> simp [requestFailed]

/-- Every step of a thread brings it nearer to its end, and it starts no other one. -/
theorem Thread.Steps.stepsLeft {fw : Framework} {s s' : FileState} {t : Thread} {ts : List Thread}
    (h : Thread.Steps fw s t s' ts) : (ts.map Thread.stepsLeft).sum < t.stepsLeft := by
  have calls {es : List Effect} {n : Nat} (short : es.length + 1 < n) :
      ((remaining es).map Thread.stepsLeft).sum < n :=
    Nat.lt_of_le_of_lt (stepsLeft_remaining es) short
  cases h with
  | notCreated call rest =>
    have one := length_completeIfHandle call.handle statusUnsuccessful
    refine calls ?_
    simp only [List.length_append, Thread.stepsLeft]
    omega
  | unknownReport call rest =>
    have one := length_completeIfHandle call.handle statusUnsuccessful
    refine calls ?_
    simp only [List.length_append, List.length_cons, Thread.stepsLeft]
    omega
  | givenUp op rest status =>
    have one := length_completeIfHandle op.handle status
    refine calls ?_
    simp only [List.length_append, List.length_cons, Thread.stepsLeft]
    omega
  | readTaken request input c op before after completion =>
    have few := length_readCompletion fw s.ctx.reports.numberedReports request op completion
    refine calls ?_
    simp only [Thread.stepsLeft]
    omega
  | written request input =>
    have few := length_evtIoWrite fw s.ctx request input
    refine calls ?_
    simp only [Thread.stepsLeft]
    omega
  | closed =>
    refine calls ?_
    split <;> simp [Thread.stepsLeft]
  | created | queued | retrieved | accepted | pending | writeAccepted | readAccepted | readFailed =>
    simp [Thread.stepsLeft, finishPseudoOperation]
  | ended => simp [Thread.stepsLeft]
  | _ =>
    refine calls ?_
    simp [Thread.stepsLeft, requestFailed, completeOperation]

theorem stepsLeft_of_run {p p' : FilePool} {i : Nat} {fw : Framework}
    (h : fileStep p (.run i fw) = some p') : p'.stepsLeft < p.stepsLeft := by
  obtain ⟨l, t, r, threads, -, shared, replaced⟩ := Pool.run_cases h
  have falls := (t.step_cases fw p.shared).stepsLeft
  rw [FilePool.stepsLeft, FilePool.stepsLeft, replaced, threads]
  simp only [List.map_append, List.map_cons, List.sum_append, List.sum_cons]
  omega

/-- A step of a thread in progress. -/
def Action.isRun : Action → Bool
  | .run _ _ => true
  | _ => false

theorem stepsLeft_of_exec {p q : FilePool} {actions : List Action}
    (only : ∀ a ∈ actions, a.isRun = true) (h : Runs.exec fileStep p actions = some q) :
    actions.length + q.stepsLeft ≤ p.stepsLeft := by
  induction actions generalizing p with
  | nil =>
    cases Option.some.inj h
    simp
  | cons a actions ih =>
    obtain ⟨mid, hs, rest⟩ := Option.bind_eq_some_iff.mp h
    obtain ⟨first, others⟩ := List.forall_mem_cons.mp only
    cases a with
    | run i fw =>
      have fewer := ih others rest
      have falls := stepsLeft_of_run hs
      rw [List.length_cons]
      omega
    | _ => cases first

section Accounts

variable {guard : FilePool → Action → Prop} {reports : ParsedReports} {p : FilePool}

theorem count_parked (queue : List GetNextEvent) (request : IoRequest) :
    (queueTokens queue).count (.request request) =
      (queue.map GetNextEvent.request).count request := by
  induction queue with
  | nil => rfl
  | cons event queue ih =>
    have head : (queueTokens (event :: queue)).count (.request request) =
        ({.request event.request} : Multiset Token).count (.request request) +
          (queueTokens queue).count (.request request) := by
      rw [queueTokens, List.map_cons, List.sum_cons, Multiset.count_add]
      rfl
    rw [head, ih, Multiset.count_singleton, List.map_cons, List.count_cons, add_comm]
    by_cases same : event.request = request
    · simp [same]
    · simp [same, Ne.symm same]

theorem count_handles (ops : List Operation) (handle : OperationHandle) :
    (operationTokens ops).count (.handle handle) =
      (ops.filterMap Operation.handle).count handle := by
  induction ops with
  | nil => rfl
  | cons op ops ih =>
    rw [operationTokens_cons, Multiset.count_add, ih, Operation.tokens, Multiset.count_add,
      Multiset.count_singleton]
    cases hh : op.handle with
    | none => simp [handleToken, hh]
    | some h =>
      rw [List.filterMap_cons_some hh, List.count_cons, handleToken, Multiset.count_singleton]
      by_cases same : h = handle
      · simp [same, add_comm]
      · simp [same, Ne.symm same]

/-- When no thread is left, an operation of VHF has been completed or is in one of the
collections. -/
theorem handle_accounted (h : FileReach guard reports p) (quiet : p.threads = []) {type : EventType}
    {handle : OperationHandle} {packet : HidXferPacket}
    (hm : .asyncOperation type handle packet ∈ p.shared.trace) :
    uses (.handle handle) p.shared.trace +
      (p.shared.ctx.operations.filterMap Operation.handle).count handle = 1 := by
  have located := token_located h (.handle handle)
  have issued : p.shared.IsIssued (.handle handle) := handle_lt h hm
  rw [(count_issued p.shared _).2 issued, count_handles, quiet,
    count_queueTokens _ (by simp)] at located
  simpa using located

theorem request_accounted (h : FileReach guard reports p) (quiet : p.threads = [])
    {request : IoRequest} (hr : request < p.shared.nextRequest) :
    uses (.request request) p.shared.trace +
      (p.shared.getNextEventQueue.map GetNextEvent.request).count request = 1 := by
  have located := token_located h (.request request)
  have issued : p.shared.IsIssued (.request request) := hr
  rw [(count_issued p.shared _).2 issued, count_parked, quiet,
    Multiset.count_eq_zero_of_notMem (request_notMem_operationTokens request _)] at located
  simpa using located

end Accounts

/-- Left to itself the driver comes to rest, in whatever order its threads are run and whatever the
framework returns: only so many steps are left, and as long as a thread is, it can take one. At rest
every operation that VHF has asked for is either completed, once, or in one of the collections,
once, and every request is either completed, once, or parked, once. -/
theorem driver_settles {reports : ParsedReports} {p q : FilePool}
    (h : FileReach Runs.anyStep reports p) {actions : List Action}
    (only : ∀ a ∈ actions, a.isRun = true) (ran : Runs.exec fileStep p actions = some q) :
    actions.length ≤ p.stepsLeft ∧
    (∀ i < q.threads.length, ∀ fw, (fileStep q (.run i fw)).isSome = true) ∧
    (q.threads = [] →
      (∀ type handle packet, .asyncOperation type handle packet ∈ q.shared.trace →
        uses (.handle handle) q.shared.trace +
          (q.shared.ctx.operations.filterMap Operation.handle).count handle = 1) ∧
      ∀ request < q.shared.nextRequest, uses (.request request) q.shared.trace +
        (q.shared.getNextEventQueue.map GetNextEvent.request).count request = 1) := by
  have reached : FileReach Runs.anyStep reports q := Runs.Reach.exec h ran
  have bound := stepsLeft_of_exec only ran
  refine ⟨by omega, fun i hi fw => ?_, fun quiet =>
    ⟨fun type handle packet hm => ?_, fun r hr => ?_⟩⟩
  · simp [fileStep, Pool.run, List.getElem?_eq_getElem hi]
  · exact handle_accounted reached quiet hm
  · exact request_accounted reached quiet hr

/-- An operation and a request arrive; the request is served and the operation handed out. -/
theorem driver_settles_served : ∃ p q, FileReach Runs.anyStep featureReports p ∧
    Runs.exec fileStep p (List.replicate 6 (.run 0 {})) = some q ∧
    uses (.request 0) q.shared.trace +
      (q.shared.getNextEventQueue.map GetNextEvent.request).count 0 = 1 := by
  have reached : ∃ p, FileReach Runs.anyStep featureReports p ∧
      (Runs.exec fileStep p (List.replicate 6 (.run 0 {}))).any (fun q => q.threads.isEmpty &&
        q.shared.nextRequest == 1) = true :=
    exists_fileReach featureReports [.asyncOperation .getFeature ⟨fun _ => 0, 4, 0⟩,
      .getNextEvent 64] (by rfl)
  obtain ⟨p, hr, settled⟩ := reached
  obtain ⟨q, ran, hq⟩ := (Option.any_eq_true _ _).mp settled
  obtain ⟨quiet, one⟩ := Bool.and_eq_true_iff.mp hq
  have made : 0 < q.shared.nextRequest := by
    rw [LawfulBEq.eq_of_beq one]
    exact Nat.one_pos
  refine ⟨p, q, hr, ran, ?_⟩
  exact ((driver_settles hr (by simp [Action.isRun]) ran).2.2 (List.isEmpty_iff.mp quiet)).2 0 made

end WinUHid
