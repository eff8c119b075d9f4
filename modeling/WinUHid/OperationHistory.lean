import WinUHid.AnsweredEvents

namespace WinUHid

theorem Thread.Steps.trace_prefix {fw : Framework} {s s' : FileState} {t : Thread}
    {ts : List Thread} (h : Thread.Steps fw s t s' ts) : s.trace <+: s'.trace := by
  cases h with
  | queued | handed | closed | readRejected | readAccepted | called =>
    exact List.prefix_append _ _
  | _ => exact List.prefix_rfl

theorem fileStep_trace {p p' : FilePool} {a : Action} (h : fileStep p a = some p') :
    p.shared.trace <+: p'.shared.trace := by
  rcases fileStep_cases h with ⟨s, t, ha, rfl⟩ | ⟨i, before, event, after, _, _, rfl⟩ |
    ⟨i, fw, l, t, r, s, ts, _, _, _, hs, rfl⟩
  · cases ha with
    | readyForNextReadReport | asyncOperation => exact List.prefix_append _ _
    | _ => exact List.prefix_rfl
  · exact List.prefix_append _ _
  · exact hs.trace_prefix

section File

variable {guard : FilePool → Action → Prop} {reports : ParsedReports} {p : FilePool}

theorem handed_new {fw : Framework} {s s' : FileState} {t : Thread} {ts : List Thread}
    (h : Thread.Steps fw s t s' ts) {request : IoRequest} {op : Operation}
    (hm : .handed request op ∈ s'.trace) :
    .handed request op ∈ s.trace ∨ op ∈ s.ctx.waitingRequests := by
  cases h with
  | handed event caller rest first waiting hw =>
    rcases List.mem_append.mp hm with hm | hm
    · exact .inl hm
    · cases List.mem_singleton.mp hm
      exact .inr (by rw [hw]; exact List.mem_cons_self)
  | queued op rest => exact .inl (by simpa using hm)
  | closed | readRejected | readAccepted => exact .inl (by simpa using hm)
  | called e effects => exact .inl (by simpa using hm)
  | _ => exact .inl hm

/-- What the client is handed, VHF has asked for. -/
theorem handed_issued (h : FileReach guard reports p) {request : IoRequest} {op : Operation}
    (hm : .handed request op ∈ p.shared.trace) : p.shared.Issued op := by
  induction h using FileReach.induct with
  | start => cases hm
  | arrives p a s t _ _ _ ha ih =>
    have old : .handed request op ∈ p.shared.trace := by
      cases ha <;> simpa using hm
    exact ha.extends.issued (ih old)
  | cancelled p before event after _ _ _ ih =>
    have grows : p.shared.Extends (FileState.emit
        { p.shared with getNextEventQueue := before ++ after }
        (requestFailed event.request statusCancelled)) := ⟨rfl, by simp⟩
    exact grows.issued (ih (by simpa using hm))
  | ran p i fw l t r s ts hr _ _ _ _ hs ih =>
    rcases handed_new hs hm with old | waiting
    · exact hs.extends.issued (ih old)
    · exact hs.extends.issued ((operations_issued hr).1 op (List.mem_append_left _ waiting))

/-- The handle of an operation, where VHF waits for it. -/
def Operation.handles (op : Operation) : Multiset OperationHandle := ↑op.handle.toList

def handlesOf (ops : List Operation) : Multiset OperationHandle := (ops.map Operation.handles).sum

@[simp] theorem handlesOf_nil : handlesOf [] = 0 := rfl

@[simp] theorem handlesOf_cons (op : Operation) (ops : List Operation) :
    handlesOf (op :: ops) = op.handles + handlesOf ops := by simp [handlesOf]

@[simp] theorem handlesOf_append (ops ops' : List Operation) :
    handlesOf (ops ++ ops') = handlesOf ops + handlesOf ops' := by simp [handlesOf]

theorem handlesOf_le_of_sublist {ops ops' : List Operation} (h : ops.Sublist ops') :
    handlesOf ops ≤ handlesOf ops' := by
  induction h with
  | slnil => exact le_rfl
  | cons op _ ih =>
    rw [handlesOf_cons]
    exact ih.trans (Multiset.le_add_left _ _)
  | cons_cons op _ ih =>
    rw [handlesOf_cons, handlesOf_cons]
    exact add_le_add le_rfl ih

theorem handlesOf_le_of_subperm {ops ops' : List Operation} (h : ops.Subperm ops') :
    handlesOf ops ≤ handlesOf ops' := by
  obtain ⟨mid, perm, sublist⟩ := h
  have same : handlesOf mid = handlesOf ops := (perm.map _).sum_eq
  rw [← same]
  exact handlesOf_le_of_sublist sublist

/-- The VHF operation that a thread is to queue. -/
def Thread.queueing : Thread → Multiset OperationHandle
  | .dispatch call _ => ↑call.handle.toList
  | .enqueue op _ => op.handles
  | _ => 0

/-- The VHF operations that were queued. -/
def FileState.queuedHandles (s : FileState) : Multiset OperationHandle :=
  handlesOf (addedOperations s.trace)

@[simp] theorem queueing_remaining (es : List Effect) :
    ((remaining es).map Thread.queueing).sum = 0 := by
  cases es <;> rfl

theorem CreatedBy.handle {reports : ParsedReports} {object : ObjectId} {op : Operation}
    {call : DispatchCall} (h : op.CreatedBy reports object call) : op.handle = call.handle := by
  cases call with
  | readyForRead =>
    cases h
    rfl
  | async type handle packet =>
    obtain ⟨n, -, rfl⟩ := h
    rfl

theorem Thread.Steps.queueing {fw : Framework} {s s' : FileState} {t : Thread} {ts : List Thread}
    (h : Thread.Steps fw s t s' ts) :
    s'.queuedHandles + (ts.map Thread.queueing).sum ≤ s.queuedHandles + t.queueing := by
  have unqueued : ∀ events, addedOperations events = [] → s'.trace = s.trace ++ events →
      s'.queuedHandles = s.queuedHandles := by
    intro events none trace
    rw [FileState.queuedHandles, trace, addedOperations_append, none, List.append_nil,
      FileState.queuedHandles]
  cases h with
  | created call rest ctx op _ hc =>
    have handle := CreatedBy.handle ((FileContext.createOperation_eq hc).2 op rfl)
    refine le_of_eq ?_
    rw [List.map_singleton, List.sum_singleton, Thread.queueing, Thread.queueing,
      Operation.handles, handle]
    rfl
  | queued op rest =>
    have added : FileState.queuedHandles (FileState.record
        { s with ctx := { s.ctx with waitingRequests := s.ctx.waitingRequests ++ [op] } }
        (.queued op)) = s.queuedHandles + op.handles := by
      have last : addedOperations [.queued op] = [op] := rfl
      rw [FileState.queuedHandles, FileState.record_trace, addedOperations_append, last,
        handlesOf_append, handlesOf_cons, handlesOf_nil, add_zero]
      rfl
    rw [added]
    exact le_of_eq (add_zero _)
  | handed event caller rest op =>
    rw [unqueued [.handed event.request op] rfl rfl, queueing_remaining]
    exact le_rfl
  | called e effects =>
    rw [unqueued [.effect e] rfl rfl, queueing_remaining]
    exact le_rfl
  | closed =>
    rw [unqueued _ (addedOperations_effects _) (FileState.emit_trace _ _), queueing_remaining]
    exact le_rfl
  | readRejected | readAccepted =>
    rw [unqueued _ (addedOperations_effects _) (FileState.emit_trace _ _)]
    simp [Thread.queueing]
  | _ =>
    rw [unqueued [] rfl (List.append_nil _).symm]
    first
    | exact add_le_add le_rfl (le_of_eq_of_le (queueing_remaining _) (Multiset.zero_le _))
    | exact add_le_add le_rfl (Multiset.zero_le _)

theorem Arrives.queueing {s s' : FileState} {a : Action} {t : Thread} (h : Arrives s a s' t) :
    s'.queuedHandles = s.queuedHandles ∧
      (s'.nextHandle = s.nextHandle ∧ t.queueing = 0 ∨
        s'.nextHandle = s.nextHandle + 1 ∧ t.queueing = {s.nextHandle}) := by
  cases h with
  | asyncOperation type packet =>
    have added : addedOperations [.asyncOperation type s.nextHandle packet] = [] := rfl
    refine ⟨?_, .inr ⟨rfl, rfl⟩⟩
    rw [FileState.queuedHandles, FileState.record_trace, addedOperations_append, added,
      List.append_nil]
    rfl
  | readyForNextReadReport =>
    have added : addedOperations [.readyForNextReadReport] = [] := rfl
    refine ⟨?_, .inl ⟨rfl, rfl⟩⟩
    rw [FileState.queuedHandles, FileState.record_trace, addedOperations_append, added,
      List.append_nil]
    rfl
  | _ => exact ⟨rfl, .inl ⟨rfl, rfl⟩⟩

theorem Thread.Steps.nextHandle {fw : Framework} {s s' : FileState} {t : Thread} {ts : List Thread}
    (h : Thread.Steps fw s t s' ts) : s'.nextHandle = s.nextHandle := by
  cases h <;> rfl

/-- A handle is dispatched once, and the operation made of it is queued once. -/
theorem queueing_le (h : FileReach guard reports p) :
    p.total FileState.queuedHandles Thread.queueing ≤ Multiset.range p.shared.nextHandle := by
  induction h using FileReach.induct with
  | start => exact le_rfl
  | arrives p a s t _ _ _ ha ih =>
    rw [Pool.total_spawn, ha.queueing.1, Pool.spawn_shared]
    rcases ha.queueing.2 with ⟨handle, none⟩ | ⟨handle, one⟩
    · rw [handle, none, add_zero]
      exact ih
    · rw [handle, one, Multiset.range_succ, ← Multiset.singleton_add, add_comm]
      exact add_le_add le_rfl ih
  | cancelled p before event after _ _ _ ih =>
    have same : FileState.queuedHandles (FileState.emit
        { p.shared with getNextEventQueue := before ++ after }
        (requestFailed event.request statusCancelled)) = p.shared.queuedHandles := by
      simp [FileState.queuedHandles]
    rw [Pool.total, same]
    exact ih
  | ran p i fw l t r s ts _ _ _ hl _ hs ih =>
    rw [Pool.total, hl, List.map_append, List.map_cons, List.sum_append, List.sum_cons] at ih
    rw [Pool.total_replace, hs.nextHandle]
    refine le_trans (add_le_add hs.queueing le_rfl) (le_of_eq_of_le ?_ ih)
    abel

/-- No event is delivered twice. -/
theorem delivered_nodup (h : FileReach guard reports p) :
    (handlesOf ((deliveries (effectsOf p.shared.trace)).map Prod.snd)).Nodup := by
  have delivered : (deliveries (effectsOf p.shared.trace)).Subperm
      (handedOperations p.shared.trace) := by
    have conserved := deliveries_conserved h
    exact Multiset.coe_le.mp (le_of_le_of_eq (Multiset.le_add_right _ _) conserved)
  have handed : ((handedOperations p.shared.trace).map Prod.snd).Sublist
      (addedOperations p.shared.trace) :=
    ((List.prefix_append _ _).trans (handed_inOrder h).1).sublist
  have queued : p.shared.queuedHandles.Nodup :=
    Multiset.nodup_of_le ((Multiset.le_add_right _ _).trans (queueing_le h))
      (Multiset.nodup_range _)
  refine Multiset.nodup_of_le ?_ queued
  obtain ⟨taken, perm, sublist⟩ := delivered
  exact handlesOf_le_of_subperm ⟨taken.map Prod.snd, perm.map _, (sublist.map _).trans handed⟩

end File

/-- VHF is told that its operation succeeded. -/
def Effect.succeeds (handle : OperationHandle) : Effect → Bool
  | .asyncOperationComplete (some h) status => h == handle && ntSuccess status
  | _ => false

theorem Effect.succeeds_iff {handle : OperationHandle} {e : Effect} :
    e.succeeds handle = true ↔
      ∃ status, ntSuccess status = true ∧ e = .asyncOperationComplete (some handle) status := by
  constructor
  · intro h
    unfold Effect.succeeds at h
    split at h
    next h' status =>
      obtain ⟨same, success⟩ := Bool.and_eq_true_iff.mp h
      cases LawfulBEq.eq_of_beq same
      exact ⟨status, success, rfl⟩
    next => cases h
  · rintro ⟨status, success, rfl⟩
    simp [Effect.succeeds, success]

/-- What the handler of a completion IOCTL does once it has found its operation or has not. -/
def Thread.completion (fw : Framework) (ctx : FileContext) : Thread → Option CompletionRun
  | .takeWrite request c => some (takeWriteEvent fw ctx request c)
  | .takeRead request input c => some (takeReadEvent fw ctx request input c)
  | _ => none

section Successes

variable {fw : Framework} {handle : OperationHandle} {e : Effect}

theorem effects_of_remaining {es : List Effect} {u : Thread} (hu : u ∈ remaining es) :
    u.effects = es := by
  cases es with
  | nil => cases hu
  | cons e es =>
    cases List.mem_singleton.mp hu
    rfl

theorem mem_of_remaining {es : List Effect} (h : ∃ u ∈ remaining es, e ∈ u.effects) : e ∈ es := by
  obtain ⟨u, hu, he⟩ := h
  rwa [effects_of_remaining hu] at he

theorem succeeds_completeIfHandle {handle' : Option OperationHandle} {status : NTSTATUS}
    (failure : ntSuccess status = false) (h : e ∈ completeIfHandle handle' status) :
    e.succeeds handle = false := by
  cases handle' with
  | none => cases h
  | some h' =>
    cases List.mem_singleton.mp h
    simp [Effect.succeeds, failure]

theorem queueOperation_failure {ctx : FileContext} {op : Operation} {status : NTSTATUS}
    (h : ctx.queueOperation fw op = .error status) : ntSuccess status = false := by
  unfold FileContext.queueOperation at h
  split at h
  next =>
    cases h
    rfl
  next =>
    split at h
    next failure =>
      cases h
      simpa using failure
    next => cases h

theorem succeeds_rundown {ops : List Operation} (h : e ∈ rundown ops) :
    e.succeeds handle = false := by
  induction ops with
  | nil => cases h
  | cons op ops ih =>
    rw [rundown, List.mem_append, List.mem_append] at h
    rcases h with (h | h) | h
    · split at h
      · cases List.mem_singleton.mp h
        cases op.handle <;> simp [Effect.succeeds, statusCancelled, ntSuccess]
      · cases h
    · cases List.mem_singleton.mp h
      rfl
    · exact ih h

theorem succeeds_evtIoWrite {ctx : FileContext} {request : IoRequest} {input : InputBuffer}
    (h : e ∈ evtIoWrite fw ctx request input) : e.succeeds handle = false := by
  unfold evtIoWrite at h
  split at h
  next =>
    cases List.mem_singleton.mp h
    rfl
  next =>
    split at h
    next =>
      cases List.mem_singleton.mp h
      rfl
    next =>
      split at h
      next =>
        cases List.mem_singleton.mp h
        rfl
      next =>
        rcases List.mem_cons.mp h with rfl | h
        · rfl
        · cases List.mem_singleton.mp h
          rfl

theorem Thread.step_completion {s : FileState} {t : Thread} {run : CompletionRun}
    (h : t.completion fw s.ctx = some run) : ∀ u ∈ (t.step fw s).2, u.effects = run.effects := by
  intro u hu
  cases t with
  | takeWrite request c =>
    cases Option.some.inj h
    exact effects_of_remaining hu
  | takeRead request input c =>
    cases Option.some.inj h
    simp only [Thread.step, FileState.takeRead] at hu
    split at hu
    next =>
      cases List.mem_singleton.mp hu
      rfl
    next => exact effects_of_remaining hu
  | _ => cases h

/-- A success among effects that begin with others is among the rest. -/
theorem succeeds_of_append {es rest : List Effect} (success : e.succeeds handle = true)
    (mem : e ∈ es ++ rest) (fails : ∀ e ∈ es, e.succeeds handle = false) : e ∈ rest := by
  refine (List.mem_append.mp mem).resolve_left fun hm => ?_
  rw [fails e hm] at success
  cases success

theorem succeeds_of_cons {first : Effect} {rest : List Effect} (success : e.succeeds handle = true)
    (mem : e ∈ first :: rest) (fails : first.succeeds handle = false) : e ∈ rest :=
  succeeds_of_append success (List.singleton_append ▸ mem) (List.forall_mem_singleton.mpr fails)

theorem succeeds_of_requestFailed {request : IoRequest} {status : NTSTATUS} {rest : List Effect}
    (success : e.succeeds handle = true) (mem : e ∈ requestFailed request status ++ rest) :
    e ∈ rest :=
  succeeds_of_append success mem (by simp [requestFailed, Effect.succeeds])

/-- An operation that cannot be queued fails. -/
theorem enqueue_succeeds {s : FileState} {op : Operation} {rest : List Effect}
    (h : ∃ u ∈ (Thread.step fw s (.enqueue op rest)).2, e ∈ u.effects)
    (success : e.succeeds handle = true) : e ∈ rest := by
  obtain ⟨u, hu, he⟩ := h
  simp only [Thread.step, FileState.enqueue] at hu
  split at hu
  next status hq =>
    have mem := succeeds_of_append success (mem_of_remaining ⟨u, hu, he⟩) fun _ =>
      succeeds_completeIfHandle (queueOperation_failure hq)
    exact succeeds_of_cons success mem rfl
  next ctx hq =>
    cases List.mem_singleton.mp hu
    exact he

/-- A step of a thread decides that an operation succeeded only where it takes it off
`OutstandingRequests`. -/
theorem Thread.step_succeeds {s : FileState} {t : Thread}
    (h : ∃ u ∈ (t.step fw s).2, e ∈ u.effects) (success : e.succeeds handle = true) :
    e ∈ t.effects ∨ ∃ run ∈ t.completion fw s.ctx, e ∈ run.effects := by
  have completing {run : CompletionRun} (hr : t.completion fw s.ctx = some run) :
      e ∈ run.effects := by
    obtain ⟨u, hu, he⟩ := h
    rwa [Thread.step_completion hr u hu] at he
  have queueing : ∀ op rest, t = .enqueue op rest → e ∈ rest := by
    rintro op rest rfl
    exact enqueue_succeeds h success
  have steps := Thread.step_cases fw s t
  generalize (t.step fw s).1 = s' at *
  generalize (t.step fw s).2 = ts at *
  cases steps with
  | notCreated call rest =>
    exact .inl (succeeds_of_append success (mem_of_remaining h) fun _ =>
      succeeds_completeIfHandle rfl)
  | unknownReport call rest =>
    have mem := succeeds_of_append success (mem_of_remaining h) fun _ =>
      succeeds_completeIfHandle rfl
    exact .inl (succeeds_of_cons success mem rfl)
  | givenUp op rest | queued op rest => exact .inl (queueing op rest rfl)
  | nothingParked | forwarded | requeued => exact .inl (mem_of_remaining h)
  | created | retrieved | pending =>
    obtain ⟨u, hu, he⟩ := h
    cases List.mem_singleton.mp hu
    exact .inl he
  | accepted | writeAccepted | readAccepted =>
    obtain ⟨u, hu, he⟩ := h
    cases List.mem_singleton.mp hu
    cases he
  | noDevice | writeRejected | readRejected =>
    have mem := mem_of_remaining h
    rw [← List.append_nil (requestFailed _ _)] at mem
    exact absurd (succeeds_of_requestFailed success mem) List.not_mem_nil
  | failed | notParked => exact .inl (succeeds_of_requestFailed success (mem_of_remaining h))
  | handed event caller rest op => exact .inl (succeeds_of_cons success (mem_of_remaining h) rfl)
  | writeNotFound | writeTaken | readNotFound | readTaken | readFailed =>
    exact .inr ⟨_, rfl, completing rfl⟩
  | written request input =>
    rw [succeeds_evtIoWrite (mem_of_remaining h)] at success
    cases success
  | closed =>
    have mem := mem_of_remaining h
    split at mem
    · exact absurd (succeeds_of_cons success mem rfl) List.not_mem_nil
    · cases mem
  | ended =>
    obtain ⟨u, hu, -⟩ := h
    cases hu
  | called first effects => exact .inl (List.mem_cons_of_mem _ (mem_of_remaining h))

/-- The success of an operation is recorded when the call to VHF is made. -/
theorem Thread.step_records {s : FileState} {t : Thread} {k : Nat}
    (h : (t.step fw s).1.trace[k]? = some (.effect e)) (success : e.succeeds handle = true) :
    s.trace[k]? = some (.effect e) ∨ s.trace.length ≤ k ∧ e ∈ t.effects := by
  have steps := Thread.step_cases fw s t
  generalize (t.step fw s).1 = s' at *
  generalize (t.step fw s).2 = ts at *
  have emitted {events : List FileEvent} (trace : s'.trace = s.trace ++ events) :
      s.trace[k]? = some (.effect e) ∨ s.trace.length ≤ k ∧ .effect e ∈ events := by
    rw [trace] at h
    by_cases hk : k < s.trace.length
    · exact .inl (by rwa [List.getElem?_append_left hk] at h)
    · rw [List.getElem?_append_right (Nat.not_lt.mp hk)] at h
      exact .inr ⟨Nat.not_lt.mp hk, List.mem_of_getElem? h⟩
  cases steps with
  | queued op rest =>
    exact (emitted rfl).imp_right fun new => by cases List.mem_singleton.mp new.2
  | handed event caller rest op =>
    exact (emitted rfl).imp_right fun new => by cases List.mem_singleton.mp new.2
  | called first effects =>
    refine (emitted rfl).imp_right fun new => ⟨new.1, ?_⟩
    cases List.mem_singleton.mp new.2
    exact List.mem_cons_self
  | closed =>
    refine (emitted rfl).imp_right fun new => ?_
    obtain ⟨_, hm, he⟩ := List.mem_map.mp new.2
    cases he
    have quiet : e.succeeds handle = false := (List.mem_append.mp hm).elim succeeds_rundown
      succeeds_rundown
    rw [quiet] at success
    cases success
  | readRejected | readAccepted =>
    refine (emitted rfl).imp_right fun new => ?_
    obtain ⟨_, hm, he⟩ := List.mem_map.mp new.2
    cases he
    unfold headerReads at hm
    split at hm
    · cases List.mem_singleton.mp hm
      cases success
    · cases hm
  | _ => exact .inl h

theorem mem_completeOperation {request : IoRequest} {op : Operation} {status : NTSTATUS}
    (h : e ∈ completeOperation fw request op status) (success : e.succeeds handle = true) :
    op.handle = some handle := by
  obtain ⟨status', -, rfl⟩ := Effect.succeeds_iff.mp success
  simp only [completeOperation, List.mem_cons, Effect.asyncOperationComplete.injEq, reduceCtorEq,
    List.not_mem_nil, or_false] at h
  exact h.1.symm

theorem mem_requestFailed {request : IoRequest} {status : NTSTATUS}
    (h : e ∈ requestFailed request status) : e.succeeds handle = false := by
  cases List.mem_singleton.mp h
  rfl

theorem takeWriteEvent_succeeds {ctx : FileContext} {request : IoRequest} {c : WriteEventComplete}
    (h : e ∈ (takeWriteEvent fw ctx request c).effects) (success : e.succeeds handle = true) :
    ∃ op, (takeWriteEvent fw ctx request c).taken = some op ∧ op.requestId = c.requestId ∧
      op.handle = some handle := by
  rcases takeWriteEvent_cases fw ctx request c with ⟨-, ht⟩ | ⟨op, before, after, ho, id, -, ht⟩
  · rw [ht] at h
    rw [mem_requestFailed h] at success
    cases success
  · rw [ht] at h ⊢
    exact ⟨op, rfl, id, mem_completeOperation h success⟩

theorem takeReadEvent_succeeds {ctx : FileContext} {request : IoRequest} {input : InputBuffer}
    {c : ReadEventComplete} (h : e ∈ (takeReadEvent fw ctx request input c).effects)
    (success : e.succeeds handle = true) :
    ∃ op, (takeReadEvent fw ctx request input c).taken = some op ∧ op.requestId = c.requestId ∧
      op.handle = some handle := by
  rcases takeReadEvent_cases fw ctx request input c with
    ⟨-, ht⟩ | ⟨op, before, after, ho, id, -, ht⟩
  · rw [ht] at h
    rw [mem_requestFailed h] at success
    cases success
  · rw [ht] at h ⊢
    refine ⟨op, rfl, id, ?_⟩
    obtain ⟨status, -, rfl⟩ := Effect.succeeds_iff.mp success
    by_cases pseudo : c.requestId = 0
    · have quiet := (readCompletion_of_pseudo fw ctx.reports.numberedReports request input op
        pseudo _ h).1
      cases quiet
    · exact ((mem_effects_of_real pseudo).mp h).1.symm

end Successes

theorem EventAnswer.ioctl_ne_run (answer : EventAnswer) (input : InputBuffer) (i : Nat)
    (fw : Framework) : answer.ioctl input ≠ .run i fw := by
  cases answer <;> nofun

/-- The answer behind what VHF is told of success had been one of success. -/
theorem SettledAnswer.Met.success {s : SettledAnswer} (met : s.Met) {e : Effect}
    {handle : OperationHandle} (mem : e ∈ s.run.effects) (hh : s.reply.op.handle = some handle)
    (success : e.succeeds handle = true) : s.reply.answer.success = true := by
  obtain ⟨status, ok, rfl⟩ := Effect.succeeds_iff.mp success
  obtain ⟨told, outcome, only⟩ := met.told
  rw [← hh] at mem
  rw [← outcome, ← (only status).mp mem]
  exact ok

namespace ServedFile

variable {reports : ParsedReports} {f f' : ServedFile} {fw : Framework} {handle : OperationHandle}
  {e : Effect}

theorem servedStep_trace {a : ServedAction} (h : servedStep f a = some f') :
    f.file.pool.shared.trace <+: f'.file.pool.shared.trace := by
  cases servedStep_cases h with
  | file _ hfile | sent _ _ hfile =>
    obtain ⟨p, hp, rfl⟩ := Option.map_eq_some_iff.mp hfile
    exact fileStep_trace hp
  | unsent => exact List.prefix_rfl

/-- The operations whose events were delivered. -/
def delivered (f : ServedFile) : List Operation :=
  (deliveries (effectsOf f.file.pool.shared.trace)).map Prod.snd

theorem delivered_prefix (h : f.file.pool.shared.trace <+: f'.file.pool.shared.trace) :
    f.delivered <+: f'.delivered := by
  obtain ⟨events, trace⟩ := h
  rw [delivered, delivered, ← trace, effectsOf_append, deliveries_append, List.map_append]
  exact List.prefix_append _ _

/-- A step of the file hands the client the events that it delivers. -/
theorem received_of_file {a : Action} {file : LoggedFile} (h : loggedStep f.file a = some file) :
    ∃ ops, (a.served f).received = f.received ++ ops ∧
      f.delivered ++ ops <+: delivered { a.served f with file } := by
  obtain ⟨p, hp, rfl⟩ := Option.map_eq_some_iff.mp h
  have none (same : (a.served f).received = f.received) :
      ∃ ops, (a.served f).received = f.received ++ ops ∧
        f.delivered ++ ops <+:
          delivered { a.served f with file := ⟨p, a.logged f.file.pool f.file.log⟩ } := by
    refine ⟨[], by rw [same, List.append_nil], ?_⟩
    rw [List.append_nil]
    exact delivered_prefix (fileStep_trace hp)
  cases a with
  | run i fw =>
    obtain ⟨l, t, r, threads, ht, shared, replaced⟩ := Pool.run_cases hp
    have served : (Action.run i fw).served f = f.ran fw t := by rw [Action.served, ht]; rfl
    cases t with
    | calls effects =>
      cases effects with
      | nil =>
        refine none ?_
        rw [served]
        rfl
      | cons e rest =>
        have trace : p.shared.trace = f.file.pool.shared.trace ++ [.effect e] := by
          rw [shared]
          rfl
        refine ⟨(deliveries [e]).map Prod.snd, by rw [served]; rfl, ?_⟩
        rw [delivered, delivered, trace, effectsOf_append, deliveries_append, List.map_append]
        exact List.prefix_rfl
    | completeWrite | completeRead =>
      refine none ?_
      rw [served, ran]
      split <;> rfl
    | _ =>
      refine none ?_
      rw [served]
      rfl
  | _ => exact none rfl

/-- What VHF is to be told of success comes from an answer that was met. -/
def Told (f : ServedFile) (e : Effect) : Prop :=
  ∀ handle, e.succeeds handle = true →
    ∃ s ∈ f.settled, s.Met ∧ s.reply.op.handle = some handle ∧ e ∈ s.run.effects

/-- The run of a handler that has found an operation goes with the answer to it. -/
theorem settled_of_completion {t : Thread} {run : CompletionRun}
    (answering : t.Answering f.answered) (hrun : t.completion fw f.ctx = some run)
    (he : e ∈ run.effects) (success : e.succeeds handle = true) :
    ∃ s ∈ (f.ran fw t).settled, s.run = run ∧ s.reply.op.requestId ≠ 0 ∧
      ∃ op, run.taken = some op ∧ op.handle = some handle := by
  have real {op : Operation} (hh : op.handle = some handle) : op.requestId ≠ 0 := fun pseudo => by
    rw [op.pseudo_iff.mp pseudo] at hh
    cases hh
  cases t with
  | takeWrite request c =>
    cases Option.some.inj hrun
    obtain ⟨op, calls, success', answered, id, -⟩ := answering
    obtain ⟨found, taken, hid, hh⟩ := takeWriteEvent_succeeds he success
    refine ⟨⟨⟨op, .write calls success'⟩, none, takeWriteEvent fw f.ctx request c⟩, ?_, rfl, ?_,
      found, taken, hh⟩
    · simp [ran, settle, answered]
    · rw [← id, ← hid]
      exact real hh
  | takeRead request input c =>
    cases Option.some.inj hrun
    obtain ⟨op, calls, garbage, data, dataLength, answered, sent, long, hc⟩ := answering
    obtain ⟨found, taken, hid, hh⟩ := takeReadEvent_succeeds he success
    have id : c.requestId = op.requestId := by
      rw [hc, readEventComplete_of_sent input.beyond sent long]
      exact answerRecord_requestId
    refine ⟨⟨⟨op, .read calls garbage data dataLength⟩, some input,
      takeReadEvent fw f.ctx request input c⟩, ?_, rfl, ?_, found, taken, hh⟩
    · simp [ran, settle, answered]
    · rw [← id, ← hid]
      exact real hh
  | _ => cases hrun

theorem settled_ran (t : Thread) : f.settled ⊆ (f.ran fw t).settled := by
  unfold ran
  split
  next => exact List.Subset.refl _
  next => split <;> exact List.Subset.refl _
  next => split <;> exact List.Subset.refl _
  next => exact List.subset_append_left _ _
  next => exact List.subset_append_left _ _
  next => exact List.Subset.refl _

theorem Told.mono (h : f.Told e) (more : f.settled ⊆ f'.settled) : f'.Told e := by
  intro handle success
  obtain ⟨s, hs, met⟩ := h handle success
  exact ⟨s, more hs, met⟩

theorem settled_served (a : Action) : f.settled ⊆ (a.served f).settled := by
  cases a with
  | run i fw =>
    cases ht : f.file.pool.threads[i]? with
    | none => simp [Action.served, ht]
    | some t => simpa [Action.served, ht] using settled_ran t
  | _ => exact List.Subset.refl _

theorem servedStep_settled {a : ServedAction} (h : servedStep f a = some f') :
    f.settled ⊆ f'.settled := by
  cases servedStep_cases h with
  | file _ hfile => exact settled_served _
  | sent | unsent => exact List.Subset.refl _

theorem arrives_effects {s s' : FileState} {a : Action} {t : Thread} (h : Arrives s a s' t) :
    t.effects = [] := by
  cases h <;> rfl

theorem told_of_run {t : Thread} (old : ∀ e ∈ t.effects, f.Told e)
    (answering : t.Answering f.answered)
    (settled : ∀ s ∈ (f.ran fw t).settled, s.reply.op.requestId ≠ 0 → s.Met ∨ s.run.taken = none) :
    ∀ u ∈ (t.step fw f.file.pool.shared).2, ∀ e ∈ u.effects, (f.ran fw t).Told e := by
  intro u hu e he handle success
  rcases Thread.step_succeeds ⟨u, hu, he⟩ success with before | ⟨run, hrun, mem⟩
  · exact (old e before).mono (settled_ran t) handle success
  · obtain ⟨s, hs, rfl, real, op, taken, hh⟩ := settled_of_completion answering hrun mem success
    rcases settled s hs real with met | none
    · refine ⟨s, hs, met, ?_, mem⟩
      have same : op = s.reply.op := Option.some.inj (taken.symm.trans met.taken)
      rw [← same, hh]
    · rw [none] at taken
      cases taken

theorem told_of_reach (h : ServedReach reports f) :
    ∀ t ∈ f.file.pool.threads, ∀ e ∈ t.effects, f.Told e := by
  induction h with
  | start hi =>
    cases hi
    simp [start]
  | @next f a f' hr recent hs ih =>
    have settled := (accounts_of_reach (hr.next recent hs)).settled
    have kept : ∀ t ∈ f.file.pool.threads, ∀ e ∈ t.effects, f'.Told e := fun t ht e he =>
      (ih t ht e he).mono (servedStep_settled hs)
    have spawned {s : FileState} {t : Thread} (new : t.effects = [])
        (pool : f'.file.pool = f.file.pool.spawn s t) :
        ∀ t ∈ f'.file.pool.threads, ∀ e ∈ t.effects, f'.Told e := by
      rw [pool, Pool.spawn_threads]
      refine Pool.forall_spawn kept ?_
      rw [new]
      exact fun e he => absurd he List.not_mem_nil
    cases servedStep_cases hs with
    | unsent => exact kept
    | sent hop sent hfile =>
      obtain ⟨p, hp, rfl⟩ := Option.map_eq_some_iff.mp hfile
      rcases fileStep_cases hp with ⟨s, t, ha, rfl⟩ | ⟨i, before, event, after, ha, _, rfl⟩ |
        ⟨i, fw, l, t, r, s, ts, ha, _⟩
      · exact spawned (arrives_effects ha) rfl
      · exact kept
      · exact absurd ha (EventAnswer.ioctl_ne_run _ _ _ _)
    | file completes hfile =>
      obtain ⟨p, hp, rfl⟩ := Option.map_eq_some_iff.mp hfile
      rcases fileStep_cases hp with ⟨s, t, ha, rfl⟩ | ⟨i, before, event, after, ha, _, rfl⟩ |
        ⟨i, fw, _, _, _, _, _, rfl, _⟩
      · exact spawned (arrives_effects ha) rfl
      · exact kept
      · obtain ⟨l, t, r, threads, ht, shared, replaced⟩ := Pool.run_cases hp
        have served : (Action.run i fw).served f = f.ran fw t := by rw [Action.served, ht]; rfl
        have mem : t ∈ f.file.pool.threads := by simp [threads]
        rw [served] at settled
        rw [served] at kept
        rw [served]
        show ∀ u ∈ p.threads, ∀ e ∈ u.effects, (f.ran fw t).Told e
        rw [replaced]
        refine Pool.forall_replace (t := t) (fun u hu => kept u (threads ▸ hu)) fun _ => ?_
        refine told_of_run (ih t mem) ((accounts_of_reach hr).answering t mem) fun s hs real => ?_
        exact (settled s hs real).imp_right And.left

/-- What an answer leaves alone. -/
theorem servedStep_answer {i : Nat} {answer : EventAnswer} {beyond : Nat → UInt8} {op : Operation}
    (hop : f.received[i]? = some op) (h : servedStep f (.answer i answer beyond) = some f') :
    f'.received = f.received.eraseIdx i ∧ f'.settled = f.settled ∧
      f'.file.pool.shared.trace = f.file.pool.shared.trace ∧
      ∀ request reply, f'.answered request = some reply →
        f.answered request = some reply ∨ reply = ⟨op, answer⟩ := by
  cases servedStep_cases h with
  | unsent => exact ⟨rfl, rfl, rfl, fun _ _ => .inl⟩
  | sent same sent hfile =>
    cases hop.symm.trans same
    obtain ⟨p, hp, rfl⟩ := Option.map_eq_some_iff.mp hfile
    refine ⟨rfl, rfl, ?_, fun request reply hr => ?_⟩
    · cases answer <;>
      · cases Option.some.inj hp
        rfl
    · have hr : Function.update f.answered f.file.pool.shared.nextRequest
          (some ⟨op, answer⟩) request = some reply := hr
      by_cases new : request = f.file.pool.shared.nextRequest
      · subst new
        rw [Function.update_self] at hr
        exact .inr (Option.some.inj hr).symm
      · rw [Function.update_of_ne new] at hr
        exact .inl hr

theorem answered_served (a : Action) : (a.served f).answered = f.answered := by
  cases a with
  | run i fw =>
    cases ht : f.file.pool.threads[i]? with
    | none => simp [Action.served, ht]
    | some t => simpa [Action.served, ht] using ran_answered t
  | _ => rfl

/-- What is settled in a step was answered. -/
theorem settled_new {a : Action} {s : SettledAnswer} (h : s ∈ (a.served f).settled) :
    s ∈ f.settled ∨ ∃ request, f.answered request = some s.reply := by
  have settling {request : IoRequest} {input : Option InputBuffer} {run : CompletionRun}
      (hm : s ∈ (f.settle request input run).settled) :
      s ∈ f.settled ∨ ∃ request, f.answered request = some s.reply := by
    refine (List.mem_append.mp hm).imp_right fun new => ?_
    obtain ⟨reply, hr, rfl⟩ := List.mem_map.mp new
    exact ⟨request, Option.mem_toList.mp hr⟩
  cases a with
  | run i fw =>
    cases ht : f.file.pool.threads[i]? with
    | none => exact .inl (by simpa [Action.served, ht] using h)
    | some t =>
      have ran : s ∈ (f.ran fw t).settled := by simpa [Action.served, ht] using h
      unfold ServedFile.ran at ran
      split at ran
      next => exact .inl ran
      next => split at ran <;> exact .inl ran
      next => split at ran <;> exact .inl ran
      next => exact settling ran
      next => exact settling ran
      next => exact .inl ran
  | _ => exact .inl h

/-- What VHF is told of success was pending. -/
theorem recorded_of_step (reached : ServedReach reports f) {a : ServedAction}
    (h : servedStep f a = some f') {k : Nat}
    (hk : f'.file.pool.shared.trace[k]? = some (.effect e)) (success : e.succeeds handle = true) :
    f.file.pool.shared.trace[k]? = some (.effect e) ∨
      f.file.pool.shared.trace.length ≤ k ∧ f.Told e := by
  cases servedStep_cases h with
  | unsent => exact .inl hk
  | sent hop sent hfile =>
    rw [(servedStep_answer hop h).2.2.1] at hk
    exact .inl hk
  | file completes hfile =>
    obtain ⟨p, hp, rfl⟩ := Option.map_eq_some_iff.mp hfile
    rcases fileStep_cases hp with ⟨s, t, ha, rfl⟩ | ⟨i, before, event, after, ha, _, rfl⟩ |
      ⟨i, fw, _, _, _, _, _, rfl, _⟩
    · refine .inl ?_
      have old : s.trace[k]? = some (.effect e) := hk
      cases ha with
      | readyForNextReadReport | asyncOperation =>
        rcases List.getElem?_concat_eq_some_iff.mp old with old | ⟨-, new⟩
        · exact old
        · cases new
      | _ => exact old
    · have new : (f.file.pool.shared.trace ++
          (requestFailed event.request statusCancelled).map .effect)[k]? =
            some (.effect e) := hk
      rcases List.getElem?_concat_eq_some_iff.mp new with old | ⟨-, new⟩
      · exact .inl old
      · cases new
        cases success
    · obtain ⟨l, t, r, threads, -, shared, -⟩ := Pool.run_cases hp
      have step : (t.step fw f.file.pool.shared).1.trace[k]? = some (.effect e) := by
        rw [← shared]
        exact hk
      refine (Thread.step_records step success).imp_right fun new => ⟨new.1, ?_⟩
      exact told_of_reach reached t (by simp [threads]) e new.2

end ServedFile

end WinUHid
