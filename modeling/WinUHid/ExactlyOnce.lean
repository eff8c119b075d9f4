import WinUHid.FileInvariants
import Mathlib.Algebra.BigOperators.Group.Multiset.Basic
import Mathlib.Data.Multiset.Range

namespace WinUHid

/-- What has to be used up: a VHF operation by its completion, a wrapper object by its deletion, an
I/O request by its completion. -/
inductive Token where
  | handle (h : OperationHandle)
  | object (o : ObjectId)
  | request (r : IoRequest)
  deriving DecidableEq

def handleToken : Option OperationHandle → Multiset Token
  | none => 0
  | some h => {.handle h}

def Effect.spends : Effect → Multiset Token
  | .asyncOperationComplete handle _ => handleToken handle
  | .objectDelete object => {.object object}
  | .requestComplete request _ _ _ => {.request request}
  | _ => 0

def spends (es : List Effect) : Multiset Token := (es.map Effect.spends).sum

@[simp] theorem spends_nil : spends [] = 0 := rfl

@[simp] theorem spends_cons (e : Effect) (es : List Effect) :
    spends (e :: es) = e.spends + spends es := by simp [spends]

@[simp] theorem spends_append (es fs : List Effect) : spends (es ++ fs) = spends es + spends fs := by
  simp [spends]

def Operation.tokens (op : Operation) : Multiset Token := handleToken op.handle + {.object op.object}

def operationTokens (ops : List Operation) : Multiset Token := (ops.map Operation.tokens).sum

@[simp] theorem operationTokens_nil : operationTokens [] = 0 := rfl

@[simp] theorem operationTokens_cons (op : Operation) (ops : List Operation) :
    operationTokens (op :: ops) = op.tokens + operationTokens ops := by simp [operationTokens]

@[simp] theorem operationTokens_append (ops ops' : List Operation) :
    operationTokens (ops ++ ops') = operationTokens ops + operationTokens ops' := by
  simp [operationTokens]

@[simp] theorem spends_completeIfHandle (handle : Option OperationHandle) (status : NTSTATUS) :
    spends (completeIfHandle handle status) = handleToken handle := by
  cases handle <;> simp [completeIfHandle, Effect.spends, handleToken]

@[simp] theorem spends_requestFailed (request : IoRequest) (status : NTSTATUS) :
    spends (requestFailed request status) = {.request request} := by
  simp [requestFailed, Effect.spends]

@[simp] theorem spends_completeOperation (fw : Framework) (request : IoRequest) (op : Operation)
    (status : NTSTATUS) :
    spends (completeOperation fw request op status) = op.tokens + {.request request} := by
  simp only [completeOperation, spends_cons, spends_nil, Effect.spends, Operation.tokens]
  abel

@[simp] theorem spends_finishPseudoOperation (request : IoRequest) (object : ObjectId)
    (status : NTSTATUS) :
    spends (finishPseudoOperation request object status) = {.object object} + {.request request} := by
  simp [finishPseudoOperation, Effect.spends]

theorem Operation.tokens_of_pseudo {op : Operation} (h : op.requestId = 0) :
    op.tokens = {.object op.object} := by
  rw [tokens, op.pseudo_iff.mp h, handleToken, zero_add]

theorem spends_readCompletion (fw : Framework) (numberedReports : Bool) (request : IoRequest)
    (input : InputBuffer) {op : Operation} {c : ReadEventComplete}
    (hid : op.requestId = c.requestId) :
    spends ((readCompletion numberedReports input c).effects fw numberedReports request op) =
      op.tokens + {.request request} := by
  unfold readCompletion
  split
  next hz =>
    rw [Operation.tokens_of_pseudo (hid.trans hz)]
    split
    · cases numberedReports <;> simp [ReadCompletion.effects, submitReads, Effect.spends]
    · split <;> simp [ReadCompletion.effects, Effect.spends]
  next hz =>
    split
    · simp [ReadCompletion.effects]
    · simp only [ReadCompletion.effects, fillReport]
      split <;> simp [Effect.spends]

@[simp] theorem spends_rundown (ops : List Operation) :
    spends (rundown ops) = operationTokens ops := by
  induction ops with
  | nil => rfl
  | cons op ops ih =>
    rw [rundown, operationTokens_cons, ← ih]
    split
    next => simp [Effect.spends, Operation.tokens, add_assoc]
    next hz =>
      rw [Operation.tokens_of_pseudo (not_not.mp hz)]
      simp [Effect.spends]

@[simp] theorem spends_evtIoWrite (fw : Framework) (ctx : FileContext) (request : IoRequest)
    (input : InputBuffer) : spends (evtIoWrite fw ctx request input) = {.request request} := by
  unfold evtIoWrite
  split
  · exact spends_requestFailed _ _
  · split
    · exact spends_requestFailed _ _
    · split
      · exact spends_requestFailed _ _
      · simp [Effect.spends]

@[simp] theorem spends_headerReads (ctx : FileContext) (input : InputBuffer) :
    spends (headerReads ctx input) = 0 := by
  unfold headerReads
  split <;> simp [Effect.spends]

def Thread.holds : Thread → Multiset Token
  | .dispatch call rest => handleToken call.handle + spends rest
  | .enqueue op rest => op.tokens + spends rest
  | .retrieve rest => spends rest
  | .getNextEvent event => {.request event.request}
  | .serve event _ rest => {.request event.request} + spends rest
  | .park event _ rest => {.request event.request} + spends rest
  | .completeWrite request _ => {.request request}
  | .takeWrite request _ => {.request request}
  | .completeRead request _ => {.request request}
  | .takeRead request _ _ => {.request request}
  | .write request _ => {.request request}
  | .close => 0
  | .calls effects => spends effects

@[simp] theorem holds_remaining (es : List Effect) :
    ((remaining es).map Thread.holds).sum = spends es := by
  cases es <;> simp [remaining, Thread.holds]

def FileEvent.effects : FileEvent → List Effect
  | .effect e => [e]
  | _ => []

def effectsOf (trace : List FileEvent) : List Effect := trace.flatMap FileEvent.effects

@[simp] theorem effectsOf_append (trace trace' : List FileEvent) :
    effectsOf (trace ++ trace') = effectsOf trace ++ effectsOf trace' := by simp [effectsOf]

@[simp] theorem effectsOf_map_effect (es : List Effect) : effectsOf (es.map .effect) = es := by
  induction es with
  | nil => rfl
  | cons e es ih =>
    rw [List.map_cons, effectsOf, List.flatMap_cons, ← effectsOf, ih]
    rfl

def queueTokens (queue : List GetNextEvent) : Multiset Token :=
  (queue.map fun event => ({.request event.request} : Multiset Token)).sum

/-- What is used up already, in a collection or parked. -/
def FileState.held (s : FileState) : Multiset Token :=
  spends (effectsOf s.trace) + operationTokens s.ctx.operations + queueTokens s.getNextEventQueue

def tokensBelow (n : Nat) (token : Nat → Token) : Multiset Token := (Multiset.range n).map token

@[simp] theorem tokensBelow_succ (n : Nat) (token : Nat → Token) :
    tokensBelow (n + 1) token = tokensBelow n token + {token n} := by
  rw [tokensBelow, Multiset.range_succ, Multiset.map_cons, add_comm, Multiset.singleton_add]
  rfl

def FileState.issued (s : FileState) : Multiset Token :=
  tokensBelow s.nextHandle .handle + tokensBelow s.nextObject .object +
    tokensBelow s.nextRequest .request

theorem effectsOf_singleton (event : FileEvent) : effectsOf [event] = event.effects := by
  simp [effectsOf]

theorem CreatedBy.tokens {reports : ParsedReports} {object : ObjectId} {op : Operation}
    {call : DispatchCall} (h : op.CreatedBy reports object call) :
    op.tokens = handleToken call.handle + {.object object} := by
  cases call with
  | readyForRead =>
    cases h
    rfl
  | async type handle packet =>
    obtain ⟨n, _, rfl⟩ := h
    rfl

@[simp] theorem effects_effect (e : Effect) : (FileEvent.effect e).effects = [e] := rfl

@[simp] theorem effects_queued (op : Operation) : (FileEvent.queued op).effects = [] := rfl

@[simp] theorem effects_handed (request : IoRequest) (op : Operation) :
    (FileEvent.handed request op).effects = [] := rfl

/-- A step of a thread passes on everything it holds: `gain` is the object it may create. -/
theorem Thread.Steps.ledger {fw : Framework} {s s' : FileState} {t : Thread} {ts : List Thread}
    (h : Thread.Steps fw s t s' ts) : ∃ gain, s'.issued = s.issued + gain ∧
      s'.held + (ts.map Thread.holds).sum = s.held + t.holds + gain := by
  cases h with
  | unknownReport call rest ctx _ hc =>
    refine ⟨{.object s.nextObject}, ?_, ?_⟩
    · simp only [FileState.issued, tokensBelow_succ]
      abel
    · rw [(FileContext.createOperation_eq hc).1]
      simp [FileState.held, FileContext.operations, Thread.holds, Effect.spends,
        -Multiset.singleton_add]
      abel
  | created call rest ctx op _ hc =>
    obtain ⟨hctx, hop⟩ := FileContext.createOperation_eq hc
    refine ⟨{.object s.nextObject}, ?_, ?_⟩
    · simp only [FileState.issued, tokensBelow_succ]
      abel
    · rw [hctx]
      simp [FileState.held, FileContext.operations, Thread.holds, CreatedBy.tokens (hop op rfl)]
      abel
  | readFailed request input c op before after ho hid hready =>
    have hz : op.requestId = 0 := hid.trans (readCompletion_eq_readyForNextReadReport.mp hready).1
    refine ⟨0, (add_zero _).symm, ?_⟩
    simp [FileState.held, FileContext.operations, Thread.holds, ho, handleToken,
      DispatchCall.handle, Operation.tokens_of_pseudo hz, -Multiset.singleton_add]
    abel
  | readTaken request input c op before after completion ho hid hcompletion =>
    refine ⟨0, (add_zero _).symm, ?_⟩
    simp [FileState.held, FileContext.operations, Thread.holds, ho, hcompletion,
      spends_readCompletion fw _ request input hid, -Multiset.singleton_add]
    abel
  | closed =>
    refine ⟨0, (add_zero _).symm, ?_⟩
    simp [FileState.held, FileContext.operations, Thread.holds]
    split <;> simp [Effect.spends]
  | queued op rest =>
    refine ⟨0, (add_zero _).symm, ?_⟩
    simp [FileState.held, FileContext.operations, Thread.holds, effectsOf_singleton]
    abel
  | handed event caller rest op waiting hw =>
    refine ⟨0, (add_zero _).symm, ?_⟩
    simp [FileState.held, FileContext.operations, Thread.holds, effectsOf_singleton, hw,
      Effect.spends, -Multiset.singleton_add]
    abel
  | writeTaken request c op before after ho =>
    refine ⟨0, (add_zero _).symm, ?_⟩
    simp [FileState.held, FileContext.operations, Thread.holds, ho, -Multiset.singleton_add]
    abel
  | retrieved event queue rest hq =>
    refine ⟨0, (add_zero _).symm, ?_⟩
    simp [FileState.held, Thread.holds, hq, queueTokens, -Multiset.singleton_add]
    abel
  | forwarded event rest | requeued event rest =>
    refine ⟨0, (add_zero _).symm, ?_⟩
    simp [FileState.held, Thread.holds, queueTokens, -Multiset.singleton_add]
    abel
  | givenUp op rest status _ =>
    refine ⟨0, (add_zero _).symm, ?_⟩
    simp [FileState.held, Thread.holds, Operation.tokens, Effect.spends, -Multiset.singleton_add]
    abel
  | called e effects =>
    refine ⟨0, (add_zero _).symm, ?_⟩
    simp [FileState.held, Thread.holds, effectsOf_singleton]
    abel
  | _ =>
    refine ⟨0, (add_zero _).symm, ?_⟩
    simp [FileState.held, Thread.holds, -Multiset.singleton_add]

theorem Arrives.ledger {s s' : FileState} {a : Action} {t : Thread} (h : Arrives s a s' t) :
    ∃ gain, s'.issued = s.issued + gain ∧ s'.held + t.holds = s.held + gain := by
  cases h with
  | readyForNextReadReport =>
    refine ⟨0, (add_zero _).symm, ?_⟩
    simp [FileState.held, effectsOf_singleton, FileEvent.effects, Thread.holds, handleToken,
      DispatchCall.handle]
  | asyncOperation type packet =>
    refine ⟨{.handle s.nextHandle}, ?_, ?_⟩
    · simp only [FileState.issued, FileState.record_nextHandle, FileState.record_nextObject,
        FileState.record_nextRequest, tokensBelow_succ]
      abel
    · simp [FileState.held, effectsOf_singleton, FileEvent.effects, Thread.holds, handleToken,
        DispatchCall.handle]
  | fileClose => exact ⟨0, (add_zero _).symm, rfl⟩
  | _ =>
    refine ⟨{.request s.nextRequest}, ?_, rfl⟩
    simp only [FileState.issued, tokensBelow_succ]
    abel

/-- In every reached state, each identity given out is held in exactly one place. -/
theorem tokens_conserved {guard : FilePool → Action → Prop} {reports : ParsedReports} {p : FilePool}
    (h : FileReach guard reports p) : p.total FileState.held Thread.holds = p.shared.issued := by
  induction h using FileReach.induct with
  | start => rfl
  | arrives p a s t _ _ _ ha ih =>
    obtain ⟨gain, hi, hg⟩ := ha.ledger
    exact Pool.balanced_spawn ih hi hg
  | cancelled p before event after _ _ hq ih =>
    -- the token of the request moves from the queue to the calls made
    refine Eq.trans ?_ ih
    simp only [Pool.total]
    congr 1
    simp [FileState.held, hq, queueTokens, -Multiset.singleton_add]
    abel
  | ran p i fw l t r s ts _ _ _ hp _ hs ih =>
    obtain ⟨gain, hi, hg⟩ := hs.ledger
    exact Pool.balanced_replace hp ih hi hg

def Token.usedBy : Token → Effect → Bool
  | .handle h, .asyncOperationComplete (some h') _ => h == h'
  | .object o, .objectDelete o' => o == o'
  | .request r, .requestComplete r' _ _ _ => r == r'
  | _, _ => false

/-- How often a VHF operation was completed, a wrapper object deleted or a request completed. -/
def uses (token : Token) (trace : List FileEvent) : Nat := (effectsOf trace).countP token.usedBy

theorem count_effect_spends (token : Token) (e : Effect) :
    e.spends.count token = if token.usedBy e then 1 else 0 := by
  cases e with
  | asyncOperationComplete handle status =>
    cases handle <;> cases token <;>
      simp [Effect.spends, handleToken, Token.usedBy, Multiset.count_singleton]
  | _ => cases token <;> simp [Effect.spends, Token.usedBy, Multiset.count_singleton]

theorem count_spends (token : Token) (es : List Effect) :
    (spends es).count token = es.countP token.usedBy := by
  induction es with
  | nil => rfl
  | cons e es ih =>
    rw [spends_cons, Multiset.count_add, ih, count_effect_spends, List.countP_cons, add_comm]

def FileState.IsIssued (s : FileState) : Token → Prop
  | .handle h => h < s.nextHandle
  | .object o => o < s.nextObject
  | .request r => r < s.nextRequest

theorem count_tokensBelow {token : Nat → Token} (inj : Function.Injective token) (n k : Nat) :
    (tokensBelow n token).count (token k) = if k < n then 1 else 0 := by
  rw [tokensBelow, Multiset.count_map_eq_count' _ _ inj]
  split
  next h => exact Multiset.count_eq_one_of_mem (Multiset.nodup_range n) (Multiset.mem_range.mpr h)
  next h => exact Multiset.count_eq_zero_of_notMem fun hm => h (Multiset.mem_range.mp hm)

theorem count_tokensBelow_of_ne {token : Nat → Token} {x : Token} (h : ∀ k, token k ≠ x) (n : Nat) :
    (tokensBelow n token).count x = 0 := by
  refine Multiset.count_eq_zero_of_notMem fun hm => ?_
  obtain ⟨k, _, hk⟩ := Multiset.mem_map.mp hm
  exact h k hk

theorem count_issued (s : FileState) (token : Token) :
    s.issued.count token ≤ 1 ∧ (s.IsIssued token → s.issued.count token = 1) := by
  rw [FileState.issued, Multiset.count_add, Multiset.count_add]
  cases token with
  | handle k =>
    rw [count_tokensBelow fun _ _ => Token.handle.inj]
    simp only [count_tokensBelow_of_ne, ne_eq, reduceCtorEq, not_false_eq_true, implies_true,
      add_zero, FileState.IsIssued]
    split <;> simp [*]
  | object k =>
    rw [count_tokensBelow fun _ _ => Token.object.inj]
    simp only [count_tokensBelow_of_ne, ne_eq, reduceCtorEq, not_false_eq_true, implies_true,
      add_zero, zero_add, FileState.IsIssued]
    split <;> simp [*]
  | request k =>
    rw [count_tokensBelow fun _ _ => Token.request.inj]
    simp only [count_tokensBelow_of_ne, ne_eq, reduceCtorEq, not_false_eq_true, implies_true,
      zero_add, FileState.IsIssued]
    split <;> simp [*]

theorem count_queueTokens (queue : List GetNextEvent) {token : Token}
    (h : ∀ r, token ≠ .request r) : (queueTokens queue).count token = 0 := by
  induction queue with
  | nil => rfl
  | cons event queue ih =>
    simpa [queueTokens, Multiset.count_singleton, h, -Multiset.singleton_add] using ih

theorem count_operationTokens (ops : List Operation) (object : ObjectId) :
    (operationTokens ops).count (.object object) = (ops.map Operation.object).count object := by
  induction ops with
  | nil => rfl
  | cons op ops ih =>
    have hhandle : (handleToken op.handle).count (.object object) = 0 := by
      cases op.handle <;> simp [handleToken]
    rw [operationTokens_cons, Multiset.count_add, ih, Operation.tokens, Multiset.count_add, hhandle,
      List.map_cons, List.count_cons, Multiset.count_singleton]
    by_cases ho : op.object = object
    · simp [ho, add_comm]
    · simp [ho, Ne.symm ho]

theorem request_notMem_tokens (request : IoRequest) (op : Operation) :
    .request request ∉ op.tokens := by
  cases hh : op.handle <;> simp [Operation.tokens, hh, handleToken]

theorem request_notMem_operationTokens (request : IoRequest) (ops : List Operation) :
    .request request ∉ operationTokens ops := by
  induction ops with
  | nil => simp
  | cons op ops ih =>
    rw [operationTokens_cons, Multiset.mem_add, not_or]
    exact ⟨request_notMem_tokens request op, ih⟩

section

variable {guard : FilePool → Action → Prop} {reports : ParsedReports} {p : FilePool}

/-- An identity is used up, in a collection, parked, or held by a thread, and only one of these. -/
theorem token_located (h : FileReach guard reports p) (token : Token) :
    uses token p.shared.trace + (operationTokens p.shared.ctx.operations).count token +
        (queueTokens p.shared.getNextEventQueue).count token +
        ((p.threads.map Thread.holds).sum).count token = p.shared.issued.count token := by
  rw [← tokens_conserved h, Pool.total, FileState.held, uses, ← count_spends]
  simp only [Multiset.count_add]

theorem uses_le_one (h : FileReach guard reports p) (token : Token) :
    uses token p.shared.trace ≤ 1 := by
  have hloc := token_located h token
  have hone := (count_issued p.shared token).1
  omega

theorem handle_lt (h : FileReach guard reports p) {type : EventType} {handle : OperationHandle}
    {packet : HidXferPacket} (hm : .asyncOperation type handle packet ∈ p.shared.trace) :
    handle < p.shared.nextHandle := by
  induction h using FileReach.induct with
  | start => simp [FileState.created] at hm
  | arrives p a s t _ _ _ ha ih =>
    cases ha with
    | asyncOperation type' packet' =>
      rcases List.mem_append.mp hm with hm | hm
      · exact Nat.lt_succ_of_lt (ih hm)
      · cases List.mem_singleton.mp hm
        exact Nat.lt_succ_self _
    | _ => exact ih (by simpa using hm)
  | cancelled p before event after _ _ _ ih => exact ih (by simpa using hm)
  | ran p i fw l t r s ts _ _ _ _ _ hs ih => cases hs <;> exact ih (by simpa using hm)

def FilePool.Finished (p : FilePool) : Prop := p.threads = [] ∧ p.shared.ctx.vhfHandle = false

theorem uses_eq_one_of_finished (h : FileReach guard reports p) (hf : FilePool.Finished p)
    {token : Token} (hi : p.shared.IsIssued token) (hq : ∀ r, token ≠ .request r) :
    uses token p.shared.trace = 1 := by
  have hloc := token_located h token
  rw [(count_issued p.shared token).2 hi, operations_empty_of_closed h hf.2, hf.1,
    count_queueTokens _ hq] at hloc
  simpa using hloc

theorem operations_live (h : FileReach guard reports p) :
    (p.shared.ctx.operations.map Operation.object).Nodup ∧
      ∀ op ∈ p.shared.ctx.operations, uses (.object op.object) p.shared.trace = 0 := by
  have hcount : ∀ object, uses (.object object) p.shared.trace +
      (p.shared.ctx.operations.map Operation.object).count object ≤ 1 := by
    intro object
    have hloc := token_located h (.object object)
    rw [count_operationTokens] at hloc
    have hone := (count_issued p.shared (.object object)).1
    omega
  constructor
  · refine List.nodup_iff_count_le_one.mpr fun object => ?_
    have := hcount object
    omega
  · intro op hop
    have hpos := List.count_pos_iff.mpr (List.mem_map_of_mem (f := Operation.object) hop)
    have := hcount op.object
    omega

/-- Exactly-once completion, over every run of a file object: each VHF operation is completed at
most once and each wrapper object deleted at most once, exactly once when the file is closed and
every thread has ended; and no object is twice in the two collections. -/
theorem operations_completed_once (h : FileReach Runs.anyStep reports p) :
    (∀ type handle packet, .asyncOperation type handle packet ∈ p.shared.trace →
      uses (.handle handle) p.shared.trace ≤ 1 ∧
        (FilePool.Finished p → uses (.handle handle) p.shared.trace = 1)) ∧
    (∀ object < p.shared.nextObject, uses (.object object) p.shared.trace ≤ 1 ∧
      (FilePool.Finished p → uses (.object object) p.shared.trace = 1)) ∧
    (p.shared.ctx.operations.map Operation.object).Nodup := by
  refine ⟨fun type handle packet hm => ⟨uses_le_one h _, fun hf => ?_⟩,
    fun object ho => ⟨uses_le_one h _, fun hf => ?_⟩, (operations_live h).1⟩
  · have hi : p.shared.IsIssued (.handle handle) := handle_lt h hm
    exact uses_eq_one_of_finished h hf hi (by simp)
  · have hi : p.shared.IsIssued (.object object) := ho
    exact uses_eq_one_of_finished h hf hi (by simp)

end

def featureReports : ParsedReports := ⟨fun _ => ⟨0, 0, 4⟩, false⟩

/-- One operation is queued and cancelled by the close, a second one arrives too late. -/
def closeRace : List Action :=
  [.asyncOperation .getFeature ⟨fun _ => 0, 4, 0⟩, .run 0 {}, .run 0 {}, .run 0 {}, .fileClose,
    .run 0 {}, .asyncOperation .setFeature ⟨fun _ => 0, 4, 0⟩, .run 0 {}, .run 0 {}, .run 0 {},
    .run 0 {}, .run 0 {}]

def FileEvent.isAsyncOperation (handle : OperationHandle) : FileEvent → Bool
  | .asyncOperation _ h _ => h == handle
  | _ => false

theorem mem_of_isAsyncOperation {handle : OperationHandle} {trace : List FileEvent}
    (h : trace.any (FileEvent.isAsyncOperation handle)) :
    ∃ type packet, .asyncOperation type handle packet ∈ trace := by
  obtain ⟨event, hm, he⟩ := List.any_eq_true.mp h
  cases event with
  | asyncOperation type handle' packet =>
    cases LawfulBEq.eq_of_beq he
    exact ⟨type, packet, hm⟩
  | _ => cases he

theorem operations_completed_once_closeRace :
    ∃ p, FileReach Runs.anyStep featureReports p ∧ FilePool.Finished p ∧
      uses (.handle 0) p.shared.trace = 1 ∧ uses (.handle 1) p.shared.trace = 1 := by
  obtain ⟨p, hr, ht, hv, h0, h1⟩ := exists_fileReach featureReports closeRace
    (P := fun p => p.threads.isEmpty = true ∧ p.shared.ctx.vhfHandle = false ∧
      p.shared.trace.any (FileEvent.isAsyncOperation 0) ∧
      p.shared.trace.any (FileEvent.isAsyncOperation 1)) (by decide)
  have hf : FilePool.Finished p := ⟨List.isEmpty_iff.mp ht, hv⟩
  have hall := (operations_completed_once hr).1
  obtain ⟨_, _, hm0⟩ := mem_of_isAsyncOperation h0
  obtain ⟨_, _, hm1⟩ := mem_of_isAsyncOperation h1
  exact ⟨p, hr, hf, (hall _ _ _ hm0).2 hf, (hall _ _ _ hm1).2 hf⟩

end WinUHid
