import WinUHid.EventAnswers

namespace WinUHid

/-- The handler took the operation that was answered, told VHF the outcome of the answer, and filled
the report with its data. -/
structure SettledAnswer.Met (e : SettledAnswer) : Prop where
  taken : e.run.taken = some e.reply.op
  told : ∃ status, ntSuccess status = e.reply.answer.success ∧
    ∀ status', .asyncOperationComplete e.reply.op.handle status' ∈ e.run.effects ↔ status' = status
  report : ∀ i < e.reply.op.hidTransferPacket.reportBufferLen.toNat,
    ∀ b ∈ e.reply.answer.fills i, ∃ input ∈ e.input,
      (reportContents e.reply.op.object e.run.effects i).value input
        (e.reply.op.hidTransferPacket.reportBuffer i) = b

section Met

variable {fw : Framework} {ctx left : FileContext} {request : IoRequest} {op : Operation}
  {calls : SdkCalls}

theorem met_write {c : WriteEventComplete} {success : Bool} (outcome : ntSuccess c.status = success)
    (h : takeWriteEvent fw ctx request c =
      ⟨completeOperation fw request op c.status, left, some op, false⟩) :
    SettledAnswer.Met ⟨⟨op, .write calls success⟩, none, takeWriteEvent fw ctx request c⟩ := by
  rw [h]
  refine ⟨rfl, ⟨c.status, outcome, fun status' => ?_⟩, nofun⟩
  simp [completeOperation]

theorem reportContents_fill (status : NTSTATUS) (n : UInt32) (i : Nat) :
    reportContents op.object (fillReport op n ++ completeOperation fw request op status) i =
      if i < min n.toNat op.hidTransferPacket.reportBufferLen.toNat then .input (readDataOffset + i)
      else if i < op.hidTransferPacket.reportBufferLen.toNat then .zero
      else .unwritten := by
  have complete : reportContents op.object
      (fillReport op n ++ completeOperation fw request op status) =
        reportContents op.object (fillReport op n) :=
    reportContents_append (by simp [completeOperation, Effect.reportWritten])
  rw [complete]
  exact reportContents_fillReport op n i

/-- The driver reads the data where the SDK has put it. -/
theorem read_of_sent {input : InputBuffer} {garbage : UInt8} {buffer : Nat → UInt8}
    {dataLength : UInt32} (memory : calls.heapAlloc = true)
    (sent : winUHidCompleteReadEvent calls garbage op.event (some buffer) dataLength =
      some input.bytes)
    (long : sizeofReadEventComplete ≤ input.bytes.length) {i : Nat}
    (within : i < (truncatedLength op.event dataLength).toNat) :
    input.read (readDataOffset + i) = buffer i := by
  have stored : input.bytes =
      readEventCompleteBytes (answerRecord calls op.event (some buffer) dataLength)
        ((List.range (truncatedLength op.event dataLength).toNat).map buffer) := by
    have whole := winUHidCompleteReadEvent_some sent long
    rwa [answerData, if_pos memory] at whole
  have front :
      i < ((List.range (truncatedLength op.event dataLength).toNat).map buffer).length := by
    simpa using within
  have at_i : (InputBuffer.mk
      (readEventCompleteBytes (answerRecord calls op.event (some buffer) dataLength)
        ((List.range (truncatedLength op.event dataLength).toNat).map buffer))
      input.beyond).read (readDataOffset + i) = _ := read_stored front
  rw [← stored] at at_i
  simpa using at_i

theorem met_read {input : InputBuffer} {c : ReadEventComplete} {ready : Bool} {garbage : UInt8}
    {data : Option (Nat → UInt8)} {dataLength : UInt32} (real : op.requestId ≠ 0)
    (sent : winUHidCompleteReadEvent calls garbage op.event data dataLength = some input.bytes)
    (long : sizeofReadEventComplete ≤ input.bytes.length) (hc : c = input.readEventComplete)
    (h : takeReadEvent fw ctx request input c =
      ⟨(readCompletion ctx.reports.numberedReports input c).effects fw
        ctx.reports.numberedReports request op, left, some op, ready⟩) :
    SettledAnswer.Met ⟨⟨op, .read calls garbage data dataLength⟩, input,
      takeReadEvent fw ctx request input c⟩ := by
  have record : c = answerRecord calls op.event data dataLength :=
    hc.trans (readEventComplete_of_sent input.beyond sent long)
  have id : c.requestId = op.requestId := by
    rw [record]
    exact answerRecord_requestId
  have status : ntSuccess c.status = (data.isSome && calls.heapAlloc) := by
    rw [record]
    exact answerRecord_status
  rw [h]
  refine ⟨rfl, ⟨c.status, status, fun status' => ?_⟩, fun i hi b hb => ⟨input, rfl, ?_⟩⟩
  · rw [mem_effects_of_real (id ▸ real)]
    simp
  · cases data with
    | none => cases hb
    | some buffer =>
      cases memory : calls.heapAlloc with
      | false => simp [EventAnswer.fills, memory] at hb
      | true =>
        have byte : (if i < dataLength.toNat then buffer i else 0) = b := by
          simpa [EventAnswer.fills, memory] using hb
        have ok : ntSuccess c.status = true := by rw [status, memory]; rfl
        have length : c.dataLength = truncatedLength op.event dataLength := by
          rw [record, answerRecord, if_pos memory]
          rfl
        have fewer := min_truncatedLength op dataLength
        have inside : i < op.hidTransferPacket.reportBufferLen.toNat := hi
        simp only [readCompletion_of_success (id ▸ real) ok, ReadCompletion.effects, length,
          reportContents_fill]
        rw [← byte]
        by_cases hlt : i < dataLength.toNat
        · have within : i < (truncatedLength op.event dataLength).toNat := by omega
          rw [if_pos (by omega), if_pos hlt, ReportByte.value, read_of_sent memory sent long within]
        · rw [if_neg (by omega), if_pos inside, if_neg hlt, ReportByte.value]

end Met

namespace ServedFile

/-- The operations whose events the client has, and those whose answers were lost. -/
def outside (f : ServedFile) : Multiset Operation :=
  realOperations (f.received ++ f.lost.map EventReply.op)

/-- Where the operations are that are out with the client, and what its answers have come to. -/
structure Accounts (f : ServedFile) : Prop where
  answering : ∀ t ∈ f.file.pool.threads, t.Answering f.answered
  balance : f.ctx.vhfHandle → realOperations f.ctx.outstandingRequests =
    (f.file.pool.threads.map (Thread.inTransit f.answered)).sum + f.outside
  lost : f.ctx.vhfHandle → ∀ reply ∈ f.lost, ¬reply.answer.Arrives
  settled : ∀ e ∈ f.settled, e.reply.op.requestId ≠ 0 →
    e.Met ∨ e.run.taken = none ∧ f.ctx.vhfHandle = false

theorem accounts_start (reports : ParsedReports) : (start reports).Accounts where
  answering := by simp [start]
  balance := fun _ => rfl
  lost := by simp [start]
  settled := by simp [start]

/-- What a step of a thread moves, as long as the file stays open. -/
structure Moves (f : ServedFile) (fw : Framework) (t : Thread) : Prop where
  answering : ∀ u ∈ (t.step fw f.file.pool.shared).2, u.Answering f.answered
  balance : (t.step fw f.file.pool.shared).1.ctx.vhfHandle →
    realOperations (t.step fw f.file.pool.shared).1.ctx.outstandingRequests +
        (t.inTransit f.answered + f.outside) =
      realOperations f.ctx.outstandingRequests +
        (((t.step fw f.file.pool.shared).2.map (Thread.inTransit f.answered)).sum +
          (f.ran fw t).outside)
  lost : (t.step fw f.file.pool.shared).1.ctx.vhfHandle →
    ∀ reply ∈ (f.ran fw t).lost, reply ∈ f.lost ∨ ¬reply.answer.Arrives
  settled : ∀ e ∈ (f.ran fw t).settled, e ∈ f.settled ∨ (e.reply.op.requestId ≠ 0 →
    e.Met ∨ e.run.taken = none ∧ (t.step fw f.file.pool.shared).1.ctx.vhfHandle = false)

variable {f : ServedFile} {fw : Framework}

theorem answering_of_completing {t : Thread} (h : t.completing = none)
    (answered : IoRequest → Option EventReply) : t.Answering answered := by
  cases t with
  | completeWrite | takeWrite | completeRead | takeRead => cases h
  | _ => trivial

theorem completing_remaining (es : List Effect) : ∀ u ∈ remaining es, u.completing = none := by
  cases es <;> simp [remaining, Thread.completing]

/-- A thread that completes no event turns into threads that do not either. -/
theorem steps_completing {s s' : FileState} {t : Thread} {ts : List Thread}
    (h : Thread.Steps fw s t s' ts) (hc : t.completing = none) :
    ∀ u ∈ ts, u.completing = none := by
  cases h with
  | created | queued | retrieved | accepted | pending => simp [Thread.completing]
  | writeAccepted | readAccepted | readFailed => cases hc
  | ended => simp
  | _ => exact completing_remaining _

theorem moves_of_steps {t : Thread} (none : t.completing = none)
    (same : ∀ e rest, t ≠ .calls (e :: rest)) : f.Moves fw t := by
  have steps := Thread.step_cases fw f.file.pool.shared t
  have ran : f.ran fw t = f := by
    cases t with
    | calls effects =>
      cases effects with
      | nil => rfl
      | cons e rest => exact absurd rfl (same e rest)
    | completeWrite | takeWrite | completeRead | takeRead => cases none
    | _ => rfl
  refine ⟨fun u hu => answering_of_completing (steps_completing steps none u hu) _,
    fun handle => ?_, fun _ reply hr => .inl (by rwa [ran] at hr),
    fun e he => .inl (by rwa [ran] at he)⟩
  rw [ran]
  generalize (t.step fw f.file.pool.shared).1 = s' at *
  generalize (t.step fw f.file.pool.shared).2 = ts at *
  cases steps with
  | handed event caller rest op waiting hw hf ha =>
    have delivered : deliveries (.requestComplete event.request fw.collectionAdd
        (bytesTransferred op) (some op) :: rest) = (event.request, op) :: deliveries rest := by
      simp [deliveries, Effect.delivery, ha]
    simp only [Thread.inTransit, Thread.effects, Thread.completing, inTransit_remaining, delivered,
      FileState.record_ctx, realOperations_append, realOperations_cons, realOperations_nil,
      List.map_cons, Option.bind_none, Option.toList_none, List.map_nil, add_zero]
    abel
  | unknownReport call rest ctx _ hc =>
    rw [(FileContext.createOperation_eq hc).1]
    simp [Thread.inTransit, Thread.effects, Thread.completing, inTransit_remaining]
  | created call rest ctx op _ hc =>
    rw [(FileContext.createOperation_eq hc).1]
    simp [Thread.inTransit, Thread.effects, Thread.completing]
  | closed => cases handle
  | called e effects => exact absurd rfl (same e effects)
  | writeRejected | writeAccepted | writeNotFound | writeTaken | readRejected | readAccepted
  | readNotFound | readTaken | readFailed => cases none
  | _ => simp [Thread.inTransit, Thread.effects, Thread.completing, inTransit_remaining]

/-- A delivered event is with the client. -/
theorem moves_calls (e : Effect) (rest : List Effect) : f.Moves fw (.calls (e :: rest)) := by
  refine ⟨fun u hu => answering_of_completing (completing_remaining rest u hu) _, fun _ => ?_,
    fun _ reply hr => .inl hr, fun entry he => .inl he⟩
  have split : deliveries (e :: rest) = deliveries [e] ++ deliveries rest :=
    deliveries_append [e] rest
  have left : ((Thread.step fw f.file.pool.shared (.calls (e :: rest))).2.map
      (Thread.inTransit f.answered)).sum = realOperations ((deliveries rest).map Prod.snd) :=
    inTransit_remaining f.answered rest
  have ctx : (Thread.step fw f.file.pool.shared (.calls (e :: rest))).1.ctx = f.ctx := rfl
  have carried : (Thread.calls (e :: rest)).inTransit f.answered =
      realOperations ((deliveries (e :: rest)).map Prod.snd) := by
    simp [Thread.inTransit, Thread.effects, Thread.completing]
  rw [left, ctx, carried, split]
  simp only [outside, ran, List.map_append, realOperations_append]
  abel

/-- A search for the operation finds it while the file is open, and never another one. -/
structure Findable (f : ServedFile) (op : Operation) : Prop where
  present : f.ctx.vhfHandle → op.requestId ≠ 0 → op ∈ f.ctx.outstandingRequests
  unique : ∀ o ∈ f.ctx.outstandingRequests, o.requestId = op.requestId → op.requestId ≠ 0 → o = op

theorem Findable.open_or_pseudo {op : Operation} (h : f.Findable op)
    (missing : f.ctx.outstandingOperation op.requestId = none) :
    op.requestId = 0 ∨ f.ctx.vhfHandle = false := by
  by_cases pseudo : op.requestId = 0
  · exact .inl pseudo
  · refine .inr ?_
    by_contra handle
    have missed := List.find?_eq_none.mp missing _ (h.present (by simpa using handle) pseudo)
    exact missed (beq_self_eq_true _)

section Completions

variable {t : Thread} {request : IoRequest} {reply : EventReply}

theorem inTransit_completing (ht : t.completing = some request) (effects : t.effects = [])
    (answered : f.answered request = some reply) : t.inTransit f.answered = reply.op.real := by
  simp [Thread.inTransit, effects, ht, answered, deliveries]

/-- The driver's checks refuse an answer. -/
theorem moves_refused (status : NTSTATUS) (ht : t.completing = some request)
    (effects : t.effects = []) (answered : f.answered request = some reply)
    (ctx : (t.step fw f.file.pool.shared).1.ctx = f.ctx)
    (threads : (t.step fw f.file.pool.shared).2 = remaining (requestFailed request status))
    (ran : f.ran fw t = f.lose request) (refused : f.ctx.vhfHandle → ¬reply.answer.Arrives) :
    f.Moves fw t := by
  have lost : (f.ran fw t).lost = f.lost ++ [reply] := by
    rw [ran, lose, answered]
    rfl
  have received : (f.ran fw t).received = f.received := by rw [ran, lose]
  refine ⟨?_, fun _ => ?_, fun handle r hr => ?_, fun e he => .inl ?_⟩
  · rw [threads]
    exact fun u hu => answering_of_completing (completing_remaining _ u hu) _
  · rw [ctx, threads, inTransit_remaining, inTransit_completing ht effects answered, outside,
      outside, lost, received]
    simp only [deliveries_requestFailed, List.map_nil, realOperations_nil, List.map_append,
      realOperations_append, List.map_cons, realOperations_cons]
    abel
  · rw [lost] at hr
    rw [ctx] at handle
    rcases List.mem_append.mp hr with hr | hr
    · exact .inl hr
    · cases List.mem_singleton.mp hr
      exact .inr (refused handle)
  · rwa [ran, lose] at he

/-- An answer passes the driver's checks. -/
theorem moves_accepted (u : Thread) (ht : t.completing = some request) (effects : t.effects = [])
    (hu : u.completing = some request) (effects' : u.effects = [])
    (answered : f.answered request = some reply)
    (ctx : (t.step fw f.file.pool.shared).1.ctx = f.ctx)
    (threads : (t.step fw f.file.pool.shared).2 = [u]) (answering : u.Answering f.answered)
    (ran : f.ran fw t = f) : f.Moves fw t := by
  refine ⟨?_, fun _ => ?_, fun _ r hr => .inl (by rwa [ran] at hr),
    fun e he => .inl (by rwa [ran] at he)⟩
  · rw [threads]
    exact List.forall_mem_singleton.mpr answering
  · rw [ctx, threads, ran, List.map_singleton, List.sum_singleton,
      inTransit_completing ht effects answered, inTransit_completing hu effects' answered]

/-- The driver looks for the operation that an answer names. -/
theorem moves_searched {id : RequestId} (input : Option InputBuffer) (run : CompletionRun)
    (ht : t.completing = some request) (effects : t.effects = [])
    (answered : f.answered request = some reply) (findable : f.Findable reply.op)
    (hid : id = reply.op.requestId)
    (search : (f.ctx.outstandingOperation id = none ∧ run.taken = none ∧
        (t.step fw f.file.pool.shared).1.ctx = f.ctx) ∨
      ∃ op before after, f.ctx.outstandingRequests = before ++ op :: after ∧ op.requestId = id ∧
        (t.step fw f.file.pool.shared).1.ctx =
          { f.ctx with outstandingRequests := before ++ after } ∧
        (op = reply.op → op.requestId ≠ 0 → SettledAnswer.Met ⟨reply, input, run⟩))
    (threads : ∀ u ∈ (t.step fw f.file.pool.shared).2,
      u.completing = none ∧ deliveries u.effects = [])
    (ran : f.ran fw t = f.settle request input run) : f.Moves fw t := by
  have settled : (f.ran fw t).settled = f.settled ++ [⟨reply, input, run⟩] := by
    rw [ran, settle, answered]
    rfl
  have outside_ran : (f.ran fw t).outside = f.outside := by
    rw [ran]
    rfl
  have quiet : ((t.step fw f.file.pool.shared).2.map (Thread.inTransit f.answered)).sum = 0 := by
    refine List.sum_eq_zero fun m hm => ?_
    obtain ⟨u, hu, rfl⟩ := List.mem_map.mp hm
    simp [Thread.inTransit, (threads u hu).1, (threads u hu).2]
  refine ⟨fun u hu => answering_of_completing (threads u hu).1 _, fun handle => ?_,
    fun _ r hr => .inl (by rwa [ran] at hr), fun e he => ?_⟩
  · rw [quiet, outside_ran, inTransit_completing ht effects answered]
    rcases search with ⟨missing, -, ctx⟩ | ⟨op, before, after, ho, found, ctx, -⟩
    · rw [ctx] at handle ⊢
      rcases findable.open_or_pseudo (hid ▸ missing) with pseudo | shut
      · rw [Operation.real, if_pos pseudo]
      · rw [shut] at handle
        cases handle
    · have taken : op.real = reply.op.real := by
        by_cases pseudo : reply.op.requestId = 0
        · rw [Operation.real, Operation.real, if_pos (found.trans (hid.trans pseudo)),
            if_pos pseudo]
        · rw [findable.unique op (by simp [ho]) (found.trans hid) pseudo]
      rw [ctx, ho, ← taken]
      simp only [realOperations_append, realOperations_cons]
      abel
  · rw [settled] at he
    rcases List.mem_append.mp he with he | he
    · exact .inl he
    · cases List.mem_singleton.mp he
      refine .inr fun real => ?_
      rcases search with ⟨missing, none, ctx⟩ | ⟨op, before, after, ho, found, ctx, met⟩
      · refine .inr ⟨none, ?_⟩
        rw [ctx]
        exact (findable.open_or_pseudo (hid ▸ missing)).resolve_left real
      · have same := findable.unique op (by simp [ho]) (found.trans hid) real
        exact .inl (met same (same ▸ real))

theorem moves_completeWrite {input : InputBuffer}
    (answering : (Thread.completeWrite request input).Answering f.answered) :
    f.Moves fw (.completeWrite request input) := by
  obtain ⟨op, calls, success, answered, sent⟩ := answering
  cases checked : checkWriteEvent f.ctx input with
  | error status =>
    refine moves_refused status rfl rfl answered ?_ ?_ ?_ fun handle => ?_
    · simp only [Thread.step, FileState.completeWrite, checked]
    · simp only [Thread.step, FileState.completeWrite, checked]
    · simp only [ran, checked]
    · obtain ⟨c, accepted⟩ := checkWriteEvent_of_sent input.beyond handle sent
      cases checked.symm.trans accepted
  | ok c =>
    obtain ⟨-, -, rfl⟩ := checkWriteEvent_eq_ok.mp checked
    refine moves_accepted (.takeWrite request input.writeEventComplete) rfl rfl rfl rfl answered
      ?_ ?_ ⟨op, calls, success, answered, ?_⟩ ?_
    · simp only [Thread.step, FileState.completeWrite, checked]
    · simp only [Thread.step, FileState.completeWrite, checked]
    · rw [show input.writeEventComplete = _ from
        (winUHidCompleteWriteEvent_some input.beyond sent).2]
      cases success <;> exact ⟨rfl, rfl⟩
    · simp only [ran, checked]

theorem moves_completeRead {input : InputBuffer}
    (answering : (Thread.completeRead request input).Answering f.answered) :
    f.Moves fw (.completeRead request input) := by
  obtain ⟨op, calls, garbage, data, dataLength, answered, sent⟩ := answering
  cases checked : checkReadEvent f.ctx input with
  | error status =>
    refine moves_refused status rfl rfl answered rfl ?_ ?_ fun handle arrives => ?_
    · simp only [Thread.step, FileState.completeRead, checked]
    · simp only [ran, checked]
    · obtain ⟨c, accepted⟩ := checkReadEvent_of_deliver input.beyond handle arrives.2 arrives.1
        sent
      cases checked.symm.trans accepted
  | ok c =>
    obtain ⟨-, long, -, rfl⟩ := checkReadEvent_eq_ok.mp checked
    refine moves_accepted (.takeRead request input input.readEventComplete) rfl rfl rfl rfl
      answered rfl ?_ ⟨op, calls, garbage, data, dataLength, answered, sent, long, rfl⟩ ?_
    · simp only [Thread.step, FileState.completeRead, checked]
    · simp only [ran, checked]

theorem quiet_remaining {es : List Effect} (h : deliveries es = []) :
    ∀ u ∈ remaining es, u.completing = none ∧ deliveries u.effects = [] := by
  cases es with
  | nil => exact nofun
  | cons e es => exact List.forall_mem_singleton.mpr ⟨rfl, h⟩

theorem moves_takeWrite {c : WriteEventComplete}
    (answering : (Thread.takeWrite request c).Answering f.answered)
    (findable : ∀ reply, f.answered request = some reply → f.Findable reply.op) :
    f.Moves fw (.takeWrite request c) := by
  obtain ⟨op, calls, success, answered, hid, outcome⟩ := answering
  refine moves_searched none (takeWriteEvent fw f.ctx request c) rfl rfl answered
    (findable _ answered) hid ?_ ?_ rfl
  · rcases takeWriteEvent_cases fw f.ctx request c with
      ⟨missing, taken⟩ | ⟨found, before, after, ho, id, -, taken⟩
    · exact .inl ⟨missing, by rw [taken, CompletionRun.rejected],
        by simp only [Thread.step, FileState.takeWrite, taken, CompletionRun.rejected]⟩
    · refine .inr ⟨found, before, after, ho, id, ?_, ?_⟩
      · simp only [Thread.step, FileState.takeWrite, taken]
      · rintro rfl -
        exact met_write outcome taken
  · refine quiet_remaining ?_
    rcases takeWriteEvent_cases fw f.file.pool.shared.ctx request c with
      ⟨-, taken⟩ | ⟨op, before, after, -, -, -, taken⟩
    · rw [taken, CompletionRun.rejected, deliveries_requestFailed]
    · rw [taken, deliveries_completeOperation]

theorem moves_takeRead {input : InputBuffer} {c : ReadEventComplete}
    (answering : (Thread.takeRead request input c).Answering f.answered)
    (findable : ∀ reply, f.answered request = some reply → f.Findable reply.op) :
    f.Moves fw (.takeRead request input c) := by
  obtain ⟨op, calls, garbage, data, dataLength, answered, sent, long, hc⟩ := answering
  have hid : c.requestId = op.requestId := by
    rw [hc, readEventComplete_of_sent input.beyond sent long]
    exact answerRecord_requestId
  refine moves_searched input (takeReadEvent fw f.ctx request input c) rfl rfl answered
    (findable _ answered) hid ?_ ?_ rfl
  · rcases takeReadEvent_cases fw f.ctx request input c with
      ⟨missing, taken⟩ | ⟨found, before, after, ho, id, -, taken⟩
    · exact .inl ⟨missing, by rw [taken, CompletionRun.rejected],
        by simp only [Thread.step, FileState.takeRead, taken, CompletionRun.rejected]⟩
    · refine .inr ⟨found, before, after, ho, id, ?_, ?_⟩
      · simp only [Thread.step, FileState.takeRead, taken]
      · rintro rfl real
        exact met_read real sent long hc taken
  · have quiet : deliveries (takeReadEvent fw f.file.pool.shared.ctx request input c).effects =
        [] := by
      rcases takeReadEvent_cases fw f.file.pool.shared.ctx request input c with
        ⟨-, taken⟩ | ⟨op, before, after, -, -, -, taken⟩
      · rw [taken, CompletionRun.rejected, deliveries_requestFailed]
      · rw [taken, deliveries_readCompletion]
    simp only [Thread.step, FileState.takeRead]
    split
    next => exact List.forall_mem_singleton.mpr ⟨rfl, quiet⟩
    next => exact quiet_remaining quiet

end Completions

/-- An operation whose answer is in the driver is still outstanding while the file is open. -/
theorem Accounts.findable {reports : ParsedReports} (h : f.Accounts)
    (logged : LoggedReach reports f.file) (recent : f.Recent) {t : Thread}
    (ht : t ∈ f.file.pool.threads) {request : IoRequest} (hc : t.completing = some request)
    {reply : EventReply} (answered : f.answered request = some reply) :
    f.Findable reply.op := by
  have present : f.ctx.vhfHandle → reply.op.requestId ≠ 0 →
      reply.op ∈ f.ctx.outstandingRequests := by
    intro handle real
    have carried : reply.op ∈ t.inTransit f.answered := by
      refine mem_realOperations.mpr ⟨List.mem_append_right _ ?_, real⟩
      simp [hc, answered]
    have all : reply.op ∈ realOperations f.ctx.outstandingRequests := by
      rw [h.balance handle]
      exact Multiset.mem_add.mpr (.inl (mem_sum_map.mpr ⟨t, ht, carried⟩))
    exact (mem_realOperations.mp all).1
  refine ⟨present, fun o ho same real => ?_⟩
  cases handle : f.ctx.vhfHandle with
  | true =>
    exact logged.outstanding_unique recent ho (present handle real) (same ▸ real) same
  | false =>
    have empty := operations_empty_of_closed logged.file handle
    rw [FileContext.operations, List.append_eq_nil_iff] at empty
    rw [ctx, empty.2] at ho
    cases ho

theorem Accounts.moves {reports : ParsedReports} (h : f.Accounts)
    (logged : LoggedReach reports f.file) (recent : f.Recent) {t : Thread}
    (ht : t ∈ f.file.pool.threads) : f.Moves fw t := by
  have answering := h.answering t ht
  have findable : ∀ request, t.completing = some request → ∀ reply,
      f.answered request = some reply → f.Findable reply.op := fun _ hc _ =>
    h.findable logged recent ht hc
  cases t with
  | calls effects =>
    cases effects with
    | nil => exact moves_of_steps rfl nofun
    | cons e rest => exact moves_calls e rest
  | completeWrite request input => exact moves_completeWrite answering
  | completeRead request input => exact moves_completeRead answering
  | takeWrite request c => exact moves_takeWrite answering (findable request rfl)
  | takeRead request input c => exact moves_takeRead answering (findable request rfl)
  | _ => exact moves_of_steps rfl nofun

theorem ran_answered (t : Thread) : (f.ran fw t).answered = f.answered := by
  unfold ran
  split
  next => rfl
  next => split <;> rfl
  next => split <;> rfl
  next => rfl
  next => rfl
  next => rfl

theorem handle_of_step {s s' : FileState} {t : Thread} {ts : List Thread}
    (h : Thread.Steps fw s t s' ts) (handle : s'.ctx.vhfHandle) : s.ctx.vhfHandle := by
  cases h with
  | unknownReport call rest ctx _ hc | created call rest ctx op _ hc =>
    rw [(FileContext.createOperation_eq hc).1] at handle
    exact handle
  | closed => cases handle
  | _ => exact handle

/-- One step of a thread. -/
theorem Accounts.run (h : f.Accounts) {t : Thread} (moves : f.Moves fw t) {l r : List Thread}
    (threads : f.file.pool.threads = l ++ t :: r) {file : LoggedFile}
    (shared : file.pool.shared = (t.step fw f.file.pool.shared).1)
    (replaced : file.pool.threads = l ++ (t.step fw f.file.pool.shared).2 ++ r) :
    Accounts { f.ran fw t with file } := by
  have handle : file.pool.shared.ctx.vhfHandle → f.ctx.vhfHandle := fun hv =>
    handle_of_step (Thread.step_cases fw f.file.pool.shared t) (shared ▸ hv)
  refine ⟨?_, fun hv => ?_, fun hv reply hr => ?_, fun e he real => ?_⟩
  · simp only [replaced, ran_answered]
    exact Pool.forall_replace (fun u hu => h.answering u (threads ▸ hu)) fun _ => moves.answering
  · have moved := moves.balance (shared ▸ hv)
    have before := h.balance (handle hv)
    simp only [ctx, shared, replaced, ran_answered]
    rw [before, threads] at moved
    simp only [List.map_append, List.map_cons, List.sum_append, List.sum_cons] at moved ⊢
    refine add_right_cancel (b := t.inTransit f.answered + f.outside) (moved.trans ?_)
    show _ = _ + _ + _ + (f.ran fw t).outside + _
    abel
  · rcases moves.lost (shared ▸ hv) reply hr with old | refused
    · exact h.lost (handle hv) reply old
    · exact refused
  · rcases moves.settled e he with old | new
    · refine (h.settled e old real).imp_right fun missed => ⟨missed.1, ?_⟩
      by_contra hv
      have shut := missed.2
      rw [handle (by simpa using hv)] at shut
      cases shut
    · simpa only [ctx, shared] using new real

/-- A thread starts that brings along what left the client. -/
theorem Accounts.spawn (h : f.Accounts) {f' : ServedFile} {s : FileState} {t : Thread}
    (pool : f'.file.pool = f.file.pool.spawn s t) (same : s.ctx = f.ctx)
    (agree : ∀ u ∈ f.file.pool.threads, ∀ request ∈ u.completing,
      f'.answered request = f.answered request)
    (answering : t.Answering f'.answered)
    (brings : t.inTransit f'.answered + f'.outside = f.outside)
    (lost : f'.lost = f.lost) (settled : f'.settled = f.settled) : f'.Accounts := by
  have ctx : f'.ctx = f.ctx := by rw [ServedFile.ctx, pool, Pool.spawn_shared, same]
  have carried : f.file.pool.threads.map (Thread.inTransit f'.answered) =
      f.file.pool.threads.map (Thread.inTransit f.answered) :=
    List.map_congr_left fun u hu => inTransit_congr (agree u hu)
  refine ⟨?_, fun hv => ?_, ?_, ?_⟩
  · rw [pool, Pool.spawn_threads]
    exact Pool.forall_spawn (fun u hu => answering_congr (agree u hu) (h.answering u hu)) answering
  · rw [ctx, h.balance (ctx ▸ hv), pool, Pool.spawn_threads, List.map_append, List.sum_append,
      carried, List.map_singleton, List.sum_singleton, ← brings]
    abel
  · rw [ctx, lost]
    exact h.lost
  · rw [ctx, settled]
    exact h.settled

theorem Accounts.file (h : f.Accounts) {reports : ParsedReports}
    (logged : LoggedReach reports f.file) (recent : f.Recent) {a : Action}
    (ha : a.completesEvent = false) {file : LoggedFile} (hs : loggedStep f.file a = some file) :
    Accounts { a.served f with file } := by
  obtain ⟨p, hp, rfl⟩ := Option.map_eq_some_iff.mp hs
  cases a with
  | run i fw =>
    obtain ⟨l, t, r, threads, ht, shared, replaced⟩ := Pool.run_cases hp
    have served : (Action.run i fw).served f = f.ran fw t := by rw [Action.served, ht]; rfl
    rw [served]
    exact h.run (h.moves logged recent (by simp [threads])) threads shared replaced
  | cancelRequest i =>
    rcases fileStep_cases hp with ⟨_, _, ha, -⟩ | ⟨_, _, _, _, -, -, rfl⟩ |
      ⟨_, _, _, _, _, _, _, he, -⟩
    · cases ha
    · exact ⟨h.answering, h.balance, h.lost, h.settled⟩
    · cases he
  | completeWriteEvent | completeReadEvent => cases ha
  | _ =>
    rcases fileStep_cases hp with ⟨s, t, arrives, rfl⟩ | ⟨_, _, _, _, he, -⟩ |
      ⟨_, _, _, _, _, _, _, he, -⟩
    · cases arrives
      exact h.spawn rfl rfl (fun _ _ _ _ => rfl) trivial (by
        simp [Thread.inTransit, Thread.effects, Thread.completing, deliveries]; rfl) rfl rfl
    · cases he
    · cases he

/-- Without an event to wait on nothing is sent, whatever the answer. -/
theorem not_arrives_of_unsent {answer : EventAnswer} {event : Event}
    (h : answer.sent event = none) : ¬answer.Arrives := by
  cases answer with
  | write calls success =>
    intro arrives
    have created : calls.createEvent = true := arrives
    simp [EventAnswer.sent, winUHidCompleteWriteEvent, created] at h
  | read calls garbage data dataLength =>
    rintro ⟨deliver, hn⟩
    rw [EventAnswer.sent, winUHidCompleteReadEvent_eq hn, if_pos deliver.1] at h
    cases h

theorem realOperations_eraseIdx {ops : List Operation} {i : Nat} {op : Operation}
    (h : ops[i]? = some op) :
    op.real + realOperations (ops.eraseIdx i) = realOperations ops := by
  obtain ⟨hi, hv⟩ := List.getElem?_eq_some_iff.mp h
  have whole : ops = ops.take i ++ op :: ops.drop (i + 1) := by
    rw [← hv, List.getElem_cons_drop, List.take_append_drop]
  rw [List.eraseIdx_eq_take_drop_succ]
  conv_rhs => rw [whole]
  simp only [realOperations_append, realOperations_cons]
  abel

/-- An answer that is not sent is lost. -/
theorem Accounts.unsent (h : f.Accounts) {i : Nat} {op : Operation} {answer : EventAnswer}
    (hop : f.received[i]? = some op) (sent : answer.sent op.event = none) :
    Accounts { f with received := f.received.eraseIdx i, lost := f.lost ++ [⟨op, answer⟩] } := by
  refine ⟨h.answering, fun hv => ?_, fun hv reply hr => ?_, h.settled⟩
  · rw [ctx, h.balance hv, outside, outside, realOperations_append, realOperations_append,
      ← realOperations_eraseIdx hop, List.map_append, realOperations_append, List.map_singleton,
      realOperations_cons, realOperations_nil]
    abel
  · rcases List.mem_append.mp hr with hr | hr
    · exact h.lost hv reply hr
    · cases List.mem_singleton.mp hr
      exact not_arrives_of_unsent sent

/-- An answer that is sent is on its way in the driver. -/
theorem Accounts.sent (h : f.Accounts) {reports : ParsedReports}
    (logged : LoggedReach reports f.file) {i : Nat} {op : Operation} {answer : EventAnswer}
    {bytes : List UInt8} {beyond : Nat → UInt8} {file : LoggedFile}
    (hop : f.received[i]? = some op) (sent : answer.sent op.event = some bytes)
    (hs : loggedStep f.file (answer.ioctl ⟨bytes, beyond⟩) = some file) :
    Accounts
      { f with
        file
        received := f.received.eraseIdx i
        answered := Function.update f.answered f.file.pool.shared.nextRequest
          (some ⟨op, answer⟩) } := by
  obtain ⟨p, hp, rfl⟩ := Option.map_eq_some_iff.mp hs
  have agree : ∀ u ∈ f.file.pool.threads, ∀ request ∈ u.completing,
      Function.update f.answered f.file.pool.shared.nextRequest (some ⟨op, answer⟩) request =
        f.answered request := fun u hu request hr =>
    Function.update_of_ne (Nat.ne_of_lt (completing_lt logged.file hu hr)) _ _
  have brings : ∀ t : Thread, t.effects = [] →
      t.completing = some f.file.pool.shared.nextRequest →
      t.inTransit (Function.update f.answered f.file.pool.shared.nextRequest
          (some ⟨op, answer⟩)) +
        realOperations (f.received.eraseIdx i ++ f.lost.map EventReply.op) = f.outside := by
    intro t effects completing
    rw [Thread.inTransit, effects, completing, Option.bind_some, Function.update_self, outside,
      realOperations_append f.received, ← realOperations_eraseIdx hop]
    simp only [deliveries_nil, List.map_nil, List.nil_append, Option.toList_some,
      List.map_singleton, realOperations_cons, realOperations_append, realOperations_nil]
    abel
  cases answer with
  | write calls success =>
    cases Option.some.inj hp
    exact h.spawn rfl rfl agree ⟨op, calls, success, Function.update_self _ _ _, sent⟩
      (brings _ rfl rfl) rfl rfl
  | read calls garbage data dataLength =>
    cases Option.some.inj hp
    exact h.spawn rfl rfl agree
      ⟨op, calls, garbage, data, dataLength, Function.update_self _ _ _, sent⟩
      (brings _ rfl rfl) rfl rfl

theorem accounts_of_reach {reports : ParsedReports} (h : ServedReach reports f) : f.Accounts := by
  induction h with
  | start hi =>
    cases hi
    exact accounts_start reports
  | next hr recent hs ih =>
    have logged := ServedReach.logged hr
    cases servedStep_cases hs with
    | file completes hfile => exact ih.file logged recent completes hfile
    | unsent hop sent => exact ih.unsent hop sent
    | sent hop sent hfile => exact ih.sent logged hop sent hfile

/-- A client that answers each event it is handed at most once. Every answer that gets to the search
for its operation completes that operation, with the outcome and the data that the client gave,
unless the file is closed; no operation that VHF waits for is out but those whose events are on
their way to the client or with it, and those whose answers are on their way back or were lost; and
only answers that the SDK could not send, that carry no data, or whose length wraps when the header
is added to it are lost. -/
theorem answers_settle {reports : ParsedReports} (h : ServedReach reports f) :
    (∀ e ∈ f.settled, e.reply.op.requestId ≠ 0 →
      e.Met ∨ e.run.taken = none ∧ f.ctx.vhfHandle = false) ∧
    (f.ctx.vhfHandle → realOperations f.ctx.outstandingRequests =
      (f.file.pool.threads.map (Thread.inTransit f.answered)).sum + realOperations f.received +
        realOperations (f.lost.map EventReply.op)) ∧
    (f.ctx.vhfHandle → ∀ reply ∈ f.lost, ¬reply.answer.Arrives) := by
  have accounts := accounts_of_reach h
  refine ⟨accounts.settled, fun hv => ?_, accounts.lost⟩
  rw [accounts.balance hv, outside, realOperations_append, add_assoc]

/-- Two `GET_FEATURE` operations are delivered and answered in the other order. -/
def answerInReverse : List ServedAction :=
  ([.asyncOperation .getFeature ⟨fun _ => 0xEE, 6, 0⟩, .run 0 {}, .run 0 {}, .run 0 {},
    .asyncOperation .getFeature ⟨fun _ => 0xEE, 6, 0⟩, .run 0 {}, .run 0 {}, .run 0 {},
    .getNextEvent 14, .run 0 {}, .run 0 {}, .run 0 {},
    .getNextEvent 14, .run 0 {}, .run 0 {}, .run 0 {}] : List Action).map .file ++
  [.answer 1 (.read {} 0 (some fun _ => 7) 3) fun _ => 0,
    .file (.run 0 {}), .file (.run 0 {}),
    .answer 0 (.read {} 0 (some fun _ => 9) 3) fun _ => 0,
    .file (.run 1 {}), .file (.run 1 {})]

theorem answers_settle_inReverse : ∃ f, ServedReach featureDevice f ∧
    f.settled.map (fun e => e.reply.op.requestId) = [0x80000002, 0x80000001] ∧
    ∀ e ∈ f.settled, e.Met := by
  have reached : ∃ f, ServedReach featureDevice f ∧
      f.settled.map (fun e => e.reply.op.requestId) = [0x80000002, 0x80000001] ∧
      f.ctx.vhfHandle = true :=
    exists_servedReach featureDevice answerInReverse (by rfl)
  obtain ⟨f, hr, hs, hv⟩ := reached
  refine ⟨f, hr, hs, fun e he => ?_⟩
  have id : e.reply.op.requestId ∈ [(0x80000002 : RequestId), 0x80000001] :=
    hs ▸ List.mem_map_of_mem he
  have real : e.reply.op.requestId ≠ 0 := by
    intro pseudo
    rw [pseudo] at id
    exact absurd id (by decide)
  rcases (answers_settle hr).1 e he real with met | ⟨-, closed⟩
  · exact met
  · rw [hv] at closed
    cases closed

end ServedFile

end WinUHid
