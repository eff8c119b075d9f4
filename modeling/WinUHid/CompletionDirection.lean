import WinUHid.FileRuns

namespace WinUHid

/-- Where a byte of a report buffer comes from: a byte of the input buffer, a zero, or neither. -/
inductive ReportByte where
  | unwritten
  | input (offset : Nat)
  | zero
  deriving DecidableEq

def Effect.writeReport (object : ObjectId) (contents : Nat → ReportByte) : Effect → Nat → ReportByte
  | .copyReport op source length => fun i =>
    if op.object = object ∧ i < length then .input (source + i) else contents i
  | .zeroReport op offset length => fun i =>
    if op.object = object ∧ offset ≤ i ∧ i < offset + length then .zero else contents i
  | _ => contents

def reportContents (object : ObjectId) (effects : List Effect) : Nat → ReportByte :=
  effects.foldl (Effect.writeReport object) fun _ => .unwritten

def Effect.reportWritten : Effect → Option Operation
  | .copyReport op _ _ => some op
  | .zeroReport op _ _ => some op
  | _ => none

theorem writeReport_of_none {object : ObjectId} {contents : Nat → ReportByte} {e : Effect}
    (h : e.reportWritten = none) : e.writeReport object contents = contents := by
  cases e <;> first | rfl | cases h

theorem reportContents_append {object : ObjectId} {es fs : List Effect}
    (h : ∀ e ∈ fs, e.reportWritten = none) :
    reportContents object (es ++ fs) = reportContents object es := by
  rw [reportContents, List.foldl_append, ← reportContents]
  induction fs with
  | nil => rfl
  | cons e fs ih =>
    rw [List.foldl_cons, writeReport_of_none (h e List.mem_cons_self)]
    exact ih fun e he => h e (List.mem_cons_of_mem _ he)

/-- All of the operation's report has been filled, by bytes of the client's data and then zeros. -/
def Filled (op : Operation) (input : InputBuffer) (effects : List Effect) : Prop :=
  ∃ n, ∀ i < op.hidTransferPacket.reportBufferLen.toNat,
    if i < n then
      reportContents op.object effects i = .input (readDataOffset + i) ∧
        readDataOffset + i < input.length
    else reportContents op.object effects i = .zero

theorem reportContents_fillReport (op : Operation) (n : UInt32) (i : Nat) :
    reportContents op.object (fillReport op n) i =
      if i < min n.toNat op.hidTransferPacket.reportBufferLen.toNat then .input (readDataOffset + i)
      else if i < op.hidTransferPacket.reportBufferLen.toNat then .zero
      else .unwritten := by
  unfold fillReport
  split
  next h =>
    have hlt : n.toNat < op.hidTransferPacket.reportBufferLen.toNat := h
    have hlen : (op.hidTransferPacket.reportBufferLen - n).toNat =
        op.hidTransferPacket.reportBufferLen.toNat - n.toNat :=
      UInt32.toNat_sub_of_le _ _ (Nat.le_of_lt hlt)
    simp only [reportContents, List.singleton_append, List.foldl_cons, List.foldl_nil,
      Effect.writeReport, hlen, true_and]
    by_cases h1 : i < n.toNat
    · rw [if_neg (by omega), if_pos (by omega), if_pos (by omega)]
    · by_cases h2 : i < op.hidTransferPacket.reportBufferLen.toNat
      · rw [if_pos (by omega), if_neg (by omega), if_pos h2]
      · rw [if_neg (by omega), if_neg (by omega), if_neg (by omega), if_neg h2]
  next h =>
    have hge : ¬n.toNat < op.hidTransferPacket.reportBufferLen.toNat := h
    simp only [reportContents, List.append_nil, List.foldl_cons, List.foldl_nil,
      Effect.writeReport, true_and]
    split
    next => rfl
    next h1 => rw [if_neg (by omega)]

theorem filled_fillReport_iff (op : Operation) (n : UInt32) {input : InputBuffer}
    (hl : readDataOffset ≤ input.length) :
    Filled op input (fillReport op n) ↔
      readDataOffset + min n.toNat op.hidTransferPacket.reportBufferLen.toNat ≤ input.length := by
  constructor
  · rintro ⟨k, hk⟩
    by_cases hz : min n.toNat op.hidTransferPacket.reportBufferLen.toNat = 0
    · rw [hz]
      exact hl
    · have hi := hk (min n.toNat op.hidTransferPacket.reportBufferLen.toNat - 1) (by omega)
      rw [reportContents_fillReport, if_pos (Nat.sub_one_lt hz)] at hi
      by_cases hlt : min n.toNat op.hidTransferPacket.reportBufferLen.toNat - 1 < k
      · rw [if_pos hlt] at hi
        omega
      · rw [if_neg hlt] at hi
        cases hi
  · intro hle
    refine ⟨min n.toNat op.hidTransferPacket.reportBufferLen.toNat, fun i hi => ?_⟩
    rw [reportContents_fillReport]
    split
    next h => exact ⟨rfl, by omega⟩
    next h => rfl

/-- What a completion IOCTL may do: act on an operation of its own direction only, never complete
the NULL handle, never write the report of a write operation, and complete a read operation with
success only when its report has been filled. -/
structure ActsOnDirection (direction : EventType → Bool) (input : InputBuffer)
    (run : CompletionRun) : Prop where
  taken : ∀ op ∈ run.taken, direction op.type
  handle : ∀ status, .asyncOperationComplete none status ∉ run.effects
  written : ∀ e ∈ run.effects, ∀ op ∈ e.reportWritten, op.type.isRead
  filled : ∀ op ∈ run.taken, op.type.isRead → ∀ before status after,
    run.effects = before ++ .asyncOperationComplete op.handle status :: after →
      ntSuccess status → Filled op input before

theorem Operation.handle_isSome_of_isWrite {op : Operation} (h : op.type.isWrite) :
    ∃ handle, op.handle = some handle := by
  cases hh : op.handle with
  | some handle => exact ⟨handle, rfl⟩
  | none =>
    have ht := op.pseudo_type (op.pseudo_iff.mpr hh)
    rw [ht] at h
    cases h

theorem actsOnDirection_of_none {direction : EventType → Bool} {input : InputBuffer}
    {ctx : FileContext} {effects : List Effect}
    (hh : ∀ status, .asyncOperationComplete none status ∉ effects)
    (hw : ∀ e ∈ effects, e.reportWritten = none) :
    ActsOnDirection direction input ⟨effects, ctx, none, false⟩ where
  taken := by simp
  handle := hh
  written := by
    intro e he op hop
    rw [hw e he] at hop
    cases hop
  filled := by simp

theorem completeWriteEvent_actsOnDirection (fw : Framework) (ctx : FileContext)
    (request : IoRequest) (input : InputBuffer) :
    ActsOnDirection EventType.isWrite input (completeWriteEvent fw ctx request input) ↔
      (ctx.vhfHandle → sizeofWriteEventComplete ≤ input.length →
        ∀ op ∈ ctx.outstandingOperation input.writeEventComplete.requestId, op.type.isWrite) := by
  rcases completeWriteEvent_cases fw ctx request input with
    ⟨status, hno, hr⟩ | ⟨op, before, after, hv, hl, _, _, hf, hr⟩
  · rw [hr]
    refine iff_of_true (actsOnDirection_of_none (by simp [requestFailed])
      (by simp [requestFailed, Effect.reportWritten])) fun hv hl op hop => ?_
    rw [hno hv hl] at hop
    cases hop
  · rw [hr]
    constructor
    · intro h _ _ op' hop'
      cases Option.some.inj (hf.symm.trans hop')
      exact h.taken op rfl
    · intro h
      have hw := h hv hl op hf
      obtain ⟨handle, hh⟩ := Operation.handle_isSome_of_isWrite hw
      refine ⟨?_, ?_, ?_, ?_⟩
      · intro op' hop'
        cases hop'
        exact hw
      · simp [completeOperation, hh]
      · simp [completeOperation, Effect.reportWritten]
      · intro op' hop' hread
        cases hop'
        rw [EventType.isWrite_eq_not_isRead, hread] at hw
        cases hw

theorem eq_of_split_unique {α : Type*} {p : α → Prop} {l r l' r' : List α} {x y : α}
    (h : l ++ x :: r = l' ++ y :: r') (hy : p y) (hl : ∀ a ∈ l, ¬p a) (hr : ∀ a ∈ r, ¬p a) :
    l' = l := by
  rcases List.append_eq_append_iff.mp h with ⟨as, hl', hx⟩ | ⟨bs, hl', hx⟩
  · cases as with
    | nil => simpa using hl'
    | cons a as =>
      have hmem : y ∈ r := by simp [(List.cons.inj hx).2]
      exact absurd hy (hr y hmem)
  · cases bs with
    | nil => simpa using hl'.symm
    | cons b bs =>
      have hmem : y ∈ l := by simp [hl', (List.cons.inj hx).1]
      exact absurd hy (hl y hmem)

def Effect.isCompletion : Effect → Bool
  | .asyncOperationComplete _ _ => true
  | _ => false

theorem fillReport_isCompletion (op : Operation) (n : UInt32) :
    ∀ e ∈ fillReport op n, e.isCompletion = false := by
  unfold fillReport
  split <;> simp [Effect.isCompletion]

/-- A real operation is completed by its handle, with the client's status, and no other is. -/
theorem mem_effects_of_real {fw : Framework} {numberedReports : Bool} {request : IoRequest}
    {input : InputBuffer} {c : ReadEventComplete} {op : Operation} (hid : c.requestId ≠ 0)
    {handle : Option OperationHandle} {status : NTSTATUS} :
    .asyncOperationComplete handle status ∈
        (readCompletion numberedReports input c).effects fw numberedReports request op ↔
      handle = op.handle ∧ status = c.status := by
  cases hs : ntSuccess c.status with
  | false =>
    rw [readCompletion_of_failed hid hs]
    simp [ReadCompletion.effects, completeOperation]
  | true =>
    rw [readCompletion_of_success hid hs]
    have hfills : .asyncOperationComplete handle status ∉ fillReport op c.dataLength := by
      intro hmem
      cases fillReport_isCompletion op c.dataLength _ hmem
    simp [ReadCompletion.effects, completeOperation, hfills]

theorem readCompletion_of_pseudo (fw : Framework) (numberedReports : Bool) (request : IoRequest)
    (input : InputBuffer) (op : Operation) {c : ReadEventComplete} (hid : c.requestId = 0) :
    ∀ e ∈ (readCompletion numberedReports input c).effects fw numberedReports request op,
      e.isCompletion = false ∧ e.reportWritten = none := by
  unfold readCompletion
  rw [if_pos hid]
  split
  · cases numberedReports <;>
      simp [ReadCompletion.effects, submitReads, finishPseudoOperation, Effect.isCompletion,
        Effect.reportWritten]
  · split <;>
      simp [ReadCompletion.effects, finishPseudoOperation, Effect.isCompletion,
        Effect.reportWritten]

theorem actsOnDirection_of_real {fw : Framework} {numberedReports : Bool} {request : IoRequest}
    {input : InputBuffer} {c : ReadEventComplete} {op : Operation} {ctx : FileContext}
    {again : Bool} (hl : readDataOffset ≤ input.length) (hid : c.requestId ≠ 0)
    (hop : op.requestId = c.requestId) (hread : op.type.isRead)
    (hfill : ntSuccess c.status → readDataOffset +
      min c.dataLength.toNat op.hidTransferPacket.reportBufferLen.toNat ≤ input.length) :
    ActsOnDirection EventType.isRead input
      ⟨.inputRead 0 readDataOffset ::
        (readCompletion numberedReports input c).effects fw numberedReports request op,
        ctx, some op, again⟩ := by
  have hhandle : op.handle ≠ none := fun hn => hid (hop.symm.trans (op.pseudo_iff.mpr hn))
  have htaken : ∀ o ∈ some op, o.type.isRead := by
    intro o ho
    cases ho
    exact hread
  have hnull : ∀ status, .asyncOperationComplete none status ∉ Effect.inputRead 0 readDataOffset ::
      (readCompletion numberedReports input c).effects fw numberedReports request op := by
    intro status hmem
    rcases List.mem_cons.mp hmem with hmem | hmem
    · cases hmem
    · exact hhandle (mem_effects_of_real hid |>.mp hmem).1.symm
  cases hs : ntSuccess c.status with
  | false =>
    refine ⟨htaken, hnull, ?_, ?_⟩
    · rw [readCompletion_of_failed hid hs]
      simp [ReadCompletion.effects, completeOperation, Effect.reportWritten]
    · intro o ho _ before status after hsplit hst
      have hmem : Effect.asyncOperationComplete o.handle status ∈
          before ++ .asyncOperationComplete o.handle status :: after := by simp
      rw [← hsplit] at hmem
      rcases List.mem_cons.mp hmem with hmem | hmem
      · cases hmem
      · rw [(mem_effects_of_real hid |>.mp hmem).2, hs] at hst
        cases hst
  | true =>
    have hfills := fillReport_isCompletion op c.dataLength
    have hwrites : ∀ e ∈ fillReport op c.dataLength, ∀ o ∈ e.reportWritten, o.type.isRead := by
      unfold fillReport
      split <;> simp [Effect.reportWritten, hread]
    refine ⟨htaken, hnull, ?_, ?_⟩ <;> rw [readCompletion_of_success hid hs]
    · intro e he o ho
      simp only [ReadCompletion.effects, completeOperation, List.mem_cons, List.mem_append,
        List.not_mem_nil, or_false] at he
      rcases he with rfl | he | rfl | rfl | rfl
      · cases ho
      · exact hwrites e he o ho
      all_goals cases ho
    · intro o ho _ before status after hsplit hst
      cases ho
      have hunique : (.inputRead 0 readDataOffset :: fillReport op c.dataLength) ++
          .asyncOperationComplete op.handle c.status :: [.objectDelete op.object,
            .requestComplete request fw.asyncOperationComplete 0 none] =
          before ++ .asyncOperationComplete op.handle status :: after := hsplit
      have hbefore : before = .inputRead 0 readDataOffset :: fillReport op c.dataLength := by
        refine eq_of_split_unique (p := fun e => e.isCompletion = true) hunique rfl ?_ ?_
        · intro e he
          rcases List.mem_cons.mp he with rfl | he
          · simp [Effect.isCompletion]
          · simp [hfills e he]
        · simp [Effect.isCompletion]
      rw [hbefore]
      exact (filled_fillReport_iff op c.dataLength hl).mpr (hfill hs)

theorem completeReadEvent_actsOnDirection (fw : Framework) (ctx : FileContext)
    (request : IoRequest) (input : InputBuffer) :
    ActsOnDirection EventType.isRead input (completeReadEvent fw ctx request input) ↔
      (ctx.vhfHandle → sizeofReadEventComplete ≤ input.length →
        (readEventCompleteLength input.readEventComplete.dataLength).toNat ≤ input.length →
        ∀ op ∈ ctx.outstandingOperation input.readEventComplete.requestId, op.type.isRead ∧
          (op.requestId ≠ 0 → ntSuccess input.readEventComplete.status →
            readDataOffset + min input.readEventComplete.dataLength.toNat
              op.hidTransferPacket.reportBufferLen.toNat ≤ input.length)) := by
  rcases completeReadEvent_cases fw ctx request input with
    ⟨status, hno, hr⟩ | ⟨op, before, after, hv, hl, hd, _, hid, hf, hr⟩
  · rw [hr]
    refine iff_of_true (actsOnDirection_of_none ?_ ?_) fun hv hl hd op hop => ?_
    · unfold headerReads
      split <;> simp [requestFailed]
    · unfold headerReads
      split <;> simp [requestFailed, Effect.reportWritten]
    · rw [hno hv hl hd] at hop
      cases hop
  · have h12 : readDataOffset ≤ input.length := by
      simp only [sizeofReadEventComplete] at hl
      omega
    generalize hc : input.readEventComplete = c at *
    rw [hr]
    constructor
    · intro h _ _ _ op' hop'
      cases Option.some.inj (hf.symm.trans hop')
      have hread := h.taken op rfl
      refine ⟨hread, fun hreal hs => ?_⟩
      have hsplit := h.filled op rfl hread (.inputRead 0 readDataOffset :: fillReport op c.dataLength)
        c.status [.objectDelete op.object,
          .requestComplete request fw.asyncOperationComplete 0 none]
      rw [readCompletion_of_success (hid ▸ hreal) hs] at hsplit
      exact (filled_fillReport_iff op c.dataLength h12).mp (hsplit rfl hs)
    · intro h
      obtain ⟨hread, hfill⟩ := h hv hl hd op hf
      by_cases hz : c.requestId = 0
      · have hpseudo := readCompletion_of_pseudo fw ctx.reports.numberedReports request input op hz
        have hnone : ∀ e ∈ Effect.inputRead 0 readDataOffset ::
            (readCompletion ctx.reports.numberedReports input c).effects fw
              ctx.reports.numberedReports request op,
            e.isCompletion = false ∧ e.reportWritten = none := by
          intro e he
          rcases List.mem_cons.mp he with rfl | he
          · exact ⟨rfl, rfl⟩
          · exact hpseudo e he
        refine ⟨?_, ?_, ?_, ?_⟩
        · intro o ho
          cases ho
          exact hread
        · intro status hmem
          cases (hnone _ hmem).1
        · intro e he o ho
          rw [(hnone e he).2] at ho
          cases ho
        · intro o _ _ front status back hsplit
          have hmem : Effect.asyncOperationComplete o.handle status ∈
              front ++ .asyncOperationComplete o.handle status :: back := by simp
          rw [← hsplit] at hmem
          cases (hnone _ hmem).1
      · exact actsOnDirection_of_real h12 hz hid hread (hfill (hid ▸ hz))

/-- Both completion IOCTLs in every state, with any input and any outcome of the calls: they keep
to their direction exactly when the operation that the id names has it; for a read operation
completed with success, the data it uses must also lie in the input buffer. -/
theorem completionEvents_actOnDirection (fw : Framework) (ctx : FileContext) (request : IoRequest)
    (input : InputBuffer) :
    (ActsOnDirection EventType.isWrite input (completeWriteEvent fw ctx request input) ↔
      (ctx.vhfHandle → sizeofWriteEventComplete ≤ input.length →
        ∀ op ∈ ctx.outstandingOperation input.writeEventComplete.requestId, op.type.isWrite)) ∧
    (ActsOnDirection EventType.isRead input (completeReadEvent fw ctx request input) ↔
      (ctx.vhfHandle → sizeofReadEventComplete ≤ input.length →
        (readEventCompleteLength input.readEventComplete.dataLength).toNat ≤ input.length →
        ∀ op ∈ ctx.outstandingOperation input.readEventComplete.requestId, op.type.isRead ∧
          (op.requestId ≠ 0 → ntSuccess input.readEventComplete.status →
            readDataOffset + min input.readEventComplete.dataLength.toNat
              op.hidTransferPacket.reportBufferLen.toNat ≤ input.length))) :=
  ⟨completeWriteEvent_actsOnDirection fw ctx request input,
    completeReadEvent_actsOnDirection fw ctx request input⟩

def handPseudoOperation : List Action :=
  [.readyForNextReadReport, .run 0 {}, .run 0 {}, .run 0 {}, .getNextEvent 14, .run 0 {},
    .run 0 {}, .run 0 {}]

def pseudoWriteCompletion : InputBuffer where
  bytes := ulongBytes 0 ++ ulongBytes statusSuccess
  beyond := fun _ => 0

theorem pseudoWriteCompletion_completesNull :
    ∃ reports p, FileReach Runs.anyStep reports p ∧
      ¬ActsOnDirection EventType.isWrite pseudoWriteCompletion
        (completeWriteEvent {} p.shared.ctx 1 pseudoWriteCompletion) := by
  obtain ⟨p, hr, hv, hop⟩ := exists_fileReach ⟨fun _ => ⟨8, 0, 0⟩, false⟩ handPseudoOperation
    (P := fun p => p.shared.ctx.vhfHandle = true ∧
      (p.shared.ctx.outstandingOperation 0).map Operation.type = some .readReport) rfl
  refine ⟨_, p, hr, fun h => ?_⟩
  obtain ⟨op, ho, ht⟩ := Option.map_eq_some_iff.mp hop
  have hw := (completeWriteEvent_actsOnDirection {} p.shared.ctx 1 pseudoWriteCompletion).mp h hv
    (by decide) op ho
  rw [ht] at hw
  cases hw

end WinUHid
