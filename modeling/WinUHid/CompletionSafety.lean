import WinUHid.CompletionEvents

namespace WinUHid

def Effect.ReadsBelow (bound : Nat) : Effect → Prop
  | .inputRead offset length => ∀ i < length, offset + i < bound
  | .copyReport _ source length => ∀ i < length, source + i < bound
  | _ => True

/-- A handler reads nothing behind the first `bound` bytes of the input buffer. -/
def ReadsWithin (bound : Nat) (effects : List Effect) : Prop :=
  ∀ e ∈ effects, e.ReadsBelow bound

theorem readsWithin_append {bound : Nat} {es fs : List Effect} :
    ReadsWithin bound (es ++ fs) ↔ ReadsWithin bound es ∧ ReadsWithin bound fs :=
  List.forall_mem_append

theorem range_below_iff {offset length bound : Nat} (h : offset ≤ bound) :
    (∀ i < length, offset + i < bound) ↔ offset + length ≤ bound := by
  constructor
  · intro hi
    cases length with
    | zero => simpa using h
    | succ n => exact hi n (Nat.lt_succ_self n)
  · intro hle i hi
    omega

theorem readsWithin_requestFailed (bound : Nat) (request : IoRequest) (status : NTSTATUS) :
    ReadsWithin bound (requestFailed request status) := by
  simp [ReadsWithin, requestFailed, Effect.ReadsBelow]

theorem readsWithin_headerReads (ctx : FileContext) (input : InputBuffer) :
    ReadsWithin input.length (headerReads ctx input) := by
  unfold headerReads
  split
  next h =>
    have hl : sizeofReadEventComplete ≤ input.length := by simp_all
    intro e he
    cases List.mem_singleton.mp he
    intro i hi
    simp only [sizeofReadEventComplete] at hl
    omega
  next => simp [ReadsWithin]

/-- How many bytes of `Data` a completion uses: all of them for a pseudo-operation, at most the
length of the report for a real one. -/
def ReadEventComplete.usedLength (c : ReadEventComplete) (op : Operation) : Nat :=
  if c.requestId = 0 then c.dataLength.toNat
  else min c.dataLength.toNat op.hidTransferPacket.reportBufferLen.toNat

theorem readsWithin_readCompletion (fw : Framework) (numberedReports : Bool) (request : IoRequest)
    (op : Operation) {input : InputBuffer} (h : readDataOffset ≤ input.length) :
    ReadsWithin input.length
        ((readCompletion numberedReports input input.readEventComplete).effects fw numberedReports
          request op) ↔
      (ntSuccess input.readEventComplete.status →
        readDataOffset + input.readEventComplete.usedLength op ≤ input.length) := by
  generalize hc : input.readEventComplete = c
  unfold readCompletion
  split
  next hid =>
    split
    next hs =>
      obtain ⟨hst, hn⟩ : ntSuccess c.status = true ∧ c.dataLength ≠ 0 := by simpa using hs
      have hpos : 0 < c.dataLength.toNat := Nat.pos_of_ne_zero fun hz => hn (UInt32.toNat_inj.mp hz)
      rw [ReadEventComplete.usedLength, if_pos hid]
      constructor
      · intro hall _
        refine (range_below_iff h).mp ?_
        exact hall (.inputRead readDataOffset c.dataLength.toNat)
          (by simp [ReadCompletion.effects, submitReads, InputBuffer.readReport])
      · intro hle e he
        have hrange := hle hst
        simp only [ReadCompletion.effects, submitReads, InputBuffer.readReport,
          finishPseudoOperation, List.mem_append, List.mem_cons, List.not_mem_nil, or_false] at he
        rcases he with ((he | rfl) | rfl) | rfl | rfl
        · split at he
          · cases List.mem_singleton.mp he
            exact (range_below_iff h).mpr (by omega)
          · cases he
        · exact (range_below_iff h).mpr hrange
        all_goals trivial
    next hs =>
      have hused : ntSuccess c.status → readDataOffset + c.usedLength op ≤ input.length := by
        intro hst
        have hz : c.dataLength = 0 := by simpa [hst] using hs
        simpa [ReadEventComplete.usedLength, hz] using h
      refine iff_of_true ?_ hused
      split <;> simp [ReadsWithin, ReadCompletion.effects, finishPseudoOperation, Effect.ReadsBelow]
  next hid =>
    split
    next hs =>
      refine iff_of_true ?_ fun hst => by simp [hst] at hs
      simp [ReadsWithin, ReadCompletion.effects, completeOperation, Effect.ReadsBelow]
    next hs =>
      have hst : ntSuccess c.status = true := by simpa using hs
      rw [ReadCompletion.effects, fillReport, ReadEventComplete.usedLength, if_neg hid,
        readsWithin_append, readsWithin_append]
      constructor
      · intro hall _
        exact (range_below_iff h).mp (hall.1.1 _ (List.mem_singleton.mpr rfl))
      · intro hle
        refine ⟨⟨?_, ?_⟩, by simp [ReadsWithin, completeOperation, Effect.ReadsBelow]⟩
        · intro e he
          cases List.mem_singleton.mp he
          exact (range_below_iff h).mpr (hle hst)
        · split <;> simp [ReadsWithin, Effect.ReadsBelow]

/-- The reads of the COMPLETE_READ_EVENT handler, for every buffer, context and outcome of the
calls: they stay inside the buffer unless `DataLength` is one of the last twelve values, which
wrap the size check, and the operation found then uses more data than there is. -/
theorem completeReadEvent_readsWithin (fw : Framework) (ctx : FileContext) (request : IoRequest)
    (input : InputBuffer) :
    ReadsWithin input.length (completeReadEvent fw ctx request input).effects ↔
      input.readEventComplete.dataLength.toNat < 2 ^ 32 - readDataOffset ∨
      (ctx.vhfHandle → sizeofReadEventComplete ≤ input.length →
        ∀ op, ctx.outstandingOperation input.readEventComplete.requestId = some op →
          ntSuccess input.readEventComplete.status →
          readDataOffset + input.readEventComplete.usedLength op ≤ input.length) := by
  rcases completeReadEvent_cases fw ctx request input with
    ⟨status, hno, hr⟩ | ⟨op, before, after, hv, hl, hd, _, _, hf, hr⟩
  · rw [hr]
    refine iff_of_true (readsWithin_append.mpr ⟨readsWithin_headerReads ctx input,
      readsWithin_requestFailed _ request status⟩) ?_
    by_cases hn : input.readEventComplete.dataLength.toNat < 2 ^ 32 - readDataOffset
    · exact .inl hn
    · refine .inr fun hv hl op hop => ?_
      have hd := readEventCompleteLength_of_ge (Nat.not_lt.mp hn)
      have hnone := hno hv hl (by simp only [sizeofReadEventComplete] at hl; omega)
      simp [hnone] at hop
  · have h12 : readDataOffset ≤ input.length := by
      simp only [sizeofReadEventComplete] at hl
      omega
    have header : Effect.ReadsBelow input.length (.inputRead 0 readDataOffset) := by
      intro i hi
      omega
    rw [hr]
    simp only
    rw [ReadsWithin, List.forall_mem_cons, and_iff_right header]
    rw [← ReadsWithin, readsWithin_readCompletion fw _ request op h12]
    constructor
    · intro hle
      refine .inr fun _ _ op' hop' => ?_
      cases Option.some.inj (hf.symm.trans hop')
      exact hle
    · rintro (hn | hall) hst
      · rw [readEventCompleteLength_of_lt hn] at hd
        have hused : input.readEventComplete.usedLength op ≤
            input.readEventComplete.dataLength.toNat := by
          unfold ReadEventComplete.usedLength
          split <;> omega
        omega
      · exact hall hv hl op hf hst

/-- A thirteen-byte completion of the pseudo-operation with `DataLength` 0xFFFFFFFF. -/
def wrappedCompletion : InputBuffer where
  bytes := ulongBytes 0 ++ ulongBytes statusSuccess ++ ulongBytes 0xFFFFFFFF ++ [0]
  beyond := fun _ => 0

def outstandingPseudo : FileContext where
  reports := ⟨fun _ => ⟨0, 0, 0⟩, false⟩
  nextRequestId := 0
  vhfHandle := true
  waitingRequests := []
  outstandingRequests := [.readyForRead 0]

theorem wrappedCompletion_overreads :
    ¬ReadsWithin wrappedCompletion.length
      (completeReadEvent {} outstandingPseudo 0 wrappedCompletion).effects := by
  intro h
  have hget : (completeReadEvent {} outstandingPseudo 0 wrappedCompletion).effects[1]? =
      some (.inputRead readDataOffset 0xFFFFFFFF) := by rfl
  exact absurd (h _ (List.mem_of_getElem? hget) 13 (by decide)) (by decide)

end WinUHid
