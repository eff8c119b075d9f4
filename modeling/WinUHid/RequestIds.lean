import WinUHid.FileInvariants

namespace WinUHid

section

variable {reports : ParsedReports} {s : FileState}

/-- An operation of unknown size uses up a request id and is gone again. -/
theorem unknownReport_reaches (h : FileReach Runs.anyStep reports ⟨s, []⟩) {type : EventType}
    {packet : HidXferPacket} (hsize : reports.sizeFor type packet.reportId = 0) :
    ∃ s', FileReach Runs.anyStep reports ⟨s', []⟩ ∧ s'.getNextEventQueue = s.getNextEventQueue ∧
      s'.ctx = { s.ctx with nextRequestId := s.ctx.nextRequestId + 1 } := by
  have hr : s.ctx.reports = reports := reports_constant h
  rw [← hr, ParsedReports.sizeFor] at hsize
  have hexec : Runs.exec fileStep ⟨s, []⟩
      [.asyncOperation type packet, .run 0 {}, .run 0 {}, .run 0 {}] = some ?_ := by
    simp [Runs.exec, fileStep, Pool.spawn, Pool.run, Thread.step,
      FileState.dispatchAsyncOperation, FileContext.createOperation, hsize, DispatchCall.handle,
      completeIfHandle, remaining, ntSuccess, statusSuccess]
    rfl
  exact ⟨_, Runs.Reach.exec h hexec, rfl, rfl⟩

theorem unknownReports_reach (h : FileReach Runs.anyStep reports ⟨s, []⟩) {type : EventType}
    {packet : HidXferPacket} (hsize : reports.sizeFor type packet.reportId = 0) (k : Nat) :
    ∃ s', FileReach Runs.anyStep reports ⟨s', []⟩ ∧ s'.getNextEventQueue = s.getNextEventQueue ∧
      s'.ctx = { s.ctx with nextRequestId := s.ctx.nextRequestId + UInt32.ofNat k } := by
  induction k with
  | zero => exact ⟨s, h, rfl, by simp⟩
  | succ k ih =>
    obtain ⟨mid, hmid, hqueue, hctx⟩ := ih
    obtain ⟨s', hs', hqueue', hctx'⟩ := unknownReport_reaches hmid hsize
    refine ⟨s', hs', hqueue'.trans hqueue, ?_⟩
    rw [hctx', hctx]
    simp only [UInt32.ofNat_add, UInt32.add_assoc]
    rfl

theorem tryCompleteGetNextEvent_of_fits {ctx : FileContext} {op : Operation}
    {waiting : List Operation} (hw : ctx.waitingRequests = op :: waiting) {outputLength : Nat}
    (hf : Fits op outputLength) : ∃ count output,
      tryCompleteGetNextEvent {} ctx outputLength = (.completed op statusSuccess count output,
        { ctx with
          waitingRequests := waiting
          outstandingRequests := ctx.outstandingRequests ++ [op] }) := by
  rcases tryCompleteGetNextEvent_cases {} ctx outputLength with
    ⟨hnil, _⟩ | ⟨op', waiting', _, hw', _, hno, _⟩ | ⟨op', waiting', hw', _, _, _, he⟩
  · rw [hw] at hnil
    cases hnil
  · obtain ⟨rfl, _⟩ := List.cons.inj (hw.symm.trans hw')
    exact absurd ⟨rfl, hf, rfl⟩ hno
  · obtain ⟨rfl, rfl⟩ := List.cons.inj (hw.symm.trans hw')
    exact ⟨_, _, he⟩

/-- With no request parked, an operation of known size is added under the next request id. -/
theorem added_reaches (h : FileReach Runs.anyStep reports ⟨s, []⟩) (hv : s.ctx.vhfHandle)
    (hq : s.getNextEventQueue = []) {type : EventType} {packet : HidXferPacket}
    (hsize : reports.sizeFor type packet.reportId ≠ 0) :
    ∃ s' op, FileReach Runs.anyStep reports ⟨s', []⟩ ∧ s'.getNextEventQueue = [] ∧
      op.type = type ∧ op.requestId = realRequestId (s.ctx.nextRequestId + 1) ∧
      s'.ctx = { s.ctx with
        nextRequestId := s.ctx.nextRequestId + 1
        waitingRequests := s.ctx.waitingRequests ++ [op] } := by
  have hr : s.ctx.reports = reports := reports_constant h
  rw [← hr] at hsize
  let op := Operation.request s.nextObject type (s.ctx.nextRequestId + 1) s.nextHandle
    (packet.clamp (s.ctx.reports.sizeFor type packet.reportId))
  have hcreate : s.ctx.createOperation s.nextObject (.async type s.nextHandle packet) =
      ({ s.ctx with nextRequestId := s.ctx.nextRequestId + 1 }, some op) := by
    rw [ParsedReports.sizeFor] at hsize
    simp [FileContext.createOperation, hsize, op, ParsedReports.sizeFor]
  have hexec : Runs.exec fileStep ⟨s, []⟩
      [.asyncOperation type packet, .run 0 {}, .run 0 {}, .run 0 {}] = some ?_ := by
    simp [Runs.exec, fileStep, Pool.spawn, Pool.run, Thread.step,
      FileState.dispatchAsyncOperation, hcreate, FileState.enqueue, FileContext.queueOperation,
      FileState.retrieve, remaining, ntSuccess, statusSuccess, hv, hq]
    rfl
  exact ⟨_, op, Runs.Reach.exec h hexec, rfl, rfl, rfl, by simp [hv]⟩

theorem handed_reaches (h : FileReach Runs.anyStep reports ⟨s, []⟩) (hv : s.ctx.vhfHandle)
    {op : Operation} {waiting : List Operation} (hw : s.ctx.waitingRequests = op :: waiting) :
    ∃ s', FileReach Runs.anyStep reports ⟨s', []⟩ ∧
      s'.getNextEventQueue = s.getNextEventQueue ∧
      s'.ctx = { s.ctx with
        waitingRequests := waiting
        outstandingRequests := s.ctx.outstandingRequests ++ [op] } := by
  have hf : Fits op (sizeofEvent + (eventData op).length) := by
    simp only [Fits, sizeofEvent]
    omega
  obtain ⟨count, output, htry⟩ := tryCompleteGetNextEvent_of_fits hw hf
  have hexec : Runs.exec fileStep ⟨s, []⟩
      [.getNextEvent (sizeofEvent + (eventData op).length), .run 0 {}, .run 0 {}, .run 0 {}] =
        some ?_ := by
    simp [Runs.exec, fileStep, FilePool.request, Pool.spawn, Pool.run, Thread.step,
      FileState.getNextEvent, FileState.serve, htry, remaining, hv]
    rfl
  exact ⟨_, Runs.Reach.exec h hexec, rfl, by simp [hv]⟩

end

/-- Request ids have 31 bits of a counter: two operations whose dispatches are 2^31 apart carry the
same one, and both may be outstanding. -/
theorem requestIds_repeat {reports : ParsedReports} {first second between : EventType}
    {packet unknown : HidXferPacket} (hfirst : reports.sizeFor first packet.reportId ≠ 0)
    (hsecond : reports.sizeFor second packet.reportId ≠ 0)
    (hbetween : reports.sizeFor between unknown.reportId = 0) :
    ∃ p op op', FileReach Runs.anyStep reports p ∧
      p.shared.ctx.outstandingRequests = [op, op'] ∧ op.type = first ∧ op'.type = second ∧
      op.requestId = op'.requestId := by
  have hstart : FileReach Runs.anyStep reports ⟨.created reports, []⟩ := .start rfl
  obtain ⟨s1, op, h1, hq1, ht, hid, hc1⟩ := added_reaches hstart rfl rfl hfirst
  obtain ⟨s2, h2, hq2, hc2⟩ := handed_reaches h1 (by rw [hc1]; rfl) (by rw [hc1]; rfl)
  obtain ⟨s3, h3, hq3, hc3⟩ := unknownReports_reach h2 hbetween 0x7FFFFFFF
  obtain ⟨s4, op', h4, _, ht', hid', hc4⟩ := added_reaches h3 (by rw [hc3, hc2, hc1]; rfl)
    (hq3.trans (hq2.trans hq1)) hsecond
  obtain ⟨s5, h5, _, hc5⟩ := handed_reaches h4 (by rw [hc4, hc3, hc2, hc1]; rfl)
    (by rw [hc4, hc3, hc2]; rfl)
  refine ⟨⟨s5, []⟩, op, op', h5, ?_, ht, ht', ?_⟩
  · simp only
    rw [hc5, hc4, hc3, hc2, hc1]
    rfl
  · have hsame : realRequestId (0 + 1) =
        realRequestId (0 + 1 + UInt32.ofNat 0x7FFFFFFF + 1) := by decide
    rw [hid, hid', hc3, hc2, hc1]
    exact hsame

end WinUHid
