import WinUHid.FileRuns

namespace WinUHid

@[simp] theorem FileState.emit_ctx (s : FileState) (es : List Effect) :
    (s.emit es).ctx = s.ctx := rfl

@[simp] theorem FileState.emit_getNextEventQueue (s : FileState) (es : List Effect) :
    (s.emit es).getNextEventQueue = s.getNextEventQueue := rfl

@[simp] theorem FileState.emit_nextHandle (s : FileState) (es : List Effect) :
    (s.emit es).nextHandle = s.nextHandle := rfl

@[simp] theorem FileState.emit_nextObject (s : FileState) (es : List Effect) :
    (s.emit es).nextObject = s.nextObject := rfl

@[simp] theorem FileState.emit_nextRequest (s : FileState) (es : List Effect) :
    (s.emit es).nextRequest = s.nextRequest := rfl

@[simp] theorem FileState.emit_trace (s : FileState) (es : List Effect) :
    (s.emit es).trace = s.trace ++ es.map .effect := rfl

@[simp] theorem FileState.record_ctx (s : FileState) (event : FileEvent) :
    (s.record event).ctx = s.ctx := rfl

@[simp] theorem FileState.record_getNextEventQueue (s : FileState) (event : FileEvent) :
    (s.record event).getNextEventQueue = s.getNextEventQueue := rfl

@[simp] theorem FileState.record_nextHandle (s : FileState) (event : FileEvent) :
    (s.record event).nextHandle = s.nextHandle := rfl

@[simp] theorem FileState.record_nextObject (s : FileState) (event : FileEvent) :
    (s.record event).nextObject = s.nextObject := rfl

@[simp] theorem FileState.record_nextRequest (s : FileState) (event : FileEvent) :
    (s.record event).nextRequest = s.nextRequest := rfl

@[simp] theorem FileState.record_trace (s : FileState) (event : FileEvent) :
    (s.record event).trace = s.trace ++ [event] := rfl

/-- What a step of a thread can be: the state it leaves and the threads that replace it. -/
inductive Thread.Steps (fw : Framework) (s : FileState) : Thread → FileState → List Thread → Prop
  | notCreated (call : DispatchCall) (rest : List Effect) :
      ntSuccess fw.objectCreate = false →
      Steps fw s (.dispatch call rest) s
        (remaining (completeIfHandle call.handle statusUnsuccessful ++ rest))
  | unknownReport (call : DispatchCall) (rest : List Effect) (ctx : FileContext) :
      ntSuccess fw.objectCreate → s.ctx.createOperation s.nextObject call = (ctx, none) →
      Steps fw s (.dispatch call rest) { s with ctx, nextObject := s.nextObject + 1 }
        (remaining (completeIfHandle call.handle statusUnsuccessful ++
          .objectDelete s.nextObject :: rest))
  | created (call : DispatchCall) (rest : List Effect) (ctx : FileContext) (op : Operation) :
      ntSuccess fw.objectCreate → s.ctx.createOperation s.nextObject call = (ctx, some op) →
      Steps fw s (.dispatch call rest) { s with ctx, nextObject := s.nextObject + 1 }
        [.enqueue op rest]
  | givenUp (op : Operation) (rest : List Effect) (status : NTSTATUS) :
      s.ctx.vhfHandle = false ∨ ntSuccess fw.collectionAdd = false →
      Steps fw s (.enqueue op rest) s
        (remaining (completeIfHandle op.handle status ++ .objectDelete op.object :: rest))
  | queued (op : Operation) (rest : List Effect) :
      s.ctx.vhfHandle → ntSuccess fw.collectionAdd →
      Steps fw s (.enqueue op rest)
        (FileState.record
          { s with ctx := { s.ctx with waitingRequests := s.ctx.waitingRequests ++ [op] } }
          (.queued op))
        [.retrieve rest]
  | nothingParked (rest : List Effect) :
      s.getNextEventQueue = [] ∨ fw.retrieveRequest ≠ statusSuccess →
      Steps fw s (.retrieve rest) s (remaining rest)
  | retrieved (event : GetNextEvent) (queue : List GetNextEvent) (rest : List Effect) :
      s.getNextEventQueue = event :: queue →
      Steps fw s (.retrieve rest) { s with getNextEventQueue := queue }
        [.serve event .dispatcher rest]
  | noDevice (event : GetNextEvent) :
      s.ctx.vhfHandle = false →
      Steps fw s (.getNextEvent event) s
        (remaining (requestFailed event.request statusInvalidDeviceState))
  | accepted (event : GetNextEvent) : Steps fw s (.getNextEvent event) s [.serve event .ioctl []]
  | pending (event : GetNextEvent) (caller : Caller) (rest : List Effect) :
      s.ctx.waitingRequests = [] →
      Steps fw s (.serve event caller rest) s [.park event caller rest]
  | failed (event : GetNextEvent) (caller : Caller) (rest : List Effect) (op : Operation)
      (waiting : List Operation) (status : NTSTATUS) :
      s.ctx.waitingRequests = op :: waiting → ntSuccess status = false →
      ¬(ntSuccess fw.retrieveOutputMemory ∧ Fits op event.outputLength ∧
        ntSuccess fw.collectionAdd) →
      Steps fw s (.serve event caller rest) s
        (remaining (requestFailed event.request status ++ rest))
  | handed (event : GetNextEvent) (caller : Caller) (rest : List Effect) (op : Operation)
      (waiting : List Operation) :
      s.ctx.waitingRequests = op :: waiting → Fits op event.outputLength →
      ntSuccess fw.collectionAdd →
      Steps fw s (.serve event caller rest)
        (FileState.record
          { s with ctx :=
            { s.ctx with
              waitingRequests := waiting
              outstandingRequests := s.ctx.outstandingRequests ++ [op] } }
          (.handed event.request op))
        (remaining (.requestComplete event.request fw.collectionAdd (bytesTransferred op)
          (some op) :: rest))
  | forwarded (event : GetNextEvent) (rest : List Effect) :
      Steps fw s (.park event .ioctl rest)
        { s with getNextEventQueue := s.getNextEventQueue ++ [event] } (remaining rest)
  | requeued (event : GetNextEvent) (rest : List Effect) :
      Steps fw s (.park event .dispatcher rest)
        { s with getNextEventQueue := event :: s.getNextEventQueue } (remaining rest)
  | notParked (event : GetNextEvent) (caller : Caller) (rest : List Effect) (status : NTSTATUS) :
      ntSuccess status = false →
      status = fw.forwardToIoQueue ∨ status = fw.requestRequeue →
      Steps fw s (.park event caller rest) s
        (remaining (requestFailed event.request status ++ rest))
  | writeRejected (request : IoRequest) (input : InputBuffer) (status : NTSTATUS) :
      Steps fw s (.completeWrite request input) s (remaining (requestFailed request status))
  | writeAccepted (request : IoRequest) (input : InputBuffer) :
      Steps fw s (.completeWrite request input) s [.takeWrite request input.writeEventComplete]
  | writeNotFound (request : IoRequest) (c : WriteEventComplete) :
      Steps fw s (.takeWrite request c) s (remaining (requestFailed request statusNotFound))
  | writeTaken (request : IoRequest) (c : WriteEventComplete) (op : Operation)
      (before after : List Operation) :
      s.ctx.outstandingRequests = before ++ op :: after → op.requestId = c.requestId →
      Steps fw s (.takeWrite request c)
        { s with ctx := { s.ctx with outstandingRequests := before ++ after } }
        (remaining (completeOperation fw request op c.status))
  | readRejected (request : IoRequest) (input : InputBuffer) (status : NTSTATUS) :
      Steps fw s (.completeRead request input) (s.emit (headerReads s.ctx input))
        (remaining (requestFailed request status))
  | readAccepted (request : IoRequest) (input : InputBuffer) :
      Steps fw s (.completeRead request input) (s.emit (headerReads s.ctx input))
        [.takeRead request input input.readEventComplete]
  | readNotFound (request : IoRequest) (input : InputBuffer) (c : ReadEventComplete) :
      Steps fw s (.takeRead request input c) s (remaining (requestFailed request statusNotFound))
  | readTaken (request : IoRequest) (input : InputBuffer) (c : ReadEventComplete) (op : Operation)
      (before after : List Operation) (completion : ReadCompletion) :
      s.ctx.outstandingRequests = before ++ op :: after → op.requestId = c.requestId →
      completion = readCompletion s.ctx.reports.numberedReports input c →
      completion ≠ .readyForNextReadReport →
      Steps fw s (.takeRead request input c)
        { s with ctx := { s.ctx with outstandingRequests := before ++ after } }
        (remaining (completion.effects fw s.ctx.reports.numberedReports request op))
  | readFailed (request : IoRequest) (input : InputBuffer) (c : ReadEventComplete) (op : Operation)
      (before after : List Operation) :
      s.ctx.outstandingRequests = before ++ op :: after → op.requestId = c.requestId →
      readCompletion s.ctx.reports.numberedReports input c = .readyForNextReadReport →
      Steps fw s (.takeRead request input c)
        { s with ctx := { s.ctx with outstandingRequests := before ++ after } }
        [.dispatch .readyForRead (finishPseudoOperation request op.object statusSuccess)]
  | written (request : IoRequest) (input : InputBuffer) :
      Steps fw s (.write request input) s (remaining (evtIoWrite fw s.ctx request input))
  | closed :
      Steps fw s .close
        (FileState.emit
          { s with ctx :=
            { s.ctx with vhfHandle := false, waitingRequests := [], outstandingRequests := [] } }
          (rundown s.ctx.waitingRequests ++ rundown s.ctx.outstandingRequests))
        (remaining (if s.ctx.vhfHandle then [.vhfDelete] else []))
  | ended : Steps fw s (.calls []) s []
  | called (e : Effect) (effects : List Effect) :
      Steps fw s (.calls (e :: effects)) (s.emit [e]) (remaining effects)

section

variable (fw : Framework) (s : FileState)

theorem dispatchAsyncOperation_steps (call : DispatchCall) (rest : List Effect) :
    Thread.Steps fw s (.dispatch call rest) (s.dispatchAsyncOperation fw call rest).1
      (s.dispatchAsyncOperation fw call rest).2 := by
  unfold FileState.dispatchAsyncOperation
  cases ho : ntSuccess fw.objectCreate with
  | false => exact .notCreated call rest ho
  | true =>
    cases hc : s.ctx.createOperation s.nextObject call with
    | mk ctx op =>
      cases op with
      | none => simpa [hc] using Thread.Steps.unknownReport call rest ctx ho hc
      | some op => simpa [hc] using Thread.Steps.created call rest ctx op ho hc

theorem enqueue_steps (op : Operation) (rest : List Effect) :
    Thread.Steps fw s (.enqueue op rest) (s.enqueue fw op rest).1 (s.enqueue fw op rest).2 := by
  unfold FileState.enqueue
  rcases s.ctx.queueOperation_cases fw op with ⟨status, hno, hq⟩ | ⟨hv, ha, hq⟩
  · rw [hq]
    exact .givenUp op rest status hno
  · rw [hq]
    exact .queued op rest hv ha

theorem retrieve_steps (rest : List Effect) :
    Thread.Steps fw s (.retrieve rest) (s.retrieve fw rest).1 (s.retrieve fw rest).2 := by
  unfold FileState.retrieve
  cases hq : s.getNextEventQueue with
  | nil => exact .nothingParked rest (.inl hq)
  | cons event queue =>
    by_cases hr : fw.retrieveRequest = statusSuccess
    · simpa [hr] using Thread.Steps.retrieved event queue rest hq
    · simpa [hr] using Thread.Steps.nothingParked rest (.inr hr)

theorem getNextEvent_steps (event : GetNextEvent) :
    Thread.Steps fw s (.getNextEvent event) (s.getNextEvent event).1 (s.getNextEvent event).2 := by
  unfold FileState.getNextEvent
  cases hv : s.ctx.vhfHandle with
  | false => exact .noDevice event hv
  | true => exact .accepted event

theorem serve_steps (event : GetNextEvent) (caller : Caller) (rest : List Effect) :
    Thread.Steps fw s (.serve event caller rest) (s.serve fw event caller rest).1
      (s.serve fw event caller rest).2 := by
  unfold FileState.serve
  rcases tryCompleteGetNextEvent_cases fw s.ctx event.outputLength with
    ⟨hw, he⟩ | ⟨op, waiting, status, hw, hs, hno, he⟩ | ⟨op, waiting, hw, hm, hf, ha, he⟩
  · rw [he]
    exact .pending event caller rest hw
  · rw [he]
    exact .failed event caller rest op waiting status hw hs hno
  · rw [he]
    exact .handed event caller rest op waiting hw hf ha

theorem park_steps (event : GetNextEvent) (caller : Caller) (rest : List Effect) :
    Thread.Steps fw s (.park event caller rest) (s.park fw event caller rest).1
      (s.park fw event caller rest).2 := by
  unfold FileState.park
  cases caller with
  | ioctl =>
    cases hf : ntSuccess fw.forwardToIoQueue with
    | false => exact .notParked event .ioctl rest fw.forwardToIoQueue hf (.inl rfl)
    | true => exact .forwarded event rest
  | dispatcher =>
    cases hf : ntSuccess fw.requestRequeue with
    | false => exact .notParked event .dispatcher rest fw.requestRequeue hf (.inr rfl)
    | true => exact .requeued event rest

theorem completeWrite_steps (request : IoRequest) (input : InputBuffer) :
    Thread.Steps fw s (.completeWrite request input) (s.completeWrite request input).1
      (s.completeWrite request input).2 := by
  unfold FileState.completeWrite
  cases hc : checkWriteEvent s.ctx input with
  | error status => exact .writeRejected request input status
  | ok c =>
    obtain ⟨_, _, rfl⟩ := checkWriteEvent_eq_ok.mp hc
    exact .writeAccepted request input

theorem takeWrite_steps (request : IoRequest) (c : WriteEventComplete) :
    Thread.Steps fw s (.takeWrite request c) (s.takeWrite fw request c).1
      (s.takeWrite fw request c).2 := by
  unfold FileState.takeWrite
  rcases takeWriteEvent_cases fw s.ctx request c with
    ⟨_, ht⟩ | ⟨op, before, after, ho, hid, _, ht⟩
  · rw [ht]
    exact .writeNotFound request c
  · rw [ht]
    exact .writeTaken request c op before after ho hid

theorem completeRead_steps (request : IoRequest) (input : InputBuffer) :
    Thread.Steps fw s (.completeRead request input) (s.completeRead request input).1
      (s.completeRead request input).2 := by
  unfold FileState.completeRead
  cases hc : checkReadEvent s.ctx input with
  | error status => exact .readRejected request input status
  | ok c =>
    obtain ⟨_, _, _, rfl⟩ := checkReadEvent_eq_ok.mp hc
    exact .readAccepted request input

theorem takeRead_steps (request : IoRequest) (input : InputBuffer) (c : ReadEventComplete) :
    Thread.Steps fw s (.takeRead request input c) (s.takeRead fw request input c).1
      (s.takeRead fw request input c).2 := by
  unfold FileState.takeRead
  rcases takeReadEvent_cases fw s.ctx request input c with
    ⟨_, ht⟩ | ⟨op, before, after, ho, hid, _, ht⟩
  · rw [ht]
    exact .readNotFound request input c
  · rw [ht]
    by_cases hr : readCompletion s.ctx.reports.numberedReports input c = .readyForNextReadReport
    · rw [hr]
      exact .readFailed request input c op before after ho hid hr
    · simp only
      rw [if_neg fun h => hr (ReadCompletion.isReadyForNextReadReport_iff.mp h)]
      exact .readTaken request input c op before after _ ho hid rfl hr

end

theorem Thread.step_cases (fw : Framework) (s : FileState) (t : Thread) :
    Thread.Steps fw s t (t.step fw s).1 (t.step fw s).2 := by
  cases t with
  | dispatch call rest => exact dispatchAsyncOperation_steps fw s call rest
  | enqueue op rest => exact enqueue_steps fw s op rest
  | retrieve rest => exact retrieve_steps fw s rest
  | getNextEvent event => exact getNextEvent_steps fw s event
  | serve event caller rest => exact serve_steps fw s event caller rest
  | park event caller rest => exact park_steps fw s event caller rest
  | completeWrite request input => exact completeWrite_steps fw s request input
  | takeWrite request c => exact takeWrite_steps fw s request c
  | completeRead request input => exact completeRead_steps fw s request input
  | takeRead request input c => exact takeRead_steps fw s request input c
  | write request input => exact .written request input
  | close => exact .closed
  | calls effects =>
    cases effects with
    | nil => exact .ended
    | cons e effects => exact .called e effects

/-- What can arrive at a file: the state it leaves and the thread it starts. -/
inductive Arrives (s : FileState) : Action → FileState → Thread → Prop
  | readyForNextReadReport :
      Arrives s .readyForNextReadReport (s.record .readyForNextReadReport)
        (.dispatch .readyForRead [])
  | asyncOperation (type : EventType) (packet : HidXferPacket) :
      Arrives s (.asyncOperation type packet)
        (FileState.record { s with nextHandle := s.nextHandle + 1 }
          (.asyncOperation type s.nextHandle packet))
        (.dispatch (.async type s.nextHandle packet) [])
  | getNextEvent (outputLength : Nat) :
      Arrives s (.getNextEvent outputLength) { s with nextRequest := s.nextRequest + 1 }
        (.getNextEvent ⟨s.nextRequest, outputLength⟩)
  | completeWriteEvent (input : InputBuffer) :
      Arrives s (.completeWriteEvent input) { s with nextRequest := s.nextRequest + 1 }
        (.completeWrite s.nextRequest input)
  | completeReadEvent (input : InputBuffer) :
      Arrives s (.completeReadEvent input) { s with nextRequest := s.nextRequest + 1 }
        (.completeRead s.nextRequest input)
  | write (input : InputBuffer) :
      Arrives s (.write input) { s with nextRequest := s.nextRequest + 1 }
        (.write s.nextRequest input)
  | fileClose : Arrives s .fileClose s .close

theorem fileStep_cases {p p' : FilePool} {a : Action} (h : fileStep p a = some p') :
    (∃ s t, Arrives p.shared a s t ∧ p' = p.spawn s t) ∨
    (∃ i before event after, a = .cancelRequest i ∧
      p.shared.getNextEventQueue = before ++ event :: after ∧
      p' = ⟨FileState.emit { p.shared with getNextEventQueue := before ++ after }
        (requestFailed event.request statusCancelled), p.threads⟩) ∨
    (∃ i fw l t r s ts, a = .run i fw ∧ p.threads = l ++ t :: r ∧ p.threads[i]? = some t ∧
      Thread.Steps fw p.shared t s ts ∧ p' = ⟨s, l ++ ts ++ r⟩) := by
  cases a with
  | readyForNextReadReport =>
    cases Option.some.inj h
    exact .inl ⟨_, _, .readyForNextReadReport, rfl⟩
  | asyncOperation type packet =>
    cases Option.some.inj h
    exact .inl ⟨_, _, .asyncOperation type packet, rfl⟩
  | getNextEvent outputLength =>
    cases Option.some.inj h
    exact .inl ⟨_, _, .getNextEvent outputLength, rfl⟩
  | completeWriteEvent input =>
    cases Option.some.inj h
    exact .inl ⟨_, _, .completeWriteEvent input, rfl⟩
  | completeReadEvent input =>
    cases Option.some.inj h
    exact .inl ⟨_, _, .completeReadEvent input, rfl⟩
  | write input =>
    cases Option.some.inj h
    exact .inl ⟨_, _, .write input, rfl⟩
  | fileClose =>
    cases Option.some.inj h
    exact .inl ⟨_, _, .fileClose, rfl⟩
  | cancelRequest i =>
    obtain ⟨event, he, rfl⟩ := Option.map_eq_some_iff.mp h
    obtain ⟨hi, hv⟩ := List.getElem?_eq_some_iff.mp he
    refine .inr (.inl ⟨i, p.shared.getNextEventQueue.take i, event,
      p.shared.getNextEventQueue.drop (i + 1), rfl, ?_, ?_⟩)
    · rw [← hv, List.getElem_cons_drop, List.take_append_drop]
    · rw [List.eraseIdx_eq_take_drop_succ]
  | run i fw =>
    obtain ⟨l, t, r, hp, ht, hs, hts⟩ := Pool.run_cases h
    refine .inr (.inr ⟨i, fw, l, t, r, _, _, rfl, hp, ht, t.step_cases fw p.shared, ?_⟩)
    rw [← hs, ← hts]

/-- Induction on the runs of a file object: what one arrival, one cancellation of a parked request
and one step of a thread do to a reached state. -/
@[elab_as_elim]
theorem FileReach.induct {guard : FilePool → Action → Prop} {reports : ParsedReports}
    {motive : ∀ p, FileReach guard reports p → Prop}
    (start : ∀ h, motive ⟨.created reports, []⟩ h)
    (arrives : ∀ p a s t (h : FileReach guard reports p) h', guard p a → Arrives p.shared a s t →
      motive p h → motive (p.spawn s t) h')
    (cancelled : ∀ p before event after (h : FileReach guard reports p) h',
      p.shared.getNextEventQueue = before ++ event :: after → motive p h →
      motive ⟨FileState.emit { p.shared with getNextEventQueue := before ++ after }
        (requestFailed event.request statusCancelled), p.threads⟩ h')
    (ran : ∀ p i fw l t r s ts (h : FileReach guard reports p) h', guard p (.run i fw) →
      p.threads = l ++ t :: r → p.threads[i]? = some t → Thread.Steps fw p.shared t s ts →
      motive p h → motive ⟨s, l ++ ts ++ r⟩ h')
    {p : FilePool} (h : FileReach guard reports p) : motive p h := by
  induction h with
  | start hi =>
    cases hi
    exact start _
  | next hr hg hs ih =>
    rcases fileStep_cases hs with ⟨s, t, ha, rfl⟩ | ⟨i, before, event, after, _, hq, rfl⟩ |
      ⟨i, fw, l, t, r, s, ts, rfl, hl, ht, hstep, rfl⟩
    · exact arrives _ _ _ _ hr _ hg ha ih
    · exact cancelled _ _ _ _ hr _ hq ih
    · exact ran _ _ _ _ _ _ _ _ hr _ hg hl ht hstep ih

end WinUHid
