import WinUHid.Runs
import WinUHid.ThreadPool
import WinUHid.EventDelivery
import WinUHid.CompletionEvents

namespace WinUHid

/-- A GET_NEXT_EVENT request with the length of its output buffer. -/
structure GetNextEvent where
  request : IoRequest
  outputLength : Nat

/-- The two call sites of `TryCompleteGetNextEvent`. -/
inductive Caller where
  | ioctl
  | dispatcher

/-- A callback or request handler in progress, by what it does next. Where it is inside
`DispatchAsyncOperation`, `rest` is what its caller does once that returns. -/
inductive Thread where
  | dispatch (call : DispatchCall) (rest : List Effect)
  /-- about to add the operation to `WaitingRequests` -/
  | enqueue (op : Operation) (rest : List Effect)
  /-- about to look for a parked request -/
  | retrieve (rest : List Effect)
  | getNextEvent (event : GetNextEvent)
  /-- about to call `TryCompleteGetNextEvent` -/
  | serve (event : GetNextEvent) (caller : Caller) (rest : List Effect)
  /-- about to forward or requeue a request for which there was no operation -/
  | park (event : GetNextEvent) (caller : Caller) (rest : List Effect)
  | completeWrite (request : IoRequest) (input : InputBuffer)
  | takeWrite (request : IoRequest) (writeComplete : WriteEventComplete)
  | completeRead (request : IoRequest) (input : InputBuffer)
  | takeRead (request : IoRequest) (input : InputBuffer) (readComplete : ReadEventComplete)
  | write (request : IoRequest) (input : InputBuffer)
  | close
  /-- only calls out of the driver are left -/
  | calls (effects : List Effect)

/-- What can be seen to happen to a file object. -/
inductive FileEvent where
  /-- VHF calls `EvtVhfReadyForNextReadReport`. -/
  | readyForNextReadReport
  /-- VHF calls the asynchronous callback of an event type. -/
  | asyncOperation (type : EventType) (handle : OperationHandle) (packet : HidXferPacket)
  /-- An operation enters `WaitingRequests`. -/
  | queued (op : Operation)
  /-- An operation moves to `OutstandingRequests` for a GET_NEXT_EVENT request. -/
  | handed (request : IoRequest) (op : Operation)
  | effect (e : Effect)

/-- One file object: its context, its requests in `GetNextEventIoctlQueue`, the next unused
identities, and everything that has happened so far. -/
structure FileState where
  ctx : FileContext
  getNextEventQueue : List GetNextEvent
  nextHandle : OperationHandle
  nextObject : ObjectId
  nextRequest : IoRequest
  trace : List FileEvent

/-- The file once its virtual device has been created. -/
def FileState.created (reports : ParsedReports) : FileState where
  ctx := ⟨reports, 0, true, [], []⟩
  getNextEventQueue := []
  nextHandle := 0
  nextObject := 0
  nextRequest := 0
  trace := []

def FileState.record (s : FileState) (event : FileEvent) : FileState :=
  { s with trace := s.trace ++ [event] }

def FileState.emit (s : FileState) (effects : List Effect) : FileState :=
  { s with trace := s.trace ++ effects.map .effect }

/-- What is left of a thread that has only calls to make. -/
def remaining : List Effect → List Thread
  | [] => []
  | effects => [.calls effects]

/-- `DispatchAsyncOperation` up to the lock. -/
def FileState.dispatchAsyncOperation (fw : Framework) (s : FileState) (call : DispatchCall)
    (rest : List Effect) : FileState × List Thread :=
  if !ntSuccess fw.objectCreate then
    (s, remaining (completeIfHandle call.handle statusUnsuccessful ++ rest))
  else
    let object := s.nextObject
    let created := s.ctx.createOperation object call
    let s := { s with ctx := created.1, nextObject := object + 1 }
    match created.2 with
    | none =>
      (s, remaining (completeIfHandle call.handle statusUnsuccessful ++ .objectDelete object :: rest))
    | some op => (s, [.enqueue op rest])

/-- `DispatchAsyncOperation` under the lock, with the exits that give the operation up. -/
def FileState.enqueue (fw : Framework) (s : FileState) (op : Operation) (rest : List Effect) :
    FileState × List Thread :=
  match s.ctx.queueOperation fw op with
  | .error status =>
    (s, remaining (completeIfHandle op.handle status ++ .objectDelete op.object :: rest))
  | .ok ctx => (FileState.record { s with ctx } (.queued op), [.retrieve rest])

/-- `WdfIoQueueRetrieveRequestByFileObject` -/
def FileState.retrieve (fw : Framework) (s : FileState) (rest : List Effect) :
    FileState × List Thread :=
  match s.getNextEventQueue with
  | [] => (s, remaining rest)
  | event :: queue =>
    -- compared with STATUS_SUCCESS itself, not with NT_SUCCESS
    if fw.retrieveRequest = statusSuccess then
      ({ s with getNextEventQueue := queue }, [.serve event .dispatcher rest])
    else (s, remaining rest)

/-- The check of the GET_NEXT_EVENT handler. -/
def FileState.getNextEvent (s : FileState) (event : GetNextEvent) : FileState × List Thread :=
  if !s.ctx.vhfHandle then (s, remaining (requestFailed event.request statusInvalidDeviceState))
  else (s, [.serve event .ioctl []])

/-- `TryCompleteGetNextEvent`; the request is completed after the lock is released. -/
def FileState.serve (fw : Framework) (s : FileState) (event : GetNextEvent) (caller : Caller)
    (rest : List Effect) : FileState × List Thread :=
  match tryCompleteGetNextEvent fw s.ctx event.outputLength with
  | (.pending, ctx) => ({ s with ctx }, [.park event caller rest])
  | (.failed status, ctx) => ({ s with ctx }, remaining (requestFailed event.request status ++ rest))
  | (.completed op status count _, ctx) =>
    (FileState.record { s with ctx } (.handed event.request op),
      remaining (.requestComplete event.request status count (some op) :: rest))

/-- `WdfRequestForwardToIoQueue` appends to the queue, `WdfRequestRequeue` puts a request back at
its head. -/
def FileState.park (fw : Framework) (s : FileState) (event : GetNextEvent) (caller : Caller)
    (rest : List Effect) : FileState × List Thread :=
  match caller with
  -- nothing looks at `WaitingRequests` again once the request is in the queue
  | .ioctl =>
    if ntSuccess fw.forwardToIoQueue then
      ({ s with getNextEventQueue := s.getNextEventQueue ++ [event] }, remaining rest)
    else (s, remaining (requestFailed event.request fw.forwardToIoQueue ++ rest))
  | .dispatcher =>
    if ntSuccess fw.requestRequeue then
      ({ s with getNextEventQueue := event :: s.getNextEventQueue }, remaining rest)
    else (s, remaining (requestFailed event.request fw.requestRequeue ++ rest))

def FileState.completeWrite (s : FileState) (request : IoRequest) (input : InputBuffer) :
    FileState × List Thread :=
  match checkWriteEvent s.ctx input with
  | .error status => (s, remaining (requestFailed request status))
  | .ok writeComplete => (s, [.takeWrite request writeComplete])

def FileState.takeWrite (fw : Framework) (s : FileState) (request : IoRequest)
    (writeComplete : WriteEventComplete) : FileState × List Thread :=
  let run := takeWriteEvent fw s.ctx request writeComplete
  ({ s with ctx := run.ctx }, remaining run.effects)

def FileState.completeRead (s : FileState) (request : IoRequest) (input : InputBuffer) :
    FileState × List Thread :=
  (s.emit (headerReads s.ctx input),
    match checkReadEvent s.ctx input with
    | .error status => remaining (requestFailed request status)
    | .ok readComplete => [.takeRead request input readComplete])

def FileState.takeRead (fw : Framework) (s : FileState) (request : IoRequest)
    (input : InputBuffer) (readComplete : ReadEventComplete) : FileState × List Thread :=
  -- what the calls still to be made will return is settled here
  let run := takeReadEvent fw s.ctx request input readComplete
  ({ s with ctx := run.ctx },
    if run.readyForNextReadReport then [.dispatch .readyForRead run.effects]
    else remaining run.effects)

/-- `WinUHidEvtDeviceFileClose`: the lock is held until both collections are run down. -/
def FileState.close (s : FileState) : FileState × List Thread :=
  let ctx := { s.ctx with vhfHandle := false, waitingRequests := [], outstandingRequests := [] }
  (FileState.emit { s with ctx } (rundown s.ctx.waitingRequests ++
      rundown s.ctx.outstandingRequests),
    remaining (if s.ctx.vhfHandle then [.vhfDelete] else []))

def Thread.step (fw : Framework) (s : FileState) : Thread → FileState × List Thread
  | .dispatch call rest => s.dispatchAsyncOperation fw call rest
  | .enqueue op rest => s.enqueue fw op rest
  | .retrieve rest => s.retrieve fw rest
  | .getNextEvent event => s.getNextEvent event
  | .serve event caller rest => s.serve fw event caller rest
  | .park event caller rest => s.park fw event caller rest
  | .completeWrite request input => s.completeWrite request input
  | .takeWrite request writeComplete => s.takeWrite fw request writeComplete
  | .completeRead request input => s.completeRead request input
  | .takeRead request input readComplete => s.takeRead fw request input readComplete
  | .write request input => (s, remaining (evtIoWrite fw s.ctx request input))
  | .close => s.close
  | .calls [] => (s, [])
  | .calls (e :: effects) => (s.emit [e], remaining effects)

/-- What can happen next to a file object: VHF calls back, a request arrives or is cancelled while
it is parked, the file is closed, or a thread in progress takes a step. -/
inductive Action where
  | readyForNextReadReport
  | asyncOperation (type : EventType) (packet : HidXferPacket)
  | getNextEvent (outputLength : Nat)
  | completeWriteEvent (input : InputBuffer)
  | completeReadEvent (input : InputBuffer)
  | write (input : InputBuffer)
  | cancelRequest (i : Nat)
  | fileClose
  | run (i : Nat) (fw : Framework)

abbrev FilePool := Pool FileState Thread

def FilePool.request (p : FilePool) (handler : IoRequest → Thread) : FilePool :=
  p.spawn { p.shared with nextRequest := p.shared.nextRequest + 1 } (handler p.shared.nextRequest)

def fileStep (p : FilePool) : Action → Option FilePool
  | .readyForNextReadReport =>
    some (p.spawn (p.shared.record .readyForNextReadReport) (.dispatch .readyForRead []))
  | .asyncOperation type packet =>
    let handle := p.shared.nextHandle
    some (p.spawn
      (FileState.record { p.shared with nextHandle := handle + 1 }
        (.asyncOperation type handle packet))
      (.dispatch (.async type handle packet) []))
  | .getNextEvent outputLength => some (FilePool.request p fun r => .getNextEvent ⟨r, outputLength⟩)
  | .completeWriteEvent input => some (FilePool.request p fun r => .completeWrite r input)
  | .completeReadEvent input => some (FilePool.request p fun r => .completeRead r input)
  | .write input => some (FilePool.request p fun r => .write r input)
  | .cancelRequest i =>
    (p.shared.getNextEventQueue[i]?).map fun event =>
      ⟨FileState.emit
        { p.shared with getNextEventQueue := p.shared.getNextEventQueue.eraseIdx i }
        (requestFailed event.request statusCancelled), p.threads⟩
  | .fileClose => some (p.spawn p.shared .close)
  | .run i fw => p.run (Thread.step fw) i

/-- States of a file object with these report sizes, in runs whose steps all satisfy `guard`. -/
def FileReach (guard : FilePool → Action → Prop) (reports : ParsedReports) : FilePool → Prop :=
  Runs.Reach fileStep guard fun p => p = ⟨.created reports, []⟩

/-- A reached state with a property that can be evaluated, by running the actions. -/
theorem exists_fileReach (reports : ParsedReports) (actions : List Action) {P : FilePool → Prop}
    [DecidablePred P]
    (h : (Runs.exec fileStep ⟨.created reports, []⟩ actions).any (fun p => decide (P p)) = true) :
    ∃ p, FileReach Runs.anyStep reports p ∧ P p :=
  Runs.exists_reach_of_exec rfl h

theorem exists_guardedReach (guard : FilePool → Action → Prop) [∀ p a, Decidable (guard p a)]
    (reports : ParsedReports) (actions : List Action) {P : FilePool → Prop} [DecidablePred P]
    (h : (Runs.exec (Runs.guarded fileStep guard) ⟨.created reports, []⟩ actions).any
      (fun p => decide (P p)) = true) :
    ∃ p, FileReach guard reports p ∧ P p := by
  have hreach : ∃ p, Runs.Reach (Runs.guarded fileStep guard) Runs.anyStep
      (fun p => p = ⟨.created reports, []⟩) p ∧ P p := Runs.exists_reach_of_exec rfl h
  obtain ⟨p, hr, hp⟩ := hreach
  exact ⟨p, hr.of_guarded, hp⟩

/-- A condition on the steps of the threads alone. -/
def onRun (Q : Framework → FilePool → Thread → Prop) (p : FilePool) : Action → Prop
  | .run i fw => ∀ t ∈ p.threads[i]?, Q fw p t
  | _ => True

instance (Q : Framework → FilePool → Thread → Prop) [∀ fw p t, Decidable (Q fw p t)]
    (p : FilePool) : ∀ a, Decidable (onRun Q p a)
  | .run i fw => inferInstanceAs (Decidable (∀ t ∈ p.threads[i]?, Q fw p t))
  | .readyForNextReadReport | .asyncOperation _ _ | .getNextEvent _ | .completeWriteEvent _
  | .completeReadEvent _ | .write _ | .cancelRequest _ | .fileClose => .isTrue trivial

end WinUHid
