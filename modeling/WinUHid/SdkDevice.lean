import WinUHid.ThreadPool
import WinUHid.Runs

namespace WinUHid

inductive DeviceState where
  | created
  | started
  | stopped
  deriving DecidableEq

/-- An `SRWLOCK`: held exclusively, or by a number of shared holders. -/
structure SrwLock where
  exclusive : Bool
  shared : Nat
  deriving DecidableEq

namespace SrwLock

def free : SrwLock := ⟨false, 0⟩

def acquireShared (l : SrwLock) : Option SrwLock :=
  if l.exclusive then none else some { l with shared := l.shared + 1 }

def releaseShared (l : SrwLock) : SrwLock := { l with shared := l.shared - 1 }

def acquireExclusive (l : SrwLock) : Option SrwLock :=
  if l.exclusive || l.shared != 0 then none else some { l with exclusive := true }

def releaseExclusive (l : SrwLock) : SrwLock := { l with exclusive := false }

end SrwLock

/-- Identity of an event record that `WinUHidPollEvent` returns. -/
abbrev EventId := Nat

/-- The next operation of `EventThreadProc` with `WinUHidPollEvent`. -/
inductive EventProc where
  | notCreated
  | createEvent
  | acquireShared
  | heapAlloc
  | checkState
  | releaseIssued
  | releaseFailed
  | getResult
  | acquireExclusive
  | releaseExclusive
  | heapReAlloc
  | reacquireShared
  | dispatch (event : EventId) (readyForRead : Bool)
  | setEvent
  | inCallback
  | exited
  deriving DecidableEq

/-- The next operation of `ReadThreadProc`. -/
inductive ReadProc where
  | notCreated
  | acquireShared
  | checkState
  | releaseStarted
  | waitReady
  | reacquireShared
  | recheckState
  | exchange
  | releaseTaken (event : EventId)
  | invoke (event : EventId)
  | inCallback
  | setTimer
  | waitTimer
  | releaseLast
  | exited
  deriving DecidableEq

/-- The next operation of `WinUHidStartDevice`. -/
inductive StartProc where
  | idle
  | acquireExclusive
  | checkState
  | createEventThread
  | createReadThread
  | startIoctl
  | setStarted
  | releaseStarted
  | releaseBadState
  | releaseFailed
  | waitEventThread
  | closeEventThread
  | waitReadThread
  | closeReadThread
  | returned (result : Bool)
  deriving DecidableEq

/-- The next operation of `WinUHidStopDevice`. -/
inductive StopProc where
  | idle
  | acquireExclusive
  | checkState
  | cancelIo
  | releaseForEvent
  | waitEventThread
  | reacquireForEvent
  | closeEventThread
  | releaseForRead
  | setReady
  | setTimer
  | waitReadThread
  | reacquireForRead
  | closeReadThread
  | releaseLast
  | returned
  deriving DecidableEq

/-- What is left of a `WinUHidSubmitInputReport` call on a throttled device. -/
inductive SubmitProc where
  | waitReady
  | exchange
  | complete (event : EventId)
  | setTimer
  deriving DecidableEq

/-- An invocation of the client's callback: the device state, and whether the stop was over. -/
structure CallbackCall where
  state : DeviceState
  stopReturned : Bool
  deriving DecidableEq

/-- A `WINUHID_DEVICE` with the procedures that run on it. The last seven fields are a history of
its ready-for-read events and of the callbacks. -/
structure SdkDevice where
  lock : SrwLock
  state : DeviceState
  eventCallback : Bool
  throttled : Bool
  eventThread : Bool
  readThread : Bool
  throttlingTimer : Bool
  readReportReadyEvent : Bool
  pendingReadReportEvent : Option EventId
  eventProc : EventProc
  readProc : ReadProc
  startProc : StartProc
  stopProc : StopProc
  destroyed : Bool
  nextEvent : EventId
  unanswered : List EventId
  withClient : List EventId
  handed : List EventId
  overwritten : List EventId
  consumed : List EventId
  emptyTakes : Nat
  calls : List CallbackCall

namespace SdkDevice

/-- A device that `WinUHidCreateDevice` made, throttled or not, about to be started with or
without a callback. -/
def fresh (eventCallback throttled : Bool) : SdkDevice where
  lock := .free
  state := .created
  eventCallback := eventCallback
  throttled := throttled
  eventThread := false
  readThread := false
  throttlingTimer := false
  readReportReadyEvent := false
  pendingReadReportEvent := none
  eventProc := .notCreated
  readProc := .notCreated
  startProc := .idle
  stopProc := .idle
  destroyed := false
  nextEvent := 0
  unanswered := []
  withClient := []
  handed := []
  overwritten := []
  consumed := []
  emptyTakes := 0
  calls := []

/-- `Device->EventCallback(..)` -/
def call (d : SdkDevice) : SdkDevice :=
  { d with calls := d.calls ++ [⟨d.state, d.stopProc == .returned⟩] }

/-- A ready-for-read event is handed to the client with the callback. -/
def giveToClient (d : SdkDevice) (event : EventId) : SdkDevice :=
  { d with withClient := event :: d.withClient }

/-- A ready-for-read event is completed. -/
def answered (d : SdkDevice) (event : EventId) : SdkDevice :=
  { d with unanswered := d.unanswered.erase event }

/-- `InterlockedExchangePointer(&PendingReadReportEvent, NULL)` found nothing. -/
def tookNothing (d : SdkDevice) : SdkDevice :=
  { d with emptyTakes := d.emptyTakes + (if d.stopProc = .idle then 1 else 0) }

end SdkDevice

/-- How a call that the event thread makes into the system ends. -/
inductive PollOutcome where
  | succeeded
  | failed
  | event (readyForRead : Bool)
  | insufficientBuffer
  deriving DecidableEq

namespace SdkDevice

/-- The next operation of the event thread. -/
def eventStep (d : SdkDevice) (o : PollOutcome) : Option SdkDevice :=
  match d.eventProc with
  | .notCreated => none
  | .createEvent =>
    if o = .failed then some { d with eventProc := .exited }
    else some { d with eventProc := .acquireShared }
  | .acquireShared =>
    d.lock.acquireShared.map fun l => { d with lock := l, eventProc := .heapAlloc }
  | .heapAlloc =>
    if o = .failed then some { d with eventProc := .releaseFailed }
    else some { d with eventProc := .checkState }
  | .checkState =>
    if d.state ≠ .started then some { d with eventProc := .releaseFailed }
    else some { d with eventProc := .releaseIssued }
  | .releaseIssued => some { d with lock := d.lock.releaseShared, eventProc := .getResult }
  | .releaseFailed => some { d with lock := d.lock.releaseShared, eventProc := .exited }
  | .getResult =>
    match o with
    | .event readyForRead =>
      some { d with
        eventProc := .dispatch d.nextEvent readyForRead
        nextEvent := d.nextEvent + 1
        unanswered := if readyForRead then d.nextEvent :: d.unanswered else d.unanswered }
    | .insufficientBuffer => some { d with eventProc := .acquireExclusive }
    | _ => some { d with eventProc := .exited }
  | .acquireExclusive =>
    d.lock.acquireExclusive.map fun l => { d with lock := l, eventProc := .releaseExclusive }
  | .releaseExclusive =>
    some { d with lock := d.lock.releaseExclusive, eventProc := .heapReAlloc }
  | .heapReAlloc =>
    if o = .failed then some { d with eventProc := .exited }
    else some { d with eventProc := .reacquireShared }
  | .reacquireShared =>
    d.lock.acquireShared.map fun l => { d with lock := l, eventProc := .checkState }
  | .dispatch event readyForRead =>
    if readyForRead && d.throttled then
      some { d with
        eventProc := .setEvent
        overwritten := d.pendingReadReportEvent.toList ++ d.overwritten
        pendingReadReportEvent := some event
        handed := event :: d.handed }
    else
      let d := if readyForRead then d.giveToClient event else d
      some { d.call with eventProc := .inCallback }
  | .setEvent => some { d with eventProc := .createEvent, readReportReadyEvent := true }
  | .inCallback => some { d with eventProc := .createEvent }
  | .exited => none

/-- The next operation of the read thread. A wait is a step only when its object is signalled. -/
def readStep (d : SdkDevice) : Option SdkDevice :=
  match d.readProc with
  | .notCreated => none
  | .acquireShared =>
    d.lock.acquireShared.map fun l => { d with lock := l, readProc := .checkState }
  | .checkState =>
    if d.state = .started then some { d with readProc := .releaseStarted }
    else some { d with readProc := .releaseLast }
  | .releaseStarted => some { d with lock := d.lock.releaseShared, readProc := .waitReady }
  | .waitReady =>
    if d.readReportReadyEvent then
      some { d with readReportReadyEvent := false, readProc := .reacquireShared }
    else none
  | .reacquireShared =>
    d.lock.acquireShared.map fun l => { d with lock := l, readProc := .recheckState }
  | .recheckState =>
    if d.state ≠ .started then some { d with readProc := .releaseLast }
    else some { d with readProc := .exchange }
  | .exchange =>
    match d.pendingReadReportEvent with
    | none => some { d.tookNothing with readProc := .checkState }
    | some event =>
      some { d with pendingReadReportEvent := none, readProc := .releaseTaken event }
  | .releaseTaken event =>
    some { d with lock := d.lock.releaseShared, readProc := .invoke event }
  | .invoke event =>
    some { (d.giveToClient event).call with
      consumed := event :: d.consumed
      readProc := .inCallback }
  | .inCallback => some { d with readProc := .setTimer }
  | .setTimer => some { d with throttlingTimer := false, readProc := .waitTimer }
  | .waitTimer => if d.throttlingTimer then some { d with readProc := .acquireShared } else none
  | .releaseLast => some { d with lock := d.lock.releaseShared, readProc := .exited }
  | .exited => none

/-- The next operation of `WinUHidStartDevice`; `ok` is the result of a thread creation or of the
IOCTL. The unwinding skips the threads whose handles are `NULL`. -/
def startStep (d : SdkDevice) (ok : Bool) : Option SdkDevice :=
  match d.startProc with
  | .idle => some { d with startProc := .acquireExclusive }
  | .acquireExclusive =>
    d.lock.acquireExclusive.map fun l => { d with lock := l, startProc := .checkState }
  | .checkState =>
    if d.state ≠ .created then some { d with startProc := .releaseBadState }
    else if d.eventCallback then some { d with startProc := .createEventThread }
    else if d.throttled then some { d with startProc := .createReadThread }
    else some { d with startProc := .startIoctl }
  | .createEventThread =>
    if !ok then some { d with startProc := .releaseFailed }
    else
      some { d with
        eventThread := true
        eventProc := .createEvent
        startProc := if d.throttled then .createReadThread else .startIoctl }
  | .createReadThread =>
    if !ok then some { d with startProc := .releaseFailed }
    else
      some { d with
        readThread := true
        readProc := .acquireShared
        startProc := .startIoctl }
  | .startIoctl =>
    if !ok then some { d with startProc := .releaseFailed }
    else some { d with startProc := .setStarted }
  | .setStarted => some { d with state := .started, startProc := .releaseStarted }
  | .releaseStarted =>
    some { d with lock := d.lock.releaseExclusive, startProc := .returned true }
  | .releaseBadState =>
    some { d with lock := d.lock.releaseExclusive, startProc := .returned false }
  | .releaseFailed =>
    some { d with
      lock := d.lock.releaseExclusive
      startProc := if d.eventThread then .waitEventThread
        else if d.readThread then .waitReadThread else .returned false }
  | .waitEventThread =>
    if d.eventProc = .exited then some { d with startProc := .closeEventThread } else none
  | .closeEventThread =>
    some { d with
      eventThread := false
      startProc := if d.readThread then .waitReadThread else .returned false }
  | .waitReadThread =>
    if d.readProc = .exited then some { d with startProc := .closeReadThread } else none
  | .closeReadThread => some { d with readThread := false, startProc := .returned false }
  | .returned _ => none

/-- Where `WinUHidStopDevice` goes on when the event thread is dealt with. -/
def stopAfterEvent (d : SdkDevice) : StopProc :=
  if d.readThread then .releaseForRead else .releaseLast

/-- The next operation of `WinUHidStopDevice`, which is called after the start has returned. -/
def stopStep (d : SdkDevice) : Option SdkDevice :=
  match d.stopProc with
  | .idle =>
    match d.startProc with
    | .returned _ => some { d with stopProc := .acquireExclusive }
    | _ => none
  | .acquireExclusive =>
    d.lock.acquireExclusive.map fun l => { d with lock := l, stopProc := .checkState }
  | .checkState =>
    if d.state = .started then some { d with state := .stopped, stopProc := .cancelIo }
    else some { d with stopProc := .releaseLast }
  | .cancelIo =>
    some { d with stopProc := if d.eventThread then .releaseForEvent else d.stopAfterEvent }
  | .releaseForEvent =>
    some { d with lock := d.lock.releaseExclusive, stopProc := .waitEventThread }
  | .waitEventThread =>
    if d.eventProc = .exited then some { d with stopProc := .reacquireForEvent } else none
  | .reacquireForEvent =>
    d.lock.acquireExclusive.map fun l => { d with lock := l, stopProc := .closeEventThread }
  | .closeEventThread => some { d with eventThread := false, stopProc := d.stopAfterEvent }
  | .releaseForRead => some { d with lock := d.lock.releaseExclusive, stopProc := .setReady }
  | .setReady => some { d with readReportReadyEvent := true, stopProc := .setTimer }
  | .setTimer => some { d with throttlingTimer := true, stopProc := .waitReadThread }
  | .waitReadThread =>
    if d.readProc = .exited then some { d with stopProc := .reacquireForRead } else none
  | .reacquireForRead =>
    d.lock.acquireExclusive.map fun l => { d with lock := l, stopProc := .closeReadThread }
  | .closeReadThread => some { d with readThread := false, stopProc := .releaseLast }
  | .releaseLast => some { d with lock := d.lock.releaseExclusive, stopProc := .returned }
  | .returned => none

/-- `WinUHidDestroyDevice` after the stop: a pending event is completed without data. -/
def destroy (d : SdkDevice) : SdkDevice :=
  match d.pendingReadReportEvent with
  | none => { d with destroyed := true }
  | some event =>
    { d.answered event with
      pendingReadReportEvent := none
      consumed := event :: d.consumed
      destroyed := true }

/-- The client completes a ready-for-read event that the callback was called with. -/
def clientAnswers (d : SdkDevice) (event : EventId) : Option SdkDevice :=
  if event ∈ d.withClient then
    some { d.answered event with withClient := d.withClient.erase event }
  else none

end SdkDevice

/-- The next operation of a `WinUHidSubmitInputReport` call. -/
def SubmitProc.body (d : SdkDevice) : SubmitProc → SdkDevice × List SubmitProc
  | .waitReady =>
    if d.throttled && d.readReportReadyEvent then
      ({ d with readReportReadyEvent := false }, [.exchange])
    else (d, [])
  | .exchange =>
    match d.pendingReadReportEvent with
    | none => (d.tookNothing, [])
    | some event => ({ d with pendingReadReportEvent := none }, [.complete event])
  | .complete event => ({ d.answered event with consumed := event :: d.consumed }, [.setTimer])
  | .setTimer => ({ d with throttlingTimer := false }, [])

abbrev SdkPool := Pool SdkDevice SubmitProc

inductive SdkAction where
  | start (ok : Bool)
  | event (o : PollOutcome)
  | read
  | stop
  | destroy
  | submit
  | submitter (i : Nat)
  | timerExpires
  | answer (event : EventId)
  deriving DecidableEq

def SdkPool.update (p : SdkPool) (d : Option SdkDevice) : Option SdkPool :=
  d.map fun d => { p with shared := d }

/-- One atomic step of one of the procedures, of the timer or of the client. The device is
destroyed when the stop has returned and no submission is in progress. -/
def sdkStep (p : SdkPool) : SdkAction → Option SdkPool
  | .start ok => p.update (p.shared.startStep ok)
  | .event o => p.update (p.shared.eventStep o)
  | .read => p.update p.shared.readStep
  | .stop => p.update p.shared.stopStep
  | .destroy =>
    if p.shared.stopProc = .returned && p.threads.isEmpty && !p.shared.destroyed then
      p.update (some p.shared.destroy)
    else none
  | .submit => if p.shared.destroyed then none else some (p.spawn p.shared .waitReady)
  | .submitter i => p.run SubmitProc.body i
  | .timerExpires => p.update (some { p.shared with throttlingTimer := true })
  | .answer event => p.update (p.shared.clientAnswers event)

end WinUHid
