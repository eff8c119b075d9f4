import WinUHid.SdkDevice

namespace WinUHid

/-- Where the event thread can go on without having received or dispatched an event. -/
inductive EventProc.Next (s : DeviceState) : EventProc → EventProc → Prop
  | noEvent : Next s .createEvent .exited
  | created : Next s .createEvent .acquireShared
  | acquired : Next s .acquireShared .heapAlloc
  | outOfMemory : Next s .heapAlloc .releaseFailed
  | allocated : Next s .heapAlloc .checkState
  | badState : s ≠ .started → Next s .checkState .releaseFailed
  | issued : s = .started → Next s .checkState .releaseIssued
  | released : Next s .releaseIssued .getResult
  | failed : Next s .releaseFailed .exited
  | ioFailed : Next s .getResult .exited
  | tooSmall : Next s .getResult .acquireExclusive
  | resizing : Next s .acquireExclusive .releaseExclusive
  | resized : Next s .releaseExclusive .heapReAlloc
  | notReallocated : Next s .heapReAlloc .exited
  | reallocated : Next s .heapReAlloc .reacquireShared
  | again : Next s .reacquireShared .checkState
  | returned : Next s .inCallback .createEvent

inductive EventMove (d : SdkDevice) (o : PollOutcome) : SdkDevice → Prop
  | goes (l : SrwLock) (q : EventProc) : EventProc.Next d.state d.eventProc q →
      EventMove d o { d with lock := l, eventProc := q }
  | receives (readyForRead : Bool) : d.eventProc = .getResult → o = .event readyForRead →
      EventMove d o { d with
        eventProc := .dispatch d.nextEvent readyForRead
        nextEvent := d.nextEvent + 1
        unanswered := if readyForRead then d.nextEvent :: d.unanswered else d.unanswered }
  | hands (event : EventId) : d.eventProc = .dispatch event true → d.throttled →
      EventMove d o { d with
        eventProc := .setEvent
        overwritten := d.pendingReadReportEvent.toList ++ d.overwritten
        pendingReadReportEvent := some event
        handed := event :: d.handed }
  | calls (event : EventId) (readyForRead : Bool) :
      d.eventProc = .dispatch event readyForRead → (readyForRead && d.throttled) = false →
      EventMove d o
        { (if readyForRead then d.giveToClient event else d).call with eventProc := .inCallback }
  | signals : d.eventProc = .setEvent →
      EventMove d o { d with eventProc := .createEvent, readReportReadyEvent := true }

theorem SdkDevice.eventStep_cases {d d' : SdkDevice} {o : PollOutcome}
    (h : d.eventStep o = some d') : EventMove d o d' := by
  cases hp : d.eventProc <;> simp only [eventStep, hp] at h
  case notCreated | exited => cases h
  case acquireShared =>
    obtain ⟨l, _, rfl⟩ := Option.map_eq_some_iff.mp h
    exact .goes l _ (hp ▸ .acquired)
  case acquireExclusive =>
    obtain ⟨l, _, rfl⟩ := Option.map_eq_some_iff.mp h
    exact .goes l _ (hp ▸ .resizing)
  case reacquireShared =>
    obtain ⟨l, _, rfl⟩ := Option.map_eq_some_iff.mp h
    exact .goes l _ (hp ▸ .again)
  case createEvent =>
    split at h <;> cases h
    · exact .goes d.lock _ (hp ▸ .noEvent)
    · exact .goes d.lock _ (hp ▸ .created)
  case heapAlloc =>
    split at h <;> cases h
    · exact .goes d.lock _ (hp ▸ .outOfMemory)
    · exact .goes d.lock _ (hp ▸ .allocated)
  case checkState =>
    split at h <;> cases h
    next hs => exact .goes d.lock _ (hp ▸ .badState hs)
    next hs => exact .goes d.lock _ (hp ▸ .issued (not_not.mp hs))
  case releaseIssued =>
    cases h
    exact .goes _ _ (hp ▸ .released)
  case releaseFailed =>
    cases h
    exact .goes _ _ (hp ▸ .failed)
  case getResult =>
    split at h <;> cases h
    · exact .receives _ hp rfl
    · exact .goes d.lock _ (hp ▸ .tooSmall)
    · exact .goes d.lock _ (hp ▸ .ioFailed)
  case releaseExclusive =>
    cases h
    exact .goes _ _ (hp ▸ .resized)
  case heapReAlloc =>
    split at h <;> cases h
    · exact .goes d.lock _ (hp ▸ .notReallocated)
    · exact .goes d.lock _ (hp ▸ .reallocated)
  case dispatch event readyForRead =>
    split at h <;> cases h
    next hr =>
      obtain ⟨rfl, ht⟩ := Bool.and_eq_true_iff.mp hr
      exact .hands event hp ht
    next hr => exact .calls event readyForRead hp (by simpa using hr)
  case setEvent =>
    cases h
    exact .signals hp
  case inCallback =>
    cases h
    exact .goes d.lock _ (hp ▸ .returned)

/-- Where the read thread can go on without touching the ready event or the pending event. -/
inductive ReadProc.Next (s : DeviceState) : ReadProc → ReadProc → Prop
  | acquired : Next s .acquireShared .checkState
  | started : s = .started → Next s .checkState .releaseStarted
  | notStarted : s ≠ .started → Next s .checkState .releaseLast
  | released : Next s .releaseStarted .waitReady
  | reacquired : Next s .reacquireShared .recheckState
  | stopped : s ≠ .started → Next s .recheckState .releaseLast
  | goesOn : s = .started → Next s .recheckState .exchange
  | taken (event : EventId) : Next s (.releaseTaken event) (.invoke event)
  | returned : Next s .inCallback .setTimer
  | armed : Next s .setTimer .waitTimer
  | expired : Next s .waitTimer .acquireShared
  | ended : Next s .releaseLast .exited

inductive ReadMove (d : SdkDevice) : SdkDevice → Prop
  | goes (l : SrwLock) (timer : Bool) (q : ReadProc) : ReadProc.Next d.state d.readProc q →
      ReadMove d { d with lock := l, throttlingTimer := timer, readProc := q }
  | wakes : d.readProc = .waitReady → d.readReportReadyEvent →
      ReadMove d { d with readReportReadyEvent := false, readProc := .reacquireShared }
  | findsNothing : d.readProc = .exchange → d.pendingReadReportEvent = none →
      ReadMove d { d.tookNothing with readProc := .checkState }
  | takes (event : EventId) : d.readProc = .exchange → d.pendingReadReportEvent = some event →
      ReadMove d { d with pendingReadReportEvent := none, readProc := .releaseTaken event }
  | invokes (event : EventId) : d.readProc = .invoke event →
      ReadMove d { (d.giveToClient event).call with
        consumed := event :: d.consumed
        readProc := .inCallback }

theorem SdkDevice.readStep_cases {d d' : SdkDevice} (h : d.readStep = some d') :
    ReadMove d d' := by
  cases hp : d.readProc <;> simp only [readStep, hp] at h
  case notCreated | exited => cases h
  case acquireShared =>
    obtain ⟨l, _, rfl⟩ := Option.map_eq_some_iff.mp h
    exact .goes l d.throttlingTimer _ (hp ▸ .acquired)
  case reacquireShared =>
    obtain ⟨l, _, rfl⟩ := Option.map_eq_some_iff.mp h
    exact .goes l d.throttlingTimer _ (hp ▸ .reacquired)
  case checkState =>
    split at h <;> cases h
    next hs => exact .goes d.lock d.throttlingTimer _ (hp ▸ .started hs)
    next hs => exact .goes d.lock d.throttlingTimer _ (hp ▸ .notStarted hs)
  case releaseStarted =>
    cases h
    exact .goes _ d.throttlingTimer _ (hp ▸ .released)
  case waitReady =>
    split at h <;> cases h
    next hr => exact .wakes hp hr
  case recheckState =>
    split at h <;> cases h
    next hs => exact .goes d.lock d.throttlingTimer _ (hp ▸ .stopped hs)
    next hs => exact .goes d.lock d.throttlingTimer _ (hp ▸ .goesOn (not_not.mp hs))
  case exchange =>
    split at h <;> cases h
    next hn => exact .findsNothing hp hn
    next event he => exact .takes event hp he
  case releaseTaken event =>
    cases h
    exact .goes _ d.throttlingTimer _ (hp ▸ .taken event)
  case invoke event =>
    cases h
    exact .invokes event hp
  case inCallback =>
    cases h
    exact .goes d.lock d.throttlingTimer _ (hp ▸ .returned)
  case setTimer =>
    cases h
    exact .goes d.lock _ _ (hp ▸ .armed)
  case waitTimer =>
    split at h <;> cases h
    exact .goes d.lock d.throttlingTimer _ (hp ▸ .expired)
  case releaseLast =>
    cases h
    exact .goes _ d.throttlingTimer _ (hp ▸ .ended)

/-- Where the start can go on without touching a thread or the state. -/
inductive StartNext (d : SdkDevice) : StartProc → StartProc → Prop
  | called : StartNext d .idle .acquireExclusive
  | acquired : StartNext d .acquireExclusive .checkState
  | badState : d.state ≠ .created → StartNext d .checkState .releaseBadState
  | withEvents : StartNext d .checkState .createEventThread
  | withReads : StartNext d .checkState .createReadThread
  | noThreads : StartNext d .checkState .startIoctl
  | noEventThread : StartNext d .createEventThread .releaseFailed
  | noReadThread : StartNext d .createReadThread .releaseFailed
  | refused : StartNext d .startIoctl .releaseFailed
  | accepted : StartNext d .startIoctl .setStarted
  | succeeded : StartNext d .releaseStarted (.returned true)
  | rejected : StartNext d .releaseBadState (.returned false)
  | unwindEvent : d.eventThread → StartNext d .releaseFailed .waitEventThread
  | unwindRead : d.eventThread = false → d.readThread →
      StartNext d .releaseFailed .waitReadThread
  | unwound : d.eventThread = false → d.readThread = false →
      StartNext d .releaseFailed (.returned false)
  | eventExited : d.eventProc = .exited → StartNext d .waitEventThread .closeEventThread
  | readExited : d.readProc = .exited → StartNext d .waitReadThread .closeReadThread

inductive StartMove (d : SdkDevice) : SdkDevice → Prop
  | goes (l : SrwLock) (q : StartProc) : StartNext d d.startProc q →
      StartMove d { d with lock := l, startProc := q }
  | createsEventThread : d.startProc = .createEventThread →
      StartMove d { d with
        eventThread := true
        eventProc := .createEvent
        startProc := if d.throttled then .createReadThread else .startIoctl }
  | createsReadThread : d.startProc = .createReadThread →
      StartMove d { d with
        readThread := true
        readProc := .acquireShared
        startProc := .startIoctl }
  | starts : d.startProc = .setStarted →
      StartMove d { d with state := .started, startProc := .releaseStarted }
  | closesEventThread : d.startProc = .closeEventThread →
      StartMove d { d with
        eventThread := false
        startProc := if d.readThread then .waitReadThread else .returned false }
  | closesReadThread : d.startProc = .closeReadThread →
      StartMove d { d with readThread := false, startProc := .returned false }

theorem SdkDevice.startStep_cases {d d' : SdkDevice} {ok : Bool}
    (h : d.startStep ok = some d') : StartMove d d' := by
  cases hp : d.startProc <;> simp only [startStep, hp] at h
  case idle =>
    cases h
    exact .goes d.lock _ (hp ▸ .called)
  case acquireExclusive =>
    obtain ⟨l, _, rfl⟩ := Option.map_eq_some_iff.mp h
    exact .goes l _ (hp ▸ .acquired)
  case checkState =>
    split at h
    next hs =>
      cases h
      exact .goes d.lock _ (hp ▸ .badState hs)
    next =>
      split at h
      · cases h
        exact .goes d.lock _ (hp ▸ .withEvents)
      · split at h <;> cases h
        · exact .goes d.lock _ (hp ▸ .withReads)
        · exact .goes d.lock _ (hp ▸ .noThreads)
  case createEventThread =>
    split at h <;> cases h
    · exact .goes d.lock _ (hp ▸ .noEventThread)
    · exact .createsEventThread hp
  case createReadThread =>
    split at h <;> cases h
    · exact .goes d.lock _ (hp ▸ .noReadThread)
    · exact .createsReadThread hp
  case startIoctl =>
    split at h <;> cases h
    · exact .goes d.lock _ (hp ▸ .refused)
    · exact .goes d.lock _ (hp ▸ .accepted)
  case setStarted =>
    cases h
    exact .starts hp
  case releaseStarted =>
    cases h
    exact .goes _ _ (hp ▸ .succeeded)
  case releaseBadState =>
    cases h
    exact .goes _ _ (hp ▸ .rejected)
  case releaseFailed =>
    cases h
    refine .goes _ _ (hp ▸ ?_)
    split
    next he => exact .unwindEvent he
    next he =>
      split
      next hr => exact .unwindRead (by simpa using he) hr
      next hr => exact .unwound (by simpa using he) (by simpa using hr)
  case waitEventThread =>
    split at h <;> cases h
    next he => exact .goes d.lock _ (hp ▸ .eventExited he)
  case closeEventThread =>
    cases h
    exact .closesEventThread hp
  case waitReadThread =>
    split at h <;> cases h
    next he => exact .goes d.lock _ (hp ▸ .readExited he)
  case closeReadThread =>
    cases h
    exact .closesReadThread hp
  case returned => cases h

/-- Where the stop can go on without touching a thread, the state or a signal. -/
inductive StopNext (d : SdkDevice) : StopProc → StopProc → Prop
  | called (result : Bool) : d.startProc = .returned result → StopNext d .idle .acquireExclusive
  | acquired : StopNext d .acquireExclusive .checkState
  | notStarted : d.state ≠ .started → StopNext d .checkState .releaseLast
  | hasEventThread : d.eventThread → StopNext d .cancelIo .releaseForEvent
  | noEventThread : d.eventThread = false → StopNext d .cancelIo d.stopAfterEvent
  | waitsForEvent : StopNext d .releaseForEvent .waitEventThread
  | eventExited : d.eventProc = .exited → StopNext d .waitEventThread .reacquireForEvent
  | eventReacquired : StopNext d .reacquireForEvent .closeEventThread
  | waitsForRead : StopNext d .releaseForRead .setReady
  | readExited : d.readProc = .exited → StopNext d .waitReadThread .reacquireForRead
  | readReacquired : StopNext d .reacquireForRead .closeReadThread
  | finished : StopNext d .releaseLast .returned

inductive StopMove (d : SdkDevice) : SdkDevice → Prop
  | goes (l : SrwLock) (q : StopProc) : StopNext d d.stopProc q →
      StopMove d { d with lock := l, stopProc := q }
  | stops : d.stopProc = .checkState → d.state = .started →
      StopMove d { d with state := .stopped, stopProc := .cancelIo }
  | closesEventThread : d.stopProc = .closeEventThread →
      StopMove d { d with eventThread := false, stopProc := d.stopAfterEvent }
  | setsReady : d.stopProc = .setReady →
      StopMove d { d with readReportReadyEvent := true, stopProc := .setTimer }
  | setsTimer : d.stopProc = .setTimer →
      StopMove d { d with throttlingTimer := true, stopProc := .waitReadThread }
  | closesReadThread : d.stopProc = .closeReadThread →
      StopMove d { d with readThread := false, stopProc := .releaseLast }

theorem SdkDevice.stopStep_cases {d d' : SdkDevice} (h : d.stopStep = some d') :
    StopMove d d' := by
  cases hp : d.stopProc <;> simp only [stopStep, hp] at h
  case idle =>
    split at h <;> cases h
    next result hs => exact .goes d.lock _ (hp ▸ .called result hs)
  case acquireExclusive =>
    obtain ⟨l, _, rfl⟩ := Option.map_eq_some_iff.mp h
    exact .goes l _ (hp ▸ .acquired)
  case checkState =>
    split at h <;> cases h
    next hs => exact .stops hp hs
    next hs => exact .goes d.lock _ (hp ▸ .notStarted hs)
  case cancelIo =>
    cases h
    refine .goes d.lock _ (hp ▸ ?_)
    split
    next he => exact .hasEventThread he
    next he => exact .noEventThread (by simpa using he)
  case releaseForEvent =>
    cases h
    exact .goes _ _ (hp ▸ .waitsForEvent)
  case waitEventThread =>
    split at h <;> cases h
    next he => exact .goes d.lock _ (hp ▸ .eventExited he)
  case reacquireForEvent =>
    obtain ⟨l, _, rfl⟩ := Option.map_eq_some_iff.mp h
    exact .goes l _ (hp ▸ .eventReacquired)
  case closeEventThread =>
    cases h
    exact .closesEventThread hp
  case releaseForRead =>
    cases h
    exact .goes _ _ (hp ▸ .waitsForRead)
  case setReady =>
    cases h
    exact .setsReady hp
  case setTimer =>
    cases h
    exact .setsTimer hp
  case waitReadThread =>
    split at h <;> cases h
    next he => exact .goes d.lock _ (hp ▸ .readExited he)
  case reacquireForRead =>
    obtain ⟨l, _, rfl⟩ := Option.map_eq_some_iff.mp h
    exact .goes l _ (hp ▸ .readReacquired)
  case closeReadThread =>
    cases h
    exact .closesReadThread hp
  case releaseLast =>
    cases h
    exact .goes _ _ (hp ▸ .finished)
  case returned => cases h

theorem StopMove.not_returned {d d' : SdkDevice} (h : StopMove d d') : d.stopProc ≠ .returned := by
  intro hr
  cases h with
  | goes l q hn =>
    rw [hr] at hn
    cases hn
  | stops hp | closesEventThread hp | setsReady hp | setsTimer hp | closesReadThread hp =>
    simp [hr] at hp

inductive SubmitMove (d : SdkDevice) : SubmitProc → SdkDevice → List SubmitProc → Prop
  | notReady : (d.throttled && d.readReportReadyEvent) = false → SubmitMove d .waitReady d []
  | wakes : d.throttled → d.readReportReadyEvent →
      SubmitMove d .waitReady { d with readReportReadyEvent := false } [.exchange]
  | findsNothing : d.pendingReadReportEvent = none → SubmitMove d .exchange d.tookNothing []
  | takes (event : EventId) : d.pendingReadReportEvent = some event →
      SubmitMove d .exchange { d with pendingReadReportEvent := none } [.complete event]
  | completes (event : EventId) :
      SubmitMove d (.complete event) { d.answered event with consumed := event :: d.consumed }
        [.setTimer]
  | armsTimer : SubmitMove d .setTimer { d with throttlingTimer := false } []

theorem SubmitProc.body_cases (d : SdkDevice) (t : SubmitProc) :
    SubmitMove d t (t.body d).1 (t.body d).2 := by
  cases t with
  | waitReady =>
    cases hr : d.throttled && d.readReportReadyEvent with
    | false =>
      simp only [body, hr, Bool.false_eq_true, if_false]
      exact .notReady hr
    | true =>
      simp only [body, hr, if_true]
      obtain ⟨ht, hr⟩ := Bool.and_eq_true_iff.mp hr
      exact .wakes ht hr
  | exchange =>
    cases he : d.pendingReadReportEvent with
    | none =>
      simp only [body, he]
      exact .findsNothing he
    | some event =>
      simp only [body, he]
      exact .takes event he
  | complete event => exact .completes event
  | setTimer => exact .armsTimer

@[simp] theorem SdkDevice.destroy_stopProc (d : SdkDevice) : d.destroy.stopProc = d.stopProc := by
  unfold destroy
  split <;> rfl

@[simp] theorem SdkDevice.destroy_pendingReadReportEvent (d : SdkDevice) :
    d.destroy.pendingReadReportEvent = none := by
  unfold destroy
  split
  next h => exact h
  next => rfl

/-- What a step of the device with its submissions can be. -/
inductive SdkMove (p : SdkPool) : SdkAction → SdkPool → Prop
  | start (ok : Bool) (d : SdkDevice) : StartMove p.shared d →
      SdkMove p (.start ok) { p with shared := d }
  | event (o : PollOutcome) (d : SdkDevice) : EventMove p.shared o d →
      SdkMove p (.event o) { p with shared := d }
  | read (d : SdkDevice) : ReadMove p.shared d → SdkMove p .read { p with shared := d }
  | stop (d : SdkDevice) : StopMove p.shared d → SdkMove p .stop { p with shared := d }
  | destroy : p.shared.stopProc = .returned → p.threads = [] → p.shared.destroyed = false →
      SdkMove p .destroy { p with shared := p.shared.destroy }
  | submit : p.shared.destroyed = false → SdkMove p .submit (p.spawn p.shared .waitReady)
  | submitter (i : Nat) (l r ts : List SubmitProc) (t : SubmitProc) (d : SdkDevice) :
      p.threads = l ++ t :: r → p.threads[i]? = some t → SubmitMove p.shared t d ts →
      SdkMove p (.submitter i) ⟨d, l ++ ts ++ r⟩
  | timerExpires :
      SdkMove p .timerExpires { p with shared := { p.shared with throttlingTimer := true } }
  | answer (event : EventId) : event ∈ p.shared.withClient →
      SdkMove p (.answer event)
        { p with shared := { p.shared.answered event with
          withClient := p.shared.withClient.erase event } }

theorem SdkPool.update_eq {p p' : SdkPool} {d : Option SdkDevice} (h : p.update d = some p') :
    ∃ d', d = some d' ∧ p' = { p with shared := d' } := by
  obtain ⟨d', hd, rfl⟩ := Option.map_eq_some_iff.mp h
  exact ⟨d', hd, rfl⟩

theorem sdkStep_cases {p p' : SdkPool} {a : SdkAction} (h : sdkStep p a = some p') :
    SdkMove p a p' := by
  cases a with
  | start ok =>
    obtain ⟨d, hd, rfl⟩ := SdkPool.update_eq h
    exact .start ok d (SdkDevice.startStep_cases hd)
  | event o =>
    obtain ⟨d, hd, rfl⟩ := SdkPool.update_eq h
    exact .event o d (SdkDevice.eventStep_cases hd)
  | read =>
    obtain ⟨d, hd, rfl⟩ := SdkPool.update_eq h
    exact .read d (SdkDevice.readStep_cases hd)
  | stop =>
    obtain ⟨d, hd, rfl⟩ := SdkPool.update_eq h
    exact .stop d (SdkDevice.stopStep_cases hd)
  | destroy =>
    simp only [sdkStep] at h
    split at h
    next hc =>
      obtain ⟨d, hd, rfl⟩ := SdkPool.update_eq h
      cases hd
      simp only [Bool.and_eq_true, decide_eq_true_eq, List.isEmpty_iff, Bool.not_eq_true'] at hc
      exact .destroy hc.1.1 hc.1.2 hc.2
    next => cases h
  | submit =>
    simp only [sdkStep] at h
    split at h
    next => cases h
    next hd =>
      cases h
      exact .submit (by simpa using hd)
  | submitter i =>
    obtain ⟨l, t, r, hl, ht, hs, hr⟩ := Pool.run_cases h
    obtain ⟨s, ts⟩ := p'
    cases hs
    cases hr
    exact .submitter i l r _ t _ hl ht (t.body_cases p.shared)
  | timerExpires =>
    obtain ⟨d, hd, rfl⟩ := SdkPool.update_eq h
    cases hd
    exact .timerExpires
  | answer event =>
    obtain ⟨d, hd, rfl⟩ := SdkPool.update_eq h
    unfold SdkDevice.clientAnswers at hd
    split at hd
    next he =>
      cases hd
      exact .answer event he
    next => cases hd

/-- A device that was just created, with no submission in progress. -/
def SdkPool.Fresh (p : SdkPool) : Prop :=
  ∃ eventCallback throttled, p = ⟨.fresh eventCallback throttled, []⟩

theorem exists_guardedSdkReach (guard : SdkPool → SdkAction → Prop)
    [∀ p a, Decidable (guard p a)] {P : SdkPool → Prop} [DecidablePred P] (throttled : Bool)
    (actions : List SdkAction)
    (h : (Runs.exec (Runs.guarded sdkStep guard) ⟨.fresh true throttled, []⟩ actions).any
      (fun p => decide (P p)) = true) :
    ∃ p, Runs.Reach sdkStep guard SdkPool.Fresh p ∧ P p := by
  have hreach : ∃ p, Runs.Reach (Runs.guarded sdkStep guard) Runs.anyStep SdkPool.Fresh p ∧ P p :=
    Runs.exists_reach_of_exec ⟨true, throttled, rfl⟩ h
  obtain ⟨p, hr, hp⟩ := hreach
  exact ⟨p, hr.of_guarded, hp⟩

theorem exists_sdkReach {P : SdkPool → Prop} [DecidablePred P] (throttled : Bool)
    (actions : List SdkAction)
    (h : (Runs.exec sdkStep ⟨.fresh true throttled, []⟩ actions).any (fun p => decide (P p)) =
      true) :
    ∃ p, Runs.Reach sdkStep Runs.anyStep SdkPool.Fresh p ∧ P p :=
  Runs.exists_reach_of_exec ⟨true, throttled, rfl⟩ h

end WinUHid
