import WinUHid.SdkSteps

namespace WinUHid

def EventProc.gone : EventProc → Bool
  | .notCreated | .exited => true
  | _ => false

/-- The event thread has seen the device started in this call. -/
def EventProc.polled : EventProc → Bool
  | .releaseIssued | .getResult | .acquireExclusive | .releaseExclusive | .heapReAlloc
  | .reacquireShared | .dispatch .. | .setEvent | .inCallback => true
  | _ => false

def ReadProc.gone : ReadProc → Bool
  | .notCreated | .exited => true
  | _ => false

/-- The read thread has seen the device started in this turn. -/
def ReadProc.passed : ReadProc → Bool
  | .releaseStarted | .waitReady | .reacquireShared | .recheckState | .exchange
  | .releaseTaken _ | .invoke _ | .inCallback | .setTimer | .waitTimer => true
  | _ => false

/-- The stop has not read the state yet. -/
def StopProc.begins : StopProc → Bool
  | .idle | .acquireExclusive | .checkState => true
  | _ => false

/-- The stop has found the device started. -/
def StopProc.cancels : StopProc → Bool
  | .cancelIo | .releaseForEvent | .waitEventThread | .reacquireForEvent | .closeEventThread
  | .releaseForRead | .setReady | .setTimer | .waitReadThread | .reacquireForRead
  | .closeReadThread => true
  | _ => false

def StopProc.stopsRead : StopProc → Bool
  | .releaseForRead | .setReady | .setTimer | .waitReadThread | .reacquireForRead
  | .closeReadThread => true
  | _ => false

/-- How far the start and the stop are, against the state, the threads and the callbacks. -/
structure Lifetime (d : SdkDevice) : Prop where
  polled : d.eventProc.polled → d.state ≠ .created
  passed : d.readProc.passed → d.state ≠ .created
  started : d.state ≠ .created ↔ d.startProc = .releaseStarted ∨ d.startProc = .returned true
  badState : d.startProc ≠ .releaseBadState
  stopCalled : d.stopProc ≠ .idle → ∃ result, d.startProc = .returned result
  begins : d.stopProc.begins → d.state ≠ .stopped
  cancels : d.stopProc.cancels → d.state = .stopped
  eventGone : d.eventThread = false → d.eventProc.gone
  readGone : d.readThread = false → d.readProc.gone
  closesEvent : d.startProc = .closeEventThread ∨ d.stopProc = .reacquireForEvent ∨
    d.stopProc = .closeEventThread → d.eventProc = .exited
  closesRead : d.startProc = .closeReadThread ∨ d.stopProc = .reacquireForRead ∨
    d.stopProc = .closeReadThread → d.readProc = .exited
  unwindsRead : d.startProc = .waitReadThread ∨ d.startProc = .closeReadThread →
    d.eventThread = false
  failed : d.startProc = .returned false → d.eventThread = false ∧ d.readThread = false
  stopsRead : d.stopProc.stopsRead → d.eventThread = false
  finished : d.stopProc = .releaseLast ∨ d.stopProc = .returned →
    d.state = .created ∨ d.eventThread = false ∧ d.readThread = false
  calls : ∀ c ∈ d.calls, c.state ≠ .created ∧ c.stopReturned = false
  silent : d.state = .created → d.calls = []

theorem lifetime_fresh (eventCallback throttled : Bool) :
    Lifetime (SdkDevice.fresh eventCallback throttled) := by
  constructor <;> simp [SdkDevice.fresh, EventProc.polled, ReadProc.passed, StopProc.cancels,
    EventProc.gone, ReadProc.gone, StopProc.stopsRead]

theorem EventProc.Next.polled {s : DeviceState} {q q' : EventProc} (h : EventProc.Next s q q')
    (hq : q'.polled) : q.polled ∨ s = .started := by
  cases h <;> simp_all [EventProc.polled]

theorem EventProc.Next.not_gone {s : DeviceState} {q q' : EventProc}
    (h : EventProc.Next s q q') : ¬q.gone := by
  cases h <;> simp [gone]

theorem ReadProc.Next.passed {s : DeviceState} {q q' : ReadProc} (h : ReadProc.Next s q q')
    (hq : q'.passed) : q.passed ∨ s = .started := by
  cases h <;> simp_all [ReadProc.passed]

theorem ReadProc.Next.not_gone {s : DeviceState} {q q' : ReadProc}
    (h : ReadProc.Next s q q') : ¬q.gone := by
  cases h <;> simp [gone]

namespace StartNext

variable {d : SdkDevice} {q q' : StartProc}

theorem ne_returned (h : StartNext d q q') (result : Bool) : q ≠ .returned result := by
  cases h <;> simp

theorem started (h : StartNext d q q') :
    q' = .releaseStarted ∨ q' = .returned true ↔ q = .releaseStarted ∨ q = .returned true := by
  cases h <;> simp

theorem rejects (h : StartNext d q q') (hq : q' = .releaseBadState) :
    q = .checkState ∧ d.state ≠ .created := by
  cases h <;> simp_all

theorem closesEvent (h : StartNext d q q') (hq : q' = .closeEventThread) :
    d.eventProc = .exited := by
  cases h <;> simp_all

theorem closesRead (h : StartNext d q q') (hq : q' = .closeReadThread) : d.readProc = .exited := by
  cases h <;> simp_all

theorem unwindsRead (h : StartNext d q q') (hq : q' = .waitReadThread ∨ q' = .closeReadThread) :
    q = .waitReadThread ∨ d.eventThread = false := by
  cases h <;> simp_all

theorem failed (h : StartNext d q q') (hq : q' = .returned false) :
    q = .releaseBadState ∨ d.eventThread = false ∧ d.readThread = false := by
  cases h <;> simp_all

end StartNext

theorem SdkDevice.stopAfterEvent_cases (d : SdkDevice) :
    d.stopAfterEvent = .releaseForRead ∨
      d.readThread = false ∧ d.stopAfterEvent = .releaseLast := by
  unfold stopAfterEvent
  split <;> simp_all

namespace StopNext

variable {d : SdkDevice} {q q' : StopProc}

theorem begins (h : StopNext d q q') (hq : q'.begins) : q.begins := by
  cases h with
  | noEventThread =>
    rcases d.stopAfterEvent_cases with ha | ⟨_, ha⟩ <;> simp [ha, StopProc.begins] at hq
  | _ => simp_all [StopProc.begins]

theorem cancels (h : StopNext d q q') (hq : q'.cancels) : q.cancels := by
  cases h with
  | noEventThread => rfl
  | _ => simp_all [StopProc.cancels]

theorem closesEvent (h : StopNext d q q') (hq : q' = .reacquireForEvent ∨ q' = .closeEventThread) :
    q = .reacquireForEvent ∨ d.eventProc = .exited := by
  cases h with
  | noEventThread => rcases d.stopAfterEvent_cases with ha | ⟨_, ha⟩ <;> simp [ha] at hq
  | _ => simp_all

theorem closesRead (h : StopNext d q q') (hq : q' = .reacquireForRead ∨ q' = .closeReadThread) :
    q = .reacquireForRead ∨ d.readProc = .exited := by
  cases h with
  | noEventThread => rcases d.stopAfterEvent_cases with ha | ⟨_, ha⟩ <;> simp [ha] at hq
  | _ => simp_all

theorem stopsRead (h : StopNext d q q') (hq : q'.stopsRead) :
    q.stopsRead ∨ d.eventThread = false := by
  cases h with
  | noEventThread he => exact .inr he
  | _ => simp_all [StopProc.stopsRead]

theorem ends (h : StopNext d q q') (hq : q' = .releaseLast ∨ q' = .returned) :
    q = .releaseLast ∨ q.begins ∧ d.state ≠ .started ∨
      d.eventThread = false ∧ d.readThread = false := by
  cases h with
  | noEventThread he =>
    rcases d.stopAfterEvent_cases with ha | ⟨hr, _⟩
    · simp [ha] at hq
    · exact .inr (.inr ⟨he, hr⟩)
  | notStarted hs => exact .inr (.inl ⟨rfl, hs⟩)
  | _ => simp_all

theorem startReturned (h : StopNext d q q') :
    q ≠ .idle ∨ ∃ result, d.startProc = .returned result := by
  cases h with
  | called result hr => exact .inr ⟨result, hr⟩
  | _ => simp

end StopNext

namespace Lifetime

variable {d d' : SdkDevice}

theorem not_returned (hl : Lifetime d) (hs : d.state ≠ .created)
    (hp : ¬d.eventProc.gone ∨ ¬d.readProc.gone) : d.stopProc ≠ .returned := by
  intro hr
  rcases hl.finished (.inr hr) with hc | ⟨he, hd⟩
  · exact hs hc
  · rcases hp with hp | hp
    · exact hp (hl.eventGone he)
    · exact hp (hl.readGone hd)

theorem calls_call (hl : Lifetime d) (hs : d.state ≠ .created) (hr : d.stopProc ≠ .returned) :
    ∀ c ∈ d.call.calls, c.state ≠ .created ∧ c.stopReturned = false := by
  intro c hc
  rcases List.mem_append.mp hc with hc | hc
  · exact hl.calls c hc
  · cases List.mem_singleton.mp hc
    exact ⟨hs, by simpa using hr⟩

theorem goesEvent (hl : Lifetime d) {q : EventProc} (present : ¬d.eventProc.gone)
    (polled : q.polled → d.state ≠ .created) : Lifetime { d with eventProc := q } := by
  refine { hl with polled := polled, eventGone := ?_, closesEvent := ?_ }
  · intro ht
    exact absurd (hl.eventGone ht) present
  · intro hc
    exact absurd (by rw [hl.closesEvent hc]; rfl) present

theorem goesRead (hl : Lifetime d) {q : ReadProc} (present : ¬d.readProc.gone)
    (passed : q.passed → d.state ≠ .created) : Lifetime { d with readProc := q } := by
  refine { hl with passed := passed, readGone := ?_, closesRead := ?_ }
  · intro ht
    exact absurd (hl.readGone ht) present
  · intro hc
    exact absurd (by rw [hl.closesRead hc]; rfl) present

theorem event {o : PollOutcome} (hl : Lifetime d) (h : EventMove d o d') : Lifetime d' := by
  cases h with
  | goes l q hn =>
    refine { hl.goesEvent (q := q) hn.not_gone ?_ with }
    intro hq
    rcases hn.polled hq with hq | hs
    · exact hl.polled hq
    · simp [hs]
  | receives r hp _ =>
    have hs : d.state ≠ .created := hl.polled (by rw [hp]; rfl)
    exact { hl.goesEvent (q := .dispatch d.nextEvent r) (by simp [hp, EventProc.gone]) (fun _ => hs)
      with }
  | hands e hp _ =>
    have hs : d.state ≠ .created := hl.polled (by rw [hp]; rfl)
    exact { hl.goesEvent (q := .setEvent) (by simp [hp, EventProc.gone]) (fun _ => hs) with }
  | calls e r hp _ =>
    have hs : d.state ≠ .created := hl.polled (by rw [hp]; rfl)
    have present : ¬d.eventProc.gone := by simp [hp, EventProc.gone]
    have hcalls := hl.calls_call hs (hl.not_returned hs (.inl present))
    have hl' := hl.goesEvent (q := .inCallback) present (fun _ => hs)
    cases r with
    | false => exact { hl' with calls := hcalls, silent := fun hc => absurd hc hs }
    | true => exact { hl' with calls := hcalls, silent := fun hc => absurd hc hs }
  | signals hp =>
    exact { hl.goesEvent (q := .createEvent) (by simp [hp, EventProc.gone]) (fun hq => by cases hq)
      with }

theorem read (hl : Lifetime d) (h : ReadMove d d') : Lifetime d' := by
  cases h with
  | goes l timer q hn =>
    refine { hl.goesRead (q := q) hn.not_gone ?_ with }
    intro hq
    rcases hn.passed hq with hq | hs
    · exact hl.passed hq
    · simp [hs]
  | wakes hp _ =>
    have hs : d.state ≠ .created := hl.passed (by rw [hp]; rfl)
    exact { hl.goesRead (q := .reacquireShared) (by simp [hp, ReadProc.gone]) (fun _ => hs) with }
  | findsNothing hp _ =>
    exact { hl.goesRead (q := .checkState) (by simp [hp, ReadProc.gone]) (fun hq => by cases hq)
      with }
  | takes e hp _ =>
    have hs : d.state ≠ .created := hl.passed (by rw [hp]; rfl)
    exact { hl.goesRead (q := .releaseTaken e) (by simp [hp, ReadProc.gone]) (fun _ => hs) with }
  | invokes e hp =>
    have hs : d.state ≠ .created := hl.passed (by rw [hp]; rfl)
    have present : ¬d.readProc.gone := by simp [hp, ReadProc.gone]
    have hcalls := hl.calls_call hs (hl.not_returned hs (.inr present))
    exact { hl.goesRead (q := .inCallback) present (fun _ => hs) with
      calls := hcalls
      silent := fun hc => absurd hc hs }

theorem starting (hl : Lifetime d) (hn : ∀ result, d.startProc ≠ .returned result)
    (hs : d.startProc ≠ .releaseStarted) : d.state = .created ∧ d.stopProc = .idle := by
  constructor
  · by_contra hc
    rcases hl.started.mp hc with h | h
    · exact hs h
    · exact hn true h
  · by_contra hi
    obtain ⟨result, hr⟩ := hl.stopCalled hi
    exact hn result hr

theorem goesStart (hl : Lifetime d) {q : StartProc} (hn : StartNext d d.startProc q) :
    Lifetime { d with startProc := q } := by
  have idle : d.stopProc = .idle := by
    by_contra hi
    obtain ⟨result, hr⟩ := hl.stopCalled hi
    exact hn.ne_returned result hr
  refine { hl with
    started := hl.started.trans hn.started.symm
    badState := ?_
    stopCalled := fun hi => absurd idle hi
    closesEvent := ?_, closesRead := ?_, unwindsRead := ?_, failed := ?_ }
  · intro hq
    obtain ⟨hp, hs⟩ := hn.rejects hq
    simpa [hp] using hl.started.mp hs
  · rintro (hq | hs)
    · exact hn.closesEvent hq
    · exact hl.closesEvent (.inr hs)
  · rintro (hq | hs)
    · exact hn.closesRead hq
    · exact hl.closesRead (.inr hs)
  · intro hq
    exact (hn.unwindsRead hq).elim (fun hp => hl.unwindsRead (.inl hp)) id
  · intro hq
    exact (hn.failed hq).elim (fun hp => absurd hp hl.badState) id

theorem start (hl : Lifetime d) (h : StartMove d d') : Lifetime d' := by
  cases h with
  | goes l q hn => exact { hl.goesStart hn with }
  | createsEventThread hp =>
    obtain ⟨created, idle⟩ := hl.starting (by simp [hp]) (by simp [hp])
    refine { hl with
      polled := nofun
      started := ?_
      badState := ?_
      stopCalled := fun hn => absurd idle hn
      eventGone := nofun
      closesEvent := ?_, closesRead := ?_, unwindsRead := ?_, failed := ?_, stopsRead := ?_
      finished := fun _ => .inl created }
    all_goals grind [StopProc.stopsRead]
  | createsReadThread hp =>
    obtain ⟨created, idle⟩ := hl.starting (by simp [hp]) (by simp [hp])
    refine { hl with
      passed := nofun
      started := ?_
      badState := nofun
      stopCalled := fun hn => absurd idle hn
      readGone := nofun
      closesEvent := ?_, closesRead := ?_
      unwindsRead := nofun
      failed := nofun
      finished := fun _ => .inl created }
    all_goals grind
  | starts hp =>
    obtain ⟨_, idle⟩ := hl.starting (by simp [hp]) (by simp [hp])
    refine { hl with
      polled := nofun
      passed := nofun
      started := iff_of_true nofun (.inl rfl)
      badState := nofun
      stopCalled := fun hn => absurd idle hn
      begins := nofun
      cancels := ?_, closesEvent := ?_, closesRead := ?_
      unwindsRead := nofun
      failed := nofun
      finished := ?_
      silent := nofun }
    all_goals grind [StopProc.cancels]
  | closesEventThread hp =>
    obtain ⟨created, idle⟩ := hl.starting (by simp [hp]) (by simp [hp])
    have exited := hl.closesEvent (.inl hp)
    refine { hl with
      started := ?_
      badState := ?_
      stopCalled := fun hn => absurd idle hn
      eventGone := fun _ => by rw [exited]; rfl
      closesEvent := fun _ => exited
      closesRead := ?_
      unwindsRead := fun _ => rfl
      failed := ?_
      stopsRead := fun _ => rfl
      finished := fun _ => .inl created }
    all_goals grind
  | closesReadThread hp =>
    obtain ⟨created, idle⟩ := hl.starting (by simp [hp]) (by simp [hp])
    have exited := hl.closesRead (.inl hp)
    refine { hl with
      started := ?_
      badState := nofun
      stopCalled := fun hn => absurd idle hn
      readGone := fun _ => by rw [exited]; rfl
      closesEvent := ?_
      closesRead := fun _ => exited
      unwindsRead := nofun
      failed := fun _ => ⟨hl.unwindsRead (.inr hp), rfl⟩
      finished := fun _ => .inl created }
    all_goals grind

theorem created_of_begins (hl : Lifetime d) (begins : d.stopProc.begins)
    (hs : d.state ≠ .started) : d.state = .created := by
  have running := hl.begins begins
  cases h : d.state with
  | created => rfl
  | started => exact absurd h hs
  | stopped => exact absurd h running

theorem goesStop (hl : Lifetime d) {q : StopProc} (hn : StopNext d d.stopProc q) :
    Lifetime { d with stopProc := q } := by
  refine { hl with
    stopCalled := fun _ => hn.startReturned.elim hl.stopCalled id
    begins := fun hq => hl.begins (hn.begins hq)
    cancels := fun hq => hl.cancels (hn.cancels hq)
    closesEvent := ?_, closesRead := ?_
    stopsRead := fun hq => (hn.stopsRead hq).elim hl.stopsRead id
    finished := ?_ }
  · rintro (hs | hq)
    · exact hl.closesEvent (.inl hs)
    · exact (hn.closesEvent hq).elim (fun hp => hl.closesEvent (.inr (.inl hp))) id
  · rintro (hs | hq)
    · exact hl.closesRead (.inl hs)
    · exact (hn.closesRead hq).elim (fun hp => hl.closesRead (.inr (.inl hp))) id
  · intro hq
    rcases hn.ends hq with hp | ⟨begins, hs⟩ | closed
    · exact hl.finished (.inl hp)
    · exact .inl (hl.created_of_begins begins hs)
    · exact .inr closed

theorem signals (hl : Lifetime d) {q : StopProc}
    (hq : d.stopProc = .setReady ∧ q = .setTimer ∨ d.stopProc = .setTimer ∧ q = .waitReadThread) :
    Lifetime { d with stopProc := q } := by
  have stopsRead : d.stopProc.stopsRead := by rcases hq with ⟨hp, _⟩ | ⟨hp, _⟩ <;> rw [hp] <;> rfl
  have cancels : d.stopProc.cancels := by rcases hq with ⟨hp, _⟩ | ⟨hp, _⟩ <;> rw [hp] <;> rfl
  have closesEvent := hl.closesEvent
  have closesRead := hl.closesRead
  refine { hl with
    stopCalled := fun _ => hl.stopCalled (by rcases hq with ⟨hp, _⟩ | ⟨hp, _⟩ <;> simp [hp])
    begins := ?_
    cancels := fun _ => hl.cancels cancels
    closesEvent := ?_, closesRead := ?_
    stopsRead := fun _ => hl.stopsRead stopsRead
    finished := ?_ }
  all_goals grind [StopProc.begins]

theorem stop (hl : Lifetime d) (h : StopMove d d') : Lifetime d' := by
  have stopCalled := hl.stopCalled
  have closesEvent := hl.closesEvent
  have closesRead := hl.closesRead
  cases h with
  | goes l q hn => exact { hl.goesStop hn with }
  | stops hp hs =>
    have created : d.state ≠ .created := by simp [hs]
    refine { hl with
      polled := nofun
      passed := nofun
      started := iff_of_true nofun (hl.started.mp created)
      stopCalled := ?_
      begins := nofun
      cancels := fun _ => rfl
      closesEvent := ?_, closesRead := ?_
      stopsRead := nofun
      finished := nofun
      silent := nofun }
    all_goals grind
  | closesEventThread hp =>
    have stopped : d.state = .stopped := hl.cancels (by rw [hp]; rfl)
    have exited := hl.closesEvent (.inr (.inr hp))
    refine { hl with
      stopCalled := ?_, begins := ?_
      cancels := fun _ => stopped
      eventGone := fun _ => by rw [exited]; rfl
      closesEvent := fun _ => exited
      closesRead := ?_
      unwindsRead := fun _ => rfl
      failed := ?_
      stopsRead := fun _ => rfl
      finished := ?_ }
    all_goals grind [StopProc.begins, SdkDevice.stopAfterEvent, Lifetime]
  | setsReady hp => exact { hl.signals (.inl ⟨hp, rfl⟩) with }
  | setsTimer hp => exact { hl.signals (.inr ⟨hp, rfl⟩) with }
  | closesReadThread hp =>
    have exited := hl.closesRead (.inr (.inr hp))
    have eventClosed : d.eventThread = false := hl.stopsRead (by rw [hp]; rfl)
    refine { hl with
      stopCalled := ?_
      begins := nofun
      cancels := nofun
      readGone := fun _ => by rw [exited]; rfl
      closesEvent := ?_
      closesRead := fun _ => exited
      failed := fun _ => ⟨eventClosed, rfl⟩
      stopsRead := nofun
      finished := fun _ => .inr ⟨eventClosed, rfl⟩ }
    all_goals grind

theorem submitter {t : SubmitProc} {ts : List SubmitProc} (hl : Lifetime d)
    (h : SubmitMove d t d' ts) : Lifetime d' := by
  cases h with
  | notReady => exact hl
  | wakes | findsNothing | takes | completes | armsTimer => exact { hl with }

theorem started_of_begins (hl : Lifetime d) (begins : d.stopProc.begins)
    (hs : d.state ≠ .created) : d.state = .started := by
  have running := hl.begins begins
  cases h : d.state with
  | created => exact absurd h hs
  | started => rfl
  | stopped => exact absurd h running

/-- Once the stop has returned, no thread is left that could call the client. -/
theorem threadsGone (hl : Lifetime d) (hr : d.stopProc = .returned) :
    d.eventProc.gone ∧ d.readProc.gone := by
  obtain ⟨result, hs⟩ := hl.stopCalled (by simp [hr])
  have closed : d.eventThread = false ∧ d.readThread = false := by
    cases result with
    | false => exact hl.failed hs
    | true =>
      rcases hl.finished (.inr hr) with hc | closed
      · exact absurd hc (hl.started.mpr (.inr hs))
      · exact closed
  exact ⟨hl.eventGone closed.1, hl.readGone closed.2⟩

theorem destroy (hl : Lifetime d) : Lifetime d.destroy := by
  unfold SdkDevice.destroy
  split
  · exact { hl with }
  · exact { hl with }

end Lifetime

theorem lifetime_step {p p' : SdkPool} {a : SdkAction} (hl : Lifetime p.shared)
    (h : SdkMove p a p') : Lifetime p'.shared := by
  cases h with
  | start _ d h => exact hl.start h
  | event _ d h => exact hl.event h
  | read d h => exact hl.read h
  | stop d h => exact hl.stop h
  | destroy => exact hl.destroy
  | submit => exact hl
  | submitter _ _ _ _ _ _ _ _ h => exact hl.submitter h
  | timerExpires => exact { hl with }
  | answer => exact { hl with }

theorem lifetime_reach {guard : SdkPool → SdkAction → Prop} {p : SdkPool}
    (h : Runs.Reach sdkStep guard SdkPool.Fresh p) : Lifetime p.shared := by
  induction h with
  | start hf =>
    obtain ⟨eventCallback, throttled, rfl⟩ := hf
    exact lifetime_fresh eventCallback throttled
  | next _ _ hs ih => exact lifetime_step ih (sdkStep_cases hs)

/-- The client's callback runs between the start and the end of the stop only, and a start that
failed leaves nothing behind. -/
theorem callback_lifetime {p : SdkPool} (h : Runs.Reach sdkStep Runs.anyStep SdkPool.Fresh p) :
    (∀ c ∈ p.shared.calls, c.state ≠ .created ∧ c.stopReturned = false) ∧
      (p.shared.stopProc = .returned → p.shared.eventProc.gone ∧ p.shared.readProc.gone) ∧
      (p.shared.startProc = .returned false → p.shared.calls = [] ∧ p.shared.state = .created ∧
        p.shared.eventThread = false ∧ p.shared.readThread = false ∧
        p.shared.eventProc.gone ∧ p.shared.readProc.gone) := by
  have hl := lifetime_reach h
  refine ⟨hl.calls, hl.threadsGone, ?_⟩
  intro hf
  have created : p.shared.state = .created := by
    by_contra hs
    simpa [hf] using hl.started.mp hs
  obtain ⟨he, hr⟩ := hl.failed hf
  exact ⟨hl.silent created, created, he, hr, hl.eventGone he, hl.readGone hr⟩

def startActions : List SdkAction := List.replicate 8 (.start true)

/-- Both threads are created and the IOCTL fails. -/
def unwoundStart : List SdkAction :=
  [List.replicate 5 (.start true), List.replicate 2 (.start false),
    List.replicate 5 (.event .succeeded), List.replicate 2 (.start true),
    List.replicate 3 .read, List.replicate 2 (.start true)].flatten

/-- One ready-for-read event goes through the read thread to the callback, then the stop. -/
def callbackAndStop : List SdkAction :=
  [startActions, List.replicate 5 (.event .succeeded),
    [.event (.event true), .event .succeeded, .event .succeeded], List.replicate 11 .read,
    List.replicate 5 .stop, List.replicate 5 (.event .succeeded), List.replicate 6 .stop,
    List.replicate 4 .read, List.replicate 4 .stop].flatten

theorem callback_lifetime_runs :
    (∃ p, Runs.Reach sdkStep Runs.anyStep SdkPool.Fresh p ∧ p.shared.startProc = .returned false ∧
      p.shared.calls = [] ∧ p.shared.state = .created) ∧
    (∃ p, Runs.Reach sdkStep Runs.anyStep SdkPool.Fresh p ∧
      p.shared.calls = [⟨.started, false⟩] ∧ p.shared.eventProc.gone ∧ p.shared.readProc.gone) := by
  constructor
  · obtain ⟨p, hr, hs⟩ := exists_sdkReach (P := fun p => p.shared.startProc = .returned false)
      true unwoundStart (by decide)
    obtain ⟨_, _, hf⟩ := callback_lifetime hr
    obtain ⟨hc, hd, _⟩ := hf hs
    exact ⟨p, hr, hs, hc, hd⟩
  · obtain ⟨p, hr, hs, hc⟩ := exists_sdkReach
      (P := fun p => p.shared.stopProc = .returned ∧ p.shared.calls = [⟨.started, false⟩])
      true callbackAndStop (by decide)
    obtain ⟨_, hg, _⟩ := callback_lifetime hr
    exact ⟨p, hr, hc, hg hs⟩

end WinUHid
