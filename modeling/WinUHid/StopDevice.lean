import WinUHid.CallbackLifetime

namespace WinUHid

/-- `WinUHidStopDevice` has set the ready event and has not seen the read thread exit. -/
def StopProc.signalled : StopProc → Bool
  | .setTimer | .waitReadThread => true
  | _ => false

theorem StopProc.cancels_of_signalled {q : StopProc} (h : q.signalled) : q.cancels := by
  cases q <;> first | rfl | cases h

theorem StopProc.stopsRead_of_signalled {q : StopProc} (h : q.signalled) : q.stopsRead := by
  cases q <;> first | rfl | cases h

/-- The read thread has passed its state check and not its wait for the ready event. -/
def ReadProc.beforeWait : ReadProc → Bool
  | .releaseStarted | .waitReady => true
  | _ => false

/-- The read thread exits only if it gets the signal that the stop has sent. -/
def SdkDevice.needsSignal (d : SdkDevice) : Bool := d.stopProc.signalled && d.readProc.beforeWait

/-- No submission takes a signal that the read thread needs. -/
def KeepsSignal (p : SdkPool) : SdkAction → Prop
  | .submitter i => p.threads[i]? = some .waitReady →
      (p.shared.throttled && p.shared.readReportReadyEvent) = true → p.shared.needsSignal = false
  | _ => True

instance (p : SdkPool) (a : SdkAction) : Decidable (KeepsSignal p a) := by
  cases a <;> unfold KeepsSignal <;> infer_instance

/-- The stop waits for the read thread, which waits for an event that no step can signal. -/
structure SdkPool.Deadlocked (p : SdkPool) : Prop where
  stopWaits : p.shared.stopProc = .waitReadThread
  readWaits : p.shared.readProc = .waitReady
  unsignalled : p.shared.readReportReadyEvent = false
  notSignalled : ∀ a p', sdkStep p a = some p' → p'.shared.readReportReadyEvent = false

theorem SdkDevice.needsSignal_iff {d : SdkDevice} : d.needsSignal ↔
    (d.stopProc = .setTimer ∨ d.stopProc = .waitReadThread) ∧
      (d.readProc = .releaseStarted ∨ d.readProc = .waitReady) := by
  cases hs : d.stopProc <;> cases hr : d.readProc <;>
    simp [needsSignal, hs, hr, StopProc.signalled, ReadProc.beforeWait]

@[simp] theorem SdkDevice.signalled_stopAfterEvent (d : SdkDevice) :
    d.stopAfterEvent.signalled = false := by
  unfold stopAfterEvent
  split <;> rfl

def SdkDevice.Signalled (d : SdkDevice) : Prop := d.needsSignal → d.readReportReadyEvent

namespace SdkDevice.Signalled

variable {d d' : SdkDevice}

theorem of_stop (h : d.stopProc.signalled = false) : d.Signalled := by
  simp [Signalled, needsSignal, h]

theorem of_read (h : d.readProc.beforeWait = false) : d.Signalled := by
  simp [Signalled, needsSignal, h]

theorem start (hs : d.Signalled) (h : StartMove d d') : d'.Signalled := by
  cases h with
  | goes | createsEventThread | starts | closesEventThread | closesReadThread => exact hs
  | createsReadThread => exact .of_read rfl

theorem event {o : PollOutcome} (hs : d.Signalled) (h : EventMove d o d') : d'.Signalled := by
  cases h with
  | goes | receives | hands => exact hs
  | calls _ r =>
    cases r with
    | false => exact hs
    | true => exact hs
  | signals => exact fun _ => rfl

theorem read (hl : Lifetime d) (hs : d.Signalled) (h : ReadMove d d') : d'.Signalled := by
  cases h with
  | goes l timer q hn =>
    generalize hp : d.readProc = q0 at hn
    cases hn with
    | started started =>
      -- the state check passes before the stop has changed the state, long before its signal
      refine .of_stop ?_
      cases hc : d.stopProc.signalled with
      | false => rfl
      | true =>
        have stopped : d.state = .stopped := hl.cancels (StopProc.cancels_of_signalled hc)
        simp [started] at stopped
    | released =>
      intro hq
      refine hs ?_
      simpa [needsSignal, hp, ReadProc.beforeWait] using hq
    | _ => exact .of_read rfl
  | wakes | findsNothing | takes | invokes => exact .of_read rfl

theorem stop (hs : d.Signalled) (h : StopMove d d') : d'.Signalled := by
  cases h with
  | goes l q hn =>
    refine .of_stop ?_
    generalize d.stopProc = before at hn
    cases hn with
    | noEventThread => exact d.signalled_stopAfterEvent
    | _ => rfl
  | stops | closesReadThread => exact .of_stop rfl
  | closesEventThread => exact .of_stop d.signalled_stopAfterEvent
  | setsReady => exact fun _ => rfl
  | setsTimer hp =>
    intro hq
    refine hs ?_
    simpa [needsSignal, hp, StopProc.signalled] using hq

end SdkDevice.Signalled

theorem signalled_step {p p' : SdkPool} {a : SdkAction} (hl : Lifetime p.shared)
    (hs : p.shared.Signalled) (h : SdkMove p a p') (hk : KeepsSignal p a) :
    p'.shared.Signalled := by
  cases h with
  | start _ d h => exact hs.start h
  | event _ d h => exact hs.event h
  | read d h => exact hs.read hl h
  | stop d h => exact hs.stop h
  | destroy hr =>
    refine .of_stop ?_
    rw [SdkDevice.destroy_stopProc, hr]
    rfl
  | submit => exact hs
  | submitter i l r ts t d _ hi h =>
    cases h with
    | notReady | findsNothing | takes | completes | armsTimer => exact hs
    | wakes ht hr =>
      intro hq
      have taken : p.shared.needsSignal = false := hk hi (by simp [ht, hr])
      have needed : p.shared.needsSignal := hq
      simp [taken] at needed
  | timerExpires | answer => exact hs

/-- A submission has taken the signal that the read thread needs. -/
structure Stuck (d : SdkDevice) : Prop where
  lifetime : Lifetime d
  needsSignal : d.needsSignal
  unsignalled : d.readReportReadyEvent = false

namespace Stuck

variable {d d' : SdkDevice}

theorem stopProc_cases (h : Stuck d) :
    d.stopProc = .setTimer ∨ d.stopProc = .waitReadThread :=
  (SdkDevice.needsSignal_iff.mp h.needsSignal).1

theorem readProc_cases (h : Stuck d) : d.readProc = .releaseStarted ∨ d.readProc = .waitReady :=
  (SdkDevice.needsSignal_iff.mp h.needsSignal).2

theorem eventProc_gone (h : Stuck d) : d.eventProc.gone := by
  have signalled : d.stopProc.signalled := (Bool.and_eq_true_iff.mp h.needsSignal).1
  exact h.lifetime.eventGone (h.lifetime.stopsRead (StopProc.stopsRead_of_signalled signalled))

theorem startProc_returned (h : Stuck d) : ∃ result, d.startProc = .returned result :=
  h.lifetime.stopCalled (by rcases h.stopProc_cases with hp | hp <;> simp [hp])

theorem not_start (h : Stuck d) : ¬StartMove d d' := by
  obtain ⟨result, hr⟩ := h.startProc_returned
  intro hm
  cases hm with
  | goes l q hn =>
    rw [hr] at hn
    cases hn
  | createsEventThread hp | createsReadThread hp | starts hp | closesEventThread hp
  | closesReadThread hp => simp [hr] at hp

theorem not_event {o : PollOutcome} (h : Stuck d) : ¬EventMove d o d' := by
  have gone := h.eventProc_gone
  intro hm
  cases hm with
  | goes l q hn => exact hn.not_gone gone
  | receives _ hp | hands _ hp | calls _ _ hp | signals hp => simp [hp, EventProc.gone] at gone

theorem read (h : Stuck d) (hm : ReadMove d d') : Stuck d' := by
  refine ⟨h.lifetime.read hm, ?_, ?_⟩
  all_goals have hq := h.readProc_cases
  · cases hm with
    | goes l timer q hn =>
      generalize hp : d.readProc = before at hn
      cases hn with
      | released =>
        exact SdkDevice.needsSignal_iff.mpr ⟨h.stopProc_cases, .inr rfl⟩
      | _ => simp [hp] at hq
    | wakes _ hr => simp [h.unsignalled] at hr
    | findsNothing hp | takes _ hp | invokes _ hp => simp [hp] at hq
  · cases hm with
    | goes => exact h.unsignalled
    | wakes => rfl
    | findsNothing | takes | invokes => exact h.unsignalled

theorem stop (h : Stuck d) (hm : StopMove d d') : Stuck d' := by
  refine ⟨h.lifetime.stop hm, ?_, ?_⟩
  all_goals have hq := h.stopProc_cases
  · cases hm with
    | goes l q hn =>
      generalize hp : d.stopProc = before at hn
      cases hn with
      | readExited hx => rcases h.readProc_cases with hr | hr <;> simp [hr] at hx
      | _ => simp [hp] at hq
    | setsTimer => exact SdkDevice.needsSignal_iff.mpr ⟨.inr rfl, h.readProc_cases⟩
    | stops hp | closesEventThread hp | setsReady hp | closesReadThread hp => simp [hp] at hq
  · cases hm with
    | setsReady hp => simp [hp] at hq
    | goes | stops | closesEventThread | setsTimer | closesReadThread => exact h.unsignalled

theorem submitter {t : SubmitProc} {ts : List SubmitProc} (h : Stuck d)
    (hm : SubmitMove d t d' ts) : Stuck d' := by
  refine ⟨h.lifetime.submitter hm, ?_, ?_⟩
  · cases hm with
    | notReady | wakes | findsNothing | takes | completes | armsTimer => exact h.needsSignal
  · cases hm with
    | wakes => rfl
    | notReady | findsNothing | takes | completes | armsTimer => exact h.unsignalled

end Stuck

theorem stuck_step {p p' : SdkPool} {a : SdkAction} (hs : Stuck p.shared) (h : SdkMove p a p') :
    Stuck p'.shared := by
  cases h with
  | start _ d h => exact absurd h hs.not_start
  | event _ d h => exact absurd h hs.not_event
  | read d h => exact hs.read h
  | stop d h => exact hs.stop h
  | destroy hr => rcases hs.stopProc_cases with hp | hp <;> simp [hr] at hp
  | submit => exact hs
  | submitter _ _ _ _ _ _ _ _ h => exact hs.submitter h
  | timerExpires => exact ⟨{ hs.lifetime with }, hs.needsSignal, hs.unsignalled⟩
  | answer => exact ⟨{ hs.lifetime with }, hs.needsSignal, hs.unsignalled⟩

theorem stuck_reach {p q : SdkPool} (hs : Stuck p.shared)
    (h : Runs.Reach sdkStep Runs.anyStep (· = p) q) : Stuck q.shared := by
  induction h with
  | start he => exact he ▸ hs
  | next _ _ h ih => exact stuck_step ih (sdkStep_cases h)

theorem signalled_reach {p : SdkPool} (h : Runs.Reach sdkStep KeepsSignal SdkPool.Fresh p) :
    p.shared.Signalled := by
  induction h with
  | start hf =>
    obtain ⟨_, _, rfl⟩ := hf
    exact .of_stop rfl
  | next hr hk hs ih => exact signalled_step (lifetime_reach hr) ih (sdkStep_cases hs) hk

/-- A submission that takes a needed signal leaves the stop waiting for ever. -/
theorem stuck_of_not_keepsSignal {p p' : SdkPool} {a : SdkAction} (hl : Lifetime p.shared)
    (h : SdkMove p a p') (hk : ¬KeepsSignal p a) : Stuck p'.shared := by
  cases h with
  | submitter i l r ts t d ht hi h =>
    simp only [KeepsSignal, Classical.not_imp, Bool.not_eq_false] at hk
    obtain ⟨hw, hr, hn⟩ := hk
    obtain rfl : t = .waitReady := Option.some.inj (hi.symm.trans hw)
    cases h with
    | notReady hf => simp [hr] at hf
    | wakes => exact ⟨{ hl with }, hn, rfl⟩
  | _ => exact absurd trivial hk

/-- The stop waits for a read thread that nothing wakes exactly when a submission takes the signal
that the stop sent to it. -/
theorem stopDevice_deadlock (p : SdkPool) :
    (Runs.Reach sdkStep KeepsSignal SdkPool.Fresh p → ¬p.Deadlocked) ∧
      (Runs.Reach sdkStep Runs.anyStep SdkPool.Fresh p → ∀ a p', ¬KeepsSignal p a →
        sdkStep p a = some p' → ∀ q, Runs.Reach sdkStep Runs.anyStep (· = p') q →
          q.shared.stopProc ≠ .returned ∧ q.shared.readReportReadyEvent = false) := by
  refine ⟨?_, ?_⟩
  · intro hr hd
    have signalled := signalled_reach hr
      (SdkDevice.needsSignal_iff.mpr ⟨.inr hd.stopWaits, .inr hd.readWaits⟩)
    simp [hd.unsignalled] at signalled
  · intro hr a p' hk hs q hq
    have start := stuck_of_not_keepsSignal (lifetime_reach hr) (sdkStep_cases hs) hk
    have stuck := stuck_reach start hq
    refine ⟨?_, stuck.unsignalled⟩
    rcases stuck.stopProc_cases with hp | hp <;> simp [hp]

/-- The read thread has seen the device started and waits when the event thread has exited and the
stop has set the ready event. -/
def signalSent : List SdkAction :=
  [startActions, List.replicate 3 .read, List.replicate 5 .stop,
    List.replicate 5 (.event .succeeded), List.replicate 5 .stop].flatten

/-- The read thread gets the signal, and a submission comes too late for it. -/
def signalReceived : List SdkAction :=
  [signalSent, [.submit, .read, .submitter 0], List.replicate 3 .read,
    List.replicate 5 .stop].flatten

theorem stopDevice_deadlock_runs :
    (∃ p, Runs.Reach sdkStep KeepsSignal SdkPool.Fresh p ∧ p.shared.stopProc = .returned ∧
      ¬p.Deadlocked) ∧
    ∃ p p', Runs.Reach sdkStep Runs.anyStep SdkPool.Fresh p ∧
      sdkStep p (.submitter 0) = some p' ∧ p'.shared.stopProc ≠ .returned ∧
      p'.shared.readReportReadyEvent = false := by
  constructor
  · obtain ⟨p, hr, hs⟩ := exists_guardedSdkReach KeepsSignal
      (P := fun p => p.shared.stopProc = .returned) true signalReceived (by decide)
    exact ⟨p, hr, hs, (stopDevice_deadlock p).1 hr⟩
  · obtain ⟨p, hr, hk, hs⟩ := exists_sdkReach
      (P := fun p => ¬KeepsSignal p (.submitter 0) ∧ (sdkStep p (.submitter 0)).isSome)
      true (signalSent ++ [.submit]) (by decide)
    obtain ⟨p', hp⟩ := Option.isSome_iff_exists.mp hs
    exact ⟨p, p', hr, hp, (stopDevice_deadlock p).2 hr _ p' hk hp p' (.start rfl)⟩

/-- A submission takes the signal while the stop is about to wait. -/
theorem stopDevice_deadlocks :
    ∃ p, Runs.Reach sdkStep Runs.anyStep SdkPool.Fresh p ∧ p.Deadlocked ∧
      ∀ q, Runs.Reach sdkStep Runs.anyStep (· = p) q → q.shared.stopProc ≠ .returned := by
  obtain ⟨p, hr, hs, hd, hu⟩ := exists_sdkReach
    (P := fun p => p.shared.stopProc = .waitReadThread ∧ p.shared.readProc = .waitReady ∧
      p.shared.readReportReadyEvent = false)
    true (signalSent ++ [.submit, .submitter 0, .submitter 0, .stop]) (by decide)
  have stuck : Stuck p.shared :=
    ⟨lifetime_reach hr, SdkDevice.needsSignal_iff.mpr ⟨.inr hs, .inr hd⟩, hu⟩
  refine ⟨p, hr, ⟨hs, hd, hu, ?_⟩, ?_⟩
  · intro a p' h
    exact (stuck_step stuck (sdkStep_cases h)).unsignalled
  · intro q hq hret
    rcases (stuck_reach stuck hq).stopProc_cases with hp | hp <;> simp [hret] at hp

end WinUHid
