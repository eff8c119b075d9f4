import WinUHid.CallbackLifetime
import WinUHid.Custody
import Mathlib.Data.Multiset.Range
import Mathlib.Algebra.Order.Group.Multiset

namespace WinUHid

/-- The ready-for-read event that the event thread has received and not dispatched. -/
def EventProc.arriving : EventProc → Multiset EventId
  | .dispatch event true => {event}
  | _ => 0

/-- The event that the read thread has taken and not passed to the client. -/
def ReadProc.holds : ReadProc → Multiset EventId
  | .releaseTaken event | .invoke event => {event}
  | _ => 0

/-- The event that a submission has taken and not completed. -/
def SubmitProc.holds : SubmitProc → Multiset EventId
  | .complete event => {event}
  | _ => 0

def SdkDevice.onHand (d : SdkDevice) : Multiset EventId :=
  (d.pendingReadReportEvent.toList : Multiset EventId) + d.readProc.holds

/-- Where the ready-for-read events of a device are. -/
def SdkPool.custody (p : SdkPool) : Custody EventId where
  received := Multiset.range p.shared.nextEvent
  arriving := p.shared.eventProc.arriving
  onHand := p.total SdkDevice.onHand SubmitProc.holds
  withClient := p.shared.withClient
  unanswered := p.shared.unanswered
  handed := p.shared.handed
  consumed := p.shared.consumed

/-- A ready-for-read event arrives only when none is unanswered. -/
def OneUnanswered (p : SdkPool) : SdkAction → Prop
  | .event (.event true) => p.shared.eventProc = .getResult → p.shared.unanswered = []
  | _ => True

instance (p : SdkPool) (a : SdkAction) : Decidable (OneUnanswered p a) := by
  unfold OneUnanswered
  split <;> infer_instance

theorem EventProc.Next.arriving {s : DeviceState} {q q' : EventProc} (h : EventProc.Next s q q') :
    q'.arriving = q.arriving := by
  cases h <;> rfl

theorem ReadProc.Next.holds {s : DeviceState} {q q' : ReadProc} (h : ReadProc.Next s q q') :
    q'.holds = q.holds := by
  cases h <;> rfl

theorem EventProc.arriving_of_not_polled {q : EventProc} (h : ¬q.polled) : q.arriving = 0 := by
  cases q <;> first | rfl | exact absurd rfl h

theorem ReadProc.holds_of_not_passed {q : ReadProc} (h : ¬q.passed) : q.holds = 0 := by
  cases q <;> first | rfl | exact absurd rfl h

section Custody

variable {p : SdkPool} {d : SdkDevice}

theorem custody_event {o : PollOutcome} (h : EventMove p.shared o d)
    (slot : ∀ e, p.shared.eventProc = .dispatch e true → p.shared.pendingReadReportEvent = none) :
    Custody.Step p.custody (SdkPool.custody { p with shared := d }) := by
  cases h with
  | goes l q hn =>
    exact .of_eq (by simp only [SdkPool.custody, Pool.total, SdkDevice.onHand, hn.arriving])
  | receives r hp _ =>
    have fresh : p.shared.nextEvent ∉ p.custody.received := Multiset.notMem_range_self
    cases r with
    | false =>
      have step := Custody.Step.other _ fresh
      simpa [SdkPool.custody, Pool.total, SdkDevice.onHand, hp, EventProc.arriving,
        Multiset.range_succ] using step
    | true =>
      have step := Custody.Step.receive _ fresh
      simpa [SdkPool.custody, Pool.total, SdkDevice.onHand, hp, EventProc.arriving,
        Multiset.range_succ] using step
  | hands e hp _ =>
    have step := Custody.Step.hand (c := p.custody) e 0
      (by simp [SdkPool.custody, hp, EventProc.arriving])
    simpa [SdkPool.custody, Pool.total, SdkDevice.onHand, EventProc.arriving, slot e hp] using step
  | calls e r hp _ =>
    cases r with
    | false =>
      exact .of_eq (by simp [SdkPool.custody, Pool.total, SdkDevice.onHand, hp, EventProc.arriving,
        SdkDevice.call])
    | true =>
      have step := Custody.Step.call (c := p.custody) e 0
        (by simp [SdkPool.custody, hp, EventProc.arriving])
      simpa [SdkPool.custody, Pool.total, SdkDevice.onHand, EventProc.arriving, SdkDevice.call,
        SdkDevice.giveToClient] using step
  | signals hp =>
    exact .of_eq (by simp [SdkPool.custody, Pool.total, SdkDevice.onHand, hp, EventProc.arriving])

theorem custody_read (h : ReadMove p.shared d) :
    Custody.Step p.custody (SdkPool.custody { p with shared := d }) := by
  cases h with
  | goes l timer q hn =>
    exact .of_eq (by simp only [SdkPool.custody, Pool.total, SdkDevice.onHand, hn.holds])
  | wakes hp _ | findsNothing hp _ =>
    exact .of_eq (by simp [SdkPool.custody, Pool.total, SdkDevice.onHand, hp, ReadProc.holds,
      SdkDevice.tookNothing])
  | takes e hp he =>
    exact .of_eq (by simp [SdkPool.custody, Pool.total, SdkDevice.onHand, hp, he, ReadProc.holds])
  | invokes e hp =>
    have held : p.custody.onHand = e ::ₘ ((p.shared.pendingReadReportEvent.toList :
        Multiset EventId) + (p.threads.map SubmitProc.holds).sum) := by
      rw [← Multiset.singleton_add]
      simp only [SdkPool.custody, Pool.total, SdkDevice.onHand, hp, ReadProc.holds]
      abel
    have step := Custody.Step.pass e _ held
    simpa [SdkPool.custody, Pool.total, SdkDevice.onHand, ReadProc.holds, SdkDevice.call,
      SdkDevice.giveToClient] using step

theorem custody_submitter {l r ts : List SubmitProc} {t : SubmitProc}
    (ht : p.threads = l ++ t :: r) (h : SubmitMove p.shared t d ts) :
    Custody.Step p.custody (SdkPool.custody ⟨d, l ++ ts ++ r⟩) := by
  cases h with
  | notReady | wakes | findsNothing | armsTimer =>
    exact .of_eq (by simp [SdkPool.custody, Pool.total, SdkDevice.onHand, ht, SubmitProc.holds,
      SdkDevice.tookNothing])
  | takes e he =>
    exact .of_eq (by simp [SdkPool.custody, Pool.total, SdkDevice.onHand, ht, he,
      SubmitProc.holds])
  | completes e =>
    have step := Custody.Step.complete (c := p.custody) e
      (p.shared.onHand + (l.map SubmitProc.holds).sum + (r.map SubmitProc.holds).sum)
      (by simp [SdkPool.custody, Pool.total, ht, SubmitProc.holds, add_assoc])
    simpa [SdkPool.custody, Pool.total, SdkDevice.onHand, SubmitProc.holds, SdkDevice.answered,
      add_assoc] using step

theorem custody_destroy :
    Custody.Step p.custody (SdkPool.custody { p with shared := p.shared.destroy }) := by
  unfold SdkDevice.destroy
  split
  next => exact .of_eq (by simp [SdkPool.custody, Pool.total, SdkDevice.onHand])
  next e he =>
    have step := Custody.Step.complete (c := p.custody) e
      (p.shared.readProc.holds + (p.threads.map SubmitProc.holds).sum)
      (by simp [SdkPool.custody, Pool.total, SdkDevice.onHand, he])
    simpa [SdkPool.custody, Pool.total, SdkDevice.onHand, SdkDevice.answered] using step

theorem custody_start (hl : Lifetime p.shared) (h : StartMove p.shared d) :
    Custody.Step p.custody (SdkPool.custody { p with shared := d }) := by
  cases h with
  | goes | starts | closesEventThread | closesReadThread => exact .keep
  | createsEventThread hp =>
    have created := (hl.starting (by simp [hp]) (by simp [hp])).1
    have idle : p.shared.eventProc.arriving = 0 :=
      EventProc.arriving_of_not_polled fun hq => hl.polled hq created
    have new : EventProc.createEvent.arriving = 0 := rfl
    exact .of_eq (by simp only [SdkPool.custody, Pool.total, SdkDevice.onHand, idle, new])
  | createsReadThread hp =>
    have created := (hl.starting (by simp [hp]) (by simp [hp])).1
    have idle : p.shared.readProc.holds = 0 :=
      ReadProc.holds_of_not_passed fun hq => hl.passed hq created
    have new : ReadProc.acquireShared.holds = 0 := rfl
    exact .of_eq (by simp only [SdkPool.custody, Pool.total, SdkDevice.onHand, idle, new])

theorem custody_stop (h : StopMove p.shared d) :
    SdkPool.custody { p with shared := d } = p.custody := by
  cases h with
  | goes | stops | closesEventThread | setsReady | setsTimer | closesReadThread => rfl

/-- Each step of the device moves at most one event, the way events go. -/
theorem custody_step {p' : SdkPool} {a : SdkAction} (hl : Lifetime p.shared) (h : SdkMove p a p')
    (slot : ∀ e, p.shared.eventProc = .dispatch e true → p.shared.pendingReadReportEvent = none) :
    Custody.Step p.custody p'.custody := by
  cases h with
  | start _ d h => exact custody_start hl h
  | event _ d h => exact custody_event h slot
  | read d h => exact custody_read h
  | stop d h => exact .of_eq (custody_stop h)
  | destroy => exact custody_destroy
  | submit => exact .of_eq (by simp [SdkPool.custody, Pool.total, SubmitProc.holds])
  | submitter _ _ _ _ _ _ ht _ h => exact custody_submitter ht h
  | timerExpires => exact .keep
  | answer e he =>
    have held : p.custody.withClient = e ::ₘ (p.shared.withClient.erase e : Multiset EventId) :=
      Multiset.coe_eq_coe.mpr (List.perm_cons_erase he)
    have step := Custody.Step.answer e _ held
    simpa [SdkPool.custody, Pool.total, SdkDevice.onHand, SdkDevice.answered] using step

end Custody

/-- One for a read thread that has the token and not used it. -/
def ReadProc.taking : ReadProc → ℕ
  | .reacquireShared | .recheckState | .exchange => 1
  | _ => 0

/-- One for a submission that has the token and not used it. -/
def SubmitProc.taking : SubmitProc → ℕ
  | .exchange => 1
  | _ => 0

/-- One for an event that is pending and announced. -/
def SdkDevice.announced (d : SdkDevice) : ℕ :=
  if d.pendingReadReportEvent.isSome && d.eventProc != .setEvent then 1 else 0

/-- Until the stop interferes, there is one token for an announced event, in the signal, with the
read thread or with one of the submissions, which have `w` together. -/
structure Tokens (d : SdkDevice) (w : ℕ) : Prop where
  balanced : d.readReportReadyEvent.toNat + d.readProc.taking + w = d.announced
  posting : d.eventProc = .setEvent → d.pendingReadReportEvent.isSome

theorem EventProc.Next.ne_setEvent {s : DeviceState} {q q' : EventProc}
    (h : EventProc.Next s q q') : q ≠ .setEvent ∧ q' ≠ .setEvent := by
  cases h <;> simp

/-- The read thread gives up a token only when the device is not started any more. -/
theorem ReadProc.Next.taking {s : DeviceState} {q q' : ReadProc} (h : ReadProc.Next s q q') :
    q'.taking = q.taking ∨ q.passed ∧ s ≠ .started := by
  cases h <;> simp_all [ReadProc.taking, ReadProc.passed]

theorem ReadProc.taking_of_not_passed {q : ReadProc} (h : ¬q.passed) : q.taking = 0 := by
  cases q <;> first | rfl | exact absurd rfl h

namespace SdkDevice

variable {d : SdkDevice}

theorem announced_le (d : SdkDevice) : d.announced ≤ 1 := by
  unfold announced
  split <;> simp

theorem announced_of_none (h : d.pendingReadReportEvent = none) : d.announced = 0 := by
  simp [announced, h]

theorem ne_setEvent_of_announced (h : 0 < d.announced) : d.eventProc ≠ .setEvent := by
  intro hp
  simp [announced, hp] at h

end SdkDevice

namespace Tokens

variable {d d' : SdkDevice} {w : ℕ}

theorem pending (ht : Tokens d w) (taker : 0 < d.readProc.taking + w) :
    d.pendingReadReportEvent ≠ none := by
  intro hn
  have balanced := ht.balanced
  rw [SdkDevice.announced_of_none hn] at balanced
  omega

theorem ne_setEvent (ht : Tokens d w) (taker : 0 < d.readProc.taking + w) :
    d.eventProc ≠ .setEvent := by
  have balanced := ht.balanced
  exact SdkDevice.ne_setEvent_of_announced (by omega)

theorem event {o : PollOutcome} (ht : Tokens d w) (h : EventMove d o d')
    (slot : ∀ e, d.eventProc = .dispatch e true → d.pendingReadReportEvent = none) :
    Tokens d' w := by
  have balanced := ht.balanced
  cases h with
  | goes l q hn =>
    obtain ⟨ho, hn⟩ := hn.ne_setEvent
    refine ⟨?_, fun hq => absurd hq hn⟩
    simpa [SdkDevice.announced, ho, hn] using balanced
  | receives r hp _ =>
    refine ⟨?_, nofun⟩
    simpa [SdkDevice.announced, hp] using balanced
  | hands e hp _ =>
    refine ⟨?_, fun _ => rfl⟩
    rw [SdkDevice.announced_of_none (slot e hp)] at balanced
    simpa [SdkDevice.announced] using balanced
  | calls e r hp _ =>
    refine ⟨?_, nofun⟩
    cases r <;>
      simpa [SdkDevice.announced, hp, SdkDevice.call, SdkDevice.giveToClient] using balanced
  | signals hp =>
    refine ⟨?_, nofun⟩
    have silent : d.announced = 0 := by simp [SdkDevice.announced, hp]
    simp only [SdkDevice.announced, ht.posting hp, Bool.toNat_true]
    simp
    omega

theorem read (hl : Lifetime d) (begins : d.stopProc.begins) (ht : Tokens d w)
    (h : ReadMove d d') : Tokens d' w := by
  have balanced := ht.balanced
  cases h with
  | goes l timer q hn =>
    refine ⟨?_, ht.posting⟩
    have same : q.taking = d.readProc.taking := by
      rcases hn.taking with same | ⟨hp, hs⟩
      · exact same
      · exact absurd (hl.started_of_begins begins (hl.passed hp)) hs
    simpa [SdkDevice.announced, same] using balanced
  | wakes hp hr =>
    refine ⟨?_, ht.posting⟩
    simpa [SdkDevice.announced, hp, hr, ReadProc.taking] using balanced
  | findsNothing hp hn =>
    have taker : d.readProc.taking = 1 := by rw [hp]; rfl
    exact absurd hn (ht.pending (by omega))
  | takes e hp he =>
    have taker : d.readProc.taking = 1 := by rw [hp]; rfl
    have one := d.announced_le
    refine ⟨?_, fun hq => absurd hq (ht.ne_setEvent (by omega))⟩
    simp only [SdkDevice.announced_of_none, ReadProc.taking]
    omega
  | invokes e hp =>
    refine ⟨?_, ht.posting⟩
    simpa [SdkDevice.announced, hp, ReadProc.taking, SdkDevice.call, SdkDevice.giveToClient]
      using balanced

theorem start (hl : Lifetime d) (ht : Tokens d w) (h : StartMove d d') : Tokens d' w := by
  have balanced := ht.balanced
  cases h with
  | goes | starts | closesEventThread | closesReadThread => exact ⟨balanced, ht.posting⟩
  | createsEventThread hp =>
    have created := (hl.starting (by simp [hp]) (by simp [hp])).1
    have quiet : d.eventProc ≠ .setEvent := by
      intro hq
      exact hl.polled (by rw [hq]; rfl) created
    refine ⟨?_, nofun⟩
    simpa [SdkDevice.announced, quiet] using balanced
  | createsReadThread hp =>
    have created := (hl.starting (by simp [hp]) (by simp [hp])).1
    have idle : d.readProc.taking = 0 :=
      ReadProc.taking_of_not_passed fun hq => hl.passed hq created
    rw [idle] at balanced
    exact ⟨balanced, ht.posting⟩

/-- The stop leaves the tokens alone for as long as it has not read the state. -/
theorem stop (ht : d.stopProc.begins → Tokens d w) (h : StopMove d d')
    (begins : d'.stopProc.begins) : Tokens d' w := by
  cases h with
  | goes l q hn =>
    generalize d.stopProc = before at hn ht
    cases hn with
    | called | acquired =>
      obtain ⟨balanced, posting⟩ := ht rfl
      exact ⟨balanced, posting⟩
    | noEventThread =>
      simp only [SdkDevice.stopAfterEvent] at begins
      split at begins <;> cases begins
    | _ => cases begins
  | closesEventThread =>
    simp only [SdkDevice.stopAfterEvent] at begins
    split at begins <;> cases begins
  | stops | setsReady | setsTimer | closesReadThread => cases begins

theorem submitter {t : SubmitProc} {ts : List SubmitProc} (ht : Tokens d (t.taking + w))
    (h : SubmitMove d t d' ts) : Tokens d' ((ts.map SubmitProc.taking).sum + w) := by
  have balanced := ht.balanced
  cases h with
  | notReady | completes | armsTimer => exact ⟨balanced, ht.posting⟩
  | wakes _ hr =>
    refine ⟨?_, ht.posting⟩
    rw [hr] at balanced
    change 1 + d.readProc.taking + (0 + w) = d.announced at balanced
    change 0 + d.readProc.taking + (1 + w) = d.announced
    omega
  | findsNothing hn =>
    have taker : SubmitProc.exchange.taking = 1 := rfl
    exact absurd hn (ht.pending (by omega))
  | takes e he =>
    have taker : SubmitProc.exchange.taking = 1 := rfl
    have one := d.announced_le
    refine ⟨?_, fun hq => absurd hq (ht.ne_setEvent (by omega))⟩
    rw [SdkDevice.announced_of_none rfl]
    change d.readReportReadyEvent.toNat + d.readProc.taking + (0 + w) = 0
    omega

end Tokens

/-- What holds of the hand-off in every run with at most one unanswered event. -/
structure HandOff (p : SdkPool) : Prop where
  balanced : p.custody.Balanced
  single : p.shared.unanswered.length ≤ 1
  tokens : p.shared.stopProc.begins → Tokens p.shared (p.threads.map SubmitProc.taking).sum
  overwritten : p.shared.overwritten = []
  emptyTakes : p.shared.emptyTakes = 0
  destroyed : p.shared.destroyed → p.shared.stopProc = .returned ∧ p.threads = [] ∧
    p.shared.pendingReadReportEvent = none

theorem takers_eq {ts l r : List SubmitProc} {t : SubmitProc} (ht : ts = l ++ t :: r) :
    (ts.map SubmitProc.taking).sum =
      t.taking + ((l.map SubmitProc.taking).sum + (r.map SubmitProc.taking).sum) := by
  rw [ht, List.map_append, List.map_cons, List.sum_append, List.sum_cons]
  omega

namespace HandOff

variable {p p' : SdkPool} {a : SdkAction}

theorem slot (hh : HandOff p) {e : EventId} (hp : p.shared.eventProc = .dispatch e true) :
    p.shared.pendingReadReportEvent = none := by
  have arriving : e ∈ p.custody.arriving := by simp [SdkPool.custody, hp, EventProc.arriving]
  have onHand := hh.balanced.onHand_eq_zero hh.single arriving
  cases hn : p.shared.pendingReadReportEvent with
  | none => rfl
  | some _ => simp [SdkPool.custody, Pool.total, SdkDevice.onHand, hn] at onHand

theorem single_step (hh : HandOff p) (h : SdkMove p a p') (hg : OneUnanswered p a) :
    p'.shared.unanswered.length ≤ 1 := by
  have single := hh.single
  cases h with
  | start _ d h => cases h <;> exact single
  | event o d h =>
    cases h with
    | receives r hp ho =>
      subst ho
      cases r with
      | false => exact single
      | true => simp [hg hp]
    | calls _ r => cases r <;> exact single
    | goes | hands | signals => exact single
  | read d h => cases h <;> exact single
  | stop d h => cases h <;> exact single
  | destroy =>
    unfold SdkDevice.destroy
    split
    · exact single
    · exact List.length_erase_le.trans single
  | submit => exact single
  | submitter _ _ _ _ _ _ _ _ h =>
    cases h with
    | completes => exact List.length_erase_le.trans single
    | _ => exact single
  | timerExpires => exact single
  | answer => exact List.length_erase_le.trans single

theorem tokens_step (hl : Lifetime p.shared) (hh : HandOff p) (h : SdkMove p a p')
    (begins : p'.shared.stopProc.begins) :
    Tokens p'.shared (p'.threads.map SubmitProc.taking).sum := by
  have tokens := hh.tokens
  cases h with
  | start _ d h =>
    have same : d.stopProc = p.shared.stopProc := by cases h <;> rfl
    exact (tokens (same ▸ begins)).start hl h
  | event o d h =>
    have same : d.stopProc = p.shared.stopProc := by
      cases h with
      | calls _ r => cases r <;> rfl
      | _ => rfl
    exact (tokens (same ▸ begins)).event h fun _ hp => hh.slot hp
  | read d h =>
    have same : d.stopProc = p.shared.stopProc := by cases h <;> rfl
    exact (tokens (same ▸ begins)).read hl (same ▸ begins) h
  | stop d h => exact Tokens.stop tokens h begins
  | destroy hr =>
    rw [SdkDevice.destroy_stopProc, hr] at begins
    cases begins
  | submit => simpa [SubmitProc.taking] using tokens begins
  | submitter i l r ts t d ht _ h =>
    have same : d.stopProc = p.shared.stopProc := by cases h <;> rfl
    have held := tokens (same ▸ begins)
    rw [takers_eq ht] at held
    have left := held.submitter h
    simpa [add_assoc, add_left_comm] using left
  | timerExpires | answer => exact ⟨(tokens begins).balanced, (tokens begins).posting⟩

theorem overwritten_step (hh : HandOff p) (h : SdkMove p a p') : p'.shared.overwritten = [] := by
  have overwritten := hh.overwritten
  cases h with
  | event o d h =>
    cases h with
    | hands e hp _ => simp [hh.slot hp, overwritten]
    | calls _ r => cases r <;> exact overwritten
    | goes | receives | signals => exact overwritten
  | start _ d h => cases h <;> exact overwritten
  | read d h => cases h <;> exact overwritten
  | stop d h => cases h <;> exact overwritten
  | submitter _ _ _ _ _ _ _ _ h => cases h <;> exact overwritten
  | destroy =>
    unfold SdkDevice.destroy
    split <;> exact overwritten
  | submit | timerExpires | answer => exact overwritten

/-- Until the stop begins, who has the token does not come away empty. -/
theorem tookNothing (hh : HandOff p)
    (taker : 0 < p.shared.readProc.taking + (p.threads.map SubmitProc.taking).sum)
    (hn : p.shared.pendingReadReportEvent = none) : p.shared.tookNothing.emptyTakes = 0 := by
  by_cases idle : p.shared.stopProc = .idle
  · have tokens := hh.tokens (by rw [idle]; rfl)
    exact absurd hn (tokens.pending taker)
  · simp [SdkDevice.tookNothing, idle, hh.emptyTakes]

theorem emptyTakes_step (hh : HandOff p) (h : SdkMove p a p') : p'.shared.emptyTakes = 0 := by
  have emptyTakes := hh.emptyTakes
  cases h with
  | event o d h =>
    cases h with
    | calls _ r => cases r <;> exact emptyTakes
    | goes | receives | hands | signals => exact emptyTakes
  | start _ d h => cases h <;> exact emptyTakes
  | read d h =>
    cases h with
    | findsNothing hp hn =>
      have taker : p.shared.readProc.taking = 1 := by rw [hp]; rfl
      exact hh.tookNothing (by omega) hn
    | _ => exact emptyTakes
  | stop d h => cases h <;> exact emptyTakes
  | submitter _ _ _ _ _ _ ht _ h =>
    cases h with
    | findsNothing hn =>
      have taker : SubmitProc.exchange.taking = 1 := rfl
      have held := takers_eq ht
      exact hh.tookNothing (by omega) hn
    | _ => exact emptyTakes
  | destroy =>
    unfold SdkDevice.destroy
    split <;> exact emptyTakes
  | submit | timerExpires | answer => exact emptyTakes

theorem destroyed_step (hl : Lifetime p.shared) (hh : HandOff p) (h : SdkMove p a p')
    (hd : p'.shared.destroyed) : p'.shared.stopProc = .returned ∧ p'.threads = [] ∧
      p'.shared.pendingReadReportEvent = none := by
  have destroyed := hh.destroyed
  cases h with
  | event o d h =>
    cases h with
    | hands e hp _ =>
      have gone := (hl.threadsGone (destroyed hd).1).1
      simp [hp, EventProc.gone] at gone
    | calls _ r => cases r <;> exact destroyed hd
    | goes | receives | signals => exact destroyed hd
  | start _ d h => cases h <;> exact destroyed hd
  | read d h =>
    cases h with
    | takes _ _ _ => exact ⟨(destroyed hd).1, (destroyed hd).2.1, rfl⟩
    | _ => exact destroyed hd
  | stop d h =>
    have old : p.shared.destroyed := by cases h <;> exact hd
    exact absurd (destroyed old).1 h.not_returned
  | submitter _ _ _ _ _ _ ht _ h =>
    have old : p.shared.destroyed := by cases h <;> exact hd
    simp [(destroyed old).2.1] at ht
  | destroy hr ht =>
    exact ⟨by rw [SdkDevice.destroy_stopProc, hr], ht, p.shared.destroy_pendingReadReportEvent⟩
  | submit hn =>
    have old : p.shared.destroyed := hd
    simp [hn] at old
  | timerExpires | answer => exact destroyed hd

theorem step (hl : Lifetime p.shared) (hh : HandOff p) (h : SdkMove p a p')
    (hg : OneUnanswered p a) : HandOff p' where
  balanced := hh.balanced.step (custody_step hl h fun _ hp => hh.slot hp)
  single := hh.single_step h hg
  tokens := hh.tokens_step hl h
  overwritten := hh.overwritten_step h
  emptyTakes := hh.emptyTakes_step h
  destroyed := hh.destroyed_step hl h

theorem fresh (eventCallback throttled : Bool) :
    HandOff ⟨.fresh eventCallback throttled, []⟩ where
  balanced := by
    constructor <;>
      simp [SdkPool.custody, SdkDevice.fresh, Pool.total, SdkDevice.onHand, EventProc.arriving,
        ReadProc.holds]
  single := Nat.zero_le 1
  tokens := fun _ => ⟨rfl, nofun⟩
  overwritten := rfl
  emptyTakes := rfl
  destroyed := nofun

theorem reach (h : Runs.Reach sdkStep OneUnanswered SdkPool.Fresh p) : HandOff p := by
  induction h with
  | start hf =>
    obtain ⟨eventCallback, throttled, rfl⟩ := hf
    exact fresh eventCallback throttled
  | next hr hg hs ih => exact ih.step (lifetime_reach hr) (sdkStep_cases hs) hg

theorem onHand_destroyed (hl : Lifetime p.shared) (hh : HandOff p) (hd : p.shared.destroyed) :
    p.custody.onHand = 0 := by
  obtain ⟨hr, ht, hn⟩ := hh.destroyed hd
  have gone := (hl.threadsGone hr).2
  have idle : p.shared.readProc.holds = 0 := by
    cases hp : p.shared.readProc <;> simp_all [ReadProc.gone, ReadProc.holds]
  simp [SdkPool.custody, Pool.total, SdkDevice.onHand, ht, hn, idle]

end HandOff

/-- Every ready-for-read event that is handed to the read thread is consumed once, by the callback,
by one submission or when the device is destroyed. -/
theorem throttle_handOff {p : SdkPool} (h : Runs.Reach sdkStep OneUnanswered SdkPool.Fresh p) :
    p.shared.overwritten = [] ∧ p.shared.emptyTakes = 0 ∧ p.shared.handed.Nodup ∧
      p.shared.consumed.Nodup ∧ (∀ e ∈ p.shared.consumed, e ∈ p.shared.handed) ∧
      (p.shared.destroyed → p.shared.consumed.Perm p.shared.handed) := by
  have hh := HandOff.reach h
  have nodup : (p.shared.handed : Multiset EventId).Nodup := hh.balanced.handed_nodup
  have consumed : (p.shared.consumed : Multiset EventId) ≤ p.shared.handed :=
    hh.balanced.consumed_le
  refine ⟨hh.overwritten, hh.emptyTakes, nodup, Multiset.nodup_of_le consumed nodup, ?_, ?_⟩
  · intro e he
    exact Multiset.mem_of_le consumed he
  · intro hd
    have handed := hh.balanced.handed
    rw [hh.onHand_destroyed (lifetime_reach h) hd, add_zero] at handed
    exact Multiset.coe_eq_coe.mp handed

def pollActions : List SdkAction :=
  List.replicate 5 (.event .succeeded) ++
    [.event (.event true), .event .succeeded, .event .succeeded]

/-- The first event goes to the callback, the second to a submission and the third to the end. -/
def threeEvents : List SdkAction :=
  [startActions, List.replicate 3 .read, pollActions, List.replicate 6 .read, [.answer 0],
    pollActions, [.submit], List.replicate 4 (.submitter 0),
    pollActions, List.replicate 5 .stop, List.replicate 5 (.event .succeeded),
    List.replicate 6 .stop, List.replicate 2 .read, [.timerExpires],
    List.replicate 4 .read, List.replicate 4 .stop, [.destroy]].flatten

theorem throttle_handOff_run :
    ∃ p, Runs.Reach sdkStep OneUnanswered SdkPool.Fresh p ∧ p.shared.handed = [2, 1, 0] ∧
      p.shared.overwritten = [] ∧ p.shared.emptyTakes = 0 ∧
      p.shared.consumed.Perm p.shared.handed := by
  obtain ⟨p, hr, hd, hh⟩ := exists_guardedSdkReach OneUnanswered
    (P := fun p => p.shared.destroyed ∧ p.shared.handed = [2, 1, 0]) true threeEvents (by decide)
  obtain ⟨ho, he, _, _, _, hp⟩ := throttle_handOff hr
  exact ⟨p, hr, hh, ho, he, hp hd⟩

end WinUHid
