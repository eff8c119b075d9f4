import WinUHid.ThreadPool
import WinUHid.Runs

namespace Mailbox

/-- What the worker's own code can see when it takes a step. -/
structure Sight where
  signalled : Bool
  stopping : Bool
  expired : Bool

/-- A worker thread that serves the state that its clients published last: which messages publish
and how, and what the worker does with a state it has loaded, one operation after the other. -/
structure Service (σ β ω π : Type*) where
  initial : σ
  prepares : Bool
  publishes : π → Bool
  update : π → σ → σ
  enter : σ → β
  body : β → Sight → Option (List ω × Option β)

/-- The next operation of the worker. -/
inductive WorkerProc (β : Type*) where
  | notCreated
  | prepare
  | readStopping
  | waitUpdate
  | checkStopping
  | load
  | reset
  | unlock
  | inBody (b : β)
  | exited
  deriving DecidableEq

/-- The next operation of the owner, who stops the worker and closes what it used. -/
inductive OwnerProc where
  | idle
  | setEvent
  | waitWorker
  | closeWorker
  | closeEvent
  | stopClients
  | returned
  deriving DecidableEq

/-- The next operation of a client. -/
inductive ClientProc (π : Type*) where
  | testWorker (message : π)
  | publish (message : π)
  | setEvent
  | finish
  deriving DecidableEq

/-- The shared state, with a history of the outputs and of the signals to a closed event. -/
structure State (σ β ω : Type*) where
  workerHandle : Bool
  published : σ
  loaded : σ
  signalled : Bool
  stopping : Bool
  worker : WorkerProc β
  owner : OwnerProc
  eventClosed : Bool
  outputs : List ω
  lateSignals : Nat

inductive Action (π : Type*) where
  | arrives (message : π)
  | client (i : Nat)
  | worker (ok expired : Bool)
  | owner
  deriving DecidableEq

section Steps

variable {σ β ω π : Type*}

def WorkerProc.locked : WorkerProc β → Bool
  | .reset | .unlock => true
  | _ => false

def WorkerProc.gone : WorkerProc β → Bool
  | .notCreated | .exited => true
  | _ => false

/-- The owner has signalled the event. -/
def OwnerProc.signalled : OwnerProc → Bool
  | .idle | .setEvent => false
  | _ => true

/-- The client has passed its test and not signalled yet. -/
def ClientProc.committed : ClientProc π → Bool
  | .publish _ | .setEvent => true
  | _ => false

/-- The next operation of the owner. The clients are stopped last. -/
def State.ownerStep (m : State σ β ω) (noClients : Bool) : Option (State σ β ω) :=
  match m.owner with
  | .idle =>
    some { m with stopping := true, owner := if m.workerHandle then .setEvent else .stopClients }
  | .setEvent => some { m with signalled := true, owner := .waitWorker }
  | .waitWorker => if m.worker.gone then some { m with owner := .closeWorker } else none
  | .closeWorker => some { m with owner := .closeEvent }
  | .closeEvent => some { m with eventClosed := true, owner := .stopClients }
  | .stopClients => if noClients then some { m with owner := .returned } else none
  | .returned => none

namespace Service

variable (S : Service σ β ω π)

def fresh (worker : Bool) : State σ β ω where
  workerHandle := worker
  published := S.initial
  loaded := S.initial
  signalled := false
  stopping := false
  worker := if worker then .prepare else .notCreated
  owner := .idle
  eventClosed := false
  outputs := []
  lateSignals := 0

/-- The next operation of the worker; `ok` is whether it gets what it prepares, and `expired`
whether the time-out of a wait in its body is over. -/
def workerStep (m : State σ β ω) (ok expired : Bool) : Option (State σ β ω) :=
  match m.worker with
  | .notCreated => none
  | .prepare =>
    if S.prepares && !ok then some { m with worker := .exited }
    else some { m with worker := .readStopping }
  | .readStopping =>
    if m.stopping then some { m with worker := .exited } else some { m with worker := .waitUpdate }
  | .waitUpdate => if m.signalled then some { m with worker := .checkStopping } else none
  | .checkStopping =>
    if m.stopping then some { m with worker := .exited } else some { m with worker := .load }
  | .load => some { m with loaded := m.published, worker := .reset }
  | .reset => some { m with signalled := false, worker := .unlock }
  | .unlock => some { m with worker := .inBody (S.enter m.loaded) }
  | .inBody b =>
    (S.body b ⟨m.signalled, m.stopping, expired⟩).map fun next =>
      { m with
        outputs := m.outputs ++ next.1
        worker := match next.2 with
          | none => .readStopping
          | some b => .inBody b }
  | .exited => none

/-- The next operation of a client. It waits for the lock while the worker holds it. -/
def clientBody (m : State σ β ω) : ClientProc π → State σ β ω × List (ClientProc π)
  | .testWorker x => (m, [if m.workerHandle && S.publishes x then .publish x else .finish])
  | .publish x =>
    if m.worker.locked then (m, [.publish x])
    else ({ m with published := S.update x m.published }, [.setEvent])
  | .setEvent =>
    if m.eventClosed then ({ m with lateSignals := m.lateSignals + 1 }, [.finish])
    else ({ m with signalled := true }, [.finish])
  | .finish => (m, [])

/-- One atomic step. Messages arrive until the owner has stopped the clients. -/
def step (p : Pool (State σ β ω) (ClientProc π)) :
    Action π → Option (Pool (State σ β ω) (ClientProc π))
  | .arrives x =>
    if p.shared.owner = .returned then none else some (p.spawn p.shared (.testWorker x))
  | .client i => p.run S.clientBody i
  | .worker ok expired => (S.workerStep p.shared ok expired).map fun m => { p with shared := m }
  | .owner => (p.shared.ownerStep p.threads.isEmpty).map fun m => { p with shared := m }

/-- Runs start with no client. -/
def Fresh (p : Pool (State σ β ω) (ClientProc π)) : Prop := ∃ worker, p = ⟨S.fresh worker, []⟩

end Service

inductive OwnerMove (m : State σ β ω) (noClients : Bool) : State σ β ω → Prop
  | stops : m.owner = .idle → m.workerHandle →
      OwnerMove m noClients { m with stopping := true, owner := .setEvent }
  | noWorker : m.owner = .idle → m.workerHandle = false →
      OwnerMove m noClients { m with stopping := true, owner := .stopClients }
  | signals : m.owner = .setEvent →
      OwnerMove m noClients { m with signalled := true, owner := .waitWorker }
  | joins : m.owner = .waitWorker → m.worker.gone →
      OwnerMove m noClients { m with owner := .closeWorker }
  | closesWorker : m.owner = .closeWorker → OwnerMove m noClients { m with owner := .closeEvent }
  | closesEvent : m.owner = .closeEvent →
      OwnerMove m noClients { m with eventClosed := true, owner := .stopClients }
  | returns : m.owner = .stopClients → noClients →
      OwnerMove m noClients { m with owner := .returned }

theorem State.ownerStep_cases {m m' : State σ β ω} {noClients : Bool}
    (h : m.ownerStep noClients = some m') : OwnerMove m noClients m' := by
  cases hp : m.owner <;> simp only [ownerStep, hp] at h
  case idle =>
    cases h
    by_cases hw : m.workerHandle = true
    · rw [if_pos hw]
      exact .stops hp hw
    · rw [if_neg hw]
      exact .noWorker hp (by simpa using hw)
  case setEvent =>
    cases h
    exact .signals hp
  case waitWorker =>
    split at h <;> cases h
    next hw => exact .joins hp hw
  case closeWorker =>
    cases h
    exact .closesWorker hp
  case closeEvent =>
    cases h
    exact .closesEvent hp
  case stopClients =>
    split at h <;> cases h
    next hn => exact .returns hp hn
  case returned => cases h

/-- Where the worker can go on. -/
inductive WorkerProc.Next (m : State σ β ω) : WorkerProc β → WorkerProc β → Prop
  | notPrepared : Next m .prepare .exited
  | prepared : Next m .prepare .readStopping
  | stops : m.stopping → Next m .readStopping .exited
  | goesOn : m.stopping = false → Next m .readStopping .waitUpdate
  | woken : m.signalled → Next m .waitUpdate .checkStopping
  | stopped : m.stopping → Next m .checkStopping .exited
  | updated : m.stopping = false → Next m .checkStopping .load
  | entered (b : β) : Next m .unlock (.inBody b)
  | again (b : β) : Next m (.inBody b) .readStopping
  | continues (b b' : β) : Next m (.inBody b) (.inBody b')

theorem WorkerProc.Next.not_gone {m : State σ β ω} {q q' : WorkerProc β}
    (h : WorkerProc.Next m q q') : q.gone = false := by
  cases h <;> rfl

theorem WorkerProc.Next.not_locked {m : State σ β ω} {q q' : WorkerProc β}
    (h : WorkerProc.Next m q q') : q'.locked = false := by
  cases h <;> rfl

inductive WorkerMove (m : State σ β ω) : State σ β ω → Prop
  | goes (q : WorkerProc β) (outputs : List ω) : WorkerProc.Next m m.worker q →
      WorkerMove m { m with worker := q, outputs := outputs }
  | loads : m.worker = .load → WorkerMove m { m with loaded := m.published, worker := .reset }
  | resets : m.worker = .reset → WorkerMove m { m with signalled := false, worker := .unlock }

theorem Service.workerStep_cases {S : Service σ β ω π} {m m' : State σ β ω} {ok expired : Bool}
    (h : S.workerStep m ok expired = some m') : WorkerMove m m' := by
  cases hp : m.worker <;> simp only [workerStep, hp] at h
  case notCreated | exited => cases h
  case prepare =>
    split at h <;> cases h
    · exact .goes _ m.outputs (hp ▸ .notPrepared)
    · exact .goes _ m.outputs (hp ▸ .prepared)
  case readStopping =>
    split at h <;> cases h
    next hs => exact .goes _ m.outputs (hp ▸ .stops hs)
    next hs => exact .goes _ m.outputs (hp ▸ .goesOn (by simpa using hs))
  case waitUpdate =>
    split at h <;> cases h
    next hs => exact .goes _ m.outputs (hp ▸ .woken hs)
  case checkStopping =>
    split at h <;> cases h
    next hs => exact .goes _ m.outputs (hp ▸ .stopped hs)
    next hs => exact .goes _ m.outputs (hp ▸ .updated (by simpa using hs))
  case load =>
    cases h
    exact .loads hp
  case reset =>
    cases h
    exact .resets hp
  case unlock =>
    cases h
    exact .goes _ m.outputs (hp ▸ .entered _)
  case inBody b =>
    obtain ⟨⟨outputs, next⟩, _, rfl⟩ := Option.map_eq_some_iff.mp h
    cases next with
    | none => exact .goes _ _ (hp ▸ .again b)
    | some b' => exact .goes _ _ (hp ▸ .continues b b')

inductive ClientMove (S : Service σ β ω π) (m : State σ β ω) :
    ClientProc π → State σ β ω → List (ClientProc π) → Prop
  | passes (x : π) : m.workerHandle → S.publishes x →
      ClientMove S m (.testWorker x) m [.publish x]
  | skips (x : π) : (m.workerHandle && S.publishes x) = false →
      ClientMove S m (.testWorker x) m [.finish]
  | waits (x : π) : m.worker.locked → ClientMove S m (.publish x) m [.publish x]
  | publishes (x : π) : m.worker.locked = false →
      ClientMove S m (.publish x) { m with published := S.update x m.published } [.setEvent]
  | signals : m.eventClosed = false →
      ClientMove S m .setEvent { m with signalled := true } [.finish]
  | signalsLate : m.eventClosed →
      ClientMove S m .setEvent { m with lateSignals := m.lateSignals + 1 } [.finish]
  | ends : ClientMove S m .finish m []

theorem Service.clientBody_cases (S : Service σ β ω π) (m : State σ β ω) (t : ClientProc π) :
    ClientMove S m t (S.clientBody m t).1 (S.clientBody m t).2 := by
  cases t with
  | testWorker x =>
    cases hx : m.workerHandle && S.publishes x with
    | true =>
      simp only [clientBody, hx, if_true]
      obtain ⟨hw, hx⟩ := Bool.and_eq_true_iff.mp hx
      exact .passes x hw hx
    | false =>
      simp only [clientBody, hx, Bool.false_eq_true, if_false]
      exact .skips x hx
  | publish x =>
    simp only [clientBody]
    split
    next hl => exact .waits x hl
    next hl => exact .publishes x (by simpa using hl)
  | setEvent =>
    simp only [clientBody]
    split
    next hc => exact .signalsLate hc
    next hc => exact .signals (by simpa using hc)
  | finish => exact .ends

/-- What a step of the whole can be. -/
inductive Move (S : Service σ β ω π) (p : Pool (State σ β ω) (ClientProc π)) :
    Action π → Pool (State σ β ω) (ClientProc π) → Prop
  | arrives (x : π) : p.shared.owner ≠ .returned →
      Move S p (.arrives x) (p.spawn p.shared (.testWorker x))
  | client (i : Nat) (l r ts : List (ClientProc π)) (t : ClientProc π) (m : State σ β ω) :
      p.threads = l ++ t :: r → p.threads[i]? = some t → ClientMove S p.shared t m ts →
      Move S p (.client i) ⟨m, l ++ ts ++ r⟩
  | worker (ok expired : Bool) (m : State σ β ω) : WorkerMove p.shared m →
      Move S p (.worker ok expired) { p with shared := m }
  | owner (m : State σ β ω) : OwnerMove p.shared p.threads.isEmpty m →
      Move S p .owner { p with shared := m }

theorem Service.step_cases {S : Service σ β ω π} {p p' : Pool (State σ β ω) (ClientProc π)}
    {a : Action π} (h : S.step p a = some p') : Move S p a p' := by
  cases a with
  | arrives x =>
    simp only [step] at h
    split at h <;> cases h
    next hr => exact .arrives x hr
  | client i =>
    obtain ⟨l, t, r, hl, ht, hs, hr⟩ := Pool.run_cases h
    obtain ⟨m, ts⟩ := p'
    cases hs
    cases hr
    exact .client i l r _ t _ hl ht (S.clientBody_cases p.shared t)
  | worker ok expired =>
    obtain ⟨m, hm, rfl⟩ := Option.map_eq_some_iff.mp h
    exact .worker ok expired m (workerStep_cases hm)
  | owner =>
    obtain ⟨m, hm, rfl⟩ := Option.map_eq_some_iff.mp h
    exact .owner m (State.ownerStep_cases hm)

/-- A reached state with a property that can be evaluated, by running the actions. -/
theorem Service.exists_reach (S : Service σ β ω π) (worker : Bool) (actions : List (Action π))
    {P : Pool (State σ β ω) (ClientProc π) → Prop} [DecidablePred P]
    (h : (Runs.exec S.step ⟨S.fresh worker, []⟩ actions).any (fun p => decide (P p)) = true) :
    ∃ p, Runs.Reach S.step Runs.anyStep S.Fresh p ∧ P p :=
  Runs.exists_reach_of_exec ⟨worker, rfl⟩ h

end Steps

end Mailbox
