import WinUHid.Mailbox

namespace Mailbox

variable {σ β ω π : Type*} {S : Service σ β ω π}

/-- The owner has seen the worker end, and the event is there. -/
def OwnerProc.joined : OwnerProc → Bool
  | .closeWorker | .closeEvent => true
  | _ => false

/-- A published state that the worker has not loaded is announced or about to be, and so is the
stop. -/
structure Updated (p : Pool (State σ β ω) (ClientProc π)) : Prop where
  locked : p.shared.worker.locked → p.shared.loaded = p.shared.published
  seen : p.shared.eventClosed = false → p.shared.published ≠ p.shared.loaded →
    p.shared.signalled ∨ .setEvent ∈ p.threads
  noWorker : p.shared.workerHandle = false → p.shared.worker.gone
  stopping : p.shared.owner ≠ .idle → p.shared.stopping
  awake : p.shared.owner.signalled → p.shared.worker = .waitUpdate → p.shared.signalled
  joined : p.shared.owner.joined ∨ p.shared.eventClosed → p.shared.worker.gone

namespace Updated

variable {p p' : Pool (State σ β ω) (ClientProc π)} {m : State σ β ω}

theorem fresh (S : Service σ β ω π) (worker : Bool) :
    Updated (⟨S.fresh worker, []⟩ : Pool (State σ β ω) (ClientProc π)) := by
  cases worker <;> constructor <;>
    simp [Service.fresh, WorkerProc.locked, WorkerProc.gone, OwnerProc.signalled, OwnerProc.joined]

theorem running (hu : Updated p) (hw : p.shared.worker.gone = false) :
    p.shared.workerHandle ≠ false ∧ ¬(p.shared.owner.joined ∨ p.shared.eventClosed) := by
  constructor
  · intro hn
    simp [hu.noWorker hn] at hw
  · intro hj
    simp [hu.joined hj] at hw

theorem worker (hu : Updated p) (h : WorkerMove p.shared m) : Updated { p with shared := m } := by
  cases h with
  | goes q outputs hn =>
    obtain ⟨handle, open_⟩ := hu.running hn.not_gone
    refine { hu with
      locked := fun hl => ?_
      noWorker := fun hw => absurd hw handle
      awake := fun ho hq => ?_
      joined := fun hj => absurd hj open_ }
    · simp [hn.not_locked] at hl
    · subst hq
      generalize p.shared.worker = before at hn
      cases hn with
      | goesOn running =>
        -- the worker goes to wait only if it has not seen the stop
        have stopping := hu.stopping (by intro hi; rw [hi] at ho; cases ho)
        simp [running] at stopping
  | loads hp =>
    obtain ⟨handle, open_⟩ := hu.running (by rw [hp]; rfl)
    exact { hu with
      locked := fun _ => rfl
      seen := fun _ hd => absurd rfl hd
      noWorker := fun hw => absurd hw handle
      awake := nofun
      joined := fun hj => absurd hj open_ }
  | resets hp =>
    obtain ⟨handle, open_⟩ := hu.running (by rw [hp]; rfl)
    have loaded := hu.locked (by rw [hp]; rfl)
    exact { hu with
      locked := fun _ => loaded
      seen := fun _ hd => absurd loaded.symm hd
      noWorker := fun hw => absurd hw handle
      awake := nofun
      joined := fun hj => absurd hj open_ }

theorem owner {noClients : Bool} (hu : Updated p) (h : OwnerMove p.shared noClients m) :
    Updated { p with shared := m } := by
  cases h with
  | stops hp hw =>
    exact { hu with
      stopping := fun _ => rfl
      awake := nofun
      joined := fun hj => hu.joined (.inr (by simpa [OwnerProc.joined] using hj)) }
  | noWorker hp hw =>
    have gone := hu.noWorker hw
    exact { hu with
      stopping := fun _ => rfl
      awake := fun _ hq => by simp [show p.shared.worker = _ from hq, WorkerProc.gone] at gone
      joined := fun _ => gone }
  | signals hp =>
    exact { hu with
      seen := fun _ _ => .inl rfl
      stopping := fun _ => hu.stopping (by simp [hp])
      awake := fun _ _ => rfl
      joined := fun hj => hu.joined (.inr (by simpa [OwnerProc.joined] using hj)) }
  | joins hp gone =>
    exact { hu with
      stopping := fun _ => hu.stopping (by simp [hp])
      awake := fun _ => hu.awake (by rw [hp]; rfl)
      joined := fun _ => gone }
  | closesWorker hp =>
    exact { hu with
      stopping := fun _ => hu.stopping (by simp [hp])
      awake := fun _ => hu.awake (by rw [hp]; rfl)
      joined := fun _ => hu.joined (.inl (by rw [hp]; rfl)) }
  | closesEvent hp =>
    exact { hu with
      seen := nofun
      stopping := fun _ => hu.stopping (by simp [hp])
      awake := fun _ => hu.awake (by rw [hp]; rfl)
      joined := fun _ => hu.joined (.inl (by rw [hp]; rfl)) }
  | returns hp _ =>
    exact { hu with
      stopping := fun _ => hu.stopping (by simp [hp])
      awake := fun _ => hu.awake (by rw [hp]; rfl)
      joined := fun hj => hu.joined (.inr (by simpa [OwnerProc.joined] using hj)) }

theorem client {l r ts : List (ClientProc π)} {t : ClientProc π} (hu : Updated p)
    (ht : p.threads = l ++ t :: r) (h : ClientMove S p.shared t m ts) :
    Updated ⟨m, l ++ ts ++ r⟩ := by
  have seen := hu.seen
  rw [ht] at seen
  cases h with
  | passes | skips | waits | ends =>
    exact { hu with
      seen := fun hc hd => (seen hc hd).imp_right fun hs => Pool.mem_replace hs (by simp) }
  | signalsLate hc => exact { hu with seen := fun ho => by simp [hc] at ho }
  | publishes x hl =>
    refine { hu with locked := fun hq => ?_, seen := fun _ _ => .inr (by simp) }
    simp [hl] at hq
  | signals hc =>
    exact { hu with
      seen := fun _ _ => .inl rfl
      awake := fun _ _ => rfl }

theorem step {a : Action π} (hu : Updated p) (h : Move S p a p') : Updated p' := by
  cases h with
  | arrives x _ =>
    exact { hu with seen := fun hc hd => (hu.seen hc hd).imp_right fun hs => by simp [hs] }
  | client _ _ _ _ _ _ ht _ h => exact hu.client ht h
  | worker _ _ _ h => exact hu.worker h
  | owner _ h => exact hu.owner h

theorem reach {guard : Pool (State σ β ω) (ClientProc π) → Action π → Prop}
    (h : Runs.Reach S.step guard S.Fresh p) : Updated p := by
  induction h with
  | start hf =>
    obtain ⟨worker, rfl⟩ := hf
    exact fresh S worker
  | next _ _ hs ih => exact ih.step (Service.step_cases hs)

end Updated

/-- Where the updates are, and the stop: announced by the event, about to be announced, or loaded.
When the event is closed there is no worker left to wait for it. -/
structure Delivers (p : Pool (State σ β ω) (ClientProc π)) : Prop where
  updates : p.shared.eventClosed = false → p.shared.published ≠ p.shared.loaded →
    p.shared.signalled ∨ .setEvent ∈ p.threads
  closed : p.shared.eventClosed → p.shared.worker.gone
  stop : p.shared.owner.signalled → p.shared.worker = .waitUpdate → p.shared.signalled

theorem Updated.delivers {p : Pool (State σ β ω) (ClientProc π)} (hu : Updated p) : Delivers p :=
  ⟨hu.seen, fun hc => hu.joined (.inr hc), hu.awake⟩

end Mailbox
