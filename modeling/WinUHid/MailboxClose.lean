import WinUHid.Mailbox

namespace Mailbox

variable {σ β ω π : Type*} {S : Service σ β ω π}

/-- Whether a step of a client makes it go on to signal the event. -/
def Service.commits (S : Service σ β ω π) (m : State σ β ω) : ClientProc π → Bool
  | .testWorker x => m.workerHandle && S.publishes x
  | _ => false

/-- The owner closes the event while no client is about to signal it, and no client starts to
afterwards. -/
def Orderly (S : Service σ β ω π) (p : Pool (State σ β ω) (ClientProc π)) : Action π → Prop
  | .owner => p.shared.owner = .closeEvent → ∀ t ∈ p.threads, t.committed = false
  | .client i => p.shared.eventClosed → ∀ t ∈ p.threads[i]?, S.commits p.shared t = false
  | _ => True

instance (p : Pool (State σ β ω) (ClientProc π)) (a : Action π) : Decidable (Orderly S p a) := by
  cases a <;> unfold Orderly <;> infer_instance

/-- No signal came late, and none is to come late. -/
def InTime (p : Pool (State σ β ω) (ClientProc π)) : Prop :=
  p.shared.lateSignals = 0 ∧ (p.shared.eventClosed → ∀ t ∈ p.threads, t.committed = false)

/-- A signal came late, or a client is about to signal a closed event. -/
def Late (p : Pool (State σ β ω) (ClientProc π)) : Prop :=
  0 < p.shared.lateSignals ∨ p.shared.eventClosed ∧ ∃ t ∈ p.threads, t.committed

variable {p p' : Pool (State σ β ω) (ClientProc π)} {a : Action π}

theorem InTime.step (hi : InTime p) (h : Move S p a p') (ho : Orderly S p a) : InTime p' := by
  obtain ⟨none, closed⟩ := hi
  cases h with
  | arrives x _ => exact ⟨none, fun hc => Pool.forall_spawn (closed hc) rfl⟩
  | client i l r ts t m ht hi h =>
    rw [ht] at closed
    cases h with
    | passes x hw hx =>
      refine ⟨none, fun hc => ?_⟩
      have commits := ho hc _ hi
      simp [Service.commits, hw, hx] at commits
    | skips | waits | publishes | signals | ends =>
      exact ⟨none, fun hc => Pool.forall_replace (closed hc) (by simp [ClientProc.committed])⟩
    | signalsLate hc =>
      have quiet := closed hc .setEvent (by simp)
      cases quiet
  | worker _ _ _ h => cases h <;> exact ⟨none, closed⟩
  | owner _ h =>
    cases h with
    | closesEvent hp => exact ⟨none, fun _ => ho hp⟩
    | stops | noWorker | signals | joins | closesWorker | returns => exact ⟨none, closed⟩

/-- A step out of order leaves a client that will signal the closed event. -/
theorem late_of_not_orderly (h : Move S p a p') (ho : ¬Orderly S p a) : Late p' := by
  cases h with
  | arrives => exact absurd trivial ho
  | client i l r ts t m ht hi h =>
    simp only [Orderly, hi, Option.mem_def, Option.some.injEq, forall_eq', Classical.not_imp,
      Bool.not_eq_false] at ho
    obtain ⟨closed, commits⟩ := ho
    cases h with
    | passes x => exact .inr ⟨closed, .publish x, by simp, rfl⟩
    | skips x hx => simp [Service.commits, hx] at commits
    | waits | publishes | signals | signalsLate | ends => cases commits
  | worker => exact absurd trivial ho
  | owner m h =>
    simp only [Orderly, Classical.not_imp, not_forall, Bool.not_eq_false] at ho
    obtain ⟨closing, t, ht, committed⟩ := ho
    cases h with
    | closesEvent => exact .inr ⟨rfl, t, ht, committed⟩
    | stops hp | noWorker hp | signals hp | joins hp | closesWorker hp | returns hp =>
      simp [closing] at hp

theorem Late.client {l r ts : List (ClientProc π)} {t : ClientProc π} {m : State σ β ω}
    (hl : Late p) (ht : p.threads = l ++ t :: r) (h : ClientMove S p.shared t m ts) :
    Late ⟨m, l ++ ts ++ r⟩ := by
  obtain late | ⟨closed, u, hu, committed⟩ := hl
  · cases h with
    | signalsLate => exact .inl (Nat.succ_pos _)
    | passes | skips | waits | publishes | signals | ends => exact .inl late
  · rw [ht] at hu
    cases h with
    | passes | skips | ends =>
      refine .inr ⟨closed, u, Pool.mem_replace hu ?_, committed⟩
      rintro rfl
      cases committed
    | waits x =>
      by_cases he : u = .publish x
      · exact .inr ⟨closed, u, by simp [he], committed⟩
      · exact .inr ⟨closed, u, Pool.mem_replace hu he, committed⟩
    | publishes x => exact .inr ⟨closed, .setEvent, by simp, rfl⟩
    | signals hc => simp [closed] at hc
    | signalsLate => exact .inl (Nat.succ_pos _)

theorem Late.step (hl : Late p) (h : Move S p a p') : Late p' := by
  cases h with
  | arrives x _ =>
    refine hl.imp_right ?_
    rintro ⟨closed, t, ht, committed⟩
    exact ⟨closed, t, by simp [ht], committed⟩
  | client _ _ _ _ _ _ ht _ h => exact hl.client ht h
  | worker _ _ _ h => cases h <;> exact hl
  | owner _ h =>
    cases h with
    | closesEvent => exact hl.imp_right fun hc => ⟨rfl, hc.2⟩
    | stops | noWorker | signals | joins | closesWorker | returns => exact hl

theorem noClients_step (hn : p.shared.owner = .returned → p.threads = []) (h : Move S p a p')
    (hr : p'.shared.owner = .returned) : p'.threads = [] := by
  cases h with
  | arrives _ running => exact absurd hr running
  | client _ _ _ _ _ _ ht _ h =>
    have old : p.shared.owner = .returned := by cases h <;> exact hr
    simp [hn old] at ht
  | worker _ _ _ h => cases h <;> exact hn hr
  | owner _ h =>
    cases h with
    | returns _ empty => exact List.isEmpty_iff.mp empty
    | stops | noWorker | signals | joins | closesWorker | closesEvent => cases hr

theorem noClients_reach {guard : Pool (State σ β ω) (ClientProc π) → Action π → Prop}
    (h : Runs.Reach S.step guard S.Fresh p) (hr : p.shared.owner = .returned) :
    p.threads = [] := by
  induction h with
  | start hf =>
    obtain ⟨worker, rfl⟩ := hf
    rfl
  | next _ _ hs ih => exact noClients_step ih (Service.step_cases hs) hr

def Service.run (S : Service σ β ω π) (worker : Bool) (actions : List (Action π)) :
    Option (Pool (State σ β ω) (ClientProc π)) :=
  Runs.exec S.step ⟨S.fresh worker, []⟩ actions

theorem Service.exists_run (S : Service σ β ω π) (worker : Bool) (actions : List (Action π))
    {P : Pool (State σ β ω) (ClientProc π) → Prop} [DecidablePred P]
    (h : (S.run worker actions).any (fun p => decide (P p)) = true) :
    ∃ p, S.run worker actions = some p ∧ P p := by
  obtain ⟨p, hp, hd⟩ := (Option.any_eq_true _ _).mp h
  exact ⟨p, hp, of_decide_eq_true hd⟩

def Service.OrderlyRun (S : Service σ β ω π) (worker : Bool) (actions : List (Action π)) : Prop :=
  Runs.Admitted S.step (Orderly S) ⟨S.fresh worker, []⟩ actions

instance (S : Service σ β ω π) (worker : Bool) (actions : List (Action π)) :
    Decidable (S.OrderlyRun worker actions) :=
  Runs.decidableAdmitted S.step (Orderly S) _ actions

/-- The signals come in time in every run that keeps the order, and in no other run in which the
owner returns. -/
theorem inTime_iff_orderly {worker : Bool} {actions : List (Action π)}
    (h : S.run worker actions = some p) :
    (S.OrderlyRun worker actions → p.shared.lateSignals = 0) ∧
      (p.shared.owner = .returned → p.shared.lateSignals = 0 → S.OrderlyRun worker actions) := by
  have noClients : p.shared.owner = .returned → p.threads = [] :=
    noClients_reach (Runs.Reach.exec (.start ⟨worker, rfl⟩) h)
  have start : InTime (⟨S.fresh worker, []⟩ : Pool (State σ β ω) (ClientProc π)) :=
    ⟨rfl, nofun⟩
  obtain ⟨ha, hi⟩ | ⟨ha, hl⟩ := Runs.admitted_or_bad (I := InTime) (B := Late)
    (fun _ _ _ hi hs ho => hi.step (Service.step_cases hs) ho)
    (fun _ _ _ _ hs ho => late_of_not_orderly (Service.step_cases hs) ho)
    (fun _ _ _ hl hs => hl.step (Service.step_cases hs)) start h
  · exact ⟨fun _ => hi.1, fun _ _ => ha⟩
  · refine ⟨fun h => absurd h ha, fun hr none => ?_⟩
    obtain late | ⟨_, t, ht, _⟩ := hl
    · omega
    · simp [noClients hr] at ht

end Mailbox
