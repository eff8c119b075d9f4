import WinUHid.MailboxClose
import WinUHid.XOneRumble

namespace WinUHid

open Mailbox

abbrev XOneThread := Mailbox.State XOneOutputReport XOneRumblePhase XOneMotors

/-- The amplitudes that were passed to the client last. -/
def lastMotors (outputs : List XOneMotors) : XOneMotors := outputs.getLast?.getD .off

namespace XOneRumblePhase

def report : XOneRumblePhase → XOneOutputReport
  | iteration report _ | waitDelay report _ _ | stoppingDelay report _ | motorsOn report _
  | waitDuration report _ _ | stoppingDuration report _ | motorsOff report _ => report

/-- From the call that switches the motors on to the call that switches them off. -/
def inDuration : XOneRumblePhase → Bool
  | waitDuration _ _ _ | stoppingDuration _ _ | motorsOff _ _ => true
  | _ => false

/-- The thread has found that the report is not one to switch the motors off. -/
def begun : XOneRumblePhase → Bool
  | iteration _ _ => false
  | _ => true

end XOneRumblePhase

/-- The motors are on only in a Duration phase of the report loaded last, with its amplitudes. -/
def MotorsFollow (m : XOneThread) : Prop :=
  lastMotors m.outputs ≠ .off → ∃ b, m.worker = .inBody b ∧ b.inDuration ∧
    b.report.consolidate.1 = m.loaded.consolidate.1 ∧ lastMotors m.outputs = m.loaded.asked

/-- No wait for the end of a Duration phase is cut short, by a report or by the stop. -/
def KeepsDuration (p : Pool XOneThread (ClientProc ReceivedEvent)) :
    Mailbox.Action ReceivedEvent → Prop
  | .worker _ _ =>
    match p.shared.worker with
    | .inBody (.waitDuration _ _ _) => p.shared.signalled = false
    | .inBody (.stoppingDuration _ _) => p.shared.stopping = false
    | _ => True
  | _ => True

instance (p : Pool XOneThread (ClientProc ReceivedEvent)) (a : Mailbox.Action ReceivedEvent) :
    Decidable (KeepsDuration p a) := by
  unfold KeepsDuration
  split
  · split <;> infer_instance
  · infer_instance

/-- Where the thread is with a report that it has loaded, and what it has passed on. -/
structure Playing (m : XOneThread) (b : XOneRumblePhase) : Prop where
  report : b.report.consolidate.1 = m.loaded.consolidate.1
  on : b.begun → m.loaded.motors ≠ .off
  last : lastMotors m.outputs = if b.inDuration then m.loaded.motors else .off

/-- Outside its inner part the thread has left the motors off. -/
def InPhase (m : XOneThread) : Prop :=
  match m.worker with
  | .inBody b => Playing m b
  | _ => lastMotors m.outputs = .off

theorem motors_consolidate (report : XOneOutputReport) :
    report.consolidate.1.motors = report.motors := by
  unfold XOneOutputReport.consolidate
  dsimp only
  split <;> rfl

theorem consolidate_consolidate (report : XOneOutputReport) :
    report.consolidate.1.consolidate.1 = report.consolidate.1 := by
  unfold XOneOutputReport.consolidate
  dsimp only
  split
  · simp
  next => simp_all

@[simp] theorem lastMotors_append (outputs : List XOneMotors) (motors : XOneMotors) :
    lastMotors (outputs ++ [motors]) = motors := by simp [lastMotors]

theorem Playing.motors {m : XOneThread} {b : XOneRumblePhase} (h : Playing m b) :
    b.report.motors = m.loaded.motors := by
  rw [← motors_consolidate, h.report, motors_consolidate]

theorem InPhase.motorsFollow {m : XOneThread} (h : InPhase m) : MotorsFollow m := by
  intro on
  unfold InPhase at h
  split at h
  next b hb =>
    have last := h.last
    cases hd : b.inDuration with
    | false =>
      rw [hd] at last
      exact absurd last on
    | true =>
      rw [hd] at last
      exact ⟨b, hb, hd, h.report, last.trans m.loaded.motors_eq_asked⟩
  next => exact absurd h on

/-- The next operation of the inner part, by what it does with the motors. -/
theorem Playing.body {m : XOneThread} {b : XOneRumblePhase} (h : Playing m b) {expired : Bool}
    {next : List XOneMotors × Option XOneRumblePhase}
    (hb : xOneRumbleThreadProc b ⟨m.signalled, m.stopping, expired⟩ = some next)
    (signalled : ∀ r i d, b = .waitDuration r i d → m.signalled = false)
    (stopping : ∀ r i, b = .stoppingDuration r i → m.stopping = false) :
    InPhase { m with
      outputs := m.outputs ++ next.1
      worker := match next.2 with
        | none => .readStopping
        | some b => .inBody b } := by
  have report := h.report
  have on := h.on
  have last := h.last
  have motors := h.motors
  cases b with
  | iteration r i =>
    simp only [xOneRumbleThreadProc] at hb
    split at hb
    next =>
      cases hb
      simpa [InPhase, XOneRumblePhase.inDuration] using last
    next =>
      split at hb
      next =>
        cases hb
        exact lastMotors_append _ _
      next hz =>
        have begins : m.loaded.motors ≠ .off := by
          intro he
          simp only [XOneRumblePhase.report] at motors
          simp [motors, he] at hz
        split at hb <;> cases hb <;>
          exact ⟨report, fun _ => begins, by simpa [XOneRumblePhase.inDuration] using last⟩
  | waitDelay r i d =>
    simp only [xOneRumbleThreadProc] at hb
    split at hb
    next =>
      cases hb
      simpa [InPhase, XOneRumblePhase.inDuration] using last
    next =>
      split at hb <;> cases hb
      exact ⟨report, on, by simpa [XOneRumblePhase.inDuration] using last⟩
  | stoppingDelay r i =>
    simp only [xOneRumbleThreadProc] at hb
    split at hb <;> cases hb
    · simpa [InPhase, XOneRumblePhase.inDuration] using last
    · exact ⟨report, on, by simpa [XOneRumblePhase.inDuration] using last⟩
  | motorsOn r i =>
    simp only [xOneRumbleThreadProc, Option.some.injEq] at hb
    subst hb
    refine ⟨?_, fun _ => on rfl, ?_⟩
    · exact (consolidate_consolidate r).trans report
    · exact (lastMotors_append _ _).trans motors
  | waitDuration r i d =>
    simp only [xOneRumbleThreadProc, signalled r i d rfl, Bool.false_eq_true, if_false] at hb
    split at hb <;> cases hb
    exact ⟨report, on, by simpa [XOneRumblePhase.inDuration] using last⟩
  | stoppingDuration r i =>
    simp only [xOneRumbleThreadProc, stopping r i rfl, Bool.false_eq_true, if_false] at hb
    cases hb
    exact ⟨report, on, by simpa [XOneRumblePhase.inDuration] using last⟩
  | motorsOff r i =>
    simp only [xOneRumbleThreadProc, Option.some.injEq] at hb
    subst hb
    exact ⟨report, nofun, lastMotors_append _ _⟩

theorem InPhase.worker {m m' : XOneThread} {ok expired : Bool} (h : InPhase m)
    (hs : xOneGamepad.workerStep m ok expired = some m')
    (keeps : ∀ b, m.worker = .inBody b →
      (∀ r i d, b = .waitDuration r i d → m.signalled = false) ∧
        ∀ r i, b = .stoppingDuration r i → m.stopping = false) : InPhase m' := by
  have phase := h
  unfold InPhase at h
  cases hp : m.worker <;> simp only [Service.workerStep, hp] at hs h
  case notCreated | exited => cases hs
  case prepare | readStopping | waitUpdate | checkStopping => split at hs <;> cases hs <;> exact h
  case load | reset =>
    cases hs
    exact h
  case unlock =>
    cases hs
    exact ⟨rfl, nofun, h⟩
  case inBody b =>
    obtain ⟨⟨outputs, next⟩, hb, rfl⟩ := Option.map_eq_some_iff.mp hs
    cases next <;> exact h.body hb (keeps b hp).1 (keeps b hp).2

/-- The motors stay on when a Duration phase is cut short. -/
theorem Playing.cutShort {m : XOneThread} {b : XOneRumblePhase} (h : Playing m b)
    (hd : b.inDuration) {q : WorkerProc XOneRumblePhase} (hq : ∀ b, q ≠ .inBody b) :
    ¬MotorsFollow { m with worker := q } := by
  intro follow
  have last := h.last
  rw [hd] at last
  have begun : b.begun := by
    cases b <;> first | rfl | cases hd
  obtain ⟨b', hb', -⟩ := follow (by rw [show lastMotors m.outputs = _ from last]; exact h.on begun)
  exact hq b' hb'

theorem InPhase.frame {m m' : XOneThread} (h : InPhase m) (hw : m'.worker = m.worker)
    (ho : m'.outputs = m.outputs) (hl : m'.loaded = m.loaded) : InPhase m' := by
  unfold InPhase at h ⊢
  rw [hw]
  split at h
  next b _ =>
    refine ⟨?_, ?_, ?_⟩
    · rw [hl]
      exact h.report
    · rw [hl]
      exact h.on
    · rw [ho, hl]
      exact h.last
  next =>
    rw [ho]
    exact h

section Steps

variable {p p' : Pool XOneThread (ClientProc ReceivedEvent)} {a : Mailbox.Action ReceivedEvent}

theorem inPhase_keep (h : InPhase p.shared) (hs : xOneGamepad.step p a = some p')
    (hk : KeepsDuration p a) : InPhase p'.shared := by
  have move := Service.step_cases hs
  cases a with
  | arrives x =>
    cases move
    exact h
  | client i =>
    cases move with
    | client _ _ _ _ _ _ _ _ moves => cases moves <;> exact h.frame rfl rfl rfl
  | owner =>
    cases move with
    | owner _ moves => cases moves <;> exact h.frame rfl rfl rfl
  | worker ok expired =>
    obtain ⟨m, hm, rfl⟩ := Option.map_eq_some_iff.mp hs
    refine h.worker hm fun b hb => ⟨?_, ?_⟩
    · rintro r i d rfl
      simpa [KeepsDuration, hb] using hk
    · rintro r i rfl
      simpa [KeepsDuration, hb] using hk

theorem inPhase_spoil (h : InPhase p.shared) (hs : xOneGamepad.step p a = some p')
    (hk : ¬KeepsDuration p a) : ¬MotorsFollow p'.shared := by
  cases a with
  | worker ok expired =>
    obtain ⟨m, hm, rfl⟩ := Option.map_eq_some_iff.mp hs
    unfold InPhase at h
    cases hp : p.shared.worker <;> simp only [hp, KeepsDuration, not_true_eq_false] at h hk
    case inBody b =>
      cases b <;> simp only [not_true_eq_false, Bool.not_eq_false] at hk
      case waitDuration r i d =>
        simp only [Service.workerStep, hp, xOneGamepad, xOneRumbleThreadProc, hk, if_true,
          Option.map_some, List.append_nil, Option.some.injEq] at hm
        subst hm
        exact h.cutShort rfl nofun
      case stoppingDuration r i =>
        simp only [Service.workerStep, hp, xOneGamepad, xOneRumbleThreadProc, hk, if_true,
          Option.map_some, List.append_nil, Option.some.injEq] at hm
        subst hm
        exact h.cutShort rfl nofun
  | _ => exact absurd trivial hk

end Steps

/-- The motors of a run of reports, timer waits and the stop, interleaved in any way: they are on
only in the Duration phases of the report loaded last, all along the run, exactly when no Duration
phase is cut short. -/
theorem xOneRumble_phases {thread : Bool} {actions : List (Mailbox.Action ReceivedEvent)}
    {p : Pool XOneThread (ClientProc ReceivedEvent)} (h : xOneGamepad.run thread actions = some p) :
    (∀ actions', actions' <+: actions → ∀ q, xOneGamepad.run thread actions' = some q →
      MotorsFollow q.shared) ↔
    Runs.Admitted xOneGamepad.step KeepsDuration ⟨xOneGamepad.fresh thread, []⟩ actions := by
  refine Runs.forall_prefix_iff_admitted (I := fun q => InPhase q.shared)
    (P := fun q => MotorsFollow q.shared) (fun _ hi => hi.motorsFollow)
    (fun _ _ _ hi hs hk => inPhase_keep hi hs hk)
    (fun _ _ _ hi hs hk => inPhase_spoil hi hs hk) ?_ h
  cases thread <;> rfl

/-- A report with the given motors that starts after a delay. -/
def rumbleAfter (delay left right : UInt8) : ReceivedEvent where
  type := .writeReport
  reportId := 0
  writeData := [0x0f, 0, 0, left, right, 10, delay, 0]

def sendReport (event : ReceivedEvent) : List (Mailbox.Action ReceivedEvent) :=
  [.arrives event, .client 0, .client 0, .client 0, .client 0]

/-- The thread loads a report and plays it up to the end of its Duration phase. -/
def playedReport : List (Mailbox.Action ReceivedEvent) :=
  [sendReport (rumbleAfter 5 50 0), List.replicate 12 (.worker true true)].flatten

theorem xOneRumble_phases_played : ∃ p, xOneGamepad.run true playedReport = some p ∧
    p.shared.outputs = [⟨50, 0, 0, 0⟩] ∧ MotorsFollow p.shared := by
  obtain ⟨p, hp, ho⟩ := xOneGamepad.exists_run true playedReport
    (P := fun p => p.shared.outputs = [⟨50, 0, 0, 0⟩]) (by decide)
  exact ⟨p, hp, ho, (xOneRumble_phases hp).mpr (by decide) _ (List.prefix_refl _) p hp⟩

/-- While the motors are on a report comes that starts with a delay. -/
def delayedReport : List (Mailbox.Action ReceivedEvent) :=
  [sendReport (rumbleAfter 0 50 0), List.replicate 9 (.worker true false),
    sendReport (rumbleAfter 5 0 64), List.replicate 8 (.worker true false)].flatten

/-- The delay of the second report is spent with the motors of the first one on. -/
theorem xOneRumble_onInDelay :
    (∃ p, Runs.Reach xOneGamepad.step Runs.anyStep xOneGamepad.Fresh p ∧
      p.shared.worker = .inBody (.waitDelay p.shared.loaded 0 (-500000)) ∧
      p.shared.loaded.asked = ⟨0, 64, 0, 0⟩ ∧ lastMotors p.shared.outputs = ⟨50, 0, 0, 0⟩) ∧
    ¬∀ p, Runs.Reach xOneGamepad.step Runs.anyStep xOneGamepad.Fresh p → MotorsFollow p.shared := by
  have reached := xOneGamepad.exists_reach true delayedReport
    (P := fun p => p.shared.worker = .inBody (.waitDelay p.shared.loaded 0 (-500000)) ∧
      p.shared.loaded.asked = ⟨0, 64, 0, 0⟩ ∧ lastMotors p.shared.outputs = ⟨50, 0, 0, 0⟩)
    (by decide)
  refine ⟨reached, fun all => ?_⟩
  obtain ⟨p, hr, -, hm, ho⟩ := reached
  obtain ⟨b, -, -, -, he⟩ := all p hr (by rw [ho]; decide)
  rw [ho, hm] at he
  exact absurd he (by decide)

end WinUHid
