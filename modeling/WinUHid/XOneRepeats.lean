import WinUHid.Timeline
import WinUHid.XOneRumble

namespace WinUHid

open Timeline

/-- Units of 10 ms in units of 100 ns, in which the timer is set and time is counted here. -/
def ticks (x : UInt8) : Nat := 100000 * x.toNat

/-- How long an operation waits for the timer: the due time is relative, and so negative. -/
def XOneRumblePhase.period : XOneRumblePhase → Option Nat
  | .waitDelay _ _ dueTime | .waitDuration _ _ dueTime => some (-dueTime).toNat
  | _ => none

namespace XOneOutputReport

/-- The loop without the special case: for each repeat wait `Delay`, the motors that the report asks
for on, wait `Duration`, motors off. -/
def plainLoop (report : XOneOutputReport) (i : Interruption) : List (Nat × XOneMotors) :=
  pulses i report.asked .off (ticks report.delay) (ticks report.duration)
    (report.repeats.toNat + 1) 0

/-- Seven operations for each iteration, and the test that ends the loop. -/
def stepBound (report : XOneOutputReport) : Nat := 7 * (report.repeats.toNat + 1) + 1

end XOneOutputReport

/-- The thread, from the operation on, makes these calls and ends within the steps. -/
abbrev XOneOutputReport.PlaysFrom (i : Interruption) :
    Nat → Nat → XOneRumblePhase → List (Nat × XOneMotors) → Prop :=
  Plays xOneRumbleThreadProc XOneRumblePhase.period i

section

variable {report : XOneOutputReport} {i : Interruption} {steps now k : Nat}
  {calls : List (Nat × XOneMotors)}

theorem ticks_eq_zero (x : UInt8) : ticks x = 0 ↔ x = 0 := by
  rw [ticks, ← UInt8.toNat_inj]
  simp

theorem toNat_neg_xOneTimeToFiletime (x : UInt8) : (-xOneTimeToFiletime x).toNat = ticks x := by
  simp only [xOneTimeToFiletime, ticks]
  omega

/-- A wait for the timer with the test behind it. -/
theorem plays_wait {b s b' : XOneRumblePhase} {dueTime : Int} {d : Nat}
    (hb : (∃ r k, b = .waitDelay r k dueTime ∧ s = .stoppingDelay r k ∧ b' = .motorsOn r k) ∨
      ∃ r k, b = .waitDuration r k dueTime ∧ s = .stoppingDuration r k ∧ b' = .motorsOff r k)
    (hd : (-dueTime).toNat = d) (positive : d ≠ 0) {later : Nat → List (Nat × XOneMotors)}
    (h : ∀ t, XOneOutputReport.PlaysFrom i steps t b' (later t)) :
    XOneOutputReport.PlaysFrom i (steps + 2) now b
      (match i.wait now d with
      | none => []
      | some t => later t) := by
  have waits : XOneOutputReport.PlaysFrom i (steps + 2) now b
      (if i.reached (now + d) then [] else later (now + d)) := by
    subst hd
    obtain ⟨r, k, rfl, rfl, rfl⟩ | ⟨r, k, rfl, rfl, rfl⟩ := hb
    · exact Plays.waits (s := .stoppingDelay r k) rfl rfl (fun _ => rfl) (fun _ => rfl)
        fun _ => h _
    · exact Plays.waits (s := .stoppingDuration r k) rfl rfl (fun _ => rfl) (fun _ => rfl)
        fun _ => h _
  rw [Interruption.wait, if_neg positive]
  cases reached : i.reached (now + d) with
  | true => simpa [reached] using waits
  | false => simpa [reached] using waits

/-- One iteration, up to where it ends or goes on with the next one. -/
theorem plays_iteration {next : XOneOutputReport} {dueTime : Int} {d : Nat}
    {later : Nat → List (Nat × XOneMotors)} (hk : k ≤ report.repeats.toNat)
    (duration : report.duration ≠ 0) (motors : report.motors ≠ .off)
    (consolidated : report.consolidate = (next, dueTime)) (hd : (-dueTime).toNat = d)
    (positive : d ≠ 0)
    (rest : ∀ t, XOneOutputReport.PlaysFrom i steps t (.iteration next (k + 1)) (later t)) :
    XOneOutputReport.PlaysFrom i (steps + 7) now (.iteration report k)
      (match i.wait now (ticks report.delay) with
      | none => []
      | some t₁ => (t₁, report.motors) ::
          match i.wait t₁ d with
          | none => []
          | some t₂ => (t₂, .off) :: later t₂) := by
  have off (t : Nat) : XOneOutputReport.PlaysFrom i (steps + 1) t (.motorsOff next k)
      ((t, .off) :: later t) :=
    Plays.instant [.off] rfl (fun _ => rfl) (rest t)
  have on (t : Nat) : XOneOutputReport.PlaysFrom i (steps + 4) t (.motorsOn report k)
      ((t, report.motors) ::
        match i.wait t d with
        | none => []
        | some t₂ => (t₂, .off) :: later t₂) := by
    refine Plays.instant [report.motors] rfl (fun sight => ?_)
      (plays_wait (.inr ⟨next, k, rfl, rfl, rfl⟩) hd positive off)
    simp [xOneRumbleThreadProc, consolidated]
  have begins : ¬(report.duration == 0 || report.motors == .off) = true := by
    simp [duration, motors]
  by_cases delay : report.delay = 0
  · have instant : i.wait now (ticks report.delay) = some now := by
      rw [Interruption.wait, if_pos ((ticks_eq_zero _).mpr delay)]
    rw [instant]
    refine Plays.mono (Plays.instant [] rfl (fun sight => ?_) (on now)) (by omega)
    simp [xOneRumbleThreadProc, Nat.not_lt.mpr hk, begins, delay]
  · have positive : ticks report.delay ≠ 0 := fun hz => delay ((ticks_eq_zero _).mp hz)
    refine Plays.instant [] rfl (fun sight => ?_) (plays_wait (.inl ⟨report, k, rfl, rfl, rfl⟩)
      (toNat_neg_xOneTimeToFiletime report.delay) positive on)
    simp [xOneRumbleThreadProc, Nat.not_lt.mpr hk, begins, delay]

theorem plays_last (hk : report.repeats.toNat < k) :
    XOneOutputReport.PlaysFrom i 1 now (.iteration report k) [] :=
  Plays.last [] rfl fun sight => by simp [xOneRumbleThreadProc, hk]

/-- Where nothing is consolidated, the thread plays the plain loop. -/
theorem plays_unconsolidated (duration : report.duration ≠ 0) (motors : report.motors ≠ .off)
    (unconsolidated : report.consolidate = (report, xOneTimeToFiletime report.duration)) {n : Nat}
    (hn : k + n = report.repeats.toNat + 1) :
    XOneOutputReport.PlaysFrom i (7 * n + 1) now (.iteration report k)
      (pulses i report.motors .off (ticks report.delay) (ticks report.duration) n now) := by
  induction n generalizing k now with
  | zero => exact plays_last (by omega)
  | succ n ih =>
    have later (t : Nat) : XOneOutputReport.PlaysFrom i (7 * n + 1) t (.iteration report (k + 1))
        (pulses i report.motors .off (ticks report.delay) (ticks report.duration) n t) :=
      ih (by omega)
    rw [pulses]
    exact Plays.mono (plays_iteration (by omega) duration motors unconsolidated
      (toNat_neg_xOneTimeToFiletime _) (fun hz => duration ((ticks_eq_zero _).mp hz)) later)
      (by omega)

/-- Without a delay the thread plays all the repeats as one. -/
theorem plays_consolidated (duration : report.duration ≠ 0) (motors : report.motors ≠ .off)
    (delay : report.delay = 0) (repeats : report.repeats ≠ 0) :
    XOneOutputReport.PlaysFrom i 8 now (.iteration report 0)
      (pulses i report.motors .off 0 ((report.repeats.toNat + 1) * ticks report.duration) 1
        now) := by
  have consolidated : report.consolidate = ({ report with repeats := 0 },
      xOneTimeToFiletime report.duration +
        xOneTimeToFiletime report.duration * report.repeats.toNat) := by
    simp [XOneOutputReport.consolidate, delay, repeats]
  have period : (-(xOneTimeToFiletime report.duration +
      xOneTimeToFiletime report.duration * report.repeats.toNat)).toNat =
        (report.repeats.toNat + 1) * ticks report.duration := by
    have one : xOneTimeToFiletime report.duration = -(ticks report.duration : Int) := by
      simp only [xOneTimeToFiletime, ticks]
      omega
    have all : -(xOneTimeToFiletime report.duration +
        xOneTimeToFiletime report.duration * report.repeats.toNat) =
          (((report.repeats.toNat + 1) * ticks report.duration : Nat) : Int) := by
      rw [one]
      push_cast
      ring
    rw [all, Int.toNat_natCast]
  have positive : (report.repeats.toNat + 1) * ticks report.duration ≠ 0 :=
    Nat.mul_ne_zero (Nat.succ_ne_zero _) fun hz => duration ((ticks_eq_zero _).mp hz)
  have iteration := @plays_iteration report i 1 now 0 _ _ _ _ (Nat.zero_le _) duration motors
    consolidated period positive fun t => plays_last (Nat.zero_lt_one)
  rw [(ticks_eq_zero _).mpr delay] at iteration
  rw [pulses]
  exact iteration

/-- A report that is not to be played switches the motors off. -/
theorem plays_off (h : report.duration = 0 ∨ report.motors = .off) :
    XOneOutputReport.PlaysFrom i 1 now (.iteration report 0) [(now, .off)] := by
  refine Plays.last [XOneMotors.off] rfl fun sight => ?_
  have begins : (report.duration == 0 || report.motors == XOneMotors.off) = true := by
    simpa using h
  simp [xOneRumbleThreadProc, begins]

end

/-- For every report and interruption the thread comes to the end of the report, and up to the
interruption its calls leave the motors as the plain loop would. The motors are on for the Duration
of every repeat, and not at all when the report asks for none. -/
theorem xOneRumble_playsPlainLoop (report : XOneOutputReport) (i : Interruption) : ∃ calls,
    Plays xOneGamepad.body XOneRumblePhase.period i report.stepBound 0 (xOneGamepad.enter report)
      calls ∧
    (∀ t, i.reached t = false →
      stateAt .off calls t = stateAt .off (report.plainLoop i) t) ∧
    (i = .never → ∀ horizon,
      (report.repeats.toNat + 1) * (ticks report.delay + ticks report.duration) ≤ horizon →
      onTime .off calls 0 horizon =
        if report.asked = .off then 0 else (report.repeats.toNat + 1) * ticks report.duration) := by
  rw [XOneOutputReport.plainLoop, ← report.motors_eq_asked]
  by_cases still : report.duration = 0 ∨ report.motors = .off
  · have off (t : Nat) : stateAt .off [(0, XOneMotors.off)] t = .off := by simp [stateAt]
    refine ⟨[(0, .off)], (plays_off still).mono (by simp [XOneOutputReport.stepBound]), ?_, ?_⟩
    · intro t _
      rw [off, stateAt_pulses_still]
      exact still.symm.imp_right (ticks_eq_zero _).mpr
    · intro _ horizon _
      have none : (if report.motors = .off then 0
          else (report.repeats.toNat + 1) * ticks report.duration) = 0 := by
        split
        next => rfl
        next on => rw [(ticks_eq_zero _).mpr (still.resolve_right on), Nat.mul_zero]
      rw [none, onTime, Nat.count_iff_forall_not]
      exact fun t _ hne => hne (off _)
  · obtain ⟨duration, motors⟩ := not_or.mp still
    rw [if_neg motors]
    by_cases joined : report.delay = 0 ∧ report.repeats ≠ 0
    · have noDelay : ticks report.delay = 0 := (ticks_eq_zero _).mpr joined.1
      refine ⟨_, (plays_consolidated duration motors joined.1 joined.2).mono
        (by simp only [XOneOutputReport.stepBound]; omega), ?_, ?_⟩
      · intro t before
        rw [stateAt_pulses_noDelay before (Nat.zero_le t), noDelay,
          stateAt_pulses_noDelay before (Nat.zero_le t), Nat.one_mul]
      · rintro rfl horizon hh
        rw [onTime_pulses motors (by rw [noDelay] at hh; simpa using hh), Nat.one_mul]
    · have unconsolidated :
          report.consolidate = (report, xOneTimeToFiletime report.duration) := by
        rw [XOneOutputReport.consolidate, if_neg (by simpa using joined)]
      refine ⟨_, plays_unconsolidated duration motors unconsolidated (by omega), fun _ _ => rfl, ?_⟩
      rintro rfl horizon hh
      exact onTime_pulses motors hh

/-- Left motor and left trigger for 100 ms, with no delay and three repeats. -/
def repeatedReport : XOneOutputReport := .ofBytes [0x5, 20, 30, 50, 60, 10, 0, 3]

theorem xOneRumble_playsPlainLoop_repeated : ∃ calls,
    Plays xOneGamepad.body XOneRumblePhase.period .never repeatedReport.stepBound 0
      (xOneGamepad.enter repeatedReport) calls ∧
    (∀ t, stateAt .off calls t = if t < 4000000 then ⟨50, 0, 20, 0⟩ else .off) ∧
    onTime .off calls 0 5000000 = 4000000 := by
  obtain ⟨calls, plays, same, on⟩ := xOneRumble_playsPlainLoop repeatedReport .never
  refine ⟨calls, plays, fun t => ?_, on rfl 5000000 (by decide)⟩
  rw [same t rfl]
  exact stateAt_pulses_noDelay (n := 4) rfl (Nat.zero_le t)

/-- A report of 10 ms that enables no motor. -/
def stillReport : XOneOutputReport := .ofBytes [0, 0, 0, 50, 0, 1, 0, 0]

/-- The time of a report that asks for no motor is not spent with a motor on. -/
theorem xOneRumble_still_onTime :
    (∀ calls, Plays xOneGamepad.body XOneRumblePhase.period .never stillReport.stepBound 0
      (xOneGamepad.enter stillReport) calls → onTime .off calls 0 100000 = 0) ∧
    ¬∀ (report : XOneOutputReport) (i : Interruption), ∃ calls,
      Plays xOneGamepad.body XOneRumblePhase.period i report.stepBound 0
        (xOneGamepad.enter report) calls ∧
      (∀ t, i.reached t = false →
        stateAt .off calls t = stateAt .off (report.plainLoop i) t) ∧
      (i = .never → ∀ horizon,
        (report.repeats.toNat + 1) * (ticks report.delay + ticks report.duration) ≤ horizon →
        onTime .off calls 0 horizon = (report.repeats.toNat + 1) * ticks report.duration) := by
  have none : ∀ calls, Plays xOneGamepad.body XOneRumblePhase.period .never stillReport.stepBound 0
      (xOneGamepad.enter stillReport) calls → onTime .off calls 0 100000 = 0 := by
    intro calls plays
    have only : some calls = some [(0, XOneMotors.off)] := (plays _ (Nat.le_refl _)).symm
    cases only
    rw [onTime, Nat.count_iff_forall_not]
    exact fun t _ hne => hne (by simp [stateAt])
  refine ⟨none, fun all => ?_⟩
  obtain ⟨calls, plays, -, on⟩ := all stillReport .never
  exact absurd ((none calls plays).symm.trans (on rfl 100000 (by decide))) (by decide)

end WinUHid
