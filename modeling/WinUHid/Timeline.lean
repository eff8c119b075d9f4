import WinUHid.Mailbox
import Mathlib.Data.Nat.Count

namespace Timeline

open Mailbox (Sight)

section State

variable {ω : Type*}

/-- What was called last up to a time; `current` is from before the calls. -/
def stateAt (current : ω) : List (Nat × ω) → Nat → ω
  | [], _ => current
  | (s, w) :: calls, t => stateAt (if s ≤ t then w else current) calls t

theorem stateAt_of_lt {current : ω} {calls : List (Nat × ω)} {t : Nat}
    (h : ∀ c ∈ calls, t < c.1) : stateAt current calls t = current := by
  induction calls with
  | nil => rfl
  | cons c calls ih =>
    have later : ¬ c.1 ≤ t := Nat.not_le.mpr (h c (by simp))
    rw [stateAt, if_neg later]
    exact ih fun c hc => h c (by simp [hc])

/-- Ticks before the horizon at which something is on. -/
def onTime [DecidableEq ω] (off : ω) (calls : List (Nat × ω)) (start horizon : Nat) : Nat :=
  Nat.count (fun t => stateAt off calls (start + t) ≠ off) horizon

end State

/-- When another state is published, and when the worker is told to stop, if ever. -/
structure Interruption where
  signalled : Option Nat
  stopping : Option Nat
  deriving DecidableEq

namespace Interruption

def never : Interruption := ⟨none, none⟩

def occurred (moment : Option Nat) (t : Nat) : Bool := moment.any (· ≤ t)

/-- The interruption is not later than this. -/
def reached (i : Interruption) (t : Nat) : Bool := occurred i.signalled t || occurred i.stopping t

def sight (i : Interruption) (t : Nat) (expired : Bool) : Sight :=
  ⟨occurred i.signalled t, occurred i.stopping t, expired⟩

/-- The end of a wait for the event or for a timer. -/
def wake (i : Interruption) (now period : Nat) : Nat :=
  match i.signalled with
  | some t => max now (min t (now + period))
  | none => now + period

/-- A wait that an interruption does not let go on; one of no time is left out. -/
def wait (i : Interruption) (now period : Nat) : Option Nat :=
  if period = 0 then some now
  else if i.reached (now + period) then none
  else some (now + period)

theorem occurred_mono {moment : Option Nat} {s t : Nat} (h : occurred moment s = true)
    (hst : s ≤ t) : occurred moment t = true := by
  cases moment with
  | none => cases h
  | some m =>
    simp only [occurred, Option.any_some, decide_eq_true_eq] at h ⊢
    omega

theorem reached_mono {i : Interruption} {s t : Nat} (h : i.reached s = true) (hst : s ≤ t) :
    i.reached t = true := by
  simp only [reached, Bool.or_eq_true] at h ⊢
  exact h.imp (occurred_mono · hst) (occurred_mono · hst)

/-- What has not been reached by some time lies behind it. -/
theorem lt_of_reached {i : Interruption} {s t : Nat} (h : i.reached s = true)
    (ht : i.reached t = false) : t < s := by
  by_contra hle
  cases ht.symm.trans (reached_mono h (Nat.not_lt.mp hle))

theorem wait_eq_some {i : Interruption} {now period s : Nat} (h : i.wait now period = some s) :
    s = now + period := by
  unfold wait at h
  split at h
  next hz =>
    cases h
    omega
  next =>
    split at h <;> cases h
    rfl

theorem wait_eq_none {i : Interruption} {now period : Nat} (h : i.wait now period = none) :
    i.reached (now + period) = true := by
  unfold wait at h
  split at h
  · cases h
  · split at h
    next hr => exact hr
    next => cases h

theorem wait_never (now period : Nat) : never.wait now period = some (now + period) := by
  unfold wait
  split
  next hz => rw [hz, Nat.add_zero]
  next => rfl

end Interruption

section Run

variable {β ω : Type*} (body : β → Sight → Option (List ω × Option β)) (period : β → Option Nat)
  (i : Interruption)

/-- When the next operation takes place: it may have to wait first. -/
def moment (now : Nat) (b : β) : Nat :=
  match period b with
  | none => now
  | some d => i.wake now d

/-- What the operation sees then. -/
def sightOf (now : Nat) (b : β) : Sight :=
  i.sight (moment period i now b) (match period b with
    | none => false
    | some d => now + d ≤ moment period i now b)

/-- A run of a worker's body with the times of its outputs. Only waits take time. -/
def run : Nat → Nat → β → Option (List (Nat × ω))
  | 0, _, _ => none
  | fuel + 1, now, b =>
    (body b (sightOf period i now b)).bind fun (outputs, next) =>
      let called := outputs.map (moment period i now b, ·)
      match next with
      | none => some called
      | some b' => (run fuel (moment period i now b) b').map (called ++ ·)

/-- The run from here comes to its end within the steps, with these calls. -/
def Plays (steps now : Nat) (b : β) (calls : List (Nat × ω)) : Prop :=
  ∀ fuel, steps ≤ fuel → run body period i fuel now b = some calls

variable {body period i} {steps now d : Nat} {b b' s : β} {calls : List (Nat × ω)}

theorem Plays.mono {steps' : Nat} (h : Plays body period i steps now b calls)
    (hs : steps ≤ steps') : Plays body period i steps' now b calls :=
  fun fuel hf => h fuel (by omega)

theorem Plays.last (outputs : List ω) (hp : period b = none)
    (hb : ∀ sight, body b sight = some (outputs, none)) :
    Plays body period i 1 now b (outputs.map (now, ·)) := by
  intro fuel hf
  obtain ⟨fuel, rfl⟩ := Nat.exists_eq_succ_of_ne_zero (show fuel ≠ 0 by omega)
  simp [run, hb, moment, hp]

theorem Plays.instant (outputs : List ω) (hp : period b = none)
    (hb : ∀ sight, body b sight = some (outputs, some b'))
    (h : Plays body period i steps now b' calls) :
    Plays body period i (steps + 1) now b (outputs.map (now, ·) ++ calls) := by
  intro fuel hf
  obtain ⟨fuel, rfl⟩ := Nat.exists_eq_succ_of_ne_zero (show fuel ≠ 0 by omega)
  simp [run, hb, moment, hp, h fuel (by omega)]

/-- A wait for the event or a timer, and a test of the stop after it. -/
theorem Plays.waits (hp : period b = some d) (hs : period s = none)
    (hb : ∀ sight, body b sight =
      if sight.signalled then some ([], none)
      else if sight.expired then some ([], some s) else none)
    (hstop : ∀ sight, body s sight =
      if sight.stopping then some ([], none) else some ([], some b'))
    (h : i.reached (now + d) = false → Plays body period i steps (now + d) b' calls) :
    Plays body period i (steps + 2) now b (if i.reached (now + d) then [] else calls) := by
  intro fuel hf
  obtain ⟨fuel, rfl⟩ := Nat.exists_eq_add_of_le' (show 2 ≤ fuel by omega)
  cases hsig : Interruption.occurred i.signalled (now + d) with
  | true =>
    obtain ⟨t, ht, hle⟩ : ∃ t, i.signalled = some t ∧ t ≤ now + d := by
      cases hs : i.signalled with
      | none => simp [Interruption.occurred, hs] at hsig
      | some t => exact ⟨t, rfl, by simpa [Interruption.occurred, hs] using hsig⟩
    have seen : (sightOf period i now b).signalled = true := by
      simp only [sightOf, Interruption.sight, moment, hp, Interruption.wake, ht,
        Interruption.occurred, Option.any_some, decide_eq_true_eq]
      omega
    have reached : i.reached (now + d) = true := by simp [Interruption.reached, hsig]
    simp [run, hb, seen, reached]
  | false =>
    have wake : moment period i now b = now + d := by
      simp only [moment, hp, Interruption.wake]
      cases hs : i.signalled with
      | none => rfl
      | some t =>
        have later : now + d < t := by simpa [Interruption.occurred, hs] using hsig
        dsimp only
        omega
    have unseen : (sightOf period i now b).signalled = false := by
      simpa [sightOf, Interruption.sight, wake] using hsig
    have expired : (sightOf period i now b).expired = true := by
      simp [sightOf, Interruption.sight, wake, hp]
    have same : moment period i (now + d) s = now + d := by simp [moment, hs]
    have stop : (sightOf period i (now + d) s).stopping =
        Interruption.occurred i.stopping (now + d) := by
      simp [sightOf, Interruption.sight, same]
    have reached : i.reached (now + d) = Interruption.occurred i.stopping (now + d) := by
      simp [Interruption.reached, hsig]
    rw [reached]
    rw [reached] at h
    cases hstopping : Interruption.occurred i.stopping (now + d) with
    | true => simp [run, hb, unseen, expired, wake, hstop, stop, hstopping]
    | false =>
      have rest := h hstopping fuel (by omega)
      simp [run, hb, unseen, expired, wake, hstop, stop, hstopping, same, rest]

end Run

section Pulses

variable {ω : Type*}

/-- A plain loop of `n` iterations: wait, switch on, wait, switch off. -/
def pulses (i : Interruption) (on off : ω) (delay duration : Nat) : Nat → Nat → List (Nat × ω)
  | 0, _ => []
  | n + 1, now =>
    match i.wait now delay with
    | none => []
    | some t₁ =>
      (t₁, on) ::
        match i.wait t₁ duration with
        | none => []
        | some t₂ => (t₂, off) :: pulses i on off delay duration n t₂

variable {i : Interruption} {on off : ω} {delay duration : Nat}

theorem le_of_mem_pulses {n now : Nat} {c : Nat × ω}
    (h : c ∈ pulses i on off delay duration n now) : now + delay ≤ c.1 := by
  induction n generalizing now with
  | zero => cases h
  | succ n ih =>
    rw [pulses] at h
    split at h
    next => cases h
    next t₁ ht₁ =>
      have first := Interruption.wait_eq_some ht₁
      rcases List.mem_cons.mp h with rfl | h
      · exact Nat.le_of_eq first.symm
      · split at h
        next => cases h
        next t₂ ht₂ =>
          have second := Interruption.wait_eq_some ht₂
          rcases List.mem_cons.mp h with rfl | h
          · dsimp only
            omega
          · have := ih h
            omega

/-- Nothing is ever on where on is off, or where it stays on for no time. -/
theorem stateAt_pulses_still (h : on = off ∨ duration = 0) (n now t : Nat) :
    stateAt off (pulses i on off delay duration n now) t = off := by
  induction n generalizing now with
  | zero => rfl
  | succ n ih =>
    rw [pulses]
    split
    next => rfl
    next t₁ _ =>
      rcases h with rfl | rfl
      · split
        next => simp [stateAt]
        next t₂ _ => simpa [stateAt] using ih t₂
      · have instant : i.wait t₁ 0 = some t₁ := rfl
        rw [instant]
        dsimp only
        rw [stateAt, stateAt]
        by_cases hle : t₁ ≤ t
        · rw [if_pos hle]
          exact ih t₁
        · rw [if_neg hle, if_neg hle]
          exact ih t₁

/-- Without a delay the pulses make one long one, as far as the interruption lets it. -/
theorem stateAt_pulses_noDelay {n now t : Nat} (before : i.reached t = false) (hle : now ≤ t) :
    stateAt off (pulses i on off 0 duration n now) t =
      if t < now + n * duration then on else off := by
  induction n generalizing now with
  | zero => simp [pulses, stateAt, Nat.not_lt.mpr hle]
  | succ n ih =>
    have instant : i.wait now 0 = some now := rfl
    have total : (n + 1) * duration = duration + n * duration := by
      rw [Nat.succ_mul, Nat.add_comm]
    rw [pulses, instant]
    dsimp only
    rw [stateAt, if_pos hle]
    split
    next hn =>
      have short := Interruption.lt_of_reached (Interruption.wait_eq_none hn) before
      rw [stateAt, if_pos (by omega)]
    next t₂ ht₂ =>
      obtain rfl := Interruption.wait_eq_some ht₂
      rw [stateAt]
      by_cases hon : t < now + duration
      · rw [if_neg (by omega), if_pos (by omega)]
        refine stateAt_of_lt fun c hc => ?_
        have := le_of_mem_pulses hc
        omega
      · rw [if_pos (by omega), ih (by omega)]
        exact if_congr (by omega) rfl rfl

section Pulse

variable {a b t : Nat} {later : List (Nat × ω)}

theorem stateAt_pulse_waiting (hab : a ≤ b) (behind : ∀ c ∈ later, b ≤ c.1) (ht : t < a) :
    stateAt off ((a, on) :: (b, off) :: later) t = off := by
  rw [stateAt, stateAt, if_neg (by omega), if_neg (by omega)]
  refine stateAt_of_lt fun c hc => ?_
  have := behind c hc
  omega

theorem stateAt_pulse_on (behind : ∀ c ∈ later, b ≤ c.1) (ha : a ≤ t) (hb : t < b) :
    stateAt off ((a, on) :: (b, off) :: later) t = on := by
  rw [stateAt, stateAt, if_pos ha, if_neg (by omega)]
  refine stateAt_of_lt fun c hc => ?_
  have := behind c hc
  omega

theorem stateAt_pulse_over (hb : b ≤ t) :
    stateAt off ((a, on) :: (b, off) :: later) t = stateAt off later t := by
  rw [stateAt, stateAt, if_pos hb]

end Pulse

/-- Never interrupted, each iteration adds its duration. -/
theorem onTime_pulses [DecidableEq ω] (h : on ≠ off) {n now horizon : Nat}
    (hh : n * (delay + duration) ≤ horizon) :
    onTime off (pulses .never on off delay duration n now) now horizon = n * duration := by
  induction n generalizing now horizon with
  | zero =>
    rw [Nat.zero_mul, onTime, Nat.count_iff_forall_not]
    exact fun _ _ hne => hne rfl
  | succ n ih =>
    have period : (n + 1) * (delay + duration) = delay + duration + n * (delay + duration) := by
      rw [Nat.succ_mul, Nat.add_comm]
    obtain ⟨rest, rfl⟩ := Nat.exists_eq_add_of_le (show delay + duration ≤ horizon by omega)
    have tail : onTime off (pulses .never on off delay duration n (now + delay + duration))
        (now + delay + duration) rest = n * duration := ih (by omega)
    have behind : ∀ c ∈ pulses .never on off delay duration n (now + delay + duration),
        now + delay + duration ≤ c.1 := by
      intro c hc
      have := le_of_mem_pulses hc
      omega
    have calls : pulses .never on off delay duration (n + 1) now =
        (now + delay, on) :: (now + delay + duration, off) ::
          pulses .never on off delay duration n (now + delay + duration) := by
      rw [pulses, Interruption.wait_never]
      dsimp only
      rw [Interruption.wait_never]
    rw [onTime] at tail ⊢
    rw [calls, Nat.count_add, Nat.count_add]
    generalize pulses .never on off delay duration n (now + delay + duration) = later
      at tail behind ⊢
    have waiting : Nat.count (fun t => stateAt off ((now + delay, on) ::
        (now + delay + duration, off) :: later) (now + t) ≠ off) delay = 0 := by
      rw [Nat.count_iff_forall_not]
      exact fun t ht hne => hne (stateAt_pulse_waiting (by omega) behind (by omega))
    have playing : Nat.count (fun t => stateAt off ((now + delay, on) ::
        (now + delay + duration, off) :: later) (now + (delay + t)) ≠ off) duration = duration := by
      rw [Nat.count_iff_forall]
      intro t ht
      rw [stateAt_pulse_on behind (by omega) (by omega)]
      exact h
    have remaining : Nat.count (fun t => stateAt off ((now + delay, on) ::
        (now + delay + duration, off) :: later) (now + (delay + duration + t)) ≠ off) rest =
          n * duration := by
      rw [← tail]
      congr 1
      funext t
      rw [stateAt_pulse_over (by omega), ← Nat.add_assoc, ← Nat.add_assoc]
    rw [waiting, playing, remaining, Nat.succ_mul]
    omega

end Pulses

end Timeline
