import Mathlib.Data.List.Basic

/-- What is done with a resource. Some run, as threads do, from `start` until one has seen that they
have `ended`. -/
inductive ResourceCall (ρ : Type*) where
  | acquire (r : ρ)
  | start (r : ρ)
  | use (r : ρ)
  | ended (r : ρ)
  | release (r : ρ)
  deriving DecidableEq

namespace ResourceCall

variable {ρ : Type*} [DecidableEq ρ]

def holds (r : ρ) (before : Bool) : ResourceCall ρ → Bool
  | .acquire q => q = r || before
  | .release q => q ≠ r && before
  | .start _ | .use _ | .ended _ => before

def keepsRunning (r : ρ) (before : Bool) : ResourceCall ρ → Bool
  | .start q => q = r || before
  | .ended q => q ≠ r && before
  | .acquire _ | .use _ | .release _ => before

/-- Acquired and not released. -/
def held (calls : List (ResourceCall ρ)) (r : ρ) : Bool := calls.foldl (holds r) false

/-- Started and not known to have ended. -/
def running (calls : List (ResourceCall ρ)) (r : ρ) : Bool := calls.foldl (keepsRunning r) false

/-- Nothing is acquired into a place that is taken, nothing is touched that is not held, and nothing
is released that something running still uses. -/
def Allowed (uses : ρ → ρ → Bool) (earlier : List (ResourceCall ρ)) : ResourceCall ρ → Prop
  | .acquire r => held earlier r = false
  | .start r => held earlier r = true ∧ running earlier r = false
  | .use r => held earlier r = true
  | .ended r => held earlier r = true
  | .release r =>
    held earlier r = true ∧ ∀ t, running earlier t = true → uses t r = false

inductive Disciplined (uses : ρ → ρ → Bool) : List (ResourceCall ρ) → Prop
  | nil : Disciplined uses []
  | snoc {earlier call} : Disciplined uses earlier → Allowed uses earlier call →
      Disciplined uses (earlier ++ [call])

variable {uses : ρ → ρ → Bool} {calls : List (ResourceCall ρ)} {r : ρ}

theorem held_snoc (call : ResourceCall ρ) :
    held (calls ++ [call]) r = holds r (held calls r) call :=
  List.foldl_concat ..

theorem running_snoc (call : ResourceCall ρ) :
    running (calls ++ [call]) r = keepsRunning r (running calls r) call :=
  List.foldl_concat ..

/-- The log of a program whose variables say what it holds and what runs. -/
structure Accounted (uses : ρ → ρ → Bool) (calls : List (ResourceCall ρ)) (owns runs : ρ → Bool) :
    Prop where
  disciplined : Disciplined uses calls
  held : ∀ r, held calls r = owns r
  running : ∀ r, running calls r = runs r

namespace Accounted

variable {owns runs : ρ → Bool}

theorem call (h : Accounted uses calls owns runs) (call : ResourceCall ρ)
    (allowed : Allowed uses calls call) : Accounted uses (calls ++ [call])
      (fun r => holds r (owns r) call) (fun r => keepsRunning r (runs r) call) where
  disciplined := .snoc h.disciplined allowed
  held r := by rw [held_snoc, h.held]
  running r := by rw [running_snoc, h.running]

theorem congr {owns' runs' : ρ → Bool} (h : Accounted uses calls owns runs)
    (same : ∀ r, owns r = owns' r) (sameRuns : ∀ r, runs r = runs' r) :
    Accounted uses calls owns' runs' where
  disciplined := h.disciplined
  held r := (h.held r).trans (same r)
  running r := (h.running r).trans (sameRuns r)

theorem acquire (h : Accounted uses calls owns runs) (free : owns r = false) :
    Accounted uses (calls ++ [.acquire r]) (fun q => r = q || owns q) runs :=
  h.call (.acquire r) ((h.held r).trans free)

theorem start (h : Accounted uses calls owns runs) (own : owns r = true) (idle : runs r = false) :
    Accounted uses (calls ++ [.start r]) owns (fun q => r = q || runs q) :=
  h.call (.start r) ⟨(h.held r).trans own, (h.running r).trans idle⟩

theorem use (h : Accounted uses calls owns runs) (own : owns r = true) :
    Accounted uses (calls ++ [.use r]) owns runs :=
  h.call (.use r) ((h.held r).trans own)

theorem ended (h : Accounted uses calls owns runs) (own : owns r = true) :
    Accounted uses (calls ++ [.ended r]) owns (fun q => r ≠ q && runs q) :=
  h.call (.ended r) ((h.held r).trans own)

theorem release (h : Accounted uses calls owns runs) (own : owns r = true)
    (unused : ∀ t, runs t = true → uses t r = false) :
    Accounted uses (calls ++ [.release r]) (fun q => r ≠ q && owns q) runs :=
  h.call (.release r) ⟨(h.held r).trans own, fun t ht => unused t ((h.running t).symm.trans ht)⟩

section Threads

-- Threads run as long as they are held: they start when they are created, and their handles are
-- closed when they have ended.

variable {owns' isThread : ρ → Bool}

theorem acquireIdle (h : Accounted uses calls owns fun q => isThread q && owns q)
    (free : owns r = false) (thread : isThread r = false)
    (next : ∀ q, owns' q = (r = q || owns q)) :
    Accounted uses (calls ++ [.acquire r]) owns' fun q => isThread q && owns' q := by
  refine (h.acquire free).congr (fun q => (next q).symm) fun q => ?_
  rw [next]
  by_cases hq : r = q
  · subst hq
    rw [thread]
    rfl
  · simp [hq]

theorem releaseIdle (h : Accounted uses calls owns fun q => isThread q && owns q)
    (own : owns r = true) (thread : isThread r = false)
    (unused : ∀ q, (isThread q && owns q) = true → uses q r = false)
    (next : ∀ q, owns' q = (r ≠ q && owns q)) :
    Accounted uses (calls ++ [.release r]) owns' fun q => isThread q && owns' q := by
  refine (h.release own unused).congr (fun q => (next q).symm) fun q => ?_
  rw [next]
  by_cases hq : r = q
  · subst hq
    rw [thread]
    rfl
  · simp [hq]

theorem startThread (h : Accounted uses calls owns fun q => isThread q && owns q)
    (free : owns r = false) (thread : isThread r = true)
    (next : ∀ q, owns' q = (r = q || owns q)) :
    Accounted uses (calls ++ [.acquire r] ++ [.start r]) owns' fun q => isThread q && owns' q := by
  have started := (h.acquire free).start (r := r) (by simp) (by rw [free, Bool.and_false])
  refine started.congr (fun q => (next q).symm) fun q => ?_
  rw [next]
  by_cases hq : r = q
  · subst hq
    simp [thread]
  · simp [hq]

/-- The handle of a thread is closed when no other thread uses it. -/
theorem endThread (h : Accounted uses calls owns fun q => isThread q && owns q)
    (own : owns r = true)
    (alone : ∀ q, q ≠ r → isThread q = true → uses q r = false)
    (next : ∀ q, owns' q = (r ≠ q && owns q)) :
    Accounted uses (calls ++ [.ended r] ++ [.release r]) owns' fun q => isThread q && owns' q := by
  have released := (h.ended own).release (r := r) own fun q hq => by
    simp only [Bool.and_eq_true, decide_eq_true_eq] at hq
    exact alone q (Ne.symm hq.1) hq.2.1
  refine released.congr (fun q => (next q).symm) fun q => ?_
  rw [next]
  by_cases hq : r = q
  · subst hq
    simp
  · simp [hq]

end Threads

end Accounted

end ResourceCall

/-- A function of a state that returns whether it succeeded. -/
abbrev CheckedCall (σ : Type*) := σ → Bool × σ

namespace CheckedCall

variable {σ : Type*} {P Q R S : σ → Prop} {c : CheckedCall σ} {cs : List (CheckedCall σ)}

/-- Calls one after the other, up to the first one that fails. -/
def inOrder : List (CheckedCall σ) → CheckedCall σ
  | [], s => (true, s)
  | c :: cs, s => if (c s).1 then inOrder cs (c s).2 else c s

/-- From `P` the call succeeds with `Q` or fails with `R`. -/
def Meets (P : σ → Prop) (c : CheckedCall σ) (Q R : σ → Prop) : Prop :=
  ∀ s, P s → if (c s).1 then Q (c s).2 else R (c s).2

theorem Meets.weaken {P' Q' R' : σ → Prop} (h : Meets P c Q R) (before : ∀ s, P' s → P s)
    (done : ∀ s, Q s → Q' s) (failed : ∀ s, R s → R' s) : Meets P' c Q' R' := by
  intro s hs
  have met := h s (before s hs)
  split
  next ok => exact done _ (by rwa [if_pos ok] at met)
  next ok => exact failed _ (by rwa [if_neg ok] at met)

theorem Meets.of_keeps (h : ∀ s, P s → P (c s).2) : Meets P c P P := by
  intro s hs
  rw [ite_self]
  exact h s hs

theorem Meets.nil : Meets P (inOrder []) P R := fun _ hs => hs

theorem Meets.cons (first : Meets P c Q R) (rest : Meets Q (inOrder cs) S R) :
    Meets P (inOrder (c :: cs)) S R := by
  intro s hs
  have met := first s hs
  rw [inOrder]
  by_cases ok : (c s).1 = true
  · rw [if_pos ok] at met ⊢
    exact rest _ met
  · rw [if_neg ok] at met ⊢
    rwa [if_neg ok]

theorem inOrder_append {before after : List (CheckedCall σ)} (s : σ) :
    inOrder (before ++ after) s =
      if (inOrder before s).1 then inOrder after (inOrder before s).2 else inOrder before s := by
  induction before generalizing s with
  | nil => rfl
  | cons c before ih =>
    rw [List.cons_append, inOrder, inOrder]
    split
    next ok => exact ih _
    next => rfl

theorem Meets.append {before after : List (CheckedCall σ)} (first : Meets P (inOrder before) Q R)
    (rest : Meets Q (inOrder after) S R) : Meets P (inOrder (before ++ after)) S R := by
  intro s hs
  have met := first s hs
  rw [inOrder_append]
  by_cases ok : (inOrder before s).1 = true
  · rw [if_pos ok] at met ⊢
    exact rest _ met
  · rw [if_neg ok] at met ⊢
    rwa [if_neg ok]

/-- What each call keeps, whether or not it succeeds, all of them keep. -/
theorem inOrder_keeps (h : ∀ c ∈ cs, ∀ s, P s → P (c s).2) {s : σ} (hs : P s) :
    P (inOrder cs s).2 := by
  induction cs generalizing s with
  | nil => exact hs
  | cons c cs ih =>
    have next := h c List.mem_cons_self s hs
    rw [inOrder]
    split
    · exact ih (fun c hc => h c (List.mem_cons_of_mem _ hc)) next
    · exact next

end CheckedCall
