import Mathlib.Data.List.Induction

namespace Replies

variable {σ ρ ω : Type*}

/-- The requests of a run, each beside its reply. -/
def log (step : σ → ρ → σ × ω) : σ → List ρ → List (ρ × ω)
  | _, [] => []
  | s, r :: rs => (r, (step s r).2) :: log step (step s r).1 rs

/-- The state a run ends in. -/
def after (step : σ → ρ → σ × ω) : σ → List ρ → σ
  | s, [] => s
  | s, r :: rs => after step (step s r).1 rs

/-- Every request of a run comes in a state that admits it. -/
def Along (step : σ → ρ → σ × ω) (guard : σ → ρ → Prop) : σ → List ρ → Prop
  | _, [] => True
  | s, r :: rs => guard s r ∧ Along step guard (step s r).1 rs

variable {step : σ → ρ → σ × ω}

theorem after_append (s : σ) (rs rs' : List ρ) :
    after step s (rs ++ rs') = after step (after step s rs) rs' := by
  induction rs generalizing s with
  | nil => rfl
  | cons r rs ih => exact ih (step s r).1

theorem log_append (s : σ) (rs rs' : List ρ) :
    log step s (rs ++ rs') = log step s rs ++ log step (after step s rs) rs' := by
  induction rs generalizing s with
  | nil => rfl
  | cons r rs ih => simp only [List.cons_append, log, after, ih]

@[simp] theorem map_fst_log (s : σ) (rs : List ρ) : (log step s rs).map Prod.fst = rs := by
  induction rs generalizing s with
  | nil => rfl
  | cons r rs ih => simp only [log, List.map_cons, ih]

theorem along_append {guard : σ → ρ → Prop} (s : σ) (rs rs' : List ρ) :
    Along step guard s (rs ++ rs') ↔
      Along step guard s rs ∧ Along step guard (after step s rs) rs' := by
  induction rs generalizing s with
  | nil => simp [Along, after]
  | cons r rs ih => simp only [List.cons_append, Along, after, ih, and_assoc]

/-- What one reply preserves, a run preserves. -/
theorem invariant {P : List (ρ × ω) → σ → Prop} {s : σ} (start : P [] s)
    (next : ∀ es s r, P es s → P (es ++ [(r, (step s r).2)]) (step s r).1) (rs : List ρ) :
    P (log step s rs) (after step s rs) := by
  induction rs using List.reverseRecOn with
  | nil => exact start
  | append_singleton rs r ih =>
    rw [log_append, after_append]
    exact next _ _ r ih

/-- A property that a reply keeps exactly when its request is admitted holds all along a run
exactly when every request of it is admitted. -/
theorem forall_prefix_iff_along {P : List (ρ × ω) → σ → Prop} {guard : σ → ρ → Prop} {s : σ}
    (start : P [] s)
    (next : ∀ es s r, P es s → (P (es ++ [(r, (step s r).2)]) (step s r).1 ↔ guard s r))
    (rs : List ρ) :
    (∀ rs', rs' <+: rs → P (log step s rs') (after step s rs')) ↔ Along step guard s rs := by
  induction rs using List.reverseRecOn with
  | nil =>
    refine ⟨fun _ => trivial, fun _ rs' h => ?_⟩
    rw [List.prefix_nil.mp h]
    exact start
  | append_singleton rs r ih =>
    have hlast : log step s (rs ++ [r]) =
        log step s rs ++ [(r, (step (after step s rs) r).2)] := log_append s rs [r]
    have hend : after step s (rs ++ [r]) = (step (after step s rs) r).1 := after_append s rs [r]
    rw [along_append, ← ih]
    constructor
    · intro h
      have hp := h rs (List.prefix_append rs [r])
      have hn := h (rs ++ [r]) (List.prefix_refl _)
      rw [hlast, hend] at hn
      exact ⟨fun rs' h' => h rs' (h'.trans (List.prefix_append rs [r])),
        (next _ _ r hp).mp hn, trivial⟩
    · rintro ⟨hall, hg, -⟩ rs' h'
      rcases List.prefix_concat_iff.mp h' with rfl | h'
      · rw [hlast, hend]
        exact (next _ _ r (hall rs (List.prefix_refl _))).mpr hg
      · exact hall rs' h'

/-- Requests whose replies are dropped can be left out of a run: the replies to all others stay
what they were. `R` relates the run with them to the run without. -/
theorem log_filter {R : σ → σ → Prop} {drop : ρ × ω → Bool}
    (dropped : ∀ s t r, R s t → drop (r, (step s r).2) → R (step s r).1 t)
    (kept : ∀ s t r, R s t → ¬drop (r, (step s r).2) →
      (step t r).2 = (step s r).2 ∧ R (step s r).1 (step t r).1)
    {s t : σ} (h : R s t) (rs : List ρ) :
    log step t (((log step s rs).filter fun e => !drop e).map Prod.fst) =
      (log step s rs).filter fun e => !drop e := by
  induction rs generalizing s t with
  | nil => rfl
  | cons r rs ih =>
    rw [log]
    by_cases hd : drop (r, (step s r).2)
    · rw [List.filter_cons_of_neg (by simp [hd])]
      exact ih (dropped s t r h hd)
    · obtain ⟨he, hr⟩ := kept s t r h hd
      rw [List.filter_cons_of_pos (by simp [hd]), List.map_cons, log, he, ih hr]

/-- The same machine, with the state a request came in kept beside the reply. -/
def observed (step : σ → ρ → σ × ω) (s : σ) (r : ρ) : σ × (σ × ω) :=
  ((step s r).1, s, (step s r).2)

end Replies
