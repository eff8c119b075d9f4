import Mathlib.Data.List.Basic

/-- What a log holds that has grown by one entry. -/
theorem List.getElem?_concat_eq_some_iff {α : Type*} {l : List α} {a b : α} {k : Nat} :
    (l ++ [a])[k]? = some b ↔ l[k]? = some b ∨ k = l.length ∧ b = a := by
  by_cases hk : k < l.length
  · rw [List.getElem?_append_left hk]
    have inside : ¬(k = l.length ∧ b = a) := fun h => by omega
    simp only [inside, or_false]
  · have outside : l[k]? = none := List.getElem?_eq_none (by omega)
    rw [List.getElem?_append_right (by omega), List.getElem?_singleton, outside]
    constructor
    · intro h
      split at h
      · cases h
        exact .inr ⟨by omega, rfl⟩
      · cases h
    · rintro (h | ⟨rfl, rfl⟩)
      · cases h
      · simp

namespace Runs

variable {σ α : Type*}

/-- States reached from an initial state by steps that `guard` admits. The guard reads the
label and the state before the step. -/
inductive Reach (step : σ → α → Option σ) (guard : σ → α → Prop) (init : σ → Prop) : σ → Prop
  | start {s} : init s → Reach step guard init s
  | next {s a s'} : Reach step guard init s → guard s a → step s a = some s' →
      Reach step guard init s'

def anyStep (_ : σ) (_ : α) : Prop := True

/-- Execute a list of labels; `none` as soon as a label is not enabled. -/
def exec (step : σ → α → Option σ) : σ → List α → Option σ
  | s, [] => some s
  | s, a :: as => (step s a).bind fun s' => exec step s' as

theorem Reach.exec {step : σ → α → Option σ} {init : σ → Prop} {s s' : σ} {as : List α}
    (hr : Reach step anyStep init s) (h : exec step s as = some s') :
    Reach step anyStep init s' := by
  induction as generalizing s with
  | nil =>
    cases Option.some.inj h
    exact hr
  | cons a as ih =>
    obtain ⟨mid, hs, h⟩ := Option.bind_eq_some_iff.mp h
    exact ih (hr.next trivial hs) h

theorem exists_reach_of_exec {step : σ → α → Option σ} {init : σ → Prop} {s : σ} {as : List α}
    {P : σ → Prop} [DecidablePred P] (hi : init s)
    (h : (Runs.exec step s as).any (fun t => decide (P t)) = true) :
    ∃ t, Reach step anyStep init t ∧ P t := by
  cases he : Runs.exec step s as with
  | none => simp [he] at h
  | some t =>
    have hp : P t := by simpa [he] using h
    exact ⟨t, Reach.exec (.start hi) he, hp⟩

/-- The step function that refuses what `guard` does not admit. -/
def guarded (step : σ → α → Option σ) (guard : σ → α → Prop) [∀ s a, Decidable (guard s a)] (s : σ)
    (a : α) : Option σ :=
  if guard s a then step s a else none

theorem Reach.of_guarded {step : σ → α → Option σ} {guard : σ → α → Prop}
    [∀ s a, Decidable (guard s a)] {init : σ → Prop} {s : σ}
    (h : Reach (guarded step guard) anyStep init s) : Reach step guard init s := by
  induction h with
  | start hi => exact .start hi
  | next _ _ hs ih =>
    unfold guarded at hs
    split at hs
    next hg => exact .next ih hg hs
    next => cases hs

instance (s : σ) (a : α) : Decidable (anyStep s a) := .isTrue trivial

/-- A state with a property that can be evaluated, reached by running labels that are admitted. -/
theorem exists_reach_of_run (step : σ → α → Option σ) (guard : σ → α → Prop)
    [∀ s a, Decidable (guard s a)] {init : σ → Prop} {s : σ} (hi : init s) (as : List α)
    {P : σ → Prop} [DecidablePred P]
    (h : (Runs.exec (guarded step guard) s as).any (fun t => decide (P t)) = true) :
    ∃ t, Reach step guard init t ∧ P t := by
  obtain ⟨t, hr, hp⟩ := exists_reach_of_exec hi h
  exact ⟨t, hr.of_guarded, hp⟩

/-- Every label of an executed list comes in a state that admits it. -/
def Admitted (step : σ → α → Option σ) (guard : σ → α → Prop) : σ → List α → Prop
  | _, [] => True
  | s, a :: as => guard s a ∧
      match step s a with
      | none => True
      | some s' => Admitted step guard s' as

instance decidableAdmitted (step : σ → α → Option σ) (guard : σ → α → Prop)
    [∀ s a, Decidable (guard s a)] : ∀ s as, Decidable (Admitted step guard s as)
  | _, [] => .isTrue trivial
  | s, a :: as =>
    match h : step s a with
    | none => decidable_of_iff (guard s a) (by simp [Admitted, h])
    | some s' =>
      have := decidableAdmitted step guard s' as
      decidable_of_iff (guard s a ∧ Admitted step guard s' as) (by simp [Admitted, h])

/-- Where admitted labels keep `I`, any other label leads from `I` to `B` and nothing leads
out of `B`, the executed lists whose labels are all admitted are those that end in `I`. -/
theorem admitted_or_bad {step : σ → α → Option σ} {guard : σ → α → Prop} {I B : σ → Prop}
    (keep : ∀ s a s', I s → step s a = some s' → guard s a → I s')
    (spoil : ∀ s a s', I s → step s a = some s' → ¬guard s a → B s')
    (stay : ∀ s a s', B s → step s a = some s' → B s')
    {s s' : σ} {as : List α} (hi : I s) (h : exec step s as = some s') :
    Admitted step guard s as ∧ I s' ∨ ¬Admitted step guard s as ∧ B s' := by
  have bad : ∀ {s : σ} {as : List α}, B s → exec step s as = some s' → B s' := by
    intro s as
    induction as generalizing s with
    | nil =>
      intro hb h
      cases Option.some.inj h
      exact hb
    | cons a as ih =>
      intro hb h
      obtain ⟨mid, hs, h⟩ := Option.bind_eq_some_iff.mp h
      exact ih (stay s a mid hb hs) h
  induction as generalizing s with
  | nil =>
    cases Option.some.inj h
    exact .inl ⟨trivial, hi⟩
  | cons a as ih =>
    obtain ⟨mid, hs, h⟩ := Option.bind_eq_some_iff.mp h
    rw [Admitted, hs]
    by_cases hg : guard s a
    · obtain ⟨ha, hend⟩ | ⟨ha, hend⟩ := ih (keep s a mid hi hs hg) h
      · exact .inl ⟨⟨hg, ha⟩, hend⟩
      · exact .inr ⟨fun h => ha h.2, hend⟩
    · exact .inr ⟨fun h => hg h.1, bad (spoil s a mid hi hs hg) h⟩

/-- Where a label leads from `I` to `I` when it is admitted and to a state without `P` when it is
not, `P` holds all along an executed list exactly when all its labels are admitted. -/
theorem forall_prefix_iff_admitted {step : σ → α → Option σ} {guard : σ → α → Prop} {I P : σ → Prop}
    (holds : ∀ s, I s → P s)
    (keep : ∀ s a s', I s → step s a = some s' → guard s a → I s')
    (spoil : ∀ s a s', I s → step s a = some s' → ¬guard s a → ¬P s')
    {s s' : σ} {as : List α} (hi : I s) (h : exec step s as = some s') :
    (∀ as', as' <+: as → ∀ t, exec step s as' = some t → P t) ↔ Admitted step guard s as := by
  induction as generalizing s with
  | nil =>
    refine ⟨fun _ => trivial, fun _ as' hp t ht => ?_⟩
    obtain rfl := List.prefix_nil.mp hp
    cases Option.some.inj ht
    exact holds s hi
  | cons a as ih =>
    obtain ⟨mid, hs, h⟩ := Option.bind_eq_some_iff.mp h
    rw [Admitted, hs]
    by_cases hg : guard s a
    · have rest := ih (keep s a mid hi hs hg) h
      constructor
      · intro all
        refine ⟨hg, rest.mp fun as' hp t ht => ?_⟩
        exact all (a :: as') (List.cons_prefix_cons.mpr ⟨rfl, hp⟩) t (by simp [exec, hs, ht])
      · rintro ⟨-, ha⟩ as' hp t ht
        cases as' with
        | nil =>
          cases Option.some.inj ht
          exact holds s hi
        | cons a' as' =>
          obtain ⟨rfl, hp'⟩ := List.cons_prefix_cons.mp hp
          refine rest.mpr ha as' hp' t ?_
          simpa [exec, hs] using ht
    · refine ⟨fun all => ?_, fun ha => absurd ha.1 hg⟩
      have first := all [a] (List.cons_prefix_cons.mpr ⟨rfl, List.nil_prefix⟩) mid
      exact absurd (first (by simp [exec, hs])) (spoil s a mid hi hs hg)

end Runs
