import Mathlib.Data.List.Basic

/-- A queue shared by several owners: who an entry belongs to is part of it. -/
abbrev SharedQueue (ι α : Type*) := List (ι × α)

namespace SharedQueue

variable {ι α : Type*} [DecidableEq ι] {o p : ι} {a : α} {q q' : SharedQueue ι α}

/-- What an owner sees of the queue. -/
def own (o : ι) (q : SharedQueue ι α) : List α :=
  q.filterMap fun x => if x.1 = o then some x.2 else none

/-- The first entry of an owner, and the queue without it. -/
def retrieve (o : ι) : SharedQueue ι α → Option (α × SharedQueue ι α)
  | [] => none
  | (p, a) :: q =>
    if p = o then some (a, q) else (retrieve o q).map fun found => (found.1, (p, a) :: found.2)

@[simp] theorem own_nil (o : ι) : own o ([] : SharedQueue ι α) = [] := rfl

theorem own_append (o : ι) (q q' : SharedQueue ι α) : own o (q ++ q') = own o q ++ own o q' :=
  List.filterMap_append

@[simp] theorem own_cons_self (o : ι) (a : α) (q : SharedQueue ι α) :
    own o ((o, a) :: q) = a :: own o q := by
  simp [own]

theorem own_cons_ne (h : p ≠ o) (a : α) (q : SharedQueue ι α) : own o ((p, a) :: q) = own o q := by
  simp [own, h]

theorem own_eq_nil (h : ∀ x ∈ q, x.1 ≠ o) : own o q = [] := by
  rw [own, List.filterMap_eq_nil_iff]
  exact fun x hx => if_neg (h x hx)

theorem retrieve_eq_none : retrieve o q = none ↔ own o q = [] := by
  induction q with
  | nil => simp [retrieve]
  | cons x q ih =>
    obtain ⟨p, a⟩ := x
    rw [retrieve]
    split
    next h =>
      subst h
      simp
    next h => rw [own_cons_ne h, Option.map_eq_none_iff, ih]

/-- Taking an owner's first entry takes nothing from the others. -/
theorem own_of_retrieve (h : retrieve o q = some (a, q')) :
    own o q = a :: own o q' ∧ (∀ p ≠ o, own p q' = own p q) ∧ ∀ x ∈ q', x ∈ q := by
  induction q generalizing q' with
  | nil => cases h
  | cons x q ih =>
    obtain ⟨p, b⟩ := x
    rw [retrieve] at h
    split at h
    next he =>
      subst he
      obtain ⟨rfl, rfl⟩ := Prod.mk.inj (Option.some.inj h)
      refine ⟨own_cons_self _ _ _, fun r hr => (own_cons_ne hr.symm _ _).symm, ?_⟩
      exact fun x hx => List.mem_cons_of_mem _ hx
    next hne =>
      obtain ⟨⟨b', rest⟩, hr, he⟩ := Option.map_eq_some_iff.mp h
      obtain ⟨rfl, rfl⟩ := Prod.mk.inj he
      obtain ⟨mine, others, kept⟩ := ih hr
      refine ⟨?_, fun r hne' => ?_, fun x hx => ?_⟩
      · rw [own_cons_ne hne, own_cons_ne hne, mine]
      · by_cases hp : p = r
        · subst hp
          rw [own_cons_self, own_cons_self, others p hne]
        · rw [own_cons_ne hp, own_cons_ne hp, others r hne']
      · rcases List.mem_cons.mp hx with rfl | hx
        · exact List.mem_cons_self
        · exact List.mem_cons_of_mem _ (kept x hx)

/-- Where an entry of the shared queue stands in its owner's. -/
theorem own_eraseIdx {i : Nat} (h : q[i]? = some (o, a)) :
    (own o q)[(own o (q.take i)).length]? = some a ∧
      own o (q.eraseIdx i) = (own o q).eraseIdx (own o (q.take i)).length ∧
      ∀ p ≠ o, own p (q.eraseIdx i) = own p q := by
  obtain ⟨hi, hv⟩ := List.getElem?_eq_some_iff.mp h
  have parts : q = q.take i ++ (o, a) :: q.drop (i + 1) := by
    rw [← hv, List.getElem_cons_drop, List.take_append_drop]
  have mine : own o q = own o (q.take i) ++ a :: own o (q.drop (i + 1)) := by
    conv_lhs => rw [parts]
    rw [own_append, own_cons_self]
  rw [List.eraseIdx_eq_take_drop_succ, own_append, mine]
  refine ⟨?_, ?_, fun p hp => ?_⟩
  · rw [List.getElem?_append_right (Nat.le_refl _), Nat.sub_self, List.getElem?_cons_zero]
  · rw [List.eraseIdx_append_of_length_le (Nat.le_refl _), Nat.sub_self, List.eraseIdx_cons_zero]
  · conv_rhs => rw [parts]
    rw [own_append, own_append, own_cons_ne (Ne.symm hp)]

/-- An owner's entry stands somewhere in the shared queue. -/
theorem exists_of_own {k : Nat} (h : (own o q)[k]? = some a) :
    ∃ i, q[i]? = some (o, a) ∧ (own o (q.take i)).length = k := by
  induction q generalizing k with
  | nil => simp at h
  | cons x q ih =>
    obtain ⟨p, b⟩ := x
    by_cases hp : p = o
    · subst hp
      rw [own_cons_self] at h
      cases k with
      | zero =>
        rw [List.getElem?_cons_zero] at h
        exact ⟨0, by rw [List.getElem?_cons_zero, Option.some.inj h], rfl⟩
      | succ k =>
        rw [List.getElem?_cons_succ] at h
        obtain ⟨i, hi, hk⟩ := ih h
        refine ⟨i + 1, by rw [List.getElem?_cons_succ, hi], ?_⟩
        rw [List.take_succ_cons, own_cons_self, List.length_cons, hk]
    · rw [own_cons_ne hp] at h
      obtain ⟨i, hi, hk⟩ := ih h
      refine ⟨i + 1, by rw [List.getElem?_cons_succ, hi], ?_⟩
      rw [List.take_succ_cons, own_cons_ne hp, hk]

end SharedQueue
