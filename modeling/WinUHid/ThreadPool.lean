import Mathlib.Algebra.BigOperators.Group.List.Basic
import Mathlib.Tactic.Abel

/-- Some threads in progress over one shared state. -/
structure Pool (σ τ : Type*) where
  shared : σ
  threads : List τ

namespace Pool

variable {σ τ M : Type*}

/-- One atomic step of the thread at position `i`: `body` gives the new shared state and what is
left of the thread, nothing when it has ended. -/
def run (body : σ → τ → σ × List τ) (p : Pool σ τ) (i : Nat) : Option (Pool σ τ) :=
  (p.threads[i]?).map fun t =>
    ⟨(body p.shared t).1, p.threads.take i ++ (body p.shared t).2 ++ p.threads.drop (i + 1)⟩

/-- A new thread starts over a changed shared state. -/
def spawn (p : Pool σ τ) (s : σ) (t : τ) : Pool σ τ := ⟨s, p.threads ++ [t]⟩

@[simp] theorem spawn_shared (p : Pool σ τ) (s : σ) (t : τ) : (p.spawn s t).shared = s := rfl

@[simp] theorem spawn_threads (p : Pool σ τ) (s : σ) (t : τ) :
    (p.spawn s t).threads = p.threads ++ [t] := rfl

theorem run_cases {body : σ → τ → σ × List τ} {p p' : Pool σ τ} {i : Nat}
    (h : p.run body i = some p') :
    ∃ l t r, p.threads = l ++ t :: r ∧ p.threads[i]? = some t ∧ p'.shared = (body p.shared t).1 ∧
      p'.threads = l ++ (body p.shared t).2 ++ r := by
  obtain ⟨t, ht, he⟩ := Option.map_eq_some_iff.mp h
  obtain ⟨hi, hv⟩ := List.getElem?_eq_some_iff.mp ht
  refine ⟨p.threads.take i, t, p.threads.drop (i + 1), ?_, ht, ?_, ?_⟩
  · rw [← hv, List.getElem_cons_drop, List.take_append_drop]
  · rw [← he]
  · rw [← he]

/-- What every thread satisfies is kept when one of them is replaced by threads that satisfy it. -/
theorem forall_replace {l r ts : List τ} {t : τ} {Q : τ → Prop} (all : ∀ u ∈ l ++ t :: r, Q u)
    (keep : Q t → ∀ u ∈ ts, Q u) : ∀ u ∈ l ++ ts ++ r, Q u := by
  intro u hu
  rcases List.mem_append.mp hu with hu | hu
  · rcases List.mem_append.mp hu with hu | hu
    · exact all u (by simp [hu])
    · exact keep (all t (by simp)) u hu
  · exact all u (by simp [hu])

theorem mem_replace {l r ts : List τ} {t u : τ} (h : u ∈ l ++ t :: r) (hn : u ≠ t) :
    u ∈ l ++ ts ++ r := by
  rcases List.mem_append.mp h with h | h
  · simp [h]
  · rcases List.mem_cons.mp h with h | h
    · exact absurd h hn
    · simp [h]

theorem mem_of_replaced {p p' : Pool σ τ} {l r ts : List τ} {t u : τ}
    (before : p.threads = l ++ t :: r) (after : p'.threads = l ++ ts ++ r) (h : u ∈ p.threads)
    (hn : u ≠ t) : u ∈ p'.threads := by
  rw [before] at h
  rw [after]
  exact mem_replace h hn

theorem mem_of_replace {l r ts : List τ} (t : τ) {u : τ} (h : u ∈ l ++ ts ++ r) :
    u ∈ ts ∨ u ∈ l ++ t :: r := by
  rcases List.mem_append.mp h with h | h
  · rcases List.mem_append.mp h with h | h
    · simp [h]
    · simp [h]
  · simp [h]

theorem forall_spawn {ts : List τ} {t : τ} {Q : τ → Prop} (all : ∀ u ∈ ts, Q u) (new : Q t) :
    ∀ u ∈ ts ++ [t], Q u := by
  intro u hu
  rcases List.mem_append.mp hu with hu | hu
  · exact all u hu
  · cases List.mem_singleton.mp hu
    exact new

section Measure

variable [AddCommMonoid M]

/-- What the shared state and the threads hold together. -/
def total (μ : σ → M) (w : τ → M) (p : Pool σ τ) : M := μ p.shared + (p.threads.map w).sum

theorem total_spawn (μ : σ → M) (w : τ → M) (p : Pool σ τ) (s : σ) (t : τ) :
    (p.spawn s t).total μ w = μ s + (p.threads.map w).sum + w t := by
  simp [total, add_assoc]

theorem total_replace (μ : σ → M) (w : τ → M) (s : σ) (l ts r : List τ) :
    (⟨s, l ++ ts ++ r⟩ : Pool σ τ).total μ w =
      μ s + (ts.map w).sum + ((l.map w).sum + (r.map w).sum) := by
  simp only [total, List.map_append, List.sum_append]
  abel

theorem total_run (μ : σ → M) (w : τ → M) {p : Pool σ τ} {l r : List τ} {t : τ}
    (hp : p.threads = l ++ t :: r) (s : σ) (ts : List τ) :
    (⟨s, l ++ ts ++ r⟩ : Pool σ τ).total μ w + (μ p.shared + w t) =
      p.total μ w + (μ s + (ts.map w).sum) := by
  rw [total_replace, total, hp]
  simp only [List.map_append, List.map_cons, List.sum_append, List.sum_cons]
  abel

/-- A ledger is kept by a step that issues exactly what its thread and the shared state gain. -/
theorem balanced_replace {μ issued : σ → M} {w : τ → M} {p : Pool σ τ} {l r ts : List τ} {t : τ}
    {s : σ} (hp : p.threads = l ++ t :: r) (hb : p.total μ w = issued p.shared) {gain : M}
    (hi : issued s = issued p.shared + gain)
    (hg : μ s + (ts.map w).sum = μ p.shared + w t + gain) :
    (⟨s, l ++ ts ++ r⟩ : Pool σ τ).total μ w = issued s := by
  have hold : issued p.shared = μ p.shared + w t + ((l.map w).sum + (r.map w).sum) := by
    rw [← hb, total, hp]
    simp only [List.map_append, List.map_cons, List.sum_append, List.sum_cons]
    abel
  rw [total_replace, hg, hi, hold]
  abel

theorem balanced_spawn {μ issued : σ → M} {w : τ → M} {p : Pool σ τ} {t : τ} {s : σ}
    (hb : p.total μ w = issued p.shared) {gain : M} (hi : issued s = issued p.shared + gain)
    (hg : μ s + w t = μ p.shared + gain) : (p.spawn s t).total μ w = issued s := by
  rw [total_spawn, hi, ← hb, total]
  calc μ s + (p.threads.map w).sum + w t = (μ s + w t) + (p.threads.map w).sum := by abel
    _ = (μ p.shared + gain) + (p.threads.map w).sum := by rw [hg]
    _ = μ p.shared + (p.threads.map w).sum + gain := by abel

end Measure

theorem le_total (μ : σ → Nat) (w : τ → Nat) {p : Pool σ τ} {t : τ} (ht : t ∈ p.threads) :
    μ p.shared + w t ≤ p.total μ w := by
  obtain ⟨l, r, hp⟩ := List.append_of_mem ht
  rw [total, hp]
  simp only [List.map_append, List.map_cons, List.sum_append, List.sum_cons]
  omega

/-- What two threads hold is in the total. -/
theorem add_le_total (μ : σ → Nat) (w : τ → Nat) {p : Pool σ τ} {l r : List τ} {t u : τ}
    (hp : p.threads = l ++ t :: r) (hu : u ∈ l ++ r) : w t + w u ≤ p.total μ w := by
  have rest : w u ≤ (l.map w).sum + (r.map w).sum := by
    obtain ⟨a, b, hab⟩ := List.append_of_mem hu
    have := congrArg (fun ts => (ts.map w).sum) hab
    simp only [List.map_append, List.map_cons, List.sum_append, List.sum_cons] at this
    omega
  rw [total, hp]
  simp only [List.map_append, List.map_cons, List.sum_append, List.sum_cons]
  omega

end Pool
