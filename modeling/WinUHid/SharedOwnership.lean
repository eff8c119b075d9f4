import Mathlib.Data.List.AList
import Mathlib.Algebra.BigOperators.Group.List.Basic
import Mathlib.Algebra.GroupWithZero.Nat

/-- A value with the number of references to it. -/
structure Counted (α : Type*) where
  strong : Nat
  value : α

namespace Counted

variable {α : Type*} {cells : List (Counted α)} {a b : Nat} {x : Counted α}

def strongAt (cells : List (Counted α)) (a : Nat) : Nat := (cells[a]?).elim 0 strong

/-- What the values weigh that are still referenced. -/
def kept (weight : α → Nat) (cells : List (Counted α)) : Nat :=
  (cells.map fun x => if x.strong = 0 then 0 else weight x.value).sum

def alloc (cells : List (Counted α)) (strong : Nat) (value : α) : List (Counted α) :=
  cells ++ [⟨strong, value⟩]

def clone (cells : List (Counted α)) (a : Nat) : List (Counted α) :=
  cells.modify a fun x => { x with strong := x.strong + 1 }

def release (cells : List (Counted α)) (a : Nat) : List (Counted α) :=
  cells.modify a fun x => { x with strong := x.strong - 1 }

theorem strongAt_of_get (h : cells[a]? = some x) : strongAt cells a = x.strong := by
  simp [strongAt, h]

theorem get_of_strongAt (h : 0 < strongAt cells a) : ∃ x, cells[a]? = some x ∧ 0 < x.strong := by
  cases hx : cells[a]? with
  | none => simp [strongAt, hx] at h
  | some x => exact ⟨x, rfl, by rwa [strongAt_of_get hx] at h⟩

theorem modify_eq_set {f : Counted α → Counted α} (h : cells[a]? = some x) :
    cells.modify a f = cells.set a (f x) := by
  apply List.ext_getElem?
  intro i
  rw [List.getElem?_modify, List.getElem?_set]
  by_cases hi : a = i
  · subst hi
    obtain ⟨ha, hx⟩ := List.getElem?_eq_some_iff.mp h
    simp [ha, hx]
  · simp [hi]

theorem clone_eq (h : cells[a]? = some x) : clone cells a = cells.set a ⟨x.strong + 1, x.value⟩ :=
  modify_eq_set h

theorem release_eq (h : cells[a]? = some x) :
    release cells a = cells.set a ⟨x.strong - 1, x.value⟩ :=
  modify_eq_set h

theorem strongAt_set (h : cells[a]? = some x) (n : Nat) :
    strongAt (cells.set a ⟨n, x.value⟩) b = if a = b then n else strongAt cells b := by
  obtain ⟨ha, -⟩ := List.getElem?_eq_some_iff.mp h
  rw [strongAt, List.getElem?_set]
  split
  · simp
  · rfl

theorem strongAt_alloc (n : Nat) (v : α) :
    strongAt (alloc cells n v) b = if b = cells.length then n else strongAt cells b := by
  unfold alloc strongAt
  by_cases hb : b < cells.length
  · have inside : b ≠ cells.length := by omega
    simp [List.getElem?_append_left hb, inside]
  · rw [List.getElem?_append_right (by omega), List.getElem?_eq_none (l := cells) (by omega),
      List.getElem?_singleton]
    have place : b - cells.length = 0 ↔ b = cells.length := by omega
    simp only [place]
    split
    · rfl
    · rfl

theorem value_set (h : cells[a]? = some x) (n : Nat) :
    (cells.set a ⟨n, x.value⟩)[b]?.map value = cells[b]?.map value := by
  obtain ⟨ha, hx⟩ := List.getElem?_eq_some_iff.mp h
  rw [List.getElem?_set]
  split
  next hb =>
    subst hb
    simp [ha, hx]
  next => rfl

theorem kept_set (weight : α → Nat) (h : cells[a]? = some x) (n : Nat) :
    kept weight (cells.set a ⟨n, x.value⟩) + (if x.strong = 0 then 0 else weight x.value) =
      kept weight cells + if n = 0 then 0 else weight x.value := by
  obtain ⟨ha, hx⟩ := List.getElem?_eq_some_iff.mp h
  have before : cells = cells.take a ++ x :: cells.drop (a + 1) := by
    rw [← hx, List.getElem_cons_drop, List.take_append_drop]
  have after : cells.set a ⟨n, x.value⟩ =
      cells.take a ++ ⟨n, x.value⟩ :: cells.drop (a + 1) := List.set_eq_take_append_cons_drop.trans
    (if_pos ha)
  rw [after]
  conv => rhs; rw [before]
  simp only [kept, List.map_append, List.map_cons, List.sum_append, List.sum_cons]
  omega

theorem kept_alloc {weight : α → Nat} (v : α) (n : Nat) :
    kept weight (alloc cells (n + 1) v) = kept weight cells + weight v := by
  simp [kept, alloc]

theorem exists_of_kept {weight : α → Nat} (h : kept weight cells ≠ 0) :
    ∃ (a : Nat) (x : Counted α), cells[a]? = some x ∧ x.strong ≠ 0 ∧ weight x.value ≠ 0 := by
  obtain ⟨w, hw, hne⟩ := List.exists_mem_ne_zero_of_sum_ne_zero h
  obtain ⟨x, hx, rfl⟩ := List.mem_map.mp hw
  obtain ⟨a, ha⟩ := List.mem_iff_getElem?.mp hx
  split at hne
  · exact absurd rfl hne
  next hs => exact ⟨a, x, ha, hs, hne⟩

theorem le_kept (weight : α → Nat) (h : cells[a]? = some x) (hs : 0 < x.strong) :
    weight x.value ≤ kept weight cells := by
  have one := kept_set weight h 0
  have positive : x.strong ≠ 0 := by omega
  simp only [positive, if_false, if_true] at one
  omega

theorem add_le_kept (weight : α → Nat) {y : Counted α} (ha : cells[a]? = some x)
    (hb : cells[b]? = some y) (ne : a ≠ b) (hx : 0 < x.strong) (hy : 0 < y.strong) :
    weight x.value + weight y.value ≤ kept weight cells := by
  have one := kept_set weight ha 0
  have rest : (cells.set a ⟨0, x.value⟩)[b]? = some y := by rwa [List.getElem?_set_ne ne]
  have two := le_kept weight rest hy
  rw [if_neg (by omega), if_pos rfl] at one
  omega

end Counted

namespace AList

variable {κ α : Type*} [DecidableEq κ]

/-- A key holds its value until it is erased. -/
theorem values_erase (l : AList fun _ : κ => α) (k : κ) :
    ((l.lookup k).toList ++ (l.erase k).entries.map Sigma.snd).Perm (l.entries.map Sigma.snd) := by
  cases hb : l.lookup k with
  | none =>
    have absent : k ∉ l.entries.keys := List.dlookup_eq_none.mp hb
    show ((List.kerase k l.entries).map Sigma.snd).Perm _
    rw [List.kerase_of_notMem_keys absent]
  | some b =>
    have present : k ∈ l.entries.keys := List.dlookup_isSome.mp (by rw [← AList.lookup, hb]; rfl)
    obtain ⟨c, before, after, -, hl, he⟩ := List.exists_of_kerase present
    have same : c = b := by
      have mem : (⟨k, c⟩ : Sigma fun _ : κ => α) ∈ l.entries := by simp [hl]
      have hc := (List.mem_dlookup_iff l.nodupKeys).mpr mem
      rw [← AList.lookup, hb] at hc
      exact (Option.some.inj hc).symm
    subst same
    show (c :: (List.kerase k l.entries).map Sigma.snd).Perm _
    rw [he, hl, List.map_append, List.map_append, List.map_cons]
    exact List.perm_middle.symm

theorem values_insert (l : AList fun _ : κ => α) (k : κ) (b : α) :
    ((l.lookup k).toList ++ (l.insert k b).entries.map Sigma.snd).Perm
      (b :: l.entries.map Sigma.snd) := by
  show ((l.lookup k).toList ++ b :: (l.erase k).entries.map Sigma.snd).Perm _
  exact List.perm_middle.trans ((l.values_erase k).cons b)

theorem count_erase [DecidableEq α] (l : AList fun _ : κ => α) (k : κ) (a : α) :
    ((l.erase k).entries.map Sigma.snd).count a + (l.lookup k).toList.count a =
      (l.entries.map Sigma.snd).count a := by
  rw [← (l.values_erase k).count_eq a, List.count_append, add_comm]

theorem count_insert [DecidableEq α] (l : AList fun _ : κ => α) (k : κ) (a b : α) :
    ((l.insert k b).entries.map Sigma.snd).count a + (l.lookup k).toList.count a =
      (l.entries.map Sigma.snd).count a + [b].count a := by
  have perm := (l.values_insert k b).count_eq a
  rw [List.count_append, ← List.singleton_append, List.count_append] at perm
  omega

theorem length_erase (l : AList fun _ : κ => α) (k : κ) :
    (l.erase k).entries.length + (l.lookup k).toList.length = l.entries.length := by
  have perm := (l.values_erase k).length_eq
  rw [List.length_append, List.length_map, List.length_map] at perm
  omega

theorem length_insert (l : AList fun _ : κ => α) (k : κ) (b : α) :
    (l.insert k b).entries.length + (l.lookup k).toList.length = l.entries.length + 1 := by
  have perm := (l.values_insert k b).length_eq
  rw [List.length_append, List.length_map, List.length_cons, List.length_map] at perm
  omega

end AList
