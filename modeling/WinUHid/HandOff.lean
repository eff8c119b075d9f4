import WinUHid.ThreadPool
import WinUHid.Runs

namespace HandOff

/-- A place whose content is loaded and prepared in a critical section and passed on afterwards. -/
structure Place (σ κ β : Type*) where
  load : σ → β → σ
  prepare : σ → κ → σ
  content : σ → β

/-- The place, everything that was prepared in it, and what was passed on for which preparation. -/
structure Shared (σ β : Type*) where
  place : σ
  prepared : List β
  handed : List (Nat × β)

/-- What a call is about to do: its critical section, where it may load a value first, or passing
on what it has prepared there. -/
inductive Call (β : Type*) where
  | locked (value : Option β)
  | unlocked (index : Nat)

/-- `κ` is the reading of the clock in a critical section. -/
inductive Action (κ β : Type*) where
  | arrives (value : Option β)
  | call (i : Nat) (clock : κ)

variable {σ κ β : Type*}

def Call.isUnlocked : Call β → Bool
  | locked _ => false
  | unlocked _ => true

namespace Place

variable (place : Place σ κ β)

def body (clock : κ) (s : Shared σ β) : Call β → Shared σ β × List (Call β)
  | .locked value =>
    let loaded := match value with
      | none => s.place
      | some value => place.load s.place value
    let ready := place.prepare loaded clock
    (⟨ready, s.prepared ++ [place.content ready], s.handed⟩, [.unlocked s.prepared.length])
  | .unlocked index => ({ s with handed := s.handed ++ [(index, place.content s.place)] }, [])

def step (p : Pool (Shared σ β) (Call β)) : Action κ β → Option (Pool (Shared σ β) (Call β))
  | .arrives value => some (p.spawn p.shared (.locked value))
  | .call i clock => p.run (place.body clock) i

def Fresh (s : σ) (p : Pool (Shared σ β) (Call β)) : Prop := p = ⟨⟨s, [], []⟩, []⟩

end Place

/-- Each call passes on what it has prepared itself. -/
def OwnContent (p : Pool (Shared σ β) (Call β)) : Prop :=
  ∀ e ∈ p.shared.handed, p.shared.prepared[e.1]? = some e.2

instance [DecidableEq β] (p : Pool (Shared σ β) (Call β)) : Decidable (OwnContent p) := by
  unfold OwnContent
  infer_instance

/-- No critical section is entered while another call has left its own and not yet passed on what
it prepared there. -/
def Exclusive (p : Pool (Shared σ β) (Call β)) : Action κ β → Prop
  | .arrives _ => True
  | .call i _ =>
    match p.threads[i]? with
    | some (.locked _) => ∀ t ∈ p.threads, t.isUnlocked = false
    | _ => True

instance (p : Pool (Shared σ β) (Call β)) (a : Action κ β) : Decidable (Exclusive p a) := by
  unfold Exclusive
  split
  · infer_instance
  · split <;> infer_instance

section Steps

variable {place : Place σ κ β} {p p' : Pool (Shared σ β) (Call β)}

/-- What a step does to the reports, by the kind of step. -/
inductive Moves (place : Place σ κ β) (p p' : Pool (Shared σ β) (Call β)) : Action κ β → Prop
  | arrives {value} (shared : p'.shared = p.shared)
      (threads : p'.threads = p.threads ++ [.locked value]) : Moves place p p' (.arrives value)
  | prepares {i clock value l r} (at_i : p.threads[i]? = some (.locked value))
      (before : p.threads = l ++ .locked value :: r)
      (threads : p'.threads = l ++ [.unlocked p.shared.prepared.length] ++ r)
      (loaded : ∃ s, (s = p.shared.place ∨ ∃ v, s = place.load p.shared.place v) ∧
        p'.shared.place = place.prepare s clock)
      (prepared : p'.shared.prepared = p.shared.prepared ++ [place.content p'.shared.place])
      (handed : p'.shared.handed = p.shared.handed) : Moves place p p' (.call i clock)
  | hands {i clock index l r} (at_i : p.threads[i]? = some (.unlocked index))
      (before : p.threads = l ++ .unlocked index :: r) (threads : p'.threads = l ++ [] ++ r)
      (content : p'.shared.place = p.shared.place)
      (prepared : p'.shared.prepared = p.shared.prepared)
      (handed : p'.shared.handed =
        p.shared.handed ++ [(index, place.content p.shared.place)]) :
      Moves place p p' (.call i clock)

theorem step_cases {a : Action κ β} (h : place.step p a = some p') : Moves place p p' a := by
  cases a with
  | arrives value =>
    cases h
    exact .arrives rfl rfl
  | call i clock =>
    obtain ⟨l, t, r, ht, hi, hs, hp⟩ := Pool.run_cases h
    cases t with
    | locked value =>
      refine .prepares hi ht hp ?_ (by rw [hs]; rfl) (by rw [hs]; rfl)
      cases value with
      | none => exact ⟨_, .inl rfl, by rw [hs]; rfl⟩
      | some v => exact ⟨_, .inr ⟨v, rfl⟩, by rw [hs]; rfl⟩
    | unlocked index => exact .hands hi ht hp (by rw [hs]; rfl) (by rw [hs]; rfl) (by rw [hs]; rfl)

/-- What has been passed on was prepared by the same call, and so is what lies ready for the calls
that still have to pass it on. -/
structure Ready (place : Place σ κ β) (p : Pool (Shared σ β) (Call β)) : Prop where
  own : OwnContent p
  pending : ∀ index, Call.unlocked index ∈ p.threads →
    p.shared.prepared[index]? = some (place.content p.shared.place)

theorem Ready.next {a : Action κ β} (h : Ready place p) (hs : place.step p a = some p')
    (hx : Exclusive p a) : Ready place p' := by
  cases step_cases hs with
  | arrives shared threads =>
    refine ⟨by rw [OwnContent, shared]; exact h.own, fun index hi => ?_⟩
    rw [shared]
    refine h.pending index ?_
    simpa [threads] using hi
  | prepares at_i before threads _ prepared handed =>
    refine ⟨fun e he => ?_, fun index hi => ?_⟩
    · rw [handed] at he
      have own := h.own e he
      rw [prepared, List.getElem?_append_left (List.getElem?_eq_some_iff.mp own).1]
      exact own
    · -- The guard leaves this call as the only one with something to pass on.
      have alone : ∀ t ∈ p.threads, t.isUnlocked = false := by simpa [Exclusive, at_i] using hx
      have other : ∀ j, Call.unlocked j ∉ p.threads := fun j hj => by cases alone _ hj
      have mine : index = p.shared.prepared.length := by
        rw [threads] at hi
        rw [before] at other
        obtain hi | hi := Pool.mem_of_replace (.locked _) hi
        · simpa using hi
        · exact absurd hi (other index)
      rw [prepared, mine]
      simp
  | hands at_i before threads content prepared handed =>
    refine ⟨fun e he => ?_, fun index hi => ?_⟩
    · rw [prepared]
      rw [handed] at he
      rcases List.mem_append.mp he with he | he
      · exact h.own e he
      · cases List.mem_singleton.mp he
        exact h.pending _ (by rw [before]; simp)
    · rw [prepared, content]
      refine h.pending index ?_
      rw [threads] at hi
      rw [before]
      simp only [List.append_nil, List.mem_append, List.mem_cons] at hi ⊢
      exact hi.elim .inl fun hr => .inr (.inr hr)

end Steps

/-- In a run whose critical sections are entered only when nothing waits to be passed on, each call
passes on what it has prepared. -/
theorem ownContent_of_exclusive {place : Place σ κ β} {s : σ} {p : Pool (Shared σ β) (Call β)}
    (h : Runs.Reach place.step Exclusive (Place.Fresh s) p) : OwnContent p := by
  have ready : Ready place p := by
    induction h with
    | start hi =>
      cases hi
      exact ⟨nofun, nofun⟩
    | next _ hg hs ih => exact ih.next hs hg
  exact ready.own

section Numbers

variable {place : Place σ κ β} {number : σ → Nat} {carried : β → Nat} {m first : Nat}

/-- The preparations count on from `first`, and each carries its number. -/
structure Numbered (number : σ → Nat) (carried : β → Nat) (m first : Nat)
    (p : Pool (Shared σ β) (Call β)) : Prop where
  count : number p.shared.place % m = (first + p.shared.prepared.length) % m
  carries : ∀ k b, p.shared.prepared[k]? = some b → carried b = (first + k) % m

theorem Numbered.next {p p' : Pool (Shared σ β) (Call β)} {a : Action κ β}
    (h : Numbered number carried m first p) (hs : place.step p a = some p')
    (load : ∀ s v, number (place.load s v) = number s)
    (prepare : ∀ s clock, number (place.prepare s clock) = (number s + 1) % m ∧
      carried (place.content (place.prepare s clock)) = number s % m) :
    Numbered number carried m first p' := by
  obtain ⟨count, carries⟩ := h
  cases step_cases hs with
  | arrives shared _ =>
    exact ⟨by rw [shared]; exact count, by rw [shared]; exact carries⟩
  | hands _ _ _ content prepared _ =>
    exact ⟨by rw [content, prepared]; exact count, by rw [prepared]; exact carries⟩
  | @prepares i clock value l r _ _ _ loaded prepared _ =>
    obtain ⟨s, hs, ready⟩ := loaded
    have same : number s = number p.shared.place := by
      obtain rfl | ⟨v, rfl⟩ := hs
      · rfl
      · exact load _ v
    obtain ⟨goesOn, carriesOn⟩ := prepare s clock
    rw [← ready] at goesOn carriesOn
    rw [same] at goesOn carriesOn
    refine ⟨?_, fun k b hb => ?_⟩
    · calc number p'.shared.place % m
          = (number p.shared.place + 1) % m := by rw [goesOn, Nat.mod_mod]
        _ = (number p.shared.place % m + 1) % m := (Nat.mod_add_mod ..).symm
        _ = (first + p.shared.prepared.length + 1) % m := by rw [count, Nat.mod_add_mod]
        _ = (first + p'.shared.prepared.length) % m := by
            rw [prepared, List.length_append, List.length_singleton, Nat.add_assoc]
    · rw [prepared] at hb
      rcases List.getElem?_concat_eq_some_iff.mp hb with hb | ⟨rfl, rfl⟩
      · exact carries k b hb
      · rw [carriesOn, count]

/-- Whatever is loaded in between, each preparation carries its number. -/
theorem carried_of_reach (number : σ → Nat)
    {guard : Pool (Shared σ β) (Call β) → Action κ β → Prop}
    (load : ∀ s v, number (place.load s v) = number s)
    (prepare : ∀ s clock, number (place.prepare s clock) = (number s + 1) % m ∧
      carried (place.content (place.prepare s clock)) = number s % m)
    {s : σ} {p : Pool (Shared σ β) (Call β)}
    (h : Runs.Reach place.step guard (Place.Fresh s) p) :
    ∀ k b, p.shared.prepared[k]? = some b → carried b = (number s + k) % m := by
  have numbered : Numbered number carried m (number s) p := by
    induction h with
    | start hi =>
      cases hi
      exact ⟨rfl, nofun⟩
    | next _ _ hs ih => exact ih.next hs load prepare
  exact numbered.carries

end Numbers

end HandOff
