import Mathlib.Data.Multiset.Basic
import Mathlib.Data.Multiset.AddSub
import Mathlib.Data.Multiset.UnionInter
import Mathlib.Tactic.Abel

/-- Where the items are that arrive one by one, are handed over to be consumed or go straight to
a client, and are answered in the end. -/
structure Custody (α : Type*) where
  received : Multiset α
  arriving : Multiset α
  onHand : Multiset α
  withClient : Multiset α
  unanswered : Multiset α
  handed : Multiset α
  consumed : Multiset α

namespace Custody

variable {α : Type*}

/-- No item is in two places, and none is lost. -/
structure Balanced (c : Custody α) : Prop where
  unanswered : c.arriving + c.onHand + c.withClient = c.unanswered
  handed : c.consumed + c.onHand = c.handed
  received : c.arriving + c.handed ≤ c.received
  nodup : c.received.Nodup

namespace Balanced

variable {c : Custody α}

theorem handed_nodup (hb : c.Balanced) : c.handed.Nodup :=
  Multiset.nodup_of_le ((Multiset.le_add_left _ _).trans hb.received) hb.nodup

theorem consumed_le (hb : c.Balanced) : c.consumed ≤ c.handed := by
  rw [← hb.handed]
  exact Multiset.le_add_right _ _

theorem onHand_eq_zero {a : α} (hb : c.Balanced) (h1 : c.unanswered.card ≤ 1)
    (ha : a ∈ c.arriving) : c.onHand = 0 := by
  have hcard := congrArg Multiset.card hb.unanswered
  have hpos : 0 < c.arriving.card := Multiset.card_pos_iff_exists_mem.mpr ⟨a, ha⟩
  rw [Multiset.card_add, Multiset.card_add] at hcard
  exact Multiset.card_eq_zero.mp (by omega)

end Balanced

variable [DecidableEq α]

/-- The ways of an item. It is consumed by being passed to the client or by being answered. -/
inductive Step (c : Custody α) : Custody α → Prop
  | keep : Step c c
  | other (a : α) : a ∉ c.received → Step c { c with received := a ::ₘ c.received }
  | receive (a : α) : a ∉ c.received →
      Step c { c with
        received := a ::ₘ c.received
        arriving := a ::ₘ c.arriving
        unanswered := a ::ₘ c.unanswered }
  | hand (a : α) (rest : Multiset α) : c.arriving = a ::ₘ rest →
      Step c { c with
        arriving := rest
        onHand := a ::ₘ c.onHand
        handed := a ::ₘ c.handed }
  | call (a : α) (rest : Multiset α) : c.arriving = a ::ₘ rest →
      Step c { c with arriving := rest, withClient := a ::ₘ c.withClient }
  | pass (a : α) (rest : Multiset α) : c.onHand = a ::ₘ rest →
      Step c { c with
        onHand := rest
        withClient := a ::ₘ c.withClient
        consumed := a ::ₘ c.consumed }
  | complete (a : α) (rest : Multiset α) : c.onHand = a ::ₘ rest →
      Step c { c with
        onHand := rest
        unanswered := c.unanswered.erase a
        consumed := a ::ₘ c.consumed }
  | answer (a : α) (rest : Multiset α) : c.withClient = a ::ₘ rest →
      Step c { c with withClient := rest, unanswered := c.unanswered.erase a }

theorem Step.of_eq {c c' : Custody α} (h : c' = c) : Step c c' := h ▸ .keep

theorem erase_of_eq_cons {s t : Multiset α} {a : α} (h : a ::ₘ s = t) : t.erase a = s := by
  rw [← h, Multiset.erase_cons_head]

theorem Balanced.step {c c' : Custody α} (hb : c.Balanced) (h : Step c c') : c'.Balanced := by
  have unanswered := hb.unanswered
  have handed := hb.handed
  have received := hb.received
  cases h with
  | keep => exact hb
  | other a ha =>
    exact ⟨unanswered, handed, received.trans (Multiset.le_cons_self _ _),
      Multiset.nodup_cons.mpr ⟨ha, hb.nodup⟩⟩
  | receive a ha =>
    refine ⟨?_, handed, ?_, Multiset.nodup_cons.mpr ⟨ha, hb.nodup⟩⟩
    · simp only [Multiset.cons_add, unanswered]
    · simpa only [Multiset.cons_add] using Multiset.cons_le_cons a received
  | hand a rest ha =>
    rw [ha] at unanswered received
    refine ⟨?_, ?_, ?_, hb.nodup⟩
    · simpa only [Multiset.cons_add, Multiset.add_cons] using unanswered
    · simp only [Multiset.add_cons, handed]
    · simpa only [Multiset.cons_add, Multiset.add_cons] using received
  | call a rest ha =>
    rw [ha] at unanswered received
    refine ⟨?_, handed, ?_, hb.nodup⟩
    · simpa only [Multiset.cons_add, Multiset.add_cons] using unanswered
    · rw [Multiset.cons_add] at received
      exact (Multiset.le_cons_self _ _).trans received
  | pass a rest ha =>
    rw [ha] at unanswered handed
    refine ⟨?_, ?_, received, hb.nodup⟩
    · simpa only [Multiset.cons_add, Multiset.add_cons] using unanswered
    · simpa only [Multiset.cons_add, Multiset.add_cons] using handed
  | complete a rest ha =>
    rw [ha] at unanswered handed
    simp only [Multiset.cons_add, Multiset.add_cons] at unanswered handed
    refine ⟨(erase_of_eq_cons unanswered).symm, ?_, received, hb.nodup⟩
    simpa only [Multiset.cons_add] using handed
  | answer a rest ha =>
    rw [ha] at unanswered
    simp only [Multiset.add_cons] at unanswered
    exact ⟨(erase_of_eq_cons unanswered).symm, handed, received, hb.nodup⟩

end Custody
