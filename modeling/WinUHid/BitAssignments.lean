import WinUHid.Bits

namespace Bits

variable {n : Nat}

/-- The object with exactly the bits of the span set. -/
def Span.mask (n : Nat) (s : Span) : BitVec n := write 0 s (2 ^ s.width - 1)

theorem Span.getLsbD_mask (s : Span) (i : Nat) :
    (s.mask n).getLsbD i = decide (i < n ∧ i ∈ s) := by
  rw [Span.mask, getLsbD_write]
  by_cases hi : i ∈ s
  · have hw : i - s.start < s.width := by
      rw [mem_iff, Span.stop] at hi
      omega
    simp [hi, Nat.testBit_two_pow_sub_one, hw]
  · simp [hi]

/-- The object with the bits of all the spans set. -/
def maskOf (n : Nat) (l : List Span) : BitVec n := l.foldr (fun s m => s.mask n ||| m) 0

theorem getLsbD_maskOf (l : List Span) (i : Nat) :
    (maskOf n l).getLsbD i = decide (i < n ∧ ∃ s ∈ l, i ∈ s) := by
  induction l with
  | nil => simp [maskOf]
  | cons s l ih =>
    show (s.mask n ||| maskOf n l).getLsbD i = _
    rw [BitVec.getLsbD_or, ih, Span.getLsbD_mask]
    simp [and_or_left]

/-- The assignment of a value, which may depend on the object, to a span of it. -/
structure Assignment (n : Nat) where
  target : Span
  value : BitVec n → Nat

namespace Assignment

def set (s : Span) (v : Nat) : Assignment n := ⟨s, fun _ => v⟩

/-- An assignment that reads the span it writes. -/
def update (s : Span) (f : Nat → Nat) : Assignment n := ⟨s, fun m => f (read m s)⟩

def run (m : BitVec n) (a : Assignment n) : BitVec n := write m a.target (a.value m)

end Assignment

def runAll (as : List (Assignment n)) (m : BitVec n) : BitVec n := as.foldl Assignment.run m

@[simp] theorem runAll_cons (a : Assignment n) (as : List (Assignment n)) (m : BitVec n) :
    runAll (a :: as) m = runAll as (a.run m) := rfl

theorem runAll_append (as bs : List (Assignment n)) (m : BitVec n) :
    runAll (as ++ bs) m = runAll bs (runAll as m) := List.foldl_append

/-- Two objects have the same bits where the mask has ones. -/
def AgreeOn (p m m' : BitVec n) : Prop := ∀ i, p.getLsbD i = true → m.getLsbD i = m'.getLsbD i

theorem AgreeOn.refl (p m : BitVec n) : AgreeOn p m m := fun _ _ => rfl

theorem AgreeOn.trans {p m m' m'' : BitVec n} (h : AgreeOn p m m') (h' : AgreeOn p m' m'') :
    AgreeOn p m m'' := fun i hi => (h i hi).trans (h' i hi)

theorem AgreeOn.symm {p m m' : BitVec n} (h : AgreeOn p m m') : AgreeOn p m' m :=
  fun i hi => (h i hi).symm

/-- Where the mask has the ones of `c` in the span, the span has the same bits under `c`. -/
theorem AgreeOn.read_and {p m m' : BitVec n} (h : AgreeOn p m m') {s : Span} {c : Nat}
    (hc : ∀ k < s.width, c.testBit k = true → p.getLsbD (s.start + k) = true) :
    read m s &&& c = read m' s &&& c := by
  refine Nat.eq_of_testBit_eq fun k => ?_
  rw [Nat.testBit_and, Nat.testBit_and, testBit_read, testBit_read]
  by_cases hk : k < s.width
  · cases hb : c.testBit k with
    | false => simp
    | true => rw [h _ (hc k hk hb)]
  · simp [hk]

theorem getLsbD_false_of_and {p q : BitVec n} (h : p &&& q = 0) {i : Nat}
    (hi : p.getLsbD i = true) : q.getLsbD i = false := by
  have bit := congrArg (fun x => x.getLsbD i) h
  simpa [hi] using bit

theorem lt_of_getLsbD {p : BitVec n} {i : Nat} (hi : p.getLsbD i = true) : i < n := by
  by_contra hge
  rw [BitVec.getLsbD_of_ge p i (by omega)] at hi
  cases hi

/-- The assignments leave the bits of the mask as they are. -/
def Keeps (p : BitVec n) (as : List (Assignment n)) : Prop := ∀ m, AgreeOn p (runAll as m) m

namespace Keeps

variable {p : BitVec n} {as bs : List (Assignment n)}

theorem append (ha : Keeps p as) (hb : Keeps p bs) : Keeps p (as ++ bs) := by
  intro m
  rw [runAll_append]
  exact (hb _).trans (ha m)

theorem split {k : Nat} (ha : Keeps p (as.take k)) (hb : Keeps p (as.drop k)) : Keeps p as := by
  rw [← List.take_append_drop k as]
  exact append ha hb

theorem cons {a : Assignment n} (ha : Keeps p [a]) (hb : Keeps p bs) : Keeps p (a :: bs) :=
  append ha hb

theorem of_not_mem (h : ∀ a ∈ as, ∀ i, p.getLsbD i = true → i ∉ a.target) : Keeps p as := by
  induction as with
  | nil => exact fun m => .refl p m
  | cons a as ih =>
    intro m
    refine (ih (fun b hb => h b (by simp [hb])) (a.run m)).trans fun i hi => ?_
    rw [Assignment.run, getLsbD_write, if_neg (h a (by simp) i hi)]

/-- The targets are among spans that the mask has no ones in. -/
theorem of_targets {l : List Span} (hl : ∀ a ∈ as, a.target ∈ l) (h : p &&& maskOf n l = 0) :
    Keeps p as := by
  refine of_not_mem fun a ha i hp hm => ?_
  have out := getLsbD_false_of_and h hp
  rw [getLsbD_maskOf, decide_eq_false_iff_not] at out
  exact out ⟨lt_of_getLsbD hp, a.target, hl a ha, hm⟩

theorem assign {s : Span} (h : p &&& s.mask n = 0) (v : BitVec n → Nat) : Keeps p [⟨s, v⟩] := by
  refine of_targets (l := [s]) (by simp) ?_
  rw [← h]
  exact congrArg (p &&& ·) (BitVec.or_zero ..)

theorem update {s : Span} {f : Nat → Nat}
    (hf : ∀ v, ∀ k < s.width, p.getLsbD (s.start + k) = true → (f v).testBit k = v.testBit k) :
    Keeps p [.update s f] := by
  intro m i hi
  show (write m s (f (read m s))).getLsbD i = m.getLsbD i
  rw [getLsbD_write]
  split
  next hm =>
    obtain ⟨hl, hr⟩ := Span.mem_iff.mp hm
    have hk : i - s.start < s.width := by
      unfold Span.stop at hr
      omega
    have back : s.start + (i - s.start) = i := by omega
    rw [hf _ _ hk (by rw [back]; exact hi), testBit_read, back]
    simp [hk, lt_of_getLsbD hi]
  next => rfl

/-- Assignments that come after a span in the object leave it as it is. -/
theorem read_of_after {s : Span} (h : ∀ a ∈ as, s.stop ≤ a.target.start) (m : BitVec n) :
    read (runAll as m) s = read m s := by
  have keeps : Keeps (s.mask n) as := by
    refine of_not_mem fun a ha i hi hm => ?_
    rw [Span.getLsbD_mask, decide_eq_true_eq] at hi
    have := h a ha
    have := (Span.mem_iff.mp hi.2).2
    have := (Span.mem_iff.mp hm).1
    omega
  refine read_ext.mpr fun i hi => ?_
  by_cases hn : i < n
  · exact keeps m i (by simp [Span.getLsbD_mask, hn, hi])
  · rw [BitVec.getLsbD_of_ge _ i (by omega), BitVec.getLsbD_of_ge _ i (by omega)]

end Keeps

/-- Whatever two objects differ in outside of `p`, the assignments make them agree on `q`. -/
def Settles (p q : BitVec n) (as : List (Assignment n)) : Prop :=
  ∀ m m', AgreeOn p m m' → AgreeOn q (runAll as m) (runAll as m')

namespace Settles

variable {p q r : BitVec n} {as bs : List (Assignment n)} {s : Span}

theorem nil (p : BitVec n) : Settles p p [] := fun _ _ h => h

theorem append (ha : Settles p q as) (hb : Settles q r bs) : Settles p r (as ++ bs) := by
  intro m m' h
  rw [runAll_append, runAll_append]
  exact hb _ _ (ha m m' h)

theorem split {k : Nat} (ha : Settles p q (as.take k)) (hb : Settles q r (as.drop k)) :
    Settles p r as := by
  rw [← List.take_append_drop k as]
  exact append ha hb

theorem cons {a : Assignment n} (ha : Settles p q [a]) (hb : Settles q r bs) :
    Settles p r (a :: bs) := append ha hb

theorem weaken (h : Settles p q as) (hr : r &&& ~~~q = 0) : Settles p r as := by
  intro m m' agree i hi
  have out := getLsbD_false_of_and hr hi
  exact h m m' agree i (by simpa [lt_of_getLsbD hi] using out)

/-- The value is the same for objects that agree so far. -/
theorem assign {a : Assignment n} (hv : ∀ m m', AgreeOn p m m' → a.value m = a.value m') :
    Settles p (p ||| a.target.mask n) [a] := by
  intro m m' h i hi
  show (a.run m).getLsbD i = (a.run m').getLsbD i
  rw [Assignment.run, Assignment.run, getLsbD_write, getLsbD_write, hv m m' h]
  by_cases hm : i ∈ a.target
  · rw [if_pos hm, if_pos hm]
  · rw [if_neg hm, if_neg hm]
    refine h i ?_
    simpa [Span.getLsbD_mask, hm] using hi

theorem set (v : Nat) : Settles p (p ||| s.mask n) [.set s v] :=
  assign (a := .set s v) fun _ _ _ => rfl

/-- Values that do not depend on the object are settled by being assigned. -/
theorem constants {l : List Span} (ht : as.map Assignment.target = l)
    (h : ∀ a ∈ as, ∀ m m', a.value m = a.value m') : Settles p (p ||| maskOf n l) as := by
  subst ht
  induction as generalizing p with
  | nil => exact (nil p).weaken (by simp [maskOf])
  | cons a as ih =>
    have first := assign (p := p) fun m m' _ => h a (by simp) m m'
    have rest := ih (p := p ||| a.target.mask n) fun b hb => h b (by simp [hb])
    refine (first.cons rest).weaken ?_
    simp [maskOf, BitVec.or_assoc]

/-- The update forgets what the mask does not cover. -/
theorem update {f : Nat → Nat} (c : Nat) (hf : ∀ v, f v = f (v &&& c))
    (hc : ∀ k < s.width, c.testBit k = true → p.getLsbD (s.start + k) = true) :
    Settles p (p ||| s.mask n) [.update s f] := by
  have same : ∀ m m', AgreeOn p m m' → f (read m s) = f (read m' s) := by
    intro m m' h
    rw [hf, hf (read m' s), h.read_and hc]
  exact assign (a := .update s f) same

/-- What is not agreed on may be assigned anything. -/
theorem count {v : BitVec n → Nat} (h : p &&& s.mask n = 0) : Settles p p [⟨s, v⟩] := by
  have keeps : Keeps p [⟨s, v⟩] := .assign h v
  exact fun m m' agree => ((keeps m).trans agree).trans (keeps m').symm

/-- An update that determines one bit of its span. -/
theorem bit {f : Nat → Nat} {k : Nat} {b : Bool} (hk : k < s.width) (h : p &&& s.mask n = 0)
    (hf : ∀ v, (f v).testBit k = b) :
    Settles p (p ||| (s.part k 1).mask n) [.update s f] := by
  intro m m' agree i hi
  by_cases hp : p.getLsbD i = true
  · exact count h m m' agree i hp
  · have single : (s.part k 1).start ≤ i ∧ i < (s.part k 1).stop := by
      rw [BitVec.getLsbD_or, Bool.or_eq_true, Span.getLsbD_mask, decide_eq_true_eq] at hi
      exact (hi.resolve_left hp).2
    obtain rfl : i = s.start + k := by
      simp only [Span.part, Span.stop] at single
      omega
    show (write m s (f (read m s))).getLsbD _ = (write m' s (f (read m' s))).getLsbD _
    have hm : s.start + k ∈ s := Span.mem_iff.mpr ⟨by omega, by unfold Span.stop; omega⟩
    rw [getLsbD_write, getLsbD_write, if_pos hm, if_pos hm, Nat.add_sub_cancel_left, hf, hf]

end Settles

/-- What is settled from the bits that are kept on, with the bits that are kept, is not changed by
doing it all again. -/
theorem runAll_runAll {p q : BitVec n} {as : List (Assignment n)} (keeps : Keeps p as)
    (settles : Settles p q as) (others : Keeps (~~~q) as) (m : BitVec n) :
    runAll as (runAll as m) = runAll as m := by
  refine BitVec.eq_of_getLsbD_eq fun i hi => ?_
  cases hq : q.getLsbD i with
  | true => exact settles _ _ (keeps m) i hq
  | false =>
    have out : (~~~q).getLsbD i = true := by
      rw [BitVec.getLsbD_not, hq, decide_eq_true hi]
      rfl
    exact others _ i out

/-- A span is `width` bits, from bit `j` on, of the target `k`, and no later target touches it. -/
structure Placed (n : Nat) (targets : List Span) (s : Span) (k j width : Nat) : Prop where
  part : targets[k]?.map (·.part j width) = some s
  inside : ∀ t ∈ targets[k]?, j + width ≤ t.width ∧ t.stop ≤ n
  later : ∀ t ∈ targets.drop (k + 1), s.Disjoint t

instance (targets : List Span) (s : Span) (k j width : Nat) :
    Decidable (Placed n targets s k j width) :=
  decidable_of_iff
    (targets[k]?.map (·.part j width) = some s ∧
      (∀ t ∈ targets[k]?, j + width ≤ t.width ∧ t.stop ≤ n) ∧
        ∀ t ∈ targets.drop (k + 1), s.Disjoint t)
    ⟨fun ⟨a, b, c⟩ => ⟨a, b, c⟩, fun ⟨a, b, c⟩ => ⟨a, b, c⟩⟩

/-- The value that is assigned in the place `k`. -/
def assigned (as : List (Assignment n)) (m : BitVec n) (k : Nat) : Nat :=
  (as[k]?.map fun a => a.value (runAll (as.take k) m)).getD 0

theorem read_runAll_disjoint {as : List (Assignment n)} {s : Span}
    (h : ∀ t ∈ as.map Assignment.target, s.Disjoint t) (m : BitVec n) :
    read (runAll as m) s = read m s := by
  induction as generalizing m with
  | nil => rfl
  | cons a as ih =>
    rw [runAll_cons, ih (fun t ht => h t (by simp [ht])), Assignment.run,
      read_write_disjoint (h a.target (by simp))]

/-- A span reads as the part of the last value that was assigned to it. -/
theorem Placed.read_runAll {as : List (Assignment n)} {targets : List Span} {s : Span}
    {k j width : Nat} (h : Placed n targets s k j width)
    (ht : as.map Assignment.target = targets) (m : BitVec n) :
    read (runAll as m) s = assigned as m k / 2 ^ j % 2 ^ width := by
  subst ht
  obtain ⟨t, hk, rfl⟩ := Option.map_eq_some_iff.mp h.part
  obtain ⟨a, ha, rfl⟩ := Option.map_eq_some_iff.mp (List.getElem?_map .. ▸ hk)
  obtain ⟨inside, whole⟩ := h.inside _ hk
  have split : as = as.take k ++ a :: as.drop (k + 1) := by
    obtain ⟨hlt, he⟩ := List.getElem?_eq_some_iff.mp ha
    rw [← he, List.getElem_cons_drop, List.take_append_drop]
  have later : ∀ t ∈ (as.drop (k + 1)).map Assignment.target,
      (a.target.part j width).Disjoint t := by
    rw [List.map_drop]
    exact h.later
  have value : assigned as m k = a.value (runAll (as.take k) m) := by simp [assigned, ha]
  rw [value]
  conv_lhs => rw [split]
  rw [runAll_append, runAll_cons, read_runAll_disjoint later, read_part inside, Assignment.run,
    read_write_self whole]
  refine Nat.eq_of_testBit_eq fun i => ?_
  rw [Nat.testBit_mod_two_pow, Nat.testBit_mod_two_pow, Nat.testBit_div_two_pow,
    Nat.testBit_div_two_pow, Nat.testBit_mod_two_pow]
  by_cases hi : i < width
  · simp [hi, show i + j < a.target.width by omega]
  · simp [hi]

/-- The object that a history of steps, each of them some assignments, ends in. -/
def after {σ : Type} (step : σ → List (Assignment n)) (initial : BitVec n) (history : List σ) :
    BitVec n := history.foldl (fun m x => runAll (step x) m) initial

/-- What histories with the same last step leave behind differs in the counters at most. -/
def HistoryIndependent {σ : Type} (step : σ → List (Assignment n)) (initial counters : BitVec n) :
    Prop :=
  ∀ (history history' : List σ) (last : σ),
    AgreeOn (~~~counters) (after step initial (history ++ [last]))
      (after step initial (history' ++ [last]))

/-- It is enough that every step keeps the bits of `p` and settles, from these on, everything but
the counters. -/
theorem HistoryIndependent.of_settles {σ : Type} {step : σ → List (Assignment n)}
    {initial counters p : BitVec n} (keeps : ∀ x, Keeps p (step x))
    (settles : ∀ x, Settles p (~~~counters) (step x)) :
    HistoryIndependent step initial counters := by
  have kept : ∀ (history : List σ) (m : BitVec n), AgreeOn p (after step m history) m := by
    intro history
    induction history with
    | nil => exact fun m => .refl p m
    | cons x history ih => exact fun m => (ih _).trans (keeps x m)
  intro history history' last
  have split : ∀ history, after step initial (history ++ [last]) =
      runAll (step last) (after step initial history) := fun history => by simp [after]
  rw [split, split]
  exact settles last _ _ ((kept history initial).trans (kept history' initial).symm)

end Bits
