import WinUHid.ReportDescriptor

namespace WinUHid

theorem readItemData_ok {d : List UInt8} {i size : Nat} (h : i + size ≤ d.length) :
    ∃ data, readItemData d i size = .ok data := by
  have hf : ∀ k < size, ∃ b, fetch d (i + k) = .ok b := by
    intro k hk
    have hb : i + k < d.length := by omega
    exact ⟨d[i + k], by simp [fetch, hb]⟩
  unfold readItemData
  split
  · exact ⟨_, rfl⟩
  · obtain ⟨b0, h0⟩ := hf 0 (by omega)
    simp only [Nat.add_zero] at h0
    exact ⟨_, by simp [h0, bind, Except.bind, pure, Except.pure]; rfl⟩
  · obtain ⟨b0, h0⟩ := hf 0 (by omega)
    obtain ⟨b1, h1⟩ := hf 1 (by omega)
    simp only [Nat.add_zero] at h0
    exact ⟨_, by simp [h0, h1, bind, Except.bind, pure, Except.pure]; rfl⟩
  · obtain ⟨b0, h0⟩ := hf 0 (by omega)
    obtain ⟨b1, h1⟩ := hf 1 (by omega)
    obtain ⟨b2, h2⟩ := hf 2 (by omega)
    obtain ⟨b3, h3⟩ := hf 3 (by omega)
    simp only [Nat.add_zero] at h0
    exact ⟨_, by simp [h0, h1, h2, h3, bind, Except.bind, pure, Except.pure]; rfl⟩
  · exact ⟨_, rfl⟩

/-- A parse that comes back: with a value that has the property, or with a failure status. -/
def Parse.Returns {α : Type} (p : Parse α) (Q : α → Prop) : Prop :=
  (∃ a, p = .ok a ∧ Q a) ∨
    ∃ status left, p = .error (.failed status left) ∧ ntSuccess status = false

namespace Parse

variable {α β : Type} {Q : α → Prop}

theorem returns_ok {a : α} (h : Q a) : Returns (.ok a) Q := .inl ⟨a, rfl, h⟩

theorem returns_failed {status : NTSTATUS} {left : ParsedReports} (h : ntSuccess status = false) :
    Returns (.error (.failed status left) : Parse α) Q := .inr ⟨status, left, rfl, h⟩

theorem Returns.bind {p : Parse α} (h : p.Returns Q) {f : α → Parse β} {Q' : β → Prop}
    (hf : ∀ a, Q a → (f a).Returns Q') : Returns (p >>= f) Q' := by
  obtain ⟨a, rfl, ha⟩ | ⟨status, left, rfl, hs⟩ := h
  · exact hf a ha
  · exact returns_failed hs

end Parse

open Parse

theorem fetch_returns {d : List UInt8} {i : Nat} (h : i < d.length) :
    (fetch d i).Returns fun _ => True := by
  rw [fetch, List.getElem?_eq_getElem h]
  exact returns_ok trivial

theorem ParserState.frame_returns {st : ParserState} (h : st.currentFrame < 32) :
    st.frame.Returns fun _ => True := by
  rw [ParserState.frame, Vector.getElem?_eq_getElem h]
  exact returns_ok trivial

theorem readItemHeader_returns {d : List UInt8} {st : ParserState} (h : st.i < d.length) :
    (readItemHeader d st).Returns fun hd => st.i < hd.next := by
  refine (fetch_returns h).bind fun header _ => ?_
  dsimp only
  split
  next =>
    split
    next => exact returns_failed rfl
    next hb =>
      refine (fetch_returns (by omega)).bind fun size _ => ?_
      refine (fetch_returns (by omega)).bind fun tag _ => ?_
      exact returns_ok (by show st.i < st.i + 3; omega)
  next => exact returns_ok (by show st.i < st.i + 1; omega)

/-- What an item may change of the parser's position: only the frame, which stays in bounds. -/
def ParserState.Continues (st st' : ParserState) : Prop :=
  st'.i = st.i ∧ st'.currentFrame < 32

theorem globalItem_returns {st : ParserState} (h : st.currentFrame < 32) (tag : UInt8)
    (data : UInt32) : (globalItem st tag data).Returns st.Continues := by
  unfold globalItem
  split
  next => exact (ParserState.frame_returns h).bind fun f _ => returns_ok ⟨rfl, h⟩
  next =>
    split
    next =>
      refine (ParserState.frame_returns h).bind fun f _ => ?_
      split
      next => exact returns_failed rfl
      next => exact returns_ok ⟨rfl, h⟩
    next =>
      split
      next => exact (ParserState.frame_returns h).bind fun f _ => returns_ok ⟨rfl, h⟩
      next =>
        split
        next =>
          split
          next => exact returns_failed rfl
          next hb =>
            refine (ParserState.frame_returns h).bind fun f _ => returns_ok ⟨rfl, ?_⟩
            show st.currentFrame + 1 < 32
            omega
        next =>
          split
          next =>
            split
            next => exact returns_failed rfl
            next =>
              refine returns_ok ⟨rfl, ?_⟩
              show st.currentFrame - 1 < 32
              omega
          next => exact returns_ok ⟨rfl, h⟩

theorem mainItem_returns {st : ParserState} (h : st.currentFrame < 32) (tag : UInt8) :
    (mainItem st tag).Returns st.Continues := by
  refine (ParserState.frame_returns h).bind fun f _ => ?_
  split
  next => exact returns_failed rfl
  next =>
    split
    next => exact returns_ok ⟨rfl, h⟩
    next =>
      split
      next => exact returns_failed rfl
      next => exact returns_ok ⟨rfl, h⟩

/-- One iteration moves on in the descriptor, or the parse fails. -/
theorem parseItem_returns {d : List UInt8} {st : ParserState} (hi : st.i < d.length)
    (hf : st.currentFrame < 32) :
    (parseItem d st).Returns fun st' => st.i < st'.i ∧ st'.currentFrame < 32 := by
  refine (readItemHeader_returns hi).bind fun hd hnext => ?_
  split
  next => exact returns_failed rfl
  next hb =>
    have hle : hd.next + hd.size ≤ d.length := by omega
    obtain ⟨data, hdata⟩ := readItemData_ok hle
    have hf' : ({ st with i := hd.next + hd.size } : ParserState).currentFrame < 32 := hf
    have hkeep : ∀ p : Parse ParserState, p.Returns
        (ParserState.Continues { st with i := hd.next + hd.size }) →
        p.Returns fun st' => st.i < st'.i ∧ st'.currentFrame < 32 := by
      rintro p (⟨st', rfl, he, hb'⟩ | hs)
      · exact returns_ok ⟨by rw [he]; dsimp only; omega, hb'⟩
      · exact .inr hs
    rw [hdata]
    refine hkeep _ ?_
    cases data with
    | none => exact returns_ok ⟨rfl, hf⟩
    | some data =>
      show Returns (if _ then _ else _) _
      split
      next => exact globalItem_returns hf' _ _
      next =>
        split
        next => exact mainItem_returns hf' _
        next => exact returns_ok ⟨rfl, hf⟩

theorem parseLoop_returns {d : List UInt8} (fuel : Nat) {st : ParserState}
    (hfuel : d.length ≤ st.i + fuel) (hf : st.currentFrame < 32) :
    (parseLoop d fuel st).Returns fun _ => True := by
  induction fuel generalizing st with
  | zero =>
    rw [parseLoop, if_neg (by omega)]
    exact returns_ok trivial
  | succ fuel ih =>
    rw [parseLoop]
    split
    next hi =>
      refine (parseItem_returns hi hf).bind fun st' hst' => ?_
      exact ih (by omega) hst'.2
    next => exact returns_ok trivial

theorem parseReportDescriptor_returns (d : ReportDescriptor) :
    (parseReportDescriptor d).Returns fun _ => True :=
  (parseLoop_returns _ (Nat.le_add_left _ _) (by decide)).bind fun _ _ => returns_ok trivial

end WinUHid
