import WinUHid.Mouse
import Mathlib.Algebra.BigOperators.Group.List.Basic

namespace WinUHid

/-- A call with the mouse it was made on and its reply. -/
abbrev MouseEntry := MouseCall × MouseDevice × MouseReply

/-- The calls of a run on a new mouse. -/
def mouseLog (calls : List MouseCall) : List MouseEntry :=
  Replies.log (Replies.observed MouseDevice.call) .initial calls

def mouseAfter (calls : List MouseCall) : MouseDevice :=
  Replies.after (Replies.observed MouseDevice.call) .initial calls

/-- What an entry adds to the input of an axis. -/
def scrollInput (horizontal : Bool) (e : MouseEntry) : Int :=
  match e.1 with
  | .reportScroll scrollValue h => if h = horizontal then scrollValue.toInt else 0
  | _ => 0

/-- The scroll value of an axis in the report an entry submits. -/
def scrollReported (horizontal : Bool) (e : MouseEntry) : Int :=
  match e.2.2 with
  | .submitted report => (report.scroll horizontal).toInt
  | _ => 0

/-- Whole ticks: what is reported while the multiplier of the axis is off. -/
def wholeTicks (horizontal : Bool) (e : MouseEntry) : Int :=
  if e.2.1.lowResolution horizontal then scrollReported horizontal e else 0

/-- What is reported while the multiplier of the axis is on. -/
def fineCounts (horizontal : Bool) (e : MouseEntry) : Int :=
  if e.2.1.lowResolution horizontal then 0 else scrollReported horizontal e

/-- Input and output of an axis differ by the residue in the accumulator. -/
structure ScrollConserved (horizontal : Bool) (es : List MouseEntry) (m : MouseDevice) : Prop where
  total : (es.map (scrollInput horizontal)).sum =
    120 * (es.map (wholeTicks horizontal)).sum + (es.map (fineCounts horizontal)).sum +
      (m.accumulated horizontal).toNat
  residue : (m.accumulated horizontal).toNat < 120
  bounded : ∀ e ∈ es,
    (wholeTicks horizontal e).natAbs ≤ ((scrollInput horizontal e).natAbs + 119) / 120

/-- The sum that a low resolution scroll divides is not negative, or leaves no remainder. -/
def KeepsRemainder (m : MouseDevice) : MouseCall → Prop
  | .reportScroll scrollValue horizontal =>
    m.lowResolution horizontal = true →
      0 ≤ scrollValue.toInt + (m.accumulated horizontal).toNat ∨
        (120 : Int) ∣ scrollValue.toInt + (m.accumulated horizontal).toNat
  | _ => True

instance (m : MouseDevice) : ∀ c, Decidable (KeepsRemainder m c)
  | .reportScroll _ _ => inferInstanceAs (Decidable (_ → _))
  | .reportMotion _ _ => .isTrue trivial
  | .reportButton _ _ => .isTrue trivial
  | .callback _ => .isTrue trivial

theorem toNat_ofInt (x : Int) : ((UInt8.ofInt x).toNat : Int) = x % 256 := by
  simp only [UInt8.ofInt, UInt8.toNat_ofNat']
  omega

/-- Division by the wheel delta truncates toward zero. -/
theorem wheel_division (sum : Int) :
    120 * sum.tdiv wheelDelta + sum.tmod wheelDelta = sum ∧
      (0 ≤ sum → 0 ≤ sum.tmod wheelDelta ∧ sum.tmod wheelDelta < 120) ∧
      (sum < 0 → -120 < sum.tmod wheelDelta ∧ sum.tmod wheelDelta ≤ 0) := by
  refine ⟨Int.mul_tdiv_add_tmod sum 120, fun h => ?_, fun h => ?_⟩
  · exact ⟨Int.tmod_nonneg _ h, Int.tmod_lt_of_pos sum (by decide)⟩
  · have hneg := Int.tmod_nonneg wheelDelta (show 0 ≤ -sum by omega)
    rw [Int.neg_tmod] at hneg
    exact ⟨Int.lt_tmod_of_pos sum (by decide), by omega⟩

/-- What one call does to an axis: nothing, a report of the value itself, or a division. -/
inductive AxisStep (horizontal : Bool) (m : MouseDevice) (c : MouseCall) : Prop
  | other : scrollInput horizontal (c, m, (m.call c).2) = 0 →
      scrollReported horizontal (c, m, (m.call c).2) = 0 →
      (m.call c).1.accumulated horizontal = m.accumulated horizontal → AxisStep horizontal m c
  | fine (v : Int16) : c = .reportScroll v horizontal → m.lowResolution horizontal = false →
      scrollReported horizontal (c, m, (m.call c).2) = v.toInt →
      (m.call c).1.accumulated horizontal = m.accumulated horizontal → AxisStep horizontal m c
  | divided (v : Int16) : c = .reportScroll v horizontal → m.lowResolution horizontal = true →
      scrollReported horizontal (c, m, (m.call c).2) =
        (v.toInt + (m.accumulated horizontal).toNat).tdiv wheelDelta →
      (m.call c).1.accumulated horizontal =
        UInt8.ofInt ((v.toInt + (m.accumulated horizontal).toNat).tmod wheelDelta) →
      AxisStep horizontal m c

theorem toInt_quotient (v : Int16) (acc : UInt8) :
    (Int16.ofInt ((v.toInt + acc.toNat).tdiv wheelDelta)).toInt =
      (v.toInt + acc.toNat).tdiv wheelDelta := by
  have hle := v.le_toInt
  have hlt := v.toInt_lt
  have hacc := acc.toNat_lt
  obtain ⟨hdiv, hpos, hneg⟩ := wheel_division (v.toInt + acc.toNat)
  by_cases hs : 0 ≤ v.toInt + acc.toNat
  · have hm := hpos hs
    exact Int16.toInt_ofInt_of_le (by omega) (by omega)
  · have hm := hneg (by omega)
    exact Int16.toInt_ofInt_of_le (by omega) (by omega)

theorem reportScroll_fine {m : MouseDevice} (v : Int16) {h : Bool}
    (hl : m.lowResolution h = false) : ∃ report, m.reportScroll v h = (m, .submitted report) ∧
      report.scroll h = v ∧ report.scroll (!h) = 0 := by
  cases h with
  | true =>
    have hr : getHRes m.resolutionMultiplier ≠ 0 := by simpa [MouseDevice.lowResolution] using hl
    exact ⟨_, by simp only [MouseDevice.reportScroll, if_true, if_pos hr]; rfl, rfl, rfl⟩
  | false =>
    have hr : getVRes m.resolutionMultiplier ≠ 0 := by simpa [MouseDevice.lowResolution] using hl
    exact ⟨_, by simp only [MouseDevice.reportScroll, Bool.false_eq_true, if_false, if_pos hr]; rfl,
      rfl, rfl⟩

theorem reportScroll_divided {m : MouseDevice} (v : Int16) {h : Bool}
    (hl : m.lowResolution h = true) : ∃ m' report, m.reportScroll v h = (m', .submitted report) ∧
      report.scroll h = Int16.ofInt ((v.toInt + (m.accumulated h).toNat).tdiv wheelDelta) ∧
      report.scroll (!h) = 0 ∧
      m'.accumulated h = UInt8.ofInt ((v.toInt + (m.accumulated h).toNat).tmod wheelDelta) ∧
      m'.accumulated (!h) = m.accumulated (!h) := by
  let sum := v.toInt + (m.accumulated h).toNat
  cases h with
  | true =>
    have hr : ¬getHRes m.resolutionMultiplier ≠ 0 := by
      simpa [MouseDevice.lowResolution] using hl
    refine ⟨{ m with accumulatedHScroll := UInt8.ofInt (sum.tmod wheelDelta) },
      { BasicReport.start m.buttons with hScroll := Int16.ofInt (sum.tdiv wheelDelta) },
      ?_, rfl, rfl, rfl, rfl⟩
    simp only [MouseDevice.reportScroll, if_true, if_neg hr]
    rfl
  | false =>
    have hr : ¬getVRes m.resolutionMultiplier ≠ 0 := by
      simpa [MouseDevice.lowResolution] using hl
    refine ⟨{ m with accumulatedVScroll := UInt8.ofInt (sum.tmod wheelDelta) },
      { BasicReport.start m.buttons with vScroll := Int16.ofInt (sum.tdiv wheelDelta) },
      ?_, rfl, rfl, rfl, rfl⟩
    simp only [MouseDevice.reportScroll, Bool.false_eq_true, if_false, if_neg hr]
    rfl

theorem callback_axis (horizontal : Bool) (m : MouseDevice) (event : ReceivedEvent) :
    scrollReported horizontal (.callback event, m, (m.callback event).2) = 0 ∧
      (m.callback event).1.accumulated horizontal = m.accumulated horizontal := by
  unfold MouseDevice.callback
  split
  · split <;> exact ⟨rfl, rfl⟩
  · split
    · exact ⟨rfl, rfl⟩
    · split <;> exact ⟨rfl, rfl⟩

theorem call_axisStep (horizontal : Bool) (m : MouseDevice) (c : MouseCall) :
    AxisStep horizontal m c := by
  cases c with
  | reportMotion => exact .other rfl (by cases horizontal <;> rfl) rfl
  | reportButton buttonIndex down =>
    by_cases hb : buttonIndex ≥ 5
    · refine .other rfl ?_ ?_ <;>
        simp [MouseDevice.call, MouseDevice.reportButton, hb, scrollReported]
    · refine .other rfl ?_ ?_
      · simp only [MouseDevice.call, MouseDevice.reportButton, hb, scrollReported, if_false]
        cases horizontal <;> rfl
      · simp only [MouseDevice.call, MouseDevice.reportButton, hb, if_false]
        rfl
  | reportScroll v h =>
    have input : h = !horizontal → ∀ e : MouseDevice × MouseReply,
        scrollInput horizontal (.reportScroll v h, e) = 0 := by
      rintro rfl e
      cases horizontal <;> rfl
    cases hl : m.lowResolution h with
    | false =>
      obtain ⟨report, he, hself, hother⟩ := reportScroll_fine v hl
      by_cases hh : h = horizontal
      · subst hh
        refine .fine v rfl hl ?_ ?_
        · simp only [scrollReported, MouseDevice.call, he, hself]
        · simp only [MouseDevice.call, he]
      · have hn : h = !horizontal := Bool.eq_not.mpr hh
        refine .other (input hn _) ?_ ?_
        · rw [hn, Bool.not_not] at hother
          simp only [scrollReported, MouseDevice.call, he, hother]
          rfl
        · simp only [MouseDevice.call, he]
    | true =>
      obtain ⟨m', report, he, hself, hother, hacc, hacc'⟩ := reportScroll_divided v hl
      by_cases hh : h = horizontal
      · subst hh
        refine .divided v rfl hl ?_ ?_
        · simp only [scrollReported, MouseDevice.call, he, hself]
          exact toInt_quotient v _
        · simp only [MouseDevice.call, he, hacc]
      · have hn : h = !horizontal := Bool.eq_not.mpr hh
        rw [hn, Bool.not_not] at hother hacc'
        refine .other (input hn _) ?_ ?_
        · simp only [scrollReported, MouseDevice.call, he, hother]
          rfl
        · simp only [MouseDevice.call, he, hacc']
  | callback event =>
    obtain ⟨hr, ha⟩ := callback_axis horizontal m event
    exact .other rfl hr ha

section Conservation

variable {horizontal : Bool} {es : List MouseEntry} {m : MouseDevice}

theorem ScrollConserved.append_iff (h : ScrollConserved horizontal es m) (e : MouseEntry)
    (m' : MouseDevice) : ScrollConserved horizontal (es ++ [e]) m' ↔
      scrollInput horizontal e + (m.accumulated horizontal).toNat =
        120 * wholeTicks horizontal e + fineCounts horizontal e +
          (m'.accumulated horizontal).toNat ∧
      (m'.accumulated horizontal).toNat < 120 ∧
      (wholeTicks horizontal e).natAbs ≤ ((scrollInput horizontal e).natAbs + 119) / 120 := by
  have total := h.total
  constructor
  · intro h'
    have total' := h'.total
    simp only [List.map_append, List.sum_append, List.map_cons, List.map_nil, List.sum_cons,
      List.sum_nil] at total'
    exact ⟨by omega, h'.residue, h'.bounded e (by simp)⟩
  · rintro ⟨hsum, hres, hb⟩
    refine ⟨?_, hres, ?_⟩
    · simp only [List.map_append, List.sum_append, List.map_cons, List.map_nil, List.sum_cons,
        List.sum_nil]
      omega
    · intro x hx
      rcases List.mem_append.mp hx with hx | hx
      · exact h.bounded x hx
      · cases List.mem_singleton.mp hx
        exact hb

theorem wholeTicks_of_low {e : MouseEntry} (h : e.2.1.lowResolution horizontal = true) :
    wholeTicks horizontal e = scrollReported horizontal e ∧ fineCounts horizontal e = 0 := by
  simp [wholeTicks, fineCounts, h]

theorem fineCounts_of_high {e : MouseEntry} (h : e.2.1.lowResolution horizontal = false) :
    wholeTicks horizontal e = 0 ∧ fineCounts horizontal e = scrollReported horizontal e := by
  simp [wholeTicks, fineCounts, h]

theorem counts_of_unreported {e : MouseEntry} (h : scrollReported horizontal e = 0) :
    wholeTicks horizontal e = 0 ∧ fineCounts horizontal e = 0 := by
  simp [wholeTicks, fineCounts, h]

theorem scrollInput_self (v : Int16) (w : MouseDevice × MouseReply) :
    scrollInput horizontal (.reportScroll v horizontal, w) = v.toInt := if_pos rfl

/-- On the axis of a low resolution scroll, conservation survives exactly when the truncated
division leaves no negative remainder. -/
theorem ScrollConserved.divided_iff (h : ScrollConserved horizontal es m) {v : Int16}
    (hl : m.lowResolution horizontal = true) {w : MouseReply} {m' : MouseDevice}
    (hr : scrollReported horizontal (.reportScroll v horizontal, m, w) =
      (v.toInt + (m.accumulated horizontal).toNat).tdiv wheelDelta)
    (ha : m'.accumulated horizontal =
      UInt8.ofInt ((v.toInt + (m.accumulated horizontal).toNat).tmod wheelDelta)) :
    ScrollConserved horizontal (es ++ [(.reportScroll v horizontal, m, w)]) m' ↔
      KeepsRemainder m (.reportScroll v horizontal) := by
  have hres := h.residue
  obtain ⟨hwhole, hfine⟩ := wholeTicks_of_low (e := (.reportScroll v horizontal, m, w)) hl
  obtain ⟨hdiv, hpos, hneg⟩ := wheel_division (v.toInt + (m.accumulated horizontal).toNat)
  have hacc := toNat_ofInt ((v.toInt + (m.accumulated horizontal).toNat).tmod wheelDelta)
  rw [← ha] at hacc
  rw [h.append_iff, hwhole, hfine, hr, scrollInput_self]
  show _ ↔ (m.lowResolution horizontal = true → _)
  rw [hl]
  generalize v.toInt = input at *
  generalize (m.accumulated horizontal).toNat = before at *
  generalize (m'.accumulated horizontal).toNat = after at *
  generalize Int.tdiv (input + before) wheelDelta = ticks at *
  generalize Int.tmod (input + before) wheelDelta = rest at *
  constructor
  · rintro ⟨hsum, hlt, -⟩ -
    by_cases hs : 0 ≤ input + before
    · exact .inl hs
    · have hm := hneg (by omega)
      exact .inr ⟨ticks, by omega⟩
  · intro hk
    have hzero : 0 ≤ rest ∧ rest < 120 := by
      obtain hs | ⟨q, hq⟩ := hk rfl
      · exact hpos hs
      · by_cases hs : 0 ≤ input + before
        · exact hpos hs
        · have hm := hneg (by omega)
          omega
    refine ⟨by omega, by omega, by omega⟩

/-- One call after which both axes are still conserved. -/
theorem scrollConserved_next_iff (h : ∀ horizontal, ScrollConserved horizontal es m)
    (c : MouseCall) :
    (∀ horizontal, ScrollConserved horizontal (es ++ [(c, m, (m.call c).2)]) (m.call c).1) ↔
      KeepsRemainder m c := by
  constructor
  · intro h'
    cases c with
    | reportScroll v axis =>
      intro hl
      cases call_axisStep axis m (.reportScroll v axis) with
      | other hi _ _ =>
        rw [scrollInput_self] at hi
        exact .inl (by omega)
      | fine v' he hf =>
        rw [hl] at hf
        cases hf
      | divided v' he _ hr ha =>
        cases he
        exact ((h axis).divided_iff hl hr ha).mp (h' axis) hl
    | _ => trivial
  · intro hk horizontal
    cases call_axisStep horizontal m c with
    | other hi hr ha =>
      have hres := (h horizontal).residue
      obtain ⟨hw, hf⟩ := counts_of_unreported hr
      rw [(h horizontal).append_iff, hi, hw, hf, ha]
      exact ⟨by omega, hres, by omega⟩
    | fine v he hl hr ha =>
      have hres := (h horizontal).residue
      obtain ⟨hw, hf⟩ := fineCounts_of_high (e := (c, m, (m.call c).2)) hl
      rw [(h horizontal).append_iff, hw, hf, hr, ha, he, scrollInput_self]
      exact ⟨by omega, hres, by omega⟩
    | divided v he hl hr ha =>
      subst he
      exact ((h horizontal).divided_iff hl hr ha).mpr hk

end Conservation

/-- Scrolling on a new mouse, in any order with all other calls and feature events: input and
output agree all along a run exactly when no low resolution scroll divides a negative sum that is
not a whole number of ticks. -/
theorem mouseScroll_conserved (calls : List MouseCall) :
    (∀ calls', calls' <+: calls →
      ∀ horizontal, ScrollConserved horizontal (mouseLog calls') (mouseAfter calls')) ↔
    Replies.Along (Replies.observed MouseDevice.call) KeepsRemainder .initial calls := by
  refine Replies.forall_prefix_iff_along
    (P := fun es m => ∀ horizontal, ScrollConserved horizontal es m) ?_
    (fun es m c h => scrollConserved_next_iff h c) calls
  rintro (_ | _) <;> exact ⟨rfl, by decide, by simp⟩

/-- One hundred and twentieth down, then a scroll by nothing: two ticks up are reported. -/
def scrollBack : List MouseCall := [.reportScroll (-1) false, .reportScroll 0 false]

theorem mouseScroll_not_conserved :
    ((mouseLog scrollBack).map (scrollInput false)).sum = -1 ∧
    ((mouseLog scrollBack).map (wholeTicks false)).sum = 2 ∧
    ((mouseLog scrollBack).map (fineCounts false)).sum = 0 ∧
    ¬∀ calls, ∃ residue : Int, residue.natAbs < 120 ∧
      ((mouseLog calls).map (scrollInput false)).sum =
        120 * ((mouseLog calls).map (wholeTicks false)).sum +
          ((mouseLog calls).map (fineCounts false)).sum + residue := by
  have hin : ((mouseLog scrollBack).map (scrollInput false)).sum = -1 := by decide
  have hticks : ((mouseLog scrollBack).map (wholeTicks false)).sum = 2 := by decide
  have hfine : ((mouseLog scrollBack).map (fineCounts false)).sum = 0 := by decide
  refine ⟨hin, hticks, hfine, fun h => ?_⟩
  obtain ⟨residue, hlt, hsum⟩ := h scrollBack
  rw [hin, hticks, hfine] at hsum
  omega

end WinUHid
