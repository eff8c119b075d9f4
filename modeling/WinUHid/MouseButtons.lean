import WinUHid.Mouse

namespace WinUHid

/-- `WUHM_BUTTON_LEFT` to `WUHM_BUTTON_X2`: the HID Button usages 1 to 5. -/
def PublicButton (b : UInt8) : Prop := 1 ≤ b ∧ b ≤ 5

/-- Whether the latest call about a button was a press. -/
def held (calls : List MouseCall) (b : UInt8) : Bool :=
  calls.foldl (fun down c =>
    match c with
    | .reportButton buttonIndex isDown => if buttonIndex = b then isDown else down
    | _ => down) false

/-- Bit `b - 1` of the button byte of a report, where the report descriptor puts usage `b`. -/
def BasicReport.buttonDown (r : BasicReport) (b : UInt8) : Bool :=
  r.buttons.toNat.testBit (b.toNat - 1)

/-- The reply to the last of the calls: a report, if any, shows exactly the held buttons, and no
call is refused. -/
def ShowsHeld (calls : List MouseCall) : MouseReply → Prop
  | .submitted report => ∀ b, PublicButton b → report.buttonDown b = held calls b
  | .invalidParameter => False
  | _ => True

/-- The replies to all calls of a run are as they should be. -/
def ButtonsShown (calls : List MouseCall) : Prop :=
  ∀ before c after, calls = before ++ c :: after →
    ShowsHeld (before ++ [c])
      ((Replies.after MouseDevice.call .initial before).call c).2

/-- A button call that releases one of the buttons 1 to 4. -/
def MouseCall.releasesOnly : MouseCall → Bool
  | .reportButton buttonIndex down => !down && buttonIndex != 5
  | _ => true

theorem held_append (calls : List MouseCall) (c : MouseCall) (b : UInt8) :
    held (calls ++ [c]) b =
      match c with
      | .reportButton buttonIndex isDown => if buttonIndex = b then isDown else held calls b
      | _ => held calls b := by
  rw [held, List.foldl_append]
  rfl

theorem PublicButton.cases {b : UInt8} (h : PublicButton b) :
    b = 1 ∨ b = 2 ∨ b = 3 ∨ b = 4 ∨ b = 5 := by
  have hlo : 1 ≤ b.toNat := UInt8.le_iff_toNat_le.mp h.1
  have hhi : b.toNat ≤ 5 := UInt8.le_iff_toNat_le.mp h.2
  simp only [← UInt8.toNat_inj, UInt8.reduceToNat]
  omega

theorem PublicButton.not_ge {b : UInt8} (h : PublicButton b) (h5 : b ≠ 5) : ¬b ≥ 5 := by
  rcases h.cases with rfl | rfl | rfl | rfl | rfl
  · decide
  · decide
  · decide
  · decide
  · exact absurd rfl h5

def PublicCall : MouseCall → Prop
  | .reportButton buttonIndex _ => PublicButton buttonIndex
  | _ => True

theorem showsHeld_of_released {calls : List MouseCall} (h : ∀ b, held calls b = false)
    {report : BasicReport} (hb : report.buttons = 0) : ShowsHeld calls (.submitted report) := by
  intro b _
  rw [h, BasicReport.buttonDown, hb]
  exact Nat.zero_testBit _

theorem callback_buttons (m : MouseDevice) (event : ReceivedEvent) (calls : List MouseCall) :
    (m.callback event).1.buttons = m.buttons ∧ ShowsHeld calls (m.callback event).2 := by
  unfold MouseDevice.callback
  split
  · split <;> exact ⟨rfl, trivial⟩
  · split
    · exact ⟨rfl, trivial⟩
    · split <;> exact ⟨rfl, trivial⟩

theorem reportScroll_buttons (m : MouseDevice) (scrollValue : Int16) (horizontal : Bool) :
    ∃ report, (m.reportScroll scrollValue horizontal).2 = .submitted report ∧
      report.buttons = m.buttons ∧ (m.reportScroll scrollValue horizontal).1.buttons = m.buttons := by
  unfold MouseDevice.reportScroll
  dsimp only
  split
  · split <;> exact ⟨_, rfl, rfl, rfl⟩
  · split <;> exact ⟨_, rfl, rfl, rfl⟩

/-- With no button held, a call that presses nothing leaves none held and its reply is right. -/
theorem releasesOnly_call {m : MouseDevice} {calls : List MouseCall} (hm : m.buttons = 0)
    (hh : ∀ b, held calls b = false) {c : MouseCall} (hp : PublicCall c)
    (hc : c.releasesOnly = true) :
    (m.call c).1.buttons = 0 ∧ (∀ b, held (calls ++ [c]) b = false) ∧
      ShowsHeld (calls ++ [c]) (m.call c).2 := by
  have hheld : ∀ b, held (calls ++ [c]) b = false := by
    intro b
    rw [held_append]
    cases c with
    | reportButton buttonIndex down =>
      simp only [MouseCall.releasesOnly, Bool.and_eq_true, Bool.not_eq_true'] at hc
      simp [hc.1, hh]
    | _ => exact hh b
  cases c with
  | reportMotion => exact ⟨hm, hheld, showsHeld_of_released hheld hm⟩
  | reportButton buttonIndex down =>
    simp only [MouseCall.releasesOnly, Bool.and_eq_true, Bool.not_eq_true', bne_iff_ne] at hc
    obtain ⟨rfl, h5⟩ := hc
    have hbits : (0 : UInt8) &&& ~~~(1 <<< buttonIndex) = 0 := UInt8.zero_and
    simp only [MouseDevice.call, MouseDevice.reportButton, if_neg (PublicButton.not_ge hp h5), hm,
      hbits, Bool.false_eq_true, if_false]
    exact ⟨trivial, hheld, showsHeld_of_released hheld rfl⟩
  | reportScroll v horizontal =>
    obtain ⟨report, he, hr, hm'⟩ := reportScroll_buttons m v horizontal
    refine ⟨hm'.trans hm, hheld, ?_⟩
    show ShowsHeld _ (m.reportScroll v horizontal).2
    rw [he]
    exact showsHeld_of_released hheld (hr.trans hm)
  | callback event =>
    obtain ⟨hm', hs⟩ := callback_buttons m event (calls ++ [.callback event])
    exact ⟨hm'.trans hm, hheld, hs⟩

/-- With no button held, the report of a press shows another button, and button 5 is refused. -/
theorem press_not_shown {m : MouseDevice} {calls : List MouseCall} (hm : m.buttons = 0)
    {c : MouseCall} (hp : PublicCall c) (hc : c.releasesOnly = false) :
    ¬ShowsHeld (calls ++ [c]) (m.call c).2 := by
  cases c with
  | reportButton b down =>
    by_cases h5 : b = 5
    · subst h5
      exact id
    · simp only [MouseCall.releasesOnly, Bool.and_eq_false_iff, Bool.not_eq_false',
        bne_eq_false_iff_eq, h5, or_false] at hc
      subst hc
      intro hs
      simp only [MouseDevice.call, MouseDevice.reportButton, if_neg (PublicButton.not_ge hp h5),
        if_true, hm] at hs
      have hshown := hs b hp
      rw [held_append] at hshown
      simp only [if_true, BasicReport.buttonDown, BasicReport.start] at hshown
      rcases hp.cases with rfl | rfl | rfl | rfl | rfl
      · exact absurd hshown (by decide)
      · exact absurd hshown (by decide)
      · exact absurd hshown (by decide)
      · exact absurd hshown (by decide)
      · exact absurd rfl h5
  | _ => cases hc

theorem ButtonsShown.append_iff {calls : List MouseCall} {c : MouseCall} :
    ButtonsShown (calls ++ [c]) ↔ ButtonsShown calls ∧
      ShowsHeld (calls ++ [c]) ((Replies.after MouseDevice.call .initial calls).call c).2 := by
  constructor
  · intro h
    refine ⟨fun before c' after he => ?_, h calls c [] rfl⟩
    exact h before c' (after ++ [c]) (by rw [he, List.append_assoc, List.cons_append])
  · rintro ⟨h, hlast⟩ before c' after he
    rcases List.eq_nil_or_concat after with rfl | ⟨after', last, rfl⟩
    · obtain ⟨rfl, hc⟩ := List.append_inj' he rfl
      cases List.cons.inj hc |>.1
      exact hlast
    · have he' : calls ++ [c] = (before ++ c' :: after') ++ [last] := by
        rw [he, List.concat_eq_append, List.append_assoc, List.cons_append]
      obtain ⟨rfl, -⟩ := List.append_inj' he' rfl
      exact h before c' after' rfl

theorem released_after {calls : List MouseCall} (hp : ∀ c ∈ calls, PublicCall c)
    (hr : ∀ c ∈ calls, c.releasesOnly = true) :
    (Replies.after MouseDevice.call .initial calls).buttons = 0 ∧
      ∀ b, held calls b = false := by
  induction calls using List.reverseRecOn with
  | nil => exact ⟨rfl, fun _ => rfl⟩
  | append_singleton calls c ih =>
    rw [List.forall_mem_append] at hp hr
    obtain ⟨hm, hh⟩ := ih hp.1 hr.1
    obtain ⟨hm', hh', -⟩ := releasesOnly_call hm hh (hp.2 c (by simp)) (hr.2 c (by simp))
    rw [Replies.after_append]
    exact ⟨hm', hh'⟩

/-- Public buttons on a new mouse: every reply shows the held buttons exactly when no call presses
a button or names the fifth. -/
theorem mouseButtons_shown (calls : List MouseCall) (hp : ∀ c ∈ calls, PublicCall c) :
    ButtonsShown calls ↔ ∀ c ∈ calls, c.releasesOnly = true := by
  induction calls using List.reverseRecOn with
  | nil => exact ⟨fun _ => by simp, fun _ before c after he => by simp at he⟩
  | append_singleton calls c ih =>
    rw [List.forall_mem_append] at hp
    rw [ButtonsShown.append_iff, ih hp.1, List.forall_mem_append, List.forall_mem_singleton]
    refine and_congr_right fun hr => ?_
    obtain ⟨hm, hh⟩ := released_after hp.1 hr
    have hpc := hp.2 c (by simp)
    cases hc : c.releasesOnly with
    | true =>
      obtain ⟨-, -, hs⟩ := releasesOnly_call hm hh hpc hc
      exact ⟨fun _ => rfl, fun _ => hs⟩
    | false => exact ⟨fun hs => absurd hs (press_not_shown hm hpc hc), nofun⟩

/-- The left button is pressed. -/
def leftClick : List MouseCall := [.reportButton 1 true]

theorem leftClick_public : ∀ c ∈ leftClick, PublicCall c := by
  intro c hc
  cases List.mem_singleton.mp hc
  exact ⟨by decide, by decide⟩

theorem mouseButtons_leftClick :
    (MouseDevice.initial.call (.reportButton 1 true)).2 = .submitted (.start 0x02) ∧
    (MouseDevice.initial.call (.reportButton 5 true)).2 = .invalidParameter ∧
    ¬∀ calls, (∀ c ∈ calls, PublicCall c) → ButtonsShown calls := by
  refine ⟨by decide, by decide, fun h => ?_⟩
  have hs := h leftClick leftClick_public [] (.reportButton 1 true) [] rfl
  exact absurd (hs 1 ⟨by decide, by decide⟩) (by decide)

theorem mouseButtons_shown_release :
    ButtonsShown [.reportButton 1 false, .reportMotion 3 4, .reportScroll 120 false] := by
  refine (mouseButtons_shown _ ?_).mpr (by decide)
  intro c hc
  simp only [List.mem_cons, List.not_mem_nil, or_false] at hc
  rcases hc with rfl | rfl | rfl
  · exact ⟨by decide, by decide⟩
  · trivial
  · trivial

end WinUHid
