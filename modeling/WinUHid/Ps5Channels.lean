import WinUHid.Ps5Output
import WinUHid.Replies

namespace WinUHid

/-- What a client can be told to show, other than the rumble motors. -/
inductive Ps5Channel where
  | lightBar
  | playerLed
  | rightTrigger
  | leftTrigger
  | micLed
  deriving DecidableEq

def Ps5LedState.bytes (led : Ps5LedState) : List UInt8 := [led.red, led.green, led.blue]

namespace Ps5Channel

/-- Whether the gamepad has a callback for the channel. The triggers share one. -/
def registered (g : Ps5Gamepad) : Ps5Channel → Bool
  | lightBar => g.lightBarCallback
  | playerLed => g.playerLedCallback
  | rightTrigger | leftTrigger => g.triggerEffectCallback
  | micLed => g.micLedCallback

def cached (g : Ps5Gamepad) : Ps5Channel → List UInt8
  | lightBar => g.lastLedState.bytes
  | playerLed => [g.lastPlayerLedState]
  | rightTrigger => g.lastRightTriggerEffect
  | leftTrigger => g.lastLeftTriggerEffect
  | micLed => [g.lastMicLedState]

def valid (report : Ps5OutputReport) : Ps5Channel → Bool
  | lightBar => report.lightBarControlValid
  | playerLed => report.playerIndicatorValid
  | rightTrigger => report.rightTriggerEffectValid
  | leftTrigger => report.leftTriggerEffectValid
  | micLed => report.micMuteLedValid

def value (report : Ps5OutputReport) : Ps5Channel → List UInt8
  | lightBar => report.ledState.bytes
  | playerLed => [report.playerLeds]
  | rightTrigger => report.rightTriggerEffect
  | leftTrigger => report.leftTriggerEffect
  | micLed => [report.muteButtonLed]

def zero : Ps5Channel → List UInt8
  | lightBar => [0, 0, 0]
  | playerLed | micLed => [0]
  | rightTrigger | leftTrigger => List.replicate sizeofPs5TriggerEffect 0

/-- The channel's value in the last accepted report that marks the channel valid. -/
def commanded (events : List ReceivedEvent) (c : Ps5Channel) : List UInt8 :=
  (((events.filter fun e => e.isPs5Effects && c.valid e.ps5Effects).getLast?).map
    fun e => c.value e.ps5Effects).getD c.zero

end Ps5Channel

def Ps5Feedback.isRumble : Ps5Feedback → Bool
  | .rumble _ _ => true
  | _ => false

/-- What a callback tells the client about a channel; `NULL` leaves a trigger as it was. -/
def Ps5Feedback.shows : Ps5Feedback → Ps5Channel → Option (List UInt8)
  | .lightBarLed red green blue, .lightBar => some [red, green, blue]
  | .playerLed leds, .playerLed => some [leds]
  | .triggerEffect left _, .leftTrigger => left
  | .triggerEffect _ right, .rightTrigger => right
  | .micLed led, .micLed => some [led]
  | _, _ => none

/-- What a client shows on each channel. -/
abbrev Ps5View := Ps5Channel → List UInt8

namespace Ps5View

def apply (v : Ps5View) (f : Ps5Feedback) : Ps5View := fun c => (f.shows c).getD (v c)

def applyAll (v : Ps5View) (fs : List Ps5Feedback) : Ps5View := fs.foldl apply v

@[simp] theorem applyAll_nil (v : Ps5View) : v.applyAll [] = v := rfl

@[simp] theorem applyAll_singleton (v : Ps5View) (f : Ps5Feedback) :
    v.applyAll [f] = v.apply f := rfl

theorem applyAll_append (v : Ps5View) (fs fs' : List Ps5Feedback) :
    v.applyAll (fs ++ fs') = (v.applyAll fs).applyAll fs' := List.foldl_append

/-- Every callback but the rumble callback changes the view that it comes to. -/
def Changes : Ps5View → List Ps5Feedback → Prop
  | _, [] => True
  | v, f :: fs => (f.isRumble ∨ v.apply f ≠ v) ∧ Changes (v.apply f) fs

theorem changes_append (v : Ps5View) (fs fs' : List Ps5Feedback) :
    v.Changes (fs ++ fs') ↔ v.Changes fs ∧ (v.applyAll fs).Changes fs' := by
  induction fs generalizing v with
  | nil => simp [Changes]
  | cons f fs ih => simp only [List.cons_append, Changes, ih, and_assoc]; rfl

/-- The gamepad's cache of what was shown last is right for each channel with a callback. -/
def Synced (v : Ps5View) (g : Ps5Gamepad) : Prop := ∀ c, c.registered g → v c = c.cached g

end Ps5View

/-- A part of the branch, with the channels it is about. -/
structure Ps5Part (report : Ps5OutputReport) (about : Ps5Channel → Bool) (g : Ps5Gamepad)
    (x : Ps5Gamepad × List Ps5Feedback) : Prop where
  registered : ∀ c, Ps5Channel.registered x.1 c = c.registered g
  cached : ∀ c, c.registered g → Ps5Channel.cached x.1 c =
    if about c && c.valid report then c.value report else c.cached g
  synced : ∀ v : Ps5View, v.Synced g → (v.applyAll x.2).Synced x.1
  changes : ∀ v : Ps5View, v.Synced g → v.Changes x.2

namespace Ps5Part

variable {report : Ps5OutputReport} {about about' : Ps5Channel → Bool} {g : Ps5Gamepad}
  {x y : Ps5Gamepad × List Ps5Feedback}

/-- Two parts after each other are a part about the channels of both. -/
theorem append (hx : Ps5Part report about g x) (hy : Ps5Part report about' x.1 y) :
    Ps5Part report (fun c => about c || about' c) g (y.1, x.2 ++ y.2) where
  registered := fun c => (hy.registered c).trans (hx.registered c)
  cached := by
    intro c hc
    have hc' : c.registered x.1 = true := (hx.registered c).trans hc
    have first := hx.cached c hc
    have second := hy.cached c hc'
    rw [first] at second
    rw [second]
    cases about c <;> cases about' c <;> cases c.valid report <;> rfl
  synced := by
    intro v hv
    rw [Ps5View.applyAll_append]
    exact hy.synced _ (hx.synced v hv)
  changes := by
    intro v hv
    rw [Ps5View.changes_append]
    exact ⟨hx.changes v hv, hy.changes _ (hx.synced v hv)⟩

/-- A part that calls nobody and leaves the gamepad alone. -/
theorem nothing (h : ∀ c, c.registered g → about c → c.valid report → c.value report = c.cached g) :
    Ps5Part report about g (g, []) where
  registered := fun _ => rfl
  cached := by
    intro c hc
    by_cases hb : (about c && c.valid report) = true
    · rw [if_pos hb]
      obtain ⟨ha, hv⟩ := Bool.and_eq_true_iff.mp hb
      exact (h c hc ha hv).symm
    · rw [if_neg hb]
  synced := fun _ hv => hv
  changes := fun _ _ => trivial

/-- A part that calls one callback where something is new, to tell all of its valid channels. -/
theorem tells {new : Bool} {g' : Ps5Gamepad} {f : Ps5Feedback}
    (news : new = true ↔
      ∃ c, about c ∧ c.registered g ∧ c.valid report ∧ c.value report ≠ c.cached g)
    (registered : ∀ c, Ps5Channel.registered g' c = c.registered g)
    (told : new = true → ∀ c,
      Ps5Channel.cached g' c =
        (if about c && c.valid report then c.value report else c.cached g) ∧
      f.shows c = if about c && c.valid report then some (c.value report) else none) :
    Ps5Part report about g (if new then (g', [f]) else (g, [])) := by
  cases hn : new with
  | false =>
    apply nothing
    intro c hc ha hv
    by_contra hne
    exact absurd (news.mpr ⟨c, ha, hc, hv, hne⟩) (by simp [hn])
  | true =>
    have told := told hn
    constructor
    · exact registered
    · exact fun c _ => (told c).1
    · intro v hv c hc
      have before := hv c ((registered c).symm.trans hc)
      show v.apply f c = Ps5Channel.cached g' c
      rw [(told c).1, Ps5View.apply, (told c).2, before]
      cases about c && c.valid report <;> rfl
    · intro v hv
      obtain ⟨c, ha, hr, hc, hne⟩ := news.mp hn
      refine ⟨.inr fun he => hne ?_, trivial⟩
      have shown := congrFun he c
      simpa [Ps5View.apply, (told c).2, ha, hc, hv c hr] using shown

end Ps5Part

theorem Ps5LedState.bytes_inj {led led' : Ps5LedState} : led.bytes = led'.bytes ↔ led = led' := by
  cases led
  cases led'
  simp [bytes]

section Parts

variable (g : Ps5Gamepad) (report : Ps5OutputReport)

theorem lightBar_part : Ps5Part report (· = .lightBar) g (g.lightBar report) := by
  apply Ps5Part.tells
  · simp [Ps5Channel.registered, Ps5Channel.valid, Ps5Channel.value, Ps5Channel.cached,
      Ps5LedState.bytes_inj, and_assoc]
  · intro c
    cases c <;> rfl
  · intro h c
    have hv : report.lightBarControlValid = true := by
      simp only [Bool.and_eq_true] at h
      exact h.1.2
    cases c <;> simp [Ps5Feedback.shows, Ps5Channel.cached, Ps5Channel.valid, Ps5Channel.value,
      Ps5LedState.bytes, hv]

theorem playerLed_part : Ps5Part report (· = .playerLed) g (g.playerLed report) := by
  apply Ps5Part.tells
  · simp [Ps5Channel.registered, Ps5Channel.valid, Ps5Channel.value, Ps5Channel.cached, and_assoc]
  · intro c
    cases c <;> rfl
  · intro h c
    have hv : report.playerIndicatorValid = true := by
      simp only [Bool.and_eq_true] at h
      exact h.1.2
    cases c <;> simp [Ps5Feedback.shows, Ps5Channel.cached, Ps5Channel.valid, Ps5Channel.value, hv]

theorem micLed_part : Ps5Part report (· = .micLed) g (g.micLed report) := by
  apply Ps5Part.tells
  · simp [Ps5Channel.registered, Ps5Channel.valid, Ps5Channel.value, Ps5Channel.cached, and_assoc]
  · intro c
    cases c <;> rfl
  · intro h c
    have hv : report.micMuteLedValid = true := by
      simp only [Bool.and_eq_true] at h
      exact h.1.2
    cases c <;> simp [Ps5Feedback.shows, Ps5Channel.cached, Ps5Channel.valid, Ps5Channel.value, hv]

theorem triggerEffect_part :
    Ps5Part report (fun c => c = .rightTrigger || c = .leftTrigger) g (g.triggerEffect report) := by
  apply Ps5Part.tells
  · simp only [Bool.and_eq_true, Bool.or_eq_true, bne_iff_ne, ne_eq]
    constructor
    · rintro ⟨hr, ⟨hv, hn⟩ | ⟨hv, hn⟩⟩
      · exact ⟨.rightTrigger, .inl rfl, hr, hv, hn⟩
      · exact ⟨.leftTrigger, .inr rfl, hr, hv, hn⟩
    · rintro ⟨c, ha, hr, hv, hn⟩
      cases c with
      | rightTrigger => exact ⟨hr, .inl ⟨hv, hn⟩⟩
      | leftTrigger => exact ⟨hr, .inr ⟨hv, hn⟩⟩
      | _ => simp at ha
  · intro c
    cases c <;> rfl
  · intro _ c
    cases c <;> simp [Ps5Feedback.shows, Ps5Channel.cached, Ps5Channel.valid, Ps5Channel.value]

theorem rumble_part : Ps5Part report (fun _ => false) g (g.rumble report) := by
  unfold Ps5Gamepad.rumble
  split
  next h =>
    have same : ∀ v : Ps5View, v.apply (.rumble (report.amplitude report.motorState.left)
        (report.amplitude report.motorState.right)) = v := by
      intro v
      funext c
      cases c <;> rfl
    constructor
    · intro c
      cases c <;> rfl
    · intro c _
      cases c <;> rfl
    · intro v hv c hc
      rw [Ps5View.applyAll_singleton, same]
      cases c <;> exact hv _ hc
    · exact fun v _ => ⟨.inl rfl, trivial⟩
  next h => exact Ps5Part.nothing fun c _ ha => by simp at ha

end Parts

/-- An accepted report is a part about all channels. -/
theorem outputReport_part {g : Ps5Gamepad} {event : ReceivedEvent}
    (he : event.isPs5Effects = true) :
    Ps5Part event.ps5Effects (fun _ => true) g
      ((g.outputReport event).1, (g.outputReport event).2.1) := by
  simp only [Ps5Gamepad.outputReport, he, Bool.not_true, Bool.false_eq_true, if_false]
  generalize event.ps5Effects = report
  have lightBar := lightBar_part g report
  have playerLed := lightBar.append (playerLed_part _ report)
  have rumble := playerLed.append (rumble_part _ report)
  have triggerEffect := rumble.append (triggerEffect_part _ report)
  have all := triggerEffect.append (micLed_part _ report)
  have about : (fun c : Ps5Channel => ((((decide (c = .lightBar) || decide (c = .playerLed)) ||
      false) || (decide (c = .rightTrigger) || decide (c = .leftTrigger))) ||
        decide (c = .micLed))) = fun _ => true := by
    funext c
    cases c <;> rfl
  rw [about] at all
  exact all

theorem commanded_append (events : List ReceivedEvent) (event : ReceivedEvent) (c : Ps5Channel) :
    c.commanded (events ++ [event]) =
      if event.isPs5Effects && c.valid event.ps5Effects then c.value event.ps5Effects
      else c.commanded events := by
  unfold Ps5Channel.commanded
  rw [List.filter_append]
  cases h : event.isPs5Effects && c.valid event.ps5Effects <;> simp [h]

/-- The callbacks of a run, in order. -/
def feedbackOf (es : List (ReceivedEvent × (List Ps5Feedback × Bool))) : List Ps5Feedback :=
  es.flatMap fun e => e.2.1

def ps5Feedback (g : Ps5Gamepad) (events : List ReceivedEvent) : List Ps5Feedback :=
  feedbackOf (Replies.log Ps5Gamepad.outputReport g events)

/-- What a client that starts from zero shows after these callbacks. -/
def viewAfter (fs : List Ps5Feedback) : Ps5View := Ps5View.applyAll Ps5Channel.zero fs

/-- A gamepad and its client after a run from `start`. -/
structure Ps5Shown (start : Ps5Gamepad) (es : List (ReceivedEvent × (List Ps5Feedback × Bool)))
    (g : Ps5Gamepad) : Prop where
  registered : ∀ c, Ps5Channel.registered g c = c.registered start
  synced : (viewAfter (feedbackOf es)).Synced g
  cached : ∀ c : Ps5Channel, c.registered g → c.cached g = c.commanded (es.map Prod.fst)
  changes : Ps5View.Changes Ps5Channel.zero (feedbackOf es)

namespace Ps5Shown

theorem create (rumble lightBarLed playerLed triggerEffect micLed : Bool) :
    Ps5Shown (.create rumble lightBarLed playerLed triggerEffect micLed) []
      (.create rumble lightBarLed playerLed triggerEffect micLed) where
  registered := fun _ => rfl
  synced := by
    intro c _
    cases c <;> rfl
  cached := by
    intro c _
    cases c <;> rfl
  changes := trivial

theorem next {start g : Ps5Gamepad} {es : List (ReceivedEvent × (List Ps5Feedback × Bool))}
    (h : Ps5Shown start es g) (event : ReceivedEvent) :
    Ps5Shown start (es ++ [(event, (g.outputReport event).2)]) (g.outputReport event).1 := by
  have feedback : feedbackOf (es ++ [(event, (g.outputReport event).2)]) =
      feedbackOf es ++ (g.outputReport event).2.1 := by simp [feedbackOf]
  cases he : event.isPs5Effects with
  | false =>
    have refused := outputReport_refused (g := g) he
    rw [refused] at feedback ⊢
    rw [List.append_nil] at feedback
    constructor
    · exact h.registered
    · rw [feedback]
      exact h.synced
    · intro c hc
      rw [List.map_append, List.map_singleton, commanded_append, he]
      exact h.cached c hc
    · rw [feedback]
      exact h.changes
  | true =>
    have part := outputReport_part (g := g) he
    constructor
    · exact fun c => (part.registered c).trans (h.registered c)
    · rw [feedback, viewAfter, Ps5View.applyAll_append]
      exact part.synced _ h.synced
    · intro c hc
      have before := (part.registered c).symm.trans hc
      rw [List.map_append, List.map_singleton, commanded_append, he, part.cached c before,
        h.cached c before]
    · rw [feedback, Ps5View.changes_append]
      exact ⟨h.changes, part.changes _ h.synced⟩

end Ps5Shown

/-- Feedback over a run of output reports, whatever the callbacks: each channel with a callback
shows its last commanded value, no callback tells what is shown already, and a rejected report
changes nothing. -/
theorem ps5Channels_shown (rumble lightBarLed playerLed triggerEffect micLed : Bool)
    (events : List ReceivedEvent) :
    let start := Ps5Gamepad.create rumble lightBarLed playerLed triggerEffect micLed
    (∀ c : Ps5Channel, c.registered start →
      viewAfter (ps5Feedback start events) c = c.commanded events) ∧
    Ps5View.Changes Ps5Channel.zero (ps5Feedback start events) ∧
    ∀ event, event.isPs5Effects = false →
      (Replies.after Ps5Gamepad.outputReport start events).outputReport event =
        (Replies.after Ps5Gamepad.outputReport start events, [], false) := by
  intro start
  have shown := Replies.invariant (P := Ps5Shown start)
    (Ps5Shown.create rumble lightBarLed playerLed triggerEffect micLed)
    (fun _ _ event h => h.next event) events
  refine ⟨fun c hc => ?_, shown.changes, fun event he => outputReport_refused he⟩
  have registered := (shown.registered c).trans hc
  have commanded := shown.cached c registered
  rw [Replies.map_fst_log] at commanded
  exact (shown.synced c registered).trans commanded

/-- An output report with these flags, microphone LED, trigger effects, player LEDs and light bar. -/
def ps5EffectsReport (triggersValid ledsValid mic : UInt8) (right left : Ps5TriggerEffect)
    (leds : UInt8) (lightBar : List UInt8) : ReceivedEvent where
  type := .writeReport
  reportId := 2
  writeData := [2, triggersValid, ledsValid, 0, 0, 0, 0, 0, 0, mic, 0] ++ right ++ left ++
    List.replicate 6 0 ++ [0, 0, 0, 0, 0, leds] ++ lightBar

/-- It marks the left trigger, the light bar and the player LEDs valid. -/
def ps5LeftReport : ReceivedEvent :=
  ps5EffectsReport 0x08 0x14 7 (List.replicate 11 9) [1, 2, 3, 4, 5, 6, 7, 8, 9, 10, 11] 4
    [10, 20, 30]

/-- It marks the right trigger and the microphone LED valid. -/
def ps5RightReport : ReceivedEvent :=
  ps5EffectsReport 0x04 0x01 2 [21, 22, 23, 24, 25, 26, 27, 28, 29, 30, 31] (List.replicate 11 8) 9
    [99, 98, 97]

/-- The end of the first report is missing; the others are valid in part. -/
theorem ps5Channels_shown_parts :
    let view := viewAfter (ps5Feedback (.create true true true true true)
      [{ ps5RightReport with writeData := ps5RightReport.writeData.take 47 }, ps5LeftReport,
        ps5RightReport])
    view .lightBar = [10, 20, 30] ∧ view .playerLed = [4] ∧ view .micLed = [2] ∧
      view .leftTrigger = [1, 2, 3, 4, 5, 6, 7, 8, 9, 10, 11] ∧
      view .rightTrigger = [21, 22, 23, 24, 25, 26, 27, 28, 29, 30, 31] := by
  have shown := (ps5Channels_shown true true true true true
    [{ ps5RightReport with writeData := ps5RightReport.writeData.take 47 }, ps5LeftReport,
      ps5RightReport]).1
  exact ⟨(shown .lightBar rfl).trans (by decide), (shown .playerLed rfl).trans (by decide),
    (shown .micLed rfl).trans (by decide), (shown .leftTrigger rfl).trans (by decide),
    (shown .rightTrigger rfl).trans (by decide)⟩

end WinUHid
