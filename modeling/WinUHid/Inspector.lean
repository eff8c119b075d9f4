import WinUHid.EventStream
import WinUHid.Ps5Channels
import WinUHid.Ps5Rumble

namespace WinUHid

/-- What `renderFeedback` shows of a PS5 gamepad. -/
structure Ps5Shows where
  rumble : MotorAmplitudes
  lightbar : List UInt8
  playerLed : UInt8
  leftTrigger : Option UInt8 × Option String
  rightTrigger : Option UInt8 × Option String
  mic : UInt8

/-- The left and the right effect of the last call of the trigger effect callback. -/
def Ps5Feedback.triggers (last : Option Ps5TriggerEffect × Option Ps5TriggerEffect) :
    Ps5Feedback → Option Ps5TriggerEffect × Option Ps5TriggerEffect
  | .triggerEffect left right => (left, right)
  | _ => last

def lastTriggers (fs : List Ps5Feedback) : Option Ps5TriggerEffect × Option Ps5TriggerEffect :=
  fs.foldl Ps5Feedback.triggers (none, none)

/-- What the inspector shows is what it was told last. -/
structure ShowsLast (fs : List Ps5Feedback) (shown : Ps5Shows) : Prop where
  lightbar : shown.lightbar = viewAfter fs .lightBar
  playerLed : [shown.playerLed] = viewAfter fs .playerLed
  mic : [shown.mic] = viewAfter fs .micLed
  rumble : shown.rumble = MotorAmplitudes.deliver ⟨0, 0⟩ fs
  triggers : (shown.leftTrigger, shown.rightTrigger) =
    (unpackTriggerEffect (lastTriggers fs).1, unpackTriggerEffect (lastTriggers fs).2)

/-- An effect that the last trigger callback names is the one that the client has been told last. -/
theorem viewAfter_of_lastTriggers (fs : List Ps5Feedback) :
    (∀ effect, (lastTriggers fs).1 = some effect → viewAfter fs .leftTrigger = effect) ∧
      ∀ effect, (lastTriggers fs).2 = some effect → viewAfter fs .rightTrigger = effect := by
  induction fs using List.reverseRecOn with
  | nil => exact ⟨nofun, nofun⟩
  | append_singleton fs f ih =>
    have view : ∀ c, viewAfter (fs ++ [f]) c = (f.shows c).getD (viewAfter fs c) := by
      intro c
      rw [viewAfter, Ps5View.applyAll_append]
      rfl
    have last : lastTriggers (fs ++ [f]) = f.triggers (lastTriggers fs) := by
      rw [lastTriggers, List.foldl_append]
      rfl
    rw [view, view, last]
    cases f with
    | triggerEffect left right =>
      constructor
      · rintro effect rfl
        rfl
      · rintro effect rfl
        rfl
    | lightBarLed | playerLed | rumble | micLed => exact ih

/-- What the inspector shows is what the host commanded last, of a trigger that or nothing. -/
structure ShowsCommanded (events : List ReceivedEvent) (shown : Ps5Shows) : Prop where
  lightbar : shown.lightbar = Ps5Channel.lightBar.commanded events
  playerLed : [shown.playerLed] = Ps5Channel.playerLed.commanded events
  mic : [shown.mic] = Ps5Channel.micLed.commanded events
  leftTrigger : shown.leftTrigger = (none, none) ∨
    shown.leftTrigger = unpackTriggerEffect (some (Ps5Channel.leftTrigger.commanded events))
  rightTrigger : shown.rightTrigger = (none, none) ∨
    shown.rightTrigger = unpackTriggerEffect (some (Ps5Channel.rightTrigger.commanded events))

theorem ShowsLast.commanded {fs : List Ps5Feedback} {events : List ReceivedEvent}
    {shown : Ps5Shows} (h : ShowsLast fs shown)
    (view : ∀ c : Ps5Channel, viewAfter fs c = c.commanded events) :
    ShowsCommanded events shown := by
  obtain ⟨lightbar, playerLed, mic, -, triggers⟩ := h
  obtain ⟨left, right⟩ := Prod.mk.inj triggers
  obtain ⟨namedLeft, namedRight⟩ := viewAfter_of_lastTriggers fs
  refine ⟨lightbar.trans (view _), playerLed.trans (view _), mic.trans (view _), ?_, ?_⟩
  · rw [left, ← view]
    cases he : (lastTriggers fs).1 with
    | none => exact .inl rfl
    | some effect => exact .inr (by rw [namedLeft effect he])
  · rw [right, ← view]
    cases he : (lastTriggers fs).2 with
    | none => exact .inl rfl
    | some effect => exact .inr (by rw [namedRight effect he])

/-- A PS5 gamepad of the manager and its event channel, with the output reports it has handled, the
callbacks of the last one still to come, and when those before were called. -/
structure WatchedPs5 (φ : Type*) where
  gamepad : Ps5Gamepad
  handled : List ReceivedEvent
  pending : List Ps5Feedback
  called : List (UInt64 × Ps5Feedback)
  stream : EventStream DeviceEvent φ

inductive WatchAction where
  | outputReport (event : ReceivedEvent)
  | callback (tsMs : UInt64)
  | stream (a : StreamAction DeviceEvent)

namespace WatchedPs5

variable {φ : Type*} (serialize : DeviceEvent → Option φ)

/-- `create_ps5` passes all five callbacks; the `Device` and the callback context hold a `Sender`. -/
def opened : WatchedPs5 φ := ⟨.create true true true true true, [], [], [], .opened 2⟩

/-- The event thread calls the callbacks one after the other; each of them sends its event. -/
def step (w : WatchedPs5 φ) : WatchAction → Option (WatchedPs5 φ)
  | .outputReport event =>
    if w.pending.isEmpty then
      some { w with
        gamepad := (w.gamepad.outputReport event).1
        handled := w.handled ++ [event]
        pending := (w.gamepad.outputReport event).2.1 }
    else none
  | .callback tsMs =>
    match w.pending with
    | [] => none
    | f :: pending =>
      (w.stream.step serialize (.send (f.deviceEvent tsMs))).map fun stream =>
        { w with pending, called := w.called ++ [(tsMs, f)], stream }
  | .stream (.send _) => none
  | .stream a => (w.stream.step serialize a).map fun stream => { w with stream }

/-- The steps that the channel sees. -/
def streamAction (w : WatchedPs5 φ) : WatchAction → Option (StreamAction DeviceEvent)
  | .outputReport _ => none
  | .callback tsMs => w.pending.head?.map fun f => .send (f.deviceEvent tsMs)
  | .stream a => some a

/-- The channel keeps to its documentation, and the WebSocket `i` keeps up with it. -/
def Watches (i capacity : Nat) (w : WatchedPs5 φ) (a : WatchAction) : Prop :=
  ∀ b, w.streamAction a = some b →
    w.stream.Documented capacity b ∧ w.stream.KeepsUp i capacity b

variable {serialize} {i capacity : Nat} {w w' : WatchedPs5 φ}

/-- What the gamepad has called and what the channel was sent. -/
structure Told (serialize : DeviceEvent → Option φ) (i capacity : Nat) (w : WatchedPs5 φ) :
    Prop where
  shown : ∃ es, Ps5Shown (.create true true true true true) es w.gamepad ∧
    es.map Prod.fst = w.handled ∧ feedbackOf es = w.called.map Prod.snd ++ w.pending
  sent : w.stream.sent = w.called.map fun call => call.2.deviceEvent call.1
  reached : Runs.Reach (EventStream.step serialize)
    (fun p a => p.Documented capacity a ∧ p.KeepsUp i capacity a) (fun p => p = .opened 2) w.stream

theorem step_cases {a : WatchAction} (h : w.step serialize a = some w') :
    (∃ event, a = .outputReport event ∧ w.pending = [] ∧
      w' = { w with
        gamepad := (w.gamepad.outputReport event).1
        handled := w.handled ++ [event]
        pending := (w.gamepad.outputReport event).2.1 }) ∨
    (∃ tsMs f pending stream, a = .callback tsMs ∧ w.pending = f :: pending ∧
      w.stream.step serialize (.send (f.deviceEvent tsMs)) = some stream ∧
      w' = { w with pending, called := w.called ++ [(tsMs, f)], stream }) ∨
    ∃ b stream, a = .stream b ∧ (∀ ev, b ≠ .send ev) ∧ w.stream.step serialize b = some stream ∧
      w' = { w with stream } := by
  cases a with
  | outputReport event =>
    rw [step] at h
    split at h
    next idle => exact .inl ⟨event, rfl, List.isEmpty_iff.mp idle, (Option.some.inj h).symm⟩
    next => cases h
  | callback tsMs =>
    rw [step] at h
    split at h
    next => cases h
    next f pending hp =>
      obtain ⟨stream, hs, rfl⟩ := Option.map_eq_some_iff.mp h
      exact .inr (.inl ⟨tsMs, f, pending, stream, rfl, hp, hs, rfl⟩)
  | stream b =>
    cases b with
    | send ev => cases h
    | dropSender | subscribe | socket i b =>
      obtain ⟨stream, hs, rfl⟩ := Option.map_eq_some_iff.mp h
      exact .inr (.inr ⟨_, stream, rfl, by simp, hs, rfl⟩)

theorem Told.next {a : WatchAction} (t : Told serialize i capacity w)
    (watches : w.Watches i capacity a) (h : w.step serialize a = some w') :
    Told serialize i capacity w' := by
  obtain ⟨⟨es, shown, handled, called⟩, sent, reached⟩ := t
  obtain ⟨event, rfl, idle, rfl⟩ | ⟨tsMs, f, pending, stream, rfl, busy, hs, rfl⟩ |
    ⟨b, stream, rfl, other, hs, rfl⟩ := step_cases h
  · refine ⟨⟨_, shown.next event, ?_, ?_⟩, sent, reached⟩
    · rw [List.map_append, handled]
      rfl
    · rw [idle, List.append_nil] at called
      rw [← called]
      simp [feedbackOf]
  · have step := reached.next (watches _ (by rw [streamAction, busy]; rfl)) hs
    refine ⟨⟨es, shown, handled, ?_⟩, ?_, step⟩
    · rw [called, busy, List.map_append, List.append_assoc]
      rfl
    · obtain ⟨ev, he, -, rfl⟩ | ⟨he, -⟩ | ⟨he, -⟩ | ⟨i, b, s, s', he, -⟩ := EventStream.step_cases hs
      · cases he
        show w.stream.sent ++ [_] = _
        rw [sent, List.map_append]
        rfl
      · cases he
      · cases he
      · cases he
  · refine ⟨⟨es, shown, handled, called⟩, ?_, reached.next (watches b rfl) hs⟩
    obtain ⟨ev, rfl, -⟩ | ⟨rfl, -, rfl⟩ | ⟨rfl, -, rfl⟩ | ⟨i, b, s, s', rfl, -, -, rfl⟩ :=
      EventStream.step_cases hs
    · exact absurd rfl (other ev)
    · exact sent
    · exact sent
    · exact sent

theorem told_of_reach
    (h : Runs.Reach (step serialize) (Watches i capacity) (fun w => w = opened) w) :
    Told serialize i capacity w := by
  induction h with
  | start hi =>
    subst hi
    exact ⟨⟨[], Ps5Shown.create true true true true true, rfl, rfl⟩, rfl, .start rfl⟩
  | next _ watches hs ih => exact ih.next watches hs

instance [DecidableEq φ] (i capacity : Nat) (w : WatchedPs5 φ) (a : WatchAction) :
    Decidable (w.Watches i capacity a) :=
  decidable_of_iff (∀ b ∈ w.streamAction a,
    w.stream.Documented capacity b ∧ w.stream.KeepsUp i capacity b) Iff.rfl

end WatchedPs5

end WinUHid
