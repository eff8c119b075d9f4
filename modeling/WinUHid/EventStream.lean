import WinUHid.Runs
import WinUHid.GenericInputs
import WinUHid.Ps5Output
import Mathlib.Data.List.Infix

namespace WinUHid

/-- What a device tells the WebSockets that watch it. -/
inductive DeviceEvent where
  | hidEvent (tsMs : UInt64) (kind : String) (reportId : UInt8) (dataHex : String)
  | rumble (tsMs : UInt64) (left right : UInt8) (leftTrigger rightTrigger : Option UInt8)
  | led (tsMs : UInt64) (red green blue : UInt8)
  | playerLed (tsMs : UInt64) (value : UInt8)
  | micLed (tsMs : UInt64) (state : UInt8)
  | triggerEffect (tsMs : UInt64) (leftKind : Option UInt8) (leftDataHex : Option String)
      (rightKind : Option UInt8) (rightDataHex : Option String)
  | inputSnapshot (tsMs : UInt64) (hex : String)
  | diag (tsMs : UInt64) (level msg : String)
  deriving DecidableEq

def lowerHexDigit (n : UInt8) : Char := Char.ofNat (if n < 10 then 0x30 + n.toNat else 0x57 + n.toNat)

/-- `hex::encode` -/
def hexEncode (bytes : List UInt8) : String :=
  .ofList (bytes.flatMap fun b : UInt8 => [lowerHexDigit (b >>> 4), lowerHexDigit (b &&& 0x0F)])

/-- `unpack_trigger_effect`: the `Kind` and the `Data` of an effect, nothing for `NULL`. -/
def unpackTriggerEffect (p : Option Ps5TriggerEffect) : Option UInt8 × Option String :=
  (p.map fun effect => effect.headD 0, p.map fun effect => hexEncode effect.tail)

/-- The event that a callback of `create_ps5` sends: `ps5_lightbar_callback`,
`ps5_player_led_callback`, `ps5_rumble_callback`, `ps5_trigger_effect_callback` and
`ps5_mic_led_callback`. -/
def Ps5Feedback.deviceEvent (tsMs : UInt64) : Ps5Feedback → DeviceEvent
  | .lightBarLed red green blue => .led tsMs red green blue
  | .playerLed leds => .playerLed tsMs leds
  | .rumble left right => .rumble tsMs left right none none
  | .triggerEffect left right =>
    .triggerEffect tsMs (unpackTriggerEffect left).1 (unpackTriggerEffect left).2
      (unpackTriggerEffect right).1 (unpackTriggerEffect right).2
  | .micLed led => .micLed tsMs led

/-- What `recv` of a `broadcast::Receiver` answers. -/
inductive RecvAnswer (ε : Type*) where
  | ok (ev : ε)
  | lagged (n : Nat)
  | closed
  deriving DecidableEq

/-- What `recv` of the WebSocket answers: a close frame, any other message, an error, or the end of
the connection. -/
inductive ClientMessage where
  | close
  | other
  | error
  | none
  deriving DecidableEq

/-- What `handle_socket` does next. -/
inductive HandlerProc (φ : Type*) where
  | select
  | send (payload : φ)
  | close
  | returned
  deriving DecidableEq

/-- A call of `handle_socket`. Of its receiver: how many events had been sent when it subscribed,
which one it gets next, and how many it was told that it missed; of its client: the frames sent. -/
structure SocketHandler (φ : Type*) where
  since : Nat
  next : Nat
  missed : Nat
  proc : HandlerProc φ
  frames : List φ
  deriving DecidableEq

inductive SocketAction (ε : Type*) where
  | client (message : ClientMessage)
  | recv (answer : RecvAnswer ε)
  | sent (ok : Bool)
  | closed
  deriving DecidableEq

namespace SocketHandler

variable {ε φ : Type*}

/-- The first branch of the `select!`. -/
def onClient (h : SocketHandler φ) : ClientMessage → SocketHandler φ
  | .close | .none => { h with proc := .close }
  | .error => { h with proc := .close }
  | .other => h

/-- The second branch of the `select!`; `serialize` is `serde_json::to_string`. -/
def onEvent (serialize : ε → Option φ) (h : SocketHandler φ) : RecvAnswer ε → SocketHandler φ
  | .ok ev =>
    match serialize ev with
    | some payload => { h with next := h.next + 1, proc := .send payload }
    | none => { h with next := h.next + 1 }
  | .lagged n => { h with next := h.next + n, missed := h.missed + n }
  | .closed => { h with proc := .close }

def step (serialize : ε → Option φ) (h : SocketHandler φ) (a : SocketAction ε) :
    Option (SocketHandler φ) :=
  match h.proc, a with
  | .select, .client message => some (h.onClient message)
  | .select, .recv answer => some (h.onEvent serialize answer)
  | .send payload, .sent true => some { h with proc := .select, frames := h.frames ++ [payload] }
  | .send _, .sent false => some { h with proc := .close }
  | .close, .closed => some { h with proc := .returned }
  | _, _ => none

/-- What a step of `handle_socket` does. -/
inductive Moves (serialize : ε → Option φ) (h : SocketHandler φ) :
    SocketAction ε → SocketHandler φ → Prop
  | client (message : ClientMessage) (select : h.proc = .select) :
      Moves serialize h (.client message) (h.onClient message)
  | event (answer : RecvAnswer ε) (select : h.proc = .select) :
      Moves serialize h (.recv answer) (h.onEvent serialize answer)
  | delivered (payload : φ) (sending : h.proc = .send payload) :
      Moves serialize h (.sent true)
        { h with proc := .select, frames := h.frames ++ [payload] }
  | failed (payload : φ) (sending : h.proc = .send payload) :
      Moves serialize h (.sent false) { h with proc := .close }
  | closed (closing : h.proc = .close) : Moves serialize h .closed { h with proc := .returned }

theorem step_moves {serialize : ε → Option φ} {h h' : SocketHandler φ} {a : SocketAction ε}
    (hs : h.step serialize a = some h') : Moves serialize h a h' := by
  unfold step at hs
  split at hs
  next select => exact Option.some.inj hs ▸ .client _ select
  next select => exact Option.some.inj hs ▸ .event _ select
  next sending => exact Option.some.inj hs ▸ .delivered _ sending
  next sending => exact Option.some.inj hs ▸ .failed _ sending
  next closing => exact Option.some.inj hs ▸ .closed closing
  next => cases hs

end SocketHandler

/-- A device's broadcast channel: all that was ever sent, how many `Sender`s are left, and the
WebSockets that have subscribed. -/
structure EventStream (ε φ : Type*) where
  sent : List ε
  senders : Nat
  sockets : List (SocketHandler φ)

inductive StreamAction (ε : Type*) where
  | send (ev : ε)
  | dropSender
  | subscribe
  | socket (i : Nat) (a : SocketAction ε)
  deriving DecidableEq

namespace EventStream

variable {ε φ : Type*} (serialize : ε → Option φ)

/-- The channel of a device; all but a mouse have a second `Sender` in the callback context. -/
def opened (senders : Nat) : EventStream ε φ := ⟨[], senders, []⟩

/-- Sending and subscribing go through a `Sender`. -/
def step (p : EventStream ε φ) : StreamAction ε → Option (EventStream ε φ)
  | .send ev => if p.senders = 0 then none else some { p with sent := p.sent ++ [ev] }
  | .dropSender => if p.senders = 0 then none else some { p with senders := p.senders - 1 }
  | .subscribe =>
    if p.senders = 0 then none
    else
      some { p with sockets := p.sockets ++ [⟨p.sent.length, p.sent.length, 0, .select, []⟩] }
  | .socket i a =>
    (p.sockets[i]?).bind fun h =>
      (h.step serialize a).map fun h' => { p with sockets := p.sockets.set i h' }

/-- What a broadcast channel of this capacity may answer: the next event while it is retained, that
some events have been missed once it is not, and the end when no `Sender` and no event is left. -/
def Answers (capacity : Nat) (p : EventStream ε φ) (h : SocketHandler φ) : RecvAnswer ε → Prop
  | .ok ev => p.sent[h.next]? = some ev ∧ p.sent.length ≤ h.next + capacity
  | .lagged n => 0 < n ∧ h.next + capacity < p.sent.length ∧ h.next + n ≤ p.sent.length
  | .closed => h.next = p.sent.length ∧ p.senders = 0

def Documented (capacity : Nat) (p : EventStream ε φ) : StreamAction ε → Prop
  | .socket i (.recv answer) => ∀ h ∈ p.sockets[i]?, p.Answers capacity h answer
  | _ => True

instance [DecidableEq ε] (capacity : Nat) (p : EventStream ε φ) (h : SocketHandler φ) :
    ∀ answer, Decidable (p.Answers capacity h answer)
  | .ok ev => inferInstanceAs (Decidable (p.sent[h.next]? = some ev ∧ _))
  | .lagged n => inferInstanceAs (Decidable (0 < n ∧ _))
  | .closed => inferInstanceAs (Decidable (h.next = p.sent.length ∧ _))

instance [DecidableEq ε] (capacity : Nat) (p : EventStream ε φ) :
    ∀ a, Decidable (p.Documented capacity a)
  | .socket i (.recv answer) =>
    inferInstanceAs (Decidable (∀ h ∈ p.sockets[i]?, p.Answers capacity h answer))
  | .socket _ (.client _) | .socket _ (.sent _) | .socket _ .closed | .send _ | .dropSender
  | .subscribe => .isTrue trivial

end EventStream

/-- `EVENT_CHANNEL_CAPACITY` -/
def eventChannelCapacity : Nat := 256

namespace SocketHandler

variable {ε φ : Type*} {serialize : ε → Option φ} {h h' : SocketHandler φ} {sent : List ε}

/-- What the client was sent of these frames: all but one that is being sent. Once a frame could
not be sent there are no more of them. -/
def Forwards (h : SocketHandler φ) (frames : List φ) : Prop :=
  match h.proc with
  | .select => h.frames = frames
  | .send payload => h.frames ++ [payload] = frames
  | .close | .returned => h.frames <+: frames ∧ frames.length ≤ h.frames.length + 1

/-- The client was sent the events since the subscription in order and none of them twice; those
left out are those reported as missed. -/
structure Follows (serialize : ε → Option φ) (sent : List ε) (h : SocketHandler φ) : Prop where
  subscribed : h.since ≤ h.next
  received : h.next ≤ sent.length
  forwarded : ∃ taken : List ε, taken.Sublist ((sent.drop h.since).take (h.next - h.since)) ∧
    taken.length + h.missed = h.next - h.since ∧ h.Forwards (taken.filterMap serialize)

namespace Follows

theorem fresh : Follows serialize sent ⟨sent.length, sent.length, 0, .select, []⟩ where
  subscribed := le_rfl
  received := le_rfl
  forwarded := ⟨[], by simp, by simp, rfl⟩

theorem send (f : Follows serialize sent h) (ev : ε) : Follows serialize (sent ++ [ev]) h := by
  obtain ⟨subscribed, received, forwarded⟩ := f
  have window : ((sent ++ [ev]).drop h.since).take (h.next - h.since) =
      (sent.drop h.since).take (h.next - h.since) := by
    rw [List.drop_append_of_le_length (by omega), List.take_append_of_le_length]
    rw [List.length_drop]
    omega
  refine ⟨subscribed, ?_, window ▸ forwarded⟩
  rw [List.length_append]
  omega

theorem leaves (f : Follows serialize sent h) (select : h.proc = .select) :
    Follows serialize sent { h with proc := .close } := by
  obtain ⟨subscribed, received, taken, window, length, forwards⟩ := f
  rw [Forwards, select] at forwards
  refine ⟨subscribed, received, taken, window, length, ?_⟩
  exact ⟨forwards ▸ List.prefix_rfl, by rw [← forwards]; exact Nat.le_succ _⟩

theorem onClient (f : Follows serialize sent h) (select : h.proc = .select)
    (message : ClientMessage) : Follows serialize sent (h.onClient message) := by
  cases message with
  | close | none | error => exact f.leaves select
  | other => exact f

theorem onEvent {capacity : Nat} {p : EventStream ε φ} (f : Follows serialize p.sent h)
    (select : h.proc = .select) {answer : RecvAnswer ε} (documented : p.Answers capacity h answer) :
    Follows serialize p.sent (h.onEvent serialize answer) := by
  obtain ⟨subscribed, received, taken, window, length, forwards⟩ := f
  cases answer with
  | ok ev =>
    have there := documented.1
    have bound := (List.getElem?_eq_some_iff.mp there).1
    have grown : (p.sent.drop h.since).take (h.next + 1 - h.since) =
        (p.sent.drop h.since).take (h.next - h.since) ++ [ev] := by
      have at_next : (p.sent.drop h.since)[h.next - h.since]? = some ev := by
        rw [List.getElem?_drop, Nat.add_sub_cancel' subscribed, there]
      rw [Nat.sub_add_comm subscribed, List.take_add_one, at_next, Option.toList_some]
    have more : (taken ++ [ev]).Sublist ((p.sent.drop h.since).take (h.next + 1 - h.since)) := by
      rw [grown]
      exact window.append (List.Sublist.refl _)
    have count : (taken ++ [ev]).length + h.missed = h.next + 1 - h.since := by
      rw [List.length_append, List.length_singleton]
      omega
    rw [Forwards, select] at forwards
    rw [SocketHandler.onEvent]
    cases hs : serialize ev with
    | none =>
      refine ⟨Nat.le_succ_of_le subscribed, bound, taken ++ [ev], more, count, ?_⟩
      rw [Forwards, select, List.filterMap_append, List.filterMap_cons_none hs]
      simpa using forwards
    | some payload =>
      refine ⟨Nat.le_succ_of_le subscribed, bound, taken ++ [ev], more, count, ?_⟩
      show h.frames ++ [payload] = _
      rw [List.filterMap_append, List.filterMap_cons_some hs, List.filterMap_nil, forwards]
  | lagged n =>
    obtain ⟨-, -, bound⟩ := documented
    refine ⟨by show h.since ≤ h.next + n; omega, bound, taken, ?_, ?_, forwards⟩
    · exact window.trans (List.take_sublist_take_left (Nat.sub_le_sub_right (Nat.le_add_right _ _) _))
    · show taken.length + (h.missed + n) = h.next + n - h.since
      omega
  | closed => exact leaves ⟨subscribed, received, taken, window, length, forwards⟩ select

theorem step {capacity : Nat} {p : EventStream ε φ} (f : Follows serialize p.sent h)
    {a : SocketAction ε} (documented : ∀ answer, a = .recv answer → p.Answers capacity h answer)
    (m : h.Moves serialize a h') : Follows serialize p.sent h' := by
  cases m with
  | client message select => exact f.onClient select message
  | event answer select => exact f.onEvent select (documented answer rfl)
  | delivered payload sending =>
    obtain ⟨subscribed, received, taken, window, length, forwards⟩ := f
    rw [Forwards, sending] at forwards
    exact ⟨subscribed, received, taken, window, length, forwards⟩
  | failed payload sending =>
    obtain ⟨subscribed, received, taken, window, length, forwards⟩ := f
    rw [Forwards, sending] at forwards
    refine ⟨subscribed, received, taken, window, length, ⟨[payload], forwards⟩, ?_⟩
    rw [← forwards, List.length_append, List.length_singleton]
  | closed closing =>
    obtain ⟨subscribed, received, taken, window, length, forwards⟩ := f
    rw [Forwards, closing] at forwards
    exact ⟨subscribed, received, taken, window, length, forwards⟩

end Follows

end SocketHandler

namespace EventStream

variable {ε φ : Type*} {serialize : ε → Option φ} {capacity : Nat} {p p' : EventStream ε φ}

theorem step_cases {a : StreamAction ε} (h : p.step serialize a = some p') :
    (∃ ev, a = .send ev ∧ p.senders ≠ 0 ∧ p' = { p with sent := p.sent ++ [ev] }) ∨
    (a = .dropSender ∧ p.senders ≠ 0 ∧ p' = { p with senders := p.senders - 1 }) ∨
    (a = .subscribe ∧ p.senders ≠ 0 ∧
      p' = { p with sockets := p.sockets ++ [⟨p.sent.length, p.sent.length, 0, .select, []⟩] }) ∨
    ∃ i b s s', a = .socket i b ∧ p.sockets[i]? = some s ∧ s.Moves serialize b s' ∧
      p' = { p with sockets := p.sockets.set i s' } := by
  cases a with
  | send ev =>
    rw [step] at h
    split at h
    next => cases h
    next left => exact .inl ⟨ev, rfl, left, (Option.some.inj h).symm⟩
  | dropSender =>
    rw [step] at h
    split at h
    next => cases h
    next left => exact .inr (.inl ⟨rfl, left, (Option.some.inj h).symm⟩)
  | subscribe =>
    rw [step] at h
    split at h
    next => cases h
    next left => exact .inr (.inr (.inl ⟨rfl, left, (Option.some.inj h).symm⟩))
  | socket i b =>
    obtain ⟨s, hs, h⟩ := Option.bind_eq_some_iff.mp h
    obtain ⟨s', hs', rfl⟩ := Option.map_eq_some_iff.mp h
    exact .inr (.inr (.inr ⟨i, b, s, s', rfl, hs, SocketHandler.step_moves hs', rfl⟩))

theorem follows_of_reach {guard : EventStream ε φ → StreamAction ε → Prop} {senders : Nat}
    (documented : ∀ p a, guard p a → Documented capacity p a)
    (h : Runs.Reach (step serialize) guard (fun p => p = opened senders) p)
    {s : SocketHandler φ} (hs : s ∈ p.sockets) : s.Follows serialize p.sent := by
  induction h generalizing s with
  | start hi =>
    subst hi
    cases hs
  | @next p a p' _ admitted stepped ih =>
    obtain ⟨ev, rfl, -, rfl⟩ | ⟨rfl, -, rfl⟩ | ⟨rfl, -, rfl⟩ | ⟨i, b, t, t', rfl, ht, moves, rfl⟩ :=
      step_cases stepped
    · exact (ih hs).send ev
    · exact ih hs
    · rcases List.mem_append.mp hs with old | new
      · exact ih old
      · rw [List.mem_singleton.mp new]
        exact .fresh
    · rcases List.mem_or_eq_of_mem_set hs with old | rfl
      · exact ih old
      · have answers : ∀ answer, b = .recv answer → p.Answers capacity t answer := by
          rintro answer rfl
          exact documented _ _ admitted t ht
        exact (ih (List.mem_of_getElem? ht)).step answers moves

/-- However events, subscriptions and clients interleave, each WebSocket is sent the events after
its subscription in order, none of them twice, and all but those that it is told it missed. -/
theorem sockets_follow {senders : Nat}
    (h : Runs.Reach (step serialize) (Documented capacity) (fun p => p = opened senders) p)
    {s : SocketHandler φ} (hs : s ∈ p.sockets) : s.Follows serialize p.sent :=
  follows_of_reach (fun _ _ => id) h hs

/-- The text of the one event of the runs below. -/
def middleLedText : DeviceEvent → Option String
  | .playerLed 0 4 => some "\x7b\"type\":\"player_led\",\"ts_ms\":0,\"value\":4\x7d"
  | _ => none

/-- A WebSocket that has subscribed after the first of two events gets the second one. -/
def watchMiddleLed : List (StreamAction DeviceEvent) :=
  [.send (.playerLed 0 4), .subscribe, .send (.playerLed 0 4), .socket 0 (.client .other),
    .socket 0 (.recv (.ok (.playerLed 0 4))), .socket 0 (.sent true)]

def watchedMiddleLed : SocketHandler String :=
  ⟨1, 2, 0, .select, (middleLedText (.playerLed 0 4)).toList⟩

/-- A WebSocket that lets two events more go by than are retained, and then gets the third one. -/
def fallBehindMiddleLed : List (StreamAction DeviceEvent) :=
  .subscribe :: List.replicate (eventChannelCapacity + 2) (.send (.playerLed 0 4)) ++
    [.socket 0 (.recv (.lagged 2)), .socket 0 (.recv (.ok (.playerLed 0 4))),
      .socket 0 (.sent true)]

theorem sockets_follow_fallBehind : ∃ p : EventStream DeviceEvent String,
    p.sent.length = 258 ∧ ∃ s ∈ p.sockets, s.next = 3 ∧ s.missed = 2 ∧ s.frames.length = 1 ∧
      s.Follows middleLedText p.sent := by
  have reached : ∃ p, Runs.Reach (step middleLedText) (Documented eventChannelCapacity)
      (fun p => p = opened 2) p ∧ p.sent.length = 258 ∧
      ∃ s ∈ p.sockets, s.next = 3 ∧ s.missed = 2 ∧ s.frames.length = 1 :=
    Runs.exists_reach_of_run (step middleLedText) (Documented eventChannelCapacity) (by rfl)
      fallBehindMiddleLed (by decide +kernel)
  obtain ⟨p, reach, sent, s, hs, next, missed, frames⟩ := reached
  exact ⟨p, sent, s, hs, next, missed, frames, sockets_follow reach hs⟩

/-- The client of the WebSocket `i` stays connected and takes what it is sent. -/
def Connected (i : Nat) : StreamAction ε → Prop
  | .socket j (.client message) => j = i → message = .other
  | .socket j (.sent ok) => j = i → ok = true
  | _ => True

instance (i : Nat) : ∀ a : StreamAction ε, Decidable (Connected i a)
  | .socket j (.client message) => inferInstanceAs (Decidable (j = i → message = .other))
  | .socket j (.sent ok) => inferInstanceAs (Decidable (j = i → ok = true))
  | .socket _ (.recv _) | .socket _ .closed | .send _ | .dropSender | .subscribe => .isTrue trivial

def Left (s : SocketHandler φ) : Prop := s.proc = .close ∨ s.proc = .returned

instance [DecidableEq φ] (s : SocketHandler φ) : Decidable (Left s) :=
  inferInstanceAs (Decidable (_ ∨ _))

/-- A handler that has left its loop has sent all that there was. -/
structure Drained (serialize : ε → Option φ) (p : EventStream ε φ) (s : SocketHandler φ) : Prop where
  gone : p.senders = 0
  frames : ∃ taken : List ε, taken.Sublist (p.sent.drop s.since) ∧
    taken.length + s.missed = (p.sent.drop s.since).length ∧ s.frames = taken.filterMap serialize

theorem Drained.of_follows {s : SocketHandler φ} (f : s.Follows serialize p.sent)
    (select : s.proc = .select) (all : s.next = p.sent.length) (gone : p.senders = 0)
    (proc : HandlerProc φ) : Drained serialize p { s with proc } := by
  obtain ⟨subscribed, received, taken, window, length, forwards⟩ := f
  rw [SocketHandler.Forwards, select] at forwards
  refine ⟨gone, taken, ?_, ?_, forwards⟩
  · exact window.trans (List.take_sublist _ _)
  · rw [List.length_drop, ← all]
    exact length

theorem not_left_fresh (n : Nat) : ¬Left (⟨n, n, 0, .select, []⟩ : SocketHandler φ) := by
  rintro (h | h) <;> cases h

/-- No event makes a handler leave its loop but the end of the channel. -/
theorem closed_of_left {s : SocketHandler φ} (select : s.proc = .select) {answer : RecvAnswer ε}
    (left : Left (s.onEvent serialize answer)) : answer = .closed := by
  have running : ¬Left s := by simp [Left, select]
  cases answer with
  | closed => rfl
  | lagged n => exact absurd left running
  | ok ev =>
    rw [SocketHandler.onEvent] at left
    cases hp : serialize ev with
    | none =>
      rw [hp] at left
      exact absurd left running
    | some payload =>
      rw [hp] at left
      rcases left with left | left <;> cases left

/-- While its client stays connected, whatever becomes of the others, a WebSocket is closed only
when the device is gone, and not before its client was sent everything that was not reported as
missed. -/
theorem sockets_drained {senders i : Nat}
    (h : Runs.Reach (step serialize) (fun p a => Documented capacity p a ∧ Connected i a)
      (fun p => p = opened senders) p)
    {s : SocketHandler φ} (hs : p.sockets[i]? = some s) (left : Left s) :
    Drained serialize p s := by
  induction h generalizing s with
  | start hi =>
    subst hi
    cases hs
  | @next p a p' reach admitted stepped ih =>
    obtain ⟨ev, rfl, open_, rfl⟩ | ⟨rfl, open_, rfl⟩ | ⟨rfl, open_, rfl⟩ |
      ⟨j, b, t, t', rfl, ht, moves, rfl⟩ := step_cases stepped
    · exact absurd (ih hs left).gone open_
    · exact absurd (ih hs left).gone open_
    · rcases List.getElem?_concat_eq_some_iff.mp hs with old | ⟨-, rfl⟩
      · exact absurd (ih old left).gone open_
      · exact absurd left (not_left_fresh _)
    · have same : Drained serialize p s → Drained serialize { p with
          sockets := p.sockets.set j t' } s := fun d => ⟨d.gone, d.frames⟩
      by_cases hj : j = i
      · subst hj
        have bound := (List.getElem?_eq_some_iff.mp ht).1
        obtain rfl := Option.some.inj ((List.getElem?_set_self bound).symm.trans hs)
        cases moves with
        | client message select =>
          obtain rfl : message = .other := admitted.2 rfl
          exact same (ih ht left)
        | event answer select =>
          obtain rfl := closed_of_left select left
          obtain ⟨all, gone⟩ := admitted.1 t ht
          have follows := follows_of_reach (fun _ _ => And.left) reach (List.mem_of_getElem? ht)
          exact same (Drained.of_follows follows select all gone .close)
        | delivered => rcases left with left | left <;> cases left
        | failed => cases admitted.2 rfl
        | closed closing =>
          have drained := ih ht (.inl closing)
          exact same ⟨drained.gone, drained.frames⟩
      · exact same (ih ((List.getElem?_set_ne hj).symm.trans hs) left)

/-- A second client comes and leaves, and then the device goes. -/
def leaveMiddleLed : List (StreamAction DeviceEvent) :=
  [.subscribe, .socket 1 (.client .close), .socket 1 .closed, .dropSender, .dropSender,
    .socket 0 (.recv .closed), .socket 0 .closed]

theorem sockets_drained_middleLed : ∃ p : EventStream DeviceEvent String,
    p.sockets = [{ watchedMiddleLed with proc := .returned }, ⟨2, 2, 0, .returned, []⟩] ∧
    Drained middleLedText p { watchedMiddleLed with proc := .returned } := by
  have reached : ∃ p, Runs.Reach (step middleLedText)
      (fun p a => Documented eventChannelCapacity p a ∧ Connected 0 a) (fun p => p = opened 2) p ∧
      p.sockets = [{ watchedMiddleLed with proc := .returned }, ⟨2, 2, 0, .returned, []⟩] :=
    Runs.exists_reach_of_run (step middleLedText)
      (fun p a => Documented eventChannelCapacity p a ∧ Connected 0 a) (by rfl)
      (watchMiddleLed ++ leaveMiddleLed) (by decide)
  obtain ⟨p, reach, sockets⟩ := reached
  exact ⟨p, sockets, sockets_drained reach (by rw [sockets]; rfl) (.inr rfl)⟩

/-- Steps of the handler `i`, except for a message of its client that it ignores. -/
def works (i : Nat) : StreamAction ε → Bool
  | .socket _ (.client .other) => false
  | .socket j _ => j == i
  | _ => false

/-- How many steps are left of a handler when nothing more is sent. -/
def stepsLeft (p : EventStream ε φ) (s : SocketHandler φ) : Nat :=
  match s.proc with
  | .select => 2 * (p.sent.length - s.next) + 2
  | .send _ => 2 * (p.sent.length - s.next) + 3
  | .close => 1
  | .returned => 0

theorem stepsLeft_le (p : EventStream ε φ) (s : SocketHandler φ) :
    p.stepsLeft s ≤ 2 * (p.sent.length - s.next) + 3 := by
  rw [stepsLeft]
  split <;> omega

theorem stepsLeft_step {s s' : SocketHandler φ} {b : SocketAction ε} (m : s.Moves serialize b s')
    (answers : ∀ answer, b = .recv answer → p.Answers capacity s answer) (i : Nat) :
    p.stepsLeft s' + (if works i (.socket i b) then 1 else 0) ≤ p.stepsLeft s := by
  cases m with
  | client message select =>
    cases message with
    | other => exact le_rfl
    | close | error | none =>
      simp only [stepsLeft, SocketHandler.onClient, select, works, beq_self_eq_true, if_true]
      omega
  | event answer select =>
    have documented := answers answer rfl
    have work : works i (.socket i (.recv answer)) = true := beq_self_eq_true i
    rw [work, if_pos rfl]
    cases answer with
    | ok ev =>
      have bound := (List.getElem?_eq_some_iff.mp documented.1).1
      rw [SocketHandler.onEvent]
      cases serialize ev with
      | none =>
        simp only [stepsLeft, select]
        omega
      | some payload =>
        simp only [stepsLeft, select]
        omega
    | lagged n =>
      obtain ⟨pos, -, bound⟩ := documented
      simp only [stepsLeft, SocketHandler.onEvent, select]
      omega
    | closed =>
      simp only [stepsLeft, SocketHandler.onEvent, select]
      omega
  | delivered payload sending =>
    simp only [stepsLeft, sending, works, beq_self_eq_true, if_true]
    omega
  | failed payload sending =>
    simp only [stepsLeft, sending, works, beq_self_eq_true, if_true]
    omega
  | closed closing => simp [stepsLeft, closing, works]

theorem works_ne {i j : Nat} (b : SocketAction ε) (h : j ≠ i) : works i (.socket j b) = false := by
  unfold works
  split
  · rfl
  next he =>
    cases he
    exact beq_false_of_ne h
  · rfl

theorem exec_stepsLeft {i : Nat} {as : List (StreamAction ε)} {s : SocketHandler φ}
    (gone : p.senders = 0) (hs : p.sockets[i]? = some s)
    (admitted : Runs.Admitted (step serialize) (Documented capacity) p as)
    (ran : Runs.exec (step serialize) p as = some p') : as.countP (works i) ≤ p.stepsLeft s := by
  induction as generalizing p s with
  | nil => exact Nat.zero_le _
  | cons a as ih =>
    obtain ⟨q, stepped, rest⟩ := Option.bind_eq_some_iff.mp ran
    rw [Runs.Admitted, stepped] at admitted
    obtain ⟨documented, later⟩ := admitted
    obtain ⟨ev, rfl, open_, rfl⟩ | ⟨rfl, open_, rfl⟩ | ⟨rfl, open_, rfl⟩ |
      ⟨j, b, t, t', rfl, ht, moves, rfl⟩ := step_cases stepped
    · exact absurd gone open_
    · exact absurd gone open_
    · exact absurd gone open_
    · rw [List.countP_cons]
      by_cases hj : j = i
      · subst hj
        obtain rfl := Option.some.inj (ht.symm.trans hs)
        have bound := (List.getElem?_eq_some_iff.mp ht).1
        have after := ih (p := ⟨p.sent, p.senders, p.sockets.set j t'⟩) gone
          (List.getElem?_set_self bound) later rest
        have answers : ∀ answer, b = .recv answer → p.Answers capacity t answer := by
          rintro answer rfl
          exact documented t ht
        have less := stepsLeft_step moves answers j
        have same : stepsLeft ⟨p.sent, p.senders, p.sockets.set j t'⟩ t' = p.stepsLeft t' := rfl
        omega
      · rw [works_ne b hj]
        exact ih (p := ⟨p.sent, p.senders, p.sockets.set j t'⟩) gone
          ((List.getElem?_set_ne hj).trans hs) later rest

/-- Steps that need nothing from the client: an answer of the channel, and the return. -/
def ownStep : SocketAction ε → Bool
  | .recv _ | .closed => true
  | .client _ | .sent _ => false

/-- A handler that has not returned can go on by itself, unless a frame is being sent. -/
theorem exists_ownStep {i : Nat} {s : SocketHandler φ} (gone : p.senders = 0)
    (hs : p.sockets[i]? = some s) (follows : s.Follows serialize p.sent)
    (running : s.proc ≠ .returned) :
    (∃ b, ownStep b = true ∧ p.Documented capacity (.socket i b) ∧
      (p.step serialize (.socket i b)).isSome = true) ∨
    ∃ payload, s.proc = .send payload ∧
      ∀ ok, (p.step serialize (.socket i (.sent ok))).isSome = true := by
  cases hp : s.proc with
  | returned => exact absurd hp running
  | close =>
    refine .inl ⟨.closed, rfl, trivial, ?_⟩
    simp [step, hs, SocketHandler.step, hp]
  | send payload =>
    refine .inr ⟨payload, rfl, fun ok => ?_⟩
    cases ok <;> simp [step, hs, SocketHandler.step, hp]
  | select =>
    have takes : ∀ answer, p.Answers capacity s answer → ∃ b : SocketAction ε, ownStep b = true ∧
        p.Documented capacity (.socket i b) ∧ (p.step serialize (.socket i b)).isSome = true := by
      intro answer documented
      refine ⟨.recv answer, rfl, fun t ht => ?_, ?_⟩
      · obtain rfl := Option.some.inj (hs.symm.trans ht)
        exact documented
      · simp [step, hs, SocketHandler.step, hp]
    have received := follows.received
    by_cases all : s.next = p.sent.length
    · exact .inl (takes .closed ⟨all, gone⟩)
    · have there : s.next < p.sent.length := by omega
      by_cases retained : p.sent.length ≤ s.next + capacity
      · exact .inl (takes (.ok p.sent[s.next]) ⟨List.getElem?_eq_getElem there, retained⟩)
      · exact .inl (takes (.lagged 1) ⟨Nat.one_pos, by omega, there⟩)

/-- Once the device is gone every WebSocket ends. Whatever is done in whatever order, it takes no
more than two steps for each event left and three to leave; and a handler that has not returned can
go on by itself or is sending a frame, which may succeed or fail. -/
theorem sockets_end {senders : Nat}
    (h : Runs.Reach (step serialize) (Documented capacity) (fun p => p = opened senders) p)
    (gone : p.senders = 0) {i : Nat} {s : SocketHandler φ} (hs : p.sockets[i]? = some s) :
    (∀ as p', Runs.Admitted (step serialize) (Documented capacity) p as →
      Runs.exec (step serialize) p as = some p' →
        as.countP (works i) ≤ 2 * (p.sent.length - s.next) + 3) ∧
    (s.proc ≠ .returned →
      (∃ b, ownStep b = true ∧ p.Documented capacity (.socket i b) ∧
        (p.step serialize (.socket i b)).isSome = true) ∨
      ∃ payload, s.proc = .send payload ∧
        ∀ ok, (p.step serialize (.socket i (.sent ok))).isSome = true) := by
  have follows := follows_of_reach (fun _ _ => id) h (List.mem_of_getElem? hs)
  refine ⟨fun as p' admitted ran => ?_, exists_ownStep gone hs follows⟩
  exact (exec_stepsLeft gone hs admitted ran).trans (p.stepsLeft_le s)

/-- The device goes while the second event is being sent to one of two clients. -/
def loseMiddleLed : List (StreamAction DeviceEvent) :=
  [.send (.playerLed 0 4), .subscribe, .subscribe, .send (.playerLed 0 4),
    .socket 0 (.recv (.ok (.playerLed 0 4))), .dropSender, .dropSender]

theorem sockets_end_middleLed : ∃ p : EventStream DeviceEvent String,
    p.sockets.length = 2 ∧ p.senders = 0 ∧
    (∀ as p', Runs.Admitted (step middleLedText) (Documented eventChannelCapacity) p as →
      Runs.exec (step middleLedText) p as = some p' →
        as.countP (works 0) ≤ 3 ∧ as.countP (works 1) ≤ 5) ∧
    ∃ b, ownStep b = true ∧ (p.step middleLedText (.socket 1 b)).isSome = true := by
  have reached : ∃ p, Runs.Reach (step middleLedText) (Documented eventChannelCapacity)
      (fun p => p = opened 2) p ∧ p.senders = 0 ∧ p.sent.length = 2 ∧ p.sockets =
        [⟨1, 2, 0, .send "\x7b\"type\":\"player_led\",\"ts_ms\":0,\"value\":4\x7d", []⟩,
          ⟨1, 1, 0, .select, []⟩] :=
    Runs.exists_reach_of_run (step middleLedText) (Documented eventChannelCapacity) (by rfl)
      loseMiddleLed (by decide)
  obtain ⟨p, reach, gone, sent, sockets⟩ := reached
  have sending := (sockets_end reach gone (i := 0) (by rw [sockets]; rfl)).1
  obtain ⟨waiting, goes⟩ := sockets_end reach gone (i := 1) (by rw [sockets]; rfl)
  rw [sent] at sending waiting
  refine ⟨p, by rw [sockets]; rfl, gone, fun as p' admitted ran => ?_, ?_⟩
  · exact ⟨sending as p' admitted ran, waiting as p' admitted ran⟩
  · obtain ⟨b, own, -, enabled⟩ | ⟨payload, busy, -⟩ := goes nofun
    · exact ⟨b, own, enabled⟩
    · cases busy

/-- Nothing is sent while the handler `i` runs and is the whole capacity behind. -/
def KeepsUp (i capacity : Nat) (p : EventStream ε φ) : StreamAction ε → Prop
  | .send _ => ∀ s ∈ p.sockets[i]?, ¬Left s → p.sent.length < s.next + capacity
  | _ => True

instance [DecidableEq φ] (i capacity : Nat) (p : EventStream ε φ) :
    ∀ a, Decidable (p.KeepsUp i capacity a)
  | .send _ =>
    inferInstanceAs (Decidable (∀ s ∈ p.sockets[i]?, ¬Left s → p.sent.length < s.next + capacity))
  | .dropSender | .subscribe | .socket _ _ => .isTrue trivial

/-- A handler that has missed nothing and is not further behind than the channel retains. -/
def Near (capacity : Nat) (p : EventStream ε φ) (s : SocketHandler φ) : Prop :=
  s.missed = 0 ∧ (¬Left s → p.sent.length ≤ s.next + capacity)

theorem Near.step {s s' : SocketHandler φ} {b : SocketAction ε} (near : Near capacity p s)
    (m : s.Moves serialize b s')
    (answers : ∀ answer, b = .recv answer → p.Answers capacity s answer) : Near capacity p s' := by
  obtain ⟨missed, behind⟩ := near
  cases m with
  | client message select =>
    have running : ¬Left s := by simp [Left, select]
    cases message with
    | other => exact ⟨missed, behind⟩
    | close | error | none => exact ⟨missed, fun _ => behind running⟩
  | event answer select =>
    have running : ¬Left s := by simp [Left, select]
    have room := behind running
    cases answer with
    | ok ev =>
      rw [SocketHandler.onEvent]
      cases serialize ev with
      | none => exact ⟨missed, fun _ => by show _ ≤ s.next + 1 + capacity; omega⟩
      | some payload => exact ⟨missed, fun _ => by show _ ≤ s.next + 1 + capacity; omega⟩
    | lagged n =>
      obtain ⟨-, far, -⟩ := answers _ rfl
      omega
    | closed => exact ⟨missed, fun _ => room⟩
  | delivered payload sending | failed payload sending =>
    have running : ¬Left s := by simp [Left, sending]
    exact ⟨missed, fun _ => behind running⟩
  | closed closing => exact ⟨missed, fun running => absurd (.inr rfl) running⟩

theorem near_of_reach {senders i : Nat}
    (h : Runs.Reach (step serialize) (fun p a => Documented capacity p a ∧ KeepsUp i capacity p a)
      (fun p => p = opened senders) p)
    {s : SocketHandler φ} (hs : p.sockets[i]? = some s) : Near capacity p s := by
  induction h generalizing s with
  | start hi =>
    subst hi
    cases hs
  | @next p a p' _ admitted stepped ih =>
    obtain ⟨ev, rfl, -, rfl⟩ | ⟨rfl, -, rfl⟩ | ⟨rfl, -, rfl⟩ | ⟨j, b, t, t', rfl, ht, moves, rfl⟩ :=
      step_cases stepped
    · refine ⟨(ih hs).1, fun running => ?_⟩
      have room := admitted.2 s hs running
      show (p.sent ++ [ev]).length ≤ _
      rw [List.length_append, List.length_singleton]
      omega
    · exact ih hs
    · rcases List.getElem?_concat_eq_some_iff.mp hs with old | ⟨-, rfl⟩
      · exact ih old
      · exact ⟨rfl, fun _ => Nat.le_add_right _ _⟩
    · by_cases hj : j = i
      · subst hj
        have bound := (List.getElem?_eq_some_iff.mp ht).1
        obtain rfl := Option.some.inj ((List.getElem?_set_self bound).symm.trans hs)
        have answers : ∀ answer, b = .recv answer → p.Answers capacity t answer := by
          rintro answer rfl
          exact admitted.1 t ht
        exact (ih ht).step moves answers
      · exact ih ((List.getElem?_set_ne hj).symm.trans hs)

theorem lossless_of_reach {senders i : Nat}
    (h : Runs.Reach (step serialize) (fun p a => Documented capacity p a ∧ KeepsUp i capacity p a)
      (fun p => p = opened senders) p)
    {s : SocketHandler φ} (hs : p.sockets[i]? = some s) :
    s.Forwards (((p.sent.drop s.since).take (s.next - s.since)).filterMap serialize) := by
  obtain ⟨subscribed, received, taken, window, length, forwards⟩ :=
    follows_of_reach (fun _ _ => And.left) h (List.mem_of_getElem? hs)
  have whole : taken = (p.sent.drop s.since).take (s.next - s.since) := by
    refine window.eq_of_length ?_
    rw [List.length_take, List.length_drop, ← length, (near_of_reach h hs).1]
    omega
  rwa [← whole]

/-- As long as a handler does not fall behind by the capacity, its client was sent every event since
its subscription, however far behind the others are. -/
theorem sockets_lossless {senders i : Nat}
    (h : Runs.Reach (step serialize) (fun p a => Documented capacity p a ∧ KeepsUp i capacity p a)
      (fun p => p = opened senders) p)
    {s : SocketHandler φ} (hs : p.sockets[i]? = some s) :
    s.Forwards (((p.sent.drop s.since).take (s.next - s.since)).filterMap serialize) :=
  lossless_of_reach h hs

theorem sockets_lossless_middleLed : ∃ p : EventStream DeviceEvent String,
    p.sockets = [watchedMiddleLed] ∧
    watchedMiddleLed.Forwards (((p.sent.drop 1).take 1).filterMap middleLedText) := by
  have reached : ∃ p, Runs.Reach (step middleLedText) (fun p a =>
      Documented eventChannelCapacity p a ∧ KeepsUp 0 eventChannelCapacity p a)
      (fun p => p = opened 2) p ∧ p.sockets = [watchedMiddleLed] :=
    Runs.exists_reach_of_run (step middleLedText) (fun p a =>
      Documented eventChannelCapacity p a ∧ KeepsUp 0 eventChannelCapacity p a) (by rfl)
      watchMiddleLed (by decide)
  obtain ⟨p, reach, sockets⟩ := reached
  exact ⟨p, sockets, sockets_lossless reach (by rw [sockets]; rfl)⟩

end EventStream

end WinUHid
