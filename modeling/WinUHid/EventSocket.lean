import WinUHid.Runs

namespace WinUHid

/-- A socket is `closing` from a call of `close` or the end of its connection on: it gets no more
messages, and its close event is still to come. -/
inductive SocketPhase where
  | live
  | closing
  | closed
  deriving DecidableEq

structure EventSocket (Id : Type) where
  id : Id
  phase : SocketPhase

inductive WsStatus where
  | live
  | reconnecting
  | dead
  | idle
  deriving DecidableEq

/-- `state` of `app.js`, and every `WebSocket` that it has constructed. -/
structure Frontend (Id : Type) where
  devices : List Id
  activeId : Option Id
  ws : Option Nat
  wsBackoffMs : Nat
  wsTimer : Option Id
  wsStatus : WsStatus
  sockets : List (EventSocket Id)

/-- `constructed` says whether the constructor of a `WebSocket` returns or throws, and `saved` is
what the session storage holds. -/
inductive FrontendEvent (Id : Type) where
  | selectDevice (id : Id) (constructed : Bool)
  | refreshDevices (list : List Id) (saved : Option Id) (constructed : Bool)
  | created (id : Id) (constructed : Bool)
  | destroyed (id : Id)
  | opened (k : Nat)
  | dropped (k : Nat)
  | closeEvent (k : Nat)
  | timerFires (constructed : Bool)

namespace Frontend

variable {Id : Type}

def initial : Frontend Id := ⟨[], none, none, 1000, none, .idle, []⟩

def setPhase (s : Frontend Id) (k : Nat) (phase : SocketPhase) : Frontend Id :=
  { s with sockets := s.sockets.modify k fun w => { w with phase := phase } }

def phaseOf (s : Frontend Id) (k : Nat) : Option SocketPhase := s.sockets[k]?.map (·.phase)

/-- `if (state.ws) { try { state.ws.close(); } catch (_) {} state.ws = null; }` -/
def closeWs (s : Frontend Id) : Frontend Id :=
  match s.ws with
  | none => s
  | some k =>
    let s := if s.phaseOf k = some .live then s.setPhase k .closing else s
    { s with ws := none }

/-- `if (state.ws === ws) state.ws = null;` -/
def forget (s : Frontend Id) (k : Nat) : Frontend Id :=
  if s.ws = some k then { s with ws := none } else s

def cancelReconnect (s : Frontend Id) : Frontend Id := { s with wsTimer := none }

variable [DecidableEq Id]

def scheduleReconnect (s : Frontend Id) (id : Id) : Frontend Id :=
  let s := s.cancelReconnect
  if s.activeId ≠ some id then s
  else { s with wsBackoffMs := min (s.wsBackoffMs * 2) 15000, wsTimer := some id }

def openSocket (s : Frontend Id) (id : Id) (constructed : Bool) : Frontend Id :=
  if s.activeId ≠ some id then s
  else if !constructed then s.scheduleReconnect id
  else { s with ws := some s.sockets.length, sockets := s.sockets ++ [⟨id, .live⟩] }

def selectDevice (s : Frontend Id) (id : Id) (constructed : Bool) : Frontend Id :=
  let s := closeWs (cancelReconnect { s with activeId := some id })
  openSocket { s with wsBackoffMs := 1000, wsStatus := .reconnecting } id constructed

/-- What `refreshDevices` does with the active device. -/
def leaveDestroyed (s : Frontend Id) : Frontend Id :=
  if s.activeId.any (· ∉ s.devices) then
    { closeWs (cancelReconnect s) with wsStatus := .dead, activeId := none }
  else s

/-- `refreshDevices`, from the answer of the server on. -/
def refreshDevices (s : Frontend Id) (list : List Id) (saved : Option Id) (constructed : Bool) :
    Frontend Id :=
  let s := leaveDestroyed { s with devices := list }
  if s.activeId.isNone then
    match (list.find? fun id => some id = saved).or list.head? with
    | some restored => s.selectDevice restored constructed
    | none => s
  else s

/-- The handler of a destroy button, between the deletion and the refresh that follows. -/
def destroyed (s : Frontend Id) (id : Id) : Frontend Id :=
  if s.activeId = some id then closeWs (cancelReconnect { s with activeId := none }) else s

/-- The close handler of the socket `k`, which was opened for `id`. -/
def closeHandler (s : Frontend Id) (k : Nat) (id : Id) : Frontend Id :=
  let s := s.forget k
  if s.activeId ≠ some id then s
  else if id ∉ s.devices then { s with wsStatus := .dead }
  else scheduleReconnect { s with wsStatus := .reconnecting } id

def timerHandler (s : Frontend Id) (id : Id) (constructed : Bool) : Frontend Id :=
  let s := { s with wsTimer := none }
  if s.activeId ≠ some id then s else s.openSocket id constructed

/-- One event. A socket opens while it is live, its connection ends once, and then its close event
comes once; a timer fires while it is set. -/
def step (s : Frontend Id) : FrontendEvent Id → Option (Frontend Id)
  | .selectDevice id constructed => some (s.selectDevice id constructed)
  | .refreshDevices list saved constructed => some (s.refreshDevices list saved constructed)
  | .created id constructed => some (s.selectDevice id constructed)
  | .destroyed id => some (s.destroyed id)
  | .opened k =>
    if s.phaseOf k ≠ some .live then none
    else if s.ws ≠ some k then some s
    else some { s with wsBackoffMs := 1000, wsStatus := .live }
  | .dropped k => if s.phaseOf k ≠ some .live then none else some (s.setPhase k .closing)
  | .closeEvent k =>
    match s.sockets[k]? with
    | some ⟨id, .closing⟩ => some ((s.setPhase k .closed).closeHandler k id)
    | _ => none
  | .timerFires constructed => s.wsTimer.map fun id => s.timerHandler id constructed

/-- The message handler of the socket `k` still runs and feeds `pushEvent` for the active device. -/
def Feeds (s : Frontend Id) (k : Nat) : Prop :=
  ∃ w, s.sockets[k]? = some w ∧ w.phase = .live ∧ s.activeId = some w.id

/-- How often an event that the server sends for a device is logged. -/
def timesLogged (s : Frontend Id) (id : Id) : Nat :=
  s.sockets.countP fun w => decide (w.phase = .live ∧ w.id = id ∧ s.activeId = some id)

/-- Only `state.ws` logs events, each once. -/
def LogsOnce (s : Frontend Id) : Prop :=
  (∀ k, s.Feeds k → s.ws = some k) ∧ ∀ id, s.timesLogged id ≤ 1

/-- The reconnect timer of the active device opens no socket beside a live `state.ws`. -/
def ReconnectsAlone (s : Frontend Id) : FrontendEvent Id → Prop
  | .timerFires true => s.wsTimer = s.activeId → ∀ k ∈ s.ws, s.phaseOf k ≠ some .live
  | _ => True

instance (s : Frontend Id) : ∀ event, Decidable (s.ReconnectsAlone event)
  | .timerFires true =>
    inferInstanceAs (Decidable (s.wsTimer = s.activeId → ∀ k ∈ s.ws, s.phaseOf k ≠ some .live))
  | .timerFires false => .isTrue trivial
  | .selectDevice .. => .isTrue trivial
  | .refreshDevices .. => .isTrue trivial
  | .created .. => .isTrue trivial
  | .destroyed _ => .isTrue trivial
  | .opened _ => .isTrue trivial
  | .dropped _ => .isTrue trivial
  | .closeEvent _ => .isTrue trivial

end Frontend

end WinUHid
