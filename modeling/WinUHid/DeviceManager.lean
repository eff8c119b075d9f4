import WinUHid.GamepadCallbacks
import WinUHid.TokenGate
import WinUHid.SharedOwnership
import WinUHid.ThreadPool
import WinUHid.Runs
import Mathlib.Data.List.AList

namespace WinUHid

inductive DeviceKind where
  | generic
  | mouse
  | ps4
  | ps5
  | xOne
  deriving DecidableEq

structure DeviceSummary where
  id : Nat
  kind : DeviceKind
  name : String
  vendorId : UInt16
  productId : UInt16
  createdTsMs : UInt64
  deriving DecidableEq

/-- The native side of a device: its handle, and the boxed context of its callbacks. -/
inductive DeviceInner where
  | generic (handle ctxPtr : Nat) (reportDescriptor : List UInt8)
  | mouse (handle : Nat)
  | ps4 (handle ctxPtr : Nat)
  | ps5 (handle ctxPtr : Nat)
  | xOne (handle ctxPtr : Nat)

namespace DeviceInner

def kind : DeviceInner → DeviceKind
  | generic .. => .generic
  | mouse .. => .mouse
  | ps4 .. => .ps4
  | ps5 .. => .ps5
  | xOne .. => .xOne

def handle : DeviceInner → Nat
  | generic h .. | mouse h | ps4 h _ | ps5 h _ | xOne h _ => h

def ctxPtr : DeviceInner → Option Nat
  | mouse _ => none
  | generic _ c _ | ps4 _ c | ps5 _ c | xOne _ c => some c

end DeviceInner

/-- `Device`, apart from the `Sdk` and the channel. -/
structure Device where
  summary : DeviceSummary
  inner : DeviceInner

inductive NativeStatus where
  | created
  | started
  | stopped
  | destroyed
  deriving DecidableEq

/-- A device of the native libraries, the context its callbacks get and how many of them run. -/
structure NativeDevice where
  kind : DeviceKind
  macAddress : Option MacAddress
  context : Option Nat
  status : NativeStatus
  running : Nat

/-- A boxed `GenericCtx` or `PresetFeedbackCtx`; the latter has no `handle`. -/
structure ContextBox where
  handle : Option Nat
  freed : Bool

/-- What happens to the native devices, the boxed contexts and the map, in order. -/
inductive NativeCall where
  | created (handle : Nat) (ctx : Option Nat)
  | started (handle : Nat)
  | used (handle : Nat)
  | stopped (handle : Nat)
  | destroyed (handle : Nat)
  | accessed (ctx : Nat)
  | completed (handle ctx : Nat) (on : Option Nat)
  | freed (ctx : Nat)
  | inserted (id : Nat)
  | found (id : Nat)
  | removed (id : Nat)
  deriving DecidableEq

/-- The manager, its devices with their reference counts, and what lies behind their pointers. -/
structure ManagerState where
  devsLoaded : Bool
  devices : AList fun _ : Nat => Nat
  arcs : List (Counted Device)
  natives : List NativeDevice
  boxes : List ContextBox
  macCounter : UInt32
  macAddresses : List MacAddress
  calls : List NativeCall

namespace ManagerState

/-- `Manager::new`, and the `COUNTER` of `random_mac`. -/
def new (devsLoaded : Bool) : ManagerState := ⟨devsLoaded, ∅, [], [], [], 0xC0FFEE, [], []⟩

def log (s : ManagerState) (call : NativeCall) : ManagerState :=
  { s with calls := s.calls ++ [call] }

def setStatus (s : ManagerState) (h : Nat) (status : NativeStatus) : ManagerState :=
  { s with natives := s.natives.modify h fun n => { n with status } }

/-- `[0x02, 0xCA, 0xFE, bytes[0], bytes[1], bytes[2]]` -/
def macOf (n : UInt32) : MacAddress :=
  #v[0x02, 0xCA, 0xFE, n.toUInt8, (n >>> 8).toUInt8, (n >>> 16).toUInt8]

/-- `random_mac` -/
def randomMac (s : ManagerState) : MacAddress × ManagerState :=
  (macOf s.macCounter,
    { s with
      macCounter := s.macCounter + 1
      macAddresses := s.macAddresses ++ [macOf s.macCounter] })

/-- `Box::new` of a callback context. -/
def newBox (s : ManagerState) : ManagerState :=
  { s with boxes := s.boxes ++ [⟨none, false⟩] }

/-- `*ctx.handle.lock() = handle` -/
def setHandle (s : ManagerState) (ctx h : Nat) : ManagerState :=
  { s with boxes := s.boxes.modify ctx fun b => { b with handle := some h } }

/-- `drop(Box::from_raw(ctx_ptr))` -/
def freeBox (s : ManagerState) (ctx : Nat) : ManagerState :=
  { s with boxes := s.boxes.modify ctx fun b => { b with freed := true } }

def beginCallback (s : ManagerState) (h : Nat) : ManagerState :=
  { s with natives := s.natives.modify h fun n => { n with running := n.running + 1 } }

/-- A callback returns. -/
def returnCallback (s : ManagerState) (h : Nat) : ManagerState :=
  { s with natives := s.natives.modify h fun n => { n with running := n.running - 1 } }

/-- `*ctx.handle.lock()` -/
def handleOf (s : ManagerState) (ctx : Nat) : Option Nat := (s.boxes[ctx]?).bind ContextBox.handle

/-- Whether callbacks of a native device are in progress. -/
def isBusy (s : ManagerState) (h : Nat) : Bool := (s.natives[h]?).any fun n => n.running != 0

end ManagerState

/-- `GenericDeviceParams`, apart from what only goes into the native configuration. -/
structure GenericDeviceParams where
  name : Option String
  vendorId : UInt16
  productId : UInt16
  reportDescriptorHex : List Char

/-- What a creation has at hand when it calls the native library. -/
inductive Opening where
  | generic (ctx : Nat) (reportDescriptor : List UInt8)
  | mouse
  | ps4 (ctx : Nat)
  | ps5 (ctx : Nat)
  | xOne (ctx : Nat)

namespace Opening

def ctx : Opening → Option Nat
  | mouse => none
  | generic c _ | ps4 c | ps5 c | xOne c => some c

def inner (handle : Nat) : Opening → DeviceInner
  | generic c descriptor => .generic handle c descriptor
  | mouse => .mouse handle
  | ps4 c => .ps4 handle c
  | ps5 c => .ps5 handle c
  | xOne c => .xOne handle c

@[simp] theorem handle_inner (o : Opening) (h : Nat) : (o.inner h).handle = h := by cases o <;> rfl

@[simp] theorem ctxPtr_inner (o : Opening) (h : Nat) : (o.inner h).ctxPtr = o.ctx := by
  cases o <;> rfl

def kind (o : Opening) : DeviceKind := (o.inner 0).kind

@[simp] theorem kind_inner (o : Opening) (h : Nat) : (o.inner h).kind = o.kind := by
  cases o <;> rfl

end Opening

structure Creation where
  name : String
  vendorId : UInt16
  productId : UInt16
  macAddress : Option MacAddress
  opening : Opening

def Creation.device (c : Creation) (handle uuid : Nat) (nowMs : UInt64) : Device where
  summary := ⟨uuid, c.opening.kind, c.name, c.vendorId, c.productId, nowMs⟩
  inner := c.opening.inner handle

/-- What a request does with the device it looks up. The report of a preset stands for the calls of
`mouse_motion`, `mouse_button`, `mouse_scroll` and the three `submit_*_state`. -/
inductive DeviceRequest where
  | submitGenericInput (reportHex : List Char)
  | reportPreset (kind : DeviceKind)
  | wsEvents

inductive ManagerRequest where
  | createGeneric (params : GenericDeviceParams)
  | createMouse (name : Option String)
  | createPs4 (name : Option String)
  | createPs5 (name : Option String)
  | createXOne (name : Option String)
  | device (id : Nat) (request : DeviceRequest)
  | destroy (id : Nat)
  | destroyAll

/-- The next step of a request, of a callback, or of the drop of a device. -/
inductive ManagerProc where
  | request (r : ManagerRequest)
  | createNative (c : Creation)
  | storeHandle (c : Creation) (handle ctx : Nat)
  | start (c : Creation) (handle : Nat)
  | neutralReport (c : Creation) (handle : Nat)
  | insert (c : Creation) (handle : Nat)
  | submit (arc handle : Nat) (cache : Option Nat)
  | insertReport (arc ctx : Nat)
  | storeLastId (arc ctx : Nat)
  | release (arcs : List Nat)
  | stop (handle ctx : Nat) (rest : List Nat)
  | destroy (handle : Nat) (ctx : Option Nat) (rest : List Nat)
  | free (ctx : Nat) (rest : List Nat)
  | completeEvent (handle ctx : Nat)
  | sendEvent (handle ctx : Nat)

/-- What the native library answers, and the id and the time of a new device. -/
structure Outcome where
  ok : Bool
  uuid : Nat
  nowMs : UInt64

/-- `impl Drop for Device`; `rest` are the references dropped after it. -/
def Device.drop (devsLoaded : Bool) (d : Device) (rest : List Nat) : ManagerProc :=
  match d.inner with
  | .generic h c _ => .stop h c rest
  | .mouse h => if devsLoaded then .destroy h none rest else .release rest
  | .ps4 h c | .ps5 h c | .xOne h c =>
    if devsLoaded then .destroy h (some c) rest else .free c rest

/-- What a request goes on to do with its device `d`, to which it holds the reference `arc`. -/
def Device.serve (hexDecode : List Char → Option (List UInt8)) (devsLoaded : Bool) (arc : Nat)
    (d : Device) : DeviceRequest → ManagerProc
  | .submitGenericInput reportHex =>
    match hexDecode (trim reportHex), d.inner with
    | some (_ :: _), .generic h c _ => .submit arc h (some c)
    | _, _ => .release [arc]
  | .reportPreset kind =>
    if devsLoaded && d.inner.kind = kind then .submit arc d.inner.handle none else .release [arc]
  | .wsEvents => .release [arc]

namespace ManagerState

variable (hexDecode : List Char → Option (List UInt8))

def newNative (s : ManagerState) (c : Creation) : ManagerState :=
  { s with
    natives := s.natives ++ [⟨c.opening.kind, c.macAddress, c.opening.ctx, .created, 0⟩] }

/-- `Manager::insert`: one reference is in the map, one with the caller. -/
def insert (s : ManagerState) (d : Device) : ManagerState :=
  { s with
    arcs := Counted.alloc s.arcs 2 d
    devices := s.devices.insert d.summary.id s.arcs.length }

/-- A preset is created with a boxed context. -/
def createGamepad (s : ManagerState) (name : String) (vendorId productId : UInt16)
    (macAddress : Option MacAddress) (opening : Nat → Opening) : ManagerState × List ManagerProc :=
  (s.newBox,
    [.createNative ⟨name, vendorId, productId, macAddress, opening s.boxes.length⟩])

/-- The first step of a request. -/
def begin (s : ManagerState) : ManagerRequest → ManagerState × List ManagerProc
  | .createGeneric params =>
    match hexDecode (trim params.reportDescriptorHex) with
    | none => (s, [])
    | some descriptor =>
      if descriptor.isEmpty || 0xFFFF < descriptor.length then (s, [])
      else
        (s.newBox, [.createNative ⟨params.name.getD "Generic HID", params.vendorId,
          params.productId, none, .generic s.boxes.length descriptor⟩])
  | .createMouse name =>
    if s.devsLoaded then
      (s, [.createNative ⟨name.getD "Mouse", 0x045E, 0x0823, none, .mouse⟩])
    else (s, [])
  | .createPs4 name =>
    if s.devsLoaded then
      s.randomMac.2.createGamepad (name.getD "DualShock 4") 0x054C 0x09CC s.randomMac.1 .ps4
    else (s, [])
  | .createPs5 name =>
    if s.devsLoaded then
      s.randomMac.2.createGamepad (name.getD "DualSense") 0x054C 0x0CE6 s.randomMac.1 .ps5
    else (s, [])
  | .createXOne name =>
    if s.devsLoaded then
      s.createGamepad (name.getD "Xbox One Controller") 0x045E 0x02E0 none .xOne
    else (s, [])
  | .device id request =>
    match s.devices.lookup id with
    | none => (s, [])
    | some arc =>
      match s.arcs[arc]? with
      | none => (s, [])
      | some x =>
        ({ s with arcs := Counted.clone s.arcs arc }.log (.found id),
          [x.value.serve hexDecode s.devsLoaded arc request])
  | .destroy id =>
    match s.devices.lookup id with
    | none => (s, [])
    | some arc =>
      ({ s with devices := s.devices.erase id }.log (.removed id), [.release [arc]])
  | .destroyAll =>
    ({ s with devices := ∅, calls := s.calls ++ s.devices.keys.map .removed },
      [.release (s.devices.entries.map Sigma.snd)])

/-- One step of a request or a callback. A destruction waits for the callbacks in progress. -/
def body (o : Outcome) (s : ManagerState) : ManagerProc → ManagerState × List ManagerProc
  | .request r => s.begin hexDecode r
  | .createNative c =>
    if o.ok then
      ((s.newNative c).log (.created s.natives.length c.opening.ctx),
        match c.opening with
        | .generic ctx _ => [.storeHandle c s.natives.length ctx]
        | _ => [.start c s.natives.length])
    else
      match c.opening.ctx with
      | some ctx => (s, [.free ctx []])
      | none => (s, [])
  | .storeHandle c h ctx => ((s.setHandle ctx h).log (.accessed ctx), [.start c h])
  | .start c h =>
    if o.ok then
      ((s.setStatus h .started).log (.started h),
        if c.opening.kind = .generic then [.insert c h] else [.neutralReport c h])
    else (s.log (.used h), [.destroy h c.opening.ctx []])
  | .neutralReport c h =>
    (s.log (.used h), if o.ok then [.insert c h] else [.destroy h c.opening.ctx []])
  | .insert c h =>
    ((s.insert (c.device h o.uuid o.nowMs)).log (.inserted o.uuid),
      [.release ((s.devices.lookup o.uuid).toList ++ [s.arcs.length])])
  | .submit arc h cache =>
    (s.log (.used h),
      match cache with
      | some ctx => if o.ok then [.insertReport arc ctx] else [.release [arc]]
      | none => [.release [arc]])
  | .insertReport arc ctx => (s.log (.accessed ctx), [.storeLastId arc ctx])
  | .storeLastId arc ctx => (s.log (.accessed ctx), [.release [arc]])
  | .release [] => (s, [])
  | .release (arc :: rest) =>
    match s.arcs[arc]? with
    | none => (s, [])
    | some x =>
      ({ s with arcs := Counted.release s.arcs arc },
        if x.strong = 1 then [x.value.drop s.devsLoaded rest] else [.release rest])
  | .stop h ctx rest =>
    if s.isBusy h then (s, [.stop h ctx rest])
    else ((s.setStatus h .stopped).log (.stopped h), [.destroy h (some ctx) rest])
  | .destroy h ctx rest =>
    if s.isBusy h then (s, [.destroy h ctx rest])
    else
      ((s.setStatus h .destroyed).log (.destroyed h),
        match ctx with
        | some ctx => [.free ctx rest]
        | none => [.release rest])
  | .free ctx rest => ((s.freeBox ctx).log (.freed ctx), [.release rest])
  | .completeEvent h ctx => (s.log (.completed h ctx (s.handleOf ctx)), [.sendEvent h ctx])
  | .sendEvent h ctx => ((s.returnCallback h).log (.accessed ctx), [])

end ManagerState

inductive ManagerAction where
  | arrives (r : ManagerRequest)
  | callback (handle : Nat)
  | run (i : Nat) (o : Outcome)

abbrev ManagerPool := Pool ManagerState ManagerProc

/-- The native library calls back on a thread of its own while the device is started. -/
def ManagerPool.callback (p : ManagerPool) (h : Nat) : Option ManagerPool :=
  match p.shared.natives[h]? with
  | some ⟨kind, _, some ctx, .started, _⟩ =>
    some (p.spawn (p.shared.beginCallback h)
      (if kind = .generic then .completeEvent h ctx else .sendEvent h ctx))
  | _ => none

def ManagerPool.step (hexDecode : List Char → Option (List UInt8)) (p : ManagerPool) :
    ManagerAction → Option ManagerPool
  | .arrives r => some (p.spawn p.shared (.request r))
  | .callback h => p.callback h
  | .run i o => p.run (fun s => s.body hexDecode o) i

def ManagerPool.Fresh (p : ManagerPool) : Prop := ∃ devsLoaded, p = ⟨.new devsLoaded, []⟩

end WinUHid
