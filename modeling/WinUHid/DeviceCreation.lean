import WinUHid.HardwareIds
import WinUHid.ResourceLog
import WinUHid.SdkDevice

namespace WinUHid

open LittleEndian

def winuhidVersionLatest : UInt32 := 1

def ushortBytes (v : UInt16) : List UInt8 := bytes 2 v.toNat

/-- The buffer with which `WinUHidCreateDevice` sends `IOCTL_WINUHID_SET_INSTANCE_ID`, for an
`InstanceID` that points at the object; `none` where it reads behind it. -/
def instanceIdBuffer (object : List Wchar) : Option (List UInt8) :=
  (wcslen object).bind fun n =>
    let size := UInt32.ofNat (n + 1) * UInt32.ofNat sizeofWchar
    if size.toNat ≤ (wcharBytes object).length then some ((wcharBytes object).take size.toNat)
    else none

/-- `WINUHID_DEVICE_CONFIG`; a pointer is the memory that it points at, which holds all that is read
through the pointer and may go on behind the string or the list that is meant. -/
structure DeviceConfig where
  supportedEvents : UInt32
  vendorID : UInt16
  productID : UInt16
  versionNumber : UInt16
  reportDescriptorLength : UInt16
  reportDescriptor : Option (List UInt8)
  containerId : List UInt8
  instanceID : Option (List Wchar)
  hardwareIDs : Option (List Wchar)
  readReportPeriodUs : UInt32
  sizeofGuid : containerId.length = 16
  readable_reportDescriptor :
    ∀ object ∈ reportDescriptor, reportDescriptorLength.toNat ≤ object.length
  readable_instanceID : ∀ object ∈ instanceID, (instanceIdBuffer object).isSome = true
  readable_hardwareIDs : ∀ object ∈ hardwareIDs, (hardwareIdsBuffer object).isSome = true

namespace DeviceConfig

/-- `WinUHidCreateDevice` refuses other configurations with `ERROR_INVALID_PARAMETER`. -/
def valid (config : DeviceConfig) : Bool :=
  config.reportDescriptor.isSome && config.reportDescriptorLength != 0

def throttled (config : DeviceConfig) : Bool :=
  config.supportedEvents &&& EventType.readReport.value != 0 && config.readReportPeriodUs != 0

/-- The bytes of `devInfo`; `padding` is what the stack holds before `ContainerId`. -/
def deviceInfo (config : DeviceConfig) (padding : UInt16) : List UInt8 :=
  ulongBytes winuhidVersionLatest ++ ulongBytes config.supportedEvents ++
    ushortBytes config.vendorID ++ ushortBytes config.productID ++
    ushortBytes config.versionNumber ++ ushortBytes padding ++ config.containerId

def descriptorBytes (config : DeviceConfig) : List UInt8 :=
  config.reportDescriptor.elim [] (List.take config.reportDescriptorLength.toNat)

def instanceIdBytes (config : DeviceConfig) : Option (List UInt8) :=
  config.instanceID.bind instanceIdBuffer

def hardwareIdsBytes (config : DeviceConfig) : Option (List UInt8) :=
  config.hardwareIDs.bind hardwareIdsBuffer

end DeviceConfig

inductive HandleValue where
  | null
  | invalid
  | opened
  deriving DecidableEq

/-- What `WINUHID_DEVICE` owns, with its state; handles other than `Handle` are `NULL` or not. -/
structure WinUHidDevice where
  handle : HandleValue := .null
  state : DeviceState := .created
  eventThread : Bool := false
  readThread : Bool := false
  throttlingTimer : Bool := false
  readReportReadyEvent : Bool := false
  pendingReadReportEvent : Bool := false

/-- The variables in which the SDK keeps what it has to give back. -/
inductive SdkResource where
  | overlappedEvent
  | privateEvent
  | heapBlock
  | handle
  | throttlingTimer
  | readReportReadyEvent
  | eventThread
  | readThread
  deriving DecidableEq

def SdkResource.isThread : SdkResource → Bool
  | .eventThread | .readThread => true
  | _ => false

def WinUHidDevice.owns (device : WinUHidDevice) : SdkResource → Bool
  | .overlappedEvent | .privateEvent => false
  | .heapBlock => true
  | .handle => device.handle == .opened
  | .throttlingTimer => device.throttlingTimer
  | .readReportReadyEvent => device.readReportReadyEvent
  | .eventThread => device.eventThread
  | .readThread => device.readThread

/-- A thread uses all of its device until it ends, and its handle stays open until then. -/
def SdkResource.uses (thread : SdkResource) : SdkResource → Bool
  | .heapBlock | .handle | .throttlingTimer | .readReportReadyEvent => thread.isThread
  | r => thread.isThread && r == thread

/-- A program that uses at most one device at a time, and the driver's file object behind its handle.
The last three fields are a history: the configuration of the last device, the requests that reached
the driver with the state that they found, and the SDK's use of what it owns. -/
structure SdkClient where
  overlappedEvent : Bool := false
  privateEvent : Bool := false
  device : Option WinUHidDevice := none
  file : FileSetup := .initial
  config : Option DeviceConfig := none
  requests : List (FileSetup × SetupRequest) := []
  calls : List (ResourceCall SdkResource) := []

/-- How `DeviceIoControlInSync` goes: whether its own event can be created and the request can be
issued, what the framework does for it, and whether the wait for it succeeds. -/
structure IoctlOutcome where
  createEvent : Bool := true
  issued : Bool := true
  framework : SetupRequest := { ioctl := .startDevice, buffer := ⟨[], fun _ => 0⟩ }
  waited : Bool := true

def IoctlOutcome.request (o : IoctlOutcome) (ioctl : SetupIoctl) (inBuffer : List UInt8) :
    SetupRequest :=
  { o.framework with ioctl := ioctl, buffer := ⟨inBuffer, o.framework.buffer.beyond⟩ }

namespace SdkClient

/-- What the variables say is owned. -/
def owns (s : SdkClient) : SdkResource → Bool
  | .overlappedEvent => s.overlappedEvent
  | .privateEvent => s.privateEvent
  | r => s.device.any (·.owns r)

def runs (s : SdkClient) (r : SdkResource) : Bool := r.isThread && s.owns r

def called (s : SdkClient) (call : ResourceCall SdkResource) : SdkClient :=
  { s with calls := s.calls ++ [call] }

def setDevice (s : SdkClient) (f : WinUHidDevice → WinUHidDevice) : SdkClient :=
  { s with device := s.device.map f }

/-- `DeviceIoControl` and `GetOverlappedResultEx` of a request of the set-up. -/
def deviceIoControl (ioctl : SetupIoctl) (inBuffer : List UInt8) (o : IoctlOutcome) :
    CheckedCall SdkClient := fun s =>
  let s := s.called (.use .handle)
  if !o.issued then (false, s)
  else
    let r := o.request ioctl inBuffer
    (ntSuccess (s.file.ioDeviceControl r).2.status && o.waited,
      { s with
        file := (s.file.ioDeviceControl r).1
        requests := s.requests ++ [(s.file, r)] })

/-- `DeviceIoControlInSync` with the caller's event. -/
def deviceIoControlWithEvent (ioctl : SetupIoctl) (inBuffer : List UInt8) (o : IoctlOutcome) :
    CheckedCall SdkClient := fun s =>
  deviceIoControl ioctl inBuffer o (s.called (.use .overlappedEvent))

/-- `DeviceIoControlInSync` without an event, for a request that `io` issues. -/
def withPrivateEvent (createEvent : Bool) (io : CheckedCall SdkClient) : CheckedCall SdkClient :=
  fun s =>
    if !createEvent then (false, s)
    else
      let (ret, s) := io { s.called (.acquire .privateEvent) with privateEvent := true }
      (ret, { s.called (.release .privateEvent) with privateEvent := false })

def heapAlloc (ok : Bool) : CheckedCall SdkClient := fun s =>
  if ok then (true, { s.called (.acquire .heapBlock) with device := some {} }) else (false, s)

def createWaitableTimer (ok : Bool) : CheckedCall SdkClient := fun s =>
  if ok then
    (true, (s.called (.acquire .throttlingTimer)).setDevice ({ · with throttlingTimer := true }))
  else (false, s)

def createReadReportReadyEvent (ok : Bool) : CheckedCall SdkClient := fun s =>
  if ok then
    (true, (s.called (.acquire .readReportReadyEvent)).setDevice
      ({ · with readReportReadyEvent := true }))
  else (false, s)

/-- `CreateFileW`: the driver starts with a new file object. -/
def createFile (ok : Bool) : CheckedCall SdkClient := fun s =>
  if ok then
    (true, { (s.called (.acquire .handle)).setDevice ({ · with handle := .opened }) with
      file := .initial })
  else (false, s.setDevice ({ · with handle := .invalid }))

def createThread (thread : SdkResource) (set : WinUHidDevice → WinUHidDevice) (ok : Bool) :
    CheckedCall SdkClient := fun s =>
  if ok then (true, ((s.called (.acquire thread)).called (.start thread)).setDevice set)
  else (false, s)

/-- `WaitForSingleObject` and `CloseHandle` for a thread whose handle is not `NULL`. -/
def waitAndClose (thread : SdkResource) (clear : WinUHidDevice → WinUHidDevice) (s : SdkClient) :
    SdkClient :=
  if s.owns thread then ((s.called (.ended thread)).called (.release thread)).setDevice clear
  else s

def closeEventThread : SdkClient → SdkClient :=
  waitAndClose .eventThread ({ · with eventThread := false })

/-- `CloseHandle` of a member that is not `NULL`. -/
def closeMember (r : SdkResource) (clear : WinUHidDevice → WinUHidDevice) (s : SdkClient) :
    SdkClient :=
  if s.owns r then (s.called (.release r)).setDevice clear else s

end SdkClient

/-- How the calls of `WinUHidCreateDevice` into the system end. -/
structure CreateOutcomes where
  createEvent : Bool := true
  heapAlloc : Bool := true
  createWaitableTimer : Bool := true
  createReadReportReadyEvent : Bool := true
  createFile : Bool := true
  padding : UInt16 := 0
  setDeviceInfo : IoctlOutcome := {}
  setReportDescriptor : IoctlOutcome := {}
  setInstanceId : IoctlOutcome := {}
  setHardwareIds : IoctlOutcome := {}
  createDevice : IoctlOutcome := {}

/-- How the calls of `WinUHidStartDevice` into the system end. -/
structure StartOutcomes where
  createEventThread : Bool := true
  createReadThread : Bool := true
  startDevice : IoctlOutcome := {}

namespace SdkClient

/-- `CancelIoEx` and the waits of `WinUHidStopDevice`. -/
def winUHidStopDevice (s : SdkClient) : SdkClient :=
  match s.device with
  | none => s
  | some device =>
    if device.state = .started then
      let s := (s.setDevice ({ · with state := .stopped })).called (.use .handle)
      let s := s.closeEventThread
      if s.owns .readThread then
        ((s.called (.use .readReportReadyEvent)).called (.use .throttlingTimer)).waitAndClose
          .readThread ({ · with readThread := false })
      else s
    else s

/-- `WinUHidCompleteReadEvent` on the event that is still pending. -/
def completePending (createEvent : Bool) (s : SdkClient) : SdkClient :=
  if s.device.any (·.pendingReadReportEvent) then
    (withPrivateEvent createEvent (fun s => (true, s.called (.use .handle))) s).2.setDevice
      ({ · with pendingReadReportEvent := false })
  else s

def heapFree (s : SdkClient) : SdkClient :=
  { s.called (.release .heapBlock) with device := none }

/-- `WinUHidDestroyDevice`; `createEvent` is for the completion of a pending event. -/
def winUHidDestroyDevice (createEvent : Bool) (s : SdkClient) : SdkClient :=
  if s.device.isNone then s
  else
    let s := s.winUHidStopDevice
    let s := s.closeMember .throttlingTimer ({ · with throttlingTimer := false })
    let s := s.closeMember .readReportReadyEvent ({ · with readReportReadyEvent := false })
    let s := s.completePending createEvent
    let s := s.closeMember .handle ({ · with handle := .null })
    s.heapFree

/-- What `WinUHidCreateDevice` allocates and opens. -/
def allocationCalls (config : DeviceConfig) (o : CreateOutcomes) : List (CheckedCall SdkClient) :=
  [heapAlloc o.heapAlloc] ++
  (if config.throttled then
    [createWaitableTimer o.createWaitableTimer,
      createReadReportReadyEvent o.createReadReportReadyEvent] else []) ++
  [createFile o.createFile]

/-- The requests of `WinUHidCreateDevice`. -/
def requestCalls (config : DeviceConfig) (o : CreateOutcomes) : List (CheckedCall SdkClient) :=
  [deviceIoControlWithEvent .setDeviceInfo (config.deviceInfo o.padding) o.setDeviceInfo,
    deviceIoControlWithEvent .setReportDescriptor config.descriptorBytes o.setReportDescriptor] ++
  (config.instanceIdBytes.toList.map fun bytes =>
    deviceIoControlWithEvent .setInstanceId bytes o.setInstanceId) ++
  (config.hardwareIdsBytes.toList.map fun bytes =>
    deviceIoControlWithEvent .setHardwareIds bytes o.setHardwareIds) ++
  [deviceIoControlWithEvent .createDevice [] o.createDevice]

/-- `WinUHidCreateDevice`: whether it returns a device. -/
def winUHidCreateDevice (config : Option DeviceConfig) (o : CreateOutcomes) :
    CheckedCall SdkClient := fun s =>
  match config with
  | none => (false, s)
  | some config =>
    if !config.valid then (false, s)
    else if !o.createEvent then (false, s)
    else
      -- each of these calls goes to `Fail` when it fails
      let (created, s) := CheckedCall.inOrder (allocationCalls config o ++ requestCalls config o)
        { s.called (.acquire .overlappedEvent) with overlappedEvent := true }
      let s := if created then s else s.winUHidDestroyDevice true
      (created,
        { s.called (.release .overlappedEvent) with
          overlappedEvent := false
          config := if created then some config else s.config })

/-- The calls of `WinUHidStartDevice` for which it unwinds when they fail. -/
def startCalls (eventCallback : Bool) (device : WinUHidDevice) (o : StartOutcomes) :
    List (CheckedCall SdkClient) :=
  (if eventCallback then
    [createThread .eventThread ({ · with eventThread := true }) o.createEventThread] else []) ++
  (if device.throttlingTimer then
    [createThread .readThread ({ · with readThread := true }) o.createReadThread] else []) ++
  [withPrivateEvent o.startDevice.createEvent (deviceIoControl .startDevice [] o.startDevice)]

/-- `WinUHidStartDevice` -/
def winUHidStartDevice (eventCallback : Bool) (o : StartOutcomes) : CheckedCall SdkClient := fun s =>
  match s.device with
  | none => (false, s)
  | some device =>
    if device.state ≠ .created then (false, s)
    else
      let (started, s) := CheckedCall.inOrder (startCalls eventCallback device o) s
      if started then (true, s.setDevice ({ · with state := .started }))
      else
        (false, s.closeEventThread.waitAndClose .readThread ({ · with readThread := false }))

end SdkClient

/-- What a program does with the SDK, and what the threads of its device do with
`PendingReadReportEvent`. -/
inductive SdkCall where
  | create (config : Option DeviceConfig) (o : CreateOutcomes)
  | start (eventCallback : Bool) (o : StartOutcomes)
  | stop
  | destroy (createEvent : Bool)
  | readyForRead
  | takePending

namespace SdkClient

/-- A program creates a device when it has none, and keeps no pointer to one that it destroyed. -/
def step (s : SdkClient) : SdkCall → Option SdkClient
  | .create config o => if s.device.isNone then some (winUHidCreateDevice config o s).2 else none
  | .start eventCallback o => some (winUHidStartDevice eventCallback o s).2
  | .stop => some s.winUHidStopDevice
  | .destroy createEvent => some (s.winUHidDestroyDevice createEvent)
  | .readyForRead =>
    if s.device.any fun device => device.state = .started && device.eventThread &&
        device.throttlingTimer then
      some (s.setDevice ({ · with pendingReadReportEvent := true }))
    else none
  | .takePending =>
    if s.device.any (·.pendingReadReportEvent) then
      some (s.setDevice ({ · with pendingReadReportEvent := false }))
    else none

end SdkClient

end WinUHid
