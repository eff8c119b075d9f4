import WinUHid.DescriptorParsing

namespace WinUHid

open LittleEndian

/-- Identity of a `VHFHANDLE`. -/
abbrev VhfHandle := Nat

def statusNotSupported : NTSTATUS := 0xC00000BB

def InputBuffer.ushort (b : InputBuffer) (i : Nat) : UInt16 :=
  UInt16.ofNat (value [b.read i, b.read (i + 1)])

/-- `WINUHID_DEVICE_INFO`; two bytes of padding stand before `ContainerId`. -/
structure DeviceInfo where
  supportedEvents : UInt32
  vendorID : UInt16
  productID : UInt16
  versionNumber : UInt16
  containerId : List UInt8

def sizeofDeviceInfo : Nat := 4 + 4 + 2 + 2 + 2 + 2 + 16

def InputBuffer.deviceInfo (b : InputBuffer) : DeviceInfo where
  supportedEvents := b.ulong 4
  vendorID := b.ushort 8
  productID := b.ushort 10
  versionNumber := b.ushort 12
  containerId := (List.range 16).map fun i => b.read (16 + i)

def DeviceInfo.supports (info : DeviceInfo) (t : EventType) : Bool :=
  info.supportedEvents &&& t.value != 0

/-- The flags outside the four event types. -/
def DeviceInfo.unknownEvents (info : DeviceInfo) : UInt32 :=
  info.supportedEvents &&&
    ~~~(EventType.getFeature.value ||| EventType.setFeature.value |||
      EventType.writeReport.value ||| EventType.readReport.value)

/-- `VHF_CONFIG`: a pointer is the buffer it points to, a callback whether it is registered. -/
structure VhfConfig where
  vhfClientContext : Bool
  vendorID : UInt16
  productID : UInt16
  versionNumber : UInt16
  containerID : List UInt8
  evtVhfAsyncOperationGetFeature : Bool
  evtVhfAsyncOperationSetFeature : Bool
  evtVhfAsyncOperationWriteReport : Bool
  evtVhfReadyForNextReadReport : Bool
  evtVhfAsyncOperationGetInputReport : Bool
  reportDescriptor : Option (List UInt8)
  reportDescriptorLength : UInt16
  instanceID : Option (List UInt8)
  instanceIDLength : UInt16
  hardwareIDs : Option (List UInt8)
  hardwareIDsLength : UInt16
  deriving DecidableEq

def VhfConfig.setInfo (c : VhfConfig) (info : DeviceInfo) : VhfConfig :=
  { c with
    vhfClientContext := true
    vendorID := info.vendorID
    productID := info.productID
    versionNumber := info.versionNumber
    containerID := info.containerId
    evtVhfAsyncOperationGetFeature :=
      c.evtVhfAsyncOperationGetFeature || info.supports .getFeature
    evtVhfAsyncOperationSetFeature :=
      c.evtVhfAsyncOperationSetFeature || info.supports .setFeature
    evtVhfAsyncOperationWriteReport :=
      c.evtVhfAsyncOperationWriteReport || info.supports .writeReport
    evtVhfReadyForNextReadReport :=
      c.evtVhfReadyForNextReadReport || info.supports .readReport
    evtVhfAsyncOperationGetInputReport :=
      c.evtVhfAsyncOperationGetInputReport || info.supports .readReport }

/-- The fields of the `FILE_CONTEXT` that the set-up requests pass through. -/
structure FileSetup where
  deviceInfoSet : Bool
  vhfConfig : VhfConfig
  instanceIdMem : Option (List UInt8)
  reportDescriptorMem : Option (List UInt8)
  hardwareIdsMem : Option (List UInt8)
  reports : ParsedReports
  vhfHandle : Option VhfHandle

/-- What `WinUHidEvtDeviceFileCreate` leaves: zeroes, and `VHF_CONFIG_INIT` with no descriptor. -/
def FileSetup.initial : FileSetup where
  deviceInfoSet := false
  vhfConfig := ⟨false, 0, 0, 0, List.replicate 16 0, false, false, false, false, false, none, 0,
    none, 0, none, 0⟩
  instanceIdMem := none
  reportDescriptorMem := none
  hardwareIdsMem := none
  reports := ⟨fun _ => ⟨0, 0, 0⟩, false⟩
  vhfHandle := none

/-- The `IOCTL_WINUHID_*` codes of the set-up requests. -/
inductive SetupIoctl where
  | setDeviceInfo
  | setReportDescriptor
  | setInstanceId
  | setHardwareIds
  | createDevice
  | startDevice
  deriving DecidableEq

/-- A set-up request, with what the framework and VHF calls made for it return. -/
structure SetupRequest where
  ioctl : SetupIoctl
  buffer : InputBuffer
  retrieveInputBuffer : NTSTATUS := statusSuccess
  memoryCreate : NTSTATUS := statusSuccess
  memoryCopyFromBuffer : NTSTATUS := statusSuccess
  vhfCreate : NTSTATUS := statusSuccess
  createdHandle : VhfHandle := 0
  vhfStart : NTSTATUS := statusSuccess

/-- The status a request is completed with, and the configuration if `VhfCreate` is called. -/
structure SetupReply where
  status : NTSTATUS
  created : Option VhfConfig
  deriving DecidableEq

/-- `WdfRequestRetrieveInputBuffer` with the least length it accepts. -/
def SetupRequest.retrieve (r : SetupRequest) (minimum : Nat) : NTSTATUS :=
  if ntSuccess r.retrieveInputBuffer && r.buffer.length < minimum then statusBufferTooSmall
  else r.retrieveInputBuffer

/-- How storing an input buffer in a new memory object ends. -/
inductive StoreResult where
  | refused (status : NTSTATUS)
  | deleted (status : NTSTATUS)
  | stored (bytes : List UInt8) (fits : bytes.length ≤ 65535)

/-- What the three requests that store their buffer do with it once it may still be set. -/
def SetupRequest.store (r : SetupRequest) (minimum : Nat) (wellFormed : InputBuffer → Bool) :
    StoreResult :=
  if !ntSuccess (r.retrieve minimum) then .refused (r.retrieve minimum)
  else if h : r.buffer.bytes.length > 65535 then .refused statusInvalidParameter
  else if !wellFormed r.buffer then .refused statusInvalidParameter
  else if !ntSuccess r.memoryCreate then .refused r.memoryCreate
  else if !ntSuccess r.memoryCopyFromBuffer then .deleted r.memoryCopyFromBuffer
  else .stored r.buffer.bytes (Nat.le_of_not_lt h)

def sizeofWchar : Nat := 2

def InputBuffer.wholeWchars (b : InputBuffer) : Bool := b.length % sizeofWchar == 0

/-- `inputBuffer[i]` of a buffer of `WCHAR`s. -/
def InputBuffer.wchar (b : InputBuffer) (i : Nat) : UInt16 := b.ushort (sizeofWchar * i)

/-- The buffer ends with two null characters. -/
def InputBuffer.multiString (b : InputBuffer) : Bool :=
  b.wholeWchars && b.wchar (b.length / sizeofWchar - 1) == 0 &&
    b.wchar (b.length / sizeofWchar - 2) == 0

/-- `ParseReportDescriptor`: its status, and the parsed data it leaves in the context. -/
def parsedReports (d : ReportDescriptor) : NTSTATUS × ParsedReports :=
  match h : parseReportDescriptor d with
  | .ok reports => (statusSuccess, reports)
  | .error (.failed status left) => (status, left)
  | .error .outOfBounds => absurd (parseReportDescriptor_returns d) (by simp [Parse.Returns, h])
  | .error .outOfFuel => absurd (parseReportDescriptor_returns d) (by simp [Parse.Returns, h])

namespace FileSetup

/-- `IOCTL_WINUHID_SET_DEVICE_INFO` -/
def setDeviceInfo (ctx : FileSetup) (r : SetupRequest) : FileSetup × NTSTATUS :=
  if ctx.deviceInfoSet || ctx.vhfHandle.isSome then (ctx, statusInvalidDeviceState)
  else if !ntSuccess (r.retrieve sizeofDeviceInfo) then (ctx, r.retrieve sizeofDeviceInfo)
  else if r.buffer.deviceInfo.unknownEvents ≠ 0 then (ctx, statusNotSupported)
  else
    ({ ctx with
        vhfConfig := ctx.vhfConfig.setInfo r.buffer.deviceInfo
        deviceInfoSet := true }, statusSuccess)

/-- `IOCTL_WINUHID_SET_REPORT_DESCRIPTOR` -/
def setReportDescriptor (ctx : FileSetup) (r : SetupRequest) : FileSetup × NTSTATUS :=
  if ctx.vhfConfig.reportDescriptor.isSome || ctx.vhfHandle.isSome then
    (ctx, statusInvalidDeviceState)
  else
    match r.store 1 fun _ => true with
    | .refused status => (ctx, status)
    | .deleted status => ({ ctx with reportDescriptorMem := none }, status)
    | .stored bytes fits =>
      let (status, reports) := parsedReports ⟨bytes, fits⟩
      if !ntSuccess status then
        ({ ctx with
            vhfConfig := { ctx.vhfConfig with
              reportDescriptor := none
              reportDescriptorLength := 0 }
            reportDescriptorMem := none
            reports := reports }, status)
      else
        ({ ctx with
            vhfConfig := { ctx.vhfConfig with
              reportDescriptor := some bytes
              reportDescriptorLength := UInt16.ofNat bytes.length }
            reportDescriptorMem := some bytes
            reports := reports }, status)

/-- `IOCTL_WINUHID_SET_INSTANCE_ID` -/
def setInstanceId (ctx : FileSetup) (r : SetupRequest) : FileSetup × NTSTATUS :=
  if ctx.vhfConfig.instanceID.isSome || ctx.vhfHandle.isSome then (ctx, statusInvalidDeviceState)
  else
    match r.store sizeofWchar InputBuffer.wholeWchars with
    | .refused status => (ctx, status)
    | .deleted status => ({ ctx with instanceIdMem := none }, status)
    | .stored bytes _ =>
      ({ ctx with
          instanceIdMem := some bytes
          vhfConfig := { ctx.vhfConfig with
            instanceID := some bytes
            instanceIDLength := UInt16.ofNat bytes.length } }, r.memoryCopyFromBuffer)

/-- `IOCTL_WINUHID_SET_HARDWARE_IDS` -/
def setHardwareIds (ctx : FileSetup) (r : SetupRequest) : FileSetup × NTSTATUS :=
  if ctx.vhfConfig.hardwareIDs.isSome || ctx.vhfHandle.isSome then (ctx, statusInvalidDeviceState)
  else
    match r.store (2 * sizeofWchar) InputBuffer.multiString with
    | .refused status => (ctx, status)
    | .deleted status => ({ ctx with hardwareIdsMem := none }, status)
    | .stored bytes _ =>
      ({ ctx with
          hardwareIdsMem := some bytes
          vhfConfig := { ctx.vhfConfig with
            hardwareIDs := some bytes
            hardwareIDsLength := UInt16.ofNat bytes.length } }, r.memoryCopyFromBuffer)

/-- The guard of `IOCTL_WINUHID_CREATE_DEVICE`: already created, no report descriptor, or no
device info. -/
def createRefused (ctx : FileSetup) : Bool :=
  ctx.vhfHandle.isSome || ctx.vhfConfig.reportDescriptorLength == 0 || !ctx.deviceInfoSet

/-- `VhfCreate(&VhfConfig, &VhfHandle)` -/
def vhfCreate (ctx : FileSetup) (status : NTSTATUS) (handle : VhfHandle) : FileSetup :=
  if ntSuccess status then { ctx with vhfHandle := some handle } else ctx

/-- `IOCTL_WINUHID_CREATE_DEVICE` -/
def createDevice (ctx : FileSetup) (r : SetupRequest) : FileSetup × SetupReply :=
  if ctx.createRefused then (ctx, ⟨statusInvalidDeviceState, none⟩)
  else (ctx.vhfCreate r.vhfCreate r.createdHandle, ⟨r.vhfCreate, some ctx.vhfConfig⟩)

/-- `IOCTL_WINUHID_START_DEVICE` -/
def startDevice (ctx : FileSetup) (r : SetupRequest) : NTSTATUS :=
  if ctx.vhfHandle.isNone then statusInvalidDeviceState else r.vhfStart

/-- `WinUHidEvtIoDeviceControl` on the set-up requests. -/
def ioDeviceControl (ctx : FileSetup) (r : SetupRequest) : FileSetup × SetupReply :=
  match r.ioctl with
  | .setDeviceInfo => ((ctx.setDeviceInfo r).1, ⟨(ctx.setDeviceInfo r).2, none⟩)
  | .setReportDescriptor =>
    ((ctx.setReportDescriptor r).1, ⟨(ctx.setReportDescriptor r).2, none⟩)
  | .setInstanceId => ((ctx.setInstanceId r).1, ⟨(ctx.setInstanceId r).2, none⟩)
  | .setHardwareIds => ((ctx.setHardwareIds r).1, ⟨(ctx.setHardwareIds r).2, none⟩)
  | .createDevice => ctx.createDevice r
  | .startDevice => (ctx, ⟨ctx.startDevice r, none⟩)

end FileSetup

end WinUHid
