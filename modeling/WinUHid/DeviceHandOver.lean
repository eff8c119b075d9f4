import WinUHid.DeviceResources

namespace WinUHid

open LittleEndian CheckedCall

/-- A request of this kind is completed with `STATUS_INVALID_DEVICE_STATE`, whatever it brings. -/
def FileSetup.refuses (ctx : FileSetup) : SetupIoctl → Bool
  | .setDeviceInfo => ctx.deviceInfoSet || ctx.vhfHandle.isSome
  | .setReportDescriptor => ctx.vhfConfig.reportDescriptor.isSome || ctx.vhfHandle.isSome
  | .setInstanceId => ctx.vhfConfig.instanceID.isSome || ctx.vhfHandle.isSome
  | .setHardwareIds => ctx.vhfConfig.hardwareIDs.isSome || ctx.vhfHandle.isSome
  | .createDevice => ctx.createRefused
  | .startDevice => ctx.vhfHandle.isNone

def DeviceConfig.supports (config : DeviceConfig) (t : EventType) : Bool :=
  config.supportedEvents &&& t.value != 0

/-- What the buffers that `WinUHidCreateDevice` sends amount to. -/
def DeviceConfig.sentConfig (config : DeviceConfig) : VhfConfig where
  vhfClientContext := true
  vendorID := config.vendorID
  productID := config.productID
  versionNumber := config.versionNumber
  containerID := config.containerId
  evtVhfAsyncOperationGetFeature := config.supports .getFeature
  evtVhfAsyncOperationSetFeature := config.supports .setFeature
  evtVhfAsyncOperationWriteReport := config.supports .writeReport
  evtVhfReadyForNextReadReport := config.supports .readReport
  evtVhfAsyncOperationGetInputReport := config.supports .readReport
  reportDescriptor := some config.descriptorBytes
  reportDescriptorLength := config.reportDescriptorLength
  instanceID := config.instanceIdBytes
  instanceIDLength := UInt16.ofNat (config.instanceIdBytes.elim 0 List.length)
  hardwareIDs := config.hardwareIdsBytes
  hardwareIDsLength := UInt16.ofNat (config.hardwareIdsBytes.elim 0 List.length)

section Info

@[simp] theorem length_ushortBytes (v : UInt16) : (ushortBytes v).length = 2 := length_bytes 2 _

theorem InputBuffer.ushort_of_stored {b : InputBuffer} {front back : List UInt8} {v : UInt16}
    (h : b.bytes = front ++ ushortBytes v ++ back) : b.ushort front.length = v := by
  have two : [b.read front.length, b.read (front.length + 1)] = ushortBytes v := by
    have stored := InputBuffer.read_of_stored h
    rwa [ushortBytes, length_bytes] at stored
  have hv := v.toNat_lt
  rw [InputBuffer.ushort, two, ushortBytes, value_bytes, Nat.mod_eq_of_lt (by omega)]
  simp

/-- The driver reads what `WinUHidCreateDevice` wrote; it does not look at the version and the
padding. -/
theorem deviceInfo_read (config : DeviceConfig) (padding : UInt16) (beyond : Nat → UInt8) :
    (InputBuffer.mk (config.deviceInfo padding) beyond).deviceInfo =
      ⟨config.supportedEvents, config.vendorID, config.productID, config.versionNumber,
        config.containerId⟩ := by
  obtain ⟨events, vendor, product, version, -, -, container, -, -, -, guid⟩ := config
  generalize hb : InputBuffer.mk _ beyond = b
  have bytes : b.bytes = ulongBytes winuhidVersionLatest ++ ulongBytes events ++
      ushortBytes vendor ++ ushortBytes product ++ ushortBytes version ++ ushortBytes padding ++
      container := by
    rw [← hb]
    rfl
  have at4 : b.bytes = ulongBytes winuhidVersionLatest ++ ulongBytes events ++
      (ushortBytes vendor ++ ushortBytes product ++ ushortBytes version ++ ushortBytes padding ++
        container) := by simp only [bytes, List.append_assoc]
  have at8 : b.bytes = (ulongBytes winuhidVersionLatest ++ ulongBytes events) ++
      ushortBytes vendor ++ (ushortBytes product ++ ushortBytes version ++ ushortBytes padding ++
        container) := by simp only [bytes, List.append_assoc]
  have at10 : b.bytes = (ulongBytes winuhidVersionLatest ++ ulongBytes events ++
      ushortBytes vendor) ++ ushortBytes product ++
      (ushortBytes version ++ ushortBytes padding ++ container) := by
    simp only [bytes, List.append_assoc]
  have at12 : b.bytes = (ulongBytes winuhidVersionLatest ++ ulongBytes events ++
      ushortBytes vendor ++ ushortBytes product) ++ ushortBytes version ++
      (ushortBytes padding ++ container) := by simp only [bytes, List.append_assoc]
  have at16 : b.bytes = (ulongBytes winuhidVersionLatest ++ ulongBytes events ++
      ushortBytes vendor ++ ushortBytes product ++ ushortBytes version ++ ushortBytes padding) ++
      container ++ [] := by simp only [bytes, List.append_nil]
  have h4 := InputBuffer.ulong_of_stored at4
  have h8 := InputBuffer.ushort_of_stored at8
  have h10 := InputBuffer.ushort_of_stored at10
  have h12 := InputBuffer.ushort_of_stored at12
  have h16 := InputBuffer.read_of_stored at16
  simp only [List.length_append, length_ulongBytes, length_ushortBytes, Nat.reduceAdd, guid]
    at h4 h8 h10 h12 h16
  rw [InputBuffer.deviceInfo, h4, h8, h10, h12, h16]

end Info

namespace FileSetup

/-- A file that was told so much of its configuration, and is not created yet. -/
structure Told (c : VhfConfig) (infoSet : Bool) (f : FileSetup) : Prop where
  valid : f.Valid
  config : f.vhfConfig = c
  info : f.deviceInfoSet = infoSet
  notCreated : f.vhfHandle = none
  parsed : ∀ bytes, c.reportDescriptor = some bytes →
    ∃ fits, parseReportDescriptor ⟨bytes, fits⟩ = .ok f.reports

/-- A file whose virtual device was made from this configuration. -/
structure MadeFrom (c : VhfConfig) (f : FileSetup) : Prop where
  valid : f.Valid
  config : f.vhfConfig = c
  handle : f.vhfHandle.isSome = true
  parsed : ∀ bytes, c.reportDescriptor = some bytes →
    ∃ fits, parseReportDescriptor ⟨bytes, fits⟩ = .ok f.reports

variable {c : VhfConfig} {f : FileSetup} {r : SetupRequest}

theorem initial_told : Told FileSetup.initial.vhfConfig false FileSetup.initial :=
  ⟨initial_valid, rfl, rfl, rfl, nofun⟩

theorem Told.setDeviceInfo (h : f.Told c false) (hr : r.ioctl = .setDeviceInfo)
    (accepted : ntSuccess (f.ioDeviceControl r).2.status = true) :
    (f.ioDeviceControl r).1.Told (c.setInfo r.buffer.deviceInfo) true := by
  have handled := ioDeviceControl_handled h.valid r
  have valid := handled.valid h.valid
  generalize (f.ioDeviceControl r).1 = f' at *
  generalize (f.ioDeviceControl r).2 = reply at *
  cases handled with
  | refused failed => exact absurd accepted (by simp [failed])
  | deviceInfo => exact ⟨valid, by rw [h.config], rfl, h.notCreated, h.parsed⟩
  | reportDescriptor _ other | instanceId other | hardwareIds other | create other | start other =>
    rw [hr] at other
    cases other

theorem Told.setReportDescriptor {infoSet : Bool} (h : f.Told c infoSet)
    (hr : r.ioctl = .setReportDescriptor)
    (accepted : ntSuccess (f.ioDeviceControl r).2.status = true) :
    (f.ioDeviceControl r).1.Told { c with
      reportDescriptor := some r.buffer.bytes
      reportDescriptorLength := UInt16.ofNat r.buffer.bytes.length } infoSet := by
  have handled := ioDeviceControl_handled h.valid r
  have valid := handled.valid h.valid
  generalize (f.ioDeviceControl r).1 = f' at *
  generalize (f.ioDeviceControl r).2 = reply at *
  cases handled with
  | refused failed => exact absurd accepted (by simp [failed])
  | reportDescriptor fits _ _ _ _ parsed =>
    refine ⟨valid, by rw [h.config], h.info, h.notCreated, fun bytes hb => ?_⟩
    cases hb
    exact ⟨fits, parsed⟩
  | deviceInfo other | instanceId other | hardwareIds other | create other | start other =>
    rw [hr] at other
    cases other

theorem Told.setInstanceId {infoSet : Bool} (h : f.Told c infoSet) (hr : r.ioctl = .setInstanceId)
    (accepted : ntSuccess (f.ioDeviceControl r).2.status = true) :
    (f.ioDeviceControl r).1.Told { c with
      instanceID := some r.buffer.bytes
      instanceIDLength := UInt16.ofNat r.buffer.bytes.length } infoSet := by
  have handled := ioDeviceControl_handled h.valid r
  have valid := handled.valid h.valid
  generalize (f.ioDeviceControl r).1 = f' at *
  generalize (f.ioDeviceControl r).2 = reply at *
  cases handled with
  | refused failed => exact absurd accepted (by simp [failed])
  | instanceId => exact ⟨valid, by rw [h.config], h.info, h.notCreated, h.parsed⟩
  | deviceInfo other | reportDescriptor _ other | hardwareIds other | create other | start other =>
    rw [hr] at other
    cases other

theorem Told.setHardwareIds {infoSet : Bool} (h : f.Told c infoSet)
    (hr : r.ioctl = .setHardwareIds)
    (accepted : ntSuccess (f.ioDeviceControl r).2.status = true) :
    (f.ioDeviceControl r).1.Told { c with
      hardwareIDs := some r.buffer.bytes
      hardwareIDsLength := UInt16.ofNat r.buffer.bytes.length } infoSet := by
  have handled := ioDeviceControl_handled h.valid r
  have valid := handled.valid h.valid
  generalize (f.ioDeviceControl r).1 = f' at *
  generalize (f.ioDeviceControl r).2 = reply at *
  cases handled with
  | refused failed => exact absurd accepted (by simp [failed])
  | hardwareIds => exact ⟨valid, by rw [h.config], h.info, h.notCreated, h.parsed⟩
  | deviceInfo other | reportDescriptor _ other | instanceId other | create other | start other =>
    rw [hr] at other
    cases other

theorem Told.createDevice {infoSet : Bool} (h : f.Told c infoSet) (hr : r.ioctl = .createDevice)
    (accepted : ntSuccess (f.ioDeviceControl r).2.status = true) :
    (f.ioDeviceControl r).1.MadeFrom c := by
  have handled := ioDeviceControl_handled h.valid r
  have valid := handled.valid h.valid
  generalize (f.ioDeviceControl r).1 = f' at *
  generalize (f.ioDeviceControl r).2 = reply at *
  cases handled with
  | refused failed => exact absurd accepted (by simp [failed])
  | create =>
    refine ⟨valid, (vhfCreate_vhfConfig ..).trans h.config, ?_, fun bytes hb => ?_⟩
    · rw [vhfCreate, if_pos accepted]
      rfl
    · rw [vhfCreate_reports]
      exact h.parsed bytes hb
  | deviceInfo other | reportDescriptor _ other | instanceId other | hardwareIds other
  | start other =>
    rw [hr] at other
    cases other

end FileSetup

section Strings

end Strings

namespace SdkClient

variable {s : SdkClient} {F G : FileSetup → Prop}

/-- All requests came in order, and the file is as `F` says. -/
structure Sent (F : FileSetup → Prop) (s : SdkClient) : Prop where
  inOrder : ∀ x ∈ s.requests, x.1.refuses x.2.ioctl = false
  file : F s.file

theorem deviceIoControl_sent (ioctl : SetupIoctl) (inBuffer : List UInt8) (o : IoctlOutcome)
    (order : ∀ f, F f → f.refuses ioctl = false)
    (accepted : ∀ f r, F f → r.ioctl = ioctl → r.buffer.bytes = inBuffer →
      ntSuccess (f.ioDeviceControl r).2.status = true → G (f.ioDeviceControl r).1) :
    Meets (Sent F) (deviceIoControl ioctl inBuffer o) (Sent G) (Sent fun _ => True) := by
  intro s h
  have sent : ∀ x ∈ s.requests ++ [(s.file, o.request ioctl inBuffer)],
      x.1.refuses x.2.ioctl = false := by
    intro x hx
    rcases List.mem_append.mp hx with hx | hx
    · exact h.inOrder x hx
    · rw [List.mem_singleton.mp hx]
      exact order s.file h.file
  rw [deviceIoControl]
  dsimp only
  cases o.issued with
  | false => exact ⟨h.inOrder, trivial⟩
  | true =>
    simp only [Bool.not_true, Bool.false_eq_true, if_false, called]
    split
    next ok =>
      rw [Bool.and_eq_true] at ok
      exact ⟨sent, accepted _ _ h.file rfl rfl ok.1⟩
    next => exact ⟨sent, trivial⟩

theorem deviceIoControlWithEvent_sent (ioctl : SetupIoctl) (inBuffer : List UInt8)
    (o : IoctlOutcome) (order : ∀ f, F f → f.refuses ioctl = false)
    (accepted : ∀ f r, F f → r.ioctl = ioctl → r.buffer.bytes = inBuffer →
      ntSuccess (f.ioDeviceControl r).2.status = true → G (f.ioDeviceControl r).1) :
    Meets (Sent F) (deviceIoControlWithEvent ioctl inBuffer o) (Sent G) (Sent fun _ => True) :=
  fun _ h => deviceIoControl_sent ioctl inBuffer o order accepted _ ⟨h.inOrder, h.file⟩

open FileSetup (Told MadeFrom)

/-- The configuration with the device info and the report descriptor. -/
def describedConfig (config : DeviceConfig) : VhfConfig :=
  { FileSetup.initial.vhfConfig.setInfo ⟨config.supportedEvents, config.vendorID, config.productID,
      config.versionNumber, config.containerId⟩ with
    reportDescriptor := some config.descriptorBytes
    reportDescriptorLength := UInt16.ofNat config.descriptorBytes.length }

/-- The configuration with the instance ID too. -/
def instanceConfig (config : DeviceConfig) : VhfConfig :=
  { describedConfig config with
    instanceID := config.instanceIdBytes
    instanceIDLength := UInt16.ofNat (config.instanceIdBytes.elim 0 List.length) }

theorem length_descriptorBytes {config : DeviceConfig} (valid : config.valid = true) :
    UInt16.ofNat config.descriptorBytes.length = config.reportDescriptorLength := by
  rw [DeviceConfig.valid, Bool.and_eq_true] at valid
  obtain ⟨object, hobject⟩ := Option.isSome_iff_exists.mp valid.1
  have readable := config.readable_reportDescriptor object hobject
  have length : config.descriptorBytes.length = config.reportDescriptorLength.toNat := by
    rw [DeviceConfig.descriptorBytes, hobject, Option.elim_some, List.length_take]
    omega
  rw [length, UInt16.ofNat_toNat]

variable {config : DeviceConfig} {o : CreateOutcomes}

theorem deviceInfo_sent : Meets (Sent (Told FileSetup.initial.vhfConfig false))
    (deviceIoControlWithEvent .setDeviceInfo (config.deviceInfo o.padding) o.setDeviceInfo)
    (Sent (Told (FileSetup.initial.vhfConfig.setInfo ⟨config.supportedEvents, config.vendorID,
      config.productID, config.versionNumber, config.containerId⟩) true))
    (Sent fun _ => True) := by
  refine deviceIoControlWithEvent_sent _ _ _ (fun f h => ?_) fun f r h hr hb accepted => ?_
  · simp [FileSetup.refuses, h.info, h.notCreated]
  · have told := h.setDeviceInfo hr accepted
    have read := deviceInfo_read config o.padding r.buffer.beyond
    rw [← hb] at read
    rwa [← read]

theorem descriptor_sent : Meets
    (Sent (Told (FileSetup.initial.vhfConfig.setInfo ⟨config.supportedEvents, config.vendorID,
      config.productID, config.versionNumber, config.containerId⟩) true))
    (deviceIoControlWithEvent .setReportDescriptor config.descriptorBytes o.setReportDescriptor)
    (Sent (Told (describedConfig config) true)) (Sent fun _ => True) := by
  refine deviceIoControlWithEvent_sent _ _ _ (fun f h => ?_) fun f r h hr hb accepted => ?_
  · simp [FileSetup.refuses, h.config, h.notCreated, VhfConfig.setInfo, FileSetup.initial]
  · have told := h.setReportDescriptor hr accepted
    rwa [hb] at told

theorem instanceId_sent : Meets (Sent (Told (describedConfig config) true))
    (inOrder (config.instanceIdBytes.toList.map fun bytes =>
      deviceIoControlWithEvent .setInstanceId bytes o.setInstanceId))
    (Sent (Told (instanceConfig config) true)) (Sent fun _ => True) := by
  rw [instanceConfig]
  cases config.instanceIdBytes with
  | none => exact .nil
  | some bytes =>
    refine Meets.cons (deviceIoControlWithEvent_sent _ _ _ (fun f h => ?_)
      fun f r h hr hb accepted => ?_) .nil
    · simp [FileSetup.refuses, h.config, h.notCreated, describedConfig, VhfConfig.setInfo,
        FileSetup.initial]
    · have told := h.setInstanceId hr accepted
      rwa [hb] at told

theorem hardwareIds_sent (valid : config.valid = true) :
    Meets (Sent (Told (instanceConfig config) true))
      (inOrder (config.hardwareIdsBytes.toList.map fun bytes =>
        deviceIoControlWithEvent .setHardwareIds bytes o.setHardwareIds))
      (Sent (Told config.sentConfig true)) (Sent fun _ => True) := by
  have whole : config.sentConfig = { instanceConfig config with
      hardwareIDs := config.hardwareIdsBytes
      hardwareIDsLength := UInt16.ofNat (config.hardwareIdsBytes.elim 0 List.length) } := by
    rw [DeviceConfig.sentConfig, ← length_descriptorBytes valid]
    rfl
  rw [whole]
  cases config.hardwareIdsBytes with
  | none => exact .nil
  | some bytes =>
    refine Meets.cons (deviceIoControlWithEvent_sent _ _ _ (fun f h => ?_)
      fun f r h hr hb accepted => ?_) .nil
    · simp [FileSetup.refuses, h.config, h.notCreated, instanceConfig, describedConfig,
        VhfConfig.setInfo, FileSetup.initial]
    · have told := h.setHardwareIds hr accepted
      rwa [hb] at told

theorem createDevice_sent (valid : config.valid = true) :
    Meets (Sent (Told config.sentConfig true))
      (deviceIoControlWithEvent .createDevice [] o.createDevice)
      (Sent (MadeFrom config.sentConfig)) (Sent fun _ => True) := by
  refine deviceIoControlWithEvent_sent _ _ _ (fun f h => ?_) fun f r h hr _ accepted =>
    h.createDevice hr accepted
  have described : config.reportDescriptorLength ≠ 0 := by
    rw [DeviceConfig.valid, Bool.and_eq_true] at valid
    simpa using valid.2
  simp [FileSetup.refuses, FileSetup.createRefused, h.config, h.notCreated, h.info,
    DeviceConfig.sentConfig, described]

/-- The requests tell the driver the whole configuration, and each comes when it may. -/
theorem requestCalls_sent (valid : config.valid = true) :
    Meets (Sent (Told FileSetup.initial.vhfConfig false)) (inOrder (requestCalls config o))
      (Sent (MadeFrom config.sentConfig)) (Sent fun _ => True) := by
  have required : Meets (Sent (Told FileSetup.initial.vhfConfig false))
      (inOrder [
        deviceIoControlWithEvent .setDeviceInfo (config.deviceInfo o.padding) o.setDeviceInfo,
        deviceIoControlWithEvent .setReportDescriptor config.descriptorBytes o.setReportDescriptor])
      (Sent (Told (describedConfig config) true)) (Sent fun _ => True) :=
    deviceInfo_sent.cons (descriptor_sent.cons .nil)
  exact ((required.append instanceId_sent).append (hardwareIds_sent valid)).append
    ((createDevice_sent valid).cons .nil)

theorem createFile_sent (ok : Bool) : Meets (Sent fun _ => True) (createFile ok)
    (Sent (Told FileSetup.initial.vhfConfig false)) (Sent fun _ => True) := by
  intro s h
  cases ok with
  | false => exact ⟨h.inOrder, trivial⟩
  | true => exact ⟨h.inOrder, FileSetup.initial_told⟩

/-- A new file is opened; nothing has been sent to it. -/
theorem allocationCalls_sent : Meets (Sent fun _ => True) (inOrder (allocationCalls config o))
    (Sent (Told FileSetup.initial.vhfConfig false)) (Sent fun _ => True) := by
  refine Meets.append (.of_keeps fun s h => inOrder_keeps (fun call hc t ht => ?_) h)
    ((createFile_sent _).cons .nil)
  have kinds : call = heapAlloc o.heapAlloc ∨ call = createWaitableTimer o.createWaitableTimer ∨
      call = createReadReportReadyEvent o.createReadReportReadyEvent := by
    rcases List.mem_append.mp hc with hc | hc
    · exact .inl (List.mem_singleton.mp hc)
    · split at hc
      · exact .inr (by simpa using hc)
      · cases hc
  obtain rfl | rfl | rfl := kinds
  · rw [heapAlloc]
    split <;> exact ⟨ht.inOrder, trivial⟩
  · rw [createWaitableTimer]
    split <;> exact ⟨ht.inOrder, trivial⟩
  · rw [createReadReportReadyEvent]
    split <;> exact ⟨ht.inOrder, trivial⟩

theorem creationCalls_sent (valid : config.valid = true) :
    Meets (Sent fun _ => True) (inOrder (allocationCalls config o ++ requestCalls config o))
      (Sent (MadeFrom config.sentConfig)) (Sent fun _ => True) :=
  allocationCalls_sent.append (requestCalls_sent valid)

section Frame

/-- Nothing was said to the driver. -/
structure Silent (s t : SdkClient) : Prop where
  file : t.file = s.file
  requests : t.requests = s.requests
  config : t.config = s.config

variable {t u : SdkClient}

theorem Silent.refl (s : SdkClient) : Silent s s := ⟨rfl, rfl, rfl⟩

theorem Silent.trans (h : Silent s t) (h' : Silent t u) : Silent s u :=
  ⟨h'.file.trans h.file, h'.requests.trans h.requests, h'.config.trans h.config⟩

theorem Silent.sent (h : Silent s t) (hs : s.Sent F) : t.Sent F :=
  ⟨h.requests ▸ hs.inOrder, h.file ▸ hs.file⟩

theorem waitAndClose_silent (thread : SdkResource) (clear : WinUHidDevice → WinUHidDevice)
    (s : SdkClient) : Silent s (s.waitAndClose thread clear) := by
  rw [waitAndClose]
  split <;> exact ⟨rfl, rfl, rfl⟩

theorem closeMember_silent (r : SdkResource) (clear : WinUHidDevice → WinUHidDevice)
    (s : SdkClient) : Silent s (s.closeMember r clear) := by
  rw [closeMember]
  split <;> exact ⟨rfl, rfl, rfl⟩

theorem winUHidStopDevice_silent (s : SdkClient) : Silent s s.winUHidStopDevice := by
  rw [winUHidStopDevice]
  split
  next => exact .refl s
  next =>
    dsimp only
    split
    next =>
      have cancelled : Silent s ((s.setDevice ({ · with state := .stopped })).called
        (.use .handle)) := ⟨rfl, rfl, rfl⟩
      have ended := cancelled.trans (waitAndClose_silent .eventThread
        ({ · with eventThread := false }) _)
      rw [closeEventThread]
      generalize waitAndClose .eventThread _ _ = mid at ended ⊢
      split
      next =>
        have signalled : Silent mid ((mid.called (.use .readReportReadyEvent)).called
          (.use .throttlingTimer)) := ⟨rfl, rfl, rfl⟩
        exact (ended.trans signalled).trans (waitAndClose_silent ..)
      next => exact ended
    next => exact .refl s

theorem completePending_silent (createEvent : Bool) (s : SdkClient) :
    Silent s (s.completePending createEvent) := by
  rw [completePending]
  split
  next =>
    rw [withPrivateEvent]
    split <;> exact ⟨rfl, rfl, rfl⟩
  next => exact .refl s

theorem winUHidDestroyDevice_silent (createEvent : Bool) (s : SdkClient) :
    Silent s (s.winUHidDestroyDevice createEvent) := by
  rw [winUHidDestroyDevice]
  split
  · exact .refl s
  · have closed := ((winUHidStopDevice_silent s).trans (closeMember_silent .throttlingTimer
      ({ · with throttlingTimer := false }) _)).trans (closeMember_silent .readReportReadyEvent
      ({ · with readReportReadyEvent := false }) _)
    have completed := closed.trans (completePending_silent createEvent _)
    have file := completed.trans (closeMember_silent .handle ({ · with handle := .null }) _)
    exact ⟨file.file, file.requests, file.config⟩

end Frame

/-- The driver knows what it was sent of the device, and was never asked out of order. -/
structure Informed (s : SdkClient) : Prop where
  inOrder : ∀ x ∈ s.requests, x.1.refuses x.2.ioctl = false
  created : s.device.isSome = true →
    ∃ config, s.config = some config ∧ config.valid = true ∧ MadeFrom config.sentConfig s.file

theorem Informed.silent {t : SdkClient} (h : s.Informed) (silent : Silent s t)
    (device : t.device.isSome = true → s.device.isSome = true) : t.Informed where
  inOrder := silent.requests ▸ h.inOrder
  created := fun some => by
    rw [silent.config, silent.file]
    exact h.created (device some)

theorem winUHidCreateDevice_informed (config : Option DeviceConfig) (h : s.Informed)
    (holding : Holding false false none s) : (winUHidCreateDevice config o s).2.Informed := by
  cases config with
  | none => exact h
  | some config =>
    rw [winUHidCreateDevice]
    dsimp only
    split
    next => exact h
    next valid =>
      split
      next => exact h
      next =>
        have start : Sent (fun _ => True)
            { s.called (.acquire .overlappedEvent) with overlappedEvent := true } :=
          ⟨h.inOrder, trivial⟩
        have met := creationCalls_sent (o := o) (by simpa using valid) _ start
        have held := creationCalls_meets config o _ holding.acquireOverlapped
        generalize inOrder _ _ = result at met held ⊢
        obtain ⟨created, t⟩ := result
        cases created with
        | true =>
          exact ⟨met.inOrder, fun _ => ⟨config, rfl, by simpa using valid, met.file⟩⟩
        | false =>
          have silent := winUHidDestroyDevice_silent true t
          have none := (Failing.winUHidDestroyDevice held true).device
          refine ⟨?_, fun some => ?_⟩
          · show ∀ x ∈ (winUHidDestroyDevice true t).requests, _
            rw [silent.requests]
            exact met.inOrder
          · change (winUHidDestroyDevice true t).device.isSome = true at some
            rw [none] at some
            cases some

/-- `IOCTL_WINUHID_START_DEVICE` leaves the file as it is, and comes after its creation. -/
theorem startDevice_sent {c : VhfConfig} (io : IoctlOutcome) (h : s.Sent (MadeFrom c)) :
    (deviceIoControl .startDevice [] io s).2.Sent (MadeFrom c) := by
  rw [deviceIoControl]
  dsimp only
  split
  · exact ⟨h.inOrder, h.file⟩
  · refine ⟨fun x hx => ?_, h.file⟩
    rcases List.mem_append.mp hx with hx | hx
    · exact h.inOrder x hx
    · rw [List.mem_singleton.mp hx]
      exact Option.isNone_eq_false_iff.mpr h.file.handle

theorem startCalls_sent {c : VhfConfig} (eventCallback : Bool) (d : WinUHidDevice)
    (o : StartOutcomes) (h : s.Sent (MadeFrom c)) :
    (inOrder (startCalls eventCallback d o) s).2.Sent (MadeFrom c) ∧
      (inOrder (startCalls eventCallback d o) s).2.config = s.config := by
  refine inOrder_keeps (P := fun t : SdkClient => t.Sent (MadeFrom c) ∧ t.config = s.config)
    (fun call hc t ht => ?_) ⟨h, rfl⟩
  obtain ⟨sent, config⟩ := ht
  have thread : ∀ r f ok, (createThread r f ok t).2.Sent (MadeFrom c) ∧
      (createThread r f ok t).2.config = s.config := by
    intro r f ok
    cases ok <;> exact ⟨⟨sent.inOrder, sent.file⟩, config⟩
  rw [startCalls, List.mem_append, List.mem_append] at hc
  rcases hc with (hc | hc) | hc
  · split at hc
    · rw [List.mem_singleton.mp hc]
      exact thread ..
    · cases hc
  · split at hc
    · rw [List.mem_singleton.mp hc]
      exact thread ..
    · cases hc
  · rw [List.mem_singleton.mp hc, withPrivateEvent]
    split
    · exact ⟨sent, config⟩
    · have next := startDevice_sent o.startDevice (s := { t.called (.acquire .privateEvent) with
        privateEvent := true }) ⟨sent.inOrder, sent.file⟩
      refine ⟨⟨next.inOrder, next.file⟩, ?_⟩
      dsimp only
      rw [deviceIoControl]
      dsimp only
      split <;> exact config

theorem winUHidStartDevice_informed (eventCallback : Bool) (o : StartOutcomes) (h : s.Informed) :
    (winUHidStartDevice eventCallback o s).2.Informed := by
  rw [winUHidStartDevice]
  split
  next => exact h
  next d hd =>
    split
    next => exact h
    next =>
      obtain ⟨config, hc, valid, created⟩ := h.created (by rw [hd]; rfl)
      obtain ⟨sent, config'⟩ := startCalls_sent eventCallback d o (s := s) ⟨h.inOrder, created⟩
      dsimp only
      split
      next => exact ⟨sent.inOrder, fun _ => ⟨config, config'.trans hc, valid, sent.file⟩⟩
      next =>
        have silent := (waitAndClose_silent .eventThread ({ · with eventThread := false })
          (inOrder (startCalls eventCallback d o) s).2).trans
            (waitAndClose_silent .readThread ({ · with readThread := false }) _)
        have closed := silent.sent sent
        exact ⟨closed.inOrder, fun _ =>
          ⟨config, silent.config.trans (config'.trans hc), valid, closed.file⟩⟩

theorem Informed.step {a : SdkCall} {s' : SdkClient} (h : s.Informed) (between : s.Between)
    (hs : s.step a = some s') : s'.Informed := by
  obtain ⟨device, held, -⟩ := between
  cases a with
  | create config o =>
    rw [SdkClient.step] at hs
    split at hs
    next none =>
      obtain rfl := Option.some.inj hs
      rw [held.device, Option.isNone_iff_eq_none] at none
      subst none
      exact winUHidCreateDevice_informed config h held
    next => cases hs
  | start eventCallback o =>
    obtain rfl := Option.some.inj hs
    exact winUHidStartDevice_informed eventCallback o h
  | stop =>
    obtain rfl := Option.some.inj hs
    cases hd : s.device with
    | none => rwa [winUHidStopDevice, hd]
    | some d => exact h.silent (winUHidStopDevice_silent s) fun _ => by rw [hd]; rfl
  | destroy createEvent =>
    obtain rfl := Option.some.inj hs
    cases hd : s.device with
    | none => rwa [winUHidDestroyDevice, hd]
    | some d => exact h.silent (winUHidDestroyDevice_silent createEvent s) fun _ => by rw [hd]; rfl
  | readyForRead =>
    rw [SdkClient.step] at hs
    split at hs
    next =>
      obtain rfl := Option.some.inj hs
      exact h.silent ⟨rfl, rfl, rfl⟩ fun some => by simpa [setDevice] using some
    next => cases hs
  | takePending =>
    rw [SdkClient.step] at hs
    split at hs
    next =>
      obtain rfl := Option.some.inj hs
      exact h.silent ⟨rfl, rfl, rfl⟩ fun some => by simpa [setDevice] using some
    next => cases hs

end SdkClient

end WinUHid
