import WinUHid.DeviceResources

namespace WinUHid

open CheckedCall

/-- `WINUHID_PRESET_DEVICE_INFO` -/
structure PresetDeviceInfo where
  vendorID : UInt16
  productID : UInt16
  versionNumber : UInt16
  containerId : List UInt8
  instanceID : Option (List Wchar)
  hardwareIDs : Option (List Wchar)
  sizeofGuid : containerId.length = 16
  readable_instanceID : ∀ object ∈ instanceID, (instanceIdBuffer object).isSome = true
  readable_hardwareIDs : ∀ object ∈ hardwareIDs, (hardwareIdsBuffer object).isSome = true

def populateDeviceInfo (config : DeviceConfig) : Option PresetDeviceInfo → DeviceConfig
  | none => config
  | some info =>
    let named :=
      if info.vendorID ≠ 0 then
        { config with
          vendorID := info.vendorID
          productID := info.productID
          versionNumber := info.versionNumber }
      else config
    { named with
      containerId := info.containerId
      instanceID := info.instanceID
      hardwareIDs := info.hardwareIDs
      sizeofGuid := info.sizeofGuid
      readable_instanceID := info.readable_instanceID
      readable_hardwareIDs := info.readable_hardwareIDs }

/-- A length of 16 bits is no more than the length. -/
theorem readable_whole (reportDescriptor : List UInt8) : ∀ object ∈ some reportDescriptor,
    (UInt16.ofNat reportDescriptor.length).toNat ≤ object.length := by
  rintro _ ⟨⟩
  rw [UInt16.toNat_ofNat']
  exact Nat.mod_le _ _

/-- Nothing is read through a pointer that is `NULL`. -/
theorem readable_null {buffer : List Wchar → Option (List UInt8)} :
    ∀ object ∈ (none : Option (List Wchar)), (buffer object).isSome = true := by
  rintro object ⟨⟩

def zeroGuid : List UInt8 := List.replicate 16 0

theorem length_zeroGuid : zeroGuid.length = 16 := rfl

/-- A preset's own configuration. -/
def presetConfig (supportedEvents : UInt32) (vendorID productID : UInt16)
    (hardwareIDs : Option (List Wchar)) (readReportPeriodUs : UInt32)
    (reportDescriptor : List UInt8)
    (readable : ∀ object ∈ hardwareIDs, (hardwareIdsBuffer object).isSome = true) :
    DeviceConfig where
  supportedEvents := supportedEvents
  vendorID := vendorID
  productID := productID
  versionNumber := 0
  reportDescriptorLength := .ofNat reportDescriptor.length
  reportDescriptor := some reportDescriptor
  containerId := zeroGuid
  instanceID := none
  hardwareIDs := hardwareIDs
  readReportPeriodUs := readReportPeriodUs
  sizeofGuid := length_zeroGuid
  readable_reportDescriptor := readable_whole reportDescriptor
  readable_instanceID := readable_null
  readable_hardwareIDs := readable

/-- The constant of `WinUHidMouse.cpp`, with the report descriptor that it points at. -/
def mouseConfig : List UInt8 → DeviceConfig :=
  (presetConfig (EventType.getFeature.value ||| EventType.setFeature.value) 0x045e 0x0822 none 0 ·
    readable_null)

def gamepadEvents : UInt32 :=
  EventType.readReport.value ||| EventType.writeReport.value ||| EventType.getFeature.value |||
    EventType.setFeature.value

def ps4Config : List UInt8 → DeviceConfig :=
  (presetConfig gamepadEvents 0x054c 0x05c4 none 100000 · readable_null)

def ps5Config : List UInt8 → DeviceConfig :=
  (presetConfig gamepadEvents 0x054c 0x0ce6 none 10000 · readable_null)

/-- `L"HID\\VID_045E&PID_02FF&IG_00\0"` and the terminator of the literal. -/
def xOneHardwareIDs : List Wchar :=
  "HID\\VID_045E&PID_02FF&IG_00".toList.map (fun c => .ofNat c.toNat) ++ [0, 0]

def xOneConfig : List UInt8 → DeviceConfig :=
  (presetConfig EventType.writeReport.value 0x045e 0x02ff (some xOneHardwareIDs) 0 ·
    (by decide +kernel))

/-- What the structure of a preset owns: the event and the thread of its updates, and its device. -/
structure PresetDevice where
  updatedEvent : Bool := false
  workerThread : Bool := false
  device : Bool := false

inductive PresetResource where
  | heapBlock
  | updatedEvent
  | workerThread
  | device
  deriving DecidableEq

/-- A device runs in that it calls back. -/
def PresetResource.isThread : PresetResource → Bool
  | .workerThread | .device => true
  | _ => false

/-- The worker waits for the event, and a callback of the device gets the block as its context. That
a callback may signal the event while the preset is torn down is left to `PresetWorkers`. -/
def PresetResource.uses : PresetResource → PresetResource → Bool
  | .workerThread, r => r ≠ .device
  | .device, r => r = .heapBlock || r = .device
  | _, _ => false

def PresetDevice.owns (preset : PresetDevice) : PresetResource → Bool
  | .heapBlock => true
  | .updatedEvent => preset.updatedEvent
  | .workerThread => preset.workerThread
  | .device => preset.device

/-- A program with at most one preset at a time, over the SDK; the log says what is done with what
the preset owns. -/
structure PresetProgram where
  preset : Option PresetDevice := none
  sdk : SdkClient := {}
  calls : List (ResourceCall PresetResource) := []

/-- How the calls of a preset's creation end. -/
structure PresetOutcomes where
  heapAlloc : Bool := true
  createEvent : Bool := true
  createThread : Bool := true
  createDevice : CreateOutcomes := {}
  startDevice : StartOutcomes := {}
  reportInput : Bool := true

namespace PresetProgram

def called (s : PresetProgram) (call : ResourceCall PresetResource) : PresetProgram :=
  { s with calls := s.calls ++ [call] }

def setPreset (s : PresetProgram) (f : PresetDevice → PresetDevice) : PresetProgram :=
  { s with preset := s.preset.map f }

def owns (s : PresetProgram) (r : PresetResource) : Bool := s.preset.any (·.owns r)

def createEvent (ok : Bool) : CheckedCall PresetProgram := fun s =>
  if ok then (true, (s.called (.acquire .updatedEvent)).setPreset ({ · with updatedEvent := true }))
  else (false, s)

def createThread (ok : Bool) : CheckedCall PresetProgram := fun s =>
  if ok then
    (true, ((s.called (.acquire .workerThread)).called (.start .workerThread)).setPreset
      ({ · with workerThread := true }))
  else (false, s)

/-- `WinUHidCreateDevice`. From here on the device may call back, though it does not before it is
started. -/
def createDevice (config : DeviceConfig) (o : CreateOutcomes) :
    CheckedCall PresetProgram := fun s =>
  let (created, sdk) := SdkClient.winUHidCreateDevice (some config) o s.sdk
  if created then
    (true, { ((s.called (.acquire .device)).called (.start .device)).setPreset
      ({ · with device := true }) with sdk })
  else (false, { s with sdk })

/-- `WinUHidStartDevice`, with the preset's callback. -/
def startDevice (o : StartOutcomes) : CheckedCall PresetProgram := fun s =>
  let (started, sdk) := SdkClient.winUHidStartDevice true o s.sdk
  (started, { s.called (.use .device) with sdk })

/-- A function that fills a report in from the block and submits it. -/
def reportInput (ok : Bool) : CheckedCall PresetProgram := fun s =>
  (ok, (s.called (.use .heapBlock)).called (.use .device))

/-- The end of the worker: `SetEvent`, `WaitForSingleObject` and `CloseHandle`. -/
def closeWorker (s : PresetProgram) : PresetProgram :=
  if s.owns .workerThread then
    (((s.called (.use .updatedEvent)).called (.ended .workerThread)).called
      (.release .workerThread)).setPreset ({ · with workerThread := false })
  else s

def closeEvent (s : PresetProgram) : PresetProgram :=
  if s.owns .updatedEvent then
    (s.called (.release .updatedEvent)).setPreset ({ · with updatedEvent := false })
  else s

def closeDevice (createEvent : Bool) (s : PresetProgram) : PresetProgram :=
  if s.owns .device then
    { ((s.called (.ended .device)).called (.release .device)).setPreset
      ({ · with device := false }) with sdk := s.sdk.winUHidDestroyDevice createEvent }
  else s

/-- `WinUHidMouseDestroy`, `WinUHidPS4Destroy`, `WinUHidPS5Destroy`, `WinUHidXOneDestroy`; a mouse
and a PS5 gamepad never have a worker. `createEvent` is for `WinUHidDestroyDevice`. -/
def destroy (createEvent : Bool) (s : PresetProgram) : PresetProgram :=
  if s.preset.isNone then s
  else
    let s := (s.closeWorker.closeEvent).closeDevice createEvent
    { s.called (.release .heapBlock) with preset := none }

/-- The calls of a creation that go to the destroy function when they fail. -/
def createCalls (config : DeviceConfig) (worker : Bool) (o : PresetOutcomes) :
    List (CheckedCall PresetProgram) :=
  (if worker then [createEvent o.createEvent, createThread o.createThread] else []) ++
  [createDevice config o.createDevice, startDevice o.startDevice, reportInput o.reportInput]

/-- A creation, with the configuration that `populateDeviceInfo` has left and a worker where the
caller wants its callbacks. -/
def create (config : DeviceConfig) (worker : Bool) (o : PresetOutcomes) :
    CheckedCall PresetProgram := fun s =>
  if config.vendorID = 0 then (false, s)
  else if !o.heapAlloc then (false, s)
  else
    let (created, s) := inOrder (createCalls config worker o)
      { s.called (.acquire .heapBlock) with preset := some {} }
    (created, if created then s else s.destroy true)

variable (reportDescriptor : List UInt8) (info : Option PresetDeviceInfo)

def winUHidMouseCreate : PresetOutcomes → CheckedCall PresetProgram :=
  create (populateDeviceInfo (mouseConfig reportDescriptor) info) false

def winUHidPS4Create (ledCallback : Bool) : PresetOutcomes → CheckedCall PresetProgram :=
  create (populateDeviceInfo (ps4Config reportDescriptor) info) ledCallback

def winUHidPS5Create : PresetOutcomes → CheckedCall PresetProgram :=
  create (populateDeviceInfo (ps5Config reportDescriptor) info) false

def winUHidXOneCreate (callback : Bool) : PresetOutcomes → CheckedCall PresetProgram :=
  create (populateDeviceInfo (xOneConfig reportDescriptor) info) callback

end PresetProgram

/-- What a program does with presets, and what the threads of the SDK do meanwhile. -/
inductive PresetCall where
  | createMouse (reportDescriptor : List UInt8) (info : Option PresetDeviceInfo)
    (o : PresetOutcomes)
  | createPs4 (reportDescriptor : List UInt8) (info : Option PresetDeviceInfo) (ledCallback : Bool)
    (o : PresetOutcomes)
  | createPs5 (reportDescriptor : List UInt8) (info : Option PresetDeviceInfo) (o : PresetOutcomes)
  | createXOne (reportDescriptor : List UInt8) (info : Option PresetDeviceInfo) (callback : Bool)
    (o : PresetOutcomes)
  | reportInput
  | destroy (createEvent : Bool)
  | readyForRead
  | takePending

namespace PresetProgram

def created (s : PresetProgram) (c : CheckedCall PresetProgram) : Option PresetProgram :=
  if s.preset.isNone then some (c s).2 else none

/-- A program creates a preset when it has none, and keeps no pointer to one that it destroyed. -/
def step (s : PresetProgram) : PresetCall → Option PresetProgram
  | .createMouse reportDescriptor info o => s.created (winUHidMouseCreate reportDescriptor info o)
  | .createPs4 reportDescriptor info ledCallback o =>
    s.created (winUHidPS4Create reportDescriptor info ledCallback o)
  | .createPs5 reportDescriptor info o => s.created (winUHidPS5Create reportDescriptor info o)
  | .createXOne reportDescriptor info callback o =>
    s.created (winUHidXOneCreate reportDescriptor info callback o)
  | .reportInput => if s.preset.isSome then some (reportInput true s).2 else none
  | .destroy createEvent => some (s.destroy createEvent)
  | .readyForRead => (s.sdk.step .readyForRead).map ({ s with sdk := · })
  | .takePending => (s.sdk.step .takePending).map ({ s with sdk := · })

/-- The program holds this preset, the SDK holds its device, and the log accounts for both. -/
structure Keeping (preset : Option PresetDevice) (s : PresetProgram) : Prop where
  accounts : ResourceCall.Accounted PresetResource.uses s.calls s.owns
    fun r => r.isThread && s.owns r
  holds : s.preset = preset
  sdk : s.sdk.Between
  device : s.sdk.device.isSome = preset.any (·.device)

namespace Keeping

variable {preset : Option PresetDevice} {p : PresetDevice} {s : PresetProgram} {r : PresetResource}

theorem owns_eq (h : Keeping (some p) s) (r : PresetResource) : s.owns r = p.owns r := by
  rw [owns, h.holds]
  rfl

theorem use (h : Keeping preset s) (own : s.owns r = true) :
    Keeping preset (s.called (.use r)) where
  accounts := h.accounts.use own
  holds := h.holds
  sdk := h.sdk
  device := h.device

/-- The block is all there is. -/
theorem heapAlloc (h : Keeping none s) :
    Keeping (some {}) { s.called (.acquire .heapBlock) with preset := some {} } where
  accounts := by
    refine h.accounts.acquireIdle ?_ rfl fun q => ?_
    · rw [owns, h.holds]
      rfl
    · rw [owns, owns, h.holds]
      cases q <;> rfl
  holds := rfl
  sdk := h.sdk
  device := h.device

theorem createEvent (h : Keeping (some {}) s) : Keeping (some { updatedEvent := true })
    ((s.called (.acquire .updatedEvent)).setPreset ({ · with updatedEvent := true })) where
  accounts := by
    refine h.accounts.acquireIdle (h.owns_eq _) rfl fun q => ?_
    rw [h.owns_eq, owns, setPreset, called, h.holds]
    cases q <;> rfl
  holds := by rw [setPreset, called, h.holds]; rfl
  sdk := h.sdk
  device := h.device

theorem createThread (h : Keeping (some { updatedEvent := true }) s) :
    Keeping (some { updatedEvent := true, workerThread := true })
      (((s.called (.acquire .workerThread)).called (.start .workerThread)).setPreset
        ({ · with workerThread := true })) where
  accounts := by
    refine h.accounts.startThread (h.owns_eq _) rfl fun q => ?_
    rw [h.owns_eq, owns, setPreset, called, called, h.holds]
    cases q <;> rfl
  holds := by rw [setPreset, called, called, h.holds]; rfl
  sdk := h.sdk
  device := h.device

/-- A worker that is there has its event. -/
theorem closeWorker (h : Keeping (some p) s)
    (paired : p.workerThread = true → p.updatedEvent = true) :
    Keeping (some { p with workerThread := false }) s.closeWorker := by
  rw [PresetProgram.closeWorker, h.owns_eq]
  obtain ⟨updatedEvent, workerThread, device⟩ := p
  cases workerThread with
  | false => exact h
  | true =>
    obtain rfl : updatedEvent = true := paired rfl
    have signalled := h.use (r := .updatedEvent) (h.owns_eq _)
    refine ⟨?_, by rw [setPreset, called, called, called, h.holds]; rfl, h.sdk, h.device⟩
    refine signalled.accounts.endThread (signalled.owns_eq _) (fun q other _ => ?_) fun q => ?_
    · cases q <;> first | rfl | exact absurd rfl other
    · rw [signalled.owns_eq, owns, setPreset, called, called, signalled.holds]
      cases q <;> rfl

theorem closeEvent (h : Keeping (some p) s) (ended : p.workerThread = false) :
    Keeping (some { p with updatedEvent := false }) s.closeEvent := by
  rw [PresetProgram.closeEvent, h.owns_eq]
  obtain ⟨updatedEvent, workerThread, device⟩ := p
  obtain rfl : workerThread = false := ended
  cases updatedEvent with
  | false => exact h
  | true =>
    refine ⟨?_, by rw [setPreset, called, h.holds]; rfl, h.sdk, h.device⟩
    refine h.accounts.releaseIdle (h.owns_eq _) rfl (fun q runs => ?_) fun q => ?_
    · rw [h.owns_eq] at runs
      cases q <;> first | rfl | cases runs
    · rw [h.owns_eq, owns, setPreset, called, h.holds]
      cases q <;> rfl

theorem closeDevice (createEvent : Bool) (h : Keeping (some p) s) (ended : p.workerThread = false) :
    Keeping (some { p with device := false }) (s.closeDevice createEvent) := by
  rw [PresetProgram.closeDevice, h.owns_eq]
  obtain ⟨updatedEvent, workerThread, device⟩ := p
  obtain rfl : workerThread = false := ended
  cases device with
  | false => exact h
  | true =>
    obtain ⟨sdk, none⟩ := h.sdk.destroy createEvent
    have gone : (s.sdk.winUHidDestroyDevice createEvent).device.isSome = false := by
      rw [none]
      rfl
    refine ⟨?_, by rw [setPreset, called, called, h.holds]; rfl, sdk, gone⟩
    refine h.accounts.endThread (h.owns_eq .device) (fun q other _ => ?_) fun q => ?_
    · cases q <;> first | rfl | exact absurd rfl other
    · rw [h.owns_eq, owns, setPreset, called, called, h.holds]
      cases q <;> rfl

/-- The destroy functions leave nothing, whatever a creation has come to. -/
theorem destroy (createEvent : Bool) (h : Keeping (some p) s)
    (paired : p.workerThread = true → p.updatedEvent = true) :
    Keeping none (s.destroy createEvent) := by
  have closed := ((h.closeWorker paired).closeEvent rfl).closeDevice createEvent rfl
  rw [PresetProgram.destroy, h.holds]
  generalize (s.closeWorker.closeEvent).closeDevice createEvent = s' at closed ⊢
  refine ⟨?_, rfl, closed.sdk, closed.device⟩
  refine closed.accounts.releaseIdle (closed.owns_eq _) rfl (fun q runs => ?_) fun q => ?_
  · rw [closed.owns_eq] at runs
    cases q <;> first | rfl | cases runs
  · rw [closed.owns_eq, owns]
    cases q <;> rfl

end Keeping

/-- What the destroy functions may find. -/
def Failing (s : PresetProgram) : Prop :=
  ∃ p, Keeping (some p) s ∧ (p.workerThread = true → p.updatedEvent = true)

variable {p : PresetDevice} {s : PresetProgram} {config : DeviceConfig} {o : PresetOutcomes}

theorem createEvent_meets (ok : Bool) : Meets (Keeping (some {})) (createEvent ok)
    (Keeping (some { updatedEvent := true })) Failing := by
  intro s h
  cases ok with
  | false => exact ⟨_, h, nofun⟩
  | true => exact h.createEvent

theorem createThread_meets (ok : Bool) : Meets (Keeping (some { updatedEvent := true }))
    (createThread ok) (Keeping (some { updatedEvent := true, workerThread := true })) Failing := by
  intro s h
  cases ok with
  | false => exact ⟨_, h, fun _ => rfl⟩
  | true => exact h.createThread

theorem createDevice_meets (worker : Bool) (config : DeviceConfig) (o : CreateOutcomes) :
    Meets (Keeping (some ⟨worker, worker, false⟩)) (createDevice config o)
      (Keeping (some ⟨worker, worker, true⟩)) Failing := by
  intro s h
  have none : s.sdk.device = Option.none := by simpa using h.device
  obtain ⟨sdk, made⟩ := h.sdk.create (o := o) none (some config)
  rw [createDevice]
  dsimp only
  split
  next created =>
    rw [if_pos rfl]
    refine ⟨?_, by rw [setPreset, called, called, h.holds]; rfl, sdk, made.trans created⟩
    refine h.accounts.startThread (h.owns_eq .device) rfl fun q => ?_
    rw [h.owns_eq, owns, setPreset, called, called, h.holds]
    cases worker <;> cases q <;> rfl
  next failed =>
    rw [if_neg nofun]
    exact ⟨_, ⟨h.accounts, h.holds, sdk, made.trans (Bool.eq_false_iff.mpr failed)⟩, id⟩

/-- A preset whose creation has got to its end. -/
def Made (worker : Bool) (s : PresetProgram) : Prop :=
  Keeping (some ⟨worker, worker, true⟩) s ∧ ∃ d, s.sdk.device = some d ∧ d.state = .started

theorem startDevice_meets (worker : Bool) (o : StartOutcomes) :
    Meets (Keeping (some ⟨worker, worker, true⟩)) (startDevice o)
      (Made worker) Failing := by
  intro s h
  obtain ⟨sdk, still, started⟩ := h.sdk.start true o
  have used := h.use (r := .device) (h.owns_eq _)
  have after : Keeping (some ⟨worker, worker, true⟩) (startDevice o s).2 :=
    ⟨used.accounts, used.holds, sdk, still.trans h.device⟩
  split
  next ok => exact ⟨after, started ok⟩
  next failed => exact ⟨_, after, id⟩

theorem reportInput_meets (worker ok : Bool) :
    Meets (Made worker) (reportInput ok) (Made worker) Failing := by
  intro s h
  have used := (h.1.use (r := .heapBlock) (h.1.owns_eq _)).use (r := .device) (h.1.owns_eq _)
  cases ok with
  | false => exact ⟨_, used, id⟩
  | true => exact ⟨used, h.2⟩

theorem createCalls_meets (config : DeviceConfig) (worker : Bool) (o : PresetOutcomes) :
    Meets (Keeping (some {})) (inOrder (createCalls config worker o)) (Made worker) Failing := by
  have workers : Meets (Keeping (some {}))
      (inOrder (if worker then [createEvent o.createEvent, createThread o.createThread] else []))
      (Keeping (some ⟨worker, worker, false⟩)) Failing := by
    cases worker with
    | false => exact .nil
    | true => exact (createEvent_meets _).cons ((createThread_meets _).cons .nil)
  refine workers.append ?_
  exact (createDevice_meets worker config _).cons
    ((startDevice_meets worker _).cons ((reportInput_meets worker _).cons .nil))

/-- A state between two calls: no preset, or one that is made. -/
def Between (s : PresetProgram) : Prop :=
  Keeping none s ∨ ∃ worker, Made worker s

theorem create_between (h : Keeping none s) (config : DeviceConfig) (worker : Bool)
    (o : PresetOutcomes) : (create config worker o s).2.Between := by
  rw [create]
  dsimp only
  split
  · exact .inl h
  · split
    · exact .inl h
    · have met := createCalls_meets config worker o _ h.heapAlloc
      split at met
      next created =>
        rw [if_pos created]
        exact .inr ⟨worker, met⟩
      next failed =>
        rw [if_neg failed]
        obtain ⟨p, failing, paired⟩ := met
        exact .inl (failing.destroy true paired)

theorem Between.created {s' : PresetProgram} (h : s.Between) {c : CheckedCall PresetProgram}
    {worker : Bool} (creates : c = create config worker o) (hs : s.created c = some s') :
    s'.Between := by
  rw [PresetProgram.created] at hs
  split at hs
  next none =>
    obtain rfl := Option.some.inj hs
    obtain nothing | ⟨worker', made⟩ := h
    · rw [creates]
      exact create_between nothing config worker o
    · rw [made.1.holds] at none
      cases none
  next => cases hs

/-- The threads of the SDK take note of a read request, or take it. -/
theorem Between.pending (h : s.Between) (pending : Bool) :
    Between { s with sdk := s.sdk.setDevice ({ · with pendingReadReportEvent := pending }) } := by
  have noted {preset : Option PresetDevice} (h : Keeping preset s) : Keeping preset
      { s with sdk := s.sdk.setDevice ({ · with pendingReadReportEvent := pending }) } :=
    ⟨h.accounts, h.holds, h.sdk.setPending pending, by
      rw [SdkClient.setDevice, Option.isSome_map, h.device]⟩
  obtain nothing | ⟨worker, made, d, hd, started⟩ := h
  · exact .inl (noted nothing)
  · refine .inr ⟨worker, noted made, { d with pendingReadReportEvent := pending }, ?_, started⟩
    rw [SdkClient.setDevice, hd]
    rfl

theorem Between.step {a : PresetCall} {s' : PresetProgram} (h : s.Between)
    (hs : s.step a = some s') : s'.Between := by
  cases a with
  | createMouse reportDescriptor info o => exact h.created rfl hs
  | createPs4 reportDescriptor info ledCallback o => exact h.created rfl hs
  | createPs5 reportDescriptor info o => exact h.created rfl hs
  | createXOne reportDescriptor info callback o => exact h.created rfl hs
  | reportInput =>
    rw [PresetProgram.step] at hs
    split at hs
    next holds =>
      obtain rfl := Option.some.inj hs
      obtain nothing | ⟨worker, made⟩ := h
      · rw [nothing.holds] at holds
        cases holds
      · exact .inr ⟨worker, reportInput_meets worker true s made⟩
    next => cases hs
  | destroy createEvent =>
    obtain rfl := Option.some.inj hs
    obtain nothing | ⟨worker, made⟩ := h
    · rw [PresetProgram.destroy, nothing.holds]
      exact .inl nothing
    · exact .inl (made.1.destroy createEvent id)
  | readyForRead =>
    obtain ⟨sdk, stepped, rfl⟩ := Option.map_eq_some_iff.mp hs
    rw [SdkClient.step] at stepped
    split at stepped
    next =>
      obtain rfl := Option.some.inj stepped
      exact h.pending true
    next => cases stepped
  | takePending =>
    obtain ⟨sdk, stepped, rfl⟩ := Option.map_eq_some_iff.mp hs
    rw [SdkClient.step] at stepped
    split at stepped
    next =>
      obtain rfl := Option.some.inj stepped
      exact h.pending false
    next => cases stepped

theorem between_of_reach (h : Runs.Reach step Runs.anyStep (fun s => s = {}) s) : s.Between := by
  induction h with
  | start hi =>
    subst hi
    exact .inl ⟨⟨.nil, by rintro (_ | _) <;> rfl, by rintro (_ | _) <;> rfl⟩, rfl,
      SdkClient.between_of_reach (.start rfl), rfl⟩
  | next _ _ hs ih => exact ih.step hs

/-- Whatever a program does with one preset at a time, and whichever calls fail in it: the block,
the event, the worker and the device of a preset are used only while they are held, given back once
and not before the worker and the callbacks that use them have ended. Between two calls there is
either a preset whose device is started, and just what belongs to it is held, or nothing is held,
here and in the SDK. -/
theorem presets_balanced (h : Runs.Reach step Runs.anyStep (fun s => s = {}) s) :
    ResourceCall.Disciplined PresetResource.uses s.calls ∧ s.sdk.Balanced ∧
    (s.preset.isSome = true → (∀ r, ResourceCall.held s.calls r = s.owns r) ∧
      s.owns .device = true ∧ s.owns .updatedEvent = s.owns .workerThread ∧
      ∃ d, s.sdk.device = some d ∧ d.state = .started) ∧
    (s.preset = none → (∀ r, ResourceCall.held s.calls r = false) ∧
      ∀ r, ResourceCall.held s.sdk.calls r = false) := by
  obtain nothing | ⟨worker, made, started⟩ := between_of_reach h
  · have none : s.sdk.device = Option.none := by simpa using nothing.device
    refine ⟨nothing.accounts.disciplined, nothing.sdk.balanced, fun some => ?_, fun _ =>
      ⟨fun r => ?_, nothing.sdk.balanced.nothing none⟩⟩
    · rw [nothing.holds] at some
      cases some
    · rw [nothing.accounts.held, owns, nothing.holds]
      rfl
  · refine ⟨made.accounts.disciplined, made.sdk.balanced, fun _ =>
      ⟨made.accounts.held, made.owns_eq _, ?_, started⟩, fun none => ?_⟩
    · rw [made.owns_eq, made.owns_eq]
      rfl
    · rw [made.holds] at none
      cases none

/-- A PS4 gamepad with a worker lives and is destroyed while a read request is pending; the creation
of a PS5 gamepad fails for want of a read thread. -/
def ps4ThenPs5 : List PresetCall :=
  [.createPs4 [0x80] none true {}, .reportInput, .readyForRead, .destroy true,
    .createPs5 [0x80] none { startDevice := { createReadThread := false } }]

theorem presets_balanced_ps4ThenPs5 : ∃ s : PresetProgram, s.preset.isNone = true ∧
    s.calls.length = 25 ∧ ResourceCall.Disciplined PresetResource.uses s.calls ∧
    ∀ r, ResourceCall.held s.sdk.calls r = false := by
  have reached : ∃ s, Runs.Reach step Runs.anyStep (fun s => s = {}) s ∧
      s.preset.isNone = true ∧ s.calls.length = 25 :=
    Runs.exists_reach_of_run step Runs.anyStep (by rfl) ps4ThenPs5 (by decide)
  obtain ⟨s, reach, gone, calls⟩ := reached
  obtain ⟨disciplined, -, -, nothing⟩ := presets_balanced reach
  exact ⟨s, gone, calls, disciplined, (nothing (Option.isNone_iff_eq_none.mp gone)).2⟩

end PresetProgram

end WinUHid
