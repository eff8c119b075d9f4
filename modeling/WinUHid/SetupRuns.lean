import WinUHid.SetupRequests
import WinUHid.Replies
import Mathlib.Tactic.IntervalCases

namespace WinUHid

open LittleEndian

theorem parsedReports_cases (d : ReportDescriptor) :
    (∃ reports, parseReportDescriptor d = .ok reports ∧ parsedReports d = (statusSuccess, reports)) ∨
    ∃ status left, parsedReports d = (status, left) ∧ ntSuccess status = false := by
  unfold parsedReports
  split
  next reports h => exact .inl ⟨reports, h, rfl⟩
  next status left h =>
    obtain ⟨_, he, _⟩ | ⟨status', left', he, hs⟩ := parseReportDescriptor_returns d
    · rw [h] at he
      cases he
    · rw [h] at he
      cases he
      exact .inr ⟨status, left, rfl, hs⟩
  next h => exact absurd (parseReportDescriptor_returns d) (by simp [Parse.Returns, h])
  next h => exact absurd (parseReportDescriptor_returns d) (by simp [Parse.Returns, h])

namespace SetupRequest

theorem length_of_retrieve (r : SetupRequest) {minimum : Nat}
    (h : ntSuccess (r.retrieve minimum) = true) : minimum ≤ r.buffer.bytes.length := by
  unfold retrieve at h
  split at h
  next => exact absurd h (by decide)
  next hm =>
    simp only [Bool.and_eq_true, decide_eq_true_eq, not_and, Nat.not_lt] at hm
    exact hm h

theorem store_cases (r : SetupRequest) (minimum : Nat) (wellFormed : InputBuffer → Bool) :
    (∃ status, r.store minimum wellFormed = .refused status ∧ ntSuccess status = false) ∨
    (∃ status, r.store minimum wellFormed = .deleted status ∧ ntSuccess status = false) ∨
    ∃ fits, r.store minimum wellFormed = .stored r.buffer.bytes fits ∧
      minimum ≤ r.buffer.bytes.length ∧ wellFormed r.buffer = true ∧
      ntSuccess r.memoryCopyFromBuffer = true := by
  unfold store
  split
  next h => exact .inl ⟨_, rfl, by simpa using h⟩
  next h =>
    have hlen := r.length_of_retrieve (by simpa using h)
    split
    next => exact .inl ⟨_, rfl, rfl⟩
    next hfits =>
      split
      next => exact .inl ⟨_, rfl, rfl⟩
      next hw =>
        split
        next hc => exact .inl ⟨_, rfl, by simpa using hc⟩
        next =>
          split
          next hc => exact .inr (.inl ⟨_, rfl, by simpa using hc⟩)
          next hc =>
            exact .inr (.inr ⟨Nat.le_of_not_lt hfits, rfl, hlen, by simpa using hw,
              by simpa using hc⟩)

end SetupRequest

namespace FileSetup

/-- Every pointer of the configuration is backed by its memory object, and every length is that
of its buffer. -/
structure Valid (ctx : FileSetup) : Prop where
  reportDescriptor : ctx.reportDescriptorMem = ctx.vhfConfig.reportDescriptor
  instanceID : ctx.instanceIdMem = ctx.vhfConfig.instanceID
  hardwareIDs : ctx.hardwareIdsMem = ctx.vhfConfig.hardwareIDs
  noDescriptor : ctx.vhfConfig.reportDescriptor = none → ctx.vhfConfig.reportDescriptorLength = 0
  instanceIDLength : ∀ bytes, ctx.vhfConfig.instanceID = some bytes →
    ctx.vhfConfig.instanceIDLength.toNat = bytes.length
  hardwareIDsLength : ∀ bytes, ctx.vhfConfig.hardwareIDs = some bytes →
    ctx.vhfConfig.hardwareIDsLength.toNat = bytes.length

theorem initial_valid : FileSetup.initial.Valid := ⟨rfl, rfl, rfl, fun _ => rfl, nofun, nofun⟩

/-- All that a set-up request can do. -/
inductive Handled (ctx : FileSetup) (r : SetupRequest) : FileSetup → SetupReply → Prop
  | refused {status : NTSTATUS} {reports : ParsedReports} : ntSuccess status = false →
      (reports = ctx.reports ∨ ctx.vhfConfig.reportDescriptor = none ∧ ctx.vhfHandle = none) →
      Handled ctx r { ctx with reports := reports } ⟨status, none⟩
  | deviceInfo : r.ioctl = .setDeviceInfo → ctx.deviceInfoSet = false → ctx.vhfHandle = none →
      sizeofDeviceInfo ≤ r.buffer.bytes.length → r.buffer.deviceInfo.unknownEvents = 0 →
      Handled ctx r
        { ctx with
          vhfConfig := ctx.vhfConfig.setInfo r.buffer.deviceInfo
          deviceInfoSet := true } ⟨statusSuccess, none⟩
  | reportDescriptor {reports : ParsedReports} (fits : r.buffer.bytes.length ≤ 65535) :
      r.ioctl = .setReportDescriptor → ctx.vhfConfig.reportDescriptor = none →
      ctx.vhfHandle = none → 1 ≤ r.buffer.bytes.length →
      parseReportDescriptor ⟨r.buffer.bytes, fits⟩ = .ok reports →
      Handled ctx r
        { ctx with
          vhfConfig := { ctx.vhfConfig with
            reportDescriptor := some r.buffer.bytes
            reportDescriptorLength := UInt16.ofNat r.buffer.bytes.length }
          reportDescriptorMem := some r.buffer.bytes
          reports := reports } ⟨statusSuccess, none⟩
  | instanceId : r.ioctl = .setInstanceId → ctx.vhfConfig.instanceID = none →
      ctx.vhfHandle = none → ntSuccess r.memoryCopyFromBuffer = true →
      r.buffer.bytes.length ≤ 65535 →
      Handled ctx r
        { ctx with
          instanceIdMem := some r.buffer.bytes
          vhfConfig := { ctx.vhfConfig with
            instanceID := some r.buffer.bytes
            instanceIDLength := UInt16.ofNat r.buffer.bytes.length } } ⟨r.memoryCopyFromBuffer, none⟩
  | hardwareIds : r.ioctl = .setHardwareIds → ctx.vhfConfig.hardwareIDs = none →
      ctx.vhfHandle = none → ntSuccess r.memoryCopyFromBuffer = true →
      r.buffer.bytes.length ≤ 65535 →
      Handled ctx r
        { ctx with
          hardwareIdsMem := some r.buffer.bytes
          vhfConfig := { ctx.vhfConfig with
            hardwareIDs := some r.buffer.bytes
            hardwareIDsLength := UInt16.ofNat r.buffer.bytes.length } } ⟨r.memoryCopyFromBuffer, none⟩
  | create : r.ioctl = .createDevice → ctx.createRefused = false →
      Handled ctx r (ctx.vhfCreate r.vhfCreate r.createdHandle) ⟨r.vhfCreate, some ctx.vhfConfig⟩
  | start : r.ioctl = .startDevice → ctx.vhfHandle.isSome → Handled ctx r ctx ⟨r.vhfStart, none⟩

variable {ctx : FileSetup} {r : SetupRequest}

theorem Handled.unchanged {status : NTSTATUS} (h : ntSuccess status = false) :
    Handled ctx r ctx ⟨status, none⟩ := .refused h (.inl rfl)

theorem setDeviceInfo_handled (hr : r.ioctl = .setDeviceInfo) :
    Handled ctx r (ctx.setDeviceInfo r).1 ⟨(ctx.setDeviceInfo r).2, none⟩ := by
  unfold setDeviceInfo
  split
  next => exact .unchanged rfl
  next hg =>
    simp only [Bool.or_eq_true, not_or, Bool.not_eq_true, Option.isSome_eq_false_iff,
      Option.isNone_iff_eq_none] at hg
    split
    next h => exact .unchanged (by simpa using h)
    next h =>
      have hlen := r.length_of_retrieve (by simpa using h)
      split
      next => exact .unchanged rfl
      next hu => exact .deviceInfo hr hg.1 hg.2 hlen (of_not_not hu)

/-- The check with which the requests that store a buffer begin. -/
theorem unset_of_not_isSome_or {α β : Type*} {stored : Option α} {created : Option β}
    (h : ¬(stored.isSome || created.isSome) = true) : stored = none ∧ created = none := by
  simpa only [Bool.or_eq_true, not_or, Bool.not_eq_true, Option.isSome_eq_false_iff,
    Option.isNone_iff_eq_none] using h

theorem setReportDescriptor_handled (hv : ctx.Valid) (hr : r.ioctl = .setReportDescriptor) :
    Handled ctx r (ctx.setReportDescriptor r).1 ⟨(ctx.setReportDescriptor r).2, none⟩ := by
  unfold setReportDescriptor
  split
  next => exact .unchanged rfl
  next hg =>
    have hg := unset_of_not_isSome_or hg
    have hmem : ctx.reportDescriptorMem = none := hv.reportDescriptor.trans hg.1
    have hlen := hv.noDescriptor hg.1
    obtain ⟨status, he, hs⟩ | ⟨status, he, hs⟩ | ⟨fits, he, hmin, -, -⟩ :=
      r.store_cases 1 fun _ => true
    · rw [he]
      exact .unchanged hs
    · rw [he]
      have hsame : { ctx with reportDescriptorMem := none } = ctx := by rw [← hmem]
      dsimp only
      rw [hsame]
      exact .unchanged hs
    · rw [he]
      dsimp only
      obtain ⟨reports, hp, hpr⟩ | ⟨status, left, hpr, hs⟩ :=
        parsedReports_cases ⟨r.buffer.bytes, fits⟩
      · rw [hpr]
        exact .reportDescriptor fits hr hg.1 hg.2 hmin hp
      · have hconfig : { ctx.vhfConfig with
            reportDescriptor := none
            reportDescriptorLength := 0 } = ctx.vhfConfig := by rw [← hg.1, ← hlen]
        simp only [hpr, hs, Bool.not_false, if_true]
        rw [hconfig, ← hmem]
        exact .refused hs (.inr hg)

theorem setInstanceId_handled (hv : ctx.Valid) (hr : r.ioctl = .setInstanceId) :
    Handled ctx r (ctx.setInstanceId r).1 ⟨(ctx.setInstanceId r).2, none⟩ := by
  unfold setInstanceId
  split
  next => exact .unchanged rfl
  next hg =>
    have hg := unset_of_not_isSome_or hg
    obtain ⟨status, he, hs⟩ | ⟨status, he, hs⟩ | ⟨fits, he, -, -, hcopy⟩ :=
      r.store_cases sizeofWchar InputBuffer.wholeWchars
    · rw [he]
      exact .unchanged hs
    · rw [he]
      have hsame : { ctx with instanceIdMem := none } = ctx := by rw [← hg.1, ← hv.instanceID]
      dsimp only
      rw [hsame]
      exact .unchanged hs
    · rw [he]
      exact .instanceId hr hg.1 hg.2 hcopy fits

theorem setHardwareIds_handled (hv : ctx.Valid) (hr : r.ioctl = .setHardwareIds) :
    Handled ctx r (ctx.setHardwareIds r).1 ⟨(ctx.setHardwareIds r).2, none⟩ := by
  unfold setHardwareIds
  split
  next => exact .unchanged rfl
  next hg =>
    have hg := unset_of_not_isSome_or hg
    obtain ⟨status, he, hs⟩ | ⟨status, he, hs⟩ | ⟨fits, he, -, -, hcopy⟩ :=
      r.store_cases (2 * sizeofWchar) InputBuffer.multiString
    · rw [he]
      exact .unchanged hs
    · rw [he]
      have hsame : { ctx with hardwareIdsMem := none } = ctx := by rw [← hg.1, ← hv.hardwareIDs]
      dsimp only
      rw [hsame]
      exact .unchanged hs
    · rw [he]
      exact .hardwareIds hr hg.1 hg.2 hcopy fits

theorem ioDeviceControl_handled (hv : ctx.Valid) (r : SetupRequest) :
    Handled ctx r (ctx.ioDeviceControl r).1 (ctx.ioDeviceControl r).2 := by
  unfold ioDeviceControl
  split
  next hr => exact setDeviceInfo_handled hr
  next hr => exact setReportDescriptor_handled hv hr
  next hr => exact setInstanceId_handled hv hr
  next hr => exact setHardwareIds_handled hv hr
  next hr =>
    unfold createDevice
    split
    next => exact .unchanged rfl
    next hg => exact .create hr (by simpa using hg)
  next hr =>
    unfold startDevice
    split
    next => exact .unchanged rfl
    next hg => exact .start hr (by simpa [Option.isSome_iff_ne_none] using hg)

theorem Handled.valid {ctx' : FileSetup} {reply : SetupReply} (hv : ctx.Valid)
    (h : Handled ctx r ctx' reply) : ctx'.Valid := by
  have stored : ∀ bytes : List UInt8, bytes.length ≤ 65535 →
      (UInt16.ofNat bytes.length).toNat = bytes.length := by
    intro bytes fits
    rw [UInt16.toNat_ofNat']
    omega
  cases h with
  | refused | deviceInfo => exact ⟨hv.1, hv.2, hv.3, hv.4, hv.5, hv.6⟩
  | reportDescriptor => exact ⟨rfl, hv.2, hv.3, nofun, hv.5, hv.6⟩
  | instanceId _ _ _ _ fits =>
    exact ⟨hv.1, rfl, hv.3, hv.4, fun bytes hb => Option.some.inj hb ▸ stored _ fits, hv.6⟩
  | hardwareIds _ _ _ _ fits =>
    exact ⟨hv.1, hv.2, rfl, hv.4, hv.5, fun bytes hb => Option.some.inj hb ▸ stored _ fits⟩
  | create =>
    unfold vhfCreate
    split
    next => exact ⟨hv.1, hv.2, hv.3, hv.4, hv.5, hv.6⟩
    next => exact hv
  | start => exact hv

end FileSetup

def SetupIoctl.isConfiguration : SetupIoctl → Bool
  | .createDevice => false
  | .startDevice => false
  | _ => true

/-- A configuration request that was completed with a failure. -/
def failedConfiguration (e : SetupRequest × SetupReply) : Bool :=
  e.1.ioctl.isConfiguration && !ntSuccess e.2.status

/-- The buffers of the requests of one kind that were completed with success. -/
def accepted (i : SetupIoctl) (es : List (SetupRequest × SetupReply)) : List InputBuffer :=
  (es.filter fun e => e.1.ioctl == i && ntSuccess e.2.status).map fun e => e.1.buffer

section Accepted

variable {es : List (SetupRequest × SetupReply)} {r : SetupRequest} {reply : SetupReply}
  {i : SetupIoctl}

theorem accepted_append_failed (h : ntSuccess reply.status = false) :
    accepted i (es ++ [(r, reply)]) = accepted i es := by
  simp [accepted, h]

theorem accepted_append_other (h : r.ioctl ≠ i) :
    accepted i (es ++ [(r, reply)]) = accepted i es := by
  simp [accepted, h]

theorem accepted_append_self (h : r.ioctl = i) (hs : ntSuccess reply.status = true) :
    accepted i (es ++ [(r, reply)]) = accepted i es ++ [r.buffer] := by
  simp [accepted, h, hs]

end Accepted

/-- The part of the configuration that comes from the device info. -/
def VhfConfig.withoutBuffers (c : VhfConfig) : VhfConfig :=
  { c with
    reportDescriptor := none
    reportDescriptorLength := 0
    instanceID := none
    instanceIDLength := 0
    hardwareIDs := none
    hardwareIDsLength := 0 }

/-- What the bytes of a `WINUHID_DEVICE_INFO` ask for: the event flags are at offset 4, the IDs and
the version at 8, 10 and 12, the container ID at 16. -/
structure VhfConfig.DescribedBy (config : VhfConfig) (info : List UInt8) : Prop where
  whole : 32 ≤ info.length
  knownEvents : value ((info.drop 4).take 4) < 2 ^ 4
  context : config.vhfClientContext = true
  vendorID : config.vendorID.toNat = value ((info.drop 8).take 2)
  productID : config.productID.toNat = value ((info.drop 10).take 2)
  versionNumber : config.versionNumber.toNat = value ((info.drop 12).take 2)
  containerID : config.containerID = (info.drop 16).take 16
  getFeature : config.evtVhfAsyncOperationGetFeature = (value ((info.drop 4).take 4)).testBit 0
  setFeature : config.evtVhfAsyncOperationSetFeature = (value ((info.drop 4).take 4)).testBit 1
  writeReport : config.evtVhfAsyncOperationWriteReport = (value ((info.drop 4).take 4)).testBit 2
  readReport : config.evtVhfReadyForNextReadReport = (value ((info.drop 4).take 4)).testBit 3
  inputReport :
    config.evtVhfAsyncOperationGetInputReport = (value ((info.drop 4).take 4)).testBit 3

namespace InputBuffer

variable {b : InputBuffer} {k : Nat}

theorem reads_eq {n : Nat} (h : k + n ≤ b.bytes.length) :
    (List.range n).map (fun i => b.read (k + i)) = (b.bytes.drop k).take n := by
  have parts : b.bytes = b.bytes.take k ++ (b.bytes.drop k).take n ++ b.bytes.drop (k + n) := by
    rw [List.append_assoc, ← List.drop_drop, List.take_append_drop, List.take_append_drop]
  have read := InputBuffer.read_of_stored parts
  have front : (b.bytes.take k).length = k := List.length_take_of_le (by omega)
  have part : ((b.bytes.drop k).take n).length = n :=
    List.length_take_of_le (by rw [List.length_drop]; omega)
  rwa [front, part] at read

theorem toNat_ulong (h : k + 4 ≤ b.bytes.length) :
    (b.ulong k).toNat = value ((b.bytes.drop k).take 4) := by
  have four : [b.read k, b.read (k + 1), b.read (k + 2), b.read (k + 3)] =
      (b.bytes.drop k).take 4 := reads_eq h
  have hlt : value [b.read k, b.read (k + 1), b.read (k + 2), b.read (k + 3)] < 256 ^ 4 :=
    value_lt _
  rw [← four, ulong, UInt32.toNat_ofNat']
  exact Nat.mod_eq_of_lt hlt

theorem toNat_ushort (h : k + 2 ≤ b.bytes.length) :
    (b.ushort k).toNat = value ((b.bytes.drop k).take 2) := by
  have two : [b.read k, b.read (k + 1)] = (b.bytes.drop k).take 2 := reads_eq h
  have hlt : value [b.read k, b.read (k + 1)] < 256 ^ 2 := value_lt _
  rw [← two, ushort, UInt16.toNat_ofNat']
  exact Nat.mod_eq_of_lt hlt

end InputBuffer

namespace DeviceInfo

theorem supports_eq_testBit (info : DeviceInfo) {t : EventType} {i : Nat}
    (ht : t.value.toNat = 2 ^ i) : info.supports t = info.supportedEvents.toNat.testBit i := by
  have zero : info.supportedEvents &&& t.value = 0 ↔ info.supportedEvents.toNat &&& 2 ^ i = 0 := by
    rw [← UInt32.toNat_inj, UInt32.toNat_and, ht]
    rfl
  rw [Bool.eq_iff_iff, supports, bne_iff_ne, ne_eq, zero, Nat.and_two_pow]
  cases info.supportedEvents.toNat.testBit i <;> simp

/-- The driver takes no flag but those of the four event types. -/
theorem supportedEvents_lt {info : DeviceInfo} (h : info.unknownEvents = 0) :
    info.supportedEvents.toNat < 2 ^ 4 := by
  have none : info.supportedEvents.toNat &&& 0xFFFFFFF0 = 0 := congrArg UInt32.toNat h
  refine Nat.lt_pow_two_of_testBit _ fun i hi => ?_
  by_cases hw : i < 32
  · have bit := congrArg (fun v => v.testBit i) none
    have mask : Nat.testBit 0xFFFFFFF0 i = true := by
      interval_cases i <;> rfl
    simpa [Nat.testBit_and, mask] using bit
  · exact Nat.testBit_eq_false_of_lt (Nat.lt_of_lt_of_le info.supportedEvents.toNat_lt
      (Nat.pow_le_pow_right (by decide) (Nat.le_of_not_lt hw)))

end DeviceInfo

theorem VhfConfig.DescribedBy.of_setInfo {config : VhfConfig} {b : InputBuffer}
    (h : config.withoutBuffers = FileSetup.initial.vhfConfig.setInfo b.deviceInfo)
    (hlen : sizeofDeviceInfo ≤ b.bytes.length) (hu : b.deviceInfo.unknownEvents = 0) :
    config.DescribedBy b.bytes := by
  have hlen : 32 ≤ b.bytes.length := hlen
  have events : b.deviceInfo.supportedEvents.toNat = value ((b.bytes.drop 4).take 4) :=
    InputBuffer.toNat_ulong (by omega)
  have callback : ∀ {t : EventType} {i : Nat}, t.value.toNat = 2 ^ i →
      b.deviceInfo.supports t = (value ((b.bytes.drop 4).take 4)).testBit i := by
    intro t i ht
    rw [← events]
    exact b.deviceInfo.supports_eq_testBit ht
  have field : ∀ {α : Type} (f : VhfConfig → α), f config.withoutBuffers =
      f (FileSetup.initial.vhfConfig.setInfo b.deviceInfo) := fun f => congrArg f h
  exact {
    whole := hlen
    knownEvents := events ▸ DeviceInfo.supportedEvents_lt hu
    context := field VhfConfig.vhfClientContext
    vendorID := (congrArg UInt16.toNat (field VhfConfig.vendorID)).trans
      (InputBuffer.toNat_ushort (by omega))
    productID := (congrArg UInt16.toNat (field VhfConfig.productID)).trans
      (InputBuffer.toNat_ushort (by omega))
    versionNumber := (congrArg UInt16.toNat (field VhfConfig.versionNumber)).trans
      (InputBuffer.toNat_ushort (by omega))
    containerID := (field VhfConfig.containerID).trans (InputBuffer.reads_eq hlen)
    getFeature := (field VhfConfig.evtVhfAsyncOperationGetFeature).trans (callback rfl)
    setFeature := (field VhfConfig.evtVhfAsyncOperationSetFeature).trans (callback rfl)
    writeReport := (field VhfConfig.evtVhfAsyncOperationWriteReport).trans (callback rfl)
    readReport := (field VhfConfig.evtVhfReadyForNextReadReport).trans (callback rfl)
    inputReport := (field VhfConfig.evtVhfAsyncOperationGetInputReport).trans (callback rfl) }

/-- The context of a file on which exactly the requests of `es` were made. -/
structure FileSetup.Configured (es : List (SetupRequest × SetupReply)) (ctx : FileSetup) :
    Prop where
  valid : ctx.Valid
  info : (ctx.deviceInfoSet = false ∧ accepted .setDeviceInfo es = [] ∧
      ctx.vhfConfig.withoutBuffers = FileSetup.initial.vhfConfig) ∨
    ctx.deviceInfoSet = true ∧ ∃ b, accepted .setDeviceInfo es = [b] ∧
      sizeofDeviceInfo ≤ b.bytes.length ∧ b.deviceInfo.unknownEvents = 0 ∧
      ctx.vhfConfig.withoutBuffers = FileSetup.initial.vhfConfig.setInfo b.deviceInfo
  descriptor : (accepted .setReportDescriptor es).map InputBuffer.bytes =
    ctx.vhfConfig.reportDescriptor.toList
  instanceID : (accepted .setInstanceId es).map InputBuffer.bytes = ctx.vhfConfig.instanceID.toList
  hardwareIDs : (accepted .setHardwareIds es).map InputBuffer.bytes =
    ctx.vhfConfig.hardwareIDs.toList
  parsed : ∀ bytes, ctx.vhfConfig.reportDescriptor = some bytes → ∃ fits,
    ctx.vhfConfig.reportDescriptorLength.toNat = bytes.length ∧
      parseReportDescriptor ⟨bytes, fits⟩ = .ok ctx.reports
  created : ctx.vhfHandle.isSome → ctx.vhfConfig.reportDescriptor.isSome

namespace FileSetup

theorem initial_configured : Configured [] FileSetup.initial where
  valid := initial_valid
  info := .inl ⟨rfl, rfl, rfl⟩
  descriptor := rfl
  instanceID := rfl
  hardwareIDs := rfl
  parsed := nofun
  created := nofun

section VhfCreate

variable (ctx : FileSetup) (status : NTSTATUS) (handle : VhfHandle)

@[simp] theorem vhfCreate_vhfConfig : (ctx.vhfCreate status handle).vhfConfig = ctx.vhfConfig := by
  unfold vhfCreate
  split <;> rfl

@[simp] theorem vhfCreate_deviceInfoSet :
    (ctx.vhfCreate status handle).deviceInfoSet = ctx.deviceInfoSet := by
  unfold vhfCreate
  split <;> rfl

@[simp] theorem vhfCreate_reports : (ctx.vhfCreate status handle).reports = ctx.reports := by
  unfold vhfCreate
  split <;> rfl

end VhfCreate

theorem createRefused_eq_false {ctx : FileSetup} (h : ctx.createRefused = false) :
    ctx.vhfHandle = none ∧ ctx.vhfConfig.reportDescriptorLength ≠ 0 ∧ ctx.deviceInfoSet = true := by
  simp only [createRefused, Bool.or_eq_false_iff, Option.isSome_eq_false_iff,
    Option.isNone_iff_eq_none, beq_eq_false_iff_ne, Bool.not_eq_false'] at h
  exact ⟨h.1.1, h.1.2, h.2⟩

theorem Valid.descriptor_of_create {ctx : FileSetup} (hv : ctx.Valid)
    (h : ctx.createRefused = false) : ctx.vhfConfig.reportDescriptor.isSome := by
  rw [Option.isSome_iff_ne_none]
  intro hn
  exact (createRefused_eq_false h).2.1 (hv.noDescriptor hn)

theorem Configured.keep {es es' : List (SetupRequest × SetupReply)} {ctx ctx' : FileSetup}
    (h : Configured es ctx) (hv : ctx'.Valid)
    (he : ∀ i, i.isConfiguration = true → accepted i es' = accepted i es)
    (hd : ctx'.deviceInfoSet = ctx.deviceInfoSet) (hc : ctx'.vhfConfig = ctx.vhfConfig)
    (hr : ctx'.reports = ctx.reports ∨ ctx.vhfConfig.reportDescriptor = none)
    (hcreated : ctx'.vhfHandle.isSome → ctx.vhfConfig.reportDescriptor.isSome) :
    Configured es' ctx' := by
  refine ⟨hv, ?_, ?_, ?_, ?_, ?_, ?_⟩
  · rw [he .setDeviceInfo rfl, hd, hc]
    exact h.info
  · rw [he .setReportDescriptor rfl, hc]
    exact h.descriptor
  · rw [he .setInstanceId rfl, hc]
    exact h.instanceID
  · rw [he .setHardwareIds rfl, hc]
    exact h.hardwareIDs
  · intro bytes hb
    rw [hc] at hb ⊢
    obtain hr | hn := hr
    · rw [hr]
      exact h.parsed bytes hb
    · exact absurd (hb.symm.trans hn) nofun
  · rw [hc]
    exact hcreated

theorem Configured.next {es : List (SetupRequest × SetupReply)} {ctx : FileSetup}
    (h : Configured es ctx) (r : SetupRequest) :
    Configured (es ++ [(r, (ctx.ioDeviceControl r).2)]) (ctx.ioDeviceControl r).1 := by
  have hh := ioDeviceControl_handled h.valid r
  have hvalid := hh.valid h.valid
  generalize (ctx.ioDeviceControl r).1 = ctx' at hh hvalid ⊢
  generalize (ctx.ioDeviceControl r).2 = reply at hh ⊢
  have other : ∀ i, r.ioctl ≠ i → accepted i (es ++ [(r, reply)]) = accepted i es :=
    fun i hi => accepted_append_other hi
  cases hh with
  | refused hs hr =>
    exact h.keep hvalid (fun i _ => accepted_append_failed hs) rfl rfl (hr.imp id And.left) h.created
  | deviceInfo hr hg hh hlen hu =>
    rw [hr] at other
    obtain ⟨-, hi, hc⟩ | ⟨hset, -⟩ := h.info
    · refine ⟨hvalid, .inr ⟨rfl, r.buffer, ?_, hlen, hu, ?_⟩, ?_, ?_, ?_, h.parsed, h.created⟩
      · rw [accepted_append_self hr rfl, hi]
        rfl
      · rw [← hc]
        rfl
      · rw [other .setReportDescriptor nofun]
        exact h.descriptor
      · rw [other .setInstanceId nofun]
        exact h.instanceID
      · rw [other .setHardwareIds nofun]
        exact h.hardwareIDs
    · exact absurd (hg.symm.trans hset) nofun
  | reportDescriptor fits hr hn hh hmin hp =>
    rw [hr] at other
    refine ⟨hvalid, ?_, ?_, ?_, ?_, ?_, fun _ => rfl⟩
    · rw [other .setDeviceInfo nofun]
      exact h.info
    · rw [accepted_append_self hr rfl, List.map_append, h.descriptor, hn]
      rfl
    · rw [other .setInstanceId nofun]
      exact h.instanceID
    · rw [other .setHardwareIds nofun]
      exact h.hardwareIDs
    · intro bytes hb
      cases hb
      exact ⟨fits, by rw [UInt16.toNat_ofNat']; omega, hp⟩
  | instanceId hr hn hh hs =>
    rw [hr] at other
    refine ⟨hvalid, ?_, ?_, ?_, ?_, h.parsed, h.created⟩
    · rw [other .setDeviceInfo nofun]
      exact h.info
    · rw [other .setReportDescriptor nofun]
      exact h.descriptor
    · rw [accepted_append_self hr hs, List.map_append, h.instanceID, hn]
      rfl
    · rw [other .setHardwareIds nofun]
      exact h.hardwareIDs
  | hardwareIds hr hn hh hs =>
    rw [hr] at other
    refine ⟨hvalid, ?_, ?_, ?_, ?_, h.parsed, h.created⟩
    · rw [other .setDeviceInfo nofun]
      exact h.info
    · rw [other .setReportDescriptor nofun]
      exact h.descriptor
    · rw [other .setInstanceId nofun]
      exact h.instanceID
    · rw [accepted_append_self hr hs, List.map_append, h.hardwareIDs, hn]
      rfl
  | create hr hg =>
    have he : ∀ i : SetupIoctl, i.isConfiguration = true → r.ioctl ≠ i := by
      rintro i hi rfl
      rw [hr] at hi
      cases hi
    have hsome := h.valid.descriptor_of_create hg
    refine h.keep hvalid (fun i hi => other i (he i hi)) ?_ ?_ (.inl ?_) fun _ => hsome
    · rw [vhfCreate_deviceInfoSet]
    · rw [vhfCreate_vhfConfig]
    · rw [vhfCreate_reports]
  | start hr hg =>
    have he : ∀ i : SetupIoctl, i.isConfiguration = true → r.ioctl ≠ i := by
      rintro i hi rfl
      rw [hr] at hi
      cases hi
    exact h.keep hvalid (fun i hi => other i (he i hi)) rfl rfl (.inl rfl) h.created

/-- The context without what no reply depends on. -/
def core (ctx : FileSetup) : FileSetup :=
  { ctx with
    instanceIdMem := none
    reportDescriptorMem := none
    hardwareIdsMem := none
    reports := FileSetup.initial.reports }

/-- The same reply, and the same context but for what no reply depends on. -/
def Agree {α : Type} (x y : FileSetup × α) : Prop := x.2 = y.2 ∧ x.1.core = y.1.core

theorem Agree.ite {α : Type} {x y x' y' : FileSetup × α} (c : Prop) [Decidable c]
    (h : Agree x y) (h' : Agree x' y') : Agree (if c then x else x') (if c then y else y') := by
  by_cases hc : c
  · rw [if_pos hc, if_pos hc]
    exact h
  · rw [if_neg hc, if_neg hc]
    exact h'

theorem setDeviceInfo_core (ctx : FileSetup) (r : SetupRequest) :
    Agree (ctx.core.setDeviceInfo r) (ctx.setDeviceInfo r) :=
  .ite _ ⟨rfl, rfl⟩ (.ite _ ⟨rfl, rfl⟩ (.ite _ ⟨rfl, rfl⟩ ⟨rfl, rfl⟩))

theorem setReportDescriptor_core (ctx : FileSetup) (r : SetupRequest) :
    Agree (ctx.core.setReportDescriptor r) (ctx.setReportDescriptor r) := by
  refine .ite _ ⟨rfl, rfl⟩ ?_
  cases r.store 1 fun _ => true with
  | refused => exact ⟨rfl, rfl⟩
  | deleted => exact ⟨rfl, rfl⟩
  | stored bytes fits => exact .ite _ ⟨rfl, rfl⟩ ⟨rfl, rfl⟩

theorem setInstanceId_core (ctx : FileSetup) (r : SetupRequest) :
    Agree (ctx.core.setInstanceId r) (ctx.setInstanceId r) := by
  refine .ite _ ⟨rfl, rfl⟩ ?_
  cases r.store sizeofWchar InputBuffer.wholeWchars <;> exact ⟨rfl, rfl⟩

theorem setHardwareIds_core (ctx : FileSetup) (r : SetupRequest) :
    Agree (ctx.core.setHardwareIds r) (ctx.setHardwareIds r) := by
  refine .ite _ ⟨rfl, rfl⟩ ?_
  cases r.store (2 * sizeofWchar) InputBuffer.multiString <;> exact ⟨rfl, rfl⟩

theorem createDevice_core (ctx : FileSetup) (r : SetupRequest) :
    Agree (ctx.core.createDevice r) (ctx.createDevice r) := by
  refine .ite _ ⟨rfl, rfl⟩ ⟨rfl, ?_⟩
  unfold vhfCreate
  split <;> rfl

theorem ioDeviceControl_core (ctx : FileSetup) (r : SetupRequest) :
    Agree (ctx.core.ioDeviceControl r) (ctx.ioDeviceControl r) := by
  have reply : ∀ x y : FileSetup × NTSTATUS, Agree x y →
      Agree (x.1, SetupReply.mk x.2 none) (y.1, SetupReply.mk y.2 none) := by
    rintro x y ⟨hs, hc⟩
    exact ⟨congrArg (SetupReply.mk · none) hs, hc⟩
  unfold ioDeviceControl
  cases r.ioctl with
  | setDeviceInfo => exact reply _ _ (setDeviceInfo_core ctx r)
  | setReportDescriptor => exact reply _ _ (setReportDescriptor_core ctx r)
  | setInstanceId => exact reply _ _ (setInstanceId_core ctx r)
  | setHardwareIds => exact reply _ _ (setHardwareIds_core ctx r)
  | createDevice => exact createDevice_core ctx r
  | startDevice => exact ⟨rfl, rfl⟩

/-- A failed configuration request changes at most the sizes of a descriptor it did not set. -/
theorem core_of_failedConfiguration {ctx : FileSetup} (hv : ctx.Valid) {r : SetupRequest}
    (hf : failedConfiguration (r, (ctx.ioDeviceControl r).2) = true) :
    (ctx.ioDeviceControl r).1.core = ctx.core := by
  have hh := ioDeviceControl_handled hv r
  generalize (ctx.ioDeviceControl r).1 = ctx' at hh ⊢
  generalize (ctx.ioDeviceControl r).2 = reply at hh hf
  simp only [failedConfiguration, Bool.and_eq_true, Bool.not_eq_true'] at hf
  cases hh with
  | refused hs hr => rfl
  | deviceInfo => exact absurd hf.2 (by decide)
  | reportDescriptor => exact absurd hf.2 (by decide)
  | instanceId hr hn hh hs => exact absurd (hs.symm.trans hf.2) nofun
  | hardwareIds hr hn hh hs => exact absurd (hs.symm.trans hf.2) nofun
  | create hr hg => exact absurd hf.1 (by rw [hr]; nofun)
  | start hr hg => rfl

/-- Once there is a device, no request changes the configuration or the parsed sizes. -/
theorem ioDeviceControl_created {ctx : FileSetup} (hv : ctx.Valid)
    (hc : ctx.vhfHandle.isSome) (r : SetupRequest) : (ctx.ioDeviceControl r).1 = ctx := by
  have hh := ioDeviceControl_handled hv r
  have hn : ctx.vhfHandle ≠ none := Option.isSome_iff_ne_none.mp hc
  generalize (ctx.ioDeviceControl r).1 = ctx' at hh ⊢
  generalize (ctx.ioDeviceControl r).2 = reply at hh
  cases hh with
  | refused hs hr =>
    obtain rfl | ⟨-, h⟩ := hr
    · rfl
    · exact absurd h hn
  | deviceInfo _ _ h => exact absurd h hn
  | reportDescriptor _ _ _ h => exact absurd h hn
  | instanceId _ _ h => exact absurd h hn
  | hardwareIds _ _ h => exact absurd h hn
  | create hr hg => exact absurd (createRefused_eq_false hg).1 hn
  | start => rfl

end FileSetup

/-- The set-up requests made on a new file one after the other, with their replies. -/
def setupLog (rs : List SetupRequest) : List (SetupRequest × SetupReply) :=
  Replies.log FileSetup.ioDeviceControl .initial rs

def setupAfter (rs : List SetupRequest) : FileSetup :=
  Replies.after FileSetup.ioDeviceControl .initial rs

theorem setup_configured (rs : List SetupRequest) :
    (setupAfter rs).Configured (setupLog rs) :=
  Replies.invariant FileSetup.initial_configured (fun _ _ r h => h.next r) rs

/-- The requests of a run that are left when the failed configuration requests are deleted. -/
def effectiveRequests (rs : List SetupRequest) : List SetupRequest :=
  ((setupLog rs).filter fun e => !failedConfiguration e).map Prod.fst

theorem setupLog_effectiveRequests (rs : List SetupRequest) :
    setupLog (effectiveRequests rs) = (setupLog rs).filter fun e => !failedConfiguration e := by
  refine Replies.log_filter (R := fun s t => s.Valid ∧ s.core = t.core) ?_ ?_
    ⟨FileSetup.initial_valid, rfl⟩ rs
  · rintro s t r ⟨hv, hc⟩ hd
    exact ⟨(FileSetup.ioDeviceControl_handled hv r).valid hv,
      (FileSetup.core_of_failedConfiguration hv hd).trans hc⟩
  · rintro s t r ⟨hv, hc⟩ -
    obtain ⟨hs, hs'⟩ := s.ioDeviceControl_core r
    obtain ⟨ht, ht'⟩ := t.ioDeviceControl_core r
    rw [hc] at hs hs'
    exact ⟨ht.symm.trans hs, (FileSetup.ioDeviceControl_handled hv r).valid hv,
      hs'.symm.trans ht'⟩

theorem setupAfter_created {rs : List SetupRequest} (hc : (setupAfter rs).vhfHandle.isSome)
    (rs' : List SetupRequest) : setupAfter (rs ++ rs') = setupAfter rs := by
  induction rs' using List.reverseRecOn with
  | nil => rw [List.append_nil]
  | append_singleton rs' r ih =>
    have hlast : setupAfter (rs ++ (rs' ++ [r])) =
        ((setupAfter (rs ++ rs')).ioDeviceControl r).1 := by
      rw [← List.append_assoc]
      exact Replies.after_append _ _ [r]
    rw [hlast, ih]
    exact FileSetup.ioDeviceControl_created (setup_configured rs).valid hc r

/-- What a `CREATE_DEVICE` that calls `VhfCreate` passes to it. -/
theorem created_config {rs : List SetupRequest} {r : SetupRequest} {config : VhfConfig}
    (h : ((setupAfter rs).ioDeviceControl r).2.created = some config) :
    config = (setupAfter rs).vhfConfig ∧ (setupAfter rs).createRefused = false := by
  have hh := FileSetup.ioDeviceControl_handled (setup_configured rs).valid r
  generalize ((setupAfter rs).ioDeviceControl r).1 = ctx' at hh
  generalize ((setupAfter rs).ioDeviceControl r).2 = reply at hh h
  cases hh with
  | create hr hg => exact ⟨(Option.some.inj h).symm, hg⟩
  | _ => cases h

/-- Set-up of one file, its requests handled one at a time. -/
theorem setup_requests :
    (∀ rs, setupLog (effectiveRequests rs) =
      (setupLog rs).filter fun e => !failedConfiguration e) ∧
    (∀ rs r config, ((setupAfter rs).ioDeviceControl r).2.created = some config →
      ∃ info descriptor fits,
        accepted .setDeviceInfo (setupLog rs) = [info] ∧
        config.DescribedBy info.bytes ∧
        accepted .setReportDescriptor (setupLog rs) = [descriptor] ∧
        config.reportDescriptor = some descriptor.bytes ∧
        config.reportDescriptorLength.toNat = descriptor.bytes.length ∧
        parseReportDescriptor ⟨descriptor.bytes, fits⟩ = .ok (setupAfter rs).reports ∧
        (accepted .setInstanceId (setupLog rs)).map InputBuffer.bytes = config.instanceID.toList ∧
        (accepted .setHardwareIds (setupLog rs)).map InputBuffer.bytes =
          config.hardwareIDs.toList) ∧
    ∀ rs rs', (setupAfter rs).vhfHandle.isSome →
      (setupAfter (rs ++ rs')).vhfConfig = (setupAfter rs).vhfConfig ∧
        (setupAfter (rs ++ rs')).reports = (setupAfter rs).reports := by
  refine ⟨setupLog_effectiveRequests, ?_, ?_⟩
  · intro rs r config h
    obtain ⟨rfl, hg⟩ := created_config h
    have hc := setup_configured rs
    obtain ⟨bytes, hb⟩ := Option.isSome_iff_exists.mp (hc.valid.descriptor_of_create hg)
    obtain ⟨fits, hlen, hp⟩ := hc.parsed bytes hb
    have hd := hc.descriptor
    rw [hb, Option.toList_some] at hd
    obtain ⟨descriptor, hone, rfl⟩ := List.map_eq_singleton_iff.mp hd
    obtain ⟨hset, -⟩ | ⟨-, info, hi, hwhole, hu, hw⟩ := hc.info
    · exact absurd (hset.symm.trans (FileSetup.createRefused_eq_false hg).2.2) nofun
    · exact ⟨info, descriptor, fits, hi, .of_setInfo hw hwhole hu, hone, hb, hlen, hp,
        hc.instanceID, hc.hardwareIDs⟩
  · intro rs rs' h
    rw [setupAfter_created h]
    exact ⟨rfl, rfl⟩

/-- Vendor 0x045E, product 0x0823, version 0x0105, a container ID, and the events of outputs and
reads. -/
def setupInfo : List UInt8 :=
  [1, 0, 0, 0, 0x0C, 0, 0, 0, 0x5E, 0x04, 0x23, 0x08, 0x05, 0x01, 0xAA, 0xAA,
    16, 17, 18, 19, 20, 21, 22, 23, 24, 25, 26, 27, 28, 29, 30, 31]

/-- A truncated info, the device info, a truncated descriptor, a descriptor with one input report of
four bytes, and another device info. -/
def setupSession : List SetupRequest :=
  [{ ioctl := .setDeviceInfo, buffer := ⟨setupInfo.take 31, fun _ => 0⟩ },
    { ioctl := .setDeviceInfo, buffer := ⟨setupInfo, fun _ => 0⟩ },
    { ioctl := .setReportDescriptor, buffer := ⟨[0x75, 0x08, 0x95], fun _ => 0⟩ },
    { ioctl := .setReportDescriptor, buffer := ⟨[0x75, 0x08, 0x95, 0x04, 0x81, 0x02], fun _ => 0⟩ },
    { ioctl := .setDeviceInfo, buffer := ⟨List.replicate 32 0, fun _ => 0⟩ }]

def createRequest : SetupRequest := { ioctl := .createDevice, buffer := ⟨[], fun _ => 0⟩ }

/-- What the session creates its device with. -/
def sessionConfig : VhfConfig where
  vhfClientContext := true
  vendorID := 0x045E
  productID := 0x0823
  versionNumber := 0x0105
  containerID := [16, 17, 18, 19, 20, 21, 22, 23, 24, 25, 26, 27, 28, 29, 30, 31]
  evtVhfAsyncOperationGetFeature := false
  evtVhfAsyncOperationSetFeature := false
  evtVhfAsyncOperationWriteReport := true
  evtVhfReadyForNextReadReport := true
  evtVhfAsyncOperationGetInputReport := true
  reportDescriptor := some [0x75, 0x08, 0x95, 0x04, 0x81, 0x02]
  reportDescriptorLength := 6
  instanceID := none
  instanceIDLength := 0
  hardwareIDs := none
  hardwareIDsLength := 0

theorem setup_requests_session :
    (setupLog setupSession).map (fun e => e.2.status) =
      [statusBufferTooSmall, statusSuccess, statusInvalidParameter, statusSuccess,
        statusInvalidDeviceState] ∧
    ((setupAfter setupSession).ioDeviceControl createRequest).2.created = some sessionConfig ∧
    sessionConfig.DescribedBy setupInfo ∧
    ∀ rs', (setupAfter (setupSession ++ [createRequest] ++ rs')).vhfConfig = sessionConfig := by
  have hcreated : ((setupAfter setupSession).ioDeviceControl createRequest).2.created =
      some sessionConfig := by rfl
  obtain ⟨info, -, -, hi, hd, -⟩ := setup_requests.2.1 setupSession createRequest _ hcreated
  have hinfo : (accepted .setDeviceInfo (setupLog setupSession)).map InputBuffer.bytes =
      [setupInfo] := by rfl
  rw [hi] at hinfo
  refine ⟨by rfl, hcreated, ?_, fun rs' => ?_⟩
  · rw [← List.singleton_inj.mp hinfo]
    exact hd
  · exact (setup_requests.2.2 _ rs' (by rfl)).1.trans (by rfl)

end WinUHid
