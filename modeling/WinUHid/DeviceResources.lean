import WinUHid.DeviceCreation
import WinUHid.Runs

namespace WinUHid

open CheckedCall

/-- The log accounts for what the variables say. -/
def SdkClient.Accounts (s : SdkClient) : Prop := ResourceCall.Accounted SdkResource.uses s.calls s.owns s.runs

namespace SdkClient.Accounts

variable {s t : SdkClient} {r : SdkResource}

theorem use (h : s.Accounts) (own : s.owns r = true) : (s.called (.use r)).Accounts :=
  ResourceCall.Accounted.use h own

theorem acquire (h : s.Accounts) (r : SdkResource) (free : s.owns r = false)
    (thread : r.isThread = false) (log : t.calls = s.calls ++ [.acquire r])
    (owns : ∀ q, t.owns q = (r = q || s.owns q)) : t.Accounts := by
  have next := ResourceCall.Accounted.acquireIdle h free thread owns
  rwa [← log] at next

theorem release (h : s.Accounts) (r : SdkResource) (own : s.owns r = true)
    (thread : r.isThread = false) (unused : ∀ q, s.runs q = true → q.uses r = false)
    (log : t.calls = s.calls ++ [.release r]) (owns : ∀ q, t.owns q = (r ≠ q && s.owns q)) :
    t.Accounts := by
  have next := ResourceCall.Accounted.releaseIdle h own thread unused owns
  rwa [← log] at next

theorem startThread (h : s.Accounts) (r : SdkResource) (free : s.owns r = false)
    (thread : r.isThread = true) (log : t.calls = s.calls ++ [.acquire r] ++ [.start r])
    (owns : ∀ q, t.owns q = (r = q || s.owns q)) : t.Accounts := by
  have next := ResourceCall.Accounted.startThread h free thread owns
  rwa [← log] at next

theorem endThread (h : s.Accounts) (r : SdkResource) (own : s.owns r = true)
    (thread : r.isThread = true) (log : t.calls = s.calls ++ [.ended r] ++ [.release r])
    (owns : ∀ q, t.owns q = (r ≠ q && s.owns q)) : t.Accounts := by
  have alone : ∀ q, q ≠ r → q.isThread = true → q.uses r = false := by
    intro q other hq
    cases r <;> cases q <;> simp_all [SdkResource.uses, SdkResource.isThread]
  have next := ResourceCall.Accounted.endThread h own alone owns
  rwa [← log] at next

end SdkClient.Accounts

/-- The SDK holds these events of its own and this device. -/
structure Holding (overlapped privateEvent : Bool) (device : Option WinUHidDevice) (s : SdkClient) :
    Prop where
  accounts : s.Accounts
  overlappedEvent : s.overlappedEvent = overlapped
  privateEvent : s.privateEvent = privateEvent
  device : s.device = device

namespace Holding

variable {overlapped privateEvent : Bool} {device : Option WinUHidDevice} {s : SdkClient}
  {r : SdkResource}

theorem use (h : Holding overlapped privateEvent device s) (own : s.owns r = true) :
    Holding overlapped privateEvent device (s.called (.use r)) where
  accounts := h.accounts.use own
  overlappedEvent := h.overlappedEvent
  privateEvent := h.privateEvent
  device := h.device

theorem acquirePrivate (h : Holding overlapped false device s) :
    Holding overlapped true device
      { s.called (.acquire .privateEvent) with privateEvent := true } where
  accounts := h.accounts.acquire .privateEvent h.privateEvent rfl rfl (by rintro (_ | _) <;> rfl)
  overlappedEvent := h.overlappedEvent
  privateEvent := rfl
  device := h.device

theorem acquireOverlapped (h : Holding false privateEvent device s) :
    Holding true privateEvent device
      { s.called (.acquire .overlappedEvent) with overlappedEvent := true } where
  accounts := h.accounts.acquire .overlappedEvent h.overlappedEvent rfl rfl
    (by rintro (_ | _) <;> rfl)
  overlappedEvent := rfl
  privateEvent := h.privateEvent
  device := h.device

theorem releaseOverlapped (h : Holding true privateEvent device s) :
    Holding false privateEvent device
      { s.called (.release .overlappedEvent) with overlappedEvent := false } where
  accounts := h.accounts.release .overlappedEvent h.overlappedEvent rfl
    (by rintro (_ | _) _ <;> rfl) rfl (by rintro (_ | _) <;> rfl)
  overlappedEvent := rfl
  privateEvent := h.privateEvent
  device := h.device

theorem releasePrivate (h : Holding overlapped true device s) :
    Holding overlapped false device
      { s.called (.release .privateEvent) with privateEvent := false } where
  accounts := h.accounts.release .privateEvent h.privateEvent rfl (by rintro (_ | _) _ <;> rfl) rfl
    (by rintro (_ | _) <;> rfl)
  overlappedEvent := h.overlappedEvent
  privateEvent := rfl
  device := h.device

section Device

variable {d : WinUHidDevice} {f : WinUHidDevice → WinUHidDevice}

theorem owns_eq (h : Holding overlapped privateEvent (some d) s) (q : SdkResource) : s.owns q =
    (decide (q = .overlappedEvent) && overlapped || decide (q = .privateEvent) && privateEvent ||
      d.owns q) := by
  obtain ⟨-, rfl, rfl, hd⟩ := h
  cases q <;> simp [SdkClient.owns, WinUHidDevice.owns, hd]

theorem setDevice_owns (h : Holding overlapped privateEvent (some d) s)
    (calls : List (ResourceCall SdkResource)) (q : SdkResource) :
    ({ s with calls := calls }.setDevice f).owns q =
      (decide (q = .overlappedEvent) && overlapped || decide (q = .privateEvent) && privateEvent ||
        (f d).owns q) := by
  obtain ⟨-, rfl, rfl, hd⟩ := h
  cases q <;> simp [SdkClient.owns, SdkClient.setDevice, WinUHidDevice.owns, hd]

/-- A member that was not used yet gets its handle. -/
theorem acquireMember (h : Holding overlapped privateEvent (some d) s) (r : SdkResource)
    (free : s.owns r = false) (thread : r.isThread = false)
    (owns : ∀ q, (f d).owns q = (r = q || d.owns q)) :
    Holding overlapped privateEvent (some (f d)) ((s.called (.acquire r)).setDevice f) where
  accounts := by
    refine h.accounts.acquire r free thread rfl fun q => ?_
    rw [SdkClient.called, h.setDevice_owns, h.owns_eq, owns]
    ac_rfl
  overlappedEvent := h.overlappedEvent
  privateEvent := h.privateEvent
  device := by rw [SdkClient.setDevice, SdkClient.called, h.device]; rfl

theorem startThread (h : Holding overlapped privateEvent (some d) s) (r : SdkResource)
    (free : s.owns r = false) (thread : r.isThread = true)
    (owns : ∀ q, (f d).owns q = (r = q || d.owns q)) :
    Holding overlapped privateEvent (some (f d))
      (((s.called (.acquire r)).called (.start r)).setDevice f) where
  accounts := by
    refine h.accounts.startThread r free thread rfl fun q => ?_
    rw [SdkClient.called, SdkClient.called, h.setDevice_owns, h.owns_eq, owns]
    ac_rfl
  overlappedEvent := h.overlappedEvent
  privateEvent := h.privateEvent
  device := by rw [SdkClient.setDevice, SdkClient.called, SdkClient.called, h.device]; rfl

theorem quiet (h : Holding overlapped privateEvent (some d) s) (events : d.eventThread = false)
    (reads : d.readThread = false) (q r : SdkResource) (runs : s.runs q = true) :
    q.uses r = false := by
  rw [SdkClient.runs, h.owns_eq] at runs
  cases q <;> simp [SdkResource.isThread, WinUHidDevice.owns, events, reads] at runs

/-- A member is given back, if it has a handle, when no thread runs. -/
theorem closeMember (h : Holding overlapped privateEvent (some d) s) (r : SdkResource)
    (events : d.eventThread = false) (reads : d.readThread = false) (member : s.owns r = d.owns r)
    (thread : r.isThread = false) (owns : ∀ q, (f d).owns q = (r ≠ q && d.owns q)) :
    Holding overlapped privateEvent (some (if d.owns r then f d else d)) (s.closeMember r f) := by
  rw [SdkClient.closeMember, member]
  split
  next own =>
    refine ⟨?_, h.overlappedEvent, h.privateEvent, ?_⟩
    · refine h.accounts.release r (member.trans own) thread
        (fun q => h.quiet events reads q r) rfl fun q => ?_
      rw [SdkClient.called, h.setDevice_owns, h.owns_eq, owns]
      by_cases hq : r = q
      · subst hq
        cases r <;> simp [WinUHidDevice.owns] at own ⊢
      · simp [hq]
    · rw [SdkClient.setDevice, SdkClient.called, h.device]
      rfl
  next => exact h

theorem waitAndClose (h : Holding overlapped privateEvent (some d) s) (r : SdkResource)
    (member : s.owns r = d.owns r) (thread : r.isThread = true)
    (owns : ∀ q, (f d).owns q = (r ≠ q && d.owns q)) :
    Holding overlapped privateEvent (some (if d.owns r then f d else d)) (s.waitAndClose r f) := by
  rw [SdkClient.waitAndClose, member]
  split
  next own =>
    refine ⟨?_, h.overlappedEvent, h.privateEvent, ?_⟩
    · refine h.accounts.endThread r (member.trans own) thread rfl fun q => ?_
      rw [SdkClient.called, SdkClient.called, h.setDevice_owns, h.owns_eq, owns]
      by_cases hq : r = q
      · subst hq
        cases r <;> simp [SdkResource.isThread] at thread ⊢
      · simp [hq]
    · rw [SdkClient.setDevice, SdkClient.called, SdkClient.called, h.device]
      rfl
  next => exact h

theorem setState (h : Holding overlapped privateEvent (some d) s)
    (owns : ∀ q, (f d).owns q = d.owns q) :
    Holding overlapped privateEvent (some (f d)) (s.setDevice f) where
  accounts := by
    have same : ∀ q, (s.setDevice f).owns q = s.owns q := fun q => by
      rw [show s.setDevice f = ({ s with calls := s.calls }.setDevice f) from rfl, h.setDevice_owns,
        h.owns_eq, owns]
    refine ResourceCall.Accounted.congr h.accounts (fun q => (same q).symm) fun q => ?_
    rw [SdkClient.runs, SdkClient.runs, same]
  overlappedEvent := h.overlappedEvent
  privateEvent := h.privateEvent
  device := by rw [SdkClient.setDevice, h.device]; rfl

end Device

end Holding

namespace WinUHidDevice

/-- What holds of a device outside of the calls that start it: threads run only when it is started,
and what they or a pending event need is there. -/
structure Settled (d : WinUHidDevice) : Prop where
  eventThread : d.eventThread = true → d.state = .started
  readThread : d.readThread = true → d.state = .started
  throttled : d.readThread = true → d.throttlingTimer = true ∧ d.readReportReadyEvent = true
  started : d.state = .started → d.handle = .opened
  pending : d.pendingReadReportEvent = true → d.handle = .opened

/-- A device that `WinUHidCreateDevice` has returned. -/
structure Usable (d : WinUHidDevice) : Prop extends d.Settled where
  opened : d.handle = .opened
  paired : d.throttlingTimer = true → d.readReportReadyEvent = true

/-- What `WinUHidStopDevice` makes of a device. -/
def stopped (d : WinUHidDevice) : WinUHidDevice :=
  if d.state = .started then
    { d with state := .stopped, eventThread := false, readThread := false }
  else d

variable {d : WinUHidDevice}

theorem Settled.stopped (h : d.Settled) : d.stopped.Settled := by
  rw [WinUHidDevice.stopped]
  split
  next started => exact ⟨nofun, nofun, nofun, nofun, h.pending⟩
  next => exact h

theorem Usable.stopped (h : d.Usable) : d.stopped.Usable := by
  refine ⟨h.toSettled.stopped, ?_, ?_⟩
  · rw [WinUHidDevice.stopped]
    split <;> exact h.opened
  · rw [WinUHidDevice.stopped]
    split <;> exact h.paired

theorem Settled.eventThread_stopped (h : d.Settled) : d.stopped.eventThread = false := by
  rw [WinUHidDevice.stopped]
  split
  next => rfl
  next idle => exact Bool.eq_false_iff.mpr fun runs => idle (h.eventThread runs)

theorem Settled.readThread_stopped (h : d.Settled) : d.stopped.readThread = false := by
  rw [WinUHidDevice.stopped]
  split
  next => rfl
  next idle => exact Bool.eq_false_iff.mpr fun runs => idle (h.readThread runs)

end WinUHidDevice

namespace Holding

variable {overlapped privateEvent : Bool} {d : WinUHidDevice} {s : SdkClient}

theorem closeEventThread (h : Holding overlapped privateEvent (some d) s) :
    Holding overlapped privateEvent (some { d with eventThread := false }) s.closeEventThread := by
  have closed := h.waitAndClose (f := ({ · with eventThread := false })) .eventThread
    (by rw [h.owns_eq]; rfl) rfl (by rintro (_ | _) <;> rfl)
  have same : (if d.owns .eventThread then { d with eventThread := false } else d) =
      { d with eventThread := false } := by
    obtain ⟨_, _, eventThread, _, _, _, _⟩ := d
    cases eventThread <;> rfl
  rwa [same] at closed

theorem closeReadThread (h : Holding overlapped privateEvent (some d) s) :
    Holding overlapped privateEvent (some { d with readThread := false })
      (s.waitAndClose .readThread ({ · with readThread := false })) := by
  have closed := h.waitAndClose (f := ({ · with readThread := false })) .readThread
    (by rw [h.owns_eq]; rfl) rfl (by rintro (_ | _) <;> rfl)
  have same : (if d.owns .readThread then { d with readThread := false } else d) =
      { d with readThread := false } := by
    obtain ⟨_, _, _, readThread, _, _, _⟩ := d
    cases readThread <;> rfl
  rwa [same] at closed

theorem winUHidStopDevice (h : Holding overlapped privateEvent (some d) s) (settled : d.Settled) :
    Holding overlapped privateEvent (some d.stopped) s.winUHidStopDevice := by
  rw [SdkClient.winUHidStopDevice, h.device, WinUHidDevice.stopped]
  dsimp only
  split
  next started =>
    have stopping := h.setState (f := ({ · with state := .stopped })) (by rintro (_ | _) <;> rfl)
    have opened : (s.setDevice ({ · with state := .stopped })).owns .handle = true := by
      rw [stopping.owns_eq]
      simp [WinUHidDevice.owns, settled.started started]
    have ended := (stopping.use opened).closeEventThread
    generalize hs : (((s.setDevice ({ · with state := .stopped })).called
      (.use .handle)).closeEventThread) = mid at ended ⊢
    have reads : mid.owns .readThread = d.readThread := by
      rw [ended.owns_eq]
      rfl
    rw [reads]
    split
    next runs =>
      obtain ⟨timer, ready⟩ := settled.throttled runs
      have signalled := ended.use (r := .readReportReadyEvent) (by rw [ended.owns_eq]; exact ready)
      have armed := signalled.use (r := .throttlingTimer) (by rw [signalled.owns_eq]; exact timer)
      exact armed.closeReadThread
    next idle =>
      have none : d.readThread = false := Bool.eq_false_iff.mpr idle
      rwa [none] at ended
  next => exact h

/-- A call without an event of the caller has one of its own as long as it takes. -/
theorem withPrivateEvent {device : Option WinUHidDevice} {c : CheckedCall SdkClient}
    (createEvent : Bool) (h : Holding overlapped false device s)
    (uses : ∀ t, Holding overlapped true device t → Holding overlapped true device (c t).2) :
    Holding overlapped false device (SdkClient.withPrivateEvent createEvent c s).2 := by
  rw [SdkClient.withPrivateEvent]
  split
  · exact h
  · exact (uses _ h.acquirePrivate).releasePrivate

theorem completePending (createEvent : Bool) (h : Holding overlapped false (some d) s)
    (opened : d.pendingReadReportEvent = true → d.handle = .opened) :
    Holding overlapped false (some { d with pendingReadReportEvent := false })
      (s.completePending createEvent) := by
  rw [SdkClient.completePending, h.device, Option.any_some]
  split
  next pending =>
    have completed := h.withPrivateEvent (c := fun s => (true, s.called (.use .handle)))
      createEvent fun t ht =>
        ht.use (by rw [ht.owns_eq]; simp [WinUHidDevice.owns, opened pending])
    exact completed.setState (f := ({ · with pendingReadReportEvent := false }))
      (by rintro (_ | _) <;> rfl)
  next none =>
    obtain ⟨_, _, _, _, _, _, pending⟩ := d
    cases pending with
    | true => exact absurd rfl none
    | false => exact h

/-- Nothing else may be held of the device that is freed. -/
theorem heapFree (h : Holding overlapped privateEvent (some d) s)
    (rest : ∀ q, d.owns q = decide (q = .heapBlock)) :
    Holding overlapped privateEvent none s.heapFree where
  accounts := by
    refine h.accounts.release .heapBlock (by rw [h.owns_eq]; rfl) rfl
      (fun q => h.quiet (rest .eventThread) (rest .readThread) q _) rfl fun q => ?_
    rw [h.owns_eq, rest]
    obtain ⟨-, rfl, rfl, -⟩ := h
    cases q <;> simp [SdkClient.heapFree, SdkClient.owns, SdkClient.called]
  overlappedEvent := h.overlappedEvent
  privateEvent := h.privateEvent
  device := rfl

theorem closeTimer (h : Holding overlapped privateEvent (some d) s)
    (events : d.eventThread = false) (reads : d.readThread = false) :
    Holding overlapped privateEvent (some { d with throttlingTimer := false })
      (s.closeMember .throttlingTimer ({ · with throttlingTimer := false })) := by
  have closed := h.closeMember (f := ({ · with throttlingTimer := false })) .throttlingTimer
    events reads (by rw [h.owns_eq]; rfl) rfl (by rintro (_ | _) <;> rfl)
  have same : (if d.owns .throttlingTimer then { d with throttlingTimer := false } else d) =
      { d with throttlingTimer := false } := by
    obtain ⟨_, _, _, _, timer, _, _⟩ := d
    cases timer <;> rfl
  rwa [same] at closed

theorem closeReadyEvent (h : Holding overlapped privateEvent (some d) s)
    (events : d.eventThread = false) (reads : d.readThread = false) :
    Holding overlapped privateEvent (some { d with readReportReadyEvent := false })
      (s.closeMember .readReportReadyEvent ({ · with readReportReadyEvent := false })) := by
  have closed := h.closeMember (f := ({ · with readReportReadyEvent := false }))
    .readReportReadyEvent events reads (by rw [h.owns_eq]; rfl) rfl (by rintro (_ | _) <;> rfl)
  have same : (if d.owns .readReportReadyEvent then { d with readReportReadyEvent := false }
      else d) = { d with readReportReadyEvent := false } := by
    obtain ⟨_, _, _, _, _, ready, _⟩ := d
    cases ready <;> rfl
  rwa [same] at closed

/-- Whatever a device holds, nothing of it is left when it has been destroyed. -/
theorem winUHidDestroyDevice (createEvent : Bool) (h : Holding overlapped false (some d) s)
    (settled : d.Settled) :
    Holding overlapped false none (s.winUHidDestroyDevice createEvent) := by
  have events := settled.eventThread_stopped
  have reads := settled.readThread_stopped
  have opened := settled.stopped.pending
  have stopped := h.winUHidStopDevice settled
  rw [SdkClient.winUHidDestroyDevice, h.device]
  generalize d.stopped = d1 at *
  have completed := ((stopped.closeTimer events reads).closeReadyEvent events reads).completePending
    createEvent opened
  have closed := completed.closeMember (f := ({ · with handle := .null })) .handle events reads
    (by rw [completed.owns_eq]; rfl) rfl (by rintro (_ | _) <;> rfl)
  refine closed.heapFree fun q => ?_
  split
  next => cases q <;> simp [WinUHidDevice.owns, events, reads]
  next still =>
    have notOpened : (d1.handle == .opened) = false := Bool.eq_false_iff.mpr still
    cases q <;> simp [WinUHidDevice.owns, events, reads, notOpened]

end Holding

namespace SdkClient

variable {s : SdkClient} {d : WinUHidDevice} {config : DeviceConfig} {o : CreateOutcomes}

/-- What `Fail` may find. -/
def Failing (s : SdkClient) : Prop :=
  ∃ device, Holding true false device s ∧ ∀ d ∈ device, d.Settled

theorem failing_of_settled (h : Holding true false (some d) s) (settled : d.Settled) : s.Failing :=
  ⟨some d, h, fun _ hd => Option.mem_some_iff.mp hd ▸ settled⟩

theorem heapAlloc_meets (ok : Bool) : Meets (Holding true false none) (heapAlloc ok)
    (Holding true false (some {})) Failing := by
  intro s h
  cases ok with
  | false => exact ⟨none, h, nofun⟩
  | true =>
    refine ⟨?_, h.overlappedEvent, h.privateEvent, rfl⟩
    have free : s.owns .heapBlock = false := by
      show s.device.any _ = false
      rw [h.device]
      rfl
    refine h.accounts.acquire .heapBlock free rfl rfl fun q => ?_
    cases q with
    | overlappedEvent | privateEvent => rfl
    | _ => simp [heapAlloc, owns, called, h.device, WinUHidDevice.owns]

/-- A device as it is before it is started. -/
def createdDevice (throttled : Bool) (handle : HandleValue) : WinUHidDevice where
  handle := handle
  throttlingTimer := throttled
  readReportReadyEvent := throttled

theorem createdDevice_settled (throttled : Bool) (handle : HandleValue) :
    (createdDevice throttled handle).Settled := ⟨nofun, nofun, nofun, nofun, nofun⟩

theorem createWaitableTimer_meets (ok : Bool) : Meets (Holding true false (some {}))
    (createWaitableTimer ok) (Holding true false (some { throttlingTimer := true })) Failing := by
  intro s h
  cases ok with
  | false => exact failing_of_settled h (createdDevice_settled false .null)
  | true =>
    exact h.acquireMember (f := ({ · with throttlingTimer := true })) .throttlingTimer
      (by rw [h.owns_eq]; rfl) rfl (by rintro (_ | _) <;> rfl)

theorem createReadReportReadyEvent_meets (ok : Bool) :
    Meets (Holding true false (some { throttlingTimer := true })) (createReadReportReadyEvent ok)
      (Holding true false (some (createdDevice true .null))) Failing := by
  intro s h
  cases ok with
  | false => exact failing_of_settled h ⟨nofun, nofun, nofun, nofun, nofun⟩
  | true =>
    exact h.acquireMember (f := ({ · with readReportReadyEvent := true })) .readReportReadyEvent
      (by rw [h.owns_eq]; rfl) rfl (by rintro (_ | _) <;> rfl)

theorem createFile_meets (throttled ok : Bool) :
    Meets (Holding true false (some (createdDevice throttled .null))) (createFile ok)
      (Holding true false (some (createdDevice throttled .opened))) Failing := by
  intro s h
  cases ok with
  | false =>
    exact failing_of_settled
      (h.setState (f := ({ · with handle := .invalid })) (by rintro (_ | _) <;> rfl))
      (createdDevice_settled throttled .invalid)
  | true =>
    have opened := h.acquireMember (f := ({ · with handle := .opened })) .handle
      (by rw [h.owns_eq]; rfl) rfl (by rintro (_ | _) <;> rfl)
    exact ⟨opened.accounts, opened.overlappedEvent, opened.privateEvent, opened.device⟩

theorem allocationCalls_meets :
    Meets (Holding true false none) (inOrder (allocationCalls config o))
      (Holding true false (some (createdDevice config.throttled .opened))) Failing := by
  have opens := (createFile_meets config.throttled o.createFile).cons .nil
  have throttles : Meets (Holding true false (some {}))
      (inOrder (if config.throttled then
        [createWaitableTimer o.createWaitableTimer,
          createReadReportReadyEvent o.createReadReportReadyEvent] else []))
      (Holding true false (some (createdDevice config.throttled .null))) Failing := by
    split
    next throttled =>
      rw [throttled]
      exact (createWaitableTimer_meets _).cons ((createReadReportReadyEvent_meets _).cons .nil)
    next never =>
      rw [Bool.eq_false_iff.mpr never]
      exact .nil
  exact (Meets.append ((heapAlloc_meets _).cons .nil) throttles).append opens

variable {overlapped privateEvent : Bool}

theorem deviceIoControl_keeps (ioctl : SetupIoctl) (inBuffer : List UInt8) (io : IoctlOutcome)
    (opened : d.handle = .opened) (h : Holding overlapped privateEvent (some d) s) :
    Holding overlapped privateEvent (some d) (deviceIoControl ioctl inBuffer io s).2 := by
  have used := h.use (r := .handle) (by rw [h.owns_eq]; simp [WinUHidDevice.owns, opened])
  rw [deviceIoControl]
  dsimp only
  split
  · exact used
  · exact ⟨used.accounts, used.overlappedEvent, used.privateEvent, used.device⟩

theorem deviceIoControlWithEvent_keeps (ioctl : SetupIoctl) (inBuffer : List UInt8)
    (io : IoctlOutcome) (opened : d.handle = .opened) (h : Holding true privateEvent (some d) s) :
    Holding true privateEvent (some d) (deviceIoControlWithEvent ioctl inBuffer io s).2 :=
  deviceIoControl_keeps ioctl inBuffer io opened
    (h.use (r := .overlappedEvent) (by rw [h.owns_eq]; rfl))

theorem requestCalls_meets (opened : d.handle = .opened) :
    Meets (Holding true false (some d)) (inOrder (requestCalls config o))
      (Holding true false (some d)) (Holding true false (some d)) := by
  refine .of_keeps fun s h => inOrder_keeps (fun call hc s hs => ?_) h
  rw [requestCalls] at hc
  simp only [List.mem_append, List.mem_cons, List.mem_map, List.not_mem_nil, or_false] at hc
  obtain (((rfl | rfl) | ⟨bytes, -, rfl⟩) | ⟨bytes, -, rfl⟩) | rfl := hc
  all_goals exact deviceIoControlWithEvent_keeps _ _ _ opened hs

theorem creationCalls_meets (config : DeviceConfig) (o : CreateOutcomes) :
    Meets (Holding true false none) (inOrder (allocationCalls config o ++ requestCalls config o))
      (Holding true false (some (createdDevice config.throttled .opened))) Failing := by
  refine allocationCalls_meets.append ((requestCalls_meets rfl).weaken (fun _ => id)
    (fun _ => id) fun s h => ?_)
  exact failing_of_settled h (createdDevice_settled config.throttled .opened)

/-- `Fail` leaves nothing behind. -/
theorem Failing.winUHidDestroyDevice (h : s.Failing) (createEvent : Bool) :
    Holding true false none (s.winUHidDestroyDevice createEvent) := by
  obtain ⟨device, h, settled⟩ := h
  cases device with
  | none => rwa [SdkClient.winUHidDestroyDevice, h.device]
  | some d => exact h.winUHidDestroyDevice createEvent (settled d rfl)

theorem winUHidCreateDevice_holding (config : Option DeviceConfig)
    (h : Holding false false none s) :
    Holding false false
      (if (winUHidCreateDevice config o s).1 then
        config.map fun config => createdDevice config.throttled .opened else none)
      (winUHidCreateDevice config o s).2 := by
  cases config with
  | none => exact h
  | some config =>
    rw [winUHidCreateDevice]
    dsimp only
    split
    · exact h
    · split
      · exact h
      · have met := creationCalls_meets config o _ h.acquireOverlapped
        split at met
        next created =>
          rw [if_pos created, if_pos created]
          have released := met.releaseOverlapped
          exact ⟨released.accounts, rfl, released.privateEvent, released.device⟩
        next failed =>
          rw [if_neg failed, if_neg failed]
          have released := (met.winUHidDestroyDevice true).releaseOverlapped
          exact ⟨released.accounts, rfl, released.privateEvent, released.device⟩

/-- The threads that `WinUHidStartDevice` has created so far. -/
def Starting (d : WinUHidDevice) (s : SdkClient) : Prop :=
  ∃ eventThread readThread, Holding false false
    (some { d with eventThread := eventThread, readThread := readThread }) s

theorem createThread_meets {d' : WinUHidDevice} {f : WinUHidDevice → WinUHidDevice}
    (ok eventThread readThread : Bool) (thread : SdkResource) (isThread : thread.isThread = true)
    (free : d'.owns thread = false) (owns : ∀ q, (f d').owns q = (thread = q || d'.owns q))
    (so : d' = { d with eventThread := eventThread, readThread := readThread }) :
    Meets (Holding false false (some d')) (createThread thread f ok)
      (Holding false false (some (f d'))) (Starting d) := by
  intro s h
  cases ok with
  | false => exact ⟨eventThread, readThread, so ▸ h⟩
  | true =>
    refine h.startThread thread ?_ isThread owns
    rw [h.owns_eq, free]
    cases thread <;> rfl

theorem startCalls_meets (eventCallback : Bool) (o : StartOutcomes) (usable : d.Usable)
    (idle : d.state ≠ .started) :
    Meets (Holding false false (some d)) (inOrder (startCalls eventCallback d o))
      (Holding false false
        (some { d with eventThread := eventCallback, readThread := d.throttlingTimer }))
      (Starting d) := by
  have noEvents : d.eventThread = false :=
    Bool.eq_false_iff.mpr fun runs => idle (usable.eventThread runs)
  have noReads : d.readThread = false :=
    Bool.eq_false_iff.mpr fun runs => idle (usable.readThread runs)
  have opened := usable.opened
  clear usable idle
  obtain ⟨handle, state, eventThread, readThread, timer, ready, pending⟩ := d
  obtain rfl : eventThread = false := noEvents
  obtain rfl : readThread = false := noReads
  have events : Meets
      (Holding false false (some ⟨handle, state, false, false, timer, ready, pending⟩))
      (inOrder (if eventCallback then
        [createThread .eventThread ({ · with eventThread := true }) o.createEventThread] else []))
      (Holding false false (some ⟨handle, state, eventCallback, false, timer, ready, pending⟩))
      (Starting ⟨handle, state, false, false, timer, ready, pending⟩) := by
    cases eventCallback with
    | false => exact .nil
    | true =>
      exact (createThread_meets (d := ⟨handle, state, false, false, timer, ready, pending⟩)
        (f := ({ · with eventThread := true })) o.createEventThread false false .eventThread rfl rfl
        (by rintro (_ | _) <;> rfl) rfl).cons .nil
  have reads : Meets
      (Holding false false (some ⟨handle, state, eventCallback, false, timer, ready, pending⟩))
      (inOrder (if timer then
        [createThread .readThread ({ · with readThread := true }) o.createReadThread] else []))
      (Holding false false (some ⟨handle, state, eventCallback, timer, timer, ready, pending⟩))
      (Starting ⟨handle, state, false, false, timer, ready, pending⟩) := by
    cases timer with
    | false => exact .nil
    | true =>
      exact (createThread_meets (d := ⟨handle, state, false, false, true, ready, pending⟩)
        (f := ({ · with readThread := true })) o.createReadThread eventCallback false .readThread
        rfl rfl (by rintro (_ | _) <;> rfl) rfl).cons .nil
  have ioctl : Meets
      (Holding false false (some ⟨handle, state, eventCallback, timer, timer, ready, pending⟩))
      (withPrivateEvent o.startDevice.createEvent (deviceIoControl .startDevice [] o.startDevice))
      (Holding false false (some ⟨handle, state, eventCallback, timer, timer, ready, pending⟩))
      (Starting ⟨handle, state, false, false, timer, ready, pending⟩) := by
    refine (Meets.of_keeps fun s h => ?_).weaken (fun _ => id) (fun _ => id)
      fun s h => ⟨eventCallback, timer, h⟩
    exact h.withPrivateEvent _ fun t ht => deviceIoControl_keeps _ _ _ opened ht
  exact (events.append reads).append (ioctl.cons .nil)

/-- A state between two calls. -/
def Between (s : SdkClient) : Prop :=
  ∃ device, Holding false false device s ∧ ∀ d ∈ device, d.Usable

theorem between_none (h : Holding false false none s) : s.Between := ⟨none, h, nofun⟩

theorem between_some (h : Holding false false (some d) s) (usable : d.Usable) : s.Between :=
  ⟨some d, h, fun _ hd => Option.mem_some_iff.mp hd ▸ usable⟩

/-- A device that has been started, or one from which all that was begun is taken back. -/
theorem winUHidStartDevice_holding (eventCallback : Bool) (o : StartOutcomes)
    (h : Holding false false (some d) s) (usable : d.Usable) :
    ∃ d', Holding false false (some d') (winUHidStartDevice eventCallback o s).2 ∧ d'.Usable ∧
      ((winUHidStartDevice eventCallback o s).1 = true → d'.state = .started) := by
  rw [winUHidStartDevice, h.device]
  dsimp only
  split
  next => exact ⟨d, h, usable, nofun⟩
  next created =>
    have idle : d.state ≠ .started := by
      rw [not_not.mp created]
      nofun
    have met := startCalls_meets eventCallback o usable idle _ h
    split at met
    next started =>
      rw [if_pos started]
      have running := met.setState (f := ({ · with state := .started })) (by rintro (_ | _) <;> rfl)
      exact ⟨_, running,
        ⟨⟨fun _ => rfl, fun _ => rfl, fun reads => ⟨reads, usable.paired reads⟩,
          fun _ => usable.opened, usable.pending⟩, usable.opened, usable.paired⟩, fun _ => rfl⟩
    next failed =>
      rw [if_neg failed]
      obtain ⟨eventThread, readThread, unwinding⟩ := met
      exact ⟨_, unwinding.closeEventThread.closeReadThread,
        ⟨⟨nofun, nofun, nofun, fun _ => usable.opened, usable.pending⟩, usable.opened,
          usable.paired⟩, nofun⟩

theorem Between.create (h : s.Between) (none : s.device = none) (config : Option DeviceConfig) :
    (winUHidCreateDevice config o s).2.Between ∧
      (winUHidCreateDevice config o s).2.device.isSome = (winUHidCreateDevice config o s).1 := by
  obtain ⟨device, held, -⟩ := h
  obtain rfl : device = Option.none := held.device.symm.trans none
  have made := winUHidCreateDevice_holding (o := o) config held
  cases config with
  | none => exact ⟨between_none held, by rw [made.device]; rfl⟩
  | some config =>
    split at made
    next created =>
      exact ⟨between_some made ⟨createdDevice_settled config.throttled .opened, rfl, id⟩,
        by rw [made.device, created]; rfl⟩
    next failed => exact ⟨between_none made, by rw [made.device, Bool.eq_false_iff.mpr failed]; rfl⟩

theorem Between.start (h : s.Between) (eventCallback : Bool) (o : StartOutcomes) :
    (winUHidStartDevice eventCallback o s).2.Between ∧
      (winUHidStartDevice eventCallback o s).2.device.isSome = s.device.isSome ∧
      ((winUHidStartDevice eventCallback o s).1 = true →
        ∃ d, (winUHidStartDevice eventCallback o s).2.device = some d ∧ d.state = .started) := by
  obtain ⟨device, held, usable⟩ := h
  cases device with
  | none =>
    have same : winUHidStartDevice eventCallback o s = (false, s) := by
      rw [winUHidStartDevice, held.device]
    rw [same]
    exact ⟨between_none held, rfl, nofun⟩
  | some d =>
    obtain ⟨d', held', usable', started⟩ :=
      winUHidStartDevice_holding eventCallback o held (usable d rfl)
    refine ⟨between_some held' usable', ?_, fun ok => ⟨d', held'.device, started ok⟩⟩
    rw [held'.device, held.device]
    rfl

theorem Between.destroy (h : s.Between) (createEvent : Bool) :
    (s.winUHidDestroyDevice createEvent).Between ∧
      (s.winUHidDestroyDevice createEvent).device = none := by
  obtain ⟨device, held, usable⟩ := h
  cases device with
  | none =>
    have same : s.winUHidDestroyDevice createEvent = s := by
      rw [winUHidDestroyDevice, held.device]
      rfl
    rw [same]
    exact ⟨between_none held, held.device⟩
  | some d =>
    have gone := held.winUHidDestroyDevice createEvent (usable d rfl).toSettled
    exact ⟨between_none gone, gone.device⟩

theorem Between.setPending (pending : Bool) (h : s.Between) :
    (s.setDevice ({ · with pendingReadReportEvent := pending })).Between := by
  obtain ⟨device, h, usable⟩ := h
  cases device with
  | none =>
    have same : s.setDevice ({ · with pendingReadReportEvent := pending }) = s := by
      rw [setDevice, h.device]
      obtain ⟨-, -, -, hd⟩ := h
      cases s
      cases hd
      rfl
    rw [same]
    exact between_none h
  | some d =>
    have now := usable d rfl
    exact between_some
      (h.setState (f := ({ · with pendingReadReportEvent := pending })) (by rintro (_ | _) <;> rfl))
      ⟨⟨now.eventThread, now.readThread, now.throttled, now.started, fun _ => now.opened⟩,
        now.opened, now.paired⟩

theorem Between.step {a : SdkCall} {s' : SdkClient} (h : s.Between) (hs : s.step a = some s') :
    s'.Between := by
  cases a with
  | create config o =>
    rw [SdkClient.step] at hs
    split at hs
    next none =>
      obtain rfl := Option.some.inj hs
      exact (h.create (Option.isNone_iff_eq_none.mp none) config).1
    next => cases hs
  | start eventCallback o =>
    obtain rfl := Option.some.inj hs
    exact (h.start eventCallback o).1
  | stop =>
    obtain rfl := Option.some.inj hs
    obtain ⟨device, held, usable⟩ := h
    cases device with
    | none =>
      rw [winUHidStopDevice, held.device]
      exact between_none held
    | some d =>
      exact between_some (held.winUHidStopDevice (usable d rfl).toSettled) (usable d rfl).stopped
  | destroy createEvent =>
    obtain rfl := Option.some.inj hs
    exact (h.destroy createEvent).1
  | readyForRead =>
    rw [SdkClient.step] at hs
    split at hs
    next =>
      obtain rfl := Option.some.inj hs
      exact h.setPending true
    next => cases hs
  | takePending =>
    rw [SdkClient.step] at hs
    split at hs
    next =>
      obtain rfl := Option.some.inj hs
      exact h.setPending false
    next => cases hs

/-- What the SDK does with handles, memory and threads. -/
structure Balanced (s : SdkClient) : Prop where
  disciplined : ResourceCall.Disciplined SdkResource.uses s.calls
  device : ∀ d, s.device = some d → ∀ r, ResourceCall.held s.calls r = d.owns r
  nothing : s.device = none → ∀ r, ResourceCall.held s.calls r = false
  threads : ∀ r, ResourceCall.running s.calls r = true →
    ∃ d, s.device = some d ∧ d.state = .started ∧ d.owns r = true

theorem Between.balanced (h : s.Between) : s.Balanced := by
  obtain ⟨device, held, usable⟩ := h
  have owned : ∀ r, s.owns r = device.any (·.owns r) := by
    intro r
    obtain ⟨-, overlapped, privateEvent, rfl⟩ := held
    cases r with
    | overlappedEvent | privateEvent => cases hd : s.device <;> simp_all [owns, WinUHidDevice.owns]
    | _ => rfl
  refine ⟨held.accounts.disciplined, fun d hd r => ?_, fun none r => ?_, fun r runs => ?_⟩
  · rw [held.accounts.held, owned, ← held.device, hd]
    rfl
  · rw [held.accounts.held, owned, ← held.device, none]
    rfl
  · rw [held.accounts.running, SdkClient.runs, Bool.and_eq_true, owned] at runs
    obtain ⟨thread, own⟩ := runs
    cases device with
    | none => cases own
    | some d =>
      refine ⟨d, held.device, ?_, own⟩
      cases r with
      | eventThread => exact (usable d rfl).eventThread own
      | readThread => exact (usable d rfl).readThread own
      | _ => cases thread

theorem between_of_reach (h : Runs.Reach step Runs.anyStep (fun s => s = {}) s) : s.Between := by
  induction h with
  | start hi =>
    subst hi
    exact between_none ⟨⟨.nil, by rintro (_ | _) <;> rfl, by rintro (_ | _) <;> rfl⟩, rfl, rfl, rfl⟩
  | next _ _ hs ih => exact ih.step hs

/-- Whatever a program does with one device, and whichever calls into the system fail, each handle
and the device's block of memory are used only while they are held and given back once. Between two
calls just what belongs to the device is held, and threads run only while it is started. -/
theorem sdk_balanced (h : Runs.Reach step Runs.anyStep (fun s => s = {}) s) : s.Balanced :=
  (between_of_reach h).balanced

/-- A throttled device whose descriptor is one byte: `Input` without data. -/
def oneItem : DeviceConfig where
  supportedEvents := 8
  vendorID := 0
  productID := 0
  versionNumber := 0
  reportDescriptorLength := 1
  reportDescriptor := some [0x80]
  containerId := List.replicate 16 0
  instanceID := none
  hardwareIDs := none
  readReportPeriodUs := 1000
  sizeofGuid := rfl
  readable_reportDescriptor := by simp
  readable_instanceID := nofun
  readable_hardwareIDs := nofun

/-- It is destroyed while a read request is pending. -/
def oneLife : List SdkCall :=
  [.create (some oneItem) {}, .start true {}, .readyForRead, .destroy true]

theorem sdk_balanced_oneLife :
    ∃ s : SdkClient, s.device.isNone = true ∧ s.calls.length = 33 ∧ s.Balanced := by
  have reached : ∃ s, Runs.Reach step Runs.anyStep (fun s => s = {}) s ∧
      s.device.isNone = true ∧ s.calls.length = 33 :=
    Runs.exists_reach_of_run step Runs.anyStep (by rfl) oneLife (by decide)
  obtain ⟨s, reach, gone, calls⟩ := reached
  exact ⟨s, gone, calls, sdk_balanced reach⟩

end SdkClient

end WinUHid
