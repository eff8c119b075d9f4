import WinUHid.EventSizes
import WinUHid.SdkDevice

namespace WinUHid

/-- The next operation of a `WinUHidPollEvent` call, with its local `bufferSize`. -/
inductive PollProc where
  | createEvent
  | heapAlloc
  /-- about to check the state and issue the IOCTL, at the head of the loop -/
  | issue (bufferSize : UInt32)
  | getResult (bufferSize : UInt32) (request : IoRequest)
  /-- about to take the lock with the doubled size -/
  | raiseHint (bufferSize : UInt32)
  | heapReAlloc (bufferSize : UInt32)
  | returned (event : Bool)
  deriving DecidableEq

/-- A call of `WinUHidPollEvent`: `bufferSizes` are the sizes that its `bufferSize` has had, the
latest first. -/
structure PollCall where
  proc : PollProc
  bufferSizes : List UInt32
  deriving DecidableEq

/-- How often the buffer was resized. -/
def PollCall.resizes (c : PollCall) : Nat := c.bufferSizes.length - 1

/-- How the calls that `WinUHidPollEvent` makes into the system end. -/
structure PollCalls where
  createEvent : Bool := true
  heapAlloc : Bool := true
  /-- The IOCTL gets as far as the driver. -/
  requestIssued : Bool := true
  timedOut : Bool := false
  heapReAlloc : Bool := true

/-- A device as its polling threads use it: the file object behind `Device->Handle`, and the two
fields under `Device->Lock`. -/
structure PolledDevice where
  file : FilePool
  state : DeviceState
  eventBufferSizeHint : UInt32

/-- A device that `WinUHidCreateDevice` made. -/
def PolledDevice.created (reports : ParsedReports) : PolledDevice where
  file := ⟨.created reports, []⟩
  state := .created
  eventBufferSizeHint := 128

def Effect.completionOf (request : IoRequest) : Effect → Option NTSTATUS
  | .requestComplete r status _ _ => if r = request then some status else none
  | _ => none

/-- `GetOverlappedResultEx`: the status of the request once it has been completed. -/
def PolledDevice.overlappedResult (d : PolledDevice) (request : IoRequest) : Option NTSTATUS :=
  (effectsOf d.file.shared.trace).findSome? (Effect.completionOf request)

/-- The next operation of a `WinUHidPollEvent` call. `Device->Lock` is held shared where the hint
and the state are read, and the comparison with the hint and the assignment are one step because
it is held exclusively for them. -/
def PollCall.step (calls : PollCalls) (d : PolledDevice) (c : PollCall) :
    PolledDevice × List PollCall :=
  match c.proc with
  | .createEvent =>
    if calls.createEvent then (d, [{ c with proc := .heapAlloc }])
    else (d, [{ c with proc := .returned false }])
  | .heapAlloc =>
    let bufferSize := d.eventBufferSizeHint
    if calls.heapAlloc then (d, [⟨.issue bufferSize, [bufferSize]⟩])
    else (d, [⟨.returned false, [bufferSize]⟩])
  | .issue bufferSize =>
    if d.state ≠ .started then (d, [{ c with proc := .returned false }])
    else if calls.requestIssued then
      let request := d.file.shared.nextRequest
      let file := FilePool.request d.file fun r => .getNextEvent ⟨r, bufferSize.toNat⟩
      ({ d with file }, [{ c with proc := .getResult bufferSize request }])
    else (d, [{ c with proc := .returned false }])
  | .getResult bufferSize request =>
    match d.overlappedResult request with
    | none => (d, [c])
    | some status =>
      if ntSuccess status then (d, [{ c with proc := .returned true }])
      -- after the timeout the cancelled request is waited for, and any failure is the timeout's
      else if calls.timedOut then (d, [{ c with proc := .returned false }])
      -- ERROR_INSUFFICIENT_BUFFER
      else if status = statusBufferTooSmall then
        (d, [{ c with proc := .raiseHint (bufferSize * 2) }])
      else (d, [{ c with proc := .returned false }])
  | .raiseHint bufferSize =>
    if d.eventBufferSizeHint < bufferSize then
      ({ d with eventBufferSizeHint := bufferSize },
        [⟨.heapReAlloc bufferSize, bufferSize :: c.bufferSizes⟩])
    else
      let bufferSize := d.eventBufferSizeHint
      (d, [⟨.heapReAlloc bufferSize, bufferSize :: c.bufferSizes⟩])
  | .heapReAlloc bufferSize =>
    if calls.heapReAlloc then (d, [{ c with proc := .issue bufferSize }])
    else (d, [{ c with proc := .returned false }])
  | .returned _ => (d, [c])

abbrev PollPool := Pool PolledDevice PollCall

/-- What can happen next to a device: it is started or stopped, a thread enters
`WinUHidPollEvent` or takes a step in it, or something happens to the file object. -/
inductive PollAction where
  | startDevice
  | stopDevice
  | pollEvent
  | run (i : Nat) (calls : PollCalls)
  | file (a : Action)

def pollStep (p : PollPool) : PollAction → Option PollPool
  | .startDevice =>
    if p.shared.state = .created then some ⟨{ p.shared with state := .started }, p.threads⟩
    else none
  | .stopDevice =>
    if p.shared.state = .started then some ⟨{ p.shared with state := .stopped }, p.threads⟩
    else none
  | .pollEvent => some (p.spawn p.shared ⟨.createEvent, []⟩)
  | .run i calls => p.run (PollCall.step calls) i
  | .file a => (fileStep p.shared.file a).map fun file => ⟨{ p.shared with file }, p.threads⟩

/-- The driver framework keeps to its documentation. -/
def Documented (p : PollPool) : PollAction → Prop
  | .file a => onRun Framework.Documented p.shared.file a
  | _ => True

instance (p : PollPool) : ∀ a, Decidable (Documented p a)
  | .file a => inferInstanceAs (Decidable (onRun Framework.Documented p.shared.file a))
  | .startDevice | .stopDevice | .pollEvent | .run _ _ => .isTrue trivial

/-- States of a device with these report sizes and of the threads in `WinUHidPollEvent` on it. -/
def PollReach (reports : ParsedReports) : PollPool → Prop :=
  Runs.Reach pollStep Documented fun p => p = ⟨.created reports, []⟩

/-- The sizes a buffer can have: the first one, doubled at most 23 times. -/
def IsBufferSize (n : UInt32) : Prop := ∃ k ≤ 23, n.toNat = 128 * 2 ^ k

/-- How the buffer of a call has grown: each size is at least twice the one before, the product
did not wrap, and no size was given up in which every event fits. -/
structure BufferGrowth (reports : ParsedReports) (c : PollCall) : Prop where
  doubles : c.bufferSizes.Pairwise fun later earlier => 2 * earlier.toNat ≤ later.toNat
  sizes : ∀ n ∈ c.bufferSizes, IsBufferSize n
  product : ∀ n, c.proc = .raiseHint n → ∃ m ∈ c.bufferSizes.head?, n.toNat = 2 * m.toNat
  needed : ∀ n ∈ c.bufferSizes.tail, ¬reports.EveryEventFits n.toNat

/-- What a call knows between its operations. -/
def PollCall.Tracks (reports : ParsedReports) (file : FilePool) (c : PollCall) : Prop :=
  match c.proc with
  | .createEvent | .heapAlloc => c.bufferSizes = []
  | .issue n | .heapReAlloc n => ∃ earlier, c.bufferSizes = n :: earlier
  | .getResult n request => (∃ earlier, c.bufferSizes = n :: earlier) ∧
      (reports.EveryEventFits n.toNat → FilePool.Unrefused file request n.toNat)
  | .raiseHint n => IsBufferSize n ∧ ∃ m earlier, c.bufferSizes = m :: earlier ∧
      n.toNat = 2 * m.toNat ∧ ¬reports.EveryEventFits m.toNat
  | .returned _ => True

structure PollCall.Sound (reports : ParsedReports) (d : PolledDevice) (c : PollCall) : Prop where
  growth : BufferGrowth reports c
  bounded : ∀ n ∈ c.bufferSizes, n ≤ d.eventBufferSizeHint
  tracks : c.Tracks reports d.file

/-- The hint does not fall, and a request for which every event fits stays unrefused. -/
structure PolledDevice.Advances (reports : ParsedReports) (d d' : PolledDevice) : Prop where
  hint : d.eventBufferSizeHint ≤ d'.eventBufferSizeHint
  unrefused : ∀ request n, reports.EveryEventFits n → FilePool.Unrefused d.file request n →
    FilePool.Unrefused d'.file request n

theorem PollCall.Sound.advance {reports : ParsedReports} {d d' : PolledDevice} {c : PollCall}
    (h : c.Sound reports d) (ha : d.Advances reports d') : c.Sound reports d' := by
  obtain ⟨growth, bounded, tracks⟩ := h
  refine ⟨growth, fun n hn => UInt32.le_trans (bounded n hn) ha.hint, ?_⟩
  obtain ⟨proc, sizes⟩ := c
  cases proc with
  | getResult n request =>
    exact ⟨tracks.1, fun hfits => ha.unrefused _ _ hfits (tracks.2 hfits)⟩
  | _ => exact tracks

/-- No event of a reached file is larger than the report sizes say. -/
theorem fits_of_reached {reports : ParsedReports} {file : FilePool}
    (h : FileReach Runs.anyStep reports file) {n : Nat} (hn : reports.EveryEventFits n) :
    ∀ op ∈ file.shared.ctx.operations, Fits op n := by
  intro op hop
  refine fits_of_issued ((operations_issued h).1 op hop) ?_
  rwa [reports_constant h]

theorem fileStep_unrefused {reports : ParsedReports} {file file' : FilePool} {a : Action}
    (h : FileReach Runs.anyStep reports file) (hdoc : onRun Framework.Documented file a)
    (hs : fileStep file a = some file') {request : IoRequest} {n : Nat}
    (hn : reports.EveryEventFits n) (hu : FilePool.Unrefused file request n) :
    FilePool.Unrefused file' request n := by
  have hpos : 0 < n := Nat.lt_of_lt_of_le (by decide) hn.1
  refine hu.step hdoc hpos (fun op hop => ?_) hs
  exact fits_of_reached h hn op (List.mem_append_left _ hop)

theorem getNextEvent_unrefused {reports : ParsedReports} {file : FilePool}
    (h : FileReach Runs.anyStep reports file) (n : Nat) :
    FilePool.Unrefused (FilePool.request file fun r => .getNextEvent ⟨r, n⟩)
      file.shared.nextRequest n := by
  obtain ⟨shared, threads⟩ := unrefused_of_fresh (n := n) h (Nat.le_refl file.shared.nextRequest)
  exact ⟨Nat.lt_succ_self _, ⟨shared.parked, shared.trace⟩, Pool.forall_spawn threads fun _ => rfl⟩

theorem overlappedResult_ne_tooSmall {d : PolledDevice} {request : IoRequest} {n : Nat}
    (h : FilePool.Unrefused d.file request n) :
    d.overlappedResult request ≠ some statusBufferTooSmall := by
  intro hr
  obtain ⟨e, he, hstatus⟩ := List.exists_of_findSome?_eq_some hr
  have hquiet := h.shared.trace e he
  cases e with
  | requestComplete r status information event =>
    simp only [Effect.completionOf] at hstatus
    split at hstatus
    next hid =>
      cases hstatus
      simp [Effect.refuses, hid] at hquiet
    next => cases hstatus
  | _ => cases hstatus

theorem IsBufferSize.double {n : UInt32} (hn : IsBufferSize n) (hlt : n.toNat < 2 ^ 30) :
    (n * 2).toNat = 2 * n.toNat ∧ IsBufferSize (n * 2) := by
  obtain ⟨k, hk, heq⟩ := hn
  have htwice : (n * 2).toNat = 2 * n.toNat := by
    rw [UInt32.toNat_mul]
    simp
    omega
  refine ⟨htwice, k + 1, ?_, ?_⟩
  · by_contra hbig
    obtain rfl : k = 23 := by omega
    omega
  · rw [htwice, heq, Nat.pow_succ]
    omega

theorem lt_of_not_everyEventFits {descriptor : ReportDescriptor} {reports : ParsedReports}
    (hd : parseReportDescriptor descriptor = .ok reports) {n : Nat}
    (hn : ¬reports.EveryEventFits n) : n < 2 ^ 30 := by
  by_contra hge
  exact hn (everyEventFits_of_parsed hd (by omega))

section

variable {reports : ParsedReports} {d : PolledDevice} {c : PollCall}

theorem PolledDevice.Advances.refl (reports : ParsedReports) (d : PolledDevice) :
    d.Advances reports d := ⟨UInt32.le_refl _, fun _ _ _ h => h⟩

theorem PollCall.Sound.proceed (h : c.Sound reports d) {proc : PollProc}
    (hproc : ∀ n, proc ≠ .raiseHint n) (tracks : Tracks reports d.file { c with proc }) :
    PollCall.Sound reports d { c with proc } where
  growth := ⟨h.growth.doubles, h.growth.sizes, fun n hn => absurd hn (hproc n), h.growth.needed⟩
  bounded := h.bounded
  tracks := tracks

theorem PollCall.Sound.finish (h : c.Sound reports d) (event : Bool) :
    PollCall.Sound reports d { c with proc := .returned event } :=
  h.proceed (by simp) trivial

/-- A buffer is only refused while some event does not fit, so there is room for its double. -/
theorem PollCall.Sound.refused {descriptor : ReportDescriptor}
    (hd : parseReportDescriptor descriptor = .ok reports) {n : UInt32} {request : IoRequest}
    {sizes : List UInt32} (h : PollCall.Sound reports d ⟨.getResult n request, sizes⟩)
    (hresult : d.overlappedResult request = some statusBufferTooSmall) :
    PollCall.Sound reports d ⟨.raiseHint (n * 2), sizes⟩ := by
  obtain ⟨⟨doubles, powers, _, needed⟩, bounded, ⟨earlier, rfl⟩, unrefused⟩ := h
  have short : ¬reports.EveryEventFits n.toNat := fun hfits =>
    overlappedResult_ne_tooSmall (unrefused hfits) hresult
  obtain ⟨htwice, hproduct⟩ := IsBufferSize.double (powers n List.mem_cons_self)
    (lt_of_not_everyEventFits hd short)
  refine ⟨⟨doubles, powers, ?_, needed⟩, bounded, hproduct, n, earlier, rfl, htwice, short⟩
  rintro _ ⟨⟩
  exact ⟨n, rfl, htwice⟩

/-- The size with which a call leaves the lock is at least the doubled one. -/
theorem PollCall.Sound.resize {n size : UInt32} {sizes : List UInt32}
    (h : PollCall.Sound reports d ⟨.raiseHint n, sizes⟩) (hsize : IsBufferSize size)
    (hle : n ≤ size) {d' : PolledDevice} (hhint : d.eventBufferSizeHint ≤ d'.eventBufferSizeHint)
    (hbound : size ≤ d'.eventBufferSizeHint) :
    PollCall.Sound reports d' ⟨.heapReAlloc size, size :: sizes⟩ := by
  obtain ⟨⟨doubles, powers, _, needed⟩, bounded, _, last, earlier, rfl, hproduct, hlast⟩ := h
  have hle' : n.toNat ≤ size.toNat := hle
  refine ⟨⟨?_, ?_, by simp, ?_⟩, ?_, _, rfl⟩
  · refine List.pairwise_cons.mpr ⟨List.forall_mem_cons.mpr ⟨by omega, fun e he => ?_⟩, doubles⟩
    have := (List.pairwise_cons.mp doubles).1 e he
    omega
  · exact List.forall_mem_cons.mpr ⟨hsize, powers⟩
  · exact List.forall_mem_cons.mpr ⟨hlast, needed⟩
  · exact List.forall_mem_cons.mpr ⟨hbound, fun e he => UInt32.le_trans (bounded e he) hhint⟩

/-- What a step of a call keeps. -/
structure PollCall.Keeps (reports : ParsedReports) (d : PolledDevice)
    (result : PolledDevice × List PollCall) : Prop where
  file : FileReach Runs.anyStep reports result.1.file
  hint : IsBufferSize result.1.eventBufferSizeHint
  advances : d.Advances reports result.1
  calls : ∀ c ∈ result.2, c.Sound reports result.1

theorem PollCall.issue_keeps (hfile : FileReach Runs.anyStep reports d.file)
    (hh : IsBufferSize d.eventBufferSizeHint) {n : UInt32} {earlier : List UInt32}
    (hc : PollCall.Sound reports d ⟨.issue n, n :: earlier⟩) :
    PollCall.Keeps reports d
      ({ d with file := FilePool.request d.file fun r => .getNextEvent ⟨r, n.toNat⟩ },
        [⟨.getResult n d.file.shared.nextRequest, n :: earlier⟩]) := by
  have hstep : fileStep d.file (.getNextEvent n.toNat) =
      some (FilePool.request d.file fun r => .getNextEvent ⟨r, n.toNat⟩) := rfl
  have advances : d.Advances reports
      { d with file := FilePool.request d.file fun r => .getNextEvent ⟨r, n.toNat⟩ } :=
    ⟨UInt32.le_refl _, fun _ _ => fileStep_unrefused hfile (a := .getNextEvent _) trivial hstep⟩
  refine ⟨hfile.next trivial hstep, hh, advances, List.forall_mem_singleton.mpr ?_⟩
  have tracks : PollCall.Tracks reports
      (FilePool.request d.file fun r => .getNextEvent ⟨r, n.toNat⟩)
      ⟨.getResult n d.file.shared.nextRequest, n :: earlier⟩ :=
    ⟨⟨earlier, rfl⟩, fun _ => getNextEvent_unrefused hfile n.toNat⟩
  exact (hc.advance advances).proceed (by simp) tracks

theorem PollCall.step_keeps {descriptor : ReportDescriptor}
    (hd : parseReportDescriptor descriptor = .ok reports)
    (hfile : FileReach Runs.anyStep reports d.file) (hh : IsBufferSize d.eventBufferSizeHint)
    (hc : c.Sound reports d) (calls : PollCalls) : PollCall.Keeps reports d (c.step calls d) := by
  have stays : ∀ {c'}, PollCall.Sound reports d c' → PollCall.Keeps reports d (d, [c']) :=
    fun hsound => ⟨hfile, hh, .refl reports d, List.forall_mem_singleton.mpr hsound⟩
  have tracks := hc.tracks
  obtain ⟨proc, sizes⟩ := c
  unfold PollCall.step
  cases proc with
  | createEvent =>
    dsimp only
    split
    · exact stays (hc.proceed (by simp) tracks)
    · exact stays (hc.finish false)
  | heapAlloc =>
    obtain rfl : sizes = [] := tracks
    have first : PollCall.Sound reports d ⟨.issue d.eventBufferSizeHint, [d.eventBufferSizeHint]⟩ :=
      ⟨⟨by simp, by simpa using hh, by simp, by simp⟩, by simp, [], rfl⟩
    dsimp only
    split
    · exact stays first
    · exact stays (first.finish false)
  | issue n =>
    obtain ⟨earlier, rfl⟩ := tracks
    dsimp only
    split
    · exact stays (hc.finish false)
    · split
      · exact PollCall.issue_keeps hfile hh hc
      · exact stays (hc.finish false)
  | getResult n request =>
    dsimp only
    split
    next => exact stays hc
    next status hresult =>
      split
      · exact stays (hc.finish true)
      · split
        · exact stays (hc.finish false)
        · split
          next hsmall => exact stays (hc.refused hd (hsmall ▸ hresult))
          next => exact stays (hc.finish false)
  | raiseHint n =>
    have hproduct := tracks.1
    dsimp only
    split
    next hlt =>
      have hle := UInt32.le_of_lt hlt
      refine ⟨hfile, hproduct, ⟨hle, fun _ _ _ h => h⟩, List.forall_mem_singleton.mpr ?_⟩
      exact hc.resize hproduct (UInt32.le_refl _) hle (UInt32.le_refl _)
    next hge =>
      exact stays (hc.resize hh (UInt32.not_lt.mp hge) (UInt32.le_refl _) (UInt32.le_refl _))
  | heapReAlloc n =>
    dsimp only
    split
    · exact stays (hc.proceed (by simp) tracks)
    · exact stays (hc.finish false)
  | returned event => exact stays hc

end

theorem pollStep_cases {p p' : PollPool} {a : PollAction} (h : pollStep p a = some p') :
    (∃ state, p' = ⟨{ p.shared with state }, p.threads⟩) ∨
    p' = p.spawn p.shared ⟨.createEvent, []⟩ ∨
    (∃ calls l c r, p.threads = l ++ c :: r ∧ p'.shared = (c.step calls p.shared).1 ∧
      p'.threads = l ++ (c.step calls p.shared).2 ++ r) ∨
    (∃ b file, a = .file b ∧ fileStep p.shared.file b = some file ∧
      p' = ⟨{ p.shared with file }, p.threads⟩) := by
  cases a with
  | startDevice | stopDevice =>
    obtain ⟨_, hp⟩ := Option.ite_none_right_eq_some.mp h
    exact .inl ⟨_, (Option.some.inj hp).symm⟩
  | pollEvent => exact .inr (.inl (Option.some.inj h).symm)
  | run i calls =>
    obtain ⟨l, c, r, hp, _, hs, hts⟩ := Pool.run_cases h
    exact .inr (.inr (.inl ⟨calls, l, c, r, hp, hs, hts⟩))
  | file b =>
    obtain ⟨file, hs, hp⟩ := Option.map_eq_some_iff.mp h
    exact .inr (.inr (.inr ⟨b, file, rfl, hs, hp.symm⟩))

/-- What holds of a device and of every call on it, whatever the threads have done. -/
structure PollPool.Sound (reports : ParsedReports) (p : PollPool) : Prop where
  file : FileReach Runs.anyStep reports p.shared.file
  hint : IsBufferSize p.shared.eventBufferSizeHint
  calls : ∀ c ∈ p.threads, c.Sound reports p.shared

theorem pollStep_sound {descriptor : ReportDescriptor} {reports : ParsedReports}
    (hd : parseReportDescriptor descriptor = .ok reports) {p p' : PollPool} {a : PollAction}
    (h : PollPool.Sound reports p) (hdoc : Documented p a) (hstep : pollStep p a = some p') :
    PollPool.Sound reports p' := by
  obtain ⟨file, hint, calls⟩ := h
  rcases pollStep_cases hstep with ⟨state, rfl⟩ | rfl | ⟨results, l, c, r, hp, hs, hts⟩ |
    ⟨b, file', rfl, hs, rfl⟩
  · have advances : p.shared.Advances reports { p.shared with state } :=
      ⟨UInt32.le_refl _, fun _ _ _ hu => hu⟩
    exact ⟨file, hint, fun c hc => (calls c hc).advance advances⟩
  · refine ⟨file, hint, Pool.forall_spawn calls ⟨⟨?_, ?_, ?_, ?_⟩, ?_, rfl⟩⟩ <;> simp
  · have keeps := PollCall.step_keeps hd file hint (calls c (by simp [hp])) results
    refine ⟨hs ▸ keeps.file, hs ▸ keeps.hint, ?_⟩
    rw [hts, hs]
    refine Pool.forall_replace (t := c) (fun u hu => ?_) fun _ => keeps.calls
    exact (calls u (hp ▸ hu)).advance keeps.advances
  · have advances : p.shared.Advances reports { p.shared with file := file' } :=
      ⟨UInt32.le_refl _, fun _ _ => fileStep_unrefused file hdoc hs⟩
    exact ⟨file.next trivial hs, hint, fun c hc => (calls c hc).advance advances⟩

theorem pollReach_sound {descriptor : ReportDescriptor} {reports : ParsedReports}
    (hd : parseReportDescriptor descriptor = .ok reports) {p : PollPool}
    (h : PollReach reports p) : PollPool.Sound reports p := by
  induction h with
  | start hi =>
    cases hi
    exact ⟨.start rfl, ⟨0, by decide, rfl⟩, by simp⟩
  | next _ hdoc hstep ih => exact pollStep_sound hd ih hdoc hstep

theorem PollCall.step_hint (calls : PollCalls) (d : PolledDevice) (c : PollCall) :
    d.eventBufferSizeHint ≤ (c.step calls d).1.eventBufferSizeHint := by
  have same := UInt32.le_refl d.eventBufferSizeHint
  unfold PollCall.step
  cases c.proc with
  | raiseHint n =>
    dsimp only
    split
    next hlt => exact UInt32.le_of_lt hlt
    next => exact same
  | getResult n request =>
    dsimp only
    split
    next => exact same
    next => split_ifs <;> exact same
  | returned event => exact same
  | _ =>
    dsimp only
    split_ifs <;> exact same

theorem pollStep_hint {p p' : PollPool} {a : PollAction} (h : pollStep p a = some p') :
    p.shared.eventBufferSizeHint ≤ p'.shared.eventBufferSizeHint := by
  rcases pollStep_cases h with ⟨_, rfl⟩ | rfl | ⟨calls, _, c, _, _, hs, _⟩ | ⟨_, _, _, _, rfl⟩
  · exact UInt32.le_refl _
  · exact UInt32.le_refl _
  · rw [hs]
    exact c.step_hint calls p.shared
  · exact UInt32.le_refl _

theorem exec_hint {p p' : PollPool} {as : List PollAction}
    (h : Runs.exec pollStep p as = some p') :
    p.shared.eventBufferSizeHint ≤ p'.shared.eventBufferSizeHint := by
  induction as generalizing p with
  | nil =>
    cases Option.some.inj h
    exact UInt32.le_refl _
  | cons a as ih =>
    obtain ⟨mid, hs, h⟩ := Option.bind_eq_some_iff.mp h
    exact UInt32.le_trans (pollStep_hint hs) (ih h)

/-- A call of which the first buffer has at least 128 bytes has doubled it with each resize. -/
theorem doubled_le_head {n : UInt32} {earlier : List UInt32}
    (hp : (n :: earlier).Pairwise fun later earlier => 2 * earlier.toNat ≤ later.toNat)
    (hmin : ∀ m ∈ n :: earlier, 128 ≤ m.toNat) : 128 * 2 ^ earlier.length ≤ n.toNat := by
  induction earlier generalizing n with
  | nil => simpa using hmin n List.mem_cons_self
  | cons m earlier ih =>
    obtain ⟨hlast, hp⟩ := List.pairwise_cons.mp hp
    have hm := hlast m List.mem_cons_self
    have := ih hp fun e he => hmin e (List.mem_cons_of_mem n he)
    rw [List.length_cons, Nat.pow_succ]
    omega

theorem BufferGrowth.head {reports : ParsedReports} {c : PollCall} (h : BufferGrowth reports c)
    {n : UInt32} (hn : n ∈ c.bufferSizes.head?) :
    128 * 2 ^ c.resizes ≤ n.toNat ∧ n.toNat ≤ 2 ^ 30 := by
  obtain ⟨proc, sizes⟩ := c
  obtain ⟨earlier, rfl⟩ := List.head?_eq_some_iff.mp hn
  obtain ⟨doubles, powers, -, -⟩ := h
  refine ⟨doubled_le_head doubles fun m hm => ?_, ?_⟩
  · obtain ⟨k, _, heq⟩ := powers m hm
    have := Nat.one_le_two_pow (n := k)
    omega
  · obtain ⟨k, hk, heq⟩ := powers n List.mem_cons_self
    have := Nat.pow_le_pow_right (n := 2) (by decide) hk
    omega

theorem BufferGrowth.resizes_le {reports : ParsedReports} {c : PollCall}
    (h : BufferGrowth reports c) : c.resizes ≤ 23 := by
  cases hs : c.bufferSizes with
  | nil => simp [PollCall.resizes, hs]
  | cons n earlier =>
    obtain ⟨hlow, hhigh⟩ := h.head (n := n) (by rw [hs]; rfl)
    by_contra hmore
    have := Nat.pow_le_pow_right (n := 2) (by decide) (by omega : 24 ≤ c.resizes)
    omega

/-- The poll buffer, for every descriptor that parses and whatever the threads do: the hint never
falls and is 128 doubled at most 23 times, every retry at least doubles the buffer of its call
without wrapping and is issued with the latest size, and a call resizes its buffer at most 23 times
and only while some event of the device does not fit. After 23 times every event fits. -/
theorem pollEvent_bufferGrowth {descriptor : ReportDescriptor} {reports : ParsedReports}
    (hd : parseReportDescriptor descriptor = .ok reports) {p : PollPool}
    (h : PollReach reports p) :
    (∀ as p', Runs.exec pollStep p as = some p' →
      p.shared.eventBufferSizeHint ≤ p'.shared.eventBufferSizeHint) ∧
    IsBufferSize p.shared.eventBufferSizeHint ∧
    (∀ c ∈ p.threads, BufferGrowth reports c ∧
      (∀ n, c.proc = .issue n → n ∈ c.bufferSizes.head?) ∧ c.resizes ≤ 23 ∧
      (c.resizes = 23 → ∀ n ∈ c.bufferSizes.head?, reports.EveryEventFits n.toNat)) ∧
    ∀ op ∈ p.shared.file.shared.ctx.operations, ∀ n, reports.EveryEventFits n → Fits op n := by
  obtain ⟨file, hint, calls⟩ := pollReach_sound hd h
  refine ⟨fun _ _ => exec_hint, hint, fun c hc => ?_, fun op hop n hn => ?_⟩
  · obtain ⟨growth, -, tracks⟩ := calls c hc
    refine ⟨growth, fun n hproc => ?_, growth.resizes_le, fun hmax n hn => ?_⟩
    · rw [PollCall.Tracks, hproc] at tracks
      obtain ⟨earlier, hsizes⟩ := tracks
      rw [hsizes]
      rfl
    · have hlow := (growth.head hn).1
      rw [hmax] at hlow
      exact everyEventFits_of_parsed hd hlow
  · exact fits_of_reached file hn op hop

def largeFeature : ReportDescriptor := ⟨[0x75, 8, 0x95, 200, 0xB1, 2], by decide⟩

def largeFeatureDevice : ParsedReports :=
  match parseReportDescriptor largeFeature with
  | .ok reports => reports
  | .error _ => ⟨fun _ => ⟨0, 0, 0⟩, false⟩

/-- A SET_FEATURE with 200 bytes of data does not fit in the first buffer of a call. -/
def pollLargeFeature : List PollAction :=
  [.startDevice, .pollEvent, .run 0 {}, .run 0 {}, .run 0 {},
    .file (.asyncOperation .setFeature ⟨fun _ => 0, 200, 0⟩), .file (.run 1 {}), .file (.run 1 {}),
    .file (.run 1 {}), .file (.run 0 {}), .file (.run 0 {}), .file (.run 0 {}), .run 0 {},
    .run 0 {}, .run 0 {}, .run 0 {}, .file (.run 0 {}), .file (.run 0 {}), .file (.run 0 {}),
    .run 0 {}]

theorem exists_pollReach (reports : ParsedReports) (actions : List PollAction) {P : PollPool → Prop}
    [DecidablePred P]
    (h : (Runs.exec (Runs.guarded pollStep Documented) ⟨.created reports, []⟩ actions).any
      (fun p => decide (P p)) = true) : ∃ p, PollReach reports p ∧ P p :=
  Runs.exists_reach_of_run pollStep Documented (by rfl) actions h

set_option maxRecDepth 2000 in
theorem pollEvent_bufferGrowth_large : ∃ p, PollReach largeFeatureDevice p ∧
    p.threads = [⟨.returned true, [256, 128]⟩] ∧
    IsBufferSize p.shared.eventBufferSizeHint ∧ ∀ c ∈ p.threads, c.resizes ≤ 23 := by
  obtain ⟨p, hr, hthreads⟩ := exists_pollReach largeFeatureDevice pollLargeFeature
    (P := fun p => p.threads = [⟨.returned true, [256, 128]⟩]) rfl
  have hd : parseReportDescriptor largeFeature = .ok largeFeatureDevice := rfl
  obtain ⟨-, hint, calls, -⟩ := pollEvent_bufferGrowth hd hr
  exact ⟨p, hr, hthreads, hint, fun c hc => (calls c hc).2.2.1⟩

end WinUHid
