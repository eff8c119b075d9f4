import WinUHid.SetupRequests
import WinUHid.ThreadPool
import WinUHid.Runs

namespace WinUHid

/-- One file context that several `CREATE_DEVICE` handlers share. VHF numbers the devices it
makes; `created` and `deleted` are the handles `VhfCreate` returned and `VhfDelete` was given. -/
structure ChildDevices where
  ctx : FileSetup
  nextHandle : VhfHandle
  created : List VhfHandle
  deleted : List VhfHandle
  closed : Bool

/-- What is left of a `CREATE_DEVICE` handler whose `VhfCreate` would return the status. -/
inductive CreateHandler where
  | guard (status : NTSTATUS)
  | create (status : NTSTATUS)
  deriving DecidableEq

def CreateHandler.body (s : ChildDevices) : CreateHandler → ChildDevices × List CreateHandler
  | .guard status => if s.ctx.createRefused then (s, []) else (s, [.create status])
  | .create status =>
    if ntSuccess status then
      ({ s with
          ctx := s.ctx.vhfCreate status s.nextHandle
          nextHandle := s.nextHandle + 1
          created := s.created ++ [s.nextHandle] }, [])
    else ({ s with ctx := s.ctx.vhfCreate status s.nextHandle }, [])

/-- What `WinUHidEvtDeviceFileClose` does to the child device. -/
def ChildDevices.fileClose (s : ChildDevices) : ChildDevices :=
  let vhfHandle := s.ctx.vhfHandle
  { s with
    ctx := { s.ctx with vhfHandle := none }
    deleted := s.deleted ++ vhfHandle.toList
    closed := true }

abbrev CreatePool := Pool ChildDevices CreateHandler

inductive CreateAction where
  | request (status : NTSTATUS)
  | handler (i : Nat)
  | close

/-- The default queue dispatches in parallel; a file is closed when no request is in progress. -/
def createStep (p : CreatePool) : CreateAction → Option CreatePool
  | .request status => if p.shared.closed then none else some (p.spawn p.shared (.guard status))
  | .handler i => p.run CreateHandler.body i
  | .close =>
    if p.shared.closed || !p.threads.isEmpty then none else some { p with shared := p.shared.fileClose }

/-- An open file without a device, and no request in progress. -/
def FileOpened (p : CreatePool) : Prop :=
  p.threads = [] ∧ p.shared.ctx.vhfHandle = none ∧ p.shared.created = [] ∧ p.shared.deleted = [] ∧
    p.shared.closed = false

/-- At most one device is created, and after the close every device has been deleted once. -/
def OneChildDevice (p : CreatePool) : Prop :=
  p.shared.created.length ≤ 1 ∧
    (p.shared.closed = true → ∀ h ∈ p.shared.created, p.shared.deleted.count h = 1)

/-- A handler between its guard and a `VhfCreate` that is going to succeed. -/
def CreateHandler.creating : CreateHandler → Bool
  | .guard _ => false
  | .create status => ntSuccess status

/-- A handler that checks the guard while its `VhfCreate` is still to come. -/
def CreateHandler.checking : CreateHandler → Bool
  | .guard status => ntSuccess status
  | .create _ => false

/-- No handler checks the guard between the guard and the `VhfCreate` of another handler. Handlers
whose `VhfCreate` fails may overlap with any other. -/
def GuardsApart (p : CreatePool) : CreateAction → Prop
  | .handler i => (p.threads[i]?).any CreateHandler.checking = true →
      p.threads.any CreateHandler.creating = false
  | _ => True

instance (p : CreatePool) : ∀ a, Decidable (GuardsApart p a)
  | .handler _ => inferInstanceAs (Decidable (_ → _))
  | .request _ => .isTrue trivial
  | .close => .isTrue trivial

/-- Handlers that run one after the other: the two steps of one are `createDevice`. -/
theorem createDevice_eq_steps (s : ChildDevices) (r : SetupRequest)
    (hr : r.createdHandle = s.nextHandle) :
    (s.ctx.createDevice r).1 =
      if s.ctx.createRefused then s.ctx
      else ((CreateHandler.create r.vhfCreate).body s).1.ctx := by
  unfold FileSetup.createDevice CreateHandler.body
  split
  · rfl
  · rw [hr]
    dsimp only
    split <;> rfl

/-- All that a step of the pool can do. -/
inductive Created (p : CreatePool) : CreateAction → CreatePool → Prop
  | request {status : NTSTATUS} : p.shared.closed = false →
      Created p (.request status) (p.spawn p.shared (.guard status))
  | refused {i : Nat} {l r : List CreateHandler} {status : NTSTATUS} :
      p.threads = l ++ .guard status :: r → p.threads[i]? = some (.guard status) →
      p.shared.ctx.createRefused = true → Created p (.handler i) ⟨p.shared, l ++ r⟩
  | passed {i : Nat} {l r : List CreateHandler} {status : NTSTATUS} :
      p.threads = l ++ .guard status :: r → p.threads[i]? = some (.guard status) →
      p.shared.ctx.createRefused = false →
      Created p (.handler i) ⟨p.shared, l ++ .create status :: r⟩
  | failed {i : Nat} {l r : List CreateHandler} {status : NTSTATUS} :
      p.threads = l ++ .create status :: r → p.threads[i]? = some (.create status) →
      ntSuccess status = false → Created p (.handler i) ⟨p.shared, l ++ r⟩
  | created {i : Nat} {l r : List CreateHandler} {status : NTSTATUS} :
      p.threads = l ++ .create status :: r → p.threads[i]? = some (.create status) →
      ntSuccess status = true →
      Created p (.handler i)
        ⟨{ p.shared with
            ctx := { p.shared.ctx with vhfHandle := some p.shared.nextHandle }
            nextHandle := p.shared.nextHandle + 1
            created := p.shared.created ++ [p.shared.nextHandle] }, l ++ r⟩
  | close : p.shared.closed = false → p.threads = [] →
      Created p .close { p with shared := p.shared.fileClose }

theorem createStep_created {p p' : CreatePool} {a : CreateAction}
    (h : createStep p a = some p') : Created p a p' := by
  cases a with
  | request status =>
    simp only [createStep] at h
    split at h
    next => cases h
    next hc =>
      cases Option.some.inj h
      exact .request (Bool.eq_false_of_not_eq_true hc)
  | handler i =>
    obtain ⟨l, t, r, hp, ht, hs, hts⟩ := Pool.run_cases h
    obtain ⟨shared, threads⟩ := p'
    dsimp only at hs hts
    subst hs hts
    cases t with
    | guard status =>
      cases hr : p.shared.ctx.createRefused with
      | true =>
        simp only [CreateHandler.body, hr, if_true, List.append_nil]
        exact .refused hp ht hr
      | false =>
        simp only [CreateHandler.body, hr, Bool.false_eq_true, if_false, List.append_assoc,
          List.singleton_append]
        exact .passed hp ht hr
    | create status =>
      by_cases hs : ntSuccess status = true
      · simp only [CreateHandler.body, FileSetup.vhfCreate, hs, if_true, List.append_nil]
        exact .created hp ht hs
      · simp only [CreateHandler.body, FileSetup.vhfCreate, hs, Bool.false_eq_true, if_false,
          List.append_nil]
        exact .failed hp ht (Bool.eq_false_of_not_eq_true hs)
  | close =>
    simp only [createStep] at h
    split at h
    next => cases h
    next hc =>
      cases Option.some.inj h
      simp only [Bool.or_eq_true, not_or, Bool.not_eq_true, Bool.not_eq_false',
        List.isEmpty_iff] at hc
      exact .close hc.1 hc.2

/-- The devices of the file and those that its handlers are still to create. -/
def CreatePool.devices (p : CreatePool) : Nat :=
  p.threads.countP CreateHandler.creating + p.shared.created.length

theorem countP_creating_pos {ts : List CreateHandler} :
    0 < ts.countP CreateHandler.creating ↔ ts.any CreateHandler.creating = true := by
  rw [List.countP_pos_iff, List.any_eq_true]

/-- A step never loses a device, and one more is to come only when a handler passes the guard. -/
theorem Created.devices {p p' : CreatePool} {a : CreateAction} (h : Created p a p') :
    p'.devices = p.devices ∨
      p'.devices = p.devices + 1 ∧ p.shared.ctx.createRefused = false ∧
        ∃ i status, a = .handler i ∧ p.threads[i]? = some (.guard status) ∧
          ntSuccess status = true := by
  unfold CreatePool.devices
  cases h with
  | request => left; simp [CreateHandler.creating]
  | refused hp => left; simp [hp, CreateHandler.creating]
  | @passed i l r status hp ht hr =>
    by_cases hs : ntSuccess status = true
    · right
      refine ⟨?_, hr, i, status, rfl, ht, hs⟩
      simp only [hp, List.countP_append, List.countP_cons, CreateHandler.creating, hs, if_true,
        Bool.false_eq_true, if_false]
      omega
    · left
      simp [hp, CreateHandler.creating, hs]
  | failed hp ht hf => left; simp [hp, CreateHandler.creating, hf]
  | created hp ht hok =>
    left
    simp only [hp, List.countP_append, List.countP_cons, CreateHandler.creating, hok, if_true,
      List.length_append, List.length_singleton]
    omega
  | close => left; rfl

/-- A file is closed only when no request is in progress, and no request comes after. -/
theorem Created.idle {p p' : CreatePool} {a : CreateAction} (h : Created p a p')
    (hi : p.shared.closed = true → p.threads = []) : p'.shared.closed = true → p'.threads = [] := by
  cases h with
  | request ho => exact fun hc => absurd (ho.symm.trans hc) Bool.false_ne_true
  | refused hp => exact fun hc => absurd (hi hc) (by simp [hp])
  | passed hp => exact fun hc => absurd (hi hc) (by simp [hp])
  | failed hp => exact fun hc => absurd (hi hc) (by simp [hp])
  | created hp => exact fun hc => absurd (hi hc) (by simp [hp])
  | close _ hts => exact fun _ => hts

/-- Until the close the stored handle is the only device, or one handler is about to create it; the
close deletes it. -/
structure StoredChild (p : CreatePool) : Prop where
  idle : p.shared.closed = true → p.threads = []
  one : p.devices ≤ 1
  passed : p.threads.any CreateHandler.creating = true → p.shared.ctx.createRefused = false
  opened : p.shared.closed = false →
    p.shared.created = p.shared.ctx.vhfHandle.toList ∧ p.shared.deleted = []
  closed : p.shared.closed = true → p.shared.deleted = p.shared.created

namespace StoredChild

variable {p p' : CreatePool} {a : CreateAction}

theorem of_opened (h : FileOpened p) : StoredChild p := by
  obtain ⟨hts, hh, hc, hd, ho⟩ := h
  refine ⟨fun hn => ?_, ?_, fun hn => ?_, fun _ => ?_, fun hn => ?_⟩
  · exact absurd (ho.symm.trans hn) Bool.false_ne_true
  · simp [CreatePool.devices, hts, hc]
  · simp [hts] at hn
  · rw [hc, hh]
    exact ⟨rfl, hd⟩
  · exact absurd (ho.symm.trans hn) Bool.false_ne_true

theorem oneChildDevice (h : StoredChild p) : OneChildDevice p := by
  have hlen : p.shared.created.length ≤ 1 := by
    have hone := h.one
    unfold CreatePool.devices at hone
    omega
  refine ⟨hlen, fun hc handle hm => ?_⟩
  rw [h.closed hc]
  obtain ⟨only, ho⟩ : ∃ only, p.shared.created = [only] :=
    List.length_eq_one_iff.mp (Nat.le_antisymm hlen (List.length_pos_of_mem hm))
  rw [ho] at hm ⊢
  rw [List.mem_singleton.mp hm, List.count_singleton_self]

theorem open_of_thread (h : StoredChild p) {l r : List CreateHandler} {t : CreateHandler}
    (hp : p.threads = l ++ t :: r) : p.shared.closed = false := by
  cases hc : p.shared.closed with
  | false => rfl
  | true => exact absurd (h.idle hc) (by simp [hp])

/-- A handler passes the guard only while the file has no device. -/
theorem no_device (h : StoredChild p) {l r : List CreateHandler} {t : CreateHandler}
    (hp : p.threads = l ++ t :: r) (hr : p.shared.ctx.createRefused = false) :
    p.shared.created = [] := by
  have hnone : p.shared.ctx.vhfHandle = none := by
    simp only [FileSetup.createRefused, Bool.or_eq_false_iff] at hr
    exact Option.isNone_iff_eq_none.mp (Option.isSome_eq_false_iff.mp hr.1.1)
  rw [(h.opened (h.open_of_thread hp)).1, hnone]
  rfl

theorem next (h : StoredChild p) (hs : createStep p a = some p') (hg : GuardsApart p a) :
    StoredChild p' := by
  have hc := createStep_created hs
  have one : p'.devices ≤ 1 := by
    obtain he | ⟨he, hr, i, status, rfl, ht, hok⟩ := hc.devices
    · exact he ▸ h.one
    · obtain ⟨l, r, hp⟩ := List.append_of_mem (List.mem_of_getElem? ht)
      have apart : p.threads.countP CreateHandler.creating = 0 := by
        have hany : p.threads.any CreateHandler.creating = false := by
          simpa [GuardsApart, ht, CreateHandler.checking, hok] using hg
        exact Nat.eq_zero_of_not_pos fun hpos =>
          absurd (countP_creating_pos.mp hpos) (by simp [hany])
      rw [he, CreatePool.devices, apart, h.no_device hp hr]
      exact Nat.le_refl 1
  have idle := hc.idle h.idle
  cases hc with
  | request ho =>
    exact ⟨idle, one, fun hn => h.passed (by simpa [CreateHandler.creating] using hn), h.opened,
      h.closed⟩
  | refused hp =>
    refine ⟨idle, one, fun hn => h.passed ?_, h.opened, h.closed⟩
    rw [hp]
    simpa [CreateHandler.creating] using hn
  | passed hp ht hr => exact ⟨idle, one, fun _ => hr, h.opened, h.closed⟩
  | failed hp ht hf =>
    refine ⟨idle, one, fun hn => h.passed ?_, h.opened, h.closed⟩
    rw [hp]
    simpa [CreateHandler.creating, hf] using hn
  | @created i l r status hp ht hok =>
    have ho := h.open_of_thread hp
    have hr := h.passed (by simp [hp, CreateHandler.creating, hok])
    have hnone := h.no_device hp hr
    refine ⟨idle, one, fun hn => ?_, fun _ => ⟨?_, (h.opened ho).2⟩, fun hc =>
      absurd (ho.symm.trans hc) Bool.false_ne_true⟩
    · have hpos := countP_creating_pos.mpr hn
      simp only [CreatePool.devices, List.length_append, List.length_singleton] at one hpos
      omega
    · simp [hnone]
  | close ho hts =>
    obtain ⟨hc, hd⟩ := h.opened ho
    refine ⟨idle, one, fun hn => ?_, nofun, fun _ => ?_⟩
    · simp [hts] at hn
    · simp [ChildDevices.fileClose, hc, hd]

end StoredChild

/-- Two devices are there or to come. -/
structure TwoDevices (p : CreatePool) : Prop where
  idle : p.shared.closed = true → p.threads = []
  two : 2 ≤ p.devices

namespace TwoDevices

variable {p p' : CreatePool} {a : CreateAction}

theorem next (h : TwoDevices p) (hs : createStep p a = some p') : TwoDevices p' := by
  have hc := createStep_created hs
  have htwo := h.two
  refine ⟨hc.idle h.idle, ?_⟩
  obtain he | ⟨he, -⟩ := hc.devices <;> omega

/-- A handler that passes the guard between those of another one is to create a second device. -/
theorem of_overlap (h : StoredChild p) (hs : createStep p a = some p') (hg : ¬GuardsApart p a) :
    TwoDevices p' := by
  have hc := createStep_created hs
  refine ⟨hc.idle h.idle, ?_⟩
  cases a with
  | request => exact absurd trivial hg
  | close => exact absurd trivial hg
  | handler i =>
    obtain ⟨hcheck, hcreating⟩ : (p.threads[i]?).any CreateHandler.checking = true ∧
        p.threads.any CreateHandler.creating = true := by simpa [GuardsApart] using hg
    have hr := h.passed hcreating
    have hpos := countP_creating_pos.mpr hcreating
    cases hc with
    | refused hp ht hn => exact absurd (hr.symm.trans hn) Bool.false_ne_true
    | @passed _ l r status hp ht =>
      have hok : ntSuccess status = true := by simpa [ht, CreateHandler.checking] using hcheck
      simp only [CreatePool.devices, hp, List.countP_append, List.countP_cons,
        CreateHandler.creating, hok, if_true, Bool.false_eq_true, if_false] at hpos ⊢
      omega
    | failed hp ht => simp [ht, CreateHandler.checking] at hcheck
    | created hp ht => simp [ht, CreateHandler.checking] at hcheck

/-- When the file is closed no handler is left, so both devices have been created. -/
theorem not_oneChildDevice (h : TwoDevices p) (hc : p.shared.closed = true) :
    ¬OneChildDevice p := by
  have htwo := h.two
  rw [CreatePool.devices, h.idle hc] at htwo
  intro ho
  have hlen := ho.1
  simp only [List.countP_nil] at htwo
  omega

end TwoDevices

/-- Any number of handlers on one file, and its close. There is one child device, deleted once, in
every state of a run in which no handler checks the guard between the guard and the `VhfCreate` of
another; a closed file of any other run has had two. -/
theorem createDevice_oneChild {p p' : CreatePool} {as : List CreateAction} (hi : FileOpened p)
    (h : Runs.exec createStep p as = some p') :
    (Runs.Admitted createStep GuardsApart p as → OneChildDevice p') ∧
      (p'.shared.closed = true →
        (OneChildDevice p' ↔ Runs.Admitted createStep GuardsApart p as)) := by
  obtain ⟨ha, hs⟩ | ⟨ha, hs⟩ := Runs.admitted_or_bad
    (fun _ _ _ hi hs hg => StoredChild.next hi hs hg)
    (fun _ _ _ hi hs hg => TwoDevices.of_overlap hi hs hg)
    (fun _ _ _ hb hs => TwoDevices.next hb hs) (StoredChild.of_opened hi) h
  · exact ⟨fun _ => hs.oneChildDevice, fun _ => ⟨fun _ => ha, fun _ => hs.oneChildDevice⟩⟩
  · exact ⟨fun h => absurd h ha, fun hc =>
      ⟨fun ho => absurd ho (hs.not_oneChildDevice hc), fun h => absurd h ha⟩⟩

/-- A file with device info and a report descriptor. -/
def configuredFile : CreatePool :=
  ⟨⟨{ FileSetup.initial with
      deviceInfoSet := true
      vhfConfig := { FileSetup.initial.vhfConfig with
        reportDescriptor := some [0x75, 0x08, 0x95, 0x04, 0x81, 0x02]
        reportDescriptorLength := 6 } }, 0, [], [], false⟩, []⟩

/-- Both handlers pass the guard before either calls `VhfCreate`. -/
def overlappingCreates : List CreateAction :=
  [.request statusSuccess, .request statusSuccess, .handler 0, .handler 1, .handler 0, .handler 0,
    .close]

theorem createDevice_leaks_child :
    (Runs.exec createStep configuredFile overlappingCreates).map
        (fun p => (p.shared.created, p.shared.deleted, p.shared.closed)) =
      some ([0, 1], [1], true) ∧
    ¬∀ p as p', FileOpened p → Runs.exec createStep p as = some p' → OneChildDevice p' := by
  have hrun : (Runs.exec createStep configuredFile overlappingCreates).map
      (fun p => (p.shared.created, p.shared.deleted, p.shared.closed)) =
        some ([0, 1], [1], true) := by rfl
  refine ⟨hrun, fun h => ?_⟩
  obtain ⟨p', hp, he⟩ := Option.map_eq_some_iff.mp hrun
  have hone := (h _ _ _ ⟨rfl, rfl, rfl, rfl, rfl⟩ hp).1
  rw [(Prod.mk.inj he).1] at hone
  exact absurd hone (by decide)

/-- A handler whose `VhfCreate` fails overlaps with the first one, and a third comes after it. -/
def apartCreates : List CreateAction :=
  [.request statusSuccess, .request statusNoMemory, .handler 0, .handler 1, .handler 1, .handler 0,
    .request statusSuccess, .handler 0, .close]

theorem createDevice_oneChild_apart :
    ∃ p', Runs.exec createStep configuredFile apartCreates = some p' ∧ OneChildDevice p' ∧
      p'.shared.created = [0] ∧ p'.shared.deleted = [0] ∧ p'.shared.closed = true := by
  have hrun : (Runs.exec createStep configuredFile apartCreates).map
      (fun p => (p.shared.created, p.shared.deleted, p.shared.closed)) = some ([0], [0], true) := by
    rfl
  have hadmitted : Runs.Admitted createStep GuardsApart configuredFile apartCreates := by decide
  obtain ⟨p', hp, he⟩ := Option.map_eq_some_iff.mp hrun
  obtain ⟨hc, he⟩ := Prod.mk.inj he
  obtain ⟨hd, hclosed⟩ := Prod.mk.inj he
  have hone := (createDevice_oneChild ⟨rfl, rfl, rfl, rfl, rfl⟩ hp).2 hclosed
  exact ⟨p', hp, hone.mpr hadmitted, hc, hd, hclosed⟩

end WinUHid
