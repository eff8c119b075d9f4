import WinUHid.DriverInterface
import WinUHid.ThreadPool
import WinUHid.Runs

namespace WinUHid

/-- What `parse_event` makes of an event; a write event has no `readLength`, a read event no
`data`. -/
structure ParsedEvent where
  kind : EventType
  reportId : UInt8
  data : List UInt8
  readLength : UInt32

/-- The maps of a `GenericCtx` that submissions change. -/
structure GenericCache where
  currentInputs : UInt8 → Option (List UInt8)
  lastReportId : Option UInt8

namespace GenericCache

def empty : GenericCache := ⟨fun _ => none, none⟩

/-- `current_inputs.lock().insert(report_id, report)` -/
def insert (c : GenericCache) (reportId : UInt8) (report : List UInt8) : GenericCache :=
  { c with currentInputs := Function.update c.currentInputs reportId (some report) }

/-- `pick_read_snapshot` -/
def pickReadSnapshot (c : GenericCache) (ev : ParsedEvent) : Option (List UInt8) :=
  if ev.reportId ≠ 0 then
    match c.currentInputs ev.reportId with
    | some buf => some buf
    | none =>
      if 0 < ev.readLength then
        some ((List.replicate ev.readLength.toNat 0).set 0 ev.reportId)
      else none
  else
    match c.lastReportId.bind c.currentInputs with
    | some buf => some buf
    | none =>
      if 0 < ev.readLength then some (List.replicate ev.readLength.toNat 0) else none

end GenericCache

/-- The report id of `submit_generic_input`: `report.first().copied().unwrap_or(0)`. -/
def cacheKey (report : List UInt8) : UInt8 := report.headD 0

/-- The next step of a call of `submit_generic_input`. An accepted report goes with its place among
those the SDK has accepted. -/
inductive GenericInputProc where
  | submit (report : List UInt8)
  | insert (index : Nat) (report : List UInt8)
  | storeId (index : Nat) (report : List UInt8)
  deriving DecidableEq

/-- A generic device: the reports the SDK has accepted, the cache, and from which of them its
entries come. -/
structure GenericDevice where
  accepted : List (List UInt8)
  cache : GenericCache
  insertedFrom : UInt8 → Option Nat
  storedFrom : Option Nat

def GenericDevice.fresh : GenericDevice := ⟨[], .empty, fun _ => none, none⟩

/-- One step of `submit_generic_input`; `ok` is what the SDK answers. -/
def submitGenericInput (ok : Bool) (d : GenericDevice) :
    GenericInputProc → GenericDevice × List GenericInputProc
  | .submit report =>
    if report.isEmpty then (d, [])
    else if ok then
      ({ d with accepted := d.accepted ++ [report] }, [.insert d.accepted.length report])
    else (d, [])
  | .insert index report =>
    ({ d with
        cache := d.cache.insert (cacheKey report) report
        insertedFrom := Function.update d.insertedFrom (cacheKey report) (some index) },
      [.storeId index report])
  | .storeId index report =>
    ({ d with
        cache := { d.cache with lastReportId := some (cacheKey report) }
        storedFrom := some index }, [])

namespace GenericDevice

inductive Action where
  | arrives (report : List UInt8)
  | call (i : Nat) (ok : Bool)

abbrev Requests := Pool GenericDevice GenericInputProc

def step (p : Requests) : Action → Option Requests
  | .arrives report => some (p.spawn p.shared (.submit report))
  | .call i ok => p.run (submitGenericInput ok) i

def Fresh (p : Requests) : Prop := p = ⟨.fresh, []⟩

/-- What a step is and does, by what the request is about to do. -/
inductive CacheMove (p p' : Requests) : Action → Prop
  | arrives {report} (shared : p'.shared = p.shared)
      (threads : p'.threads = p.threads ++ [.submit report]) : CacheMove p p' (.arrives report)
  | refused {i ok report l r} (before : p.threads = l ++ .submit report :: r)
      (shared : p'.shared = p.shared) (threads : p'.threads = l ++ [] ++ r) :
      CacheMove p p' (.call i ok)
  | accepted {i ok report l r} (nonempty : report ≠ [])
      (before : p.threads = l ++ .submit report :: r)
      (shared : p'.shared = { p.shared with accepted := p.shared.accepted ++ [report] })
      (threads : p'.threads = l ++ [.insert p.shared.accepted.length report] ++ r) :
      CacheMove p p' (.call i ok)
  | inserts {i ok index report l r} (at_i : p.threads[i]? = some (.insert index report))
      (before : p.threads = l ++ .insert index report :: r)
      (shared : p'.shared = { p.shared with
        cache := p.shared.cache.insert (cacheKey report) report
        insertedFrom := Function.update p.shared.insertedFrom (cacheKey report) (some index) })
      (threads : p'.threads = l ++ [.storeId index report] ++ r) : CacheMove p p' (.call i ok)
  | stores {i ok index report l r} (at_i : p.threads[i]? = some (.storeId index report))
      (before : p.threads = l ++ .storeId index report :: r)
      (shared : p'.shared = { p.shared with
        cache := { p.shared.cache with lastReportId := some (cacheKey report) }
        storedFrom := some index })
      (threads : p'.threads = l ++ [] ++ r) : CacheMove p p' (.call i ok)

theorem step_cases {p p' : Requests} {a : Action} (h : step p a = some p') : CacheMove p p' a := by
  cases a with
  | arrives report =>
    cases h
    exact .arrives rfl rfl
  | call i ok =>
    obtain ⟨l, t, r, ht, hi, hs, hp⟩ := Pool.run_cases h
    cases t with
    | submit report =>
      rw [submitGenericInput] at hs hp
      split at hs
      next he =>
        rw [if_pos he] at hp
        exact .refused ht hs hp
      next he =>
        rw [if_neg he] at hp
        cases ok with
        | false => exact .refused ht hs hp
        | true => exact .accepted (by simpa using he) ht hs hp
    | insert index report => exact .inserts hi ht hs hp
    | storeId index report => exact .stores hi ht hs hp

end GenericDevice

end WinUHid
