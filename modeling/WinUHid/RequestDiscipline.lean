import WinUHid.FileInvariants
import Mathlib.Algebra.Order.Group.Multiset

namespace WinUHid

section Ids

theorem realRequestId_mod (n : UInt32) : (realRequestId n).toNat % 2 ^ 31 = n.toNat % 2 ^ 31 := by
  have top : (0x80000000 : UInt32).toNat % 2 ^ 31 = 0 := by decide
  rw [realRequestId, UInt32.toNat_or, Nat.or_mod_two_pow, top, Nat.or_zero]

theorem testBit_realRequestId (n : UInt32) : (realRequestId n).toNat.testBit 31 = true := by
  have top : (0x80000000 : UInt32).toNat.testBit 31 = true := by decide
  rw [realRequestId, UInt32.toNat_or, Nat.testBit_or, top, Bool.or_true]

/-- The request id of the real operation that was dispatched after `k` others. -/
def serialId (k : Nat) : RequestId := realRequestId (UInt32.ofNat (k + 1))

/-- Request ids repeat with period 2^31 and not before. -/
theorem serialId_inj {j k : Nat} (h : serialId j = serialId k) (hj : j < k + 2 ^ 31)
    (hk : k < j + 2 ^ 31) : j = k := by
  have same := congrArg (fun id : RequestId => id.toNat % 2 ^ 31) h
  simp only [serialId, realRequestId_mod, UInt32.toNat_ofNat'] at same
  omega

end Ids

/-- The objects of the real operations in the order in which these took their ids, and the
operations that completion IOCTLs took off. -/
structure IdLog where
  dispatched : List ObjectId
  completed : List Operation

namespace IdLog

def dispatch (log : IdLog) (object : ObjectId) : IdLog :=
  { log with dispatched := log.dispatched ++ [object] }

def complete (log : IdLog) (run : CompletionRun) : IdLog :=
  { log with completed := log.completed ++ run.taken.toList }

/-- How many real operations were dispatched since this one. -/
def since (log : IdLog) (op : Operation) : Nat :=
  log.dispatched.length - (log.dispatched.idxOf op.object + 1)

/-- How many real operations were dispatched since the older of the two. -/
def sinceOlder (log : IdLog) (a b : Operation) : Nat := max (log.since a) (log.since b)

end IdLog

/-- What a step of a thread adds to the log. -/
def Thread.logged (fw : Framework) (s : FileState) (log : IdLog) : Thread → IdLog
  | .dispatch (.async _ _ _) _ =>
    if ntSuccess fw.objectCreate then log.dispatch s.nextObject else log
  | .takeWrite request c => log.complete (takeWriteEvent fw s.ctx request c)
  | .takeRead request input c => log.complete (takeReadEvent fw s.ctx request input c)
  | _ => log

def Action.logged (p : FilePool) (log : IdLog) : Action → IdLog
  | .run i fw => (p.threads[i]?).elim log (Thread.logged fw p.shared log)
  | _ => log

structure LoggedFile where
  pool : FilePool
  log : IdLog

def loggedStep (f : LoggedFile) (a : Action) : Option LoggedFile :=
  (fileStep f.pool a).map fun p => ⟨p, a.logged f.pool f.log⟩

/-- Runs of a file object with their log. -/
def LoggedReach (reports : ParsedReports) : LoggedFile → Prop :=
  Runs.Reach loggedStep Runs.anyStep fun f => f = ⟨⟨.created reports, []⟩, ⟨[], []⟩⟩

theorem exists_loggedReach (reports : ParsedReports) (actions : List Action) {P : LoggedFile → Prop}
    [DecidablePred P]
    (h : (Runs.exec loggedStep ⟨⟨.created reports, []⟩, ⟨[], []⟩⟩ actions).any
      (fun f => decide (P f)) = true) : ∃ f, LoggedReach reports f ∧ P f :=
  Runs.exists_reach_of_exec rfl h

/-- The operation that a thread is about to queue. -/
def Thread.held : Thread → Multiset Operation
  | .enqueue op _ => {op}
  | _ => 0

@[simp] theorem held_remaining (es : List Effect) : ((remaining es).map Thread.held).sum = 0 := by
  cases es <;> rfl

theorem loggedStep_cases {f f' : LoggedFile} {a : Action} (h : loggedStep f a = some f') :
    (f'.pool.shared.ctx = f.pool.shared.ctx ∧
      f'.pool.shared.nextObject = f.pool.shared.nextObject ∧ f'.log = f.log ∧
      ∃ ts, f'.pool.threads = f.pool.threads ++ ts ∧ (ts.map Thread.held).sum = 0) ∨
    ∃ fw l t r, f.pool.threads = l ++ t :: r ∧
      f' = ⟨⟨(t.step fw f.pool.shared).1, l ++ (t.step fw f.pool.shared).2 ++ r⟩,
        t.logged fw f.pool.shared f.log⟩ := by
  obtain ⟨p, hp, rfl⟩ := Option.map_eq_some_iff.mp h
  cases a with
  | run i fw =>
    obtain ⟨l, t, r, hl, ht, hs, hts⟩ := Pool.run_cases hp
    refine .inr ⟨fw, l, t, r, hl, ?_⟩
    rw [Action.logged, ht, ← hs, ← hts]
    rfl
  | cancelRequest i =>
    rcases fileStep_cases hp with ⟨_, _, ha, -⟩ | ⟨_, _, _, _, -, -, rfl⟩ |
      ⟨_, _, _, _, _, _, _, he, -⟩
    · cases ha
    · exact .inl ⟨rfl, rfl, rfl, [], (List.append_nil _).symm, rfl⟩
    · cases he
  | _ =>
    rcases fileStep_cases hp with ⟨_, _, ha, rfl⟩ | ⟨_, _, _, _, he, -⟩ |
      ⟨_, _, _, _, _, _, _, he, -⟩
    · cases ha
      exact .inl ⟨rfl, rfl, rfl, [_], rfl, rfl⟩
    · cases he
    · cases he

/-- Every operation of a file, the completed ones included. -/
def present (s : FileState) (log : IdLog) (ts : List Thread) : Multiset Operation :=
  (ts.map Thread.held).sum + (s.ctx.operations + log.completed : Multiset Operation)

theorem present_frame (s : FileState) (log : IdLog) (l ts r : List Thread) :
    present s log (l ++ ts ++ r) =
      present s log ts + ((l.map Thread.held).sum + (r.map Thread.held).sum) := by
  simp only [present, List.map_append, List.sum_append]
  abel

/-- What a step can do to the operations and their ids. -/
inductive IdMove (s : FileState) (log : IdLog) (m : Multiset Operation) (s' : FileState)
    (log' : IdLog) (m' : Multiset Operation) : Prop
  | kept : s'.ctx.nextRequestId = s.ctx.nextRequestId → s'.nextObject = s.nextObject →
      log'.dispatched = log.dispatched → m' ≤ m → IdMove s log m s' log' m'
  | pseudo : s'.ctx.nextRequestId = s.ctx.nextRequestId → s'.nextObject = s.nextObject + 1 →
      log'.dispatched = log.dispatched → m' = .readyForRead s.nextObject ::ₘ m →
      IdMove s log m s' log' m'
  | unknown : s'.ctx.nextRequestId = s.ctx.nextRequestId + 1 → s'.nextObject = s.nextObject + 1 →
      log'.dispatched = log.dispatched ++ [s.nextObject] → m' = m → IdMove s log m s' log' m'
  | real (op : Operation) : s'.ctx.nextRequestId = s.ctx.nextRequestId + 1 →
      s'.nextObject = s.nextObject + 1 → log'.dispatched = log.dispatched ++ [s.nextObject] →
      op.object = s.nextObject → op.requestId = realRequestId (s.ctx.nextRequestId + 1) →
      m' = op ::ₘ m → IdMove s log m s' log' m'

theorem IdMove.add {s s' : FileState} {log log' : IdLog} {m m' : Multiset Operation}
    (h : IdMove s log m s' log' m') (r : Multiset Operation) :
    IdMove s log (m + r) s' log' (m' + r) := by
  cases h with
  | kept hid hobject hlog hm => exact .kept hid hobject hlog (Multiset.add_le_add_right hm)
  | pseudo hid hobject hlog hm =>
    exact .pseudo hid hobject hlog (by rw [hm, Multiset.cons_add])
  | unknown hid hobject hlog hm => exact .unknown hid hobject hlog (by rw [hm])
  | real op hid hobject hlog ho hr hm =>
    exact .real op hid hobject hlog ho hr (by rw [hm, Multiset.cons_add])

theorem dispatch_idMove (fw : Framework) (s : FileState) (log : IdLog) (call : DispatchCall)
    (rest : List Effect) :
    let t := Thread.dispatch call rest
    IdMove s log (present s log [t]) (t.step fw s).1 (t.logged fw s log)
      (present (t.step fw s).1 (t.logged fw s log) (t.step fw s).2) := by
  intro t
  cases created : ntSuccess fw.objectCreate with
  | false =>
    have kept : t.logged fw s log = log := by cases call <;> simp [t, Thread.logged, created]
    rw [kept]
    refine .kept ?_ ?_ rfl ?_ <;>
      simp [t, Thread.step, FileState.dispatchAsyncOperation, created, present, Thread.held]
  | true =>
    cases call with
    | readyForRead =>
      refine .pseudo ?_ ?_ rfl ?_ <;>
        simp [t, Thread.step, Thread.logged, FileState.dispatchAsyncOperation, created, present,
          Thread.held, FileContext.createOperation, FileContext.operations]
    | async type handle packet =>
      by_cases size : (s.ctx.reports.reportSizes packet.reportId).get type.reportKind = 0
      · refine .unknown ?_ ?_ ?_ ?_ <;>
          simp [t, Thread.step, Thread.logged, FileState.dispatchAsyncOperation, created, present,
            Thread.held, FileContext.createOperation, FileContext.operations, size, IdLog.dispatch]
      · refine .real (.request s.nextObject type (s.ctx.nextRequestId + 1) handle
          (packet.clamp ((s.ctx.reports.reportSizes packet.reportId).get type.reportKind)))
          ?_ ?_ ?_ rfl rfl ?_ <;>
          simp [t, Thread.step, Thread.logged, FileState.dispatchAsyncOperation, created, present,
            Thread.held, FileContext.createOperation, FileContext.operations, size, IdLog.dispatch]

/-- A completion moves the operation it takes into the log. -/
theorem present_taken {s : FileState} {t : Thread} (ht : t.held = 0) (log : IdLog)
    {op : Operation} {before after : List Operation} {ts : List Thread}
    (hts : (ts.map Thread.held).sum = 0)
    (ho : s.ctx.outstandingRequests = before ++ op :: after) :
    present { s with ctx := { s.ctx with outstandingRequests := before ++ after } }
      { log with completed := log.completed ++ [op] } ts = present s log [t] := by
  have moved : (after ++ (log.completed ++ [op])).Perm (op :: (after ++ log.completed)) := by
    rw [← List.append_assoc]
    exact List.perm_append_singleton op _
  have all := (moved.append_left before).append_left s.ctx.waitingRequests
  simpa [present, hts, ht, FileContext.operations, ho] using all

theorem Thread.Steps.idMove {fw : Framework} {s s' : FileState} {t : Thread} {ts : List Thread}
    (h : Thread.Steps fw s t s' ts) (log : IdLog) (hd : ∀ call rest, t ≠ .dispatch call rest)
    (hw : ∀ request c, t ≠ .takeWrite request c)
    (hr : ∀ request input c, t ≠ .takeRead request input c) :
    IdMove s log (present s log [t]) s' log (present s' log ts) := by
  cases h with
  | notCreated call rest | unknownReport call rest | created call rest =>
    exact absurd rfl (hd call rest)
  | writeNotFound request c | writeTaken request c => exact absurd rfl (hw request c)
  | readNotFound request input c | readTaken request input c | readFailed request input c =>
    exact absurd rfl (hr request input c)
  | givenUp op rest =>
    refine .kept rfl rfl rfl ?_
    have fewer := (List.sublist_cons_self op (s.ctx.operations ++ log.completed)).subperm
    simpa [present, Thread.held] using fewer
  | queued op rest =>
    refine .kept rfl rfl rfl (le_of_eq ?_)
    simp [present, Thread.held, FileContext.operations]
  | handed event caller rest op waiting hwait =>
    refine .kept rfl rfl rfl (le_of_eq ?_)
    have moved : (waiting ++ s.ctx.outstandingRequests ++ op :: log.completed).Perm
        (op :: (waiting ++ s.ctx.outstandingRequests ++ log.completed)) := List.perm_middle
    simpa [present, Thread.held, FileContext.operations, hwait] using moved
  | closed =>
    refine .kept rfl rfl rfl ?_
    have fewer := (List.sublist_append_right s.ctx.operations log.completed).subperm
    simpa [present, Thread.held, FileContext.operations] using fewer
  | _ =>
    refine .kept rfl rfl rfl ?_
    simp [present, Thread.held]

theorem Thread.idMove (fw : Framework) (s : FileState) (log : IdLog) (t : Thread) :
    IdMove s log (present s log [t]) (t.step fw s).1 (t.logged fw s log)
      (present (t.step fw s).1 (t.logged fw s log) (t.step fw s).2) := by
  cases t with
  | dispatch call rest => exact dispatch_idMove fw s log call rest
  | takeWrite request c =>
    rcases takeWriteEvent_cases fw s.ctx request c with
      ⟨-, ht⟩ | ⟨op, before, after, ho, -, -, ht⟩
    · refine .kept ?_ rfl ?_ ?_ <;>
        simp [Thread.step, FileState.takeWrite, Thread.logged, ht, CompletionRun.rejected,
          IdLog.complete, present, Thread.held]
    · have moved := present_taken (t := .takeWrite request c) rfl log
        (held_remaining (completeOperation fw request op c.status)) ho
      refine .kept ?_ rfl ?_ (le_of_eq ?_)
      · simp [Thread.step, FileState.takeWrite, ht]
      · simp [Thread.logged, IdLog.complete]
      · simpa [Thread.step, FileState.takeWrite, Thread.logged, ht, IdLog.complete] using moved
  | takeRead request input c =>
    rcases takeReadEvent_cases fw s.ctx request input c with
      ⟨-, ht⟩ | ⟨op, before, after, ho, -, -, ht⟩
    · refine .kept ?_ rfl ?_ ?_ <;>
        simp [Thread.step, FileState.takeRead, Thread.logged, ht, CompletionRun.rejected,
          IdLog.complete, present, Thread.held]
    · have none : (((Thread.takeRead request input c).step fw s).2.map Thread.held).sum = 0 := by
        simp only [Thread.step, FileState.takeRead]
        split
        next => rfl
        next => exact held_remaining _
      have moved := present_taken (t := .takeRead request input c) rfl log none ho
      refine .kept ?_ rfl ?_ (le_of_eq ?_)
      · simp [Thread.step, FileState.takeRead, ht]
      · simp [Thread.logged, IdLog.complete]
      · simpa [Thread.step, FileState.takeRead, Thread.logged, ht, IdLog.complete] using moved
  | _ => exact (Thread.step_cases fw s _).idMove log (by simp) (by simp) (by simp)

/-- The operations that are present have objects of their own, and the ids of the real ones are
those of their places in the order of dispatch. -/
structure IdsInOrder (s : FileState) (log : IdLog) (m : Multiset Operation) : Prop where
  next : s.ctx.nextRequestId = UInt32.ofNat log.dispatched.length
  below : ∀ object ∈ log.dispatched, object < s.nextObject
  once : log.dispatched.Nodup
  objects : (m.map Operation.object).Nodup
  present_below : ∀ op ∈ m, op.object < s.nextObject
  ids : ∀ op ∈ m, op.requestId ≠ 0 →
    ∃ k : Nat, log.dispatched[k]? = some op.object ∧ op.requestId = serialId k

namespace IdsInOrder

variable {s s' : FileState} {log log' : IdLog} {m m' : Multiset Operation}

theorem fewer (hi : IdsInOrder s log m) (hm : m' ≤ m) : IdsInOrder s log m' where
  next := hi.next
  below := hi.below
  once := hi.once
  objects := Multiset.nodup_of_le (Multiset.map_le_map hm) hi.objects
  present_below := fun op hop => hi.present_below op (Multiset.mem_of_le hm hop)
  ids := fun op hop => hi.ids op (Multiset.mem_of_le hm hop)

/-- An object is created. -/
theorem create (hi : IdsInOrder s log m) (hid : s'.ctx.nextRequestId = s.ctx.nextRequestId)
    (hobject : s'.nextObject = s.nextObject + 1) (hlog : log'.dispatched = log.dispatched) :
    IdsInOrder s' log' m := by
  refine ⟨by rw [hid, hlog, hi.next], fun o ho => ?_, by rw [hlog]; exact hi.once, hi.objects,
    fun op hop => ?_, fun op hop real => ?_⟩
  · rw [hlog] at ho
    rw [hobject]
    exact Nat.lt_succ_of_lt (hi.below o ho)
  · rw [hobject]
    exact Nat.lt_succ_of_lt (hi.present_below op hop)
  · rw [hlog]
    exact hi.ids op hop real

/-- An object takes the next id. -/
theorem dispatch (hi : IdsInOrder s log m) (hid : s'.ctx.nextRequestId = s.ctx.nextRequestId + 1)
    (hobject : s'.nextObject = s.nextObject + 1)
    (hlog : log'.dispatched = log.dispatched ++ [s.nextObject]) : IdsInOrder s' log' m := by
  refine ⟨?_, fun o ho => ?_, ?_, hi.objects, fun op hop => ?_, fun op hop real => ?_⟩
  · rw [hid, hlog, hi.next, List.length_append, UInt32.ofNat_add]
    rfl
  · rw [hlog, List.mem_append, List.mem_singleton] at ho
    rw [hobject]
    rcases ho with ho | rfl
    · exact Nat.lt_succ_of_lt (hi.below o ho)
    · exact Nat.lt_succ_self _
  · rw [hlog]
    refine hi.once.append (List.nodup_singleton _) ?_
    intro o ho hs
    obtain rfl := List.mem_singleton.mp hs
    exact absurd (hi.below _ ho) (Nat.lt_irrefl _)
  · rw [hobject]
    exact Nat.lt_succ_of_lt (hi.present_below op hop)
  · obtain ⟨k, hk, hid⟩ := hi.ids op hop real
    exact ⟨k, by rw [hlog]; exact List.getElem?_concat_eq_some_iff.mpr (.inl hk), hid⟩

/-- An operation is there that was not. -/
theorem push (hi : IdsInOrder s log m) {op : Operation} (fresh : ∀ o ∈ m, o.object ≠ op.object)
    (below : op.object < s.nextObject)
    (id : op.requestId ≠ 0 →
      ∃ k : Nat, log.dispatched[k]? = some op.object ∧ op.requestId = serialId k) :
    IdsInOrder s log (op ::ₘ m) := by
  refine ⟨hi.next, hi.below, hi.once, ?_, fun o ho => ?_, fun o ho real => ?_⟩
  · rw [Multiset.map_cons, Multiset.nodup_cons]
    refine ⟨fun hm => ?_, hi.objects⟩
    obtain ⟨o, ho, same⟩ := Multiset.mem_map.mp hm
    exact fresh o ho same
  · rcases Multiset.mem_cons.mp ho with rfl | ho
    · exact below
    · exact hi.present_below o ho
  · rcases Multiset.mem_cons.mp ho with rfl | ho
    · exact id real
    · exact hi.ids o ho real

theorem move (hi : IdsInOrder s log m) (h : IdMove s log m s' log' m') : IdsInOrder s' log' m' := by
  have fresh : ∀ o ∈ m, o.object ≠ s.nextObject := fun o ho =>
    Nat.ne_of_lt (hi.present_below o ho)
  cases h with
  | kept hid hobject hlog hm =>
    have less := hi.fewer hm
    refine ⟨by rw [hid, hlog, hi.next], ?_, by rw [hlog]; exact hi.once, less.objects, ?_, ?_⟩
    · rw [hlog, hobject]
      exact hi.below
    · rw [hobject]
      exact less.present_below
    · rw [hlog]
      exact less.ids
  | pseudo hid hobject hlog hm =>
    rw [hm]
    refine (hi.create hid hobject hlog).push fresh ?_ fun real => absurd rfl real
    rw [hobject]
    exact Nat.lt_succ_self _
  | unknown hid hobject hlog hm =>
    rw [hm]
    exact hi.dispatch hid hobject hlog
  | real op hid hobject hlog ho hr hm =>
    rw [hm]
    have below : op.object < s'.nextObject := by
      rw [ho, hobject]
      exact Nat.lt_succ_self _
    refine (hi.dispatch hid hobject hlog).push (by rw [ho]; exact fresh) below fun _ => ?_
    refine ⟨log.dispatched.length, ?_, ?_⟩
    · rw [hlog, ho, List.getElem?_concat_length]
    · rw [hr, hi.next, serialId, UInt32.ofNat_add]
      rfl

end IdsInOrder

/-- In every reached state the ids follow the order of dispatch. -/
theorem requestIds_inOrder {reports : ParsedReports} {f : LoggedFile}
    (h : LoggedReach reports f) :
    IdsInOrder f.pool.shared f.log (present f.pool.shared f.log f.pool.threads) := by
  induction h with
  | start hi =>
    cases hi
    exact ⟨rfl, by simp, by simp, by simp [present, FileState.created, FileContext.operations],
      by simp [present, FileState.created, FileContext.operations],
      by simp [present, FileState.created, FileContext.operations]⟩
  | next _ _ hs ih =>
    rcases loggedStep_cases hs with ⟨hctx, hobject, hlog, ts, hts, none⟩ | ⟨fw, l, t, r, hl, rfl⟩
    · refine ih.move (.kept (by rw [hctx]) hobject (by rw [hlog]) (le_of_eq ?_))
      simp [present, hts, none, hctx, hlog]
    · have whole : l ++ t :: r = l ++ [t] ++ r := by simp
      rw [hl, whole, present_frame] at ih
      rw [present_frame]
      exact ih.move ((t.idMove fw _ _).add _)

/-- Every operation in `OutstandingRequests` with the id has fewer than 2^31 real operations
dispatched after it. -/
def LoggedFile.Below (f : LoggedFile) (id : RequestId) : Prop :=
  ∀ op ∈ f.pool.shared.ctx.outstandingRequests, op.requestId = id → f.log.since op < 2 ^ 31

/-- Both completion handlers take this operation off `OutstandingRequests` and no other. -/
def FileState.Takes (s : FileState) (id : RequestId) (op : Operation) : Prop :=
  ∃ before after, s.ctx.outstandingRequests = before ++ op :: after ∧ ∀ fw request,
    (∀ c, c.requestId = id → (Thread.step fw s (.takeWrite request c)).1 =
      { s with ctx := { s.ctx with outstandingRequests := before ++ after } }) ∧
    ∀ input c, c.requestId = id → (Thread.step fw s (.takeRead request input c)).1 =
      { s with ctx := { s.ctx with outstandingRequests := before ++ after } }

/-- Both completion handlers fail with `STATUS_NOT_FOUND` and change nothing. -/
def FileState.NotFound (s : FileState) (id : RequestId) : Prop :=
  ∀ fw request,
    (∀ c, c.requestId = id → Thread.step fw s (.takeWrite request c) =
      (s, remaining (requestFailed request statusNotFound))) ∧
    ∀ input c, c.requestId = id → Thread.step fw s (.takeRead request input c) =
      (s, remaining (requestFailed request statusNotFound))

theorem takes_of_takeOutstanding {s : FileState} {id : RequestId} {op : Operation}
    {before after : List Operation} (ho : s.ctx.outstandingRequests = before ++ op :: after)
    (ht : s.ctx.takeOutstanding id =
      some (op, { s.ctx with outstandingRequests := before ++ after })) : s.Takes id op := by
  refine ⟨before, after, ho, fun fw request => ⟨?_, ?_⟩⟩
  · rintro c rfl
    simp [Thread.step, FileState.takeWrite, takeWriteEvent, ht]
  · rintro input c rfl
    simp [Thread.step, FileState.takeRead, takeReadEvent, ht]

theorem notFound_of_takeOutstanding {s : FileState} {id : RequestId}
    (ht : s.ctx.takeOutstanding id = none) : s.NotFound id := by
  refine fun fw request => ⟨?_, ?_⟩
  · rintro c rfl
    simp [Thread.step, FileState.takeWrite, takeWriteEvent, ht, CompletionRun.rejected]
  · rintro input c rfl
    simp [Thread.step, FileState.takeRead, takeReadEvent, ht, CompletionRun.rejected]

namespace IdsInOrder

variable {s : FileState} {log : IdLog} {m : Multiset Operation}

/-- Two operations with one id and few dispatches since are the same. -/
theorem same_object (hi : IdsInOrder s log m) {a b : Operation} (ha : a ∈ m) (hb : b ∈ m)
    (real : a.requestId ≠ 0) (same : a.requestId = b.requestId) (recentA : log.since a < 2 ^ 31)
    (recentB : log.since b < 2 ^ 31) : a.object = b.object := by
  obtain ⟨j, hj, ida⟩ := hi.ids a ha real
  obtain ⟨k, hk, idb⟩ := hi.ids b hb (same ▸ real)
  obtain ⟨hjlt, hjv⟩ := List.getElem?_eq_some_iff.mp hj
  obtain ⟨hklt, hkv⟩ := List.getElem?_eq_some_iff.mp hk
  have placeA : log.dispatched.idxOf a.object = j := by rw [← hjv, hi.once.idxOf_getElem]
  have placeB : log.dispatched.idxOf b.object = k := by rw [← hkv, hi.once.idxOf_getElem]
  rw [IdLog.since, placeA] at recentA
  rw [IdLog.since, placeB] at recentB
  have place := serialId_inj (ida.symm.trans (same.trans idb)) (by omega) (by omega)
  rw [← hjv, ← hkv]
  congr 1

end IdsInOrder

/-- Ids have the top bit set; two real operations with fewer than 2^31 dispatches since the older
one have different ids; and a completion finds the operation it is for, once. -/
theorem requestIds_disciplined {reports : ParsedReports} {f : LoggedFile}
    (h : LoggedReach reports f) :
    (∀ op ∈ present f.pool.shared f.log f.pool.threads, op.handle ≠ none →
      op.requestId.toNat.testBit 31 = true) ∧
    (f.pool.shared.ctx.operations.Pairwise fun a b => a.handle ≠ none → b.handle ≠ none →
      f.log.sinceOlder a b < 2 ^ 31 → a.requestId ≠ b.requestId) ∧
    (∀ op ∈ f.pool.shared.ctx.outstandingRequests, op.handle ≠ none → f.Below op.requestId →
      f.pool.shared.Takes op.requestId op) ∧
    ∀ op ∈ f.log.completed, op.handle ≠ none → f.log.since op < 2 ^ 31 → f.Below op.requestId →
      f.pool.shared.NotFound op.requestId := by
  have order := requestIds_inOrder h
  have real {op : Operation} (handle : op.handle ≠ none) : op.requestId ≠ 0 := fun hz =>
    handle (op.pseudo_iff.mp hz)
  have current {op : Operation} (hop : op ∈ f.pool.shared.ctx.operations) :
      op ∈ present f.pool.shared f.log f.pool.threads := by simp [present, hop]
  have outstanding {op : Operation} (hop : op ∈ f.pool.shared.ctx.outstandingRequests) :
      op ∈ f.pool.shared.ctx.operations := List.mem_append_right _ hop
  have apart : (f.pool.shared.ctx.operations.map Operation.object ++
      f.log.completed.map Operation.object).Nodup := by
    have objects := order.objects
    rw [present, Multiset.map_add, Multiset.map_add] at objects
    exact Multiset.coe_nodup.mp (Multiset.nodup_add.mp objects).2.1
  obtain ⟨distinct, -, disjoint⟩ := List.nodup_append'.mp apart
  refine ⟨fun op hop handle => ?_, ?_, fun op hop handle below => ?_,
    fun op hop handle recent below => ?_⟩
  · obtain ⟨k, -, id⟩ := order.ids op hop (real handle)
    rw [id]
    exact testBit_realRequestId _
  · refine (List.pairwise_map.mp distinct).imp_of_mem fun ha hb hne handleA handleB bound same => ?_
    rw [IdLog.sinceOlder] at bound
    exact hne (order.same_object (current ha) (current hb) (real handleA) same (by omega)
      (by omega))
  · rcases f.pool.shared.ctx.takeOutstanding_cases op.requestId with
      ⟨missing, -⟩ | ⟨op', before, after, ho, hid, -, ht⟩
    · rw [FileContext.outstandingOperation, List.find?_eq_none] at missing
      exact absurd (beq_self_eq_true _) (missing op hop)
    · have found : op' ∈ f.pool.shared.ctx.outstandingRequests := by simp [ho]
      have same := order.same_object (current (outstanding found)) (current (outstanding hop))
        (by rw [hid]; exact real handle) hid (below op' found hid) (below op hop rfl)
      obtain rfl := List.inj_on_of_nodup_map distinct (outstanding found) (outstanding hop) same
      exact takes_of_takeOutstanding ho ht
  · rcases f.pool.shared.ctx.takeOutstanding_cases op.requestId with
      ⟨-, ht⟩ | ⟨op', before, after, ho, hid, -, -⟩
    · exact notFound_of_takeOutstanding ht
    · have found : op' ∈ f.pool.shared.ctx.outstandingRequests := by simp [ho]
      have completed : op ∈ present f.pool.shared f.log f.pool.threads := by simp [present, hop]
      have same := order.same_object (current (outstanding found)) completed
        (by rw [hid]; exact real handle) hid (below op' found hid) recent
      exact absurd (List.mem_map.mpr ⟨op, hop, same.symm⟩)
        (disjoint (List.mem_map_of_mem (outstanding found)))

/-- One `SET_FEATURE` is dispatched, delivered and completed. -/
def completeSetFeature : List Action :=
  [.asyncOperation .setFeature ⟨fun _ => 0, 1, 0⟩, .run 0 {}, .run 0 {}, .run 0 {},
    .getNextEvent 14, .run 0 {}, .run 0 {}, .run 0 {},
    .completeWriteEvent ⟨ulongBytes 0x80000001 ++ ulongBytes statusSuccess, fun _ => 0⟩,
    .run 0 {}, .run 0 {}]

theorem requestIds_disciplined_repeated : ∃ f, LoggedReach ⟨fun _ => ⟨0, 0, 4⟩, false⟩ f ∧
    ∃ op ∈ f.log.completed, op.requestId = 0x80000001 ∧ f.pool.shared.NotFound op.requestId := by
  obtain ⟨f, hr, hc, hd, ho⟩ := exists_loggedReach ⟨fun _ => ⟨0, 0, 4⟩, false⟩ completeSetFeature
    (P := fun f => f.log.completed.map Operation.requestId = [0x80000001] ∧
      f.log.dispatched.length = 1 ∧ f.pool.shared.ctx.outstandingRequests.length = 0) rfl
  obtain ⟨op, hop, hid⟩ := List.mem_map.mp (hc ▸ List.mem_singleton_self (0x80000001 : RequestId))
  have handle : op.handle ≠ none := fun hn => by
    have pseudo := op.pseudo_iff.mpr hn
    rw [hid] at pseudo
    cases pseudo
  refine ⟨f, hr, op, hop, hid, (requestIds_disciplined hr).2.2.2 op hop handle ?_ ?_⟩
  · rw [IdLog.since, hd]
    omega
  · intro other hother
    rw [List.length_eq_zero_iff.mp ho] at hother
    cases hother

end WinUHid
