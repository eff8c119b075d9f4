import WinUHid.FileSteps

namespace WinUHid

def ParsedReports.sizeFor (reports : ParsedReports) (type : EventType) (reportId : UInt8) : UInt32 :=
  (reports.reportSizes reportId).get type.reportKind

/-- What a new operation is, by the call that created it. -/
def Operation.CreatedBy (reports : ParsedReports) (object : ObjectId) (op : Operation) :
    DispatchCall → Prop
  | .readyForRead => op = .readyForRead object
  | .async type handle packet =>
    ∃ n, reports.sizeFor type packet.reportId ≠ 0 ∧
      op = .request object type n handle (packet.clamp (reports.sizeFor type packet.reportId))

theorem FileContext.createOperation_eq {ctx ctx' : FileContext} {object : ObjectId}
    {call : DispatchCall} {op : Option Operation}
    (h : ctx.createOperation object call = (ctx', op)) :
    ctx' = { ctx with nextRequestId := ctx'.nextRequestId } ∧
      ∀ o ∈ op, o.CreatedBy ctx.reports object call := by
  cases call with
  | readyForRead =>
    obtain ⟨rfl, rfl⟩ := Prod.mk.inj h
    exact ⟨rfl, fun o ho => (Option.some.inj ho).symm⟩
  | async type handle packet =>
    obtain ⟨rfl, rfl⟩ := Prod.mk.inj h
    refine ⟨rfl, fun o ho => ?_⟩
    split at ho
    · cases ho
    next hsize => exact ⟨_, hsize, (Option.some.inj ho).symm⟩

/-- An operation of this file: the pseudo-operation, or one that VHF asked for, with the length
clamped to the size of its report. -/
def FileState.Issued (s : FileState) (op : Operation) : Prop :=
  op = .readyForRead op.object ∨
  ∃ type handle packet n, .asyncOperation type handle packet ∈ s.trace ∧
    s.ctx.reports.sizeFor type packet.reportId ≠ 0 ∧
    op = .request op.object type n handle
      (packet.clamp (s.ctx.reports.sizeFor type packet.reportId))

/-- What a thread holds comes from VHF. -/
def Thread.Traced (s : FileState) : Thread → Prop
  | .dispatch (.async type handle packet) _ => .asyncOperation type handle packet ∈ s.trace
  | .enqueue op _ => s.Issued op
  | _ => True

/-- A step never changes the parsed reports and only adds to the trace. -/
def FileState.Extends (s s' : FileState) : Prop :=
  s'.ctx.reports = s.ctx.reports ∧ s.trace ⊆ s'.trace

theorem FileState.Extends.issued {s s' : FileState} (h : s.Extends s') {op : Operation}
    (ho : s.Issued op) : s'.Issued op := by
  rcases ho with hp | ⟨type, handle, packet, n, hm, hsize, heq⟩
  · exact .inl hp
  · refine .inr ⟨type, handle, packet, n, h.2 hm, ?_, ?_⟩
    · rwa [h.1]
    · rwa [h.1]

theorem FileState.Extends.traced {s s' : FileState} (h : s.Extends s') {t : Thread}
    (ht : t.Traced s) : t.Traced s' := by
  cases t with
  | dispatch call rest =>
    cases call with
    | async type handle packet => exact h.2 ht
    | readyForRead => trivial
  | enqueue op rest => exact h.issued ht
  | _ => trivial

theorem Arrives.extends {s s' : FileState} {a : Action} {t : Thread} (h : Arrives s a s' t) :
    s.Extends s' := by
  cases h <;> exact ⟨rfl, by simp⟩

theorem Thread.Steps.extends {fw : Framework} {s s' : FileState} {t : Thread} {ts : List Thread}
    (h : Thread.Steps fw s t s' ts) : s.Extends s' := by
  cases h with
  | unknownReport call rest ctx _ hc =>
    exact ⟨by rw [(FileContext.createOperation_eq hc).1], fun _ he => he⟩
  | created call rest ctx op _ hc =>
    exact ⟨by rw [(FileContext.createOperation_eq hc).1], fun _ he => he⟩
  | _ => exact ⟨rfl, by simp⟩

theorem traced_remaining (s : FileState) (es : List Effect) : ∀ u ∈ remaining es, u.Traced s := by
  intro u hu
  cases es with
  | nil => cases hu
  | cons e es =>
    cases List.mem_singleton.mp hu
    trivial

theorem Thread.Steps.traced {fw : Framework} {s s' : FileState} {t : Thread} {ts : List Thread}
    (h : Thread.Steps fw s t s' ts) (ht : t.Traced s) : ∀ u ∈ ts, u.Traced s' := by
  have hext := h.extends
  cases h with
  | created call rest ctx op _ hc =>
    intro u hu
    cases List.mem_singleton.mp hu
    obtain ⟨hctx, hop⟩ := FileContext.createOperation_eq hc
    have hby := hop op rfl
    refine hext.issued ?_
    cases call with
    | readyForRead =>
      cases hby
      exact .inl rfl
    | async type handle packet =>
      obtain ⟨n, hsize, rfl⟩ := hby
      exact .inr ⟨type, handle, packet, n, ht, hsize, rfl⟩
  | queued | retrieved | accepted | pending | writeAccepted | readAccepted | readFailed =>
    intro u hu
    cases List.mem_singleton.mp hu
    trivial
  | ended => simp
  | _ => exact traced_remaining _ _

def FileContext.operations (ctx : FileContext) : List Operation :=
  ctx.waitingRequests ++ ctx.outstandingRequests

theorem Thread.Steps.operations {fw : Framework} {s s' : FileState} {t : Thread} {ts : List Thread}
    (h : Thread.Steps fw s t s' ts) (ht : t.Traced s) (hs : ∀ op ∈ s.ctx.operations, s.Issued op) :
    ∀ op ∈ s'.ctx.operations, s'.Issued op := by
  have hext := h.extends
  intro op hop
  refine hext.issued ?_
  cases h with
  | unknownReport call rest ctx _ hc =>
    rw [(FileContext.createOperation_eq hc).1] at hop
    exact hs op hop
  | created call rest ctx op _ hc =>
    rw [(FileContext.createOperation_eq hc).1] at hop
    exact hs _ hop
  | queued new rest =>
    simp only [FileContext.operations, FileState.record_ctx, List.mem_append,
      List.mem_singleton] at hop
    rcases hop with (hop | rfl) | hop
    · exact hs op (by simp [FileContext.operations, hop])
    · exact ht
    · exact hs op (by simp [FileContext.operations, hop])
  | handed event caller rest first waiting hw =>
    refine hs op ?_
    simp only [FileContext.operations, FileState.record_ctx, hw, List.mem_append,
      List.mem_cons, List.not_mem_nil, or_false] at hop ⊢
    tauto
  | writeTaken request c taken before after ho | readFailed request input c taken before after ho
  | readTaken request input c taken before after completion ho =>
    refine hs op ?_
    simp only [FileContext.operations, ho, List.mem_append, List.mem_cons] at hop ⊢
    tauto
  | closed => simp [FileContext.operations] at hop
  | _ => exact hs op hop

section

variable {guard : FilePool → Action → Prop} {reports : ParsedReports} {p : FilePool}

theorem operations_issued (h : FileReach guard reports p) :
    (∀ op ∈ p.shared.ctx.operations, p.shared.Issued op) ∧ ∀ t ∈ p.threads, t.Traced p.shared := by
  induction h using FileReach.induct with
  | start => simp [FileState.created, FileContext.operations]
  | arrives p a s t _ _ _ ha ih =>
    obtain ⟨hops, hthreads⟩ := ih
    have hext := ha.extends
    have hctx : s.ctx = p.shared.ctx := by cases ha <;> rfl
    constructor
    · intro op hop
      exact hext.issued (hops op (hctx ▸ hop))
    · refine Pool.forall_spawn (fun u hu => hext.traced (hthreads u hu)) ?_
      cases ha <;> simp [Thread.Traced]
  | cancelled p before event after _ _ _ ih =>
    have hext : p.shared.Extends (FileState.emit
        { p.shared with getNextEventQueue := before ++ after }
        (requestFailed event.request statusCancelled)) := ⟨rfl, by simp⟩
    exact ⟨fun op hop => hext.issued (ih.1 op hop), fun u hu => hext.traced (ih.2 u hu)⟩
  | ran p i fw l t r s ts _ _ _ hp _ hs ih =>
    obtain ⟨hops, hthreads⟩ := ih
    have ht : t.Traced p.shared := hthreads t (by simp [hp])
    refine ⟨hs.operations ht hops, Pool.forall_replace (t := t) ?_ fun _ => hs.traced ht⟩
    exact fun u hu => hs.extends.traced (hthreads u (hp ▸ hu))

theorem reports_constant (h : FileReach guard reports p) : p.shared.ctx.reports = reports := by
  induction h using FileReach.induct with
  | start => rfl
  | arrives p a s t _ _ _ ha ih => rw [Pool.spawn_shared, ha.extends.1, ih]
  | cancelled p before event after _ _ _ ih => exact ih
  | ran p i fw l t r s ts _ _ _ _ _ hs ih => rw [hs.extends.1, ih]

theorem operations_empty_of_closed (h : FileReach guard reports p)
    (hc : p.shared.ctx.vhfHandle = false) : p.shared.ctx.operations = [] := by
  induction h using FileReach.induct with
  | start => cases hc
  | arrives p a s t _ _ _ ha ih => cases ha <;> exact ih hc
  | cancelled p before event after _ _ _ ih => exact ih hc
  | ran p i fw l t r s ts _ _ _ _ _ hs ih =>
    cases hs with
    | unknownReport call rest ctx _ hcreate | created call rest ctx op _ hcreate =>
      rw [(FileContext.createOperation_eq hcreate).1] at hc ⊢
      exact ih hc
    | queued op rest hv =>
      simp only [FileState.record_ctx] at hc
      simp [hv] at hc
    | handed event caller rest op waiting hw =>
      have hops := ih hc
      simp [FileContext.operations, hw] at hops
    | writeTaken request c op before after ho | readFailed request input c op before after ho
    | readTaken request input c op before after completion ho =>
      have hops := ih hc
      simp [FileContext.operations, ho] at hops
    | closed => rfl
    | _ => exact ih hc

theorem vhfHandle_of_outstanding (h : FileReach guard reports p) {op : Operation}
    (hop : op ∈ p.shared.ctx.outstandingRequests) : p.shared.ctx.vhfHandle := by
  by_contra hclosed
  have hempty := operations_empty_of_closed h (by simpa using hclosed)
  simp only [FileContext.operations, List.append_eq_nil_iff] at hempty
  rw [hempty.2] at hop
  cases hop

end

end WinUHid
