import WinUHid.ExactlyOnce

namespace WinUHid

/-- What the trace says about VHF's call for an input report. -/
structure ReadyForRead where
  /-- VHF has called, and has accepted no report since. -/
  awaiting : Bool
  /-- The last answer to a pseudo-event is an acknowledgement, and none was added since. -/
  acknowledged : Bool

def ReadyForRead.next (s : ReadyForRead) : FileEvent → ReadyForRead
  | .readyForNextReadReport => { s with awaiting := true }
  | .queued op => if op.requestId = 0 then { s with acknowledged := false } else s
  | .effect (.readReportSubmit _ status answered) =>
    ⟨s.awaiting && !ntSuccess status, s.acknowledged && answered.isNone⟩
  | .effect (.acknowledged _) => { s with acknowledged := true }
  | _ => s

def readyForRead (trace : List FileEvent) : ReadyForRead :=
  trace.foldl ReadyForRead.next ⟨false, false⟩

/-- The call answers a pseudo-event. -/
def Effect.answers : Effect → Bool
  | .readReportSubmit _ _ answered => answered.isSome
  | .acknowledged _ => true
  | _ => false

def Effect.rejects : Effect → Bool
  | .readReportSubmit _ status (some _) => !ntSuccess status
  | _ => false

/-- A pseudo-operation on its way into `WaitingRequests`, or one that is being answered. -/
def Thread.carries : Thread → Bool
  | .dispatch .readyForRead _ => true
  | .enqueue op _ => op.requestId == 0
  | .calls effects => effects.any Effect.answers
  | _ => false

/-- The request id with which a COMPLETE_WRITE_EVENT is about to take an operation. -/
def Thread.writeRequestId : Thread → Option RequestId
  | .takeWrite _ writeComplete => some writeComplete.requestId
  | _ => none

/-- The allocations of a step succeed, and a pseudo-event is not answered by
COMPLETE_WRITE_EVENT. -/
def Thread.Expected (fw : Framework) (t : Thread) : Prop :=
  ntSuccess fw.objectCreate ∧ ntSuccess fw.collectionAdd ∧ t.writeRequestId ≠ some 0

instance (fw : Framework) (t : Thread) : Decidable (t.Expected fw) :=
  inferInstanceAs (Decidable (_ ∧ _ ∧ _))

/-- VHF calls for a report only where it is not waiting for one. -/
def expected (p : FilePool) : Action → Prop
  | .readyForNextReadReport => (readyForRead p.shared.trace).awaiting = false
  | a => onRun (fun fw _ t => t.Expected fw) p a

instance (p : FilePool) : ∀ a, Decidable (expected p a)
  | .readyForNextReadReport =>
    inferInstanceAs (Decidable ((readyForRead p.shared.trace).awaiting = false))
  | .run i fw => inferInstanceAs (Decidable (onRun (fun fw _ t => t.Expected fw) p (.run i fw)))
  | .asyncOperation _ _ | .getNextEvent _ | .completeWriteEvent _ | .completeReadEvent _
  | .write _ | .cancelRequest _ | .fileClose => .isTrue trivial

def Thread.rejects : Thread → Bool
  | .calls (e :: _) => e.rejects
  | _ => false

/-- A rejected answer leaves VHF without need of a report, or another pseudo-operation. -/
def Thread.Spares (p : FilePool) (t : Thread) : Prop :=
  t.rejects → (readyForRead p.shared.trace).awaiting = false ∨
    (∃ op ∈ p.shared.ctx.operations, op.requestId = 0) ∨ 1 < p.threads.countP Thread.carries

instance (p : FilePool) (t : Thread) : Decidable (t.Spares p) :=
  inferInstanceAs (Decidable (_ → _ ∨ _ ∨ _))

def spares : FilePool → Action → Prop := onRun fun _ p t => t.Spares p

instance (p : FilePool) (a : Action) : Decidable (spares p a) :=
  inferInstanceAs (Decidable (onRun _ p a))

/-- VHF's call for a report is in one of the collections, acknowledged, or in one of the
threads. -/
def FileState.Keeps (s : FileState) (ts : List Thread) : Prop :=
  (∃ op ∈ s.ctx.operations, op.requestId = 0) ∨ (readyForRead s.trace).acknowledged ∨
    ∃ t ∈ ts, t.carries

theorem readyForRead_append (trace events : List FileEvent) :
    readyForRead (trace ++ events) = events.foldl ReadyForRead.next (readyForRead trace) :=
  List.foldl_append

theorem awaiting_foldl {es : List Effect} {s : ReadyForRead}
    (h : ((es.map FileEvent.effect).foldl ReadyForRead.next s).awaiting) : s.awaiting := by
  induction es generalizing s with
  | nil => exact h
  | cons e es ih =>
    have hnext := ih h
    cases e with
    | readReportSubmit packet status answered =>
      simp only [ReadyForRead.next, Bool.and_eq_true] at hnext
      exact hnext.1
    | _ => exact hnext

theorem awaiting_emit {s : FileState} {es : List Effect}
    (h : (readyForRead (s.emit es).trace).awaiting) : (readyForRead s.trace).awaiting := by
  rw [FileState.emit_trace, readyForRead_append] at h
  exact awaiting_foldl h

theorem acknowledged_foldl {es : List Effect} {s : ReadyForRead} (hs : s.acknowledged)
    (hes : ∀ e ∈ es, e.answers = false) :
    ((es.map FileEvent.effect).foldl ReadyForRead.next s).acknowledged := by
  induction es generalizing s with
  | nil => exact hs
  | cons e es ih =>
    refine ih ?_ fun e' he' => hes e' (List.mem_cons_of_mem _ he')
    have he := hes e List.mem_cons_self
    cases e with
    | readReportSubmit packet status answered =>
      cases answered with
      | none => simpa [ReadyForRead.next] using hs
      | some object => cases he
    | acknowledged object => rfl
    | _ => exact hs

theorem acknowledged_emit {s : FileState} {es : List Effect}
    (hs : (readyForRead s.trace).acknowledged) (hes : ∀ e ∈ es, e.answers = false) :
    (readyForRead (s.emit es).trace).acknowledged := by
  rw [FileState.emit_trace, readyForRead_append]
  exact acknowledged_foldl hs hes

theorem carries_remaining {es : List Effect} (h : es.any Effect.answers) :
    ∃ t ∈ remaining es, t.carries := by
  cases es with
  | nil => cases h
  | cons e es => exact ⟨_, List.mem_singleton_self _, h⟩

theorem ReadCompletion.effects_answer {fw : Framework} {numberedReports : Bool}
    {request : IoRequest} {op : Operation} {input : InputBuffer} {c : ReadEventComplete}
    (hid : c.requestId = 0)
    (hnot : readCompletion numberedReports input c ≠ .readyForNextReadReport) :
    ((readCompletion numberedReports input c).effects fw numberedReports request op).any
      Effect.answers := by
  unfold readCompletion at hnot ⊢
  rw [if_pos hid] at hnot ⊢
  split at hnot
  next hd => simp [hd, ReadCompletion.effects, Effect.answers]
  next hd =>
    split at hnot
    next => exact absurd rfl hnot
    next hs => simp [hd, hs, ReadCompletion.effects, Effect.answers]

theorem FileState.Keeps.shared {s : FileState} {t : Thread} (h : s.Keeps [t])
    (ht : t.carries = false) : s.Keeps [] := by
  rcases h with hops | hack | ⟨u, hu, hcarries⟩
  · exact .inl hops
  · exact .inr (.inl hack)
  · cases List.mem_singleton.mp hu
    rw [ht] at hcarries
    cases hcarries

theorem FileState.Keeps.mono {s s' : FileState} {ts ts' : List Thread} (h : s.Keeps ts)
    (hops : ∀ op ∈ s.ctx.operations, op.requestId = 0 → op ∈ s'.ctx.operations)
    (hack : (readyForRead s.trace).acknowledged → (readyForRead s'.trace).acknowledged)
    (hts : ts ⊆ ts') : s'.Keeps ts' := by
  rcases h with ⟨op, hop, hid⟩ | ha | ⟨u, hu, hcarries⟩
  · exact .inl ⟨op, hops op hop hid, hid⟩
  · exact .inr (.inl (hack ha))
  · exact .inr (.inr ⟨u, hts hu, hcarries⟩)

theorem FileState.Keeps.replace {s s' : FileState} {l r ts : List Thread} {t : Thread}
    (h : s.Keeps (l ++ t :: r)) (hstep : s.Keeps [t] → s'.Keeps ts) :
    s'.Keeps (l ++ ts ++ r) := by
  by_cases hother : ∃ u ∈ l ++ r, u.carries
  · obtain ⟨u, hu, hcarries⟩ := hother
    refine .inr (.inr ⟨u, ?_, hcarries⟩)
    rcases List.mem_append.mp hu with hu | hu <;> simp [hu]
  · have ht : s.Keeps [t] := by
      rcases h with hops | hack | ⟨u, hu, hcarries⟩
      · exact .inl hops
      · exact .inr (.inl hack)
      · refine .inr (.inr ⟨u, ?_, hcarries⟩)
        by_contra hne
        refine hother ⟨u, ?_, hcarries⟩
        simp only [List.mem_append, List.mem_cons] at hu hne ⊢
        tauto
    exact (hstep ht).mono (fun _ hop _ => hop) id fun u hu => by simp [hu]

theorem Thread.Steps.vhfHandle {fw : Framework} {s s' : FileState} {t : Thread} {ts : List Thread}
    (h : Thread.Steps fw s t s' ts) (hv : s'.ctx.vhfHandle) : s.ctx.vhfHandle := by
  cases h with
  | unknownReport call rest ctx _ hc | created call rest ctx op _ hc =>
    rw [(FileContext.createOperation_eq hc).1] at hv
    exact hv
  | closed => simp at hv
  | _ => exact hv

theorem Thread.Steps.awaiting {fw : Framework} {s s' : FileState} {t : Thread} {ts : List Thread}
    (h : Thread.Steps fw s t s' ts) (ha : (readyForRead s'.trace).awaiting) :
    (readyForRead s.trace).awaiting := by
  cases h with
  | queued op rest =>
    rw [FileState.record_trace, readyForRead_append] at ha
    simp only [List.foldl_cons, List.foldl_nil, ReadyForRead.next] at ha
    split at ha <;> exact ha
  | handed =>
    rw [FileState.record_trace, readyForRead_append] at ha
    exact ha
  | readRejected | readAccepted | closed | called => exact awaiting_emit ha
  | _ => exact ha

theorem mem_operations_of_taken {ctx : FileContext} {op taken : Operation}
    {before after : List Operation} (ho : ctx.outstandingRequests = before ++ taken :: after)
    (hop : op ∈ ctx.operations) (hne : op ≠ taken) :
    op ∈ FileContext.operations { ctx with outstandingRequests := before ++ after } := by
  simp only [FileContext.operations, ho, List.mem_append, List.mem_cons] at hop ⊢
  tauto

theorem headerReads_answers (ctx : FileContext) (input : InputBuffer) :
    ∀ e ∈ headerReads ctx input, e.answers = false := by
  intro e he
  unfold headerReads at he
  split at he
  · cases List.mem_singleton.mp he
    rfl
  · cases he

/-- A call that is no answer leaves the answer to come; an answer that VHF does not reject settles
the matter. -/
theorem FileState.Keeps.called {s : FileState} {e : Effect} {es : List Effect}
    (hk : s.Keeps [.calls (e :: es)]) (hnot : e.rejects = false)
    (ha : (readyForRead (s.emit [e]).trace).awaiting) : (s.emit [e]).Keeps (remaining es) := by
  cases hans : e.answers with
  | false =>
    rcases hk with hops | hack | ⟨u, hu, hcarries⟩
    · exact .inl hops
    · exact .inr (.inl (acknowledged_emit hack (by simpa using hans)))
    · cases List.mem_singleton.mp hu
      simp only [Thread.carries, List.any_cons, hans, Bool.false_or] at hcarries
      exact .inr (.inr (carries_remaining hcarries))
  | true =>
    rw [FileState.emit_trace, readyForRead_append] at ha
    cases e with
    | acknowledged object =>
      refine .inr (.inl ?_)
      rw [FileState.emit_trace, readyForRead_append]
      rfl
    | readReportSubmit packet status answered =>
      cases answered with
      | none => cases hans
      | some object =>
        have hs : ntSuccess status := by simpa [Effect.rejects] using hnot
        simp [ReadyForRead.next, hs] at ha
    | _ => cases hans

/-- What a step keeps of a call for a report, unless it is a rejected answer. -/
theorem Thread.Steps.keeps {fw : Framework} {s s' : FileState} {t : Thread} {ts : List Thread}
    (h : Thread.Steps fw s t s' ts) (he : t.Expected fw)
    (hnot : t.rejects = false) (hv : s'.ctx.vhfHandle)
    (ha : (readyForRead s'.trace).awaiting) (hk : s.Keeps [t]) : s'.Keeps ts := by
  cases h with
  | notCreated call rest ho =>
    rw [he.1] at ho
    cases ho
  | unknownReport call rest ctx _ hc =>
    cases call with
    | readyForRead => cases hc
    | async type handle packet =>
      refine (hk.shared rfl).mono ?_ id (List.nil_subset _)
      rw [(FileContext.createOperation_eq hc).1]
      exact fun op hop _ => hop
  | created call rest ctx op _ hc =>
    obtain ⟨hctx, hop⟩ := FileContext.createOperation_eq hc
    cases call with
    | readyForRead =>
      have hpseudo : op = .readyForRead s.nextObject := hop op rfl
      exact .inr (.inr ⟨_, List.mem_singleton_self _, by simp [Thread.carries, hpseudo,
        Operation.readyForRead]⟩)
    | async type handle packet =>
      refine (hk.shared rfl).mono ?_ id (List.nil_subset _)
      rw [hctx]
      exact fun op hop _ => hop
  | givenUp op rest status hno =>
    rcases hno with hclosed | hadd
    · rw [hclosed] at hv
      cases hv
    · rw [he.2.1] at hadd
      cases hadd
  | queued op rest =>
    by_cases hid : op.requestId = 0
    · exact .inl ⟨op, by simp [FileContext.operations], hid⟩
    · refine (hk.shared (by simpa [Thread.carries] using hid)).mono ?_ ?_ (List.nil_subset _)
      · intro o ho _
        simp only [FileContext.operations, FileState.record_ctx, List.mem_append] at ho ⊢
        tauto
      · rw [FileState.record_trace, readyForRead_append]
        simp [ReadyForRead.next, hid]
  | handed event caller rest op waiting hw =>
    refine (hk.shared rfl).mono ?_ ?_ (List.nil_subset _)
    · intro o ho _
      simp only [FileContext.operations, FileState.record_ctx, hw, List.mem_append,
        List.mem_cons, List.not_mem_nil, or_false] at ho ⊢
      tauto
    · rw [FileState.record_trace, readyForRead_append]
      exact id
  | writeTaken request c op before after ho hid =>
    refine (hk.shared rfl).mono (fun o hmem hzero => ?_) id (List.nil_subset _)
    refine mem_operations_of_taken ho hmem ?_
    rintro rfl
    exact he.2.2 (congrArg some (hid.symm.trans hzero))
  | readTaken request input c op before after completion ho hid hc hne =>
    -- the pseudo-operation leaves the collection, and its answer is now with the thread
    subst hc
    by_cases hz : c.requestId = 0
    · exact .inr (.inr (carries_remaining (ReadCompletion.effects_answer hz hne)))
    · refine (hk.shared rfl).mono (fun o hmem hzero => ?_) id (List.nil_subset _)
      refine mem_operations_of_taken ho hmem ?_
      rintro rfl
      exact hz (hid.symm.trans hzero)
  | readFailed => exact .inr (.inr ⟨_, List.mem_singleton_self _, rfl⟩)
  | closed => simp at hv
  | readRejected request input | readAccepted request input =>
    refine (hk.shared rfl).mono (fun _ hop _ => hop) (fun hack => ?_) (List.nil_subset _)
    exact acknowledged_emit hack (headerReads_answers s.ctx input)
  | called e es => exact hk.called hnot ha
  | _ => exact (hk.shared rfl).mono (fun _ hop _ => hop) id (List.nil_subset _)

theorem Thread.Steps.keeps_of_rejects {fw : Framework} {p : FilePool} {s' : FileState}
    {l r ts : List Thread} {t : Thread} (h : Thread.Steps fw p.shared t s' ts)
    (hl : p.threads = l ++ t :: r) (ht : t.rejects) (hs : t.Spares p)
    (ha : (readyForRead p.shared.trace).awaiting) : s'.Keeps (l ++ ts ++ r) := by
  have hspared := hs ht
  cases h with
  | called e es =>
    rcases hspared with hnone | hops | hcount
    · rw [ha] at hnone
      cases hnone
    · exact .inl hops
    · have hother : 0 < (l ++ r).countP Thread.carries := by
        rw [hl, List.countP_append, List.countP_cons] at hcount
        rw [List.countP_append]
        split at hcount <;> omega
      obtain ⟨u, hu, hcarries⟩ := List.countP_pos_iff.mp hother
      refine .inr (.inr ⟨u, ?_, hcarries⟩)
      rcases List.mem_append.mp hu with hu | hu <;> simp [hu]
  | _ => cases ht

theorem Arrives.readyForRead {s s' : FileState} {a : Action} {t : Thread} (h : Arrives s a s' t)
    (ts : List Thread) (hk : (readyForRead s.trace).awaiting → s.Keeps ts)
    (ha : (readyForRead s'.trace).awaiting) : s'.Keeps (ts ++ [t]) := by
  cases h with
  | readyForNextReadReport =>
    exact .inr (.inr ⟨_, List.mem_append_right ts (List.mem_singleton_self _), rfl⟩)
  | asyncOperation type packet =>
    rw [FileState.record_trace, readyForRead_append] at ha
    refine (hk ha).mono (fun _ hop _ => hop) (fun hack => ?_) (List.subset_append_left _ _)
    rw [FileState.record_trace, readyForRead_append]
    exact hack
  | _ => exact (hk ha).mono (fun _ hop _ => hop) id (List.subset_append_left _ _)

/-- VHF's call for an input report is conserved in every run whose rejected answers leave another
pseudo-operation or no need of one: while the device is open and VHF waits, a pseudo-operation is in
a collection, the client has acknowledged the last one, or a thread is about to add or answer
one. -/
theorem readyForRead_conserved {reports : ParsedReports} {p : FilePool}
    (h : FileReach (fun p a => expected p a ∧ spares p a) reports p)
    (hv : p.shared.ctx.vhfHandle) (ha : (readyForRead p.shared.trace).awaiting) :
    (∃ op ∈ p.shared.ctx.operations, op.requestId = 0) ∨
      (readyForRead p.shared.trace).acknowledged ∨ ∃ t ∈ p.threads, t.carries := by
  show p.shared.Keeps p.threads
  induction h using FileReach.induct with
  | start => cases ha
  | arrives p a s t _ _ _ harr ih =>
    have hctx : s.ctx = p.shared.ctx := by cases harr <;> rfl
    exact harr.readyForRead p.threads (ih (hctx ▸ hv)) ha
  | cancelled p before event after _ _ _ ih =>
    have hk := ih hv (awaiting_emit ha)
    refine hk.mono (fun _ hop _ => hop) (fun hack => ?_) (List.Subset.refl _)
    exact acknowledged_emit hack (by simp [requestFailed, Effect.answers])
  | ran p i fw l t r s ts _ _ hg hl ht hs ih =>
    obtain ⟨he, hspares⟩ := hg
    have hawaiting := hs.awaiting ha
    have hk := ih (hs.vhfHandle hv) hawaiting
    cases hrejects : t.rejects with
    | true => exact hs.keeps_of_rejects hl hrejects (hspares t ht) hawaiting
    | false =>
      rw [hl] at hk
      exact hk.replace fun hkt => hs.keeps (he t ht) hrejects hv ha hkt

def readAnswer (status : NTSTATUS) : InputBuffer :=
  ⟨ulongBytes 0 ++ ulongBytes status ++ ulongBytes 1 ++ [7], fun _ => 0⟩

/-- VHF calls for a report, and the client takes the event. -/
def takePseudoEvent : List Action :=
  [.readyForNextReadReport, .run 0 {}, .run 0 {}, .run 0 {}, .getNextEvent 64, .run 0 {},
    .run 0 {}, .run 0 {}]

/-- The client fails the event, which is queued again. -/
def failedAnswer : List Action :=
  takePseudoEvent ++ [.completeReadEvent (readAnswer statusUnsuccessful), .run 0 {}, .run 0 {},
    .run 0 {}, .run 0 {}, .run 0 {}, .run 0 {}, .run 0 {}]

theorem readyForRead_conserved_failedAnswer :
    ∃ p, FileReach (fun p a => expected p a ∧ spares p a) featureReports p ∧ p.threads = [] ∧
      ((∃ op ∈ p.shared.ctx.operations, op.requestId = 0) ∨
        (readyForRead p.shared.trace).acknowledged) := by
  obtain ⟨p, hr, ht, hv, ha⟩ := exists_guardedReach (fun p a => expected p a ∧ spares p a)
    featureReports failedAnswer
    (P := fun p => p.threads.isEmpty = true ∧ p.shared.ctx.vhfHandle = true ∧
      (readyForRead p.shared.trace).awaiting = true) rfl
  have hempty := List.isEmpty_iff.mp ht
  refine ⟨p, hr, hempty, ?_⟩
  rcases readyForRead_conserved hr hv ha with hops | hack | ⟨t, hmem, _⟩
  · exact .inl hops
  · exact .inr hack
  · rw [hempty] at hmem
    cases hmem

/-- VHF rejects the report with which the client answers. -/
def rejectedReport : List Action :=
  takePseudoEvent ++ [.completeReadEvent (readAnswer statusSuccess), .run 0 {},
    .run 0 { readReportSubmit := statusUnsuccessful }, .run 0 {}, .run 0 {}, .run 0 {}, .run 0 {}]

theorem rejectedReport_forgotten : ∃ p, FileReach expected featureReports p ∧ p.threads = [] ∧
    p.shared.ctx.vhfHandle ∧ (readyForRead p.shared.trace).awaiting ∧
      ¬((∃ op ∈ p.shared.ctx.operations, op.requestId = 0) ∨
        (readyForRead p.shared.trace).acknowledged) := by
  obtain ⟨p, hr, ht, hv, ha, hops, hack⟩ := exists_guardedReach expected featureReports
    rejectedReport
    (P := fun p => p.threads.isEmpty = true ∧ p.shared.ctx.vhfHandle = true ∧
      (readyForRead p.shared.trace).awaiting = true ∧ p.shared.ctx.operations.isEmpty = true ∧
      (readyForRead p.shared.trace).acknowledged = false) rfl
  refine ⟨p, hr, List.isEmpty_iff.mp ht, hv, ha, ?_⟩
  rw [List.isEmpty_iff.mp hops, hack]
  simp

end WinUHid
