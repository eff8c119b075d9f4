import WinUHid.OperationHistory
import WinUHid.GamepadCallbacks

namespace WinUHid

/-- The event of an operation as a callback gets it. -/
def Operation.received (op : Operation) : ReceivedEvent where
  type := op.type
  reportId := op.hidTransferPacket.reportId
  writeData := eventData op

/-- The call of the SDK that a callback makes; `calls` and `garbage` are what it finds there. -/
def Completion.answer (calls : SdkCalls) (garbage : UInt8) : Completion → EventAnswer
  | .read (some data) =>
    .read calls garbage (some fun i => data.getD i 0) (UInt32.ofNat data.length)
  | .read none => .read calls garbage none 0
  | .write success => .write calls success

def Completion.succeeds : Completion → Bool
  | .read data => data.isSome
  | .write success => success

theorem Completion.succeeds_of_answer {calls : SdkCalls} {garbage : UInt8} {completion : Completion}
    (h : (completion.answer calls garbage).success = true) : completion.succeeds = true := by
  cases completion with
  | write success => exact h
  | read data =>
    cases data with
    | none => cases h
    | some bytes => rfl

/-- An event that the callback has handled, and how much had happened in the driver by then. -/
structure HandledEvent where
  time : Nat
  op : Operation
  completion : Completion

/-- The answer that the callback has made of an event. -/
def HandledEvent.Gives (e : HandledEvent) (reply : EventReply) : Prop :=
  e.op = reply.op ∧ ∃ calls garbage, reply.answer = e.completion.answer calls garbage

/-- VHF has asked for the operation before the event was handled. -/
def HandledEvent.Called (reports : ParsedReports) (history : List FileEvent) (e : HandledEvent) :
    Prop :=
  ∀ handle ∈ e.op.handle, ∃ k < e.time, ∃ packet,
    history[k]? = some (.asyncOperation e.op.type handle packet) ∧
      e.op.hidTransferPacket = packet.clamp (reports.sizeFor e.op.type packet.reportId)

/-- A driver's file whose events go to the callback of a device. -/
structure HostedDevice (D : Type) where
  served : ServedFile
  device : D
  handled : List HandledEvent

inductive HostedAction (O : Type) where
  /-- A step of the file or of VHF. -/
  | file (a : Action)
  /-- `EventThreadProc` calls the callback, which completes the event. Between its use of the device
  and the `DeviceIoControl` it touches nothing that others do. -/
  | callback (i : Nat) (calls : SdkCalls) (garbage : UInt8) (beyond : Nat → UInt8)
  /-- A ready-for-read event is answered without the callback. -/
  | throttled (i : Nat) (answer : EventAnswer) (beyond : Nat → UInt8)
  /-- The program calls into the device. -/
  | own (call : O)

namespace HostedDevice

variable {D O : Type} (callback : D → ReceivedEvent → D × List Completion) (own : O → D → D)

abbrev trace (f : HostedDevice D) : List FileEvent := f.served.file.pool.shared.trace

def start (reports : ParsedReports) (device : D) : HostedDevice D := ⟨.start reports, device, []⟩

/-- The callback completes each event with one call; there is no step for another one. -/
def step (f : HostedDevice D) : HostedAction O → Option (HostedDevice D)
  | .file a => (servedStep f.served (.file a)).map fun served => { f with served }
  | .callback i calls garbage beyond =>
    (f.served.received[i]?).bind fun op =>
      match callback f.device op.received with
      | (device, [completion]) =>
        (servedStep f.served (.answer i (completion.answer calls garbage) beyond)).map
          fun served =>
            { served, device, handled := f.handled ++ [⟨f.trace.length, op, completion⟩] }
      | _ => none
  | .throttled i answer beyond =>
    (f.served.received[i]?).bind fun op =>
      if op.requestId ≠ 0 then none
      else (servedStep f.served (.answer i answer beyond)).map fun served => { f with served }
  | .own call => some { f with device := own call f.device }

def Reached (reports : ParsedReports) (device : D) : HostedDevice D → Prop :=
  Runs.Reach (step callback own) (fun f _ => f.served.Recent) fun f => f = start reports device

/-- What the callback makes of one event after the other, with other calls in between. -/
inductive Sequential (device : D) : List HandledEvent → D → Prop
  | start : Sequential device [] device
  | handle {handled d d' completion} (time : Nat) (op : Operation) : Sequential device handled d →
      callback d op.received = (d', [completion]) →
      Sequential device (handled ++ [⟨time, op, completion⟩]) d'
  | own {handled d} (call : O) : Sequential device handled d →
      Sequential device handled (own call d)

variable {callback own} {reports : ParsedReports} {device : D} {f f' : HostedDevice D}

/-- What a step can be: one of the served file in which no event that VHF waits for is answered, a
call of the callback, or a call of the program. -/
inductive Moves (callback : D → ReceivedEvent → D × List Completion) (own : O → D → D)
    (f : HostedDevice D) : HostedDevice D → Prop
  | file {a : Action} {served : ServedFile} : servedStep f.served (.file a) = some served →
      Moves callback own f { f with served }
  | throttled {i : Nat} {op : Operation} {answer : EventAnswer} {beyond : Nat → UInt8}
      {served : ServedFile} : f.served.received[i]? = some op → op.requestId = 0 →
      servedStep f.served (.answer i answer beyond) = some served →
      Moves callback own f { f with served }
  | callback {i : Nat} {op : Operation} {calls : SdkCalls} {garbage : UInt8}
      {beyond : Nat → UInt8} {served : ServedFile} {d : D} {completion : Completion} :
      f.served.received[i]? = some op → callback f.device op.received = (d, [completion]) →
      servedStep f.served (.answer i (completion.answer calls garbage) beyond) = some served →
      Moves callback own f ⟨served, d, f.handled ++ [⟨f.trace.length, op, completion⟩]⟩
  | own (call : O) : Moves callback own f { f with device := own call f.device }

theorem step_moves {a : HostedAction O} (h : step callback own f a = some f') :
    Moves callback own f f' := by
  cases a with
  | file a =>
    obtain ⟨served, hserved, rfl⟩ := Option.map_eq_some_iff.mp h
    exact .file hserved
  | callback i calls garbage beyond =>
    obtain ⟨op, hop, h⟩ := Option.bind_eq_some_iff.mp h
    split at h
    next d completion hc =>
      obtain ⟨served, hserved, rfl⟩ := Option.map_eq_some_iff.mp h
      exact .callback hop hc hserved
    next => cases h
  | throttled i answer beyond =>
    obtain ⟨op, hop, h⟩ := Option.bind_eq_some_iff.mp h
    split at h
    next => cases h
    next pseudo =>
      obtain ⟨served, hserved, rfl⟩ := Option.map_eq_some_iff.mp h
      exact .throttled hop (not_not.mp pseudo) hserved
  | own call =>
    cases Option.some.inj h
    exact .own call

/-- The file of a hosted run is in a served run. -/
theorem Reached.served (h : Reached callback own reports device f) :
    ServedReach reports f.served := by
  induction h with
  | start hi =>
    cases hi
    exact .start rfl
  | next _ recent hs ih =>
    cases step_moves hs with
    | file h => exact ih.next recent h
    | throttled _ _ h => exact ih.next recent h
    | callback _ _ h => exact ih.next recent h
    | own => exact ih

theorem sequential_of_reach (h : Reached callback own reports device f) :
    Sequential callback own device f.handled f.device := by
  induction h with
  | start hi =>
    cases hi
    exact .start
  | next _ _ hs ih =>
    cases step_moves hs with
    | file => exact ih
    | throttled => exact ih
    | callback _ hc => exact ih.handle _ _ hc
    | own call => exact ih.own call

/-- The callback met each event with the device that the events before it had left. -/
theorem Sequential.split {handled : List HandledEvent} {d : D}
    (h : Sequential callback own device handled d) {before after : List HandledEvent}
    {e : HandledEvent} (split : handled = before ++ e :: after) :
    ∃ d d', Sequential callback own device before d ∧
      callback d e.op.received = (d', [e.completion]) := by
  induction h generalizing after with
  | start => simp at split
  | @handle handled d d' completion time op prior hc ih =>
    rcases List.eq_nil_or_concat after with rfl | ⟨rest, last, rfl⟩
    · obtain ⟨rfl, same⟩ := List.append_inj' split rfl
      cases same
      exact ⟨d, d', prior, hc⟩
    · rw [List.concat_eq_append, ← List.cons_append, ← List.append_assoc] at split
      exact ih (List.append_inj' split rfl).1
  | own call _ ih => exact ih split

/-- What has been handled, beside what VHF has asked for and has been told. -/
structure Linear (reports : ParsedReports) (f : HostedDevice D) : Prop where
  inOrder : (f.handled.map HandledEvent.time).Pairwise (· ≤ ·)
  past : ∀ e ∈ f.handled, e.time ≤ f.trace.length
  delivered : (f.served.received ++ f.handled.map HandledEvent.op).Subperm f.served.delivered
  called : ∀ e ∈ f.handled, e.Called reports f.trace
  answered : ∀ request reply, f.served.answered request = some reply → reply.op.requestId ≠ 0 →
    ∃ e ∈ f.handled, e.Gives reply
  settled : ∀ s ∈ f.served.settled, s.reply.op.requestId ≠ 0 → ∃ e ∈ f.handled, e.Gives s.reply
  told : ∀ k effect handle, f.trace[k]? = some (.effect effect) → effect.succeeds handle = true →
    ∃ e ∈ f.handled, e.op.handle = some handle ∧ e.time ≤ k ∧
      ∃ s ∈ f.served.settled, e.Gives s.reply ∧ s.Met ∧ effect ∈ s.run.effects

theorem called_mono {e : HandledEvent} {history history' : List FileEvent}
    (h : e.Called reports history) (more : history <+: history') : e.Called reports history' := by
  intro handle hh
  obtain ⟨k, hk, packet, asked, clamped⟩ := h handle hh
  obtain ⟨rest, rfl⟩ := more
  obtain ⟨inside, -⟩ := List.getElem?_eq_some_iff.mp asked
  exact ⟨k, hk, packet, by rwa [List.getElem?_append_left inside], clamped⟩

theorem told_of_step (linear : f.Linear reports) (reached : ServedReach reports f.served)
    {a : ServedAction} {served : ServedFile} (hs : servedStep f.served a = some served)
    {handled : List HandledEvent} (more : f.handled ⊆ handled) (k : Nat) (effect : Effect)
    (handle : OperationHandle) (hk : served.file.pool.shared.trace[k]? = some (.effect effect))
    (success : effect.succeeds handle = true) :
    ∃ e ∈ handled, e.op.handle = some handle ∧ e.time ≤ k ∧
      ∃ s ∈ served.settled, e.Gives s.reply ∧ s.Met ∧ effect ∈ s.run.effects := by
  have kept := ServedFile.servedStep_settled hs
  rcases ServedFile.recorded_of_step reached hs hk success with old | ⟨late, told⟩
  · obtain ⟨e, he, hh, time, s, hsettled, met⟩ := linear.told k effect handle old success
    exact ⟨e, more he, hh, time, s, kept hsettled, met⟩
  · obtain ⟨s, hsettled, met, hh, mem⟩ := told handle success
    have real : s.reply.op.requestId ≠ 0 := fun pseudo => by
      rw [s.reply.op.pseudo_iff.mp pseudo] at hh
      cases hh
    obtain ⟨e, he, gives⟩ := linear.settled s hsettled real
    exact ⟨e, more he, by rw [gives.1, hh], (linear.past e he).trans late, s, kept hsettled, gives,
      met, mem⟩

theorem Linear.file (linear : f.Linear reports) (reached : ServedReach reports f.served)
    {a : Action} {served : ServedFile} (hs : servedStep f.served (.file a) = some served) :
    Linear reports { f with served } := by
  have trace := ServedFile.servedStep_trace hs
  have told := told_of_step linear reached hs (List.Subset.refl f.handled)
  cases servedStep_cases hs with
  | file completes hfile =>
    obtain ⟨ops, received, delivered⟩ := ServedFile.received_of_file hfile
    refine ⟨linear.inOrder, fun e he => (linear.past e he).trans trace.length_le, ?_,
      fun e he => called_mono (linear.called e he) trace, ?_, ?_, told⟩
    · have grown := (linear.delivered.append (List.Subperm.refl ops)).trans
        delivered.sublist.subperm
      have swapped : (f.served.received ++ ops ++ f.handled.map HandledEvent.op).Perm
          (f.served.received ++ f.handled.map HandledEvent.op ++ ops) := by
        rw [List.append_assoc, List.append_assoc]
        exact List.perm_append_comm.append_left _
      rw [← received] at swapped
      exact swapped.subperm.trans grown
    · intro request reply hr real
      refine linear.answered request reply ?_ real
      rw [← ServedFile.answered_served a]
      exact hr
    · intro s hs real
      rcases ServedFile.settled_new hs with old | ⟨request, answered⟩
      · exact linear.settled s old real
      · exact linear.answered request s.reply answered real

theorem Linear.throttled (linear : f.Linear reports) (reached : ServedReach reports f.served)
    {i : Nat} {op : Operation} {answer : EventAnswer} {beyond : Nat → UInt8} {served : ServedFile}
    (hop : f.served.received[i]? = some op) (pseudo : op.requestId = 0)
    (hs : servedStep f.served (.answer i answer beyond) = some served) :
    Linear reports { f with served } := by
  have told := told_of_step linear reached hs (List.Subset.refl f.handled)
  obtain ⟨received, settled, trace, answered⟩ := ServedFile.servedStep_answer hop hs
  have prefixed := ServedFile.servedStep_trace hs
  refine ⟨linear.inOrder, fun e he => (linear.past e he).trans prefixed.length_le, ?_,
    fun e he => called_mono (linear.called e he) prefixed, ?_, ?_, told⟩
  · have fewer : (served.received ++ f.handled.map HandledEvent.op).Sublist
        (f.served.received ++ f.handled.map HandledEvent.op) := by
      rw [received]
      exact (List.eraseIdx_sublist _ _).append (List.Sublist.refl _)
    exact (fewer.subperm.trans linear.delivered).trans
      (ServedFile.delivered_prefix prefixed).sublist.subperm
  · intro request reply hr real
    rcases answered request reply hr with old | rfl
    · exact linear.answered request reply old real
    · exact absurd pseudo real
  · intro s hsettled real
    exact linear.settled s (settled ▸ hsettled) real

theorem linear_start (reports : ParsedReports) (device : D) :
    (start reports device).Linear reports := by
  refine ⟨List.Pairwise.nil, ?_, List.nil_subperm, ?_, ?_, ?_, ?_⟩
  · exact fun e he => absurd he List.not_mem_nil
  · exact fun e he => absurd he List.not_mem_nil
  · simp [start, ServedFile.start]
  · simp [start, ServedFile.start]
  · intro k effect handle hk
    have empty : (start reports device).trace = [] := rfl
    rw [empty] at hk
    cases hk

/-- The operation of an event that the client has was asked for. -/
theorem called_of_received (linear : f.Linear reports) (reached : ServedReach reports f.served)
    {op : Operation} (hop : op ∈ f.served.received) (completion : Completion) :
    HandledEvent.Called reports f.trace ⟨f.trace.length, op, completion⟩ := by
  have file := reached.logged.file
  have delivered : op ∈ f.served.delivered :=
    linear.delivered.subset (List.mem_append_left _ hop)
  obtain ⟨⟨request, o⟩, hd, rfl⟩ := List.mem_map.mp delivered
  have handed : .handed request o ∈ f.trace := by
    have taken : (request, o) ∈ f.served.file.pool.shared.taken := by
      rw [← deliveries_conserved file]
      exact Multiset.mem_add.mpr (.inl (Multiset.mem_coe.mpr hd))
    obtain ⟨event, hm, he⟩ := List.mem_filterMap.mp (Multiset.mem_coe.mp taken)
    cases event with
    | handed r o' =>
      cases he
      exact hm
    | _ => cases he
  intro handle hh
  rcases handed_issued file handed with pseudo | ⟨type, asked, packet, n, hm, size, real⟩
  · have none : o.handle = none := by rw [pseudo]; rfl
    rw [none] at hh
    cases hh
  · have same : o.handle = some asked := by rw [real]; rfl
    cases hh.symm.trans same
    have kind : o.type = type := by rw [real]; rfl
    have clamped : o.hidTransferPacket = packet.clamp (reports.sizeFor type packet.reportId) := by
      rw [real, reports_constant file]
      rfl
    obtain ⟨k, hk⟩ := List.getElem?_of_mem hm
    obtain ⟨inside, -⟩ := List.getElem?_eq_some_iff.mp hk
    exact ⟨k, inside, packet, by rw [kind]; exact hk, by rw [kind]; exact clamped⟩

theorem Linear.handle (linear : f.Linear reports) (reached : ServedReach reports f.served)
    {i : Nat} {op : Operation} {completion : Completion} {calls : SdkCalls} {garbage : UInt8}
    {beyond : Nat → UInt8} {served : ServedFile} {d : D}
    (hop : f.served.received[i]? = some op)
    (hs : servedStep f.served (.answer i (completion.answer calls garbage) beyond) =
      some served) :
    Linear reports ⟨served, d, f.handled ++ [⟨f.trace.length, op, completion⟩]⟩ := by
  have told := told_of_step linear reached hs
    (List.subset_append_left f.handled [⟨f.trace.length, op, completion⟩])
  obtain ⟨received, settled, trace, answered⟩ := ServedFile.servedStep_answer hop hs
  have prefixed := ServedFile.servedStep_trace hs
  have old {reply : EventReply} (h : ∃ e ∈ f.handled, e.Gives reply) :
      ∃ e ∈ f.handled ++ [⟨f.trace.length, op, completion⟩], e.Gives reply := by
    obtain ⟨e, he, gives⟩ := h
    exact ⟨e, List.mem_append_left _ he, gives⟩
  refine ⟨?_, fun e he => ?_, ?_, fun e he => ?_, ?_, ?_, told⟩
  · rw [List.map_append, List.pairwise_append]
    refine ⟨linear.inOrder, List.pairwise_singleton _ _, fun time ht last hl => ?_⟩
    obtain ⟨e, he, rfl⟩ := List.mem_map.mp ht
    cases List.mem_singleton.mp hl
    exact linear.past e he
  · refine Nat.le_trans ?_ prefixed.length_le
    rcases List.mem_append.mp he with he | he
    · exact linear.past e he
    · cases List.mem_singleton.mp he
      exact Nat.le_refl _
  · have moved : (served.received ++ (f.handled.map HandledEvent.op ++ [op])).Perm
        (f.served.received ++ f.handled.map HandledEvent.op) := by
      obtain ⟨inside, rfl⟩ := List.getElem?_eq_some_iff.mp hop
      have first := List.getElem_cons_eraseIdx_perm inside
      rw [received, ← List.append_assoc]
      refine List.perm_append_singleton _ _ |>.trans ?_
      exact first.append_right _
    rw [List.map_append]
    exact (moved.subperm.trans linear.delivered).trans
      (ServedFile.delivered_prefix prefixed).sublist.subperm
  · refine called_mono ?_ prefixed
    rcases List.mem_append.mp he with he | he
    · exact linear.called e he
    · cases List.mem_singleton.mp he
      exact called_of_received linear reached (List.mem_of_getElem? hop) completion
  · intro request reply hr real
    rcases answered request reply hr with before | rfl
    · exact old (linear.answered request reply before real)
    · exact ⟨_, List.mem_append_right _ (List.mem_singleton_self _), rfl, calls, garbage, rfl⟩
  · exact fun s hsettled real => old (linear.settled s (settled ▸ hsettled) real)

theorem linear_of_reach (h : Reached callback own reports device f) : f.Linear reports := by
  induction h with
  | start hi =>
    cases hi
    exact linear_start reports device
  | next hr recent hs ih =>
    have reached := Reached.served hr
    cases step_moves hs with
    | file h => exact ih.file reached h
    | throttled hop pseudo h => exact ih.throttled reached hop pseudo h
    | callback hop hc h => exact ih.handle reached hop h
    | own call =>
      exact ⟨ih.inOrder, ih.past, ih.delivered, ih.called, ih.answered, ih.settled, ih.told⟩

/-- No operation is handled twice. -/
theorem handled_nodup (h : Reached callback own reports device f) :
    (handlesOf (f.handled.map HandledEvent.op)).Nodup := by
  have once : (handlesOf f.served.delivered).Nodup := delivered_nodup (Reached.served h).logged.file
  refine Multiset.nodup_of_le ?_ once
  have all := handlesOf_le_of_subperm (linear_of_reach h).delivered
  rw [handlesOf_append] at all
  exact (Multiset.le_add_left _ _).trans all

end HostedDevice

end WinUHid
