import WinUHid.HandledEvents

namespace WinUHid

namespace MouseDevice

/-- A report call of the program. -/
abbrev ReportCall := {call : MouseCall // ∀ event, call ≠ .callback event}

def onEvent (m : MouseDevice) (event : ReceivedEvent) : MouseDevice × List Completion :=
  ((m.callback event).1, (m.callback event).2.completions)

def onReport (call : ReportCall) (m : MouseDevice) : MouseDevice := (m.call call.1).1

/-- The mouse behind the driver. -/
abbrev Hosted : ParsedReports → HostedDevice MouseDevice → Prop :=
  fun reports => HostedDevice.Reached onEvent onReport reports .initial

/-- The resolution that an event sets. -/
def resolutionSet (event : ReceivedEvent) : Option UInt8 :=
  if event.type.isRead ∨ event.reportId ≠ 18 then none
  else
    match event.writeData with
    | _ :: multiplier :: _ => some multiplier
    | _ => none

/-- The resolution set last, and 0 before any is. -/
def lastResolution (handled : List HandledEvent) : UInt8 :=
  (handled.filterMap fun e => resolutionSet e.op.received).getLast?.getD 0

theorem onReport_resolutionMultiplier (call : ReportCall) (m : MouseDevice) :
    (onReport call m).resolutionMultiplier = m.resolutionMultiplier := by
  obtain ⟨call, own⟩ := call
  cases call with
  | callback event => exact absurd rfl (own event)
  | reportMotion deltaX deltaY => rfl
  | reportButton buttonIndex down =>
    simp only [onReport, MouseDevice.call, reportButton]
    split <;> rfl
  | reportScroll scrollValue horizontal =>
    simp only [onReport, MouseDevice.call, reportScroll]
    split <;> split <;> rfl

/-- What the callback does with an event. -/
theorem onEvent_cases (m : MouseDevice) (event : ReceivedEvent) :
    (∃ multiplier, resolutionSet event = some multiplier ∧
      m.onEvent event = ({ m with resolutionMultiplier := multiplier }, [.write true])) ∨
    resolutionSet event = none ∧
      (event.type.isRead = true ∧ event.reportId = 18 ∧
          m.onEvent event = (m, [.read (some [18, m.resolutionMultiplier])]) ∨
        ∃ completion, completion.succeeds = false ∧ m.onEvent event = (m, [completion])) := by
  unfold onEvent callback resolutionSet
  cases reads : event.type.isRead with
  | true =>
    refine .inr ⟨by simp, ?_⟩
    by_cases id : event.reportId = 18
    · exact .inl ⟨rfl, id, by simp [id, MouseReply.completions]⟩
    · exact .inr ⟨.read none, rfl, by simp [id, MouseReply.completions]⟩
  | false =>
    by_cases id : event.reportId = 18
    · simp only [id, Bool.false_eq_true, ne_eq, not_true_eq_false, or_self, if_false, false_and,
        false_or]
      cases event.writeData with
      | nil => exact .inr ⟨rfl, .write false, rfl, rfl⟩
      | cons first rest =>
        cases rest with
        | nil => exact .inr ⟨rfl, .write false, rfl, rfl⟩
        | cons multiplier rest => exact .inl ⟨multiplier, rfl, rfl⟩
    · exact .inr ⟨by simp [id], .inr ⟨.write false, rfl, by simp [id, MouseReply.completions]⟩⟩

theorem resolutionMultiplier_of_sequential {handled : List HandledEvent} {m : MouseDevice}
    (h : HostedDevice.Sequential onEvent onReport .initial handled m) :
    m.resolutionMultiplier = lastResolution handled := by
  induction h with
  | start => rfl
  | @handle handled m m' completion time op _ hc ih =>
    unfold lastResolution
    rw [List.filterMap_append]
    rcases onEvent_cases m op.received with ⟨multiplier, sets, he⟩ | ⟨sets, he⟩
    · cases hc.symm.trans he
      simp [sets]
    · have same : m' = m := by
        rcases he with ⟨-, -, he⟩ | ⟨completion', -, he⟩
        · exact congrArg Prod.fst (hc.symm.trans he)
        · exact congrArg Prod.fst (hc.symm.trans he)
      simp [sets, same, ih, lastResolution]
  | own call _ ih => rw [onReport_resolutionMultiplier, ih]

theorem of_resolutionSet {event : ReceivedEvent} {multiplier : UInt8}
    (sets : resolutionSet event = some multiplier) :
    event.type.isRead = false ∧ event.reportId = 18 := by
  unfold resolutionSet at sets
  split at sets
  next => cases sets
  next other => simpa using other

/-- The report that the SDK sends for the multiplier is padded with zeros. -/
theorem fills_resolution {calls : SdkCalls} (memory : calls.heapAlloc = true) (garbage : UInt8)
    (multiplier : UInt8) (i : Nat) :
    ((Completion.read (some [18, multiplier])).answer calls garbage).fills i =
      some ([18, multiplier].getD i 0) := by
  rw [Completion.answer, EventAnswer.fills, if_pos memory]
  by_cases inside : i < 2
  · exact congrArg some (if_pos inside)
  · have outside : [18, multiplier].getD i 0 = 0 := List.getD_eq_default _ _ (Nat.not_lt.mp inside)
    rw [outside]
    exact congrArg some (if_neg inside)

/-- Feature report 18 of the mouse, as VHF sees it, is one register that is set and read in one
order: each operation that VHF is told has succeeded takes effect once, at a time between the call
of VHF and the completion, and a read gets what was set last before it. -/
theorem resolution_linearizable {reports : ParsedReports} {f : HostedDevice MouseDevice}
    (h : Hosted reports f) :
    (f.handled.map HandledEvent.time).Pairwise (· ≤ ·) ∧
    (handlesOf (f.handled.map HandledEvent.op)).Nodup ∧
    ∀ k effect handle, f.trace[k]? = some (.effect effect) → effect.succeeds handle = true →
      ∃ before e after, f.handled = before ++ e :: after ∧ e.op.handle = some handle ∧
        e.Called reports f.trace ∧ e.time ≤ k ∧ e.op.hidTransferPacket.reportId = 18 ∧
        (e.op.type.isRead = false → ∃ multiplier, resolutionSet e.op.received = some multiplier) ∧
        (e.op.type.isRead = true → ∃ s ∈ f.served.settled, effect ∈ s.run.effects ∧
          ∀ i < e.op.hidTransferPacket.reportBufferLen.toNat, ∃ input ∈ s.input,
            (reportContents e.op.object s.run.effects i).value input
              (e.op.hidTransferPacket.reportBuffer i) = [18, lastResolution before].getD i 0) := by
  have linear := HostedDevice.linear_of_reach h
  refine ⟨linear.inOrder, HostedDevice.handled_nodup h, fun k effect handle hk success => ?_⟩
  obtain ⟨e, he, hh, time, s, settled, gives, met, mem⟩ := linear.told k effect handle hk success
  obtain ⟨before, after, split⟩ := List.append_of_mem he
  obtain ⟨m, m', prior, hc⟩ := (HostedDevice.sequential_of_reach h).split split
  have resolution := resolutionMultiplier_of_sequential prior
  obtain ⟨same, calls, garbage, answer⟩ := gives
  have succeeded : (e.completion.answer calls garbage).success = true :=
    answer ▸ met.success mem (same ▸ hh) success
  have completion : (m.onEvent e.op.received).2 = [e.completion] := congrArg Prod.snd hc
  refine ⟨before, e, after, split, hh, linear.called e he, time, ?_⟩
  rcases onEvent_cases m e.op.received with ⟨multiplier, sets, he⟩ | ⟨sets, ⟨reads, id, he⟩ | fails⟩
  · obtain ⟨write, id⟩ := of_resolutionSet sets
    exact ⟨id, fun _ => ⟨multiplier, sets⟩, fun read => absurd (read.symm.trans write) nofun⟩
  · refine ⟨id, fun write => absurd (reads.symm.trans write) nofun, fun _ =>
      ⟨s, settled, mem, fun i hi => ?_⟩⟩
    rw [he, resolution] at completion
    have given : e.completion = .read (some [18, lastResolution before]) :=
      (List.cons.inj completion).1.symm
    rw [given] at answer succeeded
    have memory : calls.heapAlloc = true := by
      simpa [Completion.answer, EventAnswer.success] using succeeded
    rw [same] at hi ⊢
    refine met.report i hi _ ?_
    rw [answer]
    exact fills_resolution memory garbage _ i
  · obtain ⟨failed, failure, he⟩ := fails
    rw [he] at completion
    cases completion
    rw [Completion.succeeds_of_answer succeeded] at failure
    cases failure

/-- The feature report of the mouse. -/
def featureReport18 : ParsedReports := ⟨fun id => if id = 18 then ⟨0, 0, 2⟩ else ⟨0, 0, 0⟩, true⟩

/-- VHF asks for an operation, its event is handed to the callback, and the answer goes to VHF. -/
def throughTheMouse (type : EventType) (byte : UInt8) : List (HostedAction ReportCall) :=
  ([.asyncOperation type ⟨fun i => if i = 0 then 18 else byte, 2, 18⟩, .run 0 {}, .run 0 {},
    .run 0 {}, .getNextEvent 64, .run 0 {}, .run 0 {}, .run 0 {}] : List Action).map .file ++
  [.callback 0 {} 0 (fun _ => 0), .file (.run 0 {}), .file (.run 0 {}), .file (.run 0 {}),
    .file (.run 0 {}), .file (.run 0 {})]

/-- The resolution is set to 5, the mouse scrolls, and the resolution is read. -/
def setAndRead : List (HostedAction ReportCall) :=
  throughTheMouse .setFeature 5 ++ [.own ⟨.reportScroll 120 false, nofun⟩] ++
    throughTheMouse .getFeature 0

theorem resolution_linearizable_setAndRead : ∃ f, Hosted featureReport18 f ∧
    ∃ k effect, f.trace[k]? = some (.effect effect) ∧ effect.succeeds 1 = true ∧
      ∃ before e after, f.handled = before ++ e :: after ∧ e.op.handle = some 1 ∧ e.time ≤ k ∧
        lastResolution before = 5 := by
  have reached : ∃ f, Hosted featureReport18 f ∧
      (f.handled.map fun e => (e.op.handle, resolutionSet e.op.received)) =
        [(some 0, some 5), (some 1, none)] ∧
      (effectsOf f.trace).any (Effect.succeeds 1) = true :=
    Runs.exists_reach_of_run _ _ (by rfl) setAndRead (by rfl)
  obtain ⟨f, hr, handled, told⟩ := reached
  obtain ⟨effect, mem, success⟩ := List.any_eq_true.mp told
  obtain ⟨k, hk⟩ := List.getElem?_of_mem (mem_effectsOf.mp mem)
  obtain ⟨before, e, after, split, hh, -, time, -⟩ :=
    (resolution_linearizable hr).2.2 k effect 1 hk success
  refine ⟨f, hr, k, effect, hk, success, before, e, after, split, hh, time, ?_⟩
  rw [split] at handled
  cases before with
  | nil =>
    have first : e.op.handle = some 0 := by simpa using congrArg Prod.fst (List.cons.inj handled).1
    cases hh.symm.trans first
  | cons set rest =>
    obtain ⟨first, others⟩ := List.cons.inj handled
    cases rest with
    | nil =>
      have five : resolutionSet set.op.received = some 5 := congrArg Prod.snd first
      simp [lastResolution, five]
    | cons other rest => simp at others

end MouseDevice

end WinUHid
