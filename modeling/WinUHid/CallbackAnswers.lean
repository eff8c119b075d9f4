import WinUHid.GamepadCallbacks
import Mathlib.Algebra.Order.Group.Multiset

namespace WinUHid

open Bits

/-- One call, in the direction of the event, and the data of a report that has an id begins with
it. -/
def Answers (type : EventType) (reportId : UInt8) (calls : List Completion) : Prop :=
  match calls with
  | [.read data] =>
    type.isRead = true ∧ (reportId ≠ 0 → ∀ bytes, data = some bytes → bytes.head? = some reportId)
  | [.write _] => type.isWrite = true
  | _ => False

instance (type : EventType) (reportId : UInt8) (calls : List Completion) :
    Decidable (Answers type reportId calls) := by
  unfold Answers
  split
  next data =>
    cases data with
    | none => exact decidable_of_iff (type.isRead = true) (by simp)
    | some bytes =>
      exact decidable_of_iff (type.isRead = true ∧ (reportId ≠ 0 → bytes.head? = some reportId))
        (by simp)
  all_goals infer_instance

theorem mouse_answers (m : MouseDevice) (event : ReceivedEvent) :
    Answers event.type event.reportId (m.callback event).2.completions := by
  unfold MouseDevice.callback
  cases hr : event.type.isRead with
  | true =>
    by_cases hid : event.reportId = 18
    · simp [hid, MouseReply.completions, Answers, hr]
    · simp [hid, MouseReply.completions, Answers, hr]
  | false =>
    have hw : event.type.isWrite = true := by rw [EventType.isWrite_eq_not_isRead, hr]; rfl
    by_cases hid : event.reportId = 18
    · simp only [hid, ne_eq, not_true_eq_false, if_false, Bool.false_eq_true]
      split <;> exact hw
    · simp [hid, MouseReply.completions, Answers, hw]

section Generic

open GenericDevice

/-- The reports in the cache begin with the id they are kept under, and so do those that a request
is still to insert. -/
structure Keyed (p : Requests) : Prop where
  kept : ∀ id report, p.shared.cache.currentInputs id = some report → report.head? = some id
  coming : ∀ t ∈ p.threads, ∀ index report, t = .insert index report → report ≠ []

theorem head?_of_cacheKey {report : List UInt8} (h : report ≠ []) :
    report.head? = some (cacheKey report) := by
  cases report with
  | nil => exact absurd rfl h
  | cons b rest => rfl

theorem Keyed.next {p p' : Requests} {a : GenericDevice.Action} (h : Keyed p)
    (hs : step p a = some p') : Keyed p' := by
  have replaced : ∀ {l t ts r}, p.threads = l ++ t :: r → p'.threads = l ++ ts ++ r →
      (∀ u ∈ ts, ∀ index report, u = .insert index report → report ≠ []) →
      ∀ u ∈ p'.threads, ∀ index report, u = .insert index report → report ≠ [] := by
    intro l t ts r before after new
    rw [after]
    exact Pool.forall_replace (by rw [← before]; exact h.coming) fun _ => new
  cases step_cases hs with
  | arrives shared threads =>
    refine ⟨by rw [shared]; exact h.kept, ?_⟩
    rw [threads]
    exact Pool.forall_spawn h.coming nofun
  | refused before shared threads =>
    exact ⟨by rw [shared]; exact h.kept, replaced before threads nofun⟩
  | @accepted i ok report l r nonempty before shared threads =>
    refine ⟨by rw [shared]; exact h.kept, replaced before threads ?_⟩
    rintro u hu index report' rfl
    cases List.mem_singleton.mp hu
    exact nonempty
  | @inserts i ok index report l r at_i before shared threads =>
    have nonempty : report ≠ [] := h.coming _ (by simp [before]) index report rfl
    refine ⟨fun id report' hr => ?_, replaced before threads (by simp)⟩
    rw [shared] at hr
    simp only [GenericCache.insert, Function.update_apply] at hr
    split at hr
    next hid =>
      cases hr
      rw [hid]
      exact head?_of_cacheKey nonempty
    next => exact h.kept id report' hr
  | stores at_i before shared threads =>
    exact ⟨by rw [shared]; exact h.kept, replaced before threads nofun⟩

theorem keyed_of_reach {p : Requests} (h : Runs.Reach step Runs.anyStep Fresh p) : Keyed p := by
  induction h with
  | start hi =>
    cases hi
    exact ⟨nofun, nofun⟩
  | next _ _ hs ih => exact ih.next hs

theorem generic_answers {p : Requests} (h : Runs.Reach step Runs.anyStep Fresh p)
    (event : ParsedEvent) :
    Answers event.kind event.reportId (p.shared.cache.eventCallback event) := by
  have kept := (keyed_of_reach h).kept
  unfold GenericCache.eventCallback
  cases hr : event.kind.isRead with
  | false =>
    show event.kind.isWrite = true
    rw [EventType.isWrite_eq_not_isRead, hr]
    rfl
  | true =>
    refine ⟨hr, fun hid bytes hb => ?_⟩
    simp only [GenericCache.pickReadSnapshot, hid, ne_eq, not_false_eq_true, if_true] at hb
    cases hc : p.shared.cache.currentInputs event.reportId with
    | some report =>
      simp only [hc, Option.some.injEq] at hb
      rw [← hb]
      exact kept _ _ hc
    | none =>
      simp only [hc] at hb
      split at hb
      next hlen =>
        cases hb
        obtain ⟨k, hk⟩ := Nat.exists_eq_succ_of_ne_zero
          (show event.readLength.toNat ≠ 0 from fun h0 => by
            simp [UInt32.lt_iff_toNat_lt, h0] at hlen)
        simp [hk, List.replicate_succ]
      next => cases hb

end Generic

section Gamepads

variable {D φ : Type} {g : GamepadPreset D φ} {now : Int64}

/-- Where a callback returns without having prepared an input report, only its data for feature
reports can be wrong. -/
theorem GamepadPreset.answers_callback_iff {d : D} {event : ReceivedEvent}
    {completions : List Completion} (h : (g.callback now d event).2.2 = some completions) :
    Answers event.type event.reportId completions ↔
      (event.type = .getFeature → event.reportId ≠ 0 → ∀ data,
        g.getFeature d event.reportId = some data → data.head? = some event.reportId) := by
  unfold GamepadPreset.callback at h
  split at h
  next ht =>
    cases h
    have isRead : event.type.isRead = true := by rw [ht]; rfl
    exact ⟨fun answers _ => answers.2, fun feature => ⟨isRead, feature ht⟩⟩
  next ht =>
    cases h
    have isWrite : event.type.isWrite = true := by rw [ht]; rfl
    exact ⟨fun _ hf => by simp [ht] at hf, fun _ => isWrite⟩
  next => cases h
  next ht =>
    cases h
    have isWrite : event.type.isWrite = true := by rw [ht]; rfl
    exact ⟨fun _ hf => by simp [ht] at hf, fun _ => isWrite⟩

/-- A callback returns with its completions, or goes on with a prepared input report. -/
theorem GamepadPreset.body_callback (now : Int64) (s : GamepadRun D φ) (event : GamepadEvent) :
    (∃ feedback completions,
      (g.callback now s.device event.toReceivedEvent).2.2 = some completions ∧
      g.body now s (.callback event) =
        (⟨(g.callback now s.device event.toReceivedEvent).1, feedback, s.delivered,
          s.returned ++ [(event, completions)]⟩, [])) ∨
    event.type = .readReport ∧ ∃ feedback,
      g.body now s (.callback event) =
        (⟨g.prepare s.device now, feedback, s.delivered, s.returned⟩, [.completeRead event]) := by
  cases hc : (g.callback now s.device event.toReceivedEvent).2.2 with
  | some completions =>
    refine .inl ⟨s.feedback ++ (g.callback now s.device event.toReceivedEvent).2.1, completions,
      rfl, ?_⟩
    simp only [GamepadPreset.body, hc]
  | none =>
    have read : event.type = .readReport := by
      unfold GamepadPreset.callback at hc
      split at hc
      · cases hc
      · cases hc
      next ht => exact ht
      · cases hc
    refine .inr ⟨read, s.feedback, ?_⟩
    simp [GamepadPreset.body, GamepadPreset.callback, read]

def GamepadProc.events : GamepadProc → Multiset GamepadEvent
  | .callback event | .completeRead event => {event}
  | .reportInput _ => 0

def GamepadRun.arrived (s : GamepadRun D φ) : Multiset GamepadEvent := ↑s.delivered

def GamepadRun.finished (s : GamepadRun D φ) : Multiset GamepadEvent := ↑(s.returned.map Prod.fst)

/-- Every event that was delivered has one callback, in progress or returned. -/
def Accounted (p : Pool (GamepadRun D φ) GamepadProc) : Prop :=
  p.total GamepadRun.finished GamepadProc.events = p.shared.arrived

theorem GamepadRun.finished_returns (d : D) (feedback : List φ) (s : GamepadRun D φ)
    (event : GamepadEvent) (completions : List Completion) :
    GamepadRun.finished ⟨d, feedback, s.delivered, s.returned ++ [(event, completions)]⟩ =
      s.finished + {event} := by
  rw [finished, List.map_append, ← Multiset.coe_add]
  rfl

theorem GamepadPreset.body_accounts (now : Int64) (s : GamepadRun D φ) (t : GamepadProc) :
    (g.body now s t).1.arrived = s.arrived ∧
      (g.body now s t).1.finished + ((g.body now s t).2.map GamepadProc.events).sum =
        s.finished + t.events := by
  cases t with
  | callback event =>
    obtain ⟨feedback, completions, -, hb⟩ | ⟨-, feedback, hb⟩ := g.body_callback now s event
    · rw [hb]
      exact ⟨rfl, (add_zero _).trans (GamepadRun.finished_returns ..)⟩
    · rw [hb]
      exact ⟨rfl, congrArg _ (add_zero _)⟩
  | completeRead event => exact ⟨rfl, (add_zero _).trans (GamepadRun.finished_returns ..)⟩
  | reportInput report => exact ⟨rfl, rfl⟩

theorem accounted_of_reach {d : D} {p : Pool (GamepadRun D φ) GamepadProc}
    (h : Runs.Reach g.step Runs.anyStep (Started φ d) p) : Accounted p := by
  induction h with
  | start hi =>
    cases hi
    exact add_zero _
  | @next p a p' _ _ hs ih =>
    cases a with
    | event event =>
      cases hs
      exact Pool.balanced_spawn ih (Multiset.coe_add ..).symm rfl
    | reportInput report =>
      cases hs
      exact Pool.balanced_spawn ih (add_zero _).symm rfl
    | run i now =>
      obtain ⟨l, t, r, before, -, shared, after⟩ := Pool.run_cases hs
      obtain ⟨arrived, gain⟩ := g.body_accounts now p.shared t
      have next := Pool.balanced_replace before ih (arrived.trans (add_zero _).symm)
        (gain.trans (add_zero _).symm)
      rw [← after, ← shared] at next
      exact next

/-- What a preset keeps of its device in its locked sections, and what its answers satisfy then. -/
structure GamepadPreset.Upholds (g : GamepadPreset D φ) (I : D → Prop)
    (R : GamepadEvent → List Completion → Prop) : Prop where
  load : ∀ d (report : ClientReport), I d → I (g.load d report.report)
  prepare : ∀ d now, I d → I (g.prepare d now)
  output : ∀ d event, I d → I (g.outputReport d event).1
  answers : ∀ now d (event : GamepadEvent) completions, I d →
    (g.callback now d event.toReceivedEvent).2.2 = some completions → R event completions
  reads : ∀ d (event : GamepadEvent), I d → event.type = .readReport →
    R event [.read (some (toBytes (g.content d)))]

/-- The state of the gamepad satisfies `I` and the callbacks that have returned satisfy `R`. -/
structure Serves (I : D → Prop) (R : GamepadEvent → List Completion → Prop)
    (s : GamepadRun D φ) : Prop where
  device : I s.device
  returned : ∀ e ∈ s.returned, R e.1 e.2

/-- Only the callbacks of read events go on after the lock. -/
def GamepadProc.Resumed (t : GamepadProc) : Prop :=
  ∀ event, t = .completeRead event → event.type = .readReport

theorem Serves.returns {I : D → Prop} {R : GamepadEvent → List Completion → Prop}
    {s : GamepadRun D φ} (h : Serves I R s) {event : GamepadEvent} {completions : List Completion}
    (hr : R event completions) : ∀ e ∈ s.returned ++ [(event, completions)], R e.1 e.2 := by
  intro e he
  rcases List.mem_append.mp he with he | he
  · exact h.returned e he
  · cases List.mem_singleton.mp he
    exact hr

section Upholds

variable {I : D → Prop} {R : GamepadEvent → List Completion → Prop}

theorem GamepadPreset.Upholds.callback (hg : g.Upholds I R) {d : D} (hd : I d) (now : Int64)
    (event : ReceivedEvent) : I (g.callback now d event).1 := by
  unfold GamepadPreset.callback
  split
  · exact hd
  · exact hd
  · exact hg.prepare _ _ hd
  · exact hg.output _ _ hd

theorem GamepadPreset.Upholds.body (hg : g.Upholds I R) {s : GamepadRun D φ} (h : Serves I R s)
    {t : GamepadProc} (ht : t.Resumed) (now : Int64) :
    Serves I R (g.body now s t).1 ∧ ∀ u ∈ (g.body now s t).2, u.Resumed := by
  cases t with
  | callback event =>
    obtain ⟨feedback, completions, hc, hb⟩ | ⟨hread, feedback, hb⟩ := g.body_callback now s event
    · rw [hb]
      have answered := hg.answers _ _ _ _ h.device hc
      exact ⟨⟨hg.callback h.device now _, h.returns answered⟩, List.forall_mem_nil _⟩
    · rw [hb]
      refine ⟨⟨hg.prepare _ _ h.device, h.returned⟩, fun u hu event' he => ?_⟩
      subst he
      cases List.mem_singleton.mp hu
      exact hread
  | completeRead event =>
    have answered := hg.reads _ event h.device (ht event rfl)
    exact ⟨⟨h.device, h.returns answered⟩, List.forall_mem_nil _⟩
  | reportInput report =>
    exact ⟨⟨hg.prepare _ _ (hg.load _ _ h.device), h.returned⟩, List.forall_mem_nil _⟩

theorem serves_of_reach (hg : g.Upholds I R) {d : D} (hd : I d)
    {p : Pool (GamepadRun D φ) GamepadProc}
    (h : Runs.Reach g.step Runs.anyStep (Started φ d) p) : Serves I R p.shared := by
  have both : Serves I R p.shared ∧ ∀ t ∈ p.threads, t.Resumed := by
    induction h with
    | start hi =>
      cases hi
      exact ⟨⟨hd, List.forall_mem_nil _⟩, List.forall_mem_nil _⟩
    | @next p a p' _ _ hs ih =>
      cases a with
      | event event =>
        cases hs
        exact ⟨⟨ih.1.device, ih.1.returned⟩, Pool.forall_spawn ih.2 fun _ he => nomatch he⟩
      | reportInput report =>
        cases hs
        exact ⟨ih.1, Pool.forall_spawn ih.2 fun _ he => nomatch he⟩
      | run i now =>
        obtain ⟨l, t, r, before, -, shared, after⟩ := Pool.run_cases hs
        have next := hg.body ih.1 (ih.2 t (by simp [before])) now
        rw [shared, after]
        exact ⟨next.1, Pool.forall_replace (by rw [← before]; exact ih.2) fun _ => next.2⟩
  exact both.1

end Upholds

/-- The report has the id that the initializers give it. -/
def Marked (report : GamepadReport) : Prop := read report (.bytes 0 1) = inputReportId.toNat

theorem marked_of_initialize {id : Span} {as : List ReportAssignment}
    (first : as = .set (.bytes 0 64) 0 :: .set id 1 :: as.drop 2) (hid : id = .bytes 0 1)
    (later : ∀ a ∈ as.drop 2, 8 ≤ a.target.start) : Marked (runAll as 0) := by
  show read (runAll as 0) (.bytes 0 1) = inputReportId.toNat
  rw [first, runAll_cons, runAll_cons, Keeps.read_of_after later, hid]
  decide +kernel

theorem Marked.answers {report : GamepadReport} (h : Marked report) {event : GamepadEvent}
    (ht : event.type = .readReport) :
    Answers event.type event.reportId [.read (some (toBytes report))] := by
  refine ⟨by rw [ht]; rfl, fun hid bytes hb => ?_⟩
  cases hb
  rw [head?_toBytes (by decide), h, (event.declared ht).resolve_left hid]
  rfl

end Gamepads

section Ps4

variable {F : Type} (scale : SensorScale F)

theorem defaultPs4Report_marked : Marked (defaultPs4Report scale) := by
  have later : ∀ a ∈ (ps4InitializeInputReport scale).drop 2, 8 ≤ a.target.start := by
    simp [ps4InitializeInputReport, ps4SetTouchState, setTouchPoint, ps4SetBatteryState,
      ps4SetAccelState, setSensor, Assignment.set, Assignment.update]
    decide +kernel
  exact marked_of_initialize rfl (by decide) later

/-- Reached with some callbacks registered, at some time, by callbacks and report calls in any
order. -/
def Ps4Device.Reachable (p : Pool (GamepadRun Ps4Device Ps4Rumble) GamepadProc) : Prop :=
  ∃ rumbleCallback ledCallback macAddress qpcFrequency now,
    Runs.Reach preset.step Runs.anyStep
      (Started _ (create scale rumbleCallback ledCallback macAddress qpcFrequency now)) p

theorem Ps4Device.getFeature_head {d : Ps4Device} {reportId : UInt8} {data : List UInt8}
    (h : d.getFeature reportId = some data) : data.head? = some reportId := by
  unfold getFeature at h
  split at h
  next he =>
    cases h
    rw [he]
    rfl
  next =>
    split at h
    next he =>
      cases h
      rw [he]
      rfl
    next =>
      split at h
      next he =>
        cases h
        rw [he]
        rfl
      next => cases h

theorem Ps4Device.outputReport_input (d : Ps4Device) (event : ReceivedEvent) :
    (d.outputReport event).1.input = d.input := by
  unfold outputReport
  split
  · rfl
  · split <;> rfl

theorem ps4_answers {p : Pool (GamepadRun Ps4Device Ps4Rumble) GamepadProc}
    (h : Ps4Device.Reachable scale p) :
    ∀ e ∈ p.shared.returned, Answers e.1.type e.1.reportId e.2 := by
  obtain ⟨rumbleCallback, ledCallback, macAddress, qpcFrequency, now, h⟩ := h
  have apart : (Span.bytes 0 1).Disjoint Ps4ReportField.Timestamp.span := by decide +kernel
  have upholds : Ps4Device.preset.Upholds (fun d => Marked d.input.lastInputReport)
      fun event completions => Answers event.type event.reportId completions := by
    constructor
    case load => exact fun d report _ => report.marked
    case prepare => exact fun d now hd => (read_write_disjoint apart _).trans hd
    case output =>
      intro d event hd
      show Marked (d.outputReport event).1.input.lastInputReport
      rw [Ps4Device.outputReport_input]
      exact hd
    case answers =>
      intro now d event completions _ hc
      refine (GamepadPreset.answers_callback_iff hc).mpr fun _ _ data hf => ?_
      exact Ps4Device.getFeature_head hf
    case reads => exact fun d event hd ht => hd.answers ht
  exact (serves_of_reach upholds (defaultPs4Report_marked scale) h).returned

end Ps4

section Ps5

variable {F : Type} (scale : SensorScale F)

theorem defaultPs5Report_marked : Marked (defaultPs5Report scale) := by
  have later : ∀ a ∈ (ps5InitializeInputReport scale).drop 2, 8 ≤ a.target.start := by
    simp [ps5InitializeInputReport, ps5SetTouchState, setTouchPoint, ps5SetBatteryState,
      ps5SetAccelState, setSensor, Assignment.set, Assignment.update]
    decide +kernel
  exact marked_of_initialize rfl (by decide) later

def Ps5Device.Reachable (p : Pool (GamepadRun Ps5Device Ps5Feedback) GamepadProc) : Prop :=
  ∃ rumble lightBarLed playerLed triggerEffect micLed macAddress firmwareInfo qpcFrequency now,
    Runs.Reach preset.step Runs.anyStep
      (Started _ (create scale rumble lightBarLed playerLed triggerEffect micLed macAddress
        firmwareInfo qpcFrequency now)) p

/-- The feature reports for which the PS5 callback has tables that begin with the PS4's ids. -/
def KeepsPs4Id (event : ReceivedEvent) : Prop :=
  event.type = .getFeature ∧ (event.reportId = Ps5Device.featureReportCalibration ∨
    event.reportId = Ps5Device.featureReportPairingInfo)

theorem Ps5Device.getFeature_head_iff {d : Ps5Device}
    (hf : d.firmwareInfoReport.head? = some featureReportFirmwareInfo) (reportId : UInt8) :
    (d.getFeature reportId).head? = some reportId ↔
      ¬(reportId = featureReportCalibration ∨ reportId = featureReportPairingInfo) := by
  unfold getFeature
  by_cases hc : reportId = featureReportCalibration
  · simp [hc, neutralCalibration, featureReportCalibration]
  by_cases hi : reportId = featureReportFirmwareInfo
  · simp [hi, hf, featureReportFirmwareInfo, featureReportCalibration, featureReportPairingInfo]
  by_cases hp : reportId = featureReportPairingInfo
  · simp [hp, pairingInfo, featureReportCalibration, featureReportPairingInfo,
      featureReportFirmwareInfo]
  · simp [hc, hi, hp, List.replicate_succ]

theorem Ps5Device.firmwareInfo_head (rumble lightBarLed playerLed triggerEffect micLed : Bool)
    (macAddress : MacAddress) (firmwareInfo : Option FirmwareInfo) (qpcFrequency now : Int64) :
    (create scale rumble lightBarLed playerLed triggerEffect micLed macAddress firmwareInfo
      qpcFrequency now).firmwareInfoReport.head? = some featureReportFirmwareInfo := by
  unfold create
  cases firmwareInfo with
  | none => rfl
  | some info =>
    by_cases hl : info.blob.length = 64
    · simp only [hl, if_true]
      exact info.first hl
    · simp only [hl, if_false]
      rfl

theorem ps5_answers_iff {p : Pool (GamepadRun Ps5Device Ps5Feedback) GamepadProc}
    (h : Ps5Device.Reachable scale p) :
    ∀ e ∈ p.shared.returned,
      (Answers e.1.type e.1.reportId e.2 ↔ ¬KeepsPs4Id e.1.toReceivedEvent) := by
  obtain ⟨rumble, lightBarLed, playerLed, triggerEffect, micLed, macAddress, firmwareInfo,
    qpcFrequency, now, h⟩ := h
  have apart : (Span.bytes 0 1).Disjoint Ps5ReportField.SequenceNumber.span ∧
      (Span.bytes 0 1).Disjoint Ps5ReportField.SensorTimestamp.span := by decide +kernel
  have upholds : Ps5Device.preset.Upholds
      (fun d => Marked d.input.lastInputReport ∧
        d.firmwareInfoReport.head? = some Ps5Device.featureReportFirmwareInfo)
      fun event completions =>
        Answers event.type event.reportId completions ↔ ¬KeepsPs4Id event.toReceivedEvent := by
    constructor
    case load => exact fun d report hd => ⟨report.marked, hd.2⟩
    case prepare =>
      refine fun d now hd => ⟨?_, hd.2⟩
      exact (read_write_disjoint apart.2 _).trans ((read_write_disjoint apart.1 _).trans hd.1)
    case output => exact fun d event hd => hd
    case answers =>
      intro now d event completions hd hc
      rw [GamepadPreset.answers_callback_iff hc]
      constructor
      · rintro feature ⟨ht, hid⟩
        have nonzero : event.reportId ≠ 0 := by
          obtain hid | hid := hid <;> rw [hid] <;> decide
        exact (Ps5Device.getFeature_head_iff hd.2 _).mp (feature ht nonzero _ rfl) hid
      · intro other ht _ data hdata
        cases hdata
        exact (Ps5Device.getFeature_head_iff hd.2 _).mpr fun hid => other ⟨ht, hid⟩
    case reads =>
      intro d event hd ht
      have other : ¬KeepsPs4Id event.toReceivedEvent := fun hk => by
        have := hk.1
        simp [ht] at this
      exact iff_of_true (hd.1.answers ht) other
  have first := Ps5Device.firmwareInfo_head scale rumble lightBarLed playerLed triggerEffect micLed
    macAddress firmwareInfo qpcFrequency now
  exact (serves_of_reach upholds ⟨defaultPs5Report_marked scale, first⟩ h).returned

end Ps5

/-- Every event has one callback, which completes it once and in its direction and answers it under
its report id, but for two feature reports of the PS5. -/
theorem callbacks_answer {F : Type} (scale : SensorScale F) :
    (∀ (m : MouseDevice) event,
      Answers event.type event.reportId (m.callback event).2.completions) ∧
    (∀ p, Ps4Device.Reachable scale p →
      Accounted p ∧ ∀ e ∈ p.shared.returned, Answers e.1.type e.1.reportId e.2) ∧
    (∀ p, Ps5Device.Reachable scale p → Accounted p ∧ ∀ e ∈ p.shared.returned,
      (Answers e.1.type e.1.reportId e.2 ↔ ¬KeepsPs4Id e.1.toReceivedEvent)) ∧
    ∀ p, Runs.Reach GenericDevice.step Runs.anyStep GenericDevice.Fresh p →
      ∀ event, Answers event.kind event.reportId (p.shared.cache.eventCallback event) := by
  refine ⟨mouse_answers, fun p h => ⟨?_, ps4_answers scale h⟩,
    fun p h => ⟨?_, ps5_answers_iff scale h⟩, fun _ => generic_answers⟩
  · obtain ⟨_, _, _, _, _, h⟩ := h
    exact accounted_of_reach h
  · obtain ⟨_, _, _, _, _, _, _, _, _, h⟩ := h
    exact accounted_of_reach h

/-- A conversion for a test: the sensors always read nothing. -/
def stillSensors : SensorScale Unit := ⟨fun _ => 0, fun _ => 0, (), ()⟩

def newPs5Device : Ps5Device :=
  .create stillSensors true false false false false (.replicate 6 7) none 10000000 0

def featureRequest (reportId : UInt8) : GamepadEvent := ⟨⟨.getFeature, reportId, []⟩, nofun⟩

/-- The PS5 device answers a firmware request. -/
theorem callbacks_answer_firmware :
    ∃ p : Pool (GamepadRun Ps5Device Ps5Feedback) GamepadProc, ∃ e ∈ p.shared.returned,
      e.1.type = .getFeature ∧ e.1.reportId = 0x20 ∧ Answers e.1.type e.1.reportId e.2 := by
  obtain ⟨p, hr, e, he, ht, hid⟩ : ∃ p, Runs.Reach Ps5Device.preset.step Runs.anyStep
      (Started _ newPs5Device) p ∧ ∃ e ∈ p.shared.returned,
        e.1.type = .getFeature ∧ e.1.reportId = 0x20 :=
    Runs.exists_reach_of_run Ps5Device.preset.step Runs.anyStep (by rfl)
      [.event (featureRequest 0x20), .run 0 0] (by decide +kernel)
  have reachable : Ps5Device.Reachable stillSensors p :=
    ⟨true, false, false, false, false, .replicate 6 7, none, 10000000, 0, hr⟩
  have answers := ((callbacks_answer stillSensors).2.2.1 p reachable).2 e he
  refine ⟨p, e, he, ht, hid, answers.mpr ?_⟩
  rintro ⟨-, h⟩
  rw [hid] at h
  exact absurd h (by decide)

/-- The calibration table for report `0x05` begins with `0x02`, the pairing data for report `0x09`
with `0x12`. -/
theorem ps5Callback_ps4Ids :
    (∃ p, Ps5Device.Reachable stillSensors p ∧
      p.shared.returned.map (fun e => (e.1.type, e.1.reportId, e.2)) =
        [(.getFeature, 0x05, [.read (some neutralCalibration)]),
          (.getFeature, 0x09, [.read (some [0x12, 7, 7, 7, 7, 7, 7])])]) ∧
    ¬∀ p, Ps5Device.Reachable stillSensors p →
      ∀ e ∈ p.shared.returned, Answers e.1.type e.1.reportId e.2 := by
  have reached : ∃ p, Runs.Reach Ps5Device.preset.step Runs.anyStep (Started _ newPs5Device) p ∧
      p.shared.returned.map (fun e => (e.1.type, e.1.reportId, e.2)) =
        [(.getFeature, 0x05, [.read (some neutralCalibration)]),
          (.getFeature, 0x09, [.read (some [0x12, 7, 7, 7, 7, 7, 7])])] :=
    Runs.exists_reach_of_run Ps5Device.preset.step Runs.anyStep (by rfl)
      [.event (featureRequest 0x05), .run 0 0, .event (featureRequest 0x09), .run 0 0]
      (by decide +kernel)
  obtain ⟨p, hr, hp⟩ := reached
  have reachable : Ps5Device.Reachable stillSensors p :=
    ⟨true, false, false, false, false, .replicate 6 7, none, 10000000, 0, hr⟩
  refine ⟨⟨p, reachable, hp⟩, fun all => ?_⟩
  have wrong : ∀ t ∈ p.shared.returned.map (fun e => (e.1.type, e.1.reportId, e.2)),
      Answers t.1 t.2.1 t.2.2 := by
    intro t ht
    obtain ⟨e, he, rfl⟩ := List.mem_map.mp ht
    exact all p reachable e he
  rw [hp] at wrong
  exact absurd (wrong _ (List.mem_cons_self ..)) (by decide)

end WinUHid
