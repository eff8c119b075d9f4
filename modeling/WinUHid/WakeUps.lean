import WinUHid.ExactlyOnce

namespace WinUHid

/-- No call into the framework fails. -/
def Framework.Succeeds (fw : Framework) : Prop :=
  ntSuccess fw.objectCreate ∧ ntSuccess fw.collectionAdd ∧ ntSuccess fw.retrieveOutputMemory ∧
    fw.retrieveRequest = statusSuccess ∧ ntSuccess fw.forwardToIoQueue ∧
    ntSuccess fw.requestRequeue

instance (fw : Framework) : Decidable fw.Succeeds := inferInstanceAs (Decidable (_ ∧ _))

def Thread.served : Thread → Option GetNextEvent
  | .serve event _ _ => some event
  | _ => none

/-- The output buffer of a request being served holds the event that it is to receive. -/
def Thread.HasRoom (ctx : FileContext) (t : Thread) : Prop :=
  ∀ event ∈ t.served, ∀ op ∈ ctx.waitingRequests.head?, Fits op event.outputLength

instance (ctx : FileContext) (t : Thread) : Decidable (t.HasRoom ctx) :=
  inferInstanceAs (Decidable (∀ event ∈ t.served, ∀ op ∈ ctx.waitingRequests.head?, _))

/-- Steps in which nothing fails. -/
def unfailing : FilePool → Action → Prop :=
  onRun fun fw p t => fw.Succeeds ∧ t.HasRoom p.shared.ctx

instance (p : FilePool) (a : Action) : Decidable (unfailing p a) :=
  inferInstanceAs (Decidable (onRun _ p a))

/-- One for a thread that may still call `TryCompleteGetNextEvent`. -/
def Thread.serving : Thread → Nat
  | .retrieve _ | .getNextEvent _ | .serve _ _ _ => 1
  | _ => 0

/-- One for a thread between a `TryCompleteGetNextEvent` that found nothing and the queue. -/
def Thread.parking : Thread → Nat
  | .park _ _ _ => 1
  | _ => 0

def FilePool.serving (p : FilePool) : Nat := (p.threads.map Thread.serving).sum

def FilePool.parking (p : FilePool) : Nat := (p.threads.map Thread.parking).sum

def Thread.isRetrieving : Thread → Bool
  | .retrieve _ => true
  | _ => false

/-- A dispatcher may miss a request on its way to the manual queue only where the other threads
are enough to serve what is waiting. -/
def Thread.Covered (p : FilePool) (t : Thread) : Prop :=
  t.isRetrieving → p.shared.getNextEventQueue = [] →
    p.parking = 0 ∨ p.shared.ctx.waitingRequests.length < p.serving

instance (p : FilePool) (t : Thread) : Decidable (t.Covered p) :=
  inferInstanceAs (Decidable (_ → _ → _ ∨ _))

/-- Steps in which no wake-up is lost. -/
def covered : FilePool → Action → Prop := onRun fun _ p t => t.Covered p

instance (p : FilePool) (a : Action) : Decidable (covered p a) :=
  inferInstanceAs (Decidable (onRun _ p a))

/-- While a request is parked or about to be, each waiting operation has a thread to come. -/
def FilePool.Attended (p : FilePool) : Prop :=
  0 < p.shared.getNextEventQueue.length + p.parking →
    p.shared.ctx.waitingRequests.length ≤ p.serving

@[simp] theorem serving_remaining (es : List Effect) :
    ((remaining es).map Thread.serving).sum = 0 := by
  cases es <;> rfl

@[simp] theorem parking_remaining (es : List Effect) :
    ((remaining es).map Thread.parking).sum = 0 := by
  cases es <;> rfl

theorem Arrives.attended {p : FilePool} {s : FileState} {a : Action} {t : Thread}
    (h : Arrives p.shared a s t) (hp : p.Attended) : FilePool.Attended (p.spawn s t) := by
  have hparking : t.parking = 0 := by cases h <;> rfl
  have hctx : s.ctx = p.shared.ctx := by cases h <;> rfl
  have hqueue : s.getNextEventQueue = p.shared.getNextEventQueue := by cases h <;> rfl
  simp only [FilePool.Attended, FilePool.serving, FilePool.parking, Pool.spawn_shared,
    Pool.spawn_threads, List.map_append, List.sum_append, List.map_cons, List.map_nil,
    List.sum_cons, List.sum_nil, hparking, hctx, hqueue] at hp ⊢
  omega

/-- Where nothing fails, a thread that leaves an operation waiting is a dispatcher that finds no
parked request, and the guard is about that step. -/
theorem Thread.Steps.attended {fw : Framework} {p : FilePool} {l r ts : List Thread} {t : Thread}
    {s : FileState} (h : Thread.Steps fw p.shared t s ts) (ht : p.threads = l ++ t :: r)
    (hp : p.Attended) (hfw : fw.Succeeds) (hroom : t.HasRoom p.shared.ctx) (hc : t.Covered p)
    (hclosed : p.shared.ctx.vhfHandle = false → p.shared.ctx.waitingRequests = []) :
    FilePool.Attended ⟨s, l ++ ts ++ r⟩ := by
  obtain ⟨_, hadd, hmem, hretrieve, _, _⟩ := hfw
  have hserving : p.serving = (l.map Thread.serving).sum + (t.serving + (r.map Thread.serving).sum) := by
    simp [FilePool.serving, ht]
  have hparking : p.parking = (l.map Thread.parking).sum + (t.parking + (r.map Thread.parking).sum) := by
    simp [FilePool.parking, ht]
  simp only [FilePool.Attended, hserving, hparking] at hp
  simp only [FilePool.Attended, FilePool.serving, FilePool.parking, List.map_append,
    List.sum_append]
  cases h with
  | unknownReport call rest ctx _ hcreate | created call rest ctx op _ hcreate =>
    rw [(FileContext.createOperation_eq hcreate).1]
    simp [Thread.serving, Thread.parking] at hp ⊢
    omega
  | queued op rest =>
    simp [Thread.serving, Thread.parking] at hp ⊢
    omega
  | nothingParked rest hnone =>
    -- the one step after which an operation may be left without a thread to come for it
    have hempty := hnone.resolve_right (not_not_intro hretrieve)
    have hcover := hc rfl hempty
    simp [Thread.serving, Thread.parking, hserving, hparking, hempty] at hp hcover ⊢
    omega
  | retrieved event queue rest hq =>
    simp [Thread.serving, Thread.parking, hq] at hp ⊢
    omega
  | noDevice event hv =>
    simp [hclosed hv]
  | pending event caller rest hw =>
    simp [hw]
  | failed event caller rest op waiting status hw _ hno =>
    exact absurd ⟨hmem, hroom event rfl op (by simp [hw]), hadd⟩ hno
  | handed event caller rest op waiting hw =>
    simp [Thread.serving, Thread.parking, hw] at hp ⊢
    omega
  | closed => simp
  | _ =>
    simp [Thread.serving, Thread.parking] at hp ⊢
    omega

theorem FileReach.attended {guard : FilePool → Action → Prop} {reports : ParsedReports}
    {p : FilePool} (h : FileReach guard reports p)
    (hguard : ∀ p a, guard p a → unfailing p a ∧ covered p a) : p.Attended := by
  induction h using FileReach.induct with
  | start => simp [FilePool.Attended, FileState.created]
  | arrives p a s t _ _ _ ha ih => exact ha.attended ih
  | cancelled p before event after _ _ hq ih =>
    simp only [FilePool.Attended, hq, FileState.emit_getNextEventQueue, List.length_append,
      List.length_cons] at ih ⊢
    exact fun hq => ih (by simp only [FilePool.parking] at hq ⊢; omega)
  | ran p i fw l t r s ts hr _ hg hl ht hs ih =>
    obtain ⟨hall, hcovered⟩ := hguard p _ hg
    obtain ⟨hfw, hroom⟩ := hall t ht
    refine hs.attended hl ih hfw hroom (hcovered t ht) fun hv => ?_
    exact (List.append_eq_nil_iff.mp (operations_empty_of_closed hr hv)).1

/-- No wake-up is lost in a run in which nothing fails and no dispatcher misses a request that is
on its way to the manual queue while the threads to come are too few: when no thread is left, no
operation waits beside a parked request. -/
theorem wakeUps_kept {reports : ParsedReports} {p : FilePool}
    (h : FileReach (fun p a => unfailing p a ∧ covered p a) reports p) (ht : p.threads = []) :
    p.shared.ctx.waitingRequests = [] ∨ p.shared.getNextEventQueue = [] := by
  have hp := h.attended fun _ _ hg => hg
  simp only [FilePool.Attended, FilePool.serving, FilePool.parking, ht, List.map_nil,
    List.sum_nil] at hp
  by_cases hq : p.shared.getNextEventQueue = []
  · exact .inr hq
  · have hlen := List.length_pos_iff.mpr hq
    exact .inl (List.length_eq_zero_iff.mp (by omega))

/-- A dispatcher misses a request on its way to the manual queue, but a second request comes for
the operation; the first one stays parked. -/
def coveredMiss : List Action :=
  [.getNextEvent 64, .run 0 {}, .run 0 {}, .getNextEvent 64,
    .asyncOperation .getFeature ⟨fun _ => 0, 4, 0⟩, .run 2 {}, .run 2 {}, .run 2 {}, .run 0 {},
    .run 0 {}, .run 0 {}, .run 0 {}]

theorem wakeUps_kept_coveredMiss :
    ∃ p, FileReach (fun p a => unfailing p a ∧ covered p a) featureReports p ∧
      p.shared.getNextEventQueue.length = 1 ∧ p.shared.ctx.waitingRequests = [] := by
  obtain ⟨p, hr, ht, hq⟩ := exists_guardedReach (fun p a => unfailing p a ∧ covered p a)
    featureReports coveredMiss
    (P := fun p => p.threads.isEmpty = true ∧ p.shared.getNextEventQueue.length = 1) rfl
  have hempty := wakeUps_kept hr (List.isEmpty_iff.mp ht)
  exact ⟨p, hr, hq, hempty.resolve_right (List.length_pos_iff.mp (by omega))⟩

/-- The operation is added after the request has found none, and looked for before the request is
in the queue. -/
def lostWakeUp : List Action :=
  [.getNextEvent 64, .run 0 {}, .run 0 {}, .asyncOperation .getFeature ⟨fun _ => 0, 4, 0⟩,
    .run 1 {}, .run 1 {}, .run 1 {}, .run 0 {}]

theorem lostWakeUp_waits : ∃ p, FileReach unfailing featureReports p ∧ p.threads = [] ∧
    ¬(p.shared.ctx.waitingRequests = [] ∨ p.shared.getNextEventQueue = []) := by
  obtain ⟨p, hr, ht, hw, hq⟩ := exists_guardedReach unfailing featureReports lostWakeUp
    (P := fun p => p.threads.isEmpty = true ∧ p.shared.ctx.waitingRequests.length = 1 ∧
      p.shared.getNextEventQueue.length = 1) rfl
  refine ⟨p, hr, List.isEmpty_iff.mp ht, ?_⟩
  rintro (hn | hn)
  · simp [hn] at hw
  · simp [hn] at hq

end WinUHid
