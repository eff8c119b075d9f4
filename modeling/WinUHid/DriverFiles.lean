import WinUHid.DeliveryOrder
import WinUHid.SharedQueue

namespace WinUHid

/-- What a file object has of its own: all but its requests in `GetNextEventIoctlQueue`. -/
structure OpenFile where
  ctx : FileContext
  nextHandle : OperationHandle
  nextObject : ObjectId
  nextRequest : IoRequest
  trace : List FileEvent

def FileState.openFile (s : FileState) : OpenFile :=
  ⟨s.ctx, s.nextHandle, s.nextObject, s.nextRequest, s.trace⟩

def OpenFile.state (file : OpenFile) (queue : List GetNextEvent) : FileState :=
  ⟨file.ctx, queue, file.nextHandle, file.nextObject, file.nextRequest, file.trace⟩

/-- `DEVICE_CONTEXT`: one queue holds the parked requests of every file object. -/
structure DriverDevice where
  files : List (Pool OpenFile Thread)
  getNextEventIoctlQueue : SharedQueue Nat GetNextEvent

namespace DriverDevice

/-- One step of a thread of the file `f`. -/
def threadStep (fw : Framework) (f : Nat) (s : OpenFile × SharedQueue Nat GetNextEvent) :
    Thread → (OpenFile × SharedQueue Nat GetNextEvent) × List Thread
  | .retrieve rest =>
    match SharedQueue.retrieve f s.2 with
    | none => (s, remaining rest)
    | some (event, queue) =>
      if fw.retrieveRequest = statusSuccess then
        ((s.1, queue), [.serve event .dispatcher rest])
      else (s, remaining rest)
  | .park event .ioctl rest =>
    if ntSuccess fw.forwardToIoQueue then ((s.1, s.2 ++ [(f, event)]), remaining rest)
    else (s, remaining (requestFailed event.request fw.forwardToIoQueue ++ rest))
  | .park event .dispatcher rest =>
    -- at the head of the whole queue, before the requests of other files
    if ntSuccess fw.requestRequeue then ((s.1, (f, event) :: s.2), remaining rest)
    else (s, remaining (requestFailed event.request fw.requestRequeue ++ rest))
  | t =>
    let stepped := t.step fw (s.1.state [])
    ((stepped.1.openFile, s.2), stepped.2)

/-- What a file object would be on its own. -/
def view (d : DriverDevice) (f : Nat) : Option FilePool :=
  (d.files[f]?).map fun p =>
    ⟨p.shared.state (SharedQueue.own f d.getNextEventIoctlQueue), p.threads⟩

end DriverDevice

/-- What can happen to the device: a file object comes to have a virtual device, something happens
to a file object, or the request at a place of the queue is cancelled. -/
inductive DeviceAction where
  | opened (reports : ParsedReports)
  | file (f : Nat) (a : Action)
  | cancelRequest (i : Nat)

def deviceStep (d : DriverDevice) : DeviceAction → Option DriverDevice
  | .opened reports =>
    some { d with files := d.files ++ [⟨(FileState.created reports).openFile, []⟩] }
  | .file f (.run i fw) =>
    (d.files[f]?).bind fun p =>
      (Pool.run (DriverDevice.threadStep fw f) ⟨(p.shared, d.getNextEventIoctlQueue), p.threads⟩
        i).map fun q => ⟨d.files.set f ⟨q.shared.1, q.threads⟩, q.shared.2⟩
  | .file _ (.cancelRequest _) => none
  | .file f a =>
    (d.files[f]?).bind fun p =>
      (fileStep ⟨p.shared.state [], p.threads⟩ a).map fun q =>
        { d with files := d.files.set f ⟨q.shared.openFile, q.threads⟩ }
  | .cancelRequest i =>
    (d.getNextEventIoctlQueue[i]?).bind fun (f, event) =>
      (d.files[f]?).map fun p =>
        ⟨d.files.set f ⟨((p.shared.state []).emit
            (requestFailed event.request statusCancelled)).openFile, p.threads⟩,
          d.getNextEventIoctlQueue.eraseIdx i⟩

namespace DriverDevice

open FileState (openFile record)

/-- What an action is to the file object it happens to. -/
def fileAction (d : DriverDevice) : DeviceAction → Option (Nat × Action)
  | .opened _ => none
  | .file f a => some (f, a)
  | .cancelRequest i =>
    (d.getNextEventIoctlQueue[i]?).map fun x =>
      (x.1, .cancelRequest (SharedQueue.own x.1 (d.getNextEventIoctlQueue.take i)).length)

theorem view_set {files : List (Pool OpenFile Thread)} {queue queue' : SharedQueue Nat GetNextEvent}
    {f : Nat} {p p' : Pool OpenFile Thread} (hf : files[f]? = some p)
    (others : ∀ g ≠ f, SharedQueue.own g queue' = SharedQueue.own g queue) :
    (⟨files.set f p', queue'⟩ : DriverDevice).view f =
        some ⟨p'.shared.state (SharedQueue.own f queue'), p'.threads⟩ ∧
      ∀ g ≠ f, (⟨files.set f p', queue'⟩ : DriverDevice).view g =
        (⟨files, queue⟩ : DriverDevice).view g := by
  obtain ⟨hl, -⟩ := List.getElem?_eq_some_iff.mp hf
  refine ⟨?_, fun g hg => ?_⟩
  · rw [view, List.getElem?_set_self hl, Option.map_some]
  · rw [view, view, List.getElem?_set_ne (Ne.symm hg), others g hg]

/-- Only looking for a request and parking one have to do with the queue. -/
theorem step_state (fw : Framework) (file : OpenFile) (queue : List GetNextEvent) (t : Thread)
    (looks : ∀ rest, t ≠ .retrieve rest)
    (parks : ∀ event caller rest, t ≠ .park event caller rest) :
    t.step fw (file.state queue) =
      ((t.step fw (file.state [])).1.openFile.state queue, (t.step fw (file.state [])).2) := by
  cases t with
  | retrieve rest => exact absurd rfl (looks rest)
  | park event caller rest => exact absurd rfl (parks event caller rest)
  | dispatch call rest =>
    cases ho : ntSuccess fw.objectCreate with
    | false => simp [Thread.step, FileState.dispatchAsyncOperation, ho, OpenFile.state, openFile]
    | true =>
      rcases hc : file.ctx.createOperation file.nextObject call with ⟨ctx, _ | op⟩ <;>
        simp [Thread.step, FileState.dispatchAsyncOperation, ho, OpenFile.state, openFile, hc]
  | enqueue op rest =>
    cases hq : file.ctx.queueOperation fw op <;>
      simp [Thread.step, FileState.enqueue, OpenFile.state, openFile, record, hq]
  | getNextEvent event =>
    cases hv : file.ctx.vhfHandle <;>
      simp [Thread.step, FileState.getNextEvent, OpenFile.state, openFile, hv]
  | serve event caller rest =>
    rcases ht : tryCompleteGetNextEvent fw file.ctx event.outputLength with
        ⟨_ | status | ⟨op, status, count, bytes⟩, ctx⟩ <;>
      simp [Thread.step, FileState.serve, OpenFile.state, openFile, record, ht]
  | completeWrite request input =>
    cases hc : checkWriteEvent file.ctx input <;>
      simp [Thread.step, FileState.completeWrite, OpenFile.state, openFile, hc]
  | calls effects => cases effects <;> rfl
  | takeWrite | completeRead | takeRead | write | close => rfl

theorem threadStep_own (fw : Framework) (f : Nat) (s : OpenFile × SharedQueue Nat GetNextEvent)
    (t : Thread) :
    t.step fw (s.1.state (SharedQueue.own f s.2)) =
        ((threadStep fw f s t).1.1.state (SharedQueue.own f (threadStep fw f s t).1.2),
          (threadStep fw f s t).2) ∧
      (∀ g ≠ f, SharedQueue.own g (threadStep fw f s t).1.2 = SharedQueue.own g s.2) ∧
      ∀ x ∈ (threadStep fw f s t).1.2, x ∈ s.2 ∨ x.1 = f := by
  cases t with
  | retrieve rest =>
    cases hr : SharedQueue.retrieve f s.2 with
    | none =>
      have empty := SharedQueue.retrieve_eq_none.mp hr
      have same : threadStep fw f s (.retrieve rest) = (s, remaining rest) := by
        simp only [threadStep, hr]
      rw [same, empty]
      exact ⟨rfl, fun _ _ => rfl, fun x hx => .inl hx⟩
    | some found =>
      obtain ⟨event, queue⟩ := found
      obtain ⟨mine, others, kept⟩ := SharedQueue.own_of_retrieve hr
      by_cases hs : fw.retrieveRequest = statusSuccess
      · have took : threadStep fw f s (.retrieve rest) =
            ((s.1, queue), [.serve event .dispatcher rest]) := by
          simp only [threadStep, hr, if_pos hs]
        rw [took, mine]
        refine ⟨?_, others, fun x hx => .inl (kept x hx)⟩
        simp only [Thread.step, FileState.retrieve, OpenFile.state, if_pos hs]
      · have same : threadStep fw f s (.retrieve rest) = (s, remaining rest) := by
          simp only [threadStep, hr, if_neg hs]
        rw [same]
        refine ⟨?_, fun _ _ => rfl, fun x hx => .inl hx⟩
        rw [mine]
        simp only [Thread.step, FileState.retrieve, OpenFile.state, if_neg hs]
  | park event caller rest =>
    cases caller with
    | ioctl =>
      by_cases hf : ntSuccess fw.forwardToIoQueue = true
      · have parked : threadStep fw f s (.park event .ioctl rest) =
            ((s.1, s.2 ++ [(f, event)]), remaining rest) := by
          simp only [threadStep, if_pos hf]
        rw [parked]
        refine ⟨?_, fun g hg => ?_, fun x hx => ?_⟩
        · rw [SharedQueue.own_append, SharedQueue.own_cons_self, SharedQueue.own_nil]
          simp only [Thread.step, FileState.park, OpenFile.state, if_pos hf]
        · rw [SharedQueue.own_append, SharedQueue.own_cons_ne (Ne.symm hg), SharedQueue.own_nil,
            List.append_nil]
        · rcases List.mem_append.mp hx with hx | hx
          · exact .inl hx
          · exact .inr (by rw [List.mem_singleton.mp hx])
      · have same : threadStep fw f s (.park event .ioctl rest) =
            (s, remaining (requestFailed event.request fw.forwardToIoQueue ++ rest)) := by
          simp only [threadStep, if_neg hf]
        rw [same]
        refine ⟨?_, fun _ _ => rfl, fun x hx => .inl hx⟩
        simp only [Thread.step, FileState.park, if_neg hf]
    | dispatcher =>
      by_cases hf : ntSuccess fw.requestRequeue = true
      · have parked : threadStep fw f s (.park event .dispatcher rest) =
            ((s.1, (f, event) :: s.2), remaining rest) := by
          simp only [threadStep, if_pos hf]
        rw [parked]
        refine ⟨?_, fun g hg => SharedQueue.own_cons_ne (Ne.symm hg) _ _, fun x hx => ?_⟩
        · rw [SharedQueue.own_cons_self]
          simp only [Thread.step, FileState.park, OpenFile.state, if_pos hf]
        · rcases List.mem_cons.mp hx with rfl | hx
          · exact .inr rfl
          · exact .inl hx
      · have same : threadStep fw f s (.park event .dispatcher rest) =
            (s, remaining (requestFailed event.request fw.requestRequeue ++ rest)) := by
          simp only [threadStep, if_neg hf]
        rw [same]
        refine ⟨?_, fun _ _ => rfl, fun x hx => .inl hx⟩
        simp only [Thread.step, FileState.park, if_neg hf]
  | _ =>
    refine ⟨step_state fw s.1 _ _ ?_ ?_, fun _ _ => rfl, fun x hx => .inl hx⟩
    · exact fun _ h => by cases h
    · exact fun _ _ _ h => by cases h

theorem fileStep_state (file : OpenFile) (queue : List GetNextEvent) (threads : List Thread)
    {b : Action} (runs : ∀ i fw, b ≠ .run i fw) (cancels : ∀ i, b ≠ .cancelRequest i) :
    fileStep ⟨file.state queue, threads⟩ b =
      (fileStep ⟨file.state [], threads⟩ b).map fun q =>
        ⟨q.shared.openFile.state queue, q.threads⟩ := by
  cases b with
  | run i fw => exact absurd rfl (runs i fw)
  | cancelRequest i => exact absurd rfl (cancels i)
  | _ => rfl

/-- A step of the device as a step of one file object, past all others. -/
structure FileMoves (d : DriverDevice) (a : DeviceAction) (d' : DriverDevice) (f : Nat) (b : Action)
    (p p' : FilePool) : Prop where
  action : d.fileAction a = some (f, b)
  before : d.view f = some p
  step : fileStep p b = some p'
  after : d'.view f = some p'
  others : ∀ g ≠ f, d'.view g = d.view g
  length : d'.files.length = d.files.length
  queue : ∀ x ∈ d'.getNextEventIoctlQueue, x ∈ d.getNextEventIoctlQueue ∨ x.1 = f

variable {d d' : DriverDevice} {f : Nat}

theorem moves_of_set {a : DeviceAction} {b : Action} {p p' : Pool OpenFile Thread}
    {queue : SharedQueue Nat GetNextEvent} (hf : d.files[f]? = some p)
    (action : d.fileAction a = some (f, b))
    (step : fileStep ⟨p.shared.state (SharedQueue.own f d.getNextEventIoctlQueue), p.threads⟩ b =
      some ⟨p'.shared.state (SharedQueue.own f queue), p'.threads⟩)
    (others : ∀ g ≠ f, SharedQueue.own g queue = SharedQueue.own g d.getNextEventIoctlQueue)
    (kept : ∀ x ∈ queue, x ∈ d.getNextEventIoctlQueue ∨ x.1 = f) :
    FileMoves d a ⟨d.files.set f p', queue⟩ f b
      ⟨p.shared.state (SharedQueue.own f d.getNextEventIoctlQueue), p.threads⟩
      ⟨p'.shared.state (SharedQueue.own f queue), p'.threads⟩ where
  action := action
  before := by rw [view, hf, Option.map_some]
  step := step
  after := (view_set hf others).1
  others := (view_set hf others).2
  length := List.length_set
  queue := kept

theorem step_cases {a : DeviceAction} (h : deviceStep d a = some d') :
    (∃ reports, a = .opened reports ∧
      d' = { d with files := d.files ++ [⟨(FileState.created reports).openFile, []⟩] }) ∨
    ∃ f b p p', FileMoves d a d' f b p p' := by
  cases a with
  | opened reports => exact .inl ⟨reports, rfl, (Option.some.inj h).symm⟩
  | cancelRequest i =>
    obtain ⟨⟨f, event⟩, hi, h⟩ := Option.bind_eq_some_iff.mp h
    obtain ⟨p, hf, rfl⟩ := Option.map_eq_some_iff.mp h
    obtain ⟨mine, erased, others⟩ := SharedQueue.own_eraseIdx hi
    refine .inr ⟨f, .cancelRequest (SharedQueue.own f (d.getNextEventIoctlQueue.take i)).length, _, _,
      moves_of_set hf ?_ ?_ others ?_⟩
    · rw [fileAction, hi, Option.map_some]
    · simp only [fileStep, OpenFile.state, mine, Option.map_some, erased]
      rfl
    · exact fun x hx => .inl (List.mem_of_mem_eraseIdx hx)
  | file f b =>
    cases b with
    | run i fw =>
      obtain ⟨p, hf, h⟩ := Option.bind_eq_some_iff.mp h
      obtain ⟨q, hq, rfl⟩ := Option.map_eq_some_iff.mp h
      obtain ⟨t, ht, rfl⟩ := Option.map_eq_some_iff.mp hq
      obtain ⟨stepped, others, kept⟩ := threadStep_own fw f (p.shared, d.getNextEventIoctlQueue) t
      refine .inr ⟨f, .run i fw, _, _, moves_of_set hf rfl ?_ others kept⟩
      show (p.threads[i]?).map _ = _
      rw [ht, Option.map_some, stepped]
    | cancelRequest i => cases h
    | _ =>
      obtain ⟨p, hf, h⟩ := Option.bind_eq_some_iff.mp h
      obtain ⟨q, hq, rfl⟩ := Option.map_eq_some_iff.mp h
      refine .inr ⟨f, _, _, _, moves_of_set hf rfl ?_ (fun _ _ => rfl) fun x hx => .inl hx⟩
      rw [fileStep_state, hq, Option.map_some]
      · exact fun _ _ h => by cases h
      · exact fun _ h => by cases h

/-- No file object is held up by the others. -/
theorem exists_step {p p' : FilePool} {b : Action} (hv : d.view f = some p)
    (hs : fileStep p b = some p') :
    ∃ a d', deviceStep d a = some d' ∧ FileMoves d a d' f b p p' := by
  obtain ⟨q, hf, rfl⟩ := Option.map_eq_some_iff.mp hv
  have finish : ∀ a, (deviceStep d a).isSome = true → d.fileAction a = some (f, b) →
      ∃ a d', deviceStep d a = some d' ∧ FileMoves d a d' f b
        ⟨q.shared.state (SharedQueue.own f d.getNextEventIoctlQueue), q.threads⟩ p' := by
    intro a enabled action
    obtain ⟨d₁, stepped⟩ := Option.isSome_iff_exists.mp enabled
    obtain ⟨reports, rfl, -⟩ | ⟨g, b', r, r', moves⟩ := step_cases stepped
    · cases action
    · obtain ⟨rfl, rfl⟩ := Prod.mk.inj (Option.some.inj (moves.action.symm.trans action))
      obtain rfl := Option.some.inj (moves.before.symm.trans hv)
      obtain rfl := Option.some.inj (moves.step.symm.trans hs)
      exact ⟨a, d₁, stepped, moves⟩
  cases b with
  | run i fw =>
    obtain ⟨t, ht, -⟩ := Option.map_eq_some_iff.mp hs
    have there : q.threads[i]? = some t := ht
    refine finish (.file f (.run i fw)) ?_ rfl
    simp [deviceStep, hf, Pool.run, there]
  | cancelRequest k =>
    obtain ⟨event, hk, -⟩ := Option.map_eq_some_iff.mp hs
    obtain ⟨i, hi, rfl⟩ := SharedQueue.exists_of_own hk
    refine finish (.cancelRequest i) ?_ (by rw [fileAction, hi, Option.map_some])
    simp [deviceStep, hi, hf]
  | _ =>
    refine finish (.file f _) ?_ rfl
    simp [deviceStep, hf, fileStep, FilePool.request]

/-- The steps of the device that are admitted steps of a file object. -/
def FilesAdmit (guard : FilePool → Action → Prop) (d : DriverDevice) (a : DeviceAction) : Prop :=
  ∀ f b p, d.fileAction a = some (f, b) → d.view f = some p → guard p b

instance (d : DriverDevice) (a : DeviceAction) : Decidable (FilesAdmit Runs.anyStep d a) :=
  .isTrue fun _ _ _ _ _ => trivial

/-- No request waits for a file object that is not there, and each file object has run on its own. -/
structure Apart (guard : FilePool → Action → Prop) (d : DriverDevice) : Prop where
  known : ∀ x ∈ d.getNextEventIoctlQueue, x.1 < d.files.length
  alone : ∀ f p, d.view f = some p → ∃ reports, FileReach guard reports p

theorem Apart.step {guard : FilePool → Action → Prop} {a : DeviceAction} (h : Apart guard d)
    (admitted : FilesAdmit guard d a) (hs : deviceStep d a = some d') : Apart guard d' := by
  obtain ⟨reports, rfl, rfl⟩ | ⟨f, b, p, p', moves⟩ := step_cases hs
  · refine ⟨fun x hx => ?_, fun g p hv => ?_⟩
    · show x.1 < (d.files ++ [_]).length
      rw [List.length_append]
      exact Nat.lt_add_right _ (h.known x hx)
    · obtain ⟨q, hq, he⟩ := Option.map_eq_some_iff.mp hv
      rcases List.getElem?_concat_eq_some_iff.mp hq with hq | ⟨rfl, rfl⟩
      · exact h.alone g p (by rw [view, hq]; exact congrArg some he)
      · have none : SharedQueue.own d.files.length d.getNextEventIoctlQueue = [] :=
          SharedQueue.own_eq_nil fun x hx => (h.known x hx).ne
        rw [none] at he
        exact ⟨reports, .start he.symm⟩
  · have there : f < d.files.length := by
      obtain ⟨q, hq, -⟩ := Option.map_eq_some_iff.mp moves.before
      exact (List.getElem?_eq_some_iff.mp hq).1
    refine ⟨fun x hx => ?_, fun g q hv => ?_⟩
    · rw [moves.length]
      rcases moves.queue x hx with old | mine
      · exact h.known x old
      · rwa [mine]
    · by_cases hg : g = f
      · subst hg
        obtain rfl := Option.some.inj (moves.after.symm.trans hv)
        obtain ⟨reports, reach⟩ := h.alone g p moves.before
        exact ⟨reports, reach.next (admitted g b p moves.action moves.before) moves.step⟩
      · exact h.alone g q (moves.others g hg ▸ hv)

/-- However many file objects share the queue and however their steps are interleaved, each of them
runs as it would alone. -/
theorem files_run_alone {guard : FilePool → Action → Prop}
    (h : Runs.Reach deviceStep (FilesAdmit guard) (fun d => d = ⟨[], []⟩) d) {p : FilePool}
    (hv : d.view f = some p) : FileReach guard p.shared.ctx.reports p := by
  have apart : Apart guard d := by
    clear hv
    induction h with
    | start hi =>
      cases hi
      exact ⟨nofun, fun g q hq => by cases hq⟩
    | next _ admitted hs ih => exact ih.step admitted hs
  obtain ⟨reports, reach⟩ := apart.alone f p hv
  rwa [reports_constant reach]

/-- A request of each of two file objects is parked, and the second one gets an event. -/
def parkAndDeliver : List DeviceAction :=
  [.opened ⟨fun _ => ⟨0, 0, 4⟩, false⟩, .opened ⟨fun _ => ⟨0, 0, 4⟩, false⟩,
    .file 0 (.getNextEvent 64), .file 0 (.run 0 {}), .file 0 (.run 0 {}), .file 0 (.run 0 {}),
    .file 1 (.getNextEvent 64), .file 1 (.run 0 {}), .file 1 (.run 0 {}), .file 1 (.run 0 {}),
    .file 1 (.asyncOperation .getFeature ⟨fun _ => 0, 4, 0⟩), .file 1 (.run 0 {}),
    .file 1 (.run 0 {}), .file 1 (.run 0 {}), .file 1 (.run 0 {})]

theorem files_run_alone_two : ∃ (d : DriverDevice) (p : FilePool),
    d.getNextEventIoctlQueue.map Prod.fst = [0] ∧
      (handedOperations p.shared.trace).map (fun x => (x.1, x.2.object)) = [(0, 0)] ∧
      FileReach Runs.anyStep p.shared.ctx.reports p := by
  have reached : ∃ d, Runs.Reach deviceStep (FilesAdmit Runs.anyStep) (fun d => d = ⟨[], []⟩) d ∧
      d.getNextEventIoctlQueue.map Prod.fst = [0] ∧
      (d.view 1).any (fun p => decide ((handedOperations p.shared.trace).map
        (fun x => (x.1, x.2.object)) = [(0, 0)])) = true :=
    Runs.exists_reach_of_run deviceStep (FilesAdmit Runs.anyStep) (by rfl) parkAndDeliver rfl
  obtain ⟨d, reach, waiting, handed⟩ := reached
  obtain ⟨p, hv, hp⟩ := (Option.any_eq_true _ _).mp handed
  exact ⟨d, p, waiting, of_decide_eq_true hp, files_run_alone reach hv⟩

/-- Whatever a file object could do on its own it can do beside the others, and they notice nothing
of it. -/
theorem files_run_apart {p p' : FilePool} {as : List Action} (hv : d.view f = some p)
    (h : Runs.exec fileStep p as = some p') :
    ∃ bs d', Runs.exec deviceStep d bs = some d' ∧ d'.view f = some p' ∧
      ∀ g ≠ f, d'.view g = d.view g := by
  induction as generalizing d p with
  | nil =>
    obtain rfl := Option.some.inj h
    exact ⟨[], d, rfl, hv, fun _ _ => rfl⟩
  | cons b as ih =>
    obtain ⟨q, hb, rest⟩ := Option.bind_eq_some_iff.mp h
    obtain ⟨a, d₁, stepped, moves⟩ := exists_step hv hb
    obtain ⟨bs, d', ran, after, others⟩ := ih moves.after rest
    refine ⟨a :: bs, d', ?_, after, fun g hg => (others g hg).trans (moves.others g hg)⟩
    rw [Runs.exec, stepped]
    exact ran

/-- Two file objects, of which the second one is about to be closed. -/
def closing : DriverDevice :=
  ⟨[⟨(FileState.created ⟨fun _ => ⟨0, 0, 4⟩, false⟩).openFile, []⟩,
    ⟨(FileState.created ⟨fun _ => ⟨0, 0, 4⟩, false⟩).openFile, [.close]⟩], []⟩

theorem files_run_apart_closing : ∃ bs d', Runs.exec deviceStep closing bs = some d' ∧
    (d'.view 1).map (·.shared.ctx.vhfHandle) = some false ∧
    (d'.view 0).map (·.shared.ctx.vhfHandle) = some true := by
  have closed : Runs.exec fileStep ⟨.created ⟨fun _ => ⟨0, 0, 4⟩, false⟩, [.close]⟩ [.run 0 {}] =
      some ⟨(FileState.close (.created ⟨fun _ => ⟨0, 0, 4⟩, false⟩)).1, [.calls [.vhfDelete]]⟩ := rfl
  obtain ⟨bs, d', ran, after, others⟩ := files_run_apart (d := closing) (f := 1) rfl closed
  refine ⟨bs, d', ran, ?_, ?_⟩
  · rw [after]
    rfl
  · rw [others 0 (by decide)]
    rfl

end DriverDevice

end WinUHid
