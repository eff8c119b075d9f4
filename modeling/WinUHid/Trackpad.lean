import WinUHid.Mouse
import WinUHid.Runs
import Mathlib.Algebra.BigOperators.Group.List.Basic
import Mathlib.Algebra.Group.Int.Defs
import Mathlib.Algebra.Group.Prod
import Mathlib.Tactic.Abel

namespace WinUHid

/-- A motion along both axes. -/
abbrev Motion := Int × Int

/-- The variables of `wireMouseTrackpad`. `C` are the numbers that pointer positions have. -/
structure Trackpad (C : Type*) where
  dragging : Bool
  lastX : C
  lastY : C
  pendingDx : Int
  pendingDy : Int
  rafScheduled : Bool

namespace Trackpad

variable {C : Type*}

def pending (p : Trackpad C) : Motion := (p.pendingDx, p.pendingDy)

/-- `requestAnimationFrame(flush)` unless one is under way; the flag says whether it is called. -/
def schedule (p : Trackpad C) : Trackpad C × Bool :=
  if !p.rafScheduled then ({ p with rafScheduled := true }, true) else (p, false)

def pointerdown (p : Trackpad C) (clientX clientY : C) : Trackpad C :=
  { p with dragging := true, lastX := clientX, lastY := clientY }

/-- `moved a b` is `Math.round(b - a)`. -/
def pointermove (moved : C → C → Int) (p : Trackpad C) (clientX clientY : C) :
    Trackpad C × Bool :=
  if !p.dragging then (p, false)
  else
    schedule
      { p with
        lastX := clientX
        lastY := clientY
        pendingDx := p.pendingDx + moved p.lastX clientX
        pendingDy := p.pendingDy + moved p.lastY clientY }

/-- The listener of `pointerup` and `pointercancel`. -/
def endDrag (p : Trackpad C) : Trackpad C × Bool :=
  if !p.dragging then (p, false) else schedule { p with dragging := false }

/-- What an animation frame calls; the motion it sends, if any. -/
def flush (p : Trackpad C) : Trackpad C × Option Motion :=
  let p := { p with rafScheduled := false }
  if p.pendingDx = 0 ∧ p.pendingDy = 0 then (p, none)
  else ({ p with pendingDx := 0, pendingDy := 0 }, some (p.pendingDx, p.pendingDy))

end Trackpad

/-- The number of a JSON body as an `i16`. -/
def toI16 (n : Int) : Option Int16 := if -2 ^ 15 ≤ n ∧ n < 2 ^ 15 then some (.ofInt n) else none

/-- The body of `/api/devices/{id}/mouse/motion`. -/
def mouseMotion (m : Motion) : Option (Int16 × Int16) :=
  (toI16 m.1).bind fun dx => (toI16 m.2).map fun dy => (dx, dy)

/-- Where a drag began and where it has come to. -/
structure Drag (C : Type*) where
  startX : C
  startY : C
  endX : C
  endY : C

/-- A page's trackpad with the mouse it moves. -/
structure TrackpadPage (C : Type*) where
  pad : Trackpad C
  /-- Calls of `flush` that wait for the next animation frame. -/
  frames : Nat
  /-- Motion requests that have not come to the mouse. -/
  requests : List Motion
  mouse : MouseDevice
  /-- The reports the mouse has submitted. -/
  reports : List BasicReport
  /-- Motions that the server refused for their size. -/
  refused : List Motion
  /-- Motions that were lost to a failure on the way. -/
  failed : List Motion
  /-- What the moves of the pointer were rounded to. -/
  moved : Motion
  /-- The motions that other callers asked for. -/
  others : Motion
  drags : List (Drag C)

inductive PageAction (C : Type*) where
  | pointerdown (clientX clientY : C)
  | pointermove (clientX clientY : C)
  | pointerup
  | animationFrame
  /-- A motion request comes to its end. `ok` is false where it does not get through to the mouse
  or the report is not submitted. -/
  | motionRequest (i : Nat) (ok : Bool)
  /-- Another caller uses the mouse, or the host asks it something. -/
  | mouseCall (call : MouseCall) (ok : Bool)

def MouseCall.motion : MouseCall → Motion
  | .reportMotion deltaX deltaY => (deltaX.toInt, deltaY.toInt)
  | _ => 0

def BasicReport.motion (r : BasicReport) : Motion := (r.deltaX.toInt, r.deltaY.toInt)

def MouseReply.reports : MouseReply → List BasicReport
  | .submitted report => [report]
  | _ => []

namespace TrackpadPage

variable {C : Type*} (moved : C → C → Int)

def withPad (f : TrackpadPage C) (next : Trackpad C × Bool) : TrackpadPage C :=
  { f with pad := next.1, frames := if next.2 then f.frames + 1 else f.frames }

/-- The latest drag goes on. -/
def extendDrag (clientX clientY : C) : List (Drag C) → List (Drag C)
  | [] => []
  | d :: ds => { d with endX := clientX, endY := clientY } :: ds

/-- A call on the mouse; `ok` is what `WinUHidSubmitInputReport` returns. -/
def call (f : TrackpadPage C) (call : MouseCall) (ok : Bool) : TrackpadPage C :=
  let next := f.mouse.call call
  { f with
    mouse := next.1
    reports := f.reports ++ if ok then next.2.reports else [] }

def step (f : TrackpadPage C) : PageAction C → Option (TrackpadPage C)
  | .pointerdown clientX clientY =>
    some
      { f with
        pad := f.pad.pointerdown clientX clientY
        drags := ⟨clientX, clientY, clientX, clientY⟩ :: f.drags }
  | .pointermove clientX clientY =>
    let f' := f.withPad (f.pad.pointermove moved clientX clientY)
    some
      (if f.pad.dragging then
        { f' with
          moved := f.moved + (moved f.pad.lastX clientX, moved f.pad.lastY clientY)
          drags := extendDrag clientX clientY f.drags }
      else f')
  | .pointerup => some (f.withPad f.pad.endDrag)
  | .animationFrame =>
    if f.frames = 0 then none
    else
      some
        { f with
          pad := f.pad.flush.1
          frames := f.frames - 1
          requests := f.requests ++ f.pad.flush.2.toList }
  | .motionRequest i ok =>
    (f.requests[i]?).map fun m =>
      let left := { f with requests := f.requests.eraseIdx i }
      if !ok then { left with failed := f.failed ++ [m] }
      else
        match mouseMotion m with
        | none => { left with refused := f.refused ++ [m] }
        | some (dx, dy) => left.call (.reportMotion dx dy) true
  | .mouseCall call ok =>
    some { f.call call ok with others := f.others + if ok then call.motion else 0 }

theorem toInt_of_toI16 {n : Int} {v : Int16} (h : toI16 n = some v) : v.toInt = n := by
  unfold toI16 at h
  split at h
  next fits =>
    cases Option.some.inj h
    exact Int16.toInt_ofInt_of_le (by omega) (by omega)
  next => cases h

/-- A motion that the server takes is the motion that was sent. -/
theorem motion_of_mouseMotion {m : Motion} {dx dy : Int16} (h : mouseMotion m = some (dx, dy)) :
    (MouseCall.reportMotion dx dy).motion = m := by
  obtain ⟨x, hx, h⟩ := Option.bind_eq_some_iff.mp h
  obtain ⟨y, hy, h⟩ := Option.map_eq_some_iff.mp h
  cases h
  exact Prod.ext (toInt_of_toI16 hx) (toInt_of_toI16 hy)

/-- The report of a call moves the pointer by the motion that the call asks for. -/
theorem reports_motion (mouse : MouseDevice) (call : MouseCall) :
    ((mouse.call call).2.reports.map BasicReport.motion).sum = call.motion := by
  cases call with
  | reportMotion deltaX deltaY =>
    simp [MouseDevice.call, MouseDevice.reportMotion, MouseReply.reports, BasicReport.motion,
      MouseCall.motion]
  | reportButton buttonIndex down =>
    show ((mouse.reportButton buttonIndex down).2.reports.map BasicReport.motion).sum = 0
    unfold MouseDevice.reportButton
    split <;> rfl
  | reportScroll scrollValue horizontal =>
    show ((mouse.reportScroll scrollValue horizontal).2.reports.map BasicReport.motion).sum = 0
    unfold MouseDevice.reportScroll
    dsimp only
    split <;> split <;> rfl
  | callback event =>
    show ((mouse.callback event).2.reports.map BasicReport.motion).sum = 0
    unfold MouseDevice.callback
    split
    · split <;> rfl
    · split
      · rfl
      · split <;> rfl

/-- The motions between the pointer and the mouse, and those that have come to an end. -/
def accounted (f : TrackpadPage C) : Motion :=
  f.pad.pending + f.requests.sum + (f.reports.map BasicReport.motion).sum + f.refused.sum +
    f.failed.sum

/-- One frame is under way while a motion waits for it, and every motion is in one place. -/
structure Conserves (f : TrackpadPage C) : Prop where
  frames : f.frames = if f.pad.rafScheduled then 1 else 0
  scheduled : f.pad.rafScheduled = false → f.pad.pending = 0
  total : f.accounted = f.moved + f.others
  refused : ∀ m ∈ f.refused, mouseMotion m = none

variable {moved} {f f' : TrackpadPage C}

theorem schedule_pending (pad : Trackpad C) : pad.schedule.1.pending = pad.pending := by
  unfold Trackpad.schedule
  split <;> rfl

theorem schedule_rafScheduled (pad : Trackpad C) : pad.schedule.1.rafScheduled = true := by
  unfold Trackpad.schedule
  split
  next => rfl
  next flag => simpa using flag

/-- The pad takes a motion and asks for a frame where none is under way. -/
theorem Conserves.schedule (h : f.Conserves) (pad : Trackpad C) (motion : Motion)
    (same : pad.rafScheduled = f.pad.rafScheduled)
    (takes : pad.pending = f.pad.pending + motion) (drags : List (Drag C)) :
    Conserves { f.withPad pad.schedule with moved := f.moved + motion, drags } := by
  refine ⟨?_, fun off => ?_, ?_, h.refused⟩
  · simp only [withPad, schedule_rafScheduled, if_true]
    rw [h.frames, ← same]
    unfold Trackpad.schedule
    cases pad.rafScheduled <;> rfl
  · exact absurd off (by simp [withPad, schedule_rafScheduled])
  · have before := h.total
    simp only [accounted, withPad, schedule_pending, takes] at before ⊢
    calc f.pad.pending + motion + f.requests.sum + (f.reports.map BasicReport.motion).sum +
          f.refused.sum + f.failed.sum
        = f.pad.pending + f.requests.sum + (f.reports.map BasicReport.motion).sum +
            f.refused.sum + f.failed.sum + motion := by abel
      _ = f.moved + motion + f.others := by rw [before]; abel

theorem accounted_call (f : TrackpadPage C) (call : MouseCall) (ok : Bool) :
    (f.call call ok).accounted = f.accounted + if ok then call.motion else 0 := by
  have reports := reports_motion f.mouse call
  simp only [accounted, TrackpadPage.call, List.map_append, List.sum_append]
  cases ok with
  | false => simp
  | true =>
    simp only [if_true, reports]
    abel

theorem accounted_eraseIdx {i : Nat} {m : Motion} (h : f.requests[i]? = some m) :
    accounted { f with requests := f.requests.eraseIdx i } + m = f.accounted := by
  obtain ⟨hi, hv⟩ := List.getElem?_eq_some_iff.mp h
  have whole : f.requests = f.requests.take i ++ m :: f.requests.drop (i + 1) := by
    rw [← hv, List.getElem_cons_drop, List.take_append_drop]
  have sum : f.requests.sum = (f.requests.eraseIdx i).sum + m := by
    rw [List.eraseIdx_eq_take_drop_succ]
    conv_lhs => rw [whole]
    simp only [List.sum_append, List.sum_cons]
    abel
  simp only [accounted, sum]
  abel

/-- A motion request ends at the mouse, at the server's check or on the way. -/
theorem Conserves.motionRequest (h : f.Conserves) {i : Nat} {ok : Bool}
    (hs : step moved f (.motionRequest i ok) = some f') : f'.Conserves := by
  obtain ⟨m, hm, rfl⟩ := Option.map_eq_some_iff.mp hs
  have left := accounted_eraseIdx hm
  have before := h.total
  cases ok with
  | false =>
    simp only [Bool.not_false, if_true]
    refine ⟨h.frames, h.scheduled, ?_, h.refused⟩
    rw [← before, ← left]
    simp only [accounted, List.sum_append, List.sum_singleton]
    abel
  | true =>
    simp only [Bool.not_true, Bool.false_eq_true, if_false]
    cases body : mouseMotion m with
    | none =>
      refine ⟨h.frames, h.scheduled, ?_, ?_⟩
      · rw [← before, ← left]
        simp only [accounted, List.sum_append, List.sum_singleton]
        abel
      · exact List.forall_mem_append.mpr ⟨h.refused, List.forall_mem_singleton.mpr body⟩
    | some delta =>
      refine ⟨h.frames, h.scheduled, ?_, h.refused⟩
      rw [accounted_call, if_pos rfl, motion_of_mouseMotion body, left]
      exact before

theorem Conserves.animationFrame (h : f.Conserves)
    (hs : step moved f .animationFrame = some f') : f'.Conserves := by
  simp only [step] at hs
  split at hs
  next => cases hs
  next waits =>
    cases hs
    have on : f.pad.rafScheduled = true := by
      cases flag : f.pad.rafScheduled with
      | true => rfl
      | false =>
        rw [h.frames, flag] at waits
        exact absurd rfl waits
    have one : f.frames = 1 := by rw [h.frames, on]; rfl
    have before := h.total
    by_cases still : f.pad.pendingDx = 0 ∧ f.pad.pendingDy = 0
    · have flushed : f.pad.flush = ({ f.pad with rafScheduled := false }, none) := if_pos still
      have pending : f.pad.pending = 0 := Prod.ext still.1 still.2
      refine ⟨?_, fun _ => ?_, ?_, h.refused⟩
      · simp [flushed, one]
      · simp only [flushed]
        exact pending
      · rw [← before]
        simp [accounted, flushed, Trackpad.pending]
    · have flushed : f.pad.flush = ({ f.pad with
          rafScheduled := false, pendingDx := 0, pendingDy := 0 }, some f.pad.pending) :=
        if_neg still
      refine ⟨?_, fun _ => ?_, ?_, h.refused⟩
      · simp [flushed, one]
      · simp only [flushed]
        rfl
      · have none : Trackpad.pending { f.pad with
            rafScheduled := false, pendingDx := 0, pendingDy := 0 } = 0 := rfl
        rw [← before]
        simp only [accounted, flushed, none, Option.toList_some, List.sum_append,
          List.sum_singleton]
        abel

theorem Conserves.step (h : f.Conserves) {a : PageAction C} (hs : step moved f a = some f') :
    f'.Conserves := by
  cases a with
  | pointerdown clientX clientY =>
    cases Option.some.inj hs
    exact ⟨h.frames, h.scheduled, h.total, h.refused⟩
  | pointermove clientX clientY =>
    simp only [TrackpadPage.step, Option.some.injEq] at hs
    subst hs
    cases dragging : f.pad.dragging with
    | false =>
      simp only [Trackpad.pointermove, dragging, Bool.not_false, if_true, Bool.false_eq_true,
        if_false]
      exact ⟨h.frames, h.scheduled, h.total, h.refused⟩
    | true =>
      simp only [Trackpad.pointermove, dragging, Bool.not_true, if_true, Bool.false_eq_true,
        if_false]
      exact h.schedule ⟨true, clientX, clientY, f.pad.pendingDx + moved f.pad.lastX clientX,
          f.pad.pendingDy + moved f.pad.lastY clientY, f.pad.rafScheduled⟩
        (moved f.pad.lastX clientX, moved f.pad.lastY clientY) rfl rfl
        (extendDrag clientX clientY f.drags)
  | pointerup =>
    cases Option.some.inj hs
    cases dragging : f.pad.dragging with
    | false =>
      simp only [Trackpad.endDrag, dragging, Bool.not_false, if_true]
      exact ⟨h.frames, h.scheduled, h.total, h.refused⟩
    | true =>
      simp only [Trackpad.endDrag, dragging, Bool.not_true, Bool.false_eq_true, if_false]
      have quiet := h.schedule { f.pad with dragging := false } 0 rfl (add_zero _).symm f.drags
      rwa [add_zero] at quiet
  | animationFrame => exact h.animationFrame hs
  | motionRequest i ok => exact h.motionRequest hs
  | mouseCall call ok =>
    cases Option.some.inj hs
    refine ⟨h.frames, h.scheduled, ?_, h.refused⟩
    have before := h.total
    show (f.call call ok).accounted = _
    rw [accounted_call, before, add_assoc]
    rfl

/-- Rounded differences add up, as those of whole numbers do. -/
def Telescopes (moved : C → C → Int) : Prop := ∀ a b c, moved a b + moved b c = moved a c

def displacement (moved : C → C → Int) (d : Drag C) : Motion :=
  (moved d.startX d.endX, moved d.startY d.endY)

/-- The latest drag ends where the pointer was last seen, and the drags make up what was moved. -/
structure Drags (moved : C → C → Int) (f : TrackpadPage C) : Prop where
  latest : f.pad.dragging = true →
    ∃ d ds, f.drags = d :: ds ∧ d.endX = f.pad.lastX ∧ d.endY = f.pad.lastY
  sum : f.moved = (f.drags.map (displacement moved)).sum

/-- A page on which the drags are as they were, and none has begun. -/
theorem Drags.keep (h : f.Drags moved) {pad : Trackpad C}
    (still : pad.dragging = true → f.pad.dragging = true)
    (lastX : pad.lastX = f.pad.lastX) (lastY : pad.lastY = f.pad.lastY)
    (hp : f'.pad = pad) (hd : f'.drags = f.drags) (hm : f'.moved = f.moved) : f'.Drags moved := by
  refine ⟨fun dragging => ?_, by rw [hm, hd, h.sum]⟩
  rw [hp] at dragging ⊢
  obtain ⟨d, ds, hds, x, y⟩ := h.latest (still dragging)
  exact ⟨d, ds, hd.trans hds, x.trans lastX.symm, y.trans lastY.symm⟩

theorem schedule_last (pad : Trackpad C) : pad.schedule.1.dragging = pad.dragging ∧
    pad.schedule.1.lastX = pad.lastX ∧ pad.schedule.1.lastY = pad.lastY := by
  unfold Trackpad.schedule
  split <;> exact ⟨rfl, rfl, rfl⟩

theorem flush_last (pad : Trackpad C) : pad.flush.1.dragging = pad.dragging ∧
    pad.flush.1.lastX = pad.lastX ∧ pad.flush.1.lastY = pad.lastY := by
  unfold Trackpad.flush
  dsimp only
  split <;> exact ⟨rfl, rfl, rfl⟩

/-- A new drag has moved nothing yet. -/
theorem Drags.pointerdown (telescopes : Telescopes moved) (h : f.Drags moved)
    (clientX clientY : C) : Drags moved
      { f with
        pad := f.pad.pointerdown clientX clientY
        drags := ⟨clientX, clientY, clientX, clientY⟩ :: f.drags } := by
  refine ⟨fun _ => ⟨_, _, rfl, rfl, rfl⟩, ?_⟩
  have still (a : C) : moved a a = 0 := by
    have twice := telescopes a a a
    omega
  show f.moved = _
  rw [List.map_cons, List.sum_cons, displacement, still, still, h.sum]
  exact (zero_add _).symm

/-- The drag that goes on moves by what the pointer did since it was last seen. -/
theorem displacement_extend (telescopes : Telescopes moved) (d : Drag C) (clientX clientY : C) :
    displacement moved { d with endX := clientX, endY := clientY } =
      displacement moved d + (moved d.endX clientX, moved d.endY clientY) :=
  Prod.ext (telescopes d.startX d.endX clientX).symm (telescopes d.startY d.endY clientY).symm

theorem Drags.pointermove (telescopes : Telescopes moved) (h : f.Drags moved)
    (dragging : f.pad.dragging = true) {clientX clientY : C} {pad : Trackpad C}
    (lastX : pad.lastX = clientX) (lastY : pad.lastY = clientY) (hp : f'.pad = pad)
    (hd : f'.drags = extendDrag clientX clientY f.drags)
    (hm : f'.moved = f.moved + (moved f.pad.lastX clientX, moved f.pad.lastY clientY)) :
    f'.Drags moved := by
  obtain ⟨d, ds, hds, x, y⟩ := h.latest dragging
  have extended : f'.drags = { d with endX := clientX, endY := clientY } :: ds := by
    rw [hd, hds, extendDrag]
  refine ⟨fun _ => ⟨_, ds, extended, ?_, ?_⟩, ?_⟩
  · rw [hp, lastX]
  · rw [hp, lastY]
  · calc f'.moved
        = displacement moved d + (ds.map (displacement moved)).sum +
            (moved f.pad.lastX clientX, moved f.pad.lastY clientY) := by
          rw [hm, h.sum, hds, List.map_cons, List.sum_cons]
      _ = displacement moved { d with endX := clientX, endY := clientY } +
            (ds.map (displacement moved)).sum := by
          rw [displacement_extend telescopes d clientX clientY, x, y]
          abel
      _ = (f'.drags.map (displacement moved)).sum := by
          rw [extended, List.map_cons, List.sum_cons]

theorem Drags.step (telescopes : Telescopes moved) (h : f.Drags moved) {a : PageAction C}
    (hs : TrackpadPage.step moved f a = some f') : f'.Drags moved := by
  cases a with
  | pointerdown clientX clientY =>
    cases Option.some.inj hs
    exact h.pointerdown telescopes clientX clientY
  | pointermove clientX clientY =>
    simp only [TrackpadPage.step, Option.some.injEq] at hs
    subst hs
    cases dragging : f.pad.dragging with
    | false =>
      simp only [Trackpad.pointermove, dragging, Bool.not_false, if_true, Bool.false_eq_true,
        if_false]
      exact h.keep id rfl rfl rfl rfl rfl
    | true =>
      simp only [Trackpad.pointermove, dragging, Bool.not_true, if_true, Bool.false_eq_true,
        if_false]
      exact h.pointermove telescopes dragging (schedule_last _).2.1 (schedule_last _).2.2 rfl rfl
        rfl
  | pointerup =>
    cases Option.some.inj hs
    cases dragging : f.pad.dragging with
    | false =>
      simp only [Trackpad.endDrag, dragging, Bool.not_false, if_true]
      exact h.keep id rfl rfl rfl rfl rfl
    | true =>
      simp only [Trackpad.endDrag, dragging, Bool.not_true, Bool.false_eq_true, if_false]
      obtain ⟨off, lastX, lastY⟩ := schedule_last { f.pad with dragging := false }
      refine h.keep (fun on => ?_) lastX lastY rfl rfl rfl
      rw [off] at on
      cases on
  | animationFrame =>
    simp only [TrackpadPage.step] at hs
    split at hs
    next => cases hs
    next =>
      cases hs
      obtain ⟨dragging, lastX, lastY⟩ := flush_last f.pad
      exact h.keep (fun on => dragging ▸ on) lastX lastY rfl rfl rfl
  | motionRequest i ok =>
    obtain ⟨m, -, rfl⟩ := Option.map_eq_some_iff.mp hs
    cases ok with
    | false => exact h.keep id rfl rfl rfl rfl rfl
    | true =>
      simp only [Bool.not_true, Bool.false_eq_true, if_false]
      split <;> exact h.keep id rfl rfl rfl rfl rfl
  | mouseCall call ok =>
    cases Option.some.inj hs
    exact h.keep id rfl rfl rfl rfl rfl

end TrackpadPage

end WinUHid
