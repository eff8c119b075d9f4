import WinUHid.ManagerOwnership

namespace WinUHid

/-- What a step does to the native devices. -/
inductive NativesMove (s : ManagerState) : ManagerProc → List NativeDevice → Prop
  | same {t} : NativesMove s t s.natives
  | creates {c} : NativesMove s (.createNative c) (s.newNative c).natives
  | starts {c h} : NativesMove s (.start c h) (s.setStatus h .started).natives
  | stops {h ctx rest} (idle : s.isBusy h = false) :
      NativesMove s (.stop h ctx rest) (s.setStatus h .stopped).natives
  | destroys {h ctx rest} (idle : s.isBusy h = false) :
      NativesMove s (.destroy h ctx rest) (s.setStatus h .destroyed).natives
  | returns {h ctx} : NativesMove s (.sendEvent h ctx) (s.returnCallback h).natives

/-- What a step does to the boxed contexts. -/
inductive BoxesMove (s : ManagerState) : ManagerProc → List ContextBox → Prop
  | same {t} : BoxesMove s t s.boxes
  | boxes {r} : BoxesMove s (.request r) (s.boxes ++ [⟨none, false⟩])
  | stores {c h ctx} : BoxesMove s (.storeHandle c h ctx) (s.setHandle ctx h).boxes
  | frees {ctx rest} : BoxesMove s (.free ctx rest) (s.freeBox ctx).boxes

namespace ManagerMove

variable {o : Outcome} {s s' : ManagerState} {t : ManagerProc} {ts : List ManagerProc}

theorem natives_cases (m : ManagerMove o s t s' ts) : NativesMove s t s'.natives := by
  cases m with
  | opens opened =>
    rw [opened.natives]
    exact .same
  | creates => exact .creates
  | starts => exact .starts
  | stops idle => exact .stops idle
  | destroys idle => exact .destroys idle
  | sends => exact .returns
  | _ => exact .same

theorem boxes_cases (m : ManagerMove o s t s' ts) : BoxesMove s t s'.boxes := by
  cases m with
  | opens opened =>
    obtain ⟨-, hb⟩ | ⟨-, hb⟩ := opened.boxes
    · rw [hb]
      exact .same
    · rw [hb]
      exact .boxes
  | stores => exact .stores
  | frees => exact .frees
  | _ => exact .same

theorem devsLoaded_eq (m : ManagerMove o s t s' ts) : s'.devsLoaded = s.devsLoaded := by
  cases m with
  | opens opened => exact opened.devsLoaded
  | _ => rfl

/-- Steps only count the references to a device, and give new devices new places. -/
theorem device_after (m : ManagerMove o s t s' ts) {a : Nat} {x : Counted Device}
    (hx : s.arcs[a]? = some x) : ∃ x', s'.arcs[a]? = some x' ∧ x'.value = x.value := by
  have counted : ∀ {arc y n}, s.arcs[arc]? = some y →
      ∃ x', (s.arcs.set arc ⟨n, y.value⟩)[a]? = some x' ∧ x'.value = x.value := by
    intro arc y n hy
    have same := Counted.value_set (b := a) hy n
    rw [hx] at same
    exact Option.map_eq_some_iff.mp same
  cases m with
  | opens opened =>
    rw [opened.arcs]
    exact ⟨x, hx, rfl⟩
  | finds found cell =>
    rw [ManagerState.log_arcs, Counted.clone_eq cell]
    exact counted cell
  | drops cell | dropsLast cell =>
    rw [Counted.release_eq cell]
    exact counted cell
  | inserts =>
    obtain ⟨ha, -⟩ := List.getElem?_eq_some_iff.mp hx
    exact ⟨x, (List.getElem?_append_left ha).trans hx, rfl⟩
  | _ => exact ⟨x, hx, rfl⟩

theorem device_before (m : ManagerMove o s t s' ts) {a : Nat} {x' : Counted Device}
    (hx : s'.arcs[a]? = some x') :
    (∃ x, s.arcs[a]? = some x ∧ x.value = x'.value) ∨
      ∃ c h, t = .insert c h ∧ x'.value = c.device h o.uuid o.nowMs := by
  have counted : ∀ {arc y n}, s.arcs[arc]? = some y →
      (s.arcs.set arc ⟨n, y.value⟩)[a]? = some x' →
      ∃ x, s.arcs[a]? = some x ∧ x.value = x'.value := by
    intro arc y n hy hx
    have same := Counted.value_set (b := a) hy n
    rw [hx] at same
    exact Option.map_eq_some_iff.mp same.symm
  cases m with
  | opens opened =>
    rw [opened.arcs] at hx
    exact .inl ⟨x', hx, rfl⟩
  | finds found cell =>
    rw [ManagerState.log_arcs, Counted.clone_eq cell] at hx
    exact .inl (counted cell hx)
  | drops cell | dropsLast cell =>
    rw [Counted.release_eq cell] at hx
    exact .inl (counted cell hx)
  | @inserts c h =>
    rcases List.getElem?_concat_eq_some_iff.mp hx with hx | ⟨-, rfl⟩
    · exact .inl ⟨x', hx, rfl⟩
    · exact .inr ⟨c, h, rfl, rfl⟩
  | _ => exact .inl ⟨x', hx, rfl⟩

end ManagerMove

namespace NativesMove

variable {s : ManagerState} {t : ManagerProc} {natives : List NativeDevice}

theorem get_modify {natives : List NativeDevice} {f : NativeDevice → NativeDevice} {h k : Nat}
    {n : NativeDevice} : (natives.modify h f)[k]? = some n ↔
      ∃ m, natives[k]? = some m ∧ n = if h = k then f m else m := by
  rw [List.getElem?_modify]
  simp only [Option.map_eq_map, Option.map_eq_some_iff]
  constructor
  · rintro ⟨m, hm, rfl⟩
    exact ⟨m, hm, by split <;> rfl⟩
  · rintro ⟨m, hm, rfl⟩
    exact ⟨m, hm, by split <;> rfl⟩

/-- A native device keeps its kind and its context, and is never revived. -/
theorem after (m : NativesMove s t natives)
    (live : ∀ r ∈ t.resources, s.isLive r = true) {h : Nat} {n : NativeDevice}
    (hn : s.natives[h]? = some n) :
    ∃ n', natives[h]? = some n' ∧ n'.kind = n.kind ∧ n'.context = n.context ∧
      (n.status = .destroyed → n'.status = .destroyed) := by
  have alive : ∀ k, .native k ∈ t.resources → h = k → n.status ≠ .destroyed := by
    rintro k hk rfl
    have := live _ hk
    simpa [ManagerState.isLive, hn] using this
  cases m with
  | same => exact ⟨n, hn, rfl, rfl, id⟩
  | creates =>
    obtain ⟨hl, -⟩ := List.getElem?_eq_some_iff.mp hn
    exact ⟨n, (List.getElem?_append_left hl).trans hn, rfl, rfl, id⟩
  | @starts c k | @stops k ctx rest | @destroys k ctx rest =>
    have ne := alive k (by simp [ManagerProc.resources, ownedBy])
    refine ⟨_, get_modify.mpr ⟨n, hn, rfl⟩, ?_⟩
    split
    next hk => exact ⟨rfl, rfl, fun hd => absurd hd (ne hk.symm)⟩
    next => exact ⟨rfl, rfl, id⟩
  | returns =>
    refine ⟨_, get_modify.mpr ⟨n, hn, rfl⟩, ?_⟩
    split
    · exact ⟨rfl, rfl, id⟩
    · exact ⟨rfl, rfl, id⟩

theorem before (m : NativesMove s t natives) {h : Nat} {n' : NativeDevice}
    (hn : natives[h]? = some n') :
    (∃ n, s.natives[h]? = some n ∧ n.kind = n'.kind ∧ n.context = n'.context) ∨
      ∃ c, t = .createNative c ∧ h = s.natives.length ∧
        n' = ⟨c.opening.kind, c.macAddress, c.opening.ctx, .created, 0⟩ := by
  cases m with
  | same => exact .inl ⟨n', hn, rfl, rfl⟩
  | @creates c =>
    rcases List.getElem?_concat_eq_some_iff.mp hn with hn | ⟨hl, rfl⟩
    · exact .inl ⟨n', hn, rfl, rfl⟩
    · exact .inr ⟨c, rfl, hl, rfl⟩
  | starts | stops | destroys | returns =>
    obtain ⟨n, hm, rfl⟩ := get_modify.mp hn
    refine .inl ⟨n, hm, ?_⟩
    split
    · exact ⟨rfl, rfl⟩
    · exact ⟨rfl, rfl⟩

/-- A started device has been started before or by this step. -/
theorem started (m : NativesMove s t natives) {h : Nat} {n' : NativeDevice}
    (hn : natives[h]? = some n') (started : n'.status = .started) :
    ∃ n, s.natives[h]? = some n ∧ n.kind = n'.kind ∧ n.context = n'.context ∧
      (n.status = .started ∨ ∃ c, t = .start c h) := by
  cases m with
  | same => exact ⟨n', hn, rfl, rfl, .inl started⟩
  | creates =>
    rcases List.getElem?_concat_eq_some_iff.mp hn with hn | ⟨-, rfl⟩
    · exact ⟨n', hn, rfl, rfl, .inl started⟩
    · cases started
  | @starts c k =>
    obtain ⟨n, hm, rfl⟩ := get_modify.mp hn
    by_cases hk : k = h
    · rw [if_pos hk]
      exact ⟨n, hm, rfl, rfl, .inr ⟨c, by rw [hk]⟩⟩
    · rw [if_neg hk] at started ⊢
      exact ⟨n, hm, rfl, rfl, .inl started⟩
  | @stops k | @destroys k =>
    obtain ⟨n, hm, rfl⟩ := get_modify.mp hn
    by_cases hk : k = h
    · rw [if_pos hk] at started
      cases started
    · rw [if_neg hk] at started ⊢
      exact ⟨n, hm, rfl, rfl, .inl started⟩
  | @returns k =>
    obtain ⟨n, hm, rfl⟩ := get_modify.mp hn
    by_cases hk : k = h
    · rw [if_pos hk] at started ⊢
      exact ⟨n, hm, rfl, rfl, .inl started⟩
    · rw [if_neg hk] at started ⊢
      exact ⟨n, hm, rfl, rfl, .inl started⟩

/-- Callbacks run on started devices only. -/
theorem idle (m : NativesMove s t natives)
    (was : ∀ (h : Nat) n, s.natives[h]? = some n → n.running ≠ 0 → n.status = .started) {h : Nat}
    {n' : NativeDevice} (hn : natives[h]? = some n') (busy : n'.running ≠ 0) :
    n'.status = .started := by
  have quiet : ∀ k, s.isBusy k = false → ∀ n, s.natives[k]? = some n → n.running = 0 := by
    intro k hb n hk
    simpa [ManagerState.isBusy, hk] using hb
  cases m with
  | same => exact was h n' hn busy
  | creates =>
    rcases List.getElem?_concat_eq_some_iff.mp hn with hn | ⟨-, rfl⟩
    · exact was h n' hn busy
    · exact absurd rfl busy
  | @starts c k =>
    obtain ⟨n, hm, rfl⟩ := get_modify.mp hn
    by_cases hk : k = h
    · rw [if_pos hk]
    · rw [if_neg hk] at busy ⊢
      exact was h n hm busy
  | @stops k ctx rest free | @destroys k ctx rest free =>
    obtain ⟨n, hm, rfl⟩ := get_modify.mp hn
    by_cases hk : k = h
    · rw [if_pos hk] at busy
      exact absurd (quiet k free n (hk ▸ hm)) busy
    · rw [if_neg hk] at busy ⊢
      exact was h n hm busy
  | @returns k ctx =>
    obtain ⟨n, hm, rfl⟩ := get_modify.mp hn
    by_cases hk : k = h
    · rw [if_pos hk] at busy ⊢
      exact was h n hm fun zero => busy (by simp [zero])
    · rw [if_neg hk] at busy ⊢
      exact was h n hm busy

end NativesMove

namespace ManagerState

/-- A native device of a kind, with the context that its callbacks get. -/
def Bound (s : ManagerState) (h : Nat) (kind : DeviceKind) (ctx : Option Nat) : Prop :=
  ∃ n, s.natives[h]? = some n ∧ n.kind = kind ∧ n.context = ctx

def Supports (s : ManagerState) (kind : DeviceKind) : Prop :=
  kind = .generic ∨ s.devsLoaded = true

/-- Every device has a native device and a context of its own, and the two belong together. -/
structure Wired (s : ManagerState) : Prop where
  within : ∀ h kind ctx, s.Bound h kind (some ctx) → ctx < s.boxes.length
  apart : ∀ h h' kind kind' ctx, s.Bound h kind (some ctx) → s.Bound h' kind' (some ctx) → h = h'
  alive : ∀ h kind ctx, s.Bound h kind (some ctx) → s.isLive (.native h) = true →
    s.isLive (.box ctx) = true
  handles : ∀ (h : Nat) n ctx, s.natives[h]? = some n → n.kind = .generic →
    n.context = some ctx → n.status = .started → s.handleOf ctx = some h
  idle : ∀ (h : Nat) n, s.natives[h]? = some n → n.running ≠ 0 → n.status = .started
  devices : ∀ (a : Nat) x, s.arcs[a]? = some x →
    s.Bound x.value.inner.handle x.value.inner.kind x.value.inner.ctxPtr ∧
      s.Supports x.value.inner.kind

/-- What a thread holds fits together. -/
def Fits (s : ManagerState) : ManagerProc → Prop
  | .createNative c => s.Supports c.opening.kind ∧ ∀ ctx, c.opening.ctx = some ctx →
      ctx < s.boxes.length ∧ ∀ h kind, ¬s.Bound h kind (some ctx)
  | .storeHandle c h ctx =>
    s.Bound h c.opening.kind c.opening.ctx ∧ s.Supports c.opening.kind ∧ c.opening.ctx = some ctx
  | .start c h =>
    s.Bound h c.opening.kind c.opening.ctx ∧ s.Supports c.opening.kind ∧
      (c.opening.kind = .generic → ∀ ctx, c.opening.ctx = some ctx → s.handleOf ctx = some h)
  | .neutralReport c h | .insert c h =>
    s.Bound h c.opening.kind c.opening.ctx ∧ s.Supports c.opening.kind
  | .submit arc h cache => ∃ x, s.arcs[arc]? = some x ∧ x.value.inner.handle = h ∧
      ∀ ctx, cache = some ctx → x.value.inner.ctxPtr = some ctx
  | .insertReport arc ctx | .storeLastId arc ctx =>
    ∃ x, s.arcs[arc]? = some x ∧ x.value.inner.ctxPtr = some ctx
  | .stop h ctx _ => ∃ kind, s.Bound h kind (some ctx)
  | .destroy h ctx _ => ∃ kind, s.Bound h kind ctx
  | .free ctx _ => ∀ h kind, s.Bound h kind (some ctx) → s.isLive (.native h) = false
  | .completeEvent h ctx => s.Bound h .generic (some ctx)
  | .sendEvent h ctx => ∃ kind, s.Bound h kind (some ctx)
  | _ => True

end ManagerState

namespace ManagerMove

variable {o : Outcome} {s s' : ManagerState} {t u : ManagerProc} {ts : List ManagerProc}

section Keeps

variable (m : ManagerMove o s t s' ts) (live : ∀ r ∈ t.resources, s.isLive r = true)

include m

theorem supports_after {kind : DeviceKind} (h : s.Supports kind) : s'.Supports kind :=
  h.imp_right fun hl => m.devsLoaded_eq.trans hl

theorem bound_before {h : Nat} {kind : DeviceKind} {ctx : Option Nat} (b : s'.Bound h kind ctx) :
    s.Bound h kind ctx ∨ ∃ c, t = .createNative c ∧ h = s.natives.length ∧
      kind = c.opening.kind ∧ ctx = c.opening.ctx := by
  obtain ⟨n', hn, rfl, rfl⟩ := b
  obtain ⟨n, hs, hk, hc⟩ | ⟨c, rfl, hl, rfl⟩ := m.natives_cases.before hn
  · exact .inl ⟨n, hs, hk, hc⟩
  · exact .inr ⟨c, rfl, hl, rfl, rfl⟩

theorem length_boxes_le : s.boxes.length ≤ s'.boxes.length := by
  have b := m.boxes_cases
  generalize s'.boxes = boxes at b
  cases b with
  | same => exact le_rfl
  | boxes => simp
  | stores => simp [ManagerState.setHandle]
  | frees => simp [ManagerState.freeBox]

theorem handleOf_cases (ctx : Nat) :
    s'.handleOf ctx = s.handleOf ctx ∨
      ∃ c h, t = .storeHandle c h ctx ∧ (ctx < s.boxes.length → s'.handleOf ctx = some h) := by
  have b := m.boxes_cases
  unfold ManagerState.handleOf
  generalize s'.boxes = boxes at b
  cases b with
  | same => exact .inl rfl
  | boxes =>
    left
    by_cases hl : ctx < s.boxes.length
    · rw [List.getElem?_append_left hl]
    · rw [List.getElem?_append_right (by omega), List.getElem?_singleton,
        List.getElem?_eq_none (l := s.boxes) (by omega)]
      split
      · rfl
      · rfl
  | @stores c h k =>
    by_cases hk : k = ctx
    · subst hk
      refine .inr ⟨c, h, rfl, fun hl => ?_⟩
      simp [ManagerState.setHandle, hl]
    · left
      simp [ManagerState.setHandle, hk]
  | @frees k rest =>
    left
    rw [ManagerState.freeBox, List.getElem?_modify]
    cases s.boxes[ctx]? with
    | none => rfl
    | some b => by_cases hk : k = ctx <;> simp [hk]

include live

theorem bound_after {h : Nat} {kind : DeviceKind} {ctx : Option Nat} (b : s.Bound h kind ctx) :
    s'.Bound h kind ctx := by
  obtain ⟨n, hn, rfl, rfl⟩ := b
  obtain ⟨n', hn', hk, hc, -⟩ := m.natives_cases.after live hn
  exact ⟨n', hn', hk, hc⟩

theorem dead_after {h : Nat} {kind : DeviceKind} {ctx : Option Nat} (b : s.Bound h kind ctx)
    (dead : s.isLive (.native h) = false) : s'.isLive (.native h) = false := by
  obtain ⟨n, hn, rfl, rfl⟩ := b
  obtain ⟨n', hn', -, -, hd⟩ := m.natives_cases.after live hn
  simp only [ManagerState.isLive, hn, hn', Option.any_some, bne_eq_false_iff_eq] at dead ⊢
  exact hd dead

theorem box_alive_after {ctx : Nat} (kept : ∀ rest, t ≠ .free ctx rest)
    (alive : s.isLive (.box ctx) = true) : s'.isLive (.box ctx) = true := by
  have b := m.boxes_cases
  simp only [ManagerState.isLive] at alive ⊢
  generalize s'.boxes = boxes at b
  cases b with
  | same => exact alive
  | boxes =>
    by_cases hl : ctx < s.boxes.length
    · rwa [List.getElem?_append_left hl]
    · rw [List.getElem?_eq_none (by omega)] at alive
      cases alive
  | @stores c h k => exact (s.isLive_setHandle k h (.box ctx)).trans alive
  | @frees k rest =>
    have ne : k ≠ ctx := by
      rintro rfl
      exact kept rest rfl
    simpa [ManagerState.freeBox, List.getElem?_modify, ne] using alive

end Keeps

open ManagerState

/-- What a thread holds still fits after a step of another thread. -/
theorem fits_other (m : ManagerMove o s t s' ts) (live : ∀ r ∈ t.resources, s.isLive r = true)
    (wired : s.Wired) (fits : s.Fits t) (fu : s.Fits u)
    (apart : ∀ r ∈ t.resources, r ∉ u.resources) : s'.Fits u := by
  have device : ∀ {a : Nat} {P : Device → Prop}, (∃ x, s.arcs[a]? = some x ∧ P x.value) →
      ∃ x, s'.arcs[a]? = some x ∧ P x.value := by
    rintro a P ⟨x, hx, hp⟩
    obtain ⟨x', hx', he⟩ := m.device_after hx
    exact ⟨x', hx', he ▸ hp⟩
  cases u with
  | createNative c =>
    refine ⟨m.supports_after fu.1, fun ctx hc => ?_⟩
    obtain ⟨hl, unbound⟩ := fu.2 ctx hc
    refine ⟨hl.trans_le m.length_boxes_le, fun h kind b => ?_⟩
    obtain b | ⟨c', rfl, -, -, hc'⟩ := m.bound_before b
    · exact unbound h kind b
    · exact apart (.box ctx) (by simp [ManagerProc.resources, ← hc'])
        (by simp [ManagerProc.resources, hc])
  | storeHandle c h ctx => exact ⟨m.bound_after live fu.1, m.supports_after fu.2.1, fu.2.2⟩
  | start c h =>
    refine ⟨m.bound_after live fu.1, m.supports_after fu.2.1, fun hk ctx hc => ?_⟩
    have stored := fu.2.2 hk ctx hc
    obtain he | ⟨c', h', rfl, he⟩ := m.handleOf_cases ctx
    · rw [he, stored]
    · have mine : s.Bound h c.opening.kind (some ctx) := hc ▸ fu.1
      have theirs : s.Bound h' c'.opening.kind (some ctx) := fits.2.2 ▸ fits.1
      rw [he (wired.within _ _ _ mine), wired.apart _ _ _ _ _ mine theirs]
  | neutralReport c h | insert c h => exact ⟨m.bound_after live fu.1, m.supports_after fu.2⟩
  | submit arc h cache =>
    exact device (P := fun d => d.inner.handle = h ∧
      ∀ ctx, cache = some ctx → d.inner.ctxPtr = some ctx) fu
  | insertReport arc ctx | storeLastId arc ctx =>
    exact device (P := fun d => d.inner.ctxPtr = some ctx) fu
  | stop h ctx rest | destroy h ctx rest | sendEvent h ctx =>
    exact fu.imp fun _ => m.bound_after live
  | free ctx rest =>
    intro h kind b
    obtain b | ⟨c', rfl, -, -, hc'⟩ := m.bound_before b
    · exact m.dead_after live b (fu h kind b)
    · exact absurd (by simp [ManagerProc.resources])
        (apart (.box ctx) (by simp [ManagerProc.resources, ← hc']))
  | completeEvent h ctx => exact m.bound_after live fu
  | request | release => trivial

/-- What a thread goes on with fits together. -/
theorem fits_next (m : ManagerMove o s t s' ts) (live : ∀ r ∈ t.resources, s.isLive r = true)
    (wired : s.Wired) (fits : s.Fits t) : ∀ u ∈ ts, s'.Fits u := by
  have after : ∀ {h kind ctx}, s.Bound h kind ctx → s'.Bound h kind ctx := m.bound_after live
  have before : ∀ {h kind ctx}, s'.Bound h kind ctx → (∀ c, t ≠ .createNative c) →
      s.Bound h kind ctx := by
    intro h kind ctx b other
    obtain b | ⟨c, hc, -⟩ := m.bound_before b
    · exact b
    · exact absurd hc (other c)
  have device : ∀ {a : Nat} {x : Counted Device}, s.arcs[a]? = some x →
      ∃ x', s'.arcs[a]? = some x' ∧ x'.value = x.value := m.device_after
  have one : ∀ {u : ManagerProc}, s'.Fits u → ∀ v ∈ [u], s'.Fits v := by
    intro u hu v hv
    rwa [List.mem_singleton.mp hv]
  cases m with
  | quits | ends | dangles | sends => simp
  | @opens _ c _ opened =>
    refine one ⟨opened.loaded.imp_right fun hl => opened.devsLoaded.trans hl, fun ctx hc => ?_⟩
    obtain ⟨none, -⟩ | ⟨some, hb⟩ := opened.boxes
    · cases none.symm.trans hc
    · obtain rfl := Option.some.inj (some.symm.trans hc)
      refine ⟨by simp [hb], fun h kind b => ?_⟩
      have := wired.within h kind _ (by simpa only [Bound, opened.natives] using b)
      omega
  | @finds id request arc x t found cell serves =>
    refine one ?_
    cases serves with
    | done => trivial
    | submit own =>
      obtain ⟨x', hx', he⟩ := device cell
      exact ⟨x', hx', by rw [he], fun ctx hc => by rw [he]; exact own ctx hc⟩
  | removes | clears | cached | drops | frees => exact one trivial
  | @creates c t next =>
    have made : (s.newNative c).Bound s.natives.length c.opening.kind c.opening.ctx :=
      ⟨_, List.getElem?_concat_length .., rfl, rfl⟩
    refine one ?_
    cases next with
    | store own => exact ⟨made, fits.1, own⟩
    | start preset => exact ⟨made, fits.1, fun generic => absurd generic preset⟩
  | @refused c =>
    intro u hu
    obtain ⟨ctx, hc, rfl⟩ := List.mem_map.mp hu
    exact fun h kind b => absurd b ((fits.2 ctx (Option.mem_toList.mp hc)).2 h kind)
  | @stores c h ctx =>
    refine one ⟨after fits.1, fits.2.1, fun _ ctx' hc => ?_⟩
    obtain rfl := Option.some.inj (fits.2.2.symm.trans hc)
    have inside := wired.within h c.opening.kind ctx (fits.2.2 ▸ fits.1)
    simp [handleOf, ManagerState.setHandle, inside]
  | @starts c h t next =>
    refine one ?_
    obtain rfl | rfl := next
    · exact ⟨after fits.1, fits.2.1⟩
    · exact ⟨after fits.1, fits.2.1⟩
  | startFails => exact one ⟨_, after fits.1⟩
  | reports next =>
    refine one ?_
    obtain rfl | rfl := next
    · exact ⟨after fits.1, fits.2⟩
    · exact ⟨_, after fits.1⟩
  | inserts => exact one trivial
  | submits next =>
    refine one ?_
    obtain rfl | ⟨ctx, hc, rfl⟩ := next
    · trivial
    · obtain ⟨x, hx, -, own⟩ := fits
      exact ⟨x, hx, own ctx hc⟩
  | caches => exact one fits
  | @dropsLast arc rest x cell last =>
    obtain ⟨b, supports⟩ := wired.devices arc x cell
    refine one ?_
    have dropped := Device.drops_drop supports rest
    generalize x.value.drop s.devsLoaded rest = u at dropped
    cases dropped with
    | stop own => exact ⟨_, own ▸ after b⟩
    | destroy => exact ⟨_, after b⟩
  | waits => exact one fits
  | stops =>
    obtain ⟨kind, b⟩ := fits
    exact one ⟨kind, after b⟩
  | @destroys h ctx rest t idle next =>
    refine one ?_
    obtain ⟨-, rfl⟩ | ⟨c, rfl, rfl⟩ := next
    · trivial
    · obtain ⟨kind, b⟩ := fits
      intro h' kind' b'
      obtain rfl := wired.apart _ _ _ _ _ b (before b' (by simp))
      have alive := live (.native h) (by simp [ManagerProc.resources, ownedBy])
      rw [isLive_log, isLive_setStatus alive, if_pos rfl]
      rfl
  | completes => exact one ⟨_, after fits⟩

theorem wired_after (m : ManagerMove o s t s' ts) (live : ∀ r ∈ t.resources, s.isLive r = true)
    (wired : s.Wired) (fits : s.Fits t) : s'.Wired where
  within h kind ctx b := by
    obtain b | ⟨c, rfl, -, -, hc⟩ := m.bound_before b
    · exact (wired.within h kind ctx b).trans_le m.length_boxes_le
    · exact (fits.2 ctx hc.symm).1.trans_le m.length_boxes_le
  apart h h' kind kind' ctx b b' := by
    obtain b | ⟨c, rfl, hl, -, hc⟩ := m.bound_before b
    · obtain b' | ⟨c', rfl, -, -, hc'⟩ := m.bound_before b'
      · exact wired.apart h h' kind kind' ctx b b'
      · exact absurd b ((fits.2 ctx hc'.symm).2 h kind)
    · obtain b' | ⟨c', -, hl', -, -⟩ := m.bound_before b'
      · exact absurd b' ((fits.2 ctx hc.symm).2 h' kind')
      · rw [hl, hl']
  alive h kind ctx b alive := by
    obtain b | ⟨c, rfl, -, -, hc⟩ := m.bound_before b
    · have before : s.isLive (.native h) = true := by
        by_contra dead
        rw [m.dead_after live b (by simpa using dead)] at alive
        cases alive
      refine m.box_alive_after live (fun rest hf => ?_) (wired.alive h kind ctx b before)
      subst hf
      rw [fits h kind b] at before
      cases before
    · refine m.box_alive_after live (by simp) (live _ ?_)
      simp [ManagerProc.resources, ← hc]
  handles h n' ctx hn hk hc hs := by
    obtain ⟨n, hn, ek, ec, hs⟩ := m.natives_cases.started hn hs
    rw [← ek] at hk
    rw [← ec] at hc
    have mine : s.Bound h .generic (some ctx) := ⟨n, hn, hk, hc⟩
    have stored : s.handleOf ctx = some h := by
      obtain hs | ⟨c, rfl⟩ := hs
      · exact wired.handles h n ctx hn hk hc hs
      · obtain ⟨k, hk', kind, ctx'⟩ := fits.1
        obtain rfl := Option.some.inj (hn.symm.trans hk')
        exact fits.2.2 (kind.symm.trans hk) ctx (ctx'.symm.trans hc)
    obtain he | ⟨c', h', rfl, he⟩ := m.handleOf_cases ctx
    · rw [he, stored]
    · have theirs : s.Bound h' c'.opening.kind (some ctx) := fits.2.2 ▸ fits.1
      rw [he (wired.within _ _ _ mine), wired.apart _ _ _ _ _ mine theirs]
  idle h n := m.natives_cases.idle wired.idle
  devices a x' hx := by
    obtain ⟨x, hx, he⟩ | ⟨c, h, rfl, he⟩ := m.device_before hx
    · obtain ⟨b, supports⟩ := wired.devices a x hx
      exact he ▸ ⟨m.bound_after live b, m.supports_after supports⟩
    · have own : x'.value.inner = c.opening.inner h := by rw [he]; rfl
      rw [own, Opening.handle_inner, Opening.ctxPtr_inner, Opening.kind_inner]
      exact ⟨m.bound_after live fits.1, m.supports_after fits.2⟩

end ManagerMove

end WinUHid
