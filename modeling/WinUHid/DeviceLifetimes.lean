import WinUHid.ManagerRuns

namespace WinUHid

open ManagerState

namespace NativeCall

/-- What a call is made on. -/
def uses : NativeCall → List Resource
  | started h | used h | stopped h | destroyed h => [.native h]
  | accessed ctx | freed ctx => [.box ctx]
  | completed h ctx on => .native h :: .box ctx :: on.toList.map .native
  | created .. | inserted _ | found _ | removed _ => []

/-- A call comes after the creation of what it is made on and before its end, a context ends after
its native device, and a callback completes its event on the device that called back. -/
structure Allowed (earlier : List NativeCall) (call : NativeCall) : Prop where
  new : ∀ h ctx, call = created h ctx → ∀ ctx', created h ctx' ∉ earlier
  native : ∀ h, .native h ∈ call.uses → (∃ ctx, created h ctx ∈ earlier) ∧ destroyed h ∉ earlier
  box : ∀ ctx, .box ctx ∈ call.uses → freed ctx ∉ earlier
  freed : ∀ ctx, call = freed ctx → ∀ h, created h (some ctx) ∈ earlier → destroyed h ∈ earlier
  completed : ∀ h ctx on, call = completed h ctx on → on = some h

/-- Every call is allowed after those before it. -/
inductive Disciplined : List NativeCall → Prop
  | nil : Disciplined []
  | snoc {earlier call} : Disciplined earlier → Allowed earlier call →
      Disciplined (earlier ++ [call])

theorem Disciplined.append {calls more : List NativeCall} (h : Disciplined calls)
    (free : ∀ call ∈ more, ∀ earlier, Allowed earlier call) : Disciplined (calls ++ more) := by
  induction more using List.reverseRecOn with
  | nil => rwa [List.append_nil]
  | append_singleton more call ih =>
    rw [← List.append_assoc]
    exact .snoc (ih fun c hc => free c (by simp [hc])) (free call (by simp) _)

end NativeCall

/-- What a step may log, with what it does to the native devices. -/
inductive Logs (s : ManagerState) : ManagerProc → List NativeCall → List NativeDevice → Prop
  | quiet {t} (calls : List NativeCall) (free : ∀ call ∈ calls, (∃ id, call = .inserted id) ∨
      (∃ id, call = .found id) ∨ ∃ id, call = .removed id) : Logs s t calls s.natives
  | created {c} :
      Logs s (.createNative c) [.created s.natives.length c.opening.ctx] (s.newNative c).natives
  | started {c h} : Logs s (.start c h) [.started h] (s.setStatus h .started).natives
  | used {t h} (own : .native h ∈ t.resources ∨ ∃ arc cache, t = .submit arc h cache) :
      Logs s t [.used h] s.natives
  | stored {c h ctx} : Logs s (.storeHandle c h ctx) [.accessed ctx] s.natives
  | cached {t arc ctx} (own : t = .insertReport arc ctx ∨ t = .storeLastId arc ctx) :
      Logs s t [.accessed ctx] s.natives
  | stopped {h ctx rest} : Logs s (.stop h ctx rest) [.stopped h] (s.setStatus h .stopped).natives
  | destroyed {h ctx rest} :
      Logs s (.destroy h ctx rest) [.destroyed h] (s.setStatus h .destroyed).natives
  | freed {ctx rest} : Logs s (.free ctx rest) [.freed ctx] s.natives
  | completed {h ctx} :
      Logs s (.completeEvent h ctx) [.completed h ctx (s.handleOf ctx)] s.natives
  | sent {h ctx} : Logs s (.sendEvent h ctx) [.accessed ctx] (s.returnCallback h).natives

theorem ManagerMove.logs {o : Outcome} {s s' : ManagerState} {t : ManagerProc}
    {ts : List ManagerProc} (m : ManagerMove o s t s' ts) :
    ∃ calls, s'.calls = s.calls ++ calls ∧ Logs s t calls s'.natives := by
  cases m with
  | quits | ends | drops | dropsLast | dangles | refused | waits =>
    exact ⟨[], (List.append_nil _).symm, .quiet [] nofun⟩
  | opens opened =>
    refine ⟨[], opened.calls.trans (List.append_nil _).symm, ?_⟩
    rw [opened.natives]
    exact .quiet [] nofun
  | finds | removes | inserts => exact ⟨_, rfl, .quiet _ (by simp)⟩
  | clears => exact ⟨_, rfl, .quiet _ (by simp)⟩
  | creates => exact ⟨_, rfl, .created⟩
  | stores => exact ⟨_, rfl, .stored⟩
  | starts => exact ⟨_, rfl, .started⟩
  | startFails | reports =>
    exact ⟨_, rfl, .used (.inl (by simp [ManagerProc.resources, ownedBy]))⟩
  | submits => exact ⟨_, rfl, .used (.inr ⟨_, _, rfl⟩)⟩
  | caches => exact ⟨_, rfl, .cached (.inl rfl)⟩
  | cached => exact ⟨_, rfl, .cached (.inr rfl)⟩
  | stops => exact ⟨_, rfl, .stopped⟩
  | destroys => exact ⟨_, rfl, .destroyed⟩
  | frees => exact ⟨_, rfl, .freed⟩
  | completes => exact ⟨_, rfl, .completed⟩
  | sends => exact ⟨_, rfl, .sent⟩

namespace ManagerPool

variable {p p' : ManagerPool} {t : ManagerProc}

namespace Sound

theorem live_referenced (hs : p.Sound) (ht : t ∈ p.threads) {a : Nat} (ha : a ∈ t.references)
    {x : Counted Device} (hx : p.shared.arcs[a]? = some x) {r : Resource}
    (hr : r ∈ x.value.inner.resources) : p.shared.isLive r = true := by
  have one := List.count_pos_iff.mpr ha
  have all := hs.counted ht a
  exact hs.live_device (by omega) hx hr

theorem started_of_callback (hs : p.Sound) (ht : t ∈ p.threads) {h : Nat}
    (hc : h ∈ t.callbackOf) : ∃ n, p.shared.natives[h]? = some n ∧ n.status = .started := by
  have one := List.count_pos_iff.mpr hc
  have all := Pool.le_total (fun _ : ManagerState => 0) (·.callbackOf.count h) ht
  rw [hs.callbacks h, runningOf] at all
  cases hn : p.shared.natives[h]? with
  | none =>
    rw [hn, Option.elim_none] at all
    omega
  | some n =>
    rw [hn, Option.elim_some] at all
    exact ⟨n, rfl, hs.wired.idle h n hn (by omega)⟩

theorem live_of_callback (hs : p.Sound) (ht : t ∈ p.threads) {h : Nat} (hc : h ∈ t.callbackOf) :
    p.shared.isLive (.native h) = true := by
  obtain ⟨n, hn, started⟩ := hs.started_of_callback ht hc
  simp [isLive, hn, started]

end Sound

end ManagerPool

/-- The log tells which native devices there are and what has ended. -/
structure Traced (s : ManagerState) : Prop where
  created : ∀ h ctx, .created h ctx ∈ s.calls ↔ ∃ n, s.natives[h]? = some n ∧ n.context = ctx
  destroyed : ∀ h, .destroyed h ∈ s.calls ↔ ∃ n, s.natives[h]? = some n ∧ n.status = .destroyed
  freed : ∀ ctx, .freed ctx ∈ s.calls → ∃ b, s.boxes[ctx]? = some b ∧ b.freed = true
  disciplined : NativeCall.Disciplined s.calls

namespace Logs

variable {s : ManagerState} {t : ManagerProc} {calls : List NativeCall}
  {natives : List NativeDevice}

theorem context_modify {f : NativeDevice → NativeDevice} (keeps : ∀ n, (f n).context = n.context)
    {k h : Nat} {ctx : Option Nat} : (∃ n, (s.natives.modify k f)[h]? = some n ∧ n.context = ctx) ↔
      ∃ n, s.natives[h]? = some n ∧ n.context = ctx := by
  simp only [NativesMove.get_modify]
  constructor
  · rintro ⟨_, ⟨m, hm, rfl⟩, hx⟩
    exact ⟨m, hm, by split at hx <;> simpa [keeps] using hx⟩
  · rintro ⟨m, hm, hx⟩
    exact ⟨_, ⟨m, hm, rfl⟩, by split <;> simpa [keeps] using hx⟩

theorem created_iff (l : Logs s t calls natives) (traced : Traced s) (h : Nat) (ctx : Option Nat) :
    .created h ctx ∈ s.calls ++ calls ↔ ∃ n, natives[h]? = some n ∧ n.context = ctx := by
  have was := traced.created h ctx
  cases l with
  | quiet calls free =>
    rw [List.mem_append, was, or_iff_left_iff_imp]
    intro hc
    obtain ⟨id, he⟩ | ⟨id, he⟩ | ⟨id, he⟩ := free _ hc <;> cases he
  | @created c =>
    simp only [List.mem_append, was, List.mem_singleton, NativeCall.created.injEq, newNative,
      List.getElem?_concat_eq_some_iff]
    constructor
    · rintro (⟨n, hn, hx⟩ | ⟨rfl, rfl⟩)
      · exact ⟨n, .inl hn, hx⟩
      · exact ⟨_, .inr ⟨rfl, rfl⟩, rfl⟩
    · rintro ⟨n, hn | ⟨rfl, rfl⟩, hx⟩
      · exact .inl ⟨n, hn, hx⟩
      · exact .inr ⟨rfl, hx.symm⟩
  | started | stopped | destroyed | sent =>
    refine (List.mem_append.trans (or_iff_left (by simp))).trans (was.trans (Iff.symm ?_))
    refine context_modify ?_
    exact fun _ => rfl
  | used | stored | cached | freed | completed => simpa using was

theorem destroyed_iff (l : Logs s t calls natives) (traced : Traced s)
    (live : ∀ r ∈ t.resources, s.isLive r = true) (h : Nat) :
    .destroyed h ∈ s.calls ++ calls ↔ ∃ n, natives[h]? = some n ∧ n.status = .destroyed := by
  have was := traced.destroyed h
  have alive : ∀ {k} {n : NativeDevice}, .native k ∈ t.resources → s.natives[k]? = some n →
      n.status ≠ .destroyed := by
    intro k n hk hn
    have := live _ hk
    simpa [isLive, hn] using this
  have kept : ∀ {k status}, .native k ∈ t.resources → status ≠ .destroyed →
      ((∃ n, (s.setStatus k status).natives[h]? = some n ∧ n.status = .destroyed) ↔
        ∃ n, s.natives[h]? = some n ∧ n.status = .destroyed) := by
    intro k status hk ne
    simp only [setStatus, NativesMove.get_modify]
    constructor
    · rintro ⟨_, ⟨m, hm, rfl⟩, hd⟩
      split at hd
      · exact absurd hd ne
      · exact ⟨m, hm, hd⟩
    · rintro ⟨m, hm, hd⟩
      have other : k ≠ h := by
        rintro rfl
        exact alive hk hm hd
      exact ⟨m, ⟨m, hm, by rw [if_neg other]⟩, hd⟩
  cases l with
  | quiet calls free =>
    rw [List.mem_append, was, or_iff_left_iff_imp]
    intro hc
    obtain ⟨id, he⟩ | ⟨id, he⟩ | ⟨id, he⟩ := free _ hc <;> cases he
  | created =>
    refine (List.mem_append.trans (or_iff_left (by simp))).trans (was.trans ?_)
    simp only [newNative, List.getElem?_concat_eq_some_iff]
    constructor
    · rintro ⟨n, hn, hd⟩
      exact ⟨n, .inl hn, hd⟩
    · rintro ⟨n, hn | ⟨rfl, rfl⟩, hd⟩
      · exact ⟨n, hn, hd⟩
      · cases hd
  | started | stopped =>
    refine (List.mem_append.trans (or_iff_left (by simp))).trans (was.trans (Iff.symm ?_))
    exact kept (by simp [ManagerProc.resources, ownedBy]) (by decide)
  | @destroyed k ctx rest =>
    have alive := live (.native k) (by simp [ManagerProc.resources, ownedBy])
    simp only [List.mem_append, was, List.mem_singleton, NativeCall.destroyed.injEq, setStatus,
      NativesMove.get_modify]
    constructor
    · rintro (⟨n, hn, hd⟩ | rfl)
      · exact ⟨_, ⟨n, hn, rfl⟩, by split <;> first | rfl | exact hd⟩
      · cases hn : s.natives[h]? with
        | none => simp [isLive, hn] at alive
        | some n => exact ⟨_, ⟨n, rfl, rfl⟩, by rw [if_pos rfl]⟩
    · rintro ⟨_, ⟨m, hm, rfl⟩, hd⟩
      split at hd
      next hk => exact .inr hk.symm
      next => exact .inl ⟨m, hm, hd⟩
  | sent =>
    refine (List.mem_append.trans (or_iff_left (by simp))).trans (was.trans ?_)
    simp only [returnCallback, NativesMove.get_modify]
    constructor
    · rintro ⟨n, hn, hd⟩
      exact ⟨_, ⟨n, hn, rfl⟩, by split <;> exact hd⟩
    · rintro ⟨_, ⟨m, hm, rfl⟩, hd⟩
      exact ⟨m, hm, by split at hd <;> exact hd⟩
  | used | stored | cached | freed | completed => simpa using was

end Logs

open ManagerPool

variable {o : Outcome} {p : ManagerPool} {s : ManagerState} {t : ManagerProc}
  {ts : List ManagerProc} {calls : List NativeCall} {natives : List NativeDevice}

theorem Traced.native_allowed (traced : Traced p.shared) {h : Nat}
    (live : p.shared.isLive (.native h) = true) :
    (∃ ctx, .created h ctx ∈ p.shared.calls) ∧ .destroyed h ∉ p.shared.calls := by
  cases hn : p.shared.natives[h]? with
  | none => simp [isLive, hn] at live
  | some n =>
    refine ⟨⟨n.context, (traced.created h _).mpr ⟨n, hn, rfl⟩⟩, fun hd => ?_⟩
    obtain ⟨m, hm, hd⟩ := (traced.destroyed h).mp hd
    obtain rfl := Option.some.inj (hn.symm.trans hm)
    simp [isLive, hn, hd] at live

theorem Traced.box_allowed (traced : Traced p.shared) {ctx : Nat}
    (live : p.shared.isLive (.box ctx) = true) : .freed ctx ∉ p.shared.calls := by
  intro hf
  obtain ⟨b, hb, freed⟩ := traced.freed ctx hf
  simp [isLive, hb, freed] at live

/-- A call on what is alive. -/
theorem Traced.allowed (traced : Traced p.shared) {call : NativeCall}
    (live : ∀ r ∈ call.uses, p.shared.isLive r = true)
    (new : ∀ h ctx, call ≠ .created h ctx) (kept : ∀ ctx, call ≠ .freed ctx)
    (own : ∀ h ctx on, call = .completed h ctx on → on = some h) :
    NativeCall.Allowed p.shared.calls call where
  new h ctx hc := absurd hc (new h ctx)
  native _ hu := traced.native_allowed (live _ hu)
  box _ hu := traced.box_allowed (live _ hu)
  freed ctx hc := absurd hc (kept ctx)
  completed := own

theorem Logs.disciplined (hs : p.Sound) (traced : Traced p.shared) (ht : t ∈ p.threads)
    (l : Logs p.shared t calls natives) : NativeCall.Disciplined (p.shared.calls ++ calls) := by
  have fits := hs.fits t ht
  have simple : ∀ {call : NativeCall}, (∀ r ∈ call.uses, p.shared.isLive r = true) →
      (∀ h' ctx, call ≠ .created h' ctx) → (∀ ctx, call ≠ .freed ctx) →
      (∀ h ctx on, call ≠ .completed h ctx on) →
      NativeCall.Disciplined (p.shared.calls ++ [call]) := fun live new kept own =>
    .snoc traced.disciplined (traced.allowed live new kept fun _ _ _ hc => (own _ _ _ hc).elim)
  have owned : ∀ {r}, r ∈ t.resources → ∀ r' ∈ [r], p.shared.isLive r' = true := by
    intro r hr r' hr'
    cases List.mem_singleton.mp hr'
    exact hs.live ht hr
  cases l with
  | quiet calls free =>
    refine traced.disciplined.append fun call hc earlier => ?_
    obtain ⟨id, rfl⟩ | ⟨id, rfl⟩ | ⟨id, rfl⟩ := free call hc <;>
      exact ⟨by simp, by simp [NativeCall.uses], by simp [NativeCall.uses], by simp, by simp⟩
  | @created c =>
    refine .snoc traced.disciplined ⟨fun h ctx hc ctx' hm => ?_, by simp [NativeCall.uses],
      by simp [NativeCall.uses], by simp, by simp⟩
    cases hc
    obtain ⟨n, hn, -⟩ := (traced.created _ _).mp hm
    simp at hn
  | started | stopped | destroyed =>
    exact simple (owned (by simp [ManagerProc.resources, ownedBy])) (by simp) (by simp) (by simp)
  | @used t h own =>
    refine simple ?_ (by simp) (by simp) (by simp)
    obtain own | ⟨arc, cache, rfl⟩ := own
    · exact owned own
    · obtain ⟨x, hx, hh, -⟩ := fits
      intro r hr
      cases List.mem_singleton.mp hr
      exact hs.live_referenced ht (by simp [ManagerProc.references]) hx
        (by simp [DeviceInner.resources, ownedBy, hh])
  | @stored c h ctx =>
    refine simple (owned ?_) (by simp) (by simp) (by simp)
    simp [ManagerProc.resources, ownedBy, fits.2.2]
  | @cached t arc ctx own =>
    refine simple ?_ (by simp) (by simp) (by simp)
    intro r hr
    cases List.mem_singleton.mp hr
    obtain rfl | rfl := own
    all_goals
      obtain ⟨x, hx, hc⟩ := fits
      exact hs.live_referenced ht (by simp [ManagerProc.references]) hx
        (by simp [DeviceInner.resources, ownedBy, hc])
  | @freed ctx rest =>
    have live := hs.live ht (r := .box ctx) (by simp [ManagerProc.resources])
    refine .snoc traced.disciplined ⟨by simp, by simp [NativeCall.uses], fun k hk => ?_,
      fun k hk h hc => ?_, by simp⟩
    · cases List.mem_singleton.mp hk
      exact traced.box_allowed live
    · cases hk
      obtain ⟨n, hn, hx⟩ := (traced.created _ _).mp hc
      have dead := fits h n.kind ⟨n, hn, rfl, hx⟩
      refine (traced.destroyed h).mpr ⟨n, hn, ?_⟩
      simpa [isLive, hn] using dead
  | @completed h ctx =>
    obtain ⟨n, hn, hk, hx⟩ := fits
    have called : h ∈ ManagerProc.callbackOf (.completeEvent h ctx) := by
      simp [ManagerProc.callbackOf]
    obtain ⟨m, hm, started⟩ := hs.started_of_callback ht called
    obtain rfl := Option.some.inj (hn.symm.trans hm)
    have on := hs.wired.handles h n ctx hn hk hx started
    have live := hs.live_of_callback ht called
    refine .snoc traced.disciplined (traced.allowed ?_ (by simp) (by simp) ?_)
    · intro r hr
      simp only [NativeCall.uses, on, Option.toList_some, List.map_cons, List.map_nil,
        List.mem_cons, List.not_mem_nil, or_false] at hr
      obtain rfl | rfl | rfl := hr
      · exact live
      · exact hs.wired.alive h n.kind ctx ⟨n, hn, rfl, hx⟩ live
      · exact live
    · intro h' ctx' on' he
      cases he
      exact on
  | @sent h ctx =>
    obtain ⟨kind, b⟩ := fits
    have live := hs.live_of_callback ht (h := h) (by simp [ManagerProc.callbackOf])
    refine simple ?_ (by simp) (by simp) (by simp)
    intro r hr
    cases List.mem_singleton.mp hr
    exact hs.wired.alive h kind ctx b live

theorem BoxesMove.freed_after {boxes : List ContextBox} (m : BoxesMove s t boxes) {ctx : Nat}
    (h : (∃ b, s.boxes[ctx]? = some b ∧ b.freed = true) ∨
      s.isLive (.box ctx) = true ∧ ∃ rest, t = .free ctx rest ∧ boxes = (s.freeBox ctx).boxes) :
    ∃ b, boxes[ctx]? = some b ∧ b.freed = true := by
  obtain ⟨b, hb, freed⟩ | ⟨live, rest, rfl, rfl⟩ := h
  · cases m with
    | same => exact ⟨b, hb, freed⟩
    | boxes =>
      obtain ⟨hl, -⟩ := List.getElem?_eq_some_iff.mp hb
      exact ⟨b, (List.getElem?_append_left hl).trans hb, freed⟩
    | @stores c h k =>
      rw [setHandle, List.getElem?_modify, hb]
      exact ⟨_, rfl, by split <;> exact freed⟩
    | @frees k rest =>
      rw [freeBox, List.getElem?_modify, hb]
      exact ⟨_, rfl, by split <;> first | rfl | exact freed⟩
  · simp only [isLive] at live
    cases hb : s.boxes[ctx]? with
    | none => simp [hb] at live
    | some b => exact ⟨{ b with freed := true }, by simp [freeBox, hb], rfl⟩

theorem ManagerMove.freed_cases {s' : ManagerState} (m : ManagerMove o s t s' ts) {ctx : Nat}
    (h : .freed ctx ∈ s'.calls) : .freed ctx ∈ s.calls ∨
      ∃ rest, t = .free ctx rest ∧ s'.boxes = (s.freeBox ctx).boxes := by
  cases m with
  | frees =>
    rcases List.mem_append.mp h with h | h
    · exact .inl h
    · cases List.mem_singleton.mp h
      exact .inr ⟨_, rfl, rfl⟩
  | opens opened => exact .inl (opened.calls ▸ h)
  | quits | ends | drops | dropsLast | dangles | refused | waits => exact .inl h
  | _ =>
    rcases List.mem_append.mp h with h | h
    · exact .inl h
    · simp at h

theorem ManagerPool.Sound.traced_after {s' : ManagerState} (hs : p.Sound)
    (traced : Traced p.shared) (ht : t ∈ p.threads) (m : ManagerMove o p.shared t s' ts) :
    Traced s' := by
  obtain ⟨calls, hc, l⟩ := m.logs
  refine ⟨fun h ctx => ?_, fun h => ?_, fun ctx hf => ?_, ?_⟩
  · rw [hc]
    exact l.created_iff traced h ctx
  · rw [hc]
    exact l.destroyed_iff traced (fun r => hs.live ht) h
  · refine m.boxes_cases.freed_after ?_
    obtain hf | ⟨rest, rfl, hb⟩ := m.freed_cases hf
    · exact .inl (traced.freed ctx hf)
    · exact .inr ⟨hs.live ht (by simp [ManagerProc.resources]), rest, rfl, hb⟩
  · rw [hc]
    exact l.disciplined hs traced ht

theorem Traced.beginCallback (traced : Traced s) (h : Nat) : Traced (s.beginCallback h) := by
  refine ⟨fun k ctx => (traced.created k ctx).trans (Iff.symm ?_), fun k => ?_, traced.freed,
    traced.disciplined⟩
  · refine Logs.context_modify ?_
    exact fun _ => rfl
  · refine (traced.destroyed k).trans ?_
    simp only [ManagerState.beginCallback, NativesMove.get_modify]
    constructor
    · rintro ⟨n, hn, hd⟩
      exact ⟨_, ⟨n, hn, rfl⟩, by split <;> exact hd⟩
    · rintro ⟨_, ⟨m, hm, rfl⟩, hd⟩
      exact ⟨m, hm, by split at hd <;> exact hd⟩

section Runs

variable {hexDecode : List Char → Option (List UInt8)}
  {guard : ManagerPool → ManagerAction → Prop}

theorem traced_of_reach (h : Runs.Reach (ManagerPool.step hexDecode) guard Fresh p) :
    Traced p.shared := by
  induction h with
  | start hi =>
    obtain ⟨devsLoaded, rfl⟩ := hi
    exact ⟨fun h ctx => ⟨nofun, nofun⟩, fun h => ⟨nofun, nofun⟩, nofun, .nil⟩
  | @next p a p' hr _ hs ih =>
    have sound := sound_of_reach hr
    cases a with
    | arrives r =>
      cases hs
      exact ih
    | callback k =>
      obtain ⟨n, ctx, -, -, -, rfl⟩ := callback_cases hs
      exact ih.beginCallback k
    | run i o =>
      obtain ⟨l, t, r, before, -, shared, -⟩ := Pool.run_cases hs
      rw [shared]
      exact sound.traced_after ih (by simp [before]) (p.shared.body_cases hexDecode o t)

/-- In every interleaving of requests, callbacks and drops, no native device and no context is used
after its end or ended twice, contexts outlive their devices, and every callback of a generic device
completes its event on that device. -/
theorem manager_disciplined (h : Runs.Reach (ManagerPool.step hexDecode) Runs.anyStep Fresh p) :
    NativeCall.Disciplined p.shared.calls :=
  (traced_of_reach h).disciplined

end Runs

def answer (uuid : Nat) : Outcome := ⟨true, uuid, 0⟩

def hexOfFive (digits : List Char) : Option (List UInt8) :=
  if digits = ['0', '5'] then some [0x05] else none

/-- The device `7` is created. -/
def createSeven : List ManagerAction :=
  .arrives (.createGeneric ⟨none, 0x1234, 0x5678, ['0', '5']⟩) ::
    .replicate 5 (.run 0 (answer 7)) ++ .replicate 2 (.run 0 (answer 0))

/-- It is destroyed while an input report and a callback are in progress. -/
def destroySeven : List ManagerAction :=
  [.callback 0, .arrives (.device 7 (.submitGenericInput ['0', '5'])), .arrives (.destroy 7),
    .run 1 (answer 0), .run 2 (answer 0), .run 2 (answer 0), .run 2 (answer 0),
    .run 0 (answer 0)] ++ .replicate 5 (.run 1 (answer 0)) ++ .replicate 4 (.run 0 (answer 0))

theorem manager_disciplined_seven : NativeCall.Disciplined
    [.created 0 (some 0), .accessed 0, .started 0, .inserted 7, .found 7, .removed 7,
      .completed 0 0 (some 0), .used 0, .accessed 0, .accessed 0, .accessed 0, .stopped 0,
      .destroyed 0, .freed 0] := by
  have reached : ∃ p, Runs.Reach (ManagerPool.step hexOfFive) Runs.anyStep ManagerPool.Fresh p ∧
      p.shared.calls = [.created 0 (some 0), .accessed 0, .started 0, .inserted 7, .found 7,
        .removed 7, .completed 0 0 (some 0), .used 0, .accessed 0, .accessed 0, .accessed 0,
        .stopped 0, .destroyed 0, .freed 0] :=
    Runs.exists_reach_of_run _ _ ⟨true, rfl⟩ (createSeven ++ destroySeven) (by decide)
  obtain ⟨p, reach, calls⟩ := reached
  exact calls ▸ manager_disciplined reach

end WinUHid
