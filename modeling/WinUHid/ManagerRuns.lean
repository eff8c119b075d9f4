import WinUHid.ManagerWiring

namespace WinUHid

open ManagerState

/-- The callbacks of a native device that are in progress. -/
def ManagerState.runningOf (s : ManagerState) (h : Nat) : Nat :=
  (s.natives[h]?).elim 0 NativeDevice.running

theorem ManagerMove.callbacks_eq {o : Outcome} {s s' : ManagerState} {t : ManagerProc}
    {ts : List ManagerProc}
    (m : ManagerMove o s t s' ts) (own : ∀ h, t.callbackOf.count h ≤ s.runningOf h) (h : Nat) :
    (ts.map (·.callbackOf.count h)).sum + s.runningOf h = t.callbackOf.count h + s'.runningOf h := by
  have status : ∀ (k : Nat) st, (s.setStatus k st).runningOf h = s.runningOf h := by
    intro k st
    simp only [runningOf, setStatus, List.getElem?_modify]
    cases s.natives[h]? with
    | none => rfl
    | some n => by_cases hk : k = h <;> simp [hk]
  cases m with
  | quits | ends | dangles | removes | clears | caches | cached | stores | frees | startFails
    | inserts => rfl
  | waits =>
    show (_ + 0) + _ = _
    rw [add_zero]
  | opens opened =>
    rw [runningOf, runningOf, opened.natives]
    rfl
  | finds found cell serves => cases serves <;> rfl
  | @creates c t next =>
    have none : t.callbackOf = [] := by cases next <;> rfl
    show (t.callbackOf.count h + 0) + _ = 0 + (s.newNative c).runningOf h
    rw [none, runningOf, runningOf, newNative]
    by_cases hl : h < s.natives.length
    · rw [List.getElem?_append_left hl]
      rfl
    · rw [List.getElem?_append_right (by omega), List.getElem?_eq_none (l := s.natives) (by omega),
        List.getElem?_singleton]
      split
      · rfl
      · rfl
  | @refused c => cases c.opening.ctx <;> rfl
  | @starts c k t next =>
    have none : t.callbackOf = [] := by obtain rfl | rfl := next <;> rfl
    show (t.callbackOf.count h + 0) + _ = 0 + (s.setStatus k .started).runningOf h
    rw [none, status]
    rfl
  | reports next => obtain rfl | rfl := next <;> rfl
  | submits next => obtain rfl | ⟨ctx, -, rfl⟩ := next <;> rfl
  | drops => rfl
  | @dropsLast arc rest x cell last =>
    have none : (x.value.drop s.devsLoaded rest).callbackOf = [] := by
      unfold Device.drop
      split <;> first | rfl | (split <;> rfl)
    show ((x.value.drop s.devsLoaded rest).callbackOf.count h + 0) + _ = 0 + s.runningOf h
    rw [none]
    rfl
  | @stops k ctx rest =>
    show 0 + _ = 0 + (s.setStatus k .stopped).runningOf h
    rw [status]
  | @destroys k ctx rest t idle next =>
    have none : t.callbackOf = [] := by obtain ⟨-, rfl⟩ | ⟨c, -, rfl⟩ := next <;> rfl
    show (t.callbackOf.count h + 0) + _ = 0 + (s.setStatus k .destroyed).runningOf h
    rw [none, status]
    rfl
  | @completes k ctx =>
    show ([k].count h + 0) + _ = _
    rw [add_zero]
    rfl
  | @sends k ctx =>
    have one := own h
    show 0 + _ = [k].count h + (s.returnCallback k).runningOf h
    rw [ManagerProc.callbackOf] at one
    rw [List.count_singleton] at one ⊢
    rw [runningOf] at one
    rw [runningOf, runningOf, returnCallback, List.getElem?_modify]
    cases hn : s.natives[h]? with
    | none =>
      rw [hn] at one
      exact (Nat.le_zero.mp one).symm ▸ rfl
    | some n =>
      rw [hn] at one
      by_cases hk : k = h
      · simp only [hk, beq_self_eq_true, if_true, Option.elim_some] at one
        simp only [hk, beq_self_eq_true, if_true, Option.map_eq_map, Option.map_some,
          Option.elim_some]
        omega
      · simp [hk]

/-- A reference that the map gets is new. -/
theorem ManagerMove.unshared_after {o : Outcome} {s s' : ManagerState} {t : ManagerProc}
    {ts : List ManagerProc} (m : ManagerMove o s t s' ts) (unshared : ∀ a, s.tabled.count a ≤ 1)
    (unused : s.tabled.count s.arcs.length = 0) (a : Nat) : s'.tabled.count a ≤ 1 := by
  have one := unshared a
  cases m with
  | opens opened => rwa [tabled, opened.devices]
  | @removes id arc found =>
    have erased := s.devices.count_erase id a
    show ((s.devices.erase id).entries.map Sigma.snd).count a ≤ 1
    rw [tabled] at one
    omega
  | clears => exact Nat.zero_le _
  | @inserts c h =>
    have inserted := s.devices.count_insert o.uuid a s.arcs.length
    show ((s.devices.insert o.uuid s.arcs.length).entries.map Sigma.snd).count a ≤ 1
    rw [tabled] at one unused
    rw [List.count_singleton] at inserted
    split at inserted
    next ha =>
      rw [beq_iff_eq] at ha
      subst ha
      omega
    next => omega
  | _ => exact one

namespace ManagerState

section Callback

variable {s : ManagerState} {h : Nat}

theorem bound_beginCallback {k : Nat} {kind : DeviceKind} {ctx : Option Nat} :
    (s.beginCallback h).Bound k kind ctx ↔ s.Bound k kind ctx := by
  simp only [Bound, beginCallback, NativesMove.get_modify]
  constructor
  · rintro ⟨_, ⟨m, hm, rfl⟩, hk, hx⟩
    exact ⟨m, hm, by split at hk <;> exact hk, by split at hx <;> exact hx⟩
  · rintro ⟨m, hm, hk, hx⟩
    exact ⟨_, ⟨m, hm, rfl⟩, by split <;> exact hk, by split <;> exact hx⟩

theorem isLive_beginCallback (r : Resource) : (s.beginCallback h).isLive r = s.isLive r := by
  cases r with
  | box k => rfl
  | native k =>
    simp only [isLive, beginCallback, List.getElem?_modify]
    cases s.natives[k]? with
    | none => rfl
    | some n => by_cases hk : h = k <;> simp [hk]

theorem runningOf_beginCallback {n : NativeDevice} (hn : s.natives[h]? = some n) (k : Nat) :
    (s.beginCallback h).runningOf k = s.runningOf k + [h].count k := by
  rw [runningOf, runningOf, beginCallback, List.getElem?_modify, List.count_singleton]
  by_cases hk : h = k
  · subst hk
    simp [hn]
  · simp [hk]

theorem fits_beginCallback {t : ManagerProc} (ht : s.Fits t) : (s.beginCallback h).Fits t := by
  cases t with
  | request | release => trivial
  | _ =>
    simp only [Fits, bound_beginCallback, isLive_beginCallback] at ht ⊢
    exact ht

theorem Wired.beginCallback {n : NativeDevice} (wired : s.Wired) (hn : s.natives[h]? = some n)
    (started : n.status = .started) : (s.beginCallback h).Wired where
  within k kind ctx b := wired.within k kind ctx (bound_beginCallback.mp b)
  apart k k' kind kind' ctx b b' :=
    wired.apart k k' kind kind' ctx (bound_beginCallback.mp b) (bound_beginCallback.mp b')
  alive k kind ctx b hl := by
    rw [isLive_beginCallback] at hl ⊢
    exact wired.alive k kind ctx (bound_beginCallback.mp b) hl
  handles k n' ctx hn' hk hx hst := by
    obtain ⟨m, hm, rfl⟩ := NativesMove.get_modify.mp hn'
    refine wired.handles k m ctx hm ?_ ?_ ?_
    · split at hk <;> exact hk
    · split at hx <;> exact hx
    · split at hst <;> exact hst
  idle k n' hn' busy := by
    obtain ⟨m, hm, rfl⟩ := NativesMove.get_modify.mp hn'
    by_cases hk : h = k
    · subst hk
      obtain rfl := Option.some.inj (hn.symm.trans hm)
      rw [if_pos rfl]
      exact started
    · rw [if_neg hk] at busy ⊢
      exact wired.idle k m hm busy
  devices a x hx := by
    obtain ⟨b, supports⟩ := wired.devices a x hx
    exact ⟨bound_beginCallback.mpr b, supports⟩

end Callback

end ManagerState

namespace ManagerPool

/-- The counts are those of the references, every resource that is not given back has one owner,
and everything fits together. -/
structure Sound (p : ManagerPool) : Prop where
  references : ∀ a, p.total (fun s => s.tabled.count a) (fun t => t.references.count a) =
    Counted.strongAt p.shared.arcs a
  unshared : ∀ a, p.shared.tabled.count a ≤ 1
  resources : ∀ r, p.total (fun s => s.keptResources r) (fun t => t.resources.count r) =
    (p.shared.isLive r).toNat
  callbacks : ∀ h, p.total (fun _ => 0) (fun t => t.callbackOf.count h) = p.shared.runningOf h
  wired : p.shared.Wired
  fits : ∀ t ∈ p.threads, p.shared.Fits t

variable {p p' : ManagerPool} {t : ManagerProc}

theorem callback_cases {h : Nat} (hc : p.callback h = some p') :
    ∃ n ctx, p.shared.natives[h]? = some n ∧ n.context = some ctx ∧ n.status = .started ∧
      p' = p.spawn (p.shared.beginCallback h)
        (if n.kind = .generic then .completeEvent h ctx else .sendEvent h ctx) := by
  unfold callback at hc
  split at hc
  next kind mac ctx running hn =>
    cases hc
    exact ⟨_, ctx, hn, rfl, rfl, rfl⟩
  next => cases hc

theorem Sound.fresh (h : p.Fresh) : p.Sound := by
  obtain ⟨devsLoaded, rfl⟩ := h
  have none : ∀ h kind ctx, ¬(ManagerState.new devsLoaded).Bound h kind ctx := by
    rintro h kind ctx ⟨n, hn, -⟩
    cases hn
  exact {
    references := fun _ => rfl
    unshared := fun _ => Nat.zero_le _
    resources := fun r => by cases r <;> rfl
    callbacks := fun _ => rfl
    wired := {
      within := fun h kind ctx b => (none _ _ _ b).elim
      apart := fun h h' kind kind' ctx b => (none _ _ _ b).elim
      alive := fun h kind ctx b => (none _ _ _ b).elim
      handles := nofun
      idle := nofun
      devices := nofun }
    fits := nofun }

namespace Sound

theorem counted (hs : p.Sound) (ht : t ∈ p.threads) (a : Nat) :
    p.shared.tabled.count a + t.references.count a ≤ Counted.strongAt p.shared.arcs a := by
  rw [← hs.references a]
  exact Pool.le_total (fun s : ManagerState => s.tabled.count a) (·.references.count a) ht

theorem owned (hs : p.Sound) (ht : t ∈ p.threads) (r : Resource) :
    p.shared.keptResources r + t.resources.count r ≤ (p.shared.isLive r).toNat := by
  rw [← hs.resources r]
  exact Pool.le_total (fun s : ManagerState => s.keptResources r) (·.resources.count r) ht

theorem live (hs : p.Sound) (ht : t ∈ p.threads) {r : Resource} (hr : r ∈ t.resources) :
    p.shared.isLive r = true := by
  have one := List.count_pos_iff.mpr hr
  have all := hs.owned ht r
  cases hl : p.shared.isLive r with
  | true => rfl
  | false =>
    rw [hl, Bool.toNat_false] at all
    omega

/-- What a referenced device owns has not been given back. -/
theorem live_device (hs : p.Sound) {a : Nat} (ha : 0 < Counted.strongAt p.shared.arcs a)
    {x : Counted Device} (hx : p.shared.arcs[a]? = some x) {r : Resource}
    (hr : r ∈ x.value.inner.resources) : p.shared.isLive r = true := by
  rw [Counted.strongAt_of_get hx] at ha
  have one := List.count_pos_iff.mpr hr
  have kept := Counted.le_kept (fun d : Device => d.inner.resources.count r) hx ha
  have all : p.shared.keptResources r ≤ (p.shared.isLive r).toNat := by
    rw [← hs.resources r]
    exact Nat.le_add_right ..
  rw [keptResources] at all
  cases hl : p.shared.isLive r with
  | true => rfl
  | false =>
    rw [hl, Bool.toNat_false] at all
    omega

theorem supports (hs : p.Sound) (a : Nat) (x : Counted Device) (hx : p.shared.arcs[a]? = some x) :
    p.shared.Supports x.value.inner.kind := (hs.wired.devices a x hx).2

theorem spawn_request (hs : p.Sound) (r : ManagerRequest) :
    Sound (p.spawn p.shared (.request r)) where
  references a := by
    rw [Pool.total_spawn]
    exact hs.references a
  unshared := hs.unshared
  resources r' := by
    rw [Pool.total_spawn]
    exact hs.resources r'
  callbacks h := by
    rw [Pool.total_spawn]
    exact hs.callbacks h
  wired := hs.wired
  fits := Pool.forall_spawn hs.fits trivial

theorem callback (hs : p.Sound) {h : Nat} (hc : p.callback h = some p') : p'.Sound := by
  obtain ⟨n, ctx, hn, hx, started, rfl⟩ := callback_cases hc
  have bound : p.shared.Bound h n.kind (some ctx) := ⟨n, hn, rfl, hx⟩
  exact {
    references := fun a => by
      rw [Pool.total_spawn]
      split
      · exact hs.references a
      · exact hs.references a
    unshared := hs.unshared
    resources := fun r => by
      rw [Pool.total_spawn, Pool.spawn_shared, isLive_beginCallback]
      split
      · exact hs.resources r
      · exact hs.resources r
    callbacks := fun k => by
      have was := hs.callbacks k
      rw [Pool.total_spawn, Pool.spawn_shared, runningOf_beginCallback hn, ← was, Pool.total]
      split
      · rfl
      · rfl
    wired := hs.wired.beginCallback hn started
    fits := by
      refine Pool.forall_spawn (fun t ht => fits_beginCallback (hs.fits t ht)) ?_
      split
      next hk =>
        rw [hk] at bound
        exact bound_beginCallback.mpr bound
      next => exact ⟨n.kind, bound_beginCallback.mpr bound⟩ }

/-- What a thread owns no other thread owns. -/
theorem apart {l r : List ManagerProc} (hs : p.Sound) (before : p.threads = l ++ t :: r)
    {u : ManagerProc} (hu : u ∈ l ++ r) : ∀ r ∈ t.resources, r ∉ u.resources := by
  intro r ht hr
  have two := Pool.add_le_total (fun s : ManagerState => s.keptResources r)
    (·.resources.count r) before hu
  rw [hs.resources r] at two
  have := List.count_pos_iff.mpr ht
  have := List.count_pos_iff.mpr hr
  have := Bool.toNat_le (p.shared.isLive r)
  omega

theorem run {o : Outcome} {l r ts : List ManagerProc} {s : ManagerState} (hs : p.Sound)
    (before : p.threads = l ++ t :: r) (m : ManagerMove o p.shared t s ts) :
    Sound ⟨s, l ++ ts ++ r⟩ := by
  have ht : t ∈ p.threads := by simp [before]
  have live : ∀ r ∈ t.resources, p.shared.isLive r = true := fun r => hs.live ht
  have fits := hs.fits t ht
  exact {
    references := fun a => by
      have all := Pool.total_run (fun s : ManagerState => s.tabled.count a)
        (fun t : ManagerProc => t.references.count a) before s ts
      have moved := m.references_eq (hs.counted ht) a
      have was := hs.references a
      show _ = Counted.strongAt s.arcs a
      omega
    unshared := m.unshared_after hs.unshared (by
      have none := hs.counted ht p.shared.arcs.length
      simp only [Counted.strongAt, List.getElem?_length, Option.elim_none] at none
      omega)
    resources := fun r => by
      have all := Pool.total_run (fun s : ManagerState => s.keptResources r)
        (fun t : ManagerProc => t.resources.count r) before s ts
      have moved := m.resources_eq (hs.counted ht) (hs.owned ht) hs.supports r
      have was := hs.resources r
      show _ = (s.isLive r).toNat
      omega
    callbacks := fun h => by
      have own : ∀ h, t.callbackOf.count h ≤ p.shared.runningOf h := fun h => by
        rw [← hs.callbacks h]
        have all := Pool.le_total (fun _ : ManagerState => 0) (·.callbackOf.count h) ht
        omega
      have all := Pool.total_run (fun _ : ManagerState => 0)
        (fun t : ManagerProc => t.callbackOf.count h) before s ts
      have moved := m.callbacks_eq own h
      have was := hs.callbacks h
      show _ = s.runningOf h
      omega
    wired := m.wired_after live hs.wired fits
    fits := by
      have next := m.fits_next live hs.wired fits
      intro u hu
      have place : u ∈ ts ∨ u ∈ l ++ r := by
        simp only [List.mem_append] at hu ⊢
        tauto
      obtain hu | hu := place
      · exact next u hu
      · have other : u ∈ p.threads := by
          rw [before]
          simp only [List.mem_append, List.mem_cons] at hu ⊢
          tauto
        exact m.fits_other live hs.wired fits (hs.fits u other) (hs.apart before hu) }

theorem step {hexDecode : List Char → Option (List UInt8)} {a : ManagerAction} (hs : p.Sound)
    (h : p.step hexDecode a = some p') : p'.Sound := by
  cases a with
  | arrives r =>
    cases h
    exact hs.spawn_request r
  | callback k => exact hs.callback h
  | run i o =>
    obtain ⟨l, t, r, before, -, shared, threads⟩ := Pool.run_cases h
    have sound := hs.run before (p.shared.body_cases hexDecode o t)
    rwa [← threads, ← shared] at sound

end Sound

theorem sound_of_reach {hexDecode : List Char → Option (List UInt8)}
    {guard : ManagerPool → ManagerAction → Prop}
    (h : Runs.Reach (ManagerPool.step hexDecode) guard ManagerPool.Fresh p) : p.Sound := by
  induction h with
  | start hi => exact Sound.fresh hi
  | next _ _ hs ih => exact ih.step hs

end ManagerPool

end WinUHid
