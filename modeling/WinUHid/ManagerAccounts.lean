import WinUHid.DeviceLifetimes

namespace WinUHid

open ManagerState ManagerPool

namespace ManagerState

/-- The device that a request for `id` would get. -/
def deviceAt (s : ManagerState) (id : Nat) : Option Device :=
  (s.devices.lookup id).bind fun arc => (s.arcs[arc]?).map Counted.value

theorem deviceAt_eq_some {s : ManagerState} {id : Nat} {d : Device} : s.deviceAt id = some d ↔
    ∃ (arc : Nat) (x : Counted Device), s.devices.lookup id = some arc ∧ s.arcs[arc]? = some x ∧
      x.value = d := by
  simp only [deviceAt, Option.bind_eq_some_iff, Option.map_eq_some_iff]
  constructor
  · rintro ⟨arc, ha, x, hx, rfl⟩
    exact ⟨arc, x, ha, hx, rfl⟩
  · rintro ⟨arc, x, ha, hx, rfl⟩
    exact ⟨arc, ha, x, hx, rfl⟩

theorem lookup_of_tabled {s : ManagerState} {arc : Nat} (h : arc ∈ s.tabled) :
    ∃ id, s.devices.lookup id = some arc := by
  obtain ⟨⟨id, a⟩, he, rfl⟩ := List.mem_map.mp h
  exact ⟨id, (List.mem_dlookup_iff s.devices.nodupKeys).mpr he⟩

theorem count_tabled_of_lookup {s : ManagerState} {id arc : Nat}
    (h : s.devices.lookup id = some arc) : 0 < s.tabled.count arc := by
  have erased := s.devices.count_erase id arc
  rw [h, Option.toList_some, List.count_singleton_self] at erased
  rw [tabled]
  omega

theorem eq_of_lookup {s : ManagerState} {id id' arc : Nat} (once : s.tabled.count arc ≤ 1)
    (h : s.devices.lookup id = some arc) (h' : s.devices.lookup id' = some arc) : id = id' := by
  by_contra ne
  have first := s.devices.count_erase id arc
  have second := (s.devices.erase id).count_erase id' arc
  rw [AList.lookup_erase_ne (Ne.symm ne), h', Option.toList_some, List.count_singleton_self] at second
  rw [h, Option.toList_some, List.count_singleton_self] at first
  rw [tabled] at once
  omega

end ManagerState

/-- A request, a callback or a drop in progress owns the resource, or refers to a device that does. -/
def ManagerPool.InProgress (p : ManagerPool) (r : Resource) : Prop :=
  ∃ t ∈ p.threads, r ∈ t.resources ∨ ∃ arc ∈ t.references, ∃ x : Counted Device,
    p.shared.arcs[arc]? = some x ∧ r ∈ x.value.inner.resources

section Runs

variable {hexDecode : List Char → Option (List UInt8)} {p : ManagerPool}

theorem ManagerPool.Sound.owner (hs : p.Sound) {r : Resource} (live : p.shared.isLive r = true) :
    (∃ id d, p.shared.deviceAt id = some d ∧ r ∈ d.inner.resources) ∨ p.InProgress r := by
  have one := hs.resources r
  rw [live, Bool.toNat_true, Pool.total] at one
  by_cases kept : p.shared.keptResources r = 0
  · have some : (p.threads.map (·.resources.count r)).sum ≠ 0 := by omega
    obtain ⟨w, hw, hne⟩ := List.exists_mem_ne_zero_of_sum_ne_zero some
    obtain ⟨t, ht, rfl⟩ := List.mem_map.mp hw
    exact .inr ⟨t, ht, .inl (List.count_pos_iff.mp (Nat.pos_of_ne_zero hne))⟩
  · obtain ⟨arc, x, hx, strong, weight⟩ := Counted.exists_of_kept kept
    have own := List.count_pos_iff.mp (Nat.pos_of_ne_zero weight)
    have refs := hs.references arc
    rw [Counted.strongAt_of_get hx, Pool.total] at refs
    by_cases tabled : p.shared.tabled.count arc = 0
    · have some : (p.threads.map (·.references.count arc)).sum ≠ 0 := by omega
      obtain ⟨w, hw, hne⟩ := List.exists_mem_ne_zero_of_sum_ne_zero some
      obtain ⟨t, ht, rfl⟩ := List.mem_map.mp hw
      exact .inr ⟨t, ht,
        .inr ⟨arc, List.count_pos_iff.mp (Nat.pos_of_ne_zero hne), x, hx, own⟩⟩
    · obtain ⟨id, hl⟩ := lookup_of_tabled (List.count_pos_iff.mp (Nat.pos_of_ne_zero tabled))
      exact .inl ⟨id, x.value, deviceAt_eq_some.mpr ⟨arc, x, hl, hx, rfl⟩, own⟩

theorem ManagerPool.Sound.strong_of_lookup (hs : p.Sound) {id arc : Nat}
    (h : p.shared.devices.lookup id = some arc) : 0 < Counted.strongAt p.shared.arcs arc := by
  have tabled := count_tabled_of_lookup h
  have all : p.shared.tabled.count arc ≤ Counted.strongAt p.shared.arcs arc := by
    rw [← hs.references arc]
    exact Nat.le_add_right ..
  omega

theorem ManagerPool.Sound.live_owned (hs : p.Sound) {r : Resource}
    (h : (∃ id d, p.shared.deviceAt id = some d ∧ r ∈ d.inner.resources) ∨ p.InProgress r) :
    p.shared.isLive r = true := by
  obtain ⟨id, d, hd, hr⟩ | ⟨t, ht, hr | ⟨arc, ha, x, hx, hr⟩⟩ := h
  · obtain ⟨arc, x, hl, hx, rfl⟩ := deviceAt_eq_some.mp hd
    exact hs.live_device (hs.strong_of_lookup hl) hx hr
  · exact hs.live ht hr
  · exact hs.live_referenced ht ha hx hr

theorem ManagerPool.Sound.id_unique (hs : p.Sound) {r : Resource} {id id' : Nat} {d d' : Device}
    (hd : p.shared.deviceAt id = some d) (hd' : p.shared.deviceAt id' = some d')
    (hr : r ∈ d.inner.resources) (hr' : r ∈ d'.inner.resources) : id = id' := by
  obtain ⟨arc, x, hl, hx, rfl⟩ := deviceAt_eq_some.mp hd
  obtain ⟨arc', x', hl', hx', rfl⟩ := deviceAt_eq_some.mp hd'
  by_cases he : arc = arc'
  · subst he
    exact eq_of_lookup (hs.unshared arc) hl hl'
  · have strong := hs.strong_of_lookup hl
    have strong' := hs.strong_of_lookup hl'
    rw [Counted.strongAt_of_get hx] at strong
    rw [Counted.strongAt_of_get hx'] at strong'
    have two := Counted.add_le_kept (fun d : Device => d.inner.resources.count r) hx hx' he strong
      strong'
    have one := List.count_pos_iff.mpr hr
    have one' := List.count_pos_iff.mpr hr'
    have all : p.shared.keptResources r ≤ (p.shared.isLive r).toNat := by
      rw [← hs.resources r]
      exact Nat.le_add_right ..
    have := Bool.toNat_le (p.shared.isLive r)
    rw [keptResources] at all
    omega

/-- A bound on the steps that are left. -/
def ManagerProc.cost : ManagerProc → Nat
  | .request _ => 22
  | .createNative _ => 21
  | .storeHandle .. => 20
  | .start .. => 19
  | .neutralReport .. => 18
  | .insert .. => 17
  | .submit .. => 9
  | .insertReport .. => 8
  | .storeLastId .. => 7
  | .stop _ _ rest => 4 + 5 * rest.length
  | .destroy _ _ rest => 3 + 5 * rest.length
  | .free _ rest => 2 + 5 * rest.length
  | .release arcs => 1 + 5 * arcs.length
  | .completeEvent .. => 2
  | .sendEvent .. => 1

theorem Device.cost_drop_le (d : Device) (devsLoaded : Bool) (rest : List Nat) :
    (d.drop devsLoaded rest).cost ≤ 4 + 5 * rest.length := by
  obtain ⟨summary, inner⟩ := d
  cases inner <;> cases devsLoaded <;> simp [drop, ManagerProc.cost]

theorem ManagerMove.cost_lt {o : Outcome} {s s' : ManagerState} {t : ManagerProc}
    {ts : List ManagerProc} (m : ManagerMove o s t s' ts) (free : ¬s.Blocked t) :
    5 * s'.devices.entries.length + (ts.map ManagerProc.cost).sum <
      5 * s.devices.entries.length + t.cost := by
  cases m with
  | quits | ends | dangles | caches | cached | stores | startFails | frees | completes | sends =>
    simp [ManagerProc.cost, setHandle, freeBox, returnCallback]
  | waits busy => exact absurd busy free
  | opens opened => simp [ManagerProc.cost, opened.devices]
  | finds found cell serves => cases serves <;> simp [ManagerProc.cost]
  | @removes id arc found =>
    have erased := s.devices.length_erase id
    rw [found, Option.toList_some, List.length_singleton] at erased
    show 5 * (s.devices.erase id).entries.length + (1 + 5 * 1 + 0) < _ + 22
    omega
  | clears =>
    show 5 * 0 + (1 + 5 * (s.devices.entries.map Sigma.snd).length + 0) < _ + 22
    rw [List.length_map]
    omega
  | creates next => cases next <;> simp [ManagerProc.cost, newNative]
  | @refused c => cases c.opening.ctx <;> simp [ManagerProc.cost]
  | starts next | reports next => obtain rfl | rfl := next <;> simp [ManagerProc.cost, setStatus]
  | @inserts c h =>
    have inserted := s.devices.length_insert o.uuid s.arcs.length
    show 5 * (s.devices.insert o.uuid s.arcs.length).entries.length +
      (1 + 5 * ((s.devices.lookup o.uuid).toList ++ [s.arcs.length]).length + 0) < _ + 17
    rw [List.length_append, List.length_singleton]
    have := Option.length_toList_le (o := s.devices.lookup o.uuid)
    omega
  | submits next => obtain rfl | ⟨ctx, -, rfl⟩ := next <;> simp [ManagerProc.cost]
  | drops => simp [ManagerProc.cost]
  | @dropsLast arc rest x =>
    have dropped := x.value.cost_drop_le s.devsLoaded rest
    show 5 * s.devices.entries.length + ((x.value.drop s.devsLoaded rest).cost + 0) <
      _ + (1 + 5 * (rest.length + 1))
    omega
  | stops => simp [ManagerProc.cost, setStatus]
  | destroys idle next =>
    obtain ⟨-, rfl⟩ | ⟨c, -, rfl⟩ := next <;> simp [ManagerProc.cost, setStatus]

def ManagerPool.cost (p : ManagerPool) : Nat :=
  p.total (fun s => 5 * s.devices.entries.length) ManagerProc.cost

/-- Something that is in progress is not blocked, as a blocked destruction waits for a callback. -/
theorem ManagerPool.Sound.exists_free (hs : p.Sound) (busy : p.threads ≠ []) :
    ∃ t ∈ p.threads, ¬p.shared.Blocked t := by
  obtain ⟨t, ht⟩ := List.exists_mem_of_ne_nil p.threads busy
  by_cases blocked : p.shared.Blocked t
  · have waited : ∃ h, p.shared.isBusy h = true := by
      cases t with
      | stop h | destroy h => exact ⟨h, blocked⟩
      | _ => exact blocked.elim
    obtain ⟨h, hb⟩ := waited
    have running : p.shared.runningOf h ≠ 0 := by
      rw [isBusy] at hb
      rw [runningOf]
      cases hn : p.shared.natives[h]? with
      | none => simp [hn] at hb
      | some n => simpa [hn] using hb
    rw [← hs.callbacks h, Pool.total, Nat.zero_add] at running
    obtain ⟨w, hw, hne⟩ := List.exists_mem_ne_zero_of_sum_ne_zero running
    obtain ⟨u, hu, rfl⟩ := List.mem_map.mp hw
    have called := List.count_pos_iff.mp (Nat.pos_of_ne_zero hne)
    refine ⟨u, hu, ?_⟩
    cases u with
    | completeEvent | sendEvent => exact id
    | _ => cases called
  · exact ⟨t, ht, blocked⟩

theorem ManagerPool.Sound.exists_run (hexDecode : List Char → Option (List UInt8)) (hs : p.Sound)
    (busy : p.threads ≠ []) (o : Outcome) :
    ∃ i p', p.step hexDecode (.run i o) = some p' ∧ p'.cost < p.cost := by
  obtain ⟨t, ht, free⟩ := hs.exists_free busy
  obtain ⟨i, hi⟩ := List.mem_iff_getElem?.mp ht
  have ran : (p.step hexDecode (.run i o)).isSome = true := by
    simp [ManagerPool.step, Pool.run, hi]
  obtain ⟨p', hp⟩ := Option.isSome_iff_exists.mp ran
  obtain ⟨l, u, r, before, hu, shared, threads⟩ := Pool.run_cases hp
  obtain rfl := Option.some.inj (hi.symm.trans hu)
  have less := (p.shared.body_cases hexDecode o t).cost_lt free
  have moved := Pool.total_run (fun s : ManagerState => 5 * s.devices.entries.length)
    ManagerProc.cost before (p.shared.body hexDecode o t).1 (p.shared.body hexDecode o t).2
  rw [← threads, ← shared] at moved
  rw [← shared] at less
  refine ⟨i, p', hp, ?_⟩
  show Pool.total _ _ ⟨p'.shared, p'.threads⟩ < p.total _ _
  omega

/-- A native device or a context that has not been given back belongs to one device in the map or to
what is in progress, and nothing that these own has been given back. -/
theorem manager_accounts (h : Runs.Reach (ManagerPool.step hexDecode) Runs.anyStep Fresh p)
    (r : Resource) :
    (p.shared.isLive r = true ↔
      (∃ id d, p.shared.deviceAt id = some d ∧ r ∈ d.inner.resources) ∨ p.InProgress r) ∧
    ∀ id id' d d', p.shared.deviceAt id = some d → p.shared.deviceAt id' = some d' →
      r ∈ d.inner.resources → r ∈ d'.inner.resources → id = id' := by
  have sound := sound_of_reach h
  exact ⟨⟨sound.owner, sound.live_owned⟩, fun _ _ _ _ => sound.id_unique⟩

/-- While an input report to it is in progress, a destroyed device is alive and not in the map. -/
theorem manager_accounts_seven : ∃ p : ManagerPool, p.shared.devices.keys = [] ∧
    p.shared.isLive (.native 0) = true ∧ p.InProgress (.native 0) := by
  have reached : ∃ p, Runs.Reach (ManagerPool.step hexOfFive) Runs.anyStep Fresh p ∧
      p.shared.devices.keys = [] ∧ p.shared.isLive (.native 0) = true :=
    Runs.exists_reach_of_run _ _ ⟨true, rfl⟩ (createSeven ++ destroySeven.take 7) (by decide)
  obtain ⟨p, reach, empty, live⟩ := reached
  refine ⟨p, empty, live, ?_⟩
  obtain ⟨id, d, found, -⟩ | busy := (manager_accounts reach (.native 0)).1.mp live
  · obtain ⟨arc, x, looked, -⟩ := deviceAt_eq_some.mp found
    have there : id ∈ p.shared.devices :=
      AList.lookup_isSome.mp (Option.isSome_iff_exists.mpr ⟨arc, looked⟩)
    rw [AList.mem_keys, empty] at there
    cases there
  · exact busy

/-- Whatever the native library answers, all that is in progress can run to its end. Then the devices
in the map are all that is left. -/
theorem manager_drains (h : Runs.Reach (ManagerPool.step hexDecode) Runs.anyStep Fresh p)
    (answers : Nat → Outcome) :
    ∃ (order : List Nat) (p' : ManagerPool),
      Runs.exec (ManagerPool.step hexDecode) p
        (order.mapIdx fun k i => .run i (answers k)) = some p' ∧ p'.threads = [] ∧
      ∀ r, p'.shared.isLive r = true ↔
        ∃ id d, p'.shared.deviceAt id = some d ∧ r ∈ d.inner.resources := by
  induction hc : p.cost using Nat.strong_induction_on generalizing p answers with
  | _ n ih =>
    have sound := sound_of_reach h
    by_cases idle : p.threads = []
    · refine ⟨[], p, rfl, idle, fun r => ⟨fun live => ?_, fun kept => sound.live_owned (.inl kept)⟩⟩
      obtain kept | ⟨t, ht, -⟩ := sound.owner live
      · exact kept
      · rw [idle] at ht
        cases ht
    · obtain ⟨i, p', hs, less⟩ := sound.exists_run hexDecode idle (answers 0)
      obtain ⟨order, q, hq, rest⟩ := ih p'.cost (hc ▸ less) (h.next trivial hs)
        (fun k => answers (k + 1)) rfl
      refine ⟨i :: order, q, ?_, rest⟩
      rw [List.mapIdx_cons, Runs.exec, hs]
      exact hq

theorem manager_drains_seven : ∃ p : ManagerPool, p.threads.length = 3 ∧
    ∃ (order : List Nat) (p' : ManagerPool),
      Runs.exec (ManagerPool.step hexOfFive) p
        (order.mapIdx fun _ i => .run i (answer 0)) = some p' ∧ p'.threads = [] := by
  have reached : ∃ p, Runs.Reach (ManagerPool.step hexOfFive) Runs.anyStep Fresh p ∧
      p.threads.length = 3 :=
    Runs.exists_reach_of_run _ _ ⟨true, rfl⟩ (createSeven ++ destroySeven.take 3) (by decide)
  obtain ⟨p, reach, three⟩ := reached
  obtain ⟨order, p', ran, idle, -⟩ := manager_drains reach fun _ => answer 0
  exact ⟨p, three, order, p', ran, idle⟩

end Runs

end WinUHid
