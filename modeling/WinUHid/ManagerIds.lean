import WinUHid.DeviceLifetimes

namespace WinUHid

open ManagerState ManagerPool

/-- A lookup that finds an id comes after its insertion and before its removal. -/
def FoundBetween (calls : List NativeCall) : Prop :=
  ∀ (k : Nat) id, calls[k]? = some (.found id) →
    .inserted id ∈ calls.take k ∧ .removed id ∉ calls.take k

theorem FoundBetween.append {calls more : List NativeCall} (h : FoundBetween calls)
    (found : ∀ (j : Nat) id, more[j]? = some (.found id) →
      more = [.found id] ∧ .inserted id ∈ calls ∧ .removed id ∉ calls) :
    FoundBetween (calls ++ more) := by
  intro k id hk
  by_cases hl : k < calls.length
  · rw [List.getElem?_append_left hl] at hk
    rw [List.take_append_of_le_length hl.le]
    exact h k id hk
  · rw [List.getElem?_append_right (by omega)] at hk
    obtain ⟨one, between⟩ := found _ id hk
    have start : k = calls.length := by
      have := (List.getElem?_eq_some_iff.mp hk).1
      rw [one, List.length_singleton] at this
      omega
    rwa [start, List.take_left]

/-- The ids in the map are those inserted and not removed. -/
structure Registered (s : ManagerState) : Prop where
  lookup : ∀ id, (s.devices.lookup id).isSome = true ↔
    .inserted id ∈ s.calls ∧ .removed id ∉ s.calls
  removed : ∀ id, .removed id ∈ s.calls → .inserted id ∈ s.calls
  found : FoundBetween s.calls

variable {o : Outcome} {s s' : ManagerState} {t : ManagerProc} {ts : List ManagerProc}

/-- Calls that the map has no part in. -/
theorem Registered.other (reg : Registered s) (devices : s'.devices = s.devices)
    {calls : List NativeCall} (hc : s'.calls = s.calls ++ calls)
    (free : ∀ call ∈ calls, ∀ id, call ≠ .inserted id ∧ call ≠ .removed id ∧ call ≠ .found id) :
    Registered s' := by
  have inserted : ∀ id, .inserted id ∈ s'.calls ↔ .inserted id ∈ s.calls := fun id => by
    rw [hc, List.mem_append, or_iff_left fun h => (free _ h id).1 rfl]
  have removed : ∀ id, .removed id ∈ s'.calls ↔ .removed id ∈ s.calls := fun id => by
    rw [hc, List.mem_append, or_iff_left fun h => (free _ h id).2.1 rfl]
  refine ⟨fun id => ?_, fun id => ?_, ?_⟩
  · rw [devices, inserted, removed]
    exact reg.lookup id
  · rw [inserted, removed]
    exact reg.removed id
  · rw [hc]
    exact reg.found.append fun j id hj => absurd rfl (free _ (List.mem_of_getElem? hj) id).2.2

theorem ManagerMove.registered (m : ManagerMove o s t s' ts) (reg : Registered s)
    (fresh : ∀ c h, t = .insert c h → .inserted o.uuid ∉ s.calls) : Registered s' := by
  cases m with
  | quits | ends | drops | dropsLast | dangles | refused | waits =>
    exact reg.other rfl (List.append_nil _).symm nofun
  | opens opened =>
    exact reg.other opened.devices (opened.calls.trans (List.append_nil _).symm) nofun
  | @finds id request arc x t found cell serves =>
    have present := (reg.lookup id).mp (by rw [found]; rfl)
    refine ⟨fun id' => ?_, fun id' => ?_, ?_⟩
    · simpa using reg.lookup id'
    · simpa using reg.removed id'
    · refine reg.found.append fun j id' hj => ?_
      cases List.mem_singleton.mp (List.mem_of_getElem? hj)
      exact ⟨rfl, present⟩
  | @removes id arc found =>
    have present := (reg.lookup id).mp (by rw [found]; rfl)
    have dropped : ∀ id', .removed id' ∈ s.calls ++ [.removed id] ↔
        .removed id' ∈ s.calls ∨ id' = id := by simp
    have kept : ∀ id', .inserted id' ∈ s.calls ++ [.removed id] ↔ .inserted id' ∈ s.calls := by simp
    refine ⟨fun id' => ?_, fun id' => ?_, ?_⟩
    · rw [log_calls, log_devices, dropped, kept]
      by_cases he : id' = id
      · subst he
        rw [AList.lookup_erase]
        simp
      · rw [AList.lookup_erase_ne he, reg.lookup id', or_iff_left he]
    · rw [log_calls, dropped, kept]
      rintro (hr | rfl)
      · exact reg.removed id' hr
      · exact present.1
    · refine reg.found.append fun j id' hj => ?_
      cases List.mem_singleton.mp (List.mem_of_getElem? hj)
  | clears =>
    have dropped : ∀ id, .removed id ∈ s.calls ++ s.devices.keys.map .removed ↔
        .removed id ∈ s.calls ∨ (s.devices.lookup id).isSome = true := by
      intro id
      simp [AList.lookup_isSome, AList.mem_keys]
    have kept : ∀ id, .inserted id ∈ s.calls ++ s.devices.keys.map .removed ↔
        .inserted id ∈ s.calls := by simp
    refine ⟨fun id => ?_, fun id => ?_, ?_⟩
    · rw [dropped, kept, reg.lookup id, AList.lookup_empty]
      simp only [Option.isSome_none, Bool.false_eq_true, false_iff]
      tauto
    · rw [dropped, kept, reg.lookup id]
      rintro (hr | ⟨hi, -⟩)
      · exact reg.removed id hr
      · exact hi
    · refine reg.found.append fun j id hj => ?_
      obtain ⟨k, -, hk⟩ := List.mem_map.mp (List.mem_of_getElem? hj)
      cases hk
  | @inserts c h =>
    have new := fresh c h rfl
    have added : ∀ id, .inserted id ∈ s.calls ++ [.inserted o.uuid] ↔
        .inserted id ∈ s.calls ∨ id = o.uuid := by simp
    have kept : ∀ id, .removed id ∈ s.calls ++ [.inserted o.uuid] ↔ .removed id ∈ s.calls := by simp
    refine ⟨fun id => ?_, fun id => ?_, ?_⟩
    · show ((s.devices.insert o.uuid s.arcs.length).lookup id).isSome = true ↔ _
      rw [log_calls]
      show _ ↔ .inserted id ∈ s.calls ++ [.inserted o.uuid] ∧
        .removed id ∉ s.calls ++ [.inserted o.uuid]
      rw [added, kept]
      by_cases he : id = o.uuid
      · subst he
        rw [AList.lookup_insert]
        simpa using fun hr => new (reg.removed _ hr)
      · rw [AList.lookup_insert_ne he, reg.lookup id, or_iff_left he]
    · show .removed id ∈ s.calls ++ [.inserted o.uuid] → .inserted id ∈ s.calls ++ [.inserted o.uuid]
      rw [added, kept]
      exact fun hr => .inl (reg.removed id hr)
    · refine reg.found.append fun j id hj => ?_
      cases List.mem_singleton.mp (List.mem_of_getElem? hj)
  | _ => exact reg.other rfl rfl (by simp)

/-- `Uuid::new_v4` does not repeat itself. -/
def FreshUuids (p : ManagerPool) : ManagerAction → Prop
  | .run _ o => .inserted o.uuid ∉ p.shared.calls
  | _ => True

variable {hexDecode : List Char → Option (List UInt8)} {p : ManagerPool}

theorem registered_of_reach
    (h : Runs.Reach (ManagerPool.step hexDecode) FreshUuids ManagerPool.Fresh p) :
    Registered p.shared := by
  induction h with
  | start hi =>
    obtain ⟨devsLoaded, rfl⟩ := hi
    exact ⟨fun id => ⟨nofun, fun h => nomatch h.1⟩, nofun, fun k id hk => nomatch hk⟩
  | @next p a p' _ hg hs ih =>
    cases a with
    | arrives r =>
      cases hs
      exact ih
    | callback k =>
      obtain ⟨n, ctx, -, -, -, rfl⟩ := callback_cases hs
      exact ⟨ih.lookup, ih.removed, ih.found⟩
    | run i o =>
      obtain ⟨l, t, r, -, -, shared, -⟩ := Pool.run_cases hs
      rw [shared]
      exact (p.shared.body_cases hexDecode o t).registered ih fun _ _ _ => hg

/-- Where ids do not repeat, a request finds a device from its insertion to its removal and never
again. -/
theorem manager_lookups
    (h : Runs.Reach (ManagerPool.step hexDecode) FreshUuids ManagerPool.Fresh p) :
    (∀ id, (p.shared.devices.lookup id).isSome = true ↔
      .inserted id ∈ p.shared.calls ∧ .removed id ∉ p.shared.calls) ∧
    FoundBetween p.shared.calls :=
  ⟨(registered_of_reach h).lookup, (registered_of_reach h).found⟩

instance (p : ManagerPool) (a : ManagerAction) : Decidable (FreshUuids p a) :=
  match a with
  | .run _ _ | .arrives _ | .callback _ => by
    unfold FreshUuids
    infer_instance

theorem manager_lookups_seven : ∃ p : ManagerPool, p.shared.calls[4]? = some (.found 7) ∧
    .removed 7 ∉ p.shared.calls.take 4 ∧ (p.shared.devices.lookup 7).isSome = false := by
  have reached : ∃ p, Runs.Reach (ManagerPool.step hexOfFive) FreshUuids ManagerPool.Fresh p ∧
      p.shared.calls[4]? = some (.found 7) ∧ .removed 7 ∈ p.shared.calls :=
    Runs.exists_reach_of_run _ _ ⟨true, rfl⟩ (createSeven ++ destroySeven.take 5) (by decide)
  obtain ⟨p, reach, found, removed⟩ := reached
  obtain ⟨there, between⟩ := manager_lookups reach
  refine ⟨p, found, (between 4 7 found).2, ?_⟩
  rw [← Bool.not_eq_true, there]
  exact fun h => h.2 removed

end WinUHid
