import WinUHid.DeviceLifetimes
import Mathlib.Data.List.NodupEquivFin

namespace WinUHid

open ManagerState ManagerPool

/-- The address that a creation has drawn and not yet given to a native device. -/
def ManagerProc.drawn : ManagerProc → List (Option MacAddress)
  | .createNative c => [c.macAddress]
  | _ => []

def ManagerState.given (s : ManagerState) : List (Option MacAddress) :=
  s.natives.map NativeDevice.macAddress

theorem given_modify (s : ManagerState) (h : Nat) {f : NativeDevice → NativeDevice}
    (keeps : ∀ n, (f n).macAddress = n.macAddress) :
    (s.natives.modify h f).map NativeDevice.macAddress = s.given := by
  apply List.ext_getElem?
  intro i
  rw [given, List.getElem?_map, List.getElem?_map, List.getElem?_modify]
  cases s.natives[i]? with
  | none => rfl
  | some n => by_cases hi : h = i <;> simp [hi, keeps]

section Move

variable {o : Outcome} {s s' : ManagerState} {t : ManagerProc} {ts : List ManagerProc}

theorem ManagerMove.given_eq (m : ManagerMove o s t s' ts) (other : ∀ c, t ≠ .createNative c) :
    s'.given = s.given := by
  have moved := m.natives_cases
  rw [given]
  generalize s'.natives = natives at moved
  cases moved with
  | same => rfl
  | creates => exact absurd rfl (other _)
  | starts | stops | destroys | returns =>
    refine given_modify s _ ?_
    exact fun _ => rfl

/-- What is given or drawn has come from `random_mac`. -/
theorem ManagerMove.drawn_le (m : ManagerMove o s t s' ts) (a : MacAddress) :
    s'.given.count (some a) + (ts.map (·.drawn.count (some a))).sum + s.macAddresses.count a ≤
      s.given.count (some a) + t.drawn.count (some a) + s'.macAddresses.count a := by
  have same := m.given_eq
  have quiet : (∀ c, t ≠ .createNative c) → (∀ u ∈ ts, u.drawn = []) →
      s'.macAddresses = s.macAddresses →
      s'.given.count (some a) + (ts.map (·.drawn.count (some a))).sum + s.macAddresses.count a ≤
        s.given.count (some a) + t.drawn.count (some a) + s'.macAddresses.count a := by
    intro other none macs
    have zero : (ts.map (·.drawn.count (some a))).sum = 0 :=
      List.sum_eq_zero fun n hn => by
        obtain ⟨u, hu, rfl⟩ := List.mem_map.mp hn
        rw [none u hu, List.count_nil]
    rw [same other, macs, zero]
    omega
  cases m with
  | waits =>
    show _ + (_ + 0) + _ ≤ _
    rw [add_zero]
  | @opens r c _ opened =>
    show s'.given.count (some a) + ([c.macAddress].count (some a) + 0) + _ ≤ _ + 0 + _
    rw [given, given, opened.natives]
    obtain ⟨none, -, same⟩ | ⟨new, -, more⟩ := opened.macs
    · rw [none, same]
      simp
    · rw [new, more, List.count_append]
      simp only [List.count_singleton, beq_iff_eq, Option.some.injEq]
      omega
  | @creates c t next =>
    have none : t.drawn = [] := by cases next <;> rfl
    show (s.newNative c).given.count (some a) + (t.drawn.count (some a) + 0) + _ ≤
      _ + [c.macAddress].count (some a) + _
    rw [none, given, newNative, List.map_append, List.count_append]
    exact le_rfl
  | @refused c =>
    cases c.opening.ctx <;> exact Nat.add_le_add_right (Nat.add_le_add_left (Nat.zero_le _) _) _
  | finds found cell serves =>
    refine quiet (by simp) (fun u hu => ?_) rfl
    cases List.mem_singleton.mp hu
    cases serves <;> rfl
  | starts next | reports next =>
    refine quiet (by simp) (fun u hu => ?_) rfl
    cases List.mem_singleton.mp hu
    obtain rfl | rfl := next <;> rfl
  | submits next =>
    refine quiet (by simp) (fun u hu => ?_) rfl
    cases List.mem_singleton.mp hu
    obtain rfl | ⟨ctx, -, rfl⟩ := next <;> rfl
  | destroys idle next =>
    refine quiet (by simp) (fun u hu => ?_) rfl
    cases List.mem_singleton.mp hu
    obtain ⟨-, rfl⟩ | ⟨c, -, rfl⟩ := next <;> rfl
  | @dropsLast arc rest x =>
    refine quiet (by simp) (fun u hu => ?_) rfl
    cases List.mem_singleton.mp hu
    obtain ⟨summary, inner⟩ := x.value
    cases inner <;> cases s.devsLoaded <;> rfl
  | quits | ends | dangles | sends => exact quiet (by simp) (by simp) rfl
  | _ =>
    refine quiet (by simp) (fun u hu => ?_) rfl
    rw [List.mem_singleton.mp hu]
    rfl

/-- `COUNTER` starts at `0xC0FFEE` and counts the calls of `random_mac`. -/
def Counting (s : ManagerState) : Prop :=
  s.macCounter = 0xC0FFEE + UInt32.ofNat s.macAddresses.length ∧
    ∀ (k : Nat) a, s.macAddresses[k]? = some a → a = macOf (0xC0FFEE + UInt32.ofNat k)

theorem ManagerMove.counting (m : ManagerMove o s t s' ts) (h : Counting s) : Counting s' := by
  have same : s'.macCounter = s.macCounter → s'.macAddresses = s.macAddresses → Counting s' := by
    intro counter macs
    rw [Counting, counter, macs]
    exact h
  cases m with
  | opens opened =>
    obtain ⟨-, counter, macs⟩ | ⟨-, counter, macs⟩ := opened.macs
    · exact same counter macs
    · refine ⟨?_, fun k a hk => ?_⟩
      · rw [counter, macs, h.1, List.length_append, List.length_singleton]
        simp [UInt32.add_assoc]
      · rw [macs] at hk
        rcases List.getElem?_concat_eq_some_iff.mp hk with hk | ⟨rfl, rfl⟩
        · exact h.2 k a hk
        · rw [h.1]
  | _ => exact same rfl rfl

end Move

theorem toNat_mod_of_macOf {m n : UInt32} (h : macOf m = macOf n) :
    m.toNat % 2 ^ 24 = n.toNat % 2 ^ 24 := by
  have bytes := congrArg Vector.toList h
  simp only [macOf, Vector.toList_mk, List.cons.injEq, true_and, and_true] at bytes
  obtain ⟨h0, h1, h2⟩ := bytes
  have b0 := congrArg UInt8.toNat h0
  have b1 := congrArg UInt8.toNat h1
  have b2 := congrArg UInt8.toNat h2
  simp only [UInt32.toNat_toUInt8, UInt32.toNat_shiftRight] at b0 b1 b2
  simp [Nat.shiftRight_eq_div_pow] at b1 b2
  omega

/-- The addresses of fewer than `2 ^ 24` calls differ. -/
theorem Counting.nodup {s : ManagerState} (h : Counting s)
    (few : s.macAddresses.length ≤ 2 ^ 24) : s.macAddresses.Nodup := by
  rw [List.nodup_iff_getElem?_ne_getElem?]
  intro i j hij hj he
  obtain ⟨a, ha⟩ : ∃ a, s.macAddresses[j]? = some a := ⟨_, List.getElem?_eq_getElem hj⟩
  have one := toNat_mod_of_macOf ((h.2 i a (he.trans ha)).symm.trans (h.2 j a ha))
  have start : (0xC0FFEE : UInt32).toNat = 0xC0FFEE := rfl
  simp only [UInt32.toNat_add, UInt32.toNat_ofNat', start] at one
  omega

variable {hexDecode : List Char → Option (List UInt8)} {p : ManagerPool}

theorem macs_of_reach {guard : ManagerPool → ManagerAction → Prop}
    (h : Runs.Reach (ManagerPool.step hexDecode) guard ManagerPool.Fresh p) :
    Counting p.shared ∧ ∀ a, p.total (fun s => s.given.count (some a))
      (fun t => t.drawn.count (some a)) ≤ p.shared.macAddresses.count a := by
  induction h with
  | start hi =>
    obtain ⟨devsLoaded, rfl⟩ := hi
    exact ⟨⟨rfl, nofun⟩, fun a => le_rfl⟩
  | @next p a p' _ hg hs ih =>
    obtain ⟨counting, drawn⟩ := ih
    cases a with
    | arrives r =>
      cases hs
      refine ⟨counting, fun a => ?_⟩
      rw [Pool.total_spawn]
      exact drawn a
    | callback k =>
      obtain ⟨n, ctx, -, -, -, rfl⟩ := callback_cases hs
      refine ⟨counting, fun a => ?_⟩
      have same : (p.shared.beginCallback k).given = p.shared.given := by
        refine given_modify p.shared k ?_
        exact fun _ => rfl
      rw [Pool.total_spawn, same]
      split
      · exact drawn a
      · exact drawn a
    | run i o =>
      obtain ⟨l, t, r, before, -, shared, threads⟩ := Pool.run_cases hs
      have m := p.shared.body_cases hexDecode o t
      refine ⟨shared ▸ m.counting counting, fun a => ?_⟩
      have moved := m.drawn_le a
      have was := drawn a
      have all := Pool.total_run (fun s : ManagerState => s.given.count (some a))
        (fun t : ManagerProc => t.drawn.count (some a)) before (p.shared.body hexDecode o t).1
        (p.shared.body hexDecode o t).2
      rw [← threads, ← shared] at all
      rw [← shared] at moved
      show Pool.total _ _ ⟨p'.shared, p'.threads⟩ ≤ _
      omega

theorem pairingInfo_injective : Function.Injective pairingInfo := by
  intro a b h
  rw [pairingInfo, pairingInfo, List.cons.injEq, List.reverse_inj] at h
  exact Vector.toList_inj.mp h.2

/-- As long as `random_mac` has been called at most `2 ^ 24` times, no two gamepads that have ever
been created answer the pairing request alike. -/
theorem pairingInfo_apart (h : Runs.Reach (ManagerPool.step hexDecode) Runs.anyStep Fresh p)
    (few : p.shared.macAddresses.length ≤ 2 ^ 24) {g g' : Nat} {n n' : NativeDevice}
    {a a' : MacAddress} (hn : p.shared.natives[g]? = some n) (hn' : p.shared.natives[g']? = some n')
    (ha : n.macAddress = some a) (ha' : n'.macAddress = some a')
    (same : pairingInfo a = pairingInfo a') : g = g' := by
  obtain rfl := pairingInfo_injective same
  obtain ⟨counting, drawn⟩ := macs_of_reach h
  have once : p.shared.given.count (some a) ≤ 1 := by
    have all := drawn a
    rw [Pool.total] at all
    have nodup := List.nodup_iff_count_le_one.mp (counting.nodup few) a
    omega
  by_contra ne
  have given : ∀ {k : Nat} {m : NativeDevice}, p.shared.natives[k]? = some m →
      m.macAddress = some a → p.shared.given[k]? = some (some a) := by
    intro k m hk hm
    rw [ManagerState.given, List.getElem?_map, hk, Option.map_some, hm]
  have places : ∀ {i j : Nat}, p.shared.given[i]? = some (some a) →
      p.shared.given[j]? = some (some a) → ¬i < j := by
    intro i j hi hj lt
    obtain ⟨li, ei⟩ := List.getElem?_eq_some_iff.mp hi
    obtain ⟨lj, ej⟩ := List.getElem?_eq_some_iff.mp hj
    have twice : p.shared.given.Duplicate (some a) :=
      List.duplicate_iff_exists_distinct_get.mpr ⟨⟨i, li⟩, ⟨j, lj⟩, lt, ei.symm, ej.symm⟩
    have two := (List.duplicate_iff_sublist.mp twice).count_le (some a)
    rw [List.count_cons_self, List.count_cons_self] at two
    omega
  rcases Nat.lt_or_gt_of_ne ne with lt | lt
  · exact places (given hn ha) (given hn' ha') lt
  · exact places (given hn' ha') (given hn ha) lt

/-- Of two gamepads that are created at once. -/
theorem pairingInfo_apart_two : ∃ p, Runs.Reach (ManagerPool.step hexOfFive) Runs.anyStep Fresh p ∧
    ∃ n n' a a', p.shared.natives = [n, n'] ∧ n.macAddress = some a ∧ n'.macAddress = some a' ∧
      pairingInfo a ≠ pairingInfo a' := by
  have reached : ∃ p, Runs.Reach (ManagerPool.step hexOfFive) Runs.anyStep Fresh p ∧
      p.shared.macAddresses.length ≤ 2 ^ 24 ∧
      p.shared.natives.map NativeDevice.macAddress = [some (macOf 0xC0FFEE), some (macOf 0xC0FFEF)] :=
    Runs.exists_reach_of_run _ _ ⟨true, rfl⟩
      [.arrives (.createPs4 none), .arrives (.createPs5 none), .run 0 (answer 0),
        .run 1 (answer 0), .run 0 (answer 0), .run 1 (answer 0)] (by decide)
  obtain ⟨p, reach, few, both⟩ := reached
  obtain ⟨n, rest, hn, ha, others⟩ := List.map_eq_cons_iff.mp both
  obtain ⟨n', none, hn', ha', left⟩ := List.map_eq_cons_iff.mp others
  obtain rfl := List.map_eq_nil_iff.mp left
  obtain rfl := hn'
  refine ⟨p, reach, n, n', _, _, hn, ha, ha', fun same => ?_⟩
  have first : p.shared.natives[0]? = some n := by rw [hn]; rfl
  have second : p.shared.natives[1]? = some n' := by rw [hn]; rfl
  cases pairingInfo_apart reach few first second ha ha' same

end WinUHid
