import WinUHid.GenericInputs
import Mathlib.Data.List.Induction

namespace WinUHid

open GenericDevice

/-- The cache answers with the last report accepted, and for a report id with the last one that
begins with it. -/
def CacheFresh (d : GenericDevice) : Prop :=
  d.cache.pickReadSnapshot ⟨.readReport, 0, [], 0⟩ = d.accepted.getLast? ∧
  ∀ report, ∀ ev : ParsedEvent, ev.reportId ≠ 0 →
    (d.accepted.filter fun r => cacheKey r == ev.reportId).getLast? = some report →
    d.cache.pickReadSnapshot ev = some report

/-- A cache entry is replaced only by a report that was accepted after the one it comes from. -/
def InOrder (p : Requests) : GenericDevice.Action → Prop
  | .arrives _ => True
  | .call i _ =>
    match p.threads[i]? with
    | some (.insert index report) => ∀ j ∈ p.shared.insertedFrom (cacheKey report), j < index
    | some (.storeId index _) => ∀ j ∈ p.shared.storedFrom, j < index
    | _ => True

instance (p : Requests) (a : GenericDevice.Action) : Decidable (InOrder p a) := by
  unfold InOrder
  split
  · infer_instance
  · split <;> infer_instance

/-- Where the entries of the cache come from. -/
structure CacheSourced (d : GenericDevice) : Prop where
  inserted : ∀ id, d.cache.currentInputs id = (d.insertedFrom id).bind (d.accepted[·]?)
  stored : d.cache.lastReportId = (d.storedFrom.bind (d.accepted[·]?)).map cacheKey
  insertedKey : ∀ id, ∀ j ∈ d.insertedFrom id, ∃ r, d.accepted[j]? = some r ∧ cacheKey r = id
  storedBound : ∀ j ∈ d.storedFrom, j < d.accepted.length

/-- Every accepted report has got into the cache, or has been overtaken there by a later one, or
has a request that will put it there. -/
structure CacheOrdered (p : Requests) : Prop where
  sourced : CacheSourced p.shared
  pending : ∀ k r, .insert k r ∈ p.threads ∨ .storeId k r ∈ p.threads →
    p.shared.accepted[k]? = some r
  noneMissing : ∀ k r, p.shared.accepted[k]? = some r → .insert k r ∈ p.threads ∨
    ∃ j ∈ p.shared.insertedFrom (cacheKey r), k ≤ j
  noneUnstored : ∀ k r, p.shared.accepted[k]? = some r → .insert k r ∈ p.threads ∨
    .storeId k r ∈ p.threads ∨ ∃ j ∈ p.shared.storedFrom, k ≤ j

namespace CacheSourced

variable {d : GenericDevice}

theorem accepts (h : CacheSourced d) (report : List UInt8) :
    CacheSourced { d with accepted := d.accepted ++ [report] } := by
  have old : ∀ j, j < d.accepted.length → (d.accepted ++ [report])[j]? = d.accepted[j]? :=
    fun j hj => List.getElem?_append_left hj
  have bound : ∀ id, ∀ j ∈ d.insertedFrom id, j < d.accepted.length := by
    intro id j hj
    obtain ⟨r, hr, -⟩ := h.insertedKey id j hj
    exact (List.getElem?_eq_some_iff.mp hr).1
  refine ⟨fun id => ?_, ?_, fun id j hj => ?_, fun j hj => ?_⟩
  · show d.cache.currentInputs id = (d.insertedFrom id).bind ((d.accepted ++ [report])[·]?)
    rw [h.inserted id]
    exact Option.bind_congr fun j hj => (old j (bound id j hj)).symm
  · show d.cache.lastReportId = (d.storedFrom.bind ((d.accepted ++ [report])[·]?)).map cacheKey
    rw [h.stored]
    exact congrArg _ (Option.bind_congr fun j hj => (old j (h.storedBound j hj)).symm)
  · obtain ⟨r, hr, hk⟩ := h.insertedKey id j hj
    exact ⟨r, (old j (bound id j hj)).trans hr, hk⟩
  · have := h.storedBound j hj
    simp only [List.length_append, List.length_singleton]
    omega

theorem inserts (h : CacheSourced d) {k : Nat} {r : List UInt8} (hr : d.accepted[k]? = some r) :
    CacheSourced { d with
      cache := d.cache.insert (cacheKey r) r
      insertedFrom := Function.update d.insertedFrom (cacheKey r) (some k) } := by
  refine ⟨fun id => ?_, h.stored, fun id j hj => ?_, h.storedBound⟩
  · by_cases he : id = cacheKey r
    · simp [GenericCache.insert, he, hr]
    · simpa [GenericCache.insert, he] using h.inserted id
  · by_cases he : id = cacheKey r
    · subst he
      obtain rfl : k = j := by simpa using hj
      exact ⟨r, hr, rfl⟩
    · exact h.insertedKey id j (by simpa [he] using hj)

theorem stores (h : CacheSourced d) {k : Nat} {r : List UInt8} (hr : d.accepted[k]? = some r) :
    CacheSourced { d with
      cache := { d.cache with lastReportId := some (cacheKey r) }
      storedFrom := some k } := by
  refine ⟨h.inserted, by simp [hr], h.insertedKey, fun j hj => ?_⟩
  obtain rfl : k = j := by simpa using hj
  exact (List.getElem?_eq_some_iff.mp hr).1

end CacheSourced

section Steps

variable {p p' : Requests} {a : GenericDevice.Action}

theorem exists_last_of_filter {α : Type} {l : List α} {q : α → Bool} {x : α}
    (h : (l.filter q).getLast? = some x) :
    ∃ k : Nat, l[k]? = some x ∧ q x ∧ ∀ j y, k < j → l[j]? = some y → q y = false := by
  induction l using List.reverseRecOn with
  | nil => simp at h
  | append_singleton l a ih =>
    cases ha : q a with
    | true =>
      have hx : x = a := by simpa [ha] using h.symm
      subst hx
      refine ⟨l.length, by simp, ha, fun j y hj hy => ?_⟩
      rcases List.getElem?_concat_eq_some_iff.mp hy with hy | ⟨rfl, -⟩
      · exact absurd (List.getElem?_eq_some_iff.mp hy).1 (by omega)
      · omega
    | false =>
      obtain ⟨k, hk, hq, last⟩ := ih (by simpa [ha] using h)
      refine ⟨k, List.getElem?_concat_eq_some_iff.mpr (.inl hk), hq, fun j y hj hy => ?_⟩
      rcases List.getElem?_concat_eq_some_iff.mp hy with hy | ⟨-, rfl⟩
      · exact last j y hj hy
      · exact ha

/-- A step that touches neither the device nor the requests with an accepted report. -/
theorem CacheOrdered.frame (h : CacheOrdered p) (shared : p'.shared = p.shared)
    (threads : ∀ t, (∀ report, t ≠ .submit report) → (t ∈ p'.threads ↔ t ∈ p.threads)) :
    CacheOrdered p' := by
  have insert := fun k r => threads (.insert k r) nofun
  have storeId := fun k r => threads (.storeId k r) nofun
  obtain ⟨sourced, pending, noneMissing, noneUnstored⟩ := h
  constructor <;> simp only [shared, insert, storeId] <;> assumption

/-- What a request carries after a step has been accepted before it, or is what the step gave it. -/
theorem CacheOrdered.carried (h : CacheOrdered p) {t : GenericInputProc}
    {l ts r : List GenericInputProc} (before : p.threads = l ++ t :: r)
    (after : p'.threads = l ++ ts ++ r) {k : Nat} {report : List UInt8}
    (hk : .insert k report ∈ p'.threads ∨ .storeId k report ∈ p'.threads) :
    (.insert k report ∈ ts ∨ .storeId k report ∈ ts) ∨ p.shared.accepted[k]? = some report := by
  have old : ∀ u ∈ p'.threads, u ∈ ts ∨ u ∈ p.threads := by
    intro u hu
    rw [after] at hu
    rw [before]
    exact Pool.mem_of_replace t hu
  rcases hk with hk | hk
  · exact (old _ hk).imp .inl fun hk => h.pending k report (.inl hk)
  · exact (old _ hk).imp .inr fun hk => h.pending k report (.inr hk)

theorem CacheOrdered.accepts (h : CacheOrdered p) {report : List UInt8}
    {l r : List GenericInputProc} (before : p.threads = l ++ .submit report :: r)
    (shared : p'.shared = { p.shared with accepted := p.shared.accepted ++ [report] })
    (threads : p'.threads = l ++ [.insert p.shared.accepted.length report] ++ r) :
    CacheOrdered p' := by
  have kept : ∀ t ∈ p.threads, t ≠ .submit report → t ∈ p'.threads :=
    fun _ => Pool.mem_of_replaced before threads
  have inserts : .insert p.shared.accepted.length report ∈ p'.threads := by simp [threads]
  refine ⟨by rw [shared]; exact h.sourced.accepts report, fun k r' hk => ?_, fun k r' hk => ?_,
    fun k r' hk => ?_⟩
  · rw [shared]
    refine List.getElem?_concat_eq_some_iff.mpr ?_
    rcases h.carried before threads hk with new | old
    · exact .inr (by simpa using new)
    · exact .inl old
  · rw [shared] at hk ⊢
    rcases List.getElem?_concat_eq_some_iff.mp hk with hk | ⟨rfl, rfl⟩
    · exact (h.noneMissing k r' hk).imp_left fun hi => kept _ hi nofun
    · exact .inl inserts
  · rw [shared] at hk ⊢
    rcases List.getElem?_concat_eq_some_iff.mp hk with hk | ⟨rfl, rfl⟩
    · obtain hi | hi | hj := h.noneUnstored k r' hk
      · exact .inl (kept _ hi nofun)
      · exact .inr (.inl (kept _ hi nofun))
      · exact .inr (.inr hj)
    · exact .inl inserts

theorem CacheOrdered.inserts (h : CacheOrdered p) {index : Nat} {report : List UInt8}
    {l r : List GenericInputProc} (before : p.threads = l ++ .insert index report :: r)
    (later : ∀ j ∈ p.shared.insertedFrom (cacheKey report), j < index)
    (shared : p'.shared = { p.shared with
      cache := p.shared.cache.insert (cacheKey report) report
      insertedFrom := Function.update p.shared.insertedFrom (cacheKey report) (some index) })
    (threads : p'.threads = l ++ [.storeId index report] ++ r) : CacheOrdered p' := by
  have hr : p.shared.accepted[index]? = some report := h.pending _ _ (.inl (by simp [before]))
  have kept : ∀ t ∈ p.threads, t ≠ .insert index report → t ∈ p'.threads :=
    fun _ => Pool.mem_of_replaced before threads
  have stores : .storeId index report ∈ p'.threads := by simp [threads]
  refine ⟨by rw [shared]; exact h.sourced.inserts hr, fun k r' hk => ?_, fun k r' hk => ?_,
    fun k r' hk => ?_⟩
  · rw [shared]
    rcases h.carried before threads hk with new | old
    · obtain ⟨rfl, rfl⟩ : k = index ∧ r' = report := by simpa using new
      exact hr
    · exact old
  · rw [shared] at hk ⊢
    obtain hi | ⟨j, hj, hle⟩ := h.noneMissing k r' hk
    · by_cases he : GenericInputProc.insert k r' = .insert index report
      · obtain ⟨rfl, rfl⟩ : k = index ∧ r' = report := by simpa using he
        exact .inr ⟨k, by simp, Nat.le_refl k⟩
      · exact .inl (kept _ hi he)
    · by_cases he : cacheKey r' = cacheKey report
      · have := later j (he ▸ hj)
        exact .inr ⟨index, by simp [he], by omega⟩
      · exact .inr ⟨j, by simpa [he] using hj, hle⟩
  · rw [shared] at hk ⊢
    obtain hi | hi | hj := h.noneUnstored k r' hk
    · by_cases he : GenericInputProc.insert k r' = .insert index report
      · obtain ⟨rfl, rfl⟩ : k = index ∧ r' = report := by simpa using he
        exact .inr (.inl stores)
      · exact .inl (kept _ hi he)
    · exact .inr (.inl (kept _ hi nofun))
    · exact .inr (.inr hj)

theorem CacheOrdered.stores (h : CacheOrdered p) {index : Nat} {report : List UInt8}
    {l r : List GenericInputProc} (before : p.threads = l ++ .storeId index report :: r)
    (later : ∀ j ∈ p.shared.storedFrom, j < index)
    (shared : p'.shared = { p.shared with
      cache := { p.shared.cache with lastReportId := some (cacheKey report) }
      storedFrom := some index })
    (threads : p'.threads = l ++ [] ++ r) : CacheOrdered p' := by
  have hr : p.shared.accepted[index]? = some report := h.pending _ _ (.inr (by simp [before]))
  have kept : ∀ t ∈ p.threads, t ≠ .storeId index report → t ∈ p'.threads :=
    fun _ => Pool.mem_of_replaced before threads
  refine ⟨by rw [shared]; exact h.sourced.stores hr, fun k r' hk => ?_, fun k r' hk => ?_,
    fun k r' hk => ?_⟩
  · rw [shared]
    exact (h.carried before threads hk).resolve_left (by simp)
  · rw [shared] at hk ⊢
    exact (h.noneMissing k r' hk).imp_left fun hi => kept _ hi nofun
  · rw [shared] at hk ⊢
    obtain hi | hi | ⟨j, hj, hle⟩ := h.noneUnstored k r' hk
    · exact .inl (kept _ hi nofun)
    · by_cases he : GenericInputProc.storeId k r' = .storeId index report
      · obtain ⟨rfl, rfl⟩ : k = index ∧ r' = report := by simpa using he
        exact .inr (.inr ⟨k, rfl, Nat.le_refl k⟩)
      · exact .inr (.inl (kept _ hi he))
    · have := later j hj
      exact .inr (.inr ⟨index, rfl, by omega⟩)

theorem CacheOrdered.next (h : CacheOrdered p) (hs : GenericDevice.step p a = some p')
    (ho : InOrder p a) : CacheOrdered p' := by
  cases GenericDevice.step_cases hs with
  | arrives shared threads => exact h.frame shared fun t ht => by simp [threads, ht]
  | refused before shared threads => exact h.frame shared fun t ht => by simp [threads, before, ht]
  | accepted _ before shared threads => exact h.accepts before shared threads
  | inserts at_i before shared threads =>
    exact h.inserts before (by simpa [InOrder, at_i] using ho) shared threads
  | stores at_i before shared threads =>
    exact h.stores before (by simpa [InOrder, at_i] using ho) shared threads

section Returned

variable (h : CacheOrdered p) (done : p.threads = [])

include h done

/-- A report without a later one with its key is what the cache has under the key. -/
theorem CacheOrdered.newest {k : Nat} {r : List UInt8} (hk : p.shared.accepted[k]? = some r)
    (last : ∀ (j : Nat) r', k < j → p.shared.accepted[j]? = some r' → cacheKey r' ≠ cacheKey r) :
    p.shared.cache.currentInputs (cacheKey r) = some r := by
  obtain ⟨j, hj, hle⟩ := (h.noneMissing k r hk).resolve_left (by simp [done])
  obtain ⟨r', hr', key⟩ := h.sourced.insertedKey _ j hj
  obtain rfl : k = j := by
    by_contra hne
    exact last j r' (by omega) hr' key
  rw [h.sourced.inserted, Option.mem_def.mp hj]
  exact hk

theorem CacheOrdered.lastReportId_eq :
    p.shared.cache.lastReportId = p.shared.accepted.getLast?.map cacheKey := by
  rw [h.sourced.stored]
  cases hl : p.shared.accepted.getLast? with
  | none =>
    have empty : p.shared.accepted = [] := by simpa using hl
    simp [empty]
  | some r =>
    have at_last : p.shared.accepted[p.shared.accepted.length - 1]? = some r := by
      rw [← hl, List.getLast?_eq_getElem?]
    have returned := (h.noneUnstored _ r at_last).resolve_left (by simp [done])
    obtain ⟨j, hj, hle⟩ := returned.resolve_left (by simp [done])
    have bound := h.sourced.storedBound j hj
    rw [Option.mem_def.mp hj, Option.bind_some, show j = p.shared.accepted.length - 1 by omega,
      at_last]

/-- Once all requests have returned, what was accepted last is what the cache has. -/
theorem CacheOrdered.cacheFresh : CacheFresh p.shared := by
  refine ⟨?_, fun report ev hid hlast => ?_⟩
  · have lastId := h.lastReportId_eq done
    cases hl : p.shared.accepted.getLast? with
    | none => simp [GenericCache.pickReadSnapshot, lastId, hl]
    | some r =>
      have at_last : p.shared.accepted[p.shared.accepted.length - 1]? = some r := by
        rw [← hl, List.getLast?_eq_getElem?]
      have found := h.newest done at_last fun j r' hj hr' => by
        have := (List.getElem?_eq_some_iff.mp hr').1
        omega
      simp [GenericCache.pickReadSnapshot, lastId, hl, found]
  · obtain ⟨k, hk, key, last⟩ := exists_last_of_filter hlast
    have same : cacheKey report = ev.reportId := by simpa using key
    have found := h.newest done hk fun j r' hj hr' he => by
      have := last j r' hj hr'
      simp [he, same] at this
    rw [same] at found
    simp [GenericCache.pickReadSnapshot, hid, found]

end Returned

end Steps

/-- In a run of requests, in any order, whose updates of the cache come in the order in which the
SDK accepted the reports, the cache is fresh once all requests have returned. -/
theorem genericCache_fresh {p : Requests}
    (h : Runs.Reach GenericDevice.step InOrder GenericDevice.Fresh p) (done : p.threads = []) :
    CacheFresh p.shared := by
  have ordered : CacheOrdered p := by
    clear done
    induction h with
    | start hi =>
      cases hi
      refine ⟨⟨fun _ => rfl, rfl, nofun, nofun⟩, nofun, nofun, nofun⟩
    | next _ hg hs ih => exact ih.next hs hg
  exact ordered.cacheFresh done

/-- A button is pressed and released by one client, one request after the other. -/
def pressThenRelease : List GenericDevice.Action := [
  .arrives [1, 5], .call 0 true, .call 0 true, .call 0 true,
  .arrives [1, 0], .call 0 true, .call 0 true, .call 0 true]

def anyInputReport : ParsedEvent := ⟨.readReport, 0, [], 0⟩

theorem genericCache_fresh_released :
    ∃ p : Requests, p.shared.cache.pickReadSnapshot anyInputReport = some [1, 0] := by
  have reached : ∃ p, Runs.Reach GenericDevice.step InOrder GenericDevice.Fresh p ∧
      p.threads = [] ∧ p.shared.accepted.getLast? = some [1, 0] :=
    Runs.exists_reach_of_run GenericDevice.step InOrder (by rfl) pressThenRelease (by decide)
  obtain ⟨p, hr, done, last⟩ := reached
  exact ⟨p, ((genericCache_fresh hr done).1).trans last⟩

/-- Two requests at once: the SDK accepts the press first, its update of the cache comes last. -/
def pressCachedLate : List GenericDevice.Action := [
  .arrives [1, 5], .arrives [1, 0], .call 0 true, .call 1 true,
  .call 1 true, .call 1 true, .call 0 true, .call 0 true]

/-- The button was released, and every read presses it again. -/
theorem genericCache_stale :
    (∃ p, Runs.Reach GenericDevice.step Runs.anyStep GenericDevice.Fresh p ∧ p.threads = [] ∧
      p.shared.accepted.getLast? = some [1, 0] ∧
      p.shared.cache.pickReadSnapshot anyInputReport = some [1, 5]) ∧
    ¬∀ p, Runs.Reach GenericDevice.step Runs.anyStep GenericDevice.Fresh p → p.threads = [] →
      CacheFresh p.shared := by
  have reached : ∃ p, Runs.Reach GenericDevice.step Runs.anyStep GenericDevice.Fresh p ∧
      p.threads = [] ∧ p.shared.accepted.getLast? = some [1, 0] ∧
      p.shared.cache.pickReadSnapshot anyInputReport = some [1, 5] :=
    Runs.exists_reach_of_run GenericDevice.step Runs.anyStep (by rfl) pressCachedLate (by decide)
  refine ⟨reached, fun all => ?_⟩
  obtain ⟨p, hr, done, last, stale⟩ := reached
  have fresh := (all p hr done).1
  rw [last] at fresh
  exact absurd (stale.symm.trans fresh) (by decide)

end WinUHid
