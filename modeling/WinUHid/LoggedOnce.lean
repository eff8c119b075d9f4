import WinUHid.EventSocket
import Mathlib.Data.List.Count

namespace WinUHid.Frontend

variable {Id : Type} {s s' : Frontend Id}

/-- The sockets after a change of one of them: the others are as they were, and it keeps its id. -/
theorem setPhase_cases {k j : Nat} {phase : SocketPhase} {w : EventSocket Id}
    (h : (s.setPhase k phase).sockets[j]? = some w) :
    ∃ w', s.sockets[j]? = some w' ∧ w.id = w'.id ∧
      (j = k → w.phase = phase) ∧ (j ≠ k → w = w') := by
  simp only [setPhase, List.getElem?_modify] at h
  by_cases hj : k = j
  · subst hj
    obtain ⟨w', hw', rfl⟩ := Option.map_eq_some_iff.mp h
    exact ⟨w', hw', by simp, by simp, by simp⟩
  · obtain ⟨w', hw', rfl⟩ := Option.map_eq_some_iff.mp h
    exact ⟨w', hw', by simp [hj], by omega, by simp [hj]⟩

/-- Nothing is live but `state.ws`, and that is the active device's. -/
structure OneLive (s : Frontend Id) : Prop where
  live : ∀ (k : Nat) (w : EventSocket Id), s.sockets[k]? = some w → w.phase = .live → s.ws = some k
  own : ∀ k w, s.ws = some k → s.sockets[k]? = some w → s.activeId = some w.id

def NoneLive (s : Frontend Id) : Prop :=
  ∀ (k : Nat) (w : EventSocket Id), s.sockets[k]? = some w → w.phase ≠ .live

theorem NoneLive.oneLive (h : s.NoneLive) (hs : s'.sockets = s.sockets) (hws : s'.ws = none) :
    s'.OneLive := by
  refine ⟨fun k w hw hl => absurd hl (h k w (hs ▸ hw)), fun k w hk _ => ?_⟩
  rw [hws] at hk
  cases hk

theorem OneLive.setPhase (h : s.OneLive) (k : Nat) {phase : SocketPhase} (hp : phase ≠ .live) :
    (s.setPhase k phase).OneLive := by
  constructor
  · intro j w hw hl
    obtain ⟨w', hw', -, changed, same⟩ := setPhase_cases hw
    by_cases hj : j = k
    · exact absurd ((changed hj).symm.trans hl) hp
    · exact h.live j w' hw' (same hj ▸ hl)
  · intro j w hws hw
    obtain ⟨w', hw', hid, -, -⟩ := setPhase_cases hw
    rw [hid]
    exact h.own j w' hws hw'

@[simp] theorem closeWs_ws (s : Frontend Id) : s.closeWs.ws = none := by
  unfold closeWs
  cases hws : s.ws with
  | none => exact hws
  | some k => rfl

theorem closeWs_noneLive
    (h : ∀ (k : Nat) (w : EventSocket Id), s.sockets[k]? = some w → w.phase = .live →
      s.ws = some k) :
    s.closeWs.NoneLive := by
  intro j w hw hl
  unfold closeWs at hw
  cases hws : s.ws with
  | none =>
    rw [hws] at hw
    have := h j w hw hl
    simp [hws] at this
  | some k =>
    rw [hws] at hw
    dsimp only at hw
    split at hw
    next =>
      obtain ⟨w', hw', -, changed, same⟩ := setPhase_cases hw
      by_cases hj : j = k
      · have := changed hj
        simp [hl] at this
      · have := h j w' hw' (same hj ▸ hl)
        rw [hws, Option.some.injEq] at this
        exact hj this.symm
    next hk =>
      have := h j w hw hl
      rw [hws, Option.some.injEq] at this
      subst this
      exact hk (by simp [phaseOf, hw, hl])

theorem OneLive.forget {k : Nat} (h : s.OneLive) (hk : s.phaseOf k ≠ some .live) :
    (s.forget k).OneLive := by
  unfold Frontend.forget
  split
  next hws =>
    refine ⟨fun j w hw hl => ?_, nofun⟩
    have := h.live j w hw hl
    rw [hws, Option.some.injEq] at this
    subst this
    exact absurd (by simp [phaseOf, hw, hl]) hk
  next => exact h

variable [DecidableEq Id]

theorem OneLive.scheduleReconnect (h : s.OneLive) (id : Id) : (s.scheduleReconnect id).OneLive := by
  unfold Frontend.scheduleReconnect
  dsimp only
  split
  · exact ⟨h.live, h.own⟩
  · exact ⟨h.live, h.own⟩

/-- What a new socket beside no live one leaves. -/
theorem OneLive.openSocket (h : s.OneLive) (hn : s.NoneLive) (id : Id) (constructed : Bool) :
    (s.openSocket id constructed).OneLive := by
  unfold Frontend.openSocket
  split
  · exact h
  next ha =>
    split
    · exact h.scheduleReconnect id
    · have active : s.activeId = some id := by simpa using ha
      constructor
      · intro k w hw hl
        rcases List.getElem?_concat_eq_some_iff.mp hw with old | ⟨rfl, -⟩
        · exact absurd hl (hn k w old)
        · rfl
      · intro k w hws hw
        cases hws
        rcases List.getElem?_concat_eq_some_iff.mp hw with old | ⟨-, rfl⟩
        · exact absurd (List.getElem?_eq_some_iff.mp old).1 (by omega)
        · exact active

theorem OneLive.selectDevice (h : s.OneLive) (id : Id) (constructed : Bool) :
    (s.selectDevice id constructed).OneLive := by
  have none := closeWs_noneLive (s := cancelReconnect { s with activeId := some id }) h.live
  have left : OneLive { closeWs (cancelReconnect { s with activeId := some id }) with
      wsBackoffMs := 1000, wsStatus := .reconnecting } := none.oneLive rfl (closeWs_ws _)
  exact left.openSocket none id constructed

theorem OneLive.leaveDestroyed (h : s.OneLive) : s.leaveDestroyed.OneLive := by
  unfold Frontend.leaveDestroyed
  split
  · exact (closeWs_noneLive (s := s.cancelReconnect) h.live).oneLive rfl (closeWs_ws _)
  · exact h

theorem OneLive.refreshDevices (h : s.OneLive) (list : List Id) (saved : Option Id)
    (constructed : Bool) : (s.refreshDevices list saved constructed).OneLive := by
  have left : (Frontend.leaveDestroyed { s with devices := list }).OneLive :=
    OneLive.leaveDestroyed ⟨h.live, h.own⟩
  unfold Frontend.refreshDevices
  dsimp only
  split
  · split
    · exact left.selectDevice _ constructed
    · exact left
  · exact left

theorem OneLive.destroyed (h : s.OneLive) (id : Id) : (s.destroyed id).OneLive := by
  unfold Frontend.destroyed
  split
  · exact (closeWs_noneLive (s := cancelReconnect { s with activeId := none }) h.live).oneLive rfl
      (closeWs_ws _)
  · exact h

theorem OneLive.closeHandler {k : Nat} {id : Id} (h : s.OneLive)
    (hk : s.phaseOf k ≠ some .live) : (s.closeHandler k id).OneLive := by
  have forgotten := h.forget hk
  unfold Frontend.closeHandler
  dsimp only
  split
  · exact forgotten
  · split
    · exact ⟨forgotten.live, forgotten.own⟩
    · exact OneLive.scheduleReconnect (s := { s.forget k with wsStatus := .reconnecting })
        ⟨forgotten.live, forgotten.own⟩ id

/-- A timer that meets no live `state.ws` keeps the invariant. -/
theorem OneLive.timerHandler {id : Id} {constructed : Bool} (h : s.OneLive)
    (ht : s.wsTimer = some id) (alone : s.ReconnectsAlone (.timerFires constructed)) :
    (s.timerHandler id constructed).OneLive := by
  have cleared : OneLive { s with wsTimer := none } := ⟨h.live, h.own⟩
  unfold Frontend.timerHandler
  dsimp only
  split
  · exact cleared
  next ha =>
    have active : s.activeId = some id := by simpa using ha
    cases constructed with
    | false =>
      have failed : Frontend.openSocket { s with wsTimer := none } id false =
          Frontend.scheduleReconnect { s with wsTimer := none } id := by
        simp [Frontend.openSocket, active]
      rw [failed]
      exact cleared.scheduleReconnect id
    | true =>
      refine cleared.openSocket (fun k w hw hl => ?_) id true
      have inUse := h.live k w hw hl
      exact alone (ht.trans active.symm) k inUse (by simp [phaseOf, hw, hl])

theorem OneLive.next {a : FrontendEvent Id} (h : s.OneLive) (hs : step s a = some s')
    (alone : s.ReconnectsAlone a) : s'.OneLive := by
  cases a with
  | selectDevice id constructed =>
    cases hs
    exact h.selectDevice id constructed
  | refreshDevices list saved constructed =>
    cases hs
    exact h.refreshDevices list saved constructed
  | created id constructed =>
    cases hs
    exact h.selectDevice id constructed
  | destroyed id =>
    cases hs
    exact h.destroyed id
  | opened k =>
    simp only [Frontend.step] at hs
    split at hs
    · cases hs
    · split at hs
      · cases hs
        exact h
      · cases hs
        exact ⟨h.live, h.own⟩
  | dropped k =>
    simp only [Frontend.step] at hs
    split at hs
    · cases hs
    · cases hs
      exact h.setPhase k (by decide)
  | closeEvent k =>
    simp only [Frontend.step] at hs
    split at hs
    next id hk =>
      cases hs
      refine (h.setPhase k (by decide)).closeHandler fun hl => ?_
      obtain ⟨w, hw, hp⟩ := Option.map_eq_some_iff.mp hl
      obtain ⟨-, -, -, changed, -⟩ := setPhase_cases hw
      have := (changed rfl).symm.trans hp
      cases this
    next => cases hs
  | timerFires constructed =>
    obtain ⟨id, ht, rfl⟩ := Option.map_eq_some_iff.mp hs
    exact h.timerHandler ht alone

theorem countP_le_one {α : Type} {p : α → Bool} {l : List α} {o : Option Nat}
    (h : ∀ k a, l[k]? = some a → p a = true → o = some k) : l.countP p ≤ 1 := by
  induction l generalizing o with
  | nil => simp
  | cons a l ih =>
    by_cases ha : p a = true
    · rw [List.countP_cons_of_pos ha]
      have first : o = some 0 := h 0 a rfl ha
      have rest : l.countP p = 0 := by
        refine List.countP_eq_zero.mpr fun b hb hp => ?_
        obtain ⟨k, hk⟩ := List.mem_iff_getElem?.mp hb
        have := h (k + 1) b (by simpa using hk) hp
        simp [first] at this
      omega
    · rw [List.countP_cons_of_neg ha]
      refine ih (o := o.map (· - 1)) fun k b hb hp => ?_
      rw [h (k + 1) b (by simpa using hb) hp]
      rfl

theorem OneLive.logsOnce (h : s.OneLive) : s.LogsOnce := by
  constructor
  · rintro k ⟨w, hw, hl, -⟩
    exact h.live k w hw hl
  · intro id
    refine countP_le_one (o := s.ws) fun k w hw hp => ?_
    exact h.live k w hw (of_decide_eq_true hp).1

/-- A timer that opens a second socket beside `state.ws` has both feed the log. -/
theorem OneLive.not_logsOnce {a : FrontendEvent Id} (h : s.OneLive) (hs : step s a = some s')
    (beside : ¬s.ReconnectsAlone a) : ¬s'.LogsOnce := by
  unfold ReconnectsAlone at beside
  split at beside
  next =>
    push Not at beside
    obtain ⟨active, k, hws, hk⟩ := beside
    obtain ⟨id, ht, rfl⟩ := Option.map_eq_some_iff.mp hs
    obtain ⟨w, hw, hl⟩ := Option.map_eq_some_iff.mp hk
    have activeId : s.activeId = some id := active.symm.trans ht
    have inside : k < s.sockets.length := (List.getElem?_eq_some_iff.mp hw).1
    have opened : s.timerHandler id true =
        { s with wsTimer := none, ws := some s.sockets.length
                 sockets := s.sockets ++ [⟨id, .live⟩] } := by
      simp [Frontend.timerHandler, Frontend.openSocket, activeId]
    rw [opened]
    rintro ⟨only, -⟩
    have feeds := only k ⟨w, by simp [List.getElem?_append_left inside, hw], hl, h.own k w hws hw⟩
    simp only [Option.some.injEq] at feeds
    omega
  next => exact absurd trivial beside

/-- Every event of the active device is logged once, by `state.ws`, all along a run exactly when no
timer of the run opens a socket beside a live one. -/
theorem logsOnce_iff {events : List (FrontendEvent Id)}
    (h : Runs.exec step initial events = some s) :
    (∀ events', events' <+: events → ∀ t, Runs.exec step initial events' = some t → t.LogsOnce) ↔
      Runs.Admitted step ReconnectsAlone initial events :=
  Runs.forall_prefix_iff_admitted (I := OneLive) (fun _ hi => hi.logsOnce)
    (fun _ _ _ hi hs ha => hi.next hs ha) (fun _ _ _ hi hs hb => hi.not_logsOnce hs hb)
    ⟨nofun, nofun⟩ h

/-- A device is selected, its connection ends, and the timer connects it again. -/
def reconnect : List (FrontendEvent Nat) :=
  [.refreshDevices [7] none true, .opened 0, .dropped 0, .closeEvent 0, .timerFires true, .opened 1]

theorem logsOnce_reconnect :
    ∃ s, Runs.exec step initial reconnect = some s ∧ s.ws = some 1 ∧ s.LogsOnce := by
  obtain ⟨s, hs, hws⟩ : ∃ s, Runs.exec step initial reconnect = some s ∧ s.ws = some 1 :=
    ⟨_, rfl, rfl⟩
  exact ⟨s, hs, hws, (logsOnce_iff hs).mpr (by decide) reconnect (List.prefix_refl _) s hs⟩

/-- The selected device is selected again, and the close event of its first socket comes late. -/
def selectAgain : List (FrontendEvent Nat) :=
  [.refreshDevices [7] none true, .opened 0, .selectDevice 7 true, .opened 1, .closeEvent 0,
    .timerFires true]

theorem selectAgain_loggedTwice :
    (∃ s, Runs.exec step initial selectAgain = some s ∧ s.timesLogged 7 = 2) ∧
    ¬∀ (events : List (FrontendEvent Nat)) s,
      Runs.exec step initial events = some s → s.LogsOnce := by
  have twice : ∃ s, Runs.exec step initial selectAgain = some s ∧ s.timesLogged 7 = 2 :=
    ⟨_, rfl, by decide⟩
  refine ⟨twice, fun all => ?_⟩
  obtain ⟨s, hs, h2⟩ := twice
  have := (all _ s hs).2 7
  omega

end WinUHid.Frontend
