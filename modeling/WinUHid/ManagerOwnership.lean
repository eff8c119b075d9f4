import WinUHid.ManagerMoves

namespace WinUHid

/-- What is created once and given back once. -/
inductive Resource where
  | native (h : Nat)
  | box (ctx : Nat)
  deriving DecidableEq

def ownedBy (h : Nat) (ctx : Option Nat) : List Resource := .native h :: ctx.toList.map .box

def DeviceInner.resources (d : DeviceInner) : List Resource := ownedBy d.handle d.ctxPtr

namespace ManagerProc

def resources : ManagerProc → List Resource
  | createNative c => c.opening.ctx.toList.map .box
  | storeHandle c h _ | start c h | neutralReport c h | insert c h => ownedBy h c.opening.ctx
  | stop h ctx _ => ownedBy h (some ctx)
  | destroy h ctx _ => ownedBy h ctx
  | free ctx _ => [.box ctx]
  | _ => []

/-- The references that a thread will drop. -/
def references : ManagerProc → List Nat
  | submit arc .. | insertReport arc _ | storeLastId arc _ => [arc]
  | release arcs => arcs
  | stop _ _ rest | destroy _ _ rest | free _ rest => rest
  | _ => []

/-- The device that a callback is in progress for. -/
def callbackOf : ManagerProc → List Nat
  | completeEvent h _ | sendEvent h _ => [h]
  | _ => []

end ManagerProc

theorem Device.Drops.resources_eq {d : Device} {rest : List Nat} {t : ManagerProc}
    (h : d.Drops rest t) : t.resources = d.inner.resources := by
  cases h with
  | stop own => rw [ManagerProc.resources, DeviceInner.resources, own]
  | destroy => rfl

namespace ManagerState

def isLive (s : ManagerState) : Resource → Bool
  | .native h => (s.natives[h]?).any fun n => n.status != .destroyed
  | .box ctx => (s.boxes[ctx]?).any fun b => !b.freed

def keptResources (s : ManagerState) (r : Resource) : Nat :=
  Counted.kept (fun d : Device => d.inner.resources.count r) s.arcs

@[simp] theorem isLive_log (s : ManagerState) (call : NativeCall) (r : Resource) :
    (s.log call).isLive r = s.isLive r := by
  cases r <;> rfl

@[simp] theorem tabled_log (s : ManagerState) (call : NativeCall) :
    (s.log call).tabled = s.tabled := rfl

@[simp] theorem keptResources_log (s : ManagerState) (call : NativeCall) (r : Resource) :
    (s.log call).keptResources r = s.keptResources r := rfl

theorem isLive_congr {s s' : ManagerState} (natives : s'.natives = s.natives)
    (boxes : s'.boxes = s.boxes) (r : Resource) : s'.isLive r = s.isLive r := by
  cases r with
  | native h => rw [isLive, isLive, natives]
  | box ctx => rw [isLive, isLive, boxes]

theorem isLive_setStatus {s : ManagerState} {h : Nat} (live : s.isLive (.native h) = true)
    (status : NativeStatus) (r : Resource) :
    (s.setStatus h status).isLive r =
      if r = .native h then status != .destroyed else s.isLive r := by
  cases r with
  | box ctx => rfl
  | native k =>
    simp only [isLive, setStatus, List.getElem?_modify, Resource.native.injEq, eq_comm (a := h)]
    split
    next hk =>
      subst hk
      rw [isLive] at live
      cases hn : s.natives[k]? with
      | none => simp [hn] at live
      | some n => simp
    next => simp

theorem isLive_setStatus_of_live {s : ManagerState} {h : Nat}
    (live : s.isLive (.native h) = true) {status : NativeStatus} (ne : status ≠ .destroyed)
    (r : Resource) : (s.setStatus h status).isLive r = s.isLive r := by
  rw [isLive_setStatus live]
  split
  next hr =>
    subst hr
    simp [live, ne]
  next => rfl

theorem isLive_freeBox {s : ManagerState} {ctx : Nat} (live : s.isLive (.box ctx) = true)
    (r : Resource) :
    (s.freeBox ctx).isLive r = if r = .box ctx then false else s.isLive r := by
  cases r with
  | native h => rfl
  | box k =>
    simp only [isLive, freeBox, List.getElem?_modify, Resource.box.injEq, eq_comm (a := ctx)]
    split
    next hk =>
      subst hk
      rw [isLive] at live
      cases hb : s.boxes[k]? with
      | none => simp [hb] at live
      | some b => simp
    next => simp

@[simp] theorem isLive_setHandle (s : ManagerState) (ctx h : Nat) (r : Resource) :
    (s.setHandle ctx h).isLive r = s.isLive r := by
  cases r with
  | native k => rfl
  | box k =>
    simp only [isLive, setHandle, List.getElem?_modify]
    cases s.boxes[k]? with
    | none => rfl
    | some b => by_cases hk : ctx = k <;> simp [hk]

@[simp] theorem isLive_returnCallback (s : ManagerState) (h : Nat) (r : Resource) :
    (s.returnCallback h).isLive r = s.isLive r := by
  cases r with
  | box k => rfl
  | native k =>
    simp only [isLive, returnCallback, List.getElem?_modify]
    cases s.natives[k]? with
    | none => rfl
    | some b => by_cases hk : h = k <;> simp [hk]

theorem isLive_newNative (s : ManagerState) (c : Creation) (r : Resource) :
    (s.newNative c).isLive r =
      if r = .native s.natives.length then true else s.isLive r := by
  cases r with
  | box k => rfl
  | native k =>
    simp only [isLive, newNative, Resource.native.injEq]
    split
    next hk =>
      subst hk
      simp
    next hk =>
      by_cases hl : k < s.natives.length
      · rw [List.getElem?_append_left hl]
      · rw [List.getElem?_eq_none (l := s.natives ++ _) (by simp; omega),
          List.getElem?_eq_none (l := s.natives) (by omega)]

theorem not_isLive_length (s : ManagerState) :
    s.isLive (.native s.natives.length) = false ∧ s.isLive (.box s.boxes.length) = false := by
  simp [isLive]

theorem Opens.isLive {s s' : ManagerState} {c : Creation} (o : s.Opens c s') (r : Resource) :
    (s'.isLive r).toNat = (s.isLive r).toNat + (c.opening.ctx.toList.map Resource.box).count r := by
  obtain ⟨hc, hb⟩ | ⟨hc, hb⟩ := o.boxes
  · rw [isLive_congr o.natives hb, hc]
    rfl
  · rw [hc]
    cases r with
    | native h => simp [ManagerState.isLive, o.natives]
    | box k =>
      simp only [ManagerState.isLive, hb, Option.toList_some, List.map_cons, List.map_nil,
        List.count_singleton, beq_iff_eq, Resource.box.injEq]
      by_cases hl : k < s.boxes.length
      · rw [List.getElem?_append_left hl, if_neg (by omega)]
        rfl
      · by_cases he : s.boxes.length = k
        · subst he
          simp
        · rw [List.getElem?_eq_none (l := s.boxes ++ _) (by simp; omega),
            List.getElem?_eq_none (l := s.boxes) (by omega), if_neg he]
          rfl

end ManagerState

namespace ManagerMove

variable {o : Outcome} {s s' : ManagerState} {t : ManagerProc} {ts : List ManagerProc}

/-- A step that uses a reference owns it, so that the counts follow the references. -/
theorem references_eq (m : ManagerMove o s t s' ts)
    (counted : ∀ a, s.tabled.count a + t.references.count a ≤ Counted.strongAt s.arcs a) (a : Nat) :
    s'.tabled.count a + (ts.map (·.references.count a)).sum + Counted.strongAt s.arcs a =
      s.tabled.count a + t.references.count a + Counted.strongAt s'.arcs a := by
  have owned : ∀ {arc rest}, t = .release (arc :: rest) →
      ∃ x, s.arcs[arc]? = some x ∧ 0 < x.strong := by
    rintro arc rest rfl
    have := counted arc
    rw [ManagerProc.references, List.count_cons_self] at this
    exact Counted.get_of_strongAt (by omega)
  cases m with
  | quits | ends => rfl
  | opens opened =>
    simp [ManagerState.tabled, opened.devices, opened.arcs, ManagerProc.references]
  | @finds id request arc x t found cell serves =>
    have one : t.references = [arc] := by cases serves <;> rfl
    have before := Counted.strongAt_of_get cell
    show s.tabled.count a + (t.references.count a + 0) + _ =
      s.tabled.count a + 0 + Counted.strongAt (Counted.clone s.arcs arc) a
    rw [one, Counted.clone_eq cell, Counted.strongAt_set cell, List.count_singleton]
    simp only [beq_iff_eq]
    split
    next h =>
      subst h
      omega
    next => omega
  | @removes id arc found =>
    have erased := s.devices.count_erase id a
    rw [found] at erased
    show ((s.devices.erase id).entries.map Sigma.snd).count a + ([arc].count a + 0) + _ =
      (s.devices.entries.map Sigma.snd).count a + 0 + Counted.strongAt s.arcs a
    rw [Option.toList_some] at erased
    omega
  | clears =>
    show 0 + (s.tabled.count a + 0) + _ = s.tabled.count a + 0 + Counted.strongAt s.arcs a
    omega
  | creates next => cases next <;> rfl
  | @refused c => cases c.opening.ctx <;> rfl
  | stores | startFails | caches | cached => rfl
  | starts next | reports next => obtain rfl | rfl := next <;> rfl
  | @inserts c h =>
    have inserted := s.devices.count_insert o.uuid a s.arcs.length
    have beyond : Counted.strongAt s.arcs s.arcs.length = 0 := by simp [Counted.strongAt]
    show ((s.devices.insert o.uuid s.arcs.length).entries.map Sigma.snd).count a +
      (((s.devices.lookup o.uuid).toList ++ [s.arcs.length]).count a + 0) + _ =
      (s.devices.entries.map Sigma.snd).count a + 0 + Counted.strongAt (Counted.alloc ..) a
    rw [Counted.strongAt_alloc, List.count_append]
    split
    next h =>
      subst h
      rw [List.count_singleton_self] at inserted ⊢
      omega
    next h =>
      have other : [s.arcs.length].count a = 0 := by simp [Ne.symm h]
      omega
  | submits next => obtain rfl | ⟨ctx, -, rfl⟩ := next <;> rfl
  | @drops arc rest x cell shared =>
    obtain ⟨y, hy, positive⟩ := owned rfl
    obtain rfl := Option.some.inj (cell.symm.trans hy)
    have before := Counted.strongAt_of_get cell
    show s.tabled.count a + (rest.count a + 0) + _ =
      s.tabled.count a + (arc :: rest).count a + Counted.strongAt (Counted.release s.arcs arc) a
    rw [Counted.release_eq cell, Counted.strongAt_set cell, List.count_cons]
    simp only [beq_iff_eq]
    split
    next h =>
      subst h
      omega
    next => omega
  | @dropsLast arc rest x cell last =>
    have before := Counted.strongAt_of_get cell
    have passed : (x.value.drop s.devsLoaded rest).references = rest := by
      unfold Device.drop
      split <;> first | rfl | (split <;> rfl)
    show s.tabled.count a + ((x.value.drop s.devsLoaded rest).references.count a + 0) + _ =
      s.tabled.count a + (arc :: rest).count a + Counted.strongAt (Counted.release s.arcs arc) a
    rw [passed, Counted.release_eq cell, Counted.strongAt_set cell, List.count_cons]
    simp only [beq_iff_eq]
    split
    next h =>
      subst h
      omega
    next => omega
  | @dangles arc rest cell =>
    obtain ⟨y, hy, -⟩ := owned rfl
    cases cell.symm.trans hy
  | waits =>
    show s.tabled.count a + (t.references.count a + 0) + _ = _
    rw [add_zero]
  | stops | frees | completes | sends => rfl
  | destroys idle next => obtain ⟨-, rfl⟩ | ⟨c, -, rfl⟩ := next <;> rfl

/-- What a thread gives up goes to a device or to the next thread, is given back once, or has been
created by the step. -/
theorem resources_eq (m : ManagerMove o s t s' ts)
    (counted : ∀ a, s.tabled.count a + t.references.count a ≤ Counted.strongAt s.arcs a)
    (owned : ∀ r, s.keptResources r + t.resources.count r ≤ (s.isLive r).toNat)
    (loaded : ∀ (a : Nat) x, s.arcs[a]? = some x →
      x.value.inner.kind = .generic ∨ s.devsLoaded = true) (r : Resource) :
    s'.keptResources r + (ts.map (·.resources.count r)).sum + (s.isLive r).toNat =
      s.keptResources r + t.resources.count r + (s'.isLive r).toNat := by
  have live : ∀ r, r ∈ t.resources → s.isLive r = true := by
    intro r hr
    have one := List.count_pos_iff.mpr hr
    have all := owned r
    cases hl : s.isLive r with
    | true => rfl
    | false =>
      rw [hl, Bool.toNat_false] at all
      omega
  have same : s'.keptResources r = s.keptResources r → s'.isLive r = s.isLive r →
      (ts.map (·.resources.count r)).sum = t.resources.count r →
      s'.keptResources r + (ts.map (·.resources.count r)).sum + (s.isLive r).toNat =
        s.keptResources r + t.resources.count r + (s'.isLive r).toNat := by
    intro hk hl hr
    rw [hk, hl, hr]
  cases m with
  | quits | ends | dangles | removes | clears | caches | cached | completes => rfl
  | waits => exact same rfl rfl (add_zero _)
  | @opens _ c _ opened =>
    rw [opened.isLive r]
    show s'.keptResources r + ((c.opening.ctx.toList.map Resource.box).count r + 0) + _ =
      s.keptResources r + 0 + _
    rw [ManagerState.keptResources, ManagerState.keptResources, opened.arcs]
    omega
  | @finds id request arc x t found cell serves =>
    have none : t.resources = [] := by cases serves <;> rfl
    have held := counted arc
    have tabled : 0 < s.tabled.count arc := by
      have erased := s.devices.count_erase id arc
      rw [found, Option.toList_some, List.count_singleton_self] at erased
      rw [ManagerState.tabled]
      omega
    have before := Counted.strongAt_of_get cell
    have cloned := Counted.kept_set (fun d : Device => d.inner.resources.count r) cell
      (x.strong + 1)
    rw [← Counted.clone_eq cell, if_neg (by omega), if_neg (by omega)] at cloned
    exact same (Nat.add_right_cancel cloned) rfl (by rw [List.map_singleton, none]; rfl)
  | @creates c t next =>
    have keeps : t.resources = ownedBy s.natives.length c.opening.ctx := by cases next <;> rfl
    show s.keptResources r + (t.resources.count r + 0) + _ =
      s.keptResources r + (c.opening.ctx.toList.map Resource.box).count r +
        ((s.newNative c).isLive r).toNat
    rw [keeps, ownedBy, List.count_cons, s.isLive_newNative]
    simp only [beq_iff_eq, eq_comm (a := Resource.native _)]
    split
    next h =>
      subst h
      rw [s.not_isLive_length.1]
      simp only [Bool.toNat_false, Bool.toNat_true]
      omega
    next => omega
  | @refused c =>
    refine same rfl rfl ?_
    rw [ManagerProc.resources]
    cases c.opening.ctx <;> rfl
  | @stores c h ctx =>
    exact same rfl (by simp) rfl
  | @starts c h t next =>
    have alive := live (.native h) (by simp [ManagerProc.resources, ownedBy])
    refine same rfl ?_ (by obtain rfl | rfl := next <;> rfl)
    exact ManagerState.isLive_setStatus_of_live alive (by decide) r
  | startFails => exact same rfl (by simp) rfl
  | reports next => exact same rfl (by simp) (by obtain rfl | rfl := next <;> rfl)
  | @inserts c h =>
    have own : (c.device h o.uuid o.nowMs).inner.resources = ownedBy h c.opening.ctx := by
      simp [DeviceInner.resources, Creation.device]
    show Counted.kept _ (Counted.alloc s.arcs 2 _) + 0 + (s.isLive r).toNat =
      s.keptResources r + (ownedBy h c.opening.ctx).count r + (s.isLive r).toNat
    rw [Counted.kept_alloc, own]
    rfl
  | submits next => exact same rfl (by simp) (by obtain rfl | ⟨ctx, -, rfl⟩ := next <;> rfl)
  | @drops arc rest x cell shared =>
    have held := counted arc
    rw [ManagerProc.references, List.count_cons_self, Counted.strongAt_of_get cell] at held
    have dropped := Counted.kept_set (fun d : Device => d.inner.resources.count r) cell
      (x.strong - 1)
    rw [← Counted.release_eq cell, if_neg (by omega), if_neg (by omega)] at dropped
    exact same (Nat.add_right_cancel dropped) rfl rfl
  | @dropsLast arc rest x cell last =>
    have dropped := Counted.kept_set (fun d : Device => d.inner.resources.count r) cell
      (x.strong - 1)
    rw [← Counted.release_eq cell, if_neg (by omega), if_pos (by omega)] at dropped
    have passed := (Device.drops_drop (loaded arc x cell) rest).resources_eq
    show Counted.kept _ (Counted.release s.arcs arc) +
      ((x.value.drop s.devsLoaded rest).resources.count r + 0) + (s.isLive r).toNat =
      s.keptResources r + 0 + (s.isLive r).toNat
    rw [passed, ManagerState.keptResources]
    omega
  | @stops h ctx rest idle =>
    have alive := live (.native h) (by simp [ManagerProc.resources, ownedBy])
    exact same rfl (ManagerState.isLive_setStatus_of_live alive (by decide) r) rfl
  | @destroys h ctx rest t idle next =>
    have alive := live (.native h) (by simp [ManagerProc.resources, ownedBy])
    have keeps : t.resources = ctx.toList.map .box := by
      obtain ⟨rfl, rfl⟩ | ⟨c, rfl, rfl⟩ := next <;> rfl
    show s.keptResources r + (t.resources.count r + 0) + _ =
      s.keptResources r + (ownedBy h ctx).count r + ((s.setStatus h .destroyed).isLive r).toNat
    rw [keeps, ownedBy, List.count_cons, ManagerState.isLive_setStatus alive]
    simp only [beq_iff_eq, eq_comm (a := Resource.native _)]
    split
    next hr =>
      subst hr
      rw [alive, bne_self_eq_false, Bool.toNat_true, Bool.toNat_false]
      omega
    next => omega
  | @frees ctx rest =>
    have alive := live (.box ctx) (by simp [ManagerProc.resources])
    show s.keptResources r + 0 + _ =
      s.keptResources r + [Resource.box ctx].count r + ((s.freeBox ctx).isLive r).toNat
    rw [List.count_singleton, ManagerState.isLive_freeBox alive]
    simp only [beq_iff_eq, eq_comm (a := Resource.box _)]
    split
    next hr =>
      subst hr
      rw [alive, Bool.toNat_true, Bool.toNat_false]
    next => omega
  | sends => exact same rfl (by simp) rfl

end ManagerMove

end WinUHid
