import WinUHid.DeviceManager

namespace WinUHid

namespace ManagerState

@[simp] theorem log_devsLoaded (s : ManagerState) (call : NativeCall) :
    (s.log call).devsLoaded = s.devsLoaded := rfl

@[simp] theorem log_devices (s : ManagerState) (call : NativeCall) :
    (s.log call).devices = s.devices := rfl

@[simp] theorem log_arcs (s : ManagerState) (call : NativeCall) : (s.log call).arcs = s.arcs := rfl

@[simp] theorem log_natives (s : ManagerState) (call : NativeCall) :
    (s.log call).natives = s.natives := rfl

@[simp] theorem log_boxes (s : ManagerState) (call : NativeCall) :
    (s.log call).boxes = s.boxes := rfl

@[simp] theorem log_calls (s : ManagerState) (call : NativeCall) :
    (s.log call).calls = s.calls ++ [call] := rfl

/-- The references that the map holds. -/
def tabled (s : ManagerState) : List Nat := s.devices.entries.map Sigma.snd

/-- A destruction that waits for callbacks. -/
def Blocked (s : ManagerState) : ManagerProc → Prop
  | .stop h _ _ | .destroy h _ _ => s.isBusy h = true
  | _ => False

/-- What a request has prepared for the creation `c`. -/
structure Opens (s : ManagerState) (c : Creation) (s' : ManagerState) : Prop where
  loaded : c.opening.kind = .generic ∨ s.devsLoaded = true
  boxes : c.opening.ctx = none ∧ s'.boxes = s.boxes ∨
    c.opening.ctx = some s.boxes.length ∧ s'.boxes = s.boxes ++ [⟨none, false⟩]
  macs : c.macAddress = none ∧ s'.macCounter = s.macCounter ∧ s'.macAddresses = s.macAddresses ∨
    c.macAddress = some (macOf s.macCounter) ∧ s'.macCounter = s.macCounter + 1 ∧
      s'.macAddresses = s.macAddresses ++ [macOf s.macCounter]
  devsLoaded : s'.devsLoaded = s.devsLoaded
  devices : s'.devices = s.devices
  arcs : s'.arcs = s.arcs
  natives : s'.natives = s.natives
  calls : s'.calls = s.calls

end ManagerState

/-- What a request may go on to do with the device it holds. -/
inductive Device.Serves (d : Device) (arc : Nat) : ManagerProc → Prop
  | done : d.Serves arc (.release [arc])
  | submit {cache} (own : ∀ ctx, cache = some ctx → d.inner.ctxPtr = some ctx) :
      d.Serves arc (.submit arc d.inner.handle cache)

/-- The last reference to a device hands over what the device owns. -/
inductive Device.Drops (d : Device) (rest : List Nat) : ManagerProc → Prop
  | stop {ctx} (own : d.inner.ctxPtr = some ctx) : d.Drops rest (.stop d.inner.handle ctx rest)
  | destroy : d.Drops rest (.destroy d.inner.handle d.inner.ctxPtr rest)

inductive Creation.Continues (c : Creation) (h : Nat) : ManagerProc → Prop
  | store {ctx} (own : c.opening.ctx = some ctx) : c.Continues h (.storeHandle c h ctx)
  | start (preset : c.opening.kind ≠ .generic) : c.Continues h (.start c h)

theorem Device.serves_serve (hexDecode : List Char → Option (List UInt8)) (devsLoaded : Bool)
    (arc : Nat) (d : Device) (r : DeviceRequest) :
    d.Serves arc (d.serve hexDecode devsLoaded arc r) := by
  cases r with
  | submitGenericInput reportHex =>
    obtain ⟨summary, inner⟩ := d
    simp only [serve]
    split
    next => exact .submit (d := ⟨summary, .generic ..⟩) fun ctx h => h
    next => exact .done
  | reportPreset kind =>
    simp only [serve]
    split
    · exact .submit nofun
    · exact .done
  | wsEvents => exact .done

theorem Device.drops_drop {devsLoaded : Bool} {d : Device}
    (loaded : d.inner.kind = .generic ∨ devsLoaded = true) (rest : List Nat) :
    d.Drops rest (d.drop devsLoaded rest) := by
  obtain ⟨summary, inner⟩ := d
  cases inner with
  | generic h c descriptor => exact .stop rfl
  | mouse h | ps4 h c | ps5 h c | xOne h c =>
    obtain rfl := loaded.resolve_left (by simp [DeviceInner.kind])
    exact .destroy

/-- What a step is and does, by what the thread is about to do. -/
inductive ManagerMove (o : Outcome) (s : ManagerState) : ManagerProc → ManagerState → List ManagerProc → Prop
  | quits {r} : ManagerMove o s (.request r) s []
  | opens {r c s'} (opened : s.Opens c s') : ManagerMove o s (.request r) s' [.createNative c]
  | finds {id request arc x t} (found : s.devices.lookup id = some arc)
      (cell : s.arcs[arc]? = some x) (serves : x.value.Serves arc t) :
      ManagerMove o s (.request (.device id request))
        ({ s with arcs := Counted.clone s.arcs arc }.log (.found id)) [t]
  | removes {id arc} (found : s.devices.lookup id = some arc) :
      ManagerMove o s (.request (.destroy id))
        ({ s with devices := s.devices.erase id }.log (.removed id)) [.release [arc]]
  | clears :
      ManagerMove o s (.request .destroyAll)
        { s with devices := ∅, calls := s.calls ++ s.devices.keys.map .removed }
        [.release s.tabled]
  | creates {c t} (next : c.Continues s.natives.length t) :
      ManagerMove o s (.createNative c)
        ((s.newNative c).log (.created s.natives.length c.opening.ctx)) [t]
  | refused {c} :
      ManagerMove o s (.createNative c) s (c.opening.ctx.toList.map fun ctx => .free ctx [])
  | stores {c h ctx} :
      ManagerMove o s (.storeHandle c h ctx) ((s.setHandle ctx h).log (.accessed ctx)) [.start c h]
  | starts {c h t} (next : t = .insert c h ∨ t = .neutralReport c h) :
      ManagerMove o s (.start c h) ((s.setStatus h .started).log (.started h)) [t]
  | startFails {c h} :
      ManagerMove o s (.start c h) (s.log (.used h)) [.destroy h c.opening.ctx []]
  | reports {c h t} (next : t = .insert c h ∨ t = .destroy h c.opening.ctx []) :
      ManagerMove o s (.neutralReport c h) (s.log (.used h)) [t]
  | inserts {c h} :
      ManagerMove o s (.insert c h)
        ((s.insert (c.device h o.uuid o.nowMs)).log (.inserted o.uuid))
        [.release ((s.devices.lookup o.uuid).toList ++ [s.arcs.length])]
  | submits {arc h cache t}
      (next : t = .release [arc] ∨ ∃ ctx, cache = some ctx ∧ t = .insertReport arc ctx) :
      ManagerMove o s (.submit arc h cache) (s.log (.used h)) [t]
  | caches {arc ctx} :
      ManagerMove o s (.insertReport arc ctx) (s.log (.accessed ctx)) [.storeLastId arc ctx]
  | cached {arc ctx} :
      ManagerMove o s (.storeLastId arc ctx) (s.log (.accessed ctx)) [.release [arc]]
  | ends : ManagerMove o s (.release []) s []
  | drops {arc rest x} (cell : s.arcs[arc]? = some x) (shared : x.strong ≠ 1) :
      ManagerMove o s (.release (arc :: rest)) { s with arcs := Counted.release s.arcs arc }
        [.release rest]
  | dropsLast {arc rest x} (cell : s.arcs[arc]? = some x) (last : x.strong = 1) :
      ManagerMove o s (.release (arc :: rest)) { s with arcs := Counted.release s.arcs arc }
        [x.value.drop s.devsLoaded rest]
  | dangles {arc rest} (cell : s.arcs[arc]? = none) :
      ManagerMove o s (.release (arc :: rest)) s []
  | waits {t} (busy : s.Blocked t) : ManagerMove o s t s [t]
  | stops {h ctx rest} (idle : s.isBusy h = false) :
      ManagerMove o s (.stop h ctx rest) ((s.setStatus h .stopped).log (.stopped h))
        [.destroy h (some ctx) rest]
  | destroys {h ctx rest t} (idle : s.isBusy h = false)
      (next : ctx = none ∧ t = .release rest ∨ ∃ c, ctx = some c ∧ t = .free c rest) :
      ManagerMove o s (.destroy h ctx rest) ((s.setStatus h .destroyed).log (.destroyed h)) [t]
  | frees {ctx rest} :
      ManagerMove o s (.free ctx rest) ((s.freeBox ctx).log (.freed ctx)) [.release rest]
  | completes {h ctx} :
      ManagerMove o s (.completeEvent h ctx)
        (s.log (.completed h ctx (s.handleOf ctx))) [.sendEvent h ctx]
  | sends {h ctx} :
      ManagerMove o s (.sendEvent h ctx) ((s.returnCallback h).log (.accessed ctx)) []

namespace ManagerState

variable (hexDecode : List Char → Option (List UInt8))

theorem begin_cases (o : Outcome) (s : ManagerState) (r : ManagerRequest) :
    ManagerMove o s (.request r) (s.begin hexDecode r).1 (s.begin hexDecode r).2 := by
  cases r with
  | createGeneric params =>
    rw [begin]
    split
    · exact .quits
    split
    · exact .quits
    · exact .opens ⟨.inl rfl, .inr ⟨rfl, rfl⟩, .inl ⟨rfl, rfl, rfl⟩, rfl, rfl, rfl, rfl, rfl⟩
  | createMouse name =>
    rw [begin]
    split
    next hl => exact .opens ⟨.inr hl, .inl ⟨rfl, rfl⟩, .inl ⟨rfl, rfl, rfl⟩, rfl, rfl, rfl, rfl, rfl⟩
    next => exact .quits
  | createPs4 name | createPs5 name =>
    rw [begin]
    split
    next hl =>
      exact .opens ⟨.inr hl, .inr ⟨rfl, rfl⟩, .inr ⟨rfl, rfl, rfl⟩, rfl, rfl, rfl, rfl, rfl⟩
    next => exact .quits
  | createXOne name =>
    rw [begin]
    split
    next hl =>
      exact .opens ⟨.inr hl, .inr ⟨rfl, rfl⟩, .inl ⟨rfl, rfl, rfl⟩, rfl, rfl, rfl, rfl, rfl⟩
    next => exact .quits
  | device id request =>
    rw [begin]
    split
    · exact .quits
    next arc found =>
      split
      · exact .quits
      next x cell => exact .finds found cell (x.value.serves_serve ..)
  | destroy id =>
    rw [begin]
    split
    · exact .quits
    next arc found => exact .removes found
  | destroyAll => exact .clears

theorem body_cases (o : Outcome) (s : ManagerState) (t : ManagerProc) :
    ManagerMove o s t (s.body hexDecode o t).1 (s.body hexDecode o t).2 := by
  cases t with
  | request r => exact s.begin_cases hexDecode o r
  | createNative c =>
    rw [body]
    split
    · cases ho : c.opening with
      | generic ctx descriptor =>
        have own : c.opening.ctx = some ctx := by rw [ho]; rfl
        have move := ManagerMove.creates (o := o) (s := s) (.store own)
        rwa [ho] at move
      | mouse | ps4 ctx | ps5 ctx | xOne ctx =>
        have move := ManagerMove.creates (o := o) (s := s) (c := c) (.start (by rw [ho]; nofun))
        rwa [ho] at move
    · have move := ManagerMove.refused (o := o) (s := s) (c := c)
      cases ho : c.opening.ctx with
      | none => rwa [ho] at move
      | some ctx => rwa [ho] at move
  | storeHandle c h ctx => exact .stores
  | start c h =>
    rw [body]
    split
    · dsimp only
      split
      · exact .starts (.inl rfl)
      · exact .starts (.inr rfl)
    · exact .startFails
  | neutralReport c h =>
    rw [body]
    split
    · exact .reports (.inl rfl)
    · exact .reports (.inr rfl)
  | insert c h => exact .inserts
  | submit arc h cache =>
    cases cache with
    | none => exact .submits (.inl rfl)
    | some ctx =>
      rw [body]
      dsimp only
      split
      · exact .submits (.inr ⟨ctx, rfl, rfl⟩)
      · exact .submits (.inl rfl)
  | insertReport arc ctx => exact .caches
  | storeLastId arc ctx => exact .cached
  | release arcs =>
    cases arcs with
    | nil => exact .ends
    | cons arc rest =>
      rw [body]
      split
      next cell => exact .dangles cell
      next x cell =>
        split
        next last => exact .dropsLast cell last
        next shared => exact .drops cell shared
  | stop h ctx rest =>
    simp only [body]
    split
    next busy => exact .waits busy
    next idle => exact .stops (by simpa using idle)
  | destroy h ctx rest =>
    simp only [body]
    split
    next busy => exact .waits busy
    next idle =>
      cases ctx with
      | none => exact .destroys (by simpa using idle) (.inl ⟨rfl, rfl⟩)
      | some ctx => exact .destroys (by simpa using idle) (.inr ⟨ctx, rfl, rfl⟩)
  | free ctx rest => exact .frees
  | completeEvent h ctx => exact .completes
  | sendEvent h ctx => exact .sends

end ManagerState

end WinUHid
