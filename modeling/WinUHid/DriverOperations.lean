import WinUHid.ReportDescriptor

namespace WinUHid

/-- Identity of a `VHFOPERATIONHANDLE`, of a WDF object and of an I/O request. -/
abbrev OperationHandle := Nat
abbrev ObjectId := Nat
abbrev IoRequest := Nat

/-- The request id of the `n`-th real operation: the top bit is always set. -/
def realRequestId (n : UInt32) : RequestId := n ||| 0x80000000

theorem realRequestId_ne_zero (n : UInt32) : realRequestId n ≠ 0 := by
  intro h
  have hn := congrArg UInt32.toNat h
  rw [realRequestId, UInt32.toNat_or] at hn
  have hle : (0x80000000 : UInt32).toNat ≤ n.toNat ||| (0x80000000 : UInt32).toNat := Nat.right_le_or
  rw [hn] at hle
  exact absurd hle (by decide)

/-- A wrapper object with its `OPERATION_CONTEXT`. Exactly the ready-for-read pseudo-operations
have request id 0, no VHF handle, and the type of a read. -/
structure Operation where
  object : ObjectId
  type : EventType
  requestId : RequestId
  handle : Option OperationHandle
  hidTransferPacket : HidXferPacket
  pseudo_iff : requestId = 0 ↔ handle = none
  pseudo_type : requestId = 0 → type = .readReport

/-- The context of a pseudo-operation: framework memory is zeroed. -/
def Operation.readyForRead (object : ObjectId) : Operation where
  object := object
  type := .readReport
  requestId := 0
  handle := none
  hidTransferPacket := ⟨fun _ => 0, 0, 0⟩
  pseudo_iff := by simp
  pseudo_type := fun _ => rfl

def Operation.request (object : ObjectId) (type : EventType) (n : UInt32) (handle : OperationHandle)
    (packet : HidXferPacket) : Operation where
  object := object
  type := type
  requestId := realRequestId n
  handle := some handle
  hidTransferPacket := packet
  pseudo_iff := by simp [realRequestId_ne_zero]
  pseudo_type := fun h => absurd h (realRequestId_ne_zero n)

/-- The fields of the `FILE_CONTEXT` that events pass through. -/
structure FileContext where
  reports : ParsedReports
  nextRequestId : UInt32
  vhfHandle : Bool
  waitingRequests : List Operation
  outstandingRequests : List Operation

/-- What the calls into WDF and VHF return. -/
structure Framework where
  objectCreate : NTSTATUS := statusSuccess
  collectionAdd : NTSTATUS := statusSuccess
  retrieveOutputMemory : NTSTATUS := statusSuccess
  retrieveRequest : NTSTATUS := statusSuccess
  forwardToIoQueue : NTSTATUS := statusSuccess
  requestRequeue : NTSTATUS := statusSuccess
  asyncOperationComplete : NTSTATUS := statusSuccess
  readReportSubmit : NTSTATUS := statusSuccess

/-- What the driver does to the world outside its collections. -/
inductive Effect where
  /-- `WdfRequestCompleteWithInformation`; `event` is the operation in the output buffer. -/
  | requestComplete (request : IoRequest) (status : NTSTATUS) (information : Nat)
      (event : Option Operation)
  | asyncOperationComplete (handle : Option OperationHandle) (status : NTSTATUS)
  | objectDelete (object : ObjectId)
  /-- A range of the input buffer is read, or passed on to be read. -/
  | inputRead (offset length : Nat)
  /-- A range of the input buffer is copied to the start of the operation's report buffer. -/
  | copyReport (op : Operation) (source length : Nat)
  | zeroReport (op : Operation) (offset length : Nat)
  /-- `VhfReadReportSubmit`; `answered` is the pseudo-operation the report answers, if any. -/
  | readReportSubmit (packet : HidXferPacket) (status : NTSTATUS) (answered : Option ObjectId)
  /-- The client answers a pseudo-operation with success and no data. -/
  | acknowledged (object : ObjectId)
  | vhfDelete

/-- The parameters of `DispatchAsyncOperation` as its five callers pass them. -/
inductive DispatchCall where
  | async (type : EventType) (handle : OperationHandle) (packet : HidXferPacket)
  | readyForRead

/-- Which of the parsed sizes bounds an operation. -/
def EventType.reportKind : EventType → ReportKind
  | .setFeature => .feature
  | .getFeature => .feature
  | .writeReport => .output
  | .readReport => .input

/-- The Windows 10 workaround: the length is clamped to the size of the report. -/
def HidXferPacket.clamp (p : HidXferPacket) (reportSize : UInt32) : HidXferPacket :=
  if reportSize < p.reportBufferLen then { p with reportBufferLen := reportSize } else p

theorem HidXferPacket.clamp_reportBufferLen (p : HidXferPacket) (reportSize : UInt32) :
    (p.clamp reportSize).reportBufferLen.toNat =
      min p.reportBufferLen.toNat reportSize.toNat := by
  unfold clamp
  split
  next h =>
    have hlt : reportSize.toNat < p.reportBufferLen.toNat := h
    show reportSize.toNat = _
    omega
  next h =>
    have hge : ¬reportSize.toNat < p.reportBufferLen.toNat := h
    omega

/-- The part of `DispatchAsyncOperation` that fills in the context of a new wrapper object;
`none` where the size of the report is unknown. -/
def FileContext.createOperation (ctx : FileContext) (object : ObjectId) :
    DispatchCall → FileContext × Option Operation
  | .readyForRead => (ctx, some (.readyForRead object))
  | .async type handle packet =>
    let n := ctx.nextRequestId + 1
    let reportSize := (ctx.reports.reportSizes packet.reportId).get type.reportKind
    ({ ctx with nextRequestId := n },
      if reportSize = 0 then none
      else some (.request object type n handle (packet.clamp reportSize)))

/-- `if (VhfOperationHandle) VhfAsyncOperationComplete(..)` -/
def completeIfHandle (handle : Option OperationHandle) (status : NTSTATUS) : List Effect :=
  match handle with
  | some h => [.asyncOperationComplete (some h) status]
  | none => []

def DispatchCall.handle : DispatchCall → Option OperationHandle
  | .async _ handle _ => some handle
  | .readyForRead => none

/-- Adding to `WaitingRequests` under the lock: the status with which the operation is given up,
or the changed context. -/
def FileContext.queueOperation (fw : Framework) (ctx : FileContext) (op : Operation) :
    Except NTSTATUS FileContext :=
  if !ctx.vhfHandle then .error statusTooLate
  else if !ntSuccess fw.collectionAdd then .error fw.collectionAdd
  else .ok { ctx with waitingRequests := ctx.waitingRequests ++ [op] }

theorem FileContext.queueOperation_cases (fw : Framework) (ctx : FileContext) (op : Operation) :
    (∃ status, (ctx.vhfHandle = false ∨ ntSuccess fw.collectionAdd = false) ∧
      ctx.queueOperation fw op = .error status) ∨
    (ctx.vhfHandle ∧ ntSuccess fw.collectionAdd ∧ ctx.queueOperation fw op =
      .ok { ctx with waitingRequests := ctx.waitingRequests ++ [op] }) := by
  unfold queueOperation
  split
  next hv => exact .inl ⟨statusTooLate, .inl (by simpa using hv), rfl⟩
  next hv =>
    split
    next ha => exact .inl ⟨fw.collectionAdd, .inr (by simpa using ha), rfl⟩
    next ha => exact .inr ⟨by simpa using hv, by simpa using ha, rfl⟩

/-- `TakeOutstandingRequestById` on the collection: the first operation with the id, and what is
left. -/
def takeOutstandingRequestById : List Operation → RequestId → Option (Operation × List Operation)
  | [], _ => none
  | op :: ops, id =>
    if op.requestId = id then some (op, ops)
    else (takeOutstandingRequestById ops id).map fun found => (found.1, op :: found.2)

theorem takeOutstandingRequestById_eq_some {ops left : List Operation} {id : RequestId}
    {op : Operation} : takeOutstandingRequestById ops id = some (op, left) ↔
      ∃ before after, ops = before ++ op :: after ∧ left = before ++ after ∧ op.requestId = id ∧
        ∀ o ∈ before, o.requestId ≠ id := by
  induction ops generalizing left with
  | nil => simp [takeOutstandingRequestById]
  | cons o ops ih =>
    rw [takeOutstandingRequestById]
    split
    next hid =>
      constructor
      · intro h
        obtain ⟨rfl, rfl⟩ := Prod.mk.inj (Option.some.inj h)
        exact ⟨[], _, rfl, rfl, hid, by simp⟩
      · rintro ⟨before, after, he, rfl, hop, hb⟩
        cases before with
        | nil =>
          obtain ⟨rfl, rfl⟩ := List.cons.inj he
          rfl
        | cons b before =>
          obtain ⟨rfl, _⟩ := List.cons.inj he
          exact absurd hid (hb o List.mem_cons_self)
    next hid =>
      rw [Option.map_eq_some_iff]
      constructor
      · rintro ⟨⟨op', left'⟩, ht, he⟩
        obtain ⟨rfl, rfl⟩ := Prod.mk.inj he
        obtain ⟨before, after, rfl, rfl, hop, hb⟩ := ih.mp ht
        refine ⟨o :: before, after, rfl, rfl, hop, ?_⟩
        intro x hx
        rcases List.mem_cons.mp hx with rfl | hx
        · exact hid
        · exact hb x hx
      · rintro ⟨before, after, he, rfl, hop, hb⟩
        cases before with
        | nil =>
          obtain ⟨rfl, _⟩ := List.cons.inj he
          exact absurd hop hid
        | cons b before =>
          obtain ⟨rfl, rfl⟩ := List.cons.inj he
          exact ⟨(op, before ++ after), ih.mpr ⟨before, after, rfl, rfl, hop,
            fun x hx => hb x (List.mem_cons_of_mem _ hx)⟩, rfl⟩

theorem takeOutstandingRequestById_eq_none {ops : List Operation} {id : RequestId} :
    takeOutstandingRequestById ops id = none ↔ ∀ o ∈ ops, o.requestId ≠ id := by
  induction ops with
  | nil => simp [takeOutstandingRequestById]
  | cons o ops ih =>
    rw [takeOutstandingRequestById]
    split
    next hid => simp [hid]
    next hid => simp [ih, hid]

/-- What a rundown loop of `WinUHidEvtDeviceFileClose` does to a collection. -/
def rundown : List Operation → List Effect
  | [] => []
  | op :: ops =>
    (if op.requestId ≠ 0 then [.asyncOperationComplete op.handle statusCancelled] else []) ++
      [.objectDelete op.object] ++ rundown ops

end WinUHid
