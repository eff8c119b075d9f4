import WinUHid.EventDelivery
import WinUHid.StructLayout

namespace WinUHid

open LittleEndian StructLayout StructLayout.Member

/-- The members of `WINUHID_EVENT`; those of the union start at the same place. -/
inductive EventMember where
  | type
  | requestId
  | reportId
  | writeDataLength
  | writeData
  | readDataLength
  deriving DecidableEq

namespace EventMember

/-- `WINUHID_EVENT_HEADER` -/
def header : List (Member EventMember) := [scalar type 4, scalar requestId 4, scalar reportId 1]

/-- `WINUHID_EVENT` with `Write` of its union. -/
def writeEvent : List (Member EventMember) :=
  header ++ [scalar writeDataLength 4, array writeData 1 1]

/-- `WINUHID_EVENT` with `Read` of its union. -/
def readEvent : List (Member EventMember) := header ++ [scalar readDataLength 4]

/-- `FIELD_OFFSET` of a member of a structure packed to one byte. -/
def offset (declaration : List (Member EventMember)) (m : EventMember) : Nat :=
  (spanOf (layout 1 declaration) m).start / 8

end EventMember

/-- What a client reads out of an event; a write event has no `readLength`, a read event no
`data`. -/
structure EventRecord where
  kind : UInt32
  requestId : RequestId
  reportId : UInt8
  data : List UInt8
  readLength : UInt32
  deriving DecidableEq

/-- The byte at a place of the output buffer; `none` where there is none or nothing was written. -/
def readByte (mem : OutputMemory) (i : Nat) : Option UInt8 :=
  match mem[i]? with
  | some (.content b) => some b
  | _ => none

def readBytes (mem : OutputMemory) (offset : Nat) : Nat → Option (List UInt8)
  | 0 => some []
  | count + 1 => do
    let b ← readByte mem offset
    let bs ← readBytes mem (offset + 1) count
    return b :: bs

def readUlong (mem : OutputMemory) (offset : Nat) : Option UInt32 := do
  let bs ← readBytes mem offset 4
  return UInt32.ofNat (value bs)

section

open EventMember

/-- `parse_event` -/
def parseEvent (event : OutputMemory) : Option EventRecord := do
  let kind ← readUlong event (offset header .type)
  let requestId ← readUlong event (offset header .requestId)
  let reportId ← readByte event (offset header .reportId)
  let bodyPtr := sizeof 1 header
  if kind = EventType.setFeature.value ∨ kind = EventType.writeReport.value then
    let dataLen ← readUlong event bodyPtr
    let dataPtr := bodyPtr + 4
    let data ← readBytes event dataPtr dataLen.toNat
    return ⟨kind, requestId, reportId, data, 0⟩
  else
    let dataLen ← readUlong event bodyPtr
    return ⟨kind, requestId, reportId, [], dataLen⟩

/-- A client in C: `WINUHID_EVENT_TYPE_IS_WRITE` and `WINUHID_EVENT_TYPE_IS_READ` say which member
of the union it may use. -/
def readFields (event : OutputMemory) : Option EventRecord := do
  let type ← readUlong event (offset writeEvent .type)
  let requestId ← readUlong event (offset writeEvent .requestId)
  let reportId ← readByte event (offset writeEvent .reportId)
  if type = EventType.setFeature.value ∨ type = EventType.writeReport.value then
    let dataLength ← readUlong event (offset writeEvent .writeDataLength)
    let data ← readBytes event (offset writeEvent .writeData) dataLength.toNat
    return ⟨type, requestId, reportId, data, 0⟩
  else if type = EventType.getFeature.value ∨ type = EventType.readReport.value then
    let dataLength ← readUlong event (offset readEvent .readDataLength)
    return ⟨type, requestId, reportId, [], dataLength⟩
  else none

end

/-- What the client has to find in the event of an operation. -/
def Operation.record (op : Operation) : EventRecord where
  kind := op.type.value
  requestId := op.requestId
  reportId := op.hidTransferPacket.reportId
  data := if op.type.isWrite then op.hidTransferPacket.report else []
  readLength := if op.type.isRead then op.hidTransferPacket.reportBufferLen else 0

theorem Operation.record_of_write {op : Operation} (write : op.type.isWrite = true) :
    op.record = ⟨op.type.value, op.requestId, op.hidTransferPacket.reportId,
      op.hidTransferPacket.report, 0⟩ := by
  have read : op.type.isRead = false := by simpa [EventType.isWrite_eq_not_isRead] using write
  simp [Operation.record, write, read]

theorem Operation.record_of_read {op : Operation} (write : op.type.isWrite = false) :
    op.record = ⟨op.type.value, op.requestId, op.hidTransferPacket.reportId, [],
      op.hidTransferPacket.reportBufferLen⟩ := by
  have read : op.type.isRead = true := by simpa [EventType.isWrite_eq_not_isRead] using write
  simp [Operation.record, write, read]

theorem readByte_content (front : OutputMemory) {mem back : OutputMemory} {b : UInt8}
    (h : mem = front ++ .content b :: back) : readByte mem front.length = some b := by
  simp [readByte, h]

theorem readBytes_content (front : OutputMemory) {mem back : OutputMemory} {bs : List UInt8}
    (h : mem = front ++ bs.map .content ++ back) :
    readBytes mem front.length bs.length = some bs := by
  induction bs generalizing front with
  | nil => rfl
  | cons b bs ih =>
    have first : readByte mem front.length = some b := readByte_content front (by simpa using h)
    have rest := ih (front ++ [.content b]) (by simpa using h)
    rw [List.length_append] at rest
    simp only [List.length_cons, readBytes, first, Option.bind_eq_bind, Option.bind_some]
    rw [show front.length + 1 = front.length + [OutputByte.content b].length from rfl, rest]
    rfl

theorem readUlong_content (front : OutputMemory) {mem back : OutputMemory} {v : UInt32}
    (h : mem = front ++ (ulongBytes v).map .content ++ back) :
    readUlong mem front.length = some v := by
  have four := readBytes_content front h
  rw [length_ulongBytes] at four
  have whole := v.toNat_lt
  simp only [readUlong, four, Option.bind_eq_bind, Option.bind_some, ulongBytes, value_bytes,
    Nat.mod_eq_of_lt (show v.toNat < 256 ^ 4 by omega), UInt32.ofNat_toNat]
  rfl

section

variable (op : Operation) (outputLength : Nat)

/-- The driver's copies, field by field. -/
theorem deliveredOutput_split : ∃ back,
    deliveredOutput op outputLength = (ulongBytes op.type.value).map .content ++
      (ulongBytes op.requestId).map .content ++ [.content op.hidTransferPacket.reportId] ++
      (ulongBytes op.hidTransferPacket.reportBufferLen).map .content ++
      (eventData op).map .content ++ back := by
  exact ⟨(if eventData op = [] then [.uninitialised] else []) ++
    List.replicate (outputLength - max sizeofEvent (eventDataOffset + (eventData op).length))
      .untouched, by simp [deliveredOutput, eventFields, Operation.event]⟩

theorem read_type : readUlong (deliveredOutput op outputLength) 0 = some op.type.value := by
  obtain ⟨back, h⟩ := deliveredOutput_split op outputLength
  have at0 := readUlong_content [] (v := op.type.value)
    (h.trans (by simp only [List.nil_append, List.append_assoc]; rfl))
  simpa using at0

theorem read_requestId : readUlong (deliveredOutput op outputLength) 4 = some op.requestId := by
  obtain ⟨back, h⟩ := deliveredOutput_split op outputLength
  have at4 := readUlong_content ((ulongBytes op.type.value).map .content)
    (v := op.requestId) (h.trans (by simp only [List.append_assoc]; rfl))
  simpa using at4

theorem read_reportId :
    readByte (deliveredOutput op outputLength) 8 = some op.hidTransferPacket.reportId := by
  obtain ⟨back, h⟩ := deliveredOutput_split op outputLength
  have at8 := readByte_content (b := op.hidTransferPacket.reportId)
    ((ulongBytes op.type.value).map .content ++ (ulongBytes op.requestId).map .content)
    (h.trans (by simp only [List.append_assoc, List.cons_append]; rfl))
  simpa using at8

theorem read_dataLength : readUlong (deliveredOutput op outputLength) 9 =
    some op.hidTransferPacket.reportBufferLen := by
  obtain ⟨back, h⟩ := deliveredOutput_split op outputLength
  have at9 := readUlong_content (v := op.hidTransferPacket.reportBufferLen)
    ((ulongBytes op.type.value).map .content ++ (ulongBytes op.requestId).map .content ++
      [.content op.hidTransferPacket.reportId])
    (h.trans (by simp only [List.append_assoc]; rfl))
  simpa using at9

theorem read_data (write : op.type.isWrite = true) :
    readBytes (deliveredOutput op outputLength) 13 op.hidTransferPacket.reportBufferLen.toNat =
      some op.hidTransferPacket.report := by
  obtain ⟨back, h⟩ := deliveredOutput_split op outputLength
  have at13 := readBytes_content _ h
  rw [eventData, if_pos write] at at13
  simpa using at13

/-- Both clients look for a write type, and everything else the driver sends is a read type. -/
theorem EventType.value_write_iff (t : EventType) :
    t.value = EventType.setFeature.value ∨ t.value = EventType.writeReport.value ↔
      t.isWrite = true := by
  cases t <;> decide

theorem EventType.value_read_iff (t : EventType) :
    t.value = EventType.getFeature.value ∨ t.value = EventType.readReport.value ↔
      t.isRead = true := by
  cases t <;> decide

theorem parseEvent_deliveredOutput :
    parseEvent (deliveredOutput op outputLength) = some op.record := by
  have type := read_type op outputLength
  have requestId := read_requestId op outputLength
  have reportId := read_reportId op outputLength
  have dataLength := read_dataLength op outputLength
  unfold parseEvent
  rw [show EventMember.offset EventMember.header .type = 0 from rfl,
    show EventMember.offset EventMember.header .requestId = 4 from rfl,
    show EventMember.offset EventMember.header .reportId = 8 from rfl,
    show StructLayout.sizeof 1 EventMember.header = 9 from rfl, type, requestId, reportId]
  simp only [Option.bind_eq_bind, Option.bind_some, op.type.value_write_iff, dataLength]
  cases write : op.type.isWrite with
  | true =>
    have data := read_data op outputLength write
    rw [Operation.record_of_write write]
    simp [data]
  | false =>
    rw [Operation.record_of_read write]
    simp

theorem readFields_deliveredOutput :
    readFields (deliveredOutput op outputLength) = some op.record := by
  have type := read_type op outputLength
  have requestId := read_requestId op outputLength
  have reportId := read_reportId op outputLength
  have dataLength := read_dataLength op outputLength
  unfold readFields
  rw [show EventMember.offset EventMember.writeEvent .type = 0 from rfl,
    show EventMember.offset EventMember.writeEvent .requestId = 4 from rfl,
    show EventMember.offset EventMember.writeEvent .reportId = 8 from rfl,
    show EventMember.offset EventMember.writeEvent .writeDataLength = 9 from rfl,
    show EventMember.offset EventMember.writeEvent .writeData = 13 from rfl,
    show EventMember.offset EventMember.readEvent .readDataLength = 9 from rfl,
    type, requestId, reportId]
  simp only [Option.bind_eq_bind, Option.bind_some, op.type.value_write_iff,
    op.type.value_read_iff, dataLength]
  cases write : op.type.isWrite with
  | true =>
    have data := read_data op outputLength write
    rw [Operation.record_of_write write]
    simp [data]
  | false =>
    have read : op.type.isRead = true := by simpa [EventType.isWrite_eq_not_isRead] using write
    rw [Operation.record_of_read write]
    simp [read]

end

/-- From whatever the driver hands out both clients get the operation back. -/
theorem eventRecord_roundTrip {fw : Framework} {ctx left : FileContext} {op : Operation}
    {outputLength count : Nat} {status : NTSTATUS} {output : OutputMemory}
    (h : tryCompleteGetNextEvent fw ctx outputLength = (.completed op status count output, left)) :
    parseEvent output = some op.record ∧ readFields output = some op.record := by
  rcases tryCompleteGetNextEvent_cases fw ctx outputLength with
    ⟨-, he⟩ | ⟨_, _, _, -, -, -, he⟩ | ⟨op', _, -, -, -, -, he⟩
  · cases h.symm.trans he
  · cases h.symm.trans he
  · cases h.symm.trans he
    exact ⟨parseEvent_deliveredOutput op outputLength, readFields_deliveredOutput op outputLength⟩

def setFeatureOperation : Operation :=
  .request 0 .setFeature 1 0 ⟨fun i => UInt8.ofNat (3 + i), 2, 3⟩

theorem eventRecord_setFeature : ∃ output,
    parseEvent output = some ⟨0x2, 0x80000001, 3, [3, 4], 0⟩ ∧
      readFields output = some ⟨0x2, 0x80000001, 3, [3, 4], 0⟩ :=
  ⟨_, @eventRecord_roundTrip {}
    ⟨⟨fun _ => ⟨0, 0, 0⟩, true⟩, 1, true, [setFeatureOperation], []⟩ _ _ 15 _ _ _ rfl⟩

end WinUHid
