import WinUHid.LittleEndian
import Mathlib.Tactic.IntervalCases

namespace WinUHid

open LittleEndian

/-- `WINUHID_EVENT_TYPE`; no event is ever of type `WINUHID_EVENT_NONE`. -/
inductive EventType where
  | getFeature
  | setFeature
  | writeReport
  | readReport
  deriving DecidableEq, Repr

def EventType.value : EventType → UInt32
  | .getFeature => 0x1
  | .setFeature => 0x2
  | .writeReport => 0x4
  | .readReport => 0x8

def EventType.isRead (t : EventType) : Bool := t == .getFeature || t == .readReport

def EventType.isWrite (t : EventType) : Bool := t == .setFeature || t == .writeReport

theorem EventType.isWrite_eq_not_isRead (t : EventType) : t.isWrite = !t.isRead := by
  cases t <;> rfl

abbrev NTSTATUS := UInt32

/-- `NT_SUCCESS`: the sign bit is clear. -/
def ntSuccess (status : NTSTATUS) : Bool := status < 0x80000000

def statusSuccess : NTSTATUS := 0x00000000
def statusUnsuccessful : NTSTATUS := 0xC0000001
def statusNotImplemented : NTSTATUS := 0xC0000002
def statusInvalidParameter : NTSTATUS := 0xC000000D
def statusNoMemory : NTSTATUS := 0xC0000017
def statusBufferTooSmall : NTSTATUS := 0xC0000023
def statusIntegerOverflow : NTSTATUS := 0xC0000095
def statusCancelled : NTSTATUS := 0xC0000120
def statusInvalidDeviceState : NTSTATUS := 0xC0000184
def statusTooLate : NTSTATUS := 0xC0000189
def statusNotFound : NTSTATUS := 0xC0000225

abbrev RequestId := UInt32

/-- What `HID_XFER_PACKET` holds. The buffer is the memory from `reportBuffer` on. -/
structure HidXferPacket where
  reportBuffer : Nat → UInt8
  reportBufferLen : UInt32
  reportId : UInt8

def HidXferPacket.report (p : HidXferPacket) : List UInt8 :=
  (List.range p.reportBufferLen.toNat).map p.reportBuffer

@[simp] theorem HidXferPacket.length_report (p : HidXferPacket) :
    p.report.length = p.reportBufferLen.toNat := by simp [report]

/-- `WINUHID_EVENT` as the client reads it; `dataLength` is the slot `Read` and `Write` share. -/
structure Event where
  type : EventType
  requestId : RequestId
  reportId : UInt8
  dataLength : UInt32

/-- What a device callback reads of a `WINUHID_EVENT`: `writeData` are the `Write.DataLength`
bytes of `Write.Data`. -/
structure ReceivedEvent where
  type : EventType
  reportId : UInt8
  writeData : List UInt8

/-- `FIELD_OFFSET(WINUHID_EVENT, Write.Data)` of the packed structure. -/
def eventDataOffset : Nat := 4 + 4 + 1 + 4

/-- `sizeof(WINUHID_EVENT)`: the union ends with the one byte of `Write.Data`. -/
def sizeofEvent : Nat := eventDataOffset + 1

def sizeofWriteEventComplete : Nat := 4 + 4

/-- `FIELD_OFFSET(WINUHID_READ_EVENT_COMPLETE, Data)` -/
def readDataOffset : Nat := 4 + 4 + 4

/-- `sizeof(WINUHID_READ_EVENT_COMPLETE)` with its `Data[ANYSIZE_ARRAY]`. -/
def sizeofReadEventComplete : Nat := readDataOffset + 1

/-- The input buffer of an IOCTL: its bytes, and the memory that lies after them. -/
structure InputBuffer where
  bytes : List UInt8
  beyond : Nat → UInt8

def InputBuffer.length (b : InputBuffer) : Nat := b.bytes.length

def InputBuffer.read (b : InputBuffer) (i : Nat) : UInt8 := b.bytes.getD i (b.beyond i)

def InputBuffer.ulong (b : InputBuffer) (i : Nat) : UInt32 :=
  UInt32.ofNat (value [b.read i, b.read (i + 1), b.read (i + 2), b.read (i + 3)])

structure WriteEventComplete where
  requestId : RequestId
  status : NTSTATUS

def InputBuffer.writeEventComplete (b : InputBuffer) : WriteEventComplete :=
  ⟨b.ulong 0, b.ulong 4⟩

/-- The fixed part of `WINUHID_READ_EVENT_COMPLETE`. -/
structure ReadEventComplete where
  requestId : RequestId
  status : NTSTATUS
  dataLength : UInt32

def InputBuffer.readEventComplete (b : InputBuffer) : ReadEventComplete :=
  ⟨b.ulong 0, b.ulong 4, b.ulong 8⟩

def ulongBytes (v : UInt32) : List UInt8 := bytes 4 v.toNat

@[simp] theorem length_ulongBytes (v : UInt32) : (ulongBytes v).length = 4 := length_bytes 4 _

theorem InputBuffer.read_of_lt {b : InputBuffer} {i : Nat} (h : i < b.bytes.length) :
    b.read i = b.bytes[i] := by
  simp [InputBuffer.read, List.getD, h]

theorem InputBuffer.read_of_stored {b : InputBuffer} {front part back : List UInt8}
    (h : b.bytes = front ++ part ++ back) :
    (List.range part.length).map (fun k => b.read (front.length + k)) = part := by
  apply List.ext_getElem
  · simp
  · intro k _ hk
    have within : front.length + k < b.bytes.length := by
      rw [h, List.length_append, List.length_append]
      omega
    rw [List.getElem_map, List.getElem_range, InputBuffer.read_of_lt within]
    simp [h, hk]

theorem InputBuffer.ulong_of_stored {b : InputBuffer} {front back : List UInt8} {v : UInt32}
    (h : b.bytes = front ++ ulongBytes v ++ back) : b.ulong front.length = v := by
  have four : [b.read front.length, b.read (front.length + 1), b.read (front.length + 2),
      b.read (front.length + 3)] = ulongBytes v := by
    have stored := InputBuffer.read_of_stored h
    rwa [length_ulongBytes] at stored
  have hv := v.toNat_lt
  rw [InputBuffer.ulong, four, ulongBytes, value_bytes, Nat.mod_eq_of_lt (by omega)]
  simp

end WinUHid
