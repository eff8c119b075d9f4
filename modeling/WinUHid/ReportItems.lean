import WinUHid.ReportDescriptor

namespace WinUHid

open LittleEndian

def longItemPrefix : UInt8 := 0xFE

/-- The bits of a prefix byte that hold the tag of a short item. -/
def prefixTag (header : UInt8) : UInt8 := (header >>> 4) &&& 0x0F

def prefixType (header : UInt8) : UInt8 := (header >>> 2) &&& 0x03

/-- How many data bytes follow the prefix of a short item: 0, 1, 2 or 4. -/
def shortDataSize (header : UInt8) : Nat :=
  if header &&& 0x03 = 3 then 4 else (header &&& 0x03).toNat

inductive Item where
  | short (tag type : UInt8) (data : Nat)
  | long
  deriving DecidableEq

/-- How many of the bytes after the prefix belong to the item. A long item that breaks off
before its own header is complete asks for more than there is. -/
def itemExtent (header : UInt8) (rest : List UInt8) : Nat :=
  if header = longItemPrefix then
    match rest with
    | size :: _ :: _ => 2 + size.toNat
    | _ => rest.length + 1
  else shortDataSize header

def itemAt (header : UInt8) (rest : List UInt8) : Item :=
  if header = longItemPrefix then .long
  else .short (prefixTag header) (prefixType header) (value (rest.take (shortDataSize header)))

/-- The items of a descriptor, `none` when the last one is truncated. -/
def splitItems : List UInt8 → Option (List Item)
  | [] => some []
  | header :: rest =>
    if itemExtent header rest ≤ rest.length then
      (splitItems (rest.drop (itemExtent header rest))).map (itemAt header rest :: ·)
    else none
termination_by bytes => bytes.length
decreasing_by
  simp only [List.length_drop, List.length_cons]
  omega

/-- The prefix bytes of all items, that of a truncated last one included. -/
def itemPrefixes : List UInt8 → List UInt8
  | [] => []
  | header :: rest => header :: itemPrefixes (rest.drop (itemExtent header rest))
termination_by bytes => bytes.length
decreasing_by
  simp only [List.length_drop, List.length_cons]
  omega

/-- The tag of the Main items that lay out reports of a kind: Input, Output or Feature. -/
def ReportKind.mainTag : ReportKind → UInt8
  | .input => 0x8
  | .output => 0x9
  | .feature => 0xB

/-- One frame of global state. -/
structure GlobalState where
  reportId : Nat
  size : Nat
  count : Nat

/-- The reference interpreter's state. The stack of frames is never empty. -/
structure Interpretation where
  top : GlobalState
  below : List GlobalState
  totals : ReportKind → Nat → Nat

namespace Interpretation

def bits (s : Interpretation) : Nat := s.top.size * s.top.count

/-- The conditions an item must meet in the state it is interpreted in. -/
def Legal (s : Interpretation) : Item → Prop
  | .long => True
  | .short tag type data =>
    (type = 1 → (tag = 0x8 → data ≤ 255) ∧ (tag = 0xA → s.below.length + 2 ≤ 32) ∧
      (tag = 0xB → s.below ≠ [])) ∧
    (type = 0 → s.bits < 2 ^ 32 ∧
      ∀ kind, tag = ReportKind.mainTag kind → s.totals kind s.top.reportId + s.bits < 2 ^ 32)

def pop (s : Interpretation) : Interpretation :=
  match s.below with
  | [] => s
  | f :: below => { s with top := f, below := below }

/-- A Main item adds its bits to the reports of the kind its tag names; any other tag adds none. -/
def addBits (s : Interpretation) (tag : UInt8) : Interpretation :=
  { s with totals := fun kind id =>
      if tag = kind.mainTag ∧ id = s.top.reportId then s.totals kind id + s.bits
      else s.totals kind id }

def interpret (s : Interpretation) : Item → Interpretation
  | .long => s
  | .short tag type data =>
    if type = 1 then
      if tag = 0x7 then { s with top := { s.top with size := data } }
      else if tag = 0x8 then { s with top := { s.top with reportId := data } }
      else if tag = 0x9 then { s with top := { s.top with count := data } }
      else if tag = 0xA then { s with below := s.top :: s.below }
      else if tag = 0xB then s.pop
      else s
    else if type = 0 then s.addBits tag
    else s

/-- Every item of a list meets its conditions in the state the items before it lead to. -/
def AllLegal : Interpretation → List Item → Prop
  | _, [] => True
  | s, item :: items => s.Legal item ∧ AllLegal (s.interpret item) items

def start : Interpretation := ⟨⟨0, 0, 0⟩, [], fun _ _ => 0⟩

end Interpretation

def Item.isReportId : Item → Bool
  | .short tag type _ => type == 1 && tag == 0x8
  | .long => false

/-- The size in bytes of a report of `total` bits, with its id byte where reports are numbered. -/
def byteSize (numbered : Bool) (total : Nat) : Nat :=
  if total = 0 then 0 else (total + 7) / 8 + (if numbered then 1 else 0)

theorem splitItems_cons {header : UInt8} {rest : List UInt8} {items : List Item} :
    splitItems (header :: rest) = some items ↔
      itemExtent header rest ≤ rest.length ∧
        ∃ tail, splitItems (rest.drop (itemExtent header rest)) = some tail ∧
          items = itemAt header rest :: tail := by
  rw [splitItems]
  split
  next hb =>
    rw [Option.map_eq_some_iff]
    constructor
    · rintro ⟨tail, ht, he⟩
      exact ⟨hb, tail, ht, he.symm⟩
    · rintro ⟨_, tail, ht, he⟩
      exact ⟨tail, ht, he.symm⟩
  next hb =>
    constructor
    · intro h
      cases h
    · intro h
      exact absurd h.1 hb

theorem itemPrefixes_cons (header : UInt8) (rest : List UInt8) :
    itemPrefixes (header :: rest) =
      header :: itemPrefixes (rest.drop (itemExtent header rest)) := by
  rw [itemPrefixes]

end WinUHid
