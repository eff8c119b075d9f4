import WinUHid.Bits

namespace StructLayout

open Bits

/-- A member of a structure declaration: of how many elements of what size and alignment, or the
width of a bit field in a type of that size. -/
structure Member (ι : Type) where
  name : ι
  size : Nat
  align : Nat
  count : Nat := 1
  bits : Option Nat := none

/-- The unit that bit fields are being allocated in. -/
structure StorageUnit where
  start : Nat
  size : Nat
  used : Nat

/-- Where the next member can go. -/
structure Cursor where
  offset : Nat
  unit : Option StorageUnit

variable {ι : Type} {pack : Nat}

def roundUp (offset align : Nat) : Nat := (offset + align - 1) / align * align

namespace Member

def scalar (name : ι) (size : Nat) : Member ι := ⟨name, size, size, 1, none⟩

def array (name : ι) (size count : Nat) : Member ι := ⟨name, size, size, count, none⟩

def bitField (name : ι) (size width : Nat) : Member ι := ⟨name, size, size, 1, some width⟩

/-- The member's alignment under `#pragma pack`. -/
def packedAlign (m : Member ι) (pack : Nat) : Nat := min pack m.align

def WellFormed (m : Member ι) : Prop := 0 < m.align ∧ ∀ w ∈ m.bits, w ≤ 8 * m.size

instance (m : Member ι) : Decidable m.WellFormed := by
  unfold WellFormed
  infer_instance

end Member

namespace Cursor

/-- The first bit behind everything that has been placed. -/
def floor (c : Cursor) : Nat :=
  match c.unit with
  | none => 8 * c.offset
  | some u => 8 * u.start + u.used

/-- The storage unit is the last thing placed and not overfull. -/
def Ok (c : Cursor) : Prop := ∀ u ∈ c.unit, u.start + u.size = c.offset ∧ u.used ≤ 8 * u.size

/-- A new storage unit or a member that is no bit field. -/
def align (c : Cursor) (pack : Nat) (m : Member ι) : Nat := roundUp c.offset (m.packedAlign pack)

/-- Place a member: a bit field goes on in the storage unit of the one before it where the types
have the same size and it fits, everything else starts at the next aligned byte. -/
def place (c : Cursor) (pack : Nat) (m : Member ι) : Span × Cursor :=
  let start := c.align pack m
  match m.bits with
  | none => (.bytes start (m.size * m.count), ⟨start + m.size * m.count, none⟩)
  | some width =>
    match c.unit with
    | none => (⟨8 * start, width⟩, ⟨start + m.size, some ⟨start, m.size, width⟩⟩)
    | some u =>
      if u.size = m.size ∧ u.used + width ≤ 8 * u.size then
        (⟨8 * u.start + u.used, width⟩, ⟨c.offset, some { u with used := u.used + width }⟩)
      else (⟨8 * start, width⟩, ⟨start + m.size, some ⟨start, m.size, width⟩⟩)

end Cursor

/-- The placement of the members from a cursor on, and where the last one ends. -/
def placeAll (pack : Nat) : Cursor → List (Member ι) → List (ι × Span) × Cursor
  | c, [] => ([], c)
  | c, m :: ms =>
    let placed := c.place pack m
    let rest := placeAll pack placed.2 ms
    ((m.name, placed.1) :: rest.1, rest.2)

/-- The layout of a structure whose members are packed to `pack` bytes. -/
def layout (pack : Nat) (ms : List (Member ι)) : List (ι × Span) := (placeAll pack ⟨0, none⟩ ms).1

/-- Where a layout has the member with the name. -/
def spanOf [DecidableEq ι] (l : List (ι × Span)) (name : ι) : Span :=
  (l.lookup name).getD ⟨0, 0⟩

def sizeof (pack : Nat) (ms : List (Member ι)) : Nat :=
  roundUp (placeAll pack ⟨0, none⟩ ms).2.offset ((ms.map (Member.packedAlign · pack)).foldl max 1)

theorem le_roundUp {align : Nat} (h : 0 < align) (offset : Nat) :
    offset ≤ roundUp offset align := by
  have hm := Nat.div_add_mod (offset + align - 1) align
  have hl := Nat.mod_lt (offset + align - 1) h
  rw [roundUp, Nat.mul_comm]
  omega

namespace Cursor

variable {c : Cursor}

theorem Ok.floor_le (h : c.Ok) : c.floor ≤ 8 * c.offset := by
  unfold floor
  split
  next => exact Nat.le_refl _
  next u hu =>
    have := h u hu
    omega

/-- A member goes behind everything placed before it, and what follows goes behind it. -/
theorem Ok.place (h : c.Ok) {m : Member ι} (hm : m.WellFormed) (hp : 0 < pack) :
    c.floor ≤ (c.place pack m).1.start ∧ (c.place pack m).1.stop ≤ (c.place pack m).2.floor ∧
      (c.place pack m).2.Ok := by
  obtain ⟨ha, hw⟩ := hm
  have aligned : c.offset ≤ c.align pack m := by
    refine le_roundUp ?_ c.offset
    unfold Member.packedAlign
    omega
  have floor := h.floor_le
  have behind : ∀ used, used ≤ 8 * m.size →
      (⟨c.align pack m + m.size, some ⟨c.align pack m, m.size, used⟩⟩ : Cursor).Ok := by
    rintro used hu u ⟨⟩
    exact ⟨rfl, hu⟩
  unfold Cursor.place
  dsimp only
  split
  next =>
    refine ⟨by simp only [Span.bytes]; omega, ?_, nofun⟩
    simp only [Span.stop, Span.bytes, Cursor.floor]
    omega
  next width hbits =>
    have fits := hw width (by simp [hbits])
    split
    next => exact ⟨by dsimp only; omega, Nat.le_refl _, behind width fits⟩
    next u hu =>
      split
      next hc =>
        obtain ⟨ends, -⟩ := h u hu
        refine ⟨by simp [Cursor.floor, hu], ?_, ?_⟩
        · simp only [Span.stop, Cursor.floor]
          omega
        · rintro u' ⟨⟩
          exact ⟨ends, hc.2⟩
      next => exact ⟨by dsimp only; omega, Nat.le_refl _, behind width fits⟩

theorem Ok.placeAll {ms : List (Member ι)} (h : c.Ok) (hms : ∀ m ∈ ms, m.WellFormed)
    (hp : 0 < pack) :
    (∀ x ∈ (placeAll pack c ms).1,
      c.floor ≤ x.2.start ∧ x.2.stop ≤ (StructLayout.placeAll pack c ms).2.floor) ∧
    (StructLayout.placeAll pack c ms).1.Pairwise (fun x y => x.2.stop ≤ y.2.start) ∧
    c.floor ≤ (StructLayout.placeAll pack c ms).2.floor ∧
    (StructLayout.placeAll pack c ms).2.Ok := by
  induction ms generalizing c with
  | nil => exact ⟨nofun, .nil, Nat.le_refl _, h⟩
  | cons m ms ih =>
    obtain ⟨start, stop, ok⟩ := h.place (hms m (by simp)) hp
    obtain ⟨inside, apart, grows, last⟩ := ih ok fun m' hm' => hms m' (by simp [hm'])
    have width : (c.place pack m).1.start ≤ (c.place pack m).1.stop := Nat.le_add_right _ _
    simp only [StructLayout.placeAll]
    refine ⟨?_, ?_, by omega, last⟩
    · intro x hx
      obtain rfl | hx := List.mem_cons.mp hx
      · exact ⟨start, by dsimp only; omega⟩
      · have := inside x hx
        omega
    · refine List.pairwise_cons.mpr ⟨fun y hy => ?_, apart⟩
      have := inside y hy
      dsimp only
      omega

end Cursor

/-- No two members of a layout share a bit, and all of them lie inside the structure. -/
theorem layout_placed {ms : List (Member ι)} (hms : ∀ m ∈ ms, m.WellFormed) (hp : 0 < pack) :
    (layout pack ms).Pairwise (fun x y => x.2.Disjoint y.2) ∧
      ∀ x ∈ layout pack ms, x.2.stop ≤ 8 * sizeof pack ms := by
  have ok : (⟨0, none⟩ : Cursor).Ok := nofun
  obtain ⟨inside, apart, -, last⟩ := ok.placeAll hms hp
  refine ⟨apart.imp fun h => .inl h, fun x hx => ?_⟩
  have ends := (inside x hx).2
  have floor := last.floor_le
  have positive : ∀ (l : List Nat) (k : Nat), 0 < k → 0 < l.foldl max k := by
    intro l
    induction l with
    | nil => exact fun _ h => h
    | cons a l ih => exact fun k h => ih (max k a) (by omega)
  have padded := le_roundUp (positive (ms.map (Member.packedAlign · pack)) 1 (by omega))
    (placeAll pack ⟨0, none⟩ ms).2.offset
  unfold sizeof
  omega

/-- Store the value of each member in its place. -/
def store {n : Nat} (l : List (ι × Span)) (value : ι → Nat) : BitVec n :=
  l.foldr (fun x m => write m x.2 (value x.1)) 0

theorem read_store {n : Nat} {l : List (ι × Span)} (hl : l.Pairwise fun x y => x.2.Disjoint y.2)
    (hn : ∀ x ∈ l, x.2.stop ≤ n) (value : ι → Nat) {x : ι × Span} (hx : x ∈ l) :
    read (store l value : BitVec n) x.2 = value x.1 % 2 ^ x.2.width := by
  induction l with
  | nil => cases hx
  | cons y l ih =>
    obtain ⟨apart, hl⟩ := List.pairwise_cons.mp hl
    show read (write (store l value) y.2 (value y.1)) x.2 = _
    obtain rfl | hx := List.mem_cons.mp hx
    · exact read_write_self (hn x (by simp)) _
    · rw [read_write_disjoint (apart x hx).symm]
      exact ih hl (fun z hz => hn z (by simp [hz])) hx

/-- A structure that is declared twice: the members of one declaration, packed to `pack` bytes, the
packed members of the other, and in which of these, from which bit on, it keeps a field of the
first one. -/
structure Mirror where
  Field : Type
  Part : Type
  [decidableEq : DecidableEq Part]
  pack : Nat
  fields : List (Member Field)
  parts : List (Member Part)
  kept : Field → Option (Part × Nat)

namespace Mirror

/-- The same members on both sides. -/
def ofNames [DecidableEq ι] (pack : Nat) (ms : List (Member ι)) : Mirror where
  Field := ι
  Part := ι
  pack := pack
  fields := ms
  parts := ms
  kept := fun f => some (f, 0)

/-- A byte array on the other side, with the bits at which fields are kept in it. -/
def ofArray (pack : Nat) (ms : List (Member ι)) (size : Nat) (kept : ι → Option Nat) : Mirror where
  Field := ι
  Part := Unit
  pack := pack
  fields := ms
  parts := [.array () 1 size]
  kept := fun f => (kept f).map ((), ·)

variable (s : Mirror)

instance : DecidableEq s.Part := s.decidableEq

def size : Nat := sizeof 1 s.parts

/-- The bytes that the second declaration lays out for a value. -/
def object (value : s.Part → Nat) : Object s.size := store (layout 1 s.parts) value

/-- The fields that are read from the bytes of the other side lie inside them and have the values
that were stored. -/
def Agrees (value : s.Part → Nat) : Prop :=
  ∀ x ∈ layout s.pack s.fields, x.2.stop ≤ 8 * s.size ∧
    ∀ y ∈ s.kept x.1, read (s.object value) x.2 = value y.1 / 2 ^ y.2 % 2 ^ x.2.width

/-- Each field lies where the other side keeps it. -/
def Matches : Prop :=
  (∀ m ∈ s.parts, m.WellFormed) ∧
  ∀ x ∈ layout s.pack s.fields, x.2.stop ≤ 8 * s.size ∧
    ∀ y ∈ s.kept x.1, ∃ z ∈ layout 1 s.parts, z.1 = y.1 ∧ x.2 = z.2.part y.2 x.2.width ∧
      y.2 + x.2.width ≤ z.2.width

instance : Decidable s.Matches := by
  unfold Matches
  infer_instance

variable {s}

theorem Matches.agrees (h : s.Matches) (value : s.Part → Nat) : s.Agrees value := by
  obtain ⟨wellFormed, fields⟩ := h
  obtain ⟨apart, inside⟩ := layout_placed wellFormed (Nat.one_pos)
  intro x hx
  obtain ⟨stop, kept⟩ := fields x hx
  refine ⟨stop, fun y hy => ?_⟩
  obtain ⟨z, hz, hp, hs, fits⟩ := kept y hy
  have stored : read (s.object value) z.2 = _ := read_store apart inside value hz
  calc read (s.object value) x.2
      = read (s.object value) (z.2.part y.2 x.2.width) := by rw [← hs]
    _ = read (s.object value) z.2 / 2 ^ y.2 % 2 ^ x.2.width := read_part fits
    _ = value y.1 % 2 ^ z.2.width / 2 ^ y.2 % 2 ^ x.2.width := by
        rw [stored, hp]
    _ = value y.1 / 2 ^ y.2 % 2 ^ x.2.width := ?_
  refine Nat.eq_of_testBit_eq fun k => ?_
  simp only [Nat.testBit_mod_two_pow, Nat.testBit_div_two_pow]
  by_cases hk : k < x.2.width
  · simp [hk, show k + y.2 < z.2.width by omega]
  · simp [hk]

/-- A field that ends behind the object is read from beyond it, whatever the value. -/
theorem not_agrees_of_beyond {x : s.Field × Span} (hx : x ∈ layout s.pack s.fields)
    (h : 8 * s.size < x.2.stop) (value : s.Part → Nat) : ¬s.Agrees value := by
  intro agrees
  have := (agrees x hx).1
  omega

end Mirror

end StructLayout
