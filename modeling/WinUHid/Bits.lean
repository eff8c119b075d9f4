import Mathlib.Data.BitVec
import Mathlib.Data.Nat.Bitwise

namespace Bits

/-- Consecutive bits of an object. -/
structure Span where
  start : Nat
  width : Nat
  deriving DecidableEq

namespace Span

def stop (s : Span) : Nat := s.start + s.width

instance : Membership Nat Span := ⟨fun s i => s.start ≤ i ∧ i < s.stop⟩

theorem mem_iff {s : Span} {i : Nat} : i ∈ s ↔ s.start ≤ i ∧ i < s.stop := Iff.rfl

instance (s : Span) (i : Nat) : Decidable (i ∈ s) := decidable_of_iff _ mem_iff.symm

/-- Bytes from `i` on. -/
def bytes (i n : Nat) : Span := ⟨8 * i, 8 * n⟩

/-- The `width` bits from bit `k` of a span on. -/
def part (s : Span) (k width : Nat) : Span := ⟨s.start + k, width⟩

def Disjoint (s t : Span) : Prop := s.stop ≤ t.start ∨ t.stop ≤ s.start

instance (s t : Span) : Decidable (s.Disjoint t) := by
  unfold Disjoint
  infer_instance

theorem Disjoint.symm {s t : Span} (h : s.Disjoint t) : t.Disjoint s := Or.symm h

theorem Disjoint.not_mem {s t : Span} (h : s.Disjoint t) {i : Nat} (hi : i ∈ s) : i ∉ t := by
  intro ht
  rw [mem_iff] at hi ht
  obtain h | h := h <;> omega

end Span

/-- The bytes of an object as one little-endian number: bit `8 * i + k` is bit `k` of byte `i`. -/
abbrev Object (size : Nat) := BitVec (8 * size)

variable {n : Nat}

/-- The unsigned number in a span. -/
def read (m : BitVec n) (s : Span) : Nat := (m.toNat >>> s.start) % 2 ^ s.width

/-- The bytes of an object in memory. -/
def toBytes {size : Nat} (m : Object size) : List UInt8 :=
  (List.range size).map fun i => UInt8.ofNat (read m (.bytes i 1))

theorem head?_toBytes {size : Nat} (h : 0 < size) (m : Object size) :
    (toBytes m).head? = some (UInt8.ofNat (read m (.bytes 0 1))) := by
  obtain ⟨k, rfl⟩ := Nat.exists_eq_succ_of_ne_zero h.ne'
  rw [toBytes, List.range_succ_eq_map]
  rfl

/-- Put a number into a span, truncated to its width. -/
def write (m : BitVec n) (s : Span) (v : Nat) : BitVec n :=
  (m &&& ~~~(BitVec.ofNat n ((2 ^ s.width - 1) <<< s.start))) |||
    BitVec.ofNat n ((v % 2 ^ s.width) <<< s.start)

theorem testBit_read (m : BitVec n) (s : Span) (k : Nat) :
    (read m s).testBit k = (decide (k < s.width) && m.getLsbD (s.start + k)) := by
  rw [read, Nat.testBit_mod_two_pow, Nat.testBit_shiftRight, BitVec.getLsbD]

theorem getLsbD_write (m : BitVec n) (s : Span) (v i : Nat) :
    (write m s v).getLsbD i =
      if i ∈ s then decide (i < n) && v.testBit (i - s.start) else m.getLsbD i := by
  have beyond : n ≤ i → m.getLsbD i = false := BitVec.getLsbD_of_ge m i
  rw [write, BitVec.getLsbD_or, BitVec.getLsbD_and, BitVec.getLsbD_not, BitVec.getLsbD_ofNat,
    BitVec.getLsbD_ofNat, Nat.testBit_shiftLeft, Nat.testBit_shiftLeft, Nat.testBit_two_pow_sub_one,
    Nat.testBit_mod_two_pow]
  by_cases hn : i < n
  · by_cases hi : i ∈ s
    · obtain ⟨hl, hr⟩ := Span.mem_iff.mp hi
      have hw : i - s.start < s.width := by
        unfold Span.stop at hr
        omega
      simp [hi, hn, hl, hw]
    · by_cases hl : s.start ≤ i
      · have hw : ¬i - s.start < s.width := by
          rw [Span.mem_iff, Span.stop] at hi
          omega
        simp [hi, hn, hw]
      · simp [hi, hn, hl]
  · simp [hn, beyond (by omega)]

theorem read_ext {m m' : BitVec n} {s : Span} :
    read m s = read m' s ↔ ∀ i ∈ s, m.getLsbD i = m'.getLsbD i := by
  constructor
  · intro h i hi
    obtain ⟨hl, hr⟩ := Span.mem_iff.mp hi
    have bit := congrArg (fun v => v.testBit (i - s.start)) h
    simpa [testBit_read, show i - s.start < s.width by unfold Span.stop at hr; omega,
      Nat.add_sub_cancel' hl] using bit
  · intro h
    refine Nat.eq_of_testBit_eq fun k => ?_
    rw [testBit_read, testBit_read]
    by_cases hk : k < s.width
    · rw [h (s.start + k) (Span.mem_iff.mpr ⟨by omega, by unfold Span.stop; omega⟩)]
    · simp [hk]

theorem read_write_self {m : BitVec n} {s : Span} (h : s.stop ≤ n) (v : Nat) :
    read (write m s v) s = v % 2 ^ s.width := by
  refine Nat.eq_of_testBit_eq fun k => ?_
  rw [testBit_read, getLsbD_write, Nat.testBit_mod_two_pow]
  by_cases hk : k < s.width
  · have hm : s.start + k ∈ s := Span.mem_iff.mpr ⟨by omega, by unfold Span.stop; omega⟩
    have hn : s.start + k < n := by
      unfold Span.stop at h
      omega
    simp [hk, hm, hn]
  · simp [hk]

theorem read_write_disjoint {m : BitVec n} {s t : Span} (h : s.Disjoint t) (v : Nat) :
    read (write m t v) s = read m s := by
  refine read_ext.mpr fun i hi => ?_
  rw [getLsbD_write, if_neg (h.not_mem hi)]

theorem read_part {m : BitVec n} {s : Span} {k width : Nat} (h : k + width ≤ s.width) :
    read m (s.part k width) = read m s / 2 ^ k % 2 ^ width := by
  refine Nat.eq_of_testBit_eq fun j => ?_
  rw [testBit_read, Nat.testBit_mod_two_pow, Nat.testBit_div_two_pow, testBit_read]
  by_cases hj : j < width
  · have hw : j + k < s.width := by omega
    simp [Span.part, hj, hw, show s.start + k + j = s.start + (j + k) by omega]
  · simp [Span.part, hj]

end Bits
