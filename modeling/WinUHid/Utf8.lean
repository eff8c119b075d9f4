import Mathlib.Data.List.Basic

namespace Utf8

def encode (s : List Char) : List UInt8 := s.flatMap String.utf8EncodeChar

@[simp] theorem encode_nil : encode [] = [] := rfl

@[simp] theorem encode_cons (c : Char) (s : List Char) :
    encode (c :: s) = String.utf8EncodeChar c ++ encode s := List.flatMap_cons

theorem encodeChar_ascii {c : Char} (h : c.toNat ≤ 0x7F) :
    String.utf8EncodeChar c = [UInt8.ofNat c.toNat] := if_pos h

def replacement : Char := '\uFFFD'

def isTail (b : UInt8) : Bool := 0x80 ≤ b && b ≤ 0xBF

/-- What may follow the first byte of a character of three bytes. -/
def isSecondOfThree (a b : UInt8) : Bool :=
  (a == 0xE0 && 0xA0 ≤ b && b ≤ 0xBF) || (0xE1 ≤ a && a ≤ 0xEC && isTail b) ||
    (a == 0xED && 0x80 ≤ b && b ≤ 0x9F) || (0xEE ≤ a && a ≤ 0xEF && isTail b)

def isSecondOfFour (a b : UInt8) : Bool :=
  (a == 0xF0 && 0x90 ≤ b && b ≤ 0xBF) || (0xF1 ≤ a && a ≤ 0xF3 && isTail b) ||
    (a == 0xF4 && 0x80 ≤ b && b ≤ 0x8F)

/-- The character that begins with `a`, and what follows it. What is not UTF-8 is replaced up to the
first byte that does not belong to a character. -/
def next (a : UInt8) (l : List UInt8) : Char × List UInt8 :=
  if a < 0x80 then (Char.ofNat a.toNat, l)
  else if 0xC2 ≤ a ∧ a ≤ 0xDF then
    match l with
    | b :: l' =>
      if isTail b then (Char.ofNat ((a.toNat - 0xC0) * 64 + (b.toNat - 0x80)), l')
      else (replacement, l)
    | [] => (replacement, l)
  else if 0xE0 ≤ a ∧ a ≤ 0xEF then
    match l with
    | b :: c :: l' =>
      if isSecondOfThree a b then
        if isTail c then
          (Char.ofNat ((a.toNat - 0xE0) * 4096 + (b.toNat - 0x80) * 64 + (c.toNat - 0x80)), l')
        else (replacement, c :: l')
      else (replacement, l)
    | [b] => if isSecondOfThree a b then (replacement, []) else (replacement, l)
    | [] => (replacement, l)
  else if 0xF0 ≤ a ∧ a ≤ 0xF4 then
    match l with
    | b :: c :: d :: l' =>
      if isSecondOfFour a b then
        if isTail c then
          if isTail d then
            (Char.ofNat ((a.toNat - 0xF0) * 262144 + (b.toNat - 0x80) * 4096 +
              (c.toNat - 0x80) * 64 + (d.toNat - 0x80)), l')
          else (replacement, d :: l')
        else (replacement, c :: d :: l')
      else (replacement, l)
    | [b, c] =>
      if isSecondOfFour a b then
        if isTail c then (replacement, []) else (replacement, [c])
      else (replacement, l)
    | [b] => if isSecondOfFour a b then (replacement, []) else (replacement, l)
    | [] => (replacement, l)
  else (replacement, l)

theorem length_next_le (a : UInt8) (l : List UInt8) : (next a l).2.length ≤ l.length := by
  unfold next
  repeat' split
  all_goals simp only [List.length_cons, List.length_nil]
  all_goals omega

/-- Decoding that replaces what is not UTF-8. -/
def decodeLossy : List UInt8 → List Char
  | [] => []
  | a :: l =>
    have := length_next_le a l
    (next a l).1 :: decodeLossy (next a l).2
termination_by l => l.length
decreasing_by simp only [List.length_cons]; omega

@[simp] theorem decodeLossy_nil : decodeLossy [] = [] := by simp [decodeLossy]

theorem decodeLossy_cons (a : UInt8) (l : List UInt8) :
    decodeLossy (a :: l) = (next a l).1 :: decodeLossy (next a l).2 := by rw [decodeLossy]

section Next

variable {a b c d : UInt8} (l : List UInt8)

theorem next_one (h : a.toNat < 0x80) : next a l = (Char.ofNat a.toNat, l) :=
  if_pos (UInt8.lt_iff_toNat_lt.mpr h)

theorem not_ascii (h : 0x80 ≤ a.toNat) : ¬a < 0x80 := by
  simp only [UInt8.lt_iff_toNat_lt, UInt8.reduceToNat]
  omega

theorem not_between {first last : UInt8} (h : last.toNat < a.toNat) :
    ¬(first ≤ a ∧ a ≤ last) := by
  simp only [UInt8.le_iff_toNat_le]
  omega

theorem next_two (ha : 0xC2 ≤ a.toNat ∧ a.toNat ≤ 0xDF) (hb : isTail b = true) :
    next a (b :: l) = (Char.ofNat ((a.toNat - 0xC0) * 64 + (b.toNat - 0x80)), l) := by
  have n1 : ¬a < 0x80 := not_ascii (by omega)
  have n2 : 0xC2 ≤ a ∧ a ≤ 0xDF := ha
  simp only [next, n1, n2, hb, if_false, if_true, and_self]

theorem next_three (ha : 0xE0 ≤ a.toNat ∧ a.toNat ≤ 0xEF) (hb : isSecondOfThree a b = true)
    (hc : isTail c = true) :
    next a (b :: c :: l) =
      (Char.ofNat ((a.toNat - 0xE0) * 4096 + (b.toNat - 0x80) * 64 + (c.toNat - 0x80)), l) := by
  have n1 : ¬a < 0x80 := not_ascii (by omega)
  have n2 : ¬(0xC2 ≤ a ∧ a ≤ 0xDF) := not_between (show 0xDF < a.toNat by omega)
  have n3 : 0xE0 ≤ a ∧ a ≤ 0xEF := ha
  simp only [next, n1, n2, n3, hb, hc, if_false, if_true, and_self]

theorem next_four (ha : 0xF0 ≤ a.toNat ∧ a.toNat ≤ 0xF4) (hb : isSecondOfFour a b = true)
    (hc : isTail c = true) (hd : isTail d = true) :
    next a (b :: c :: d :: l) =
      (Char.ofNat ((a.toNat - 0xF0) * 262144 + (b.toNat - 0x80) * 4096 + (c.toNat - 0x80) * 64 +
        (d.toNat - 0x80)), l) := by
  have n1 : ¬a < 0x80 := not_ascii (by omega)
  have n2 : ¬(0xC2 ≤ a ∧ a ≤ 0xDF) := not_between (show 0xDF < a.toNat by omega)
  have n3 : ¬(0xE0 ≤ a ∧ a ≤ 0xEF) := not_between (show 0xEF < a.toNat by omega)
  have n4 : 0xF0 ≤ a ∧ a ≤ 0xF4 := ha
  simp only [next, n1, n2, n3, n4, hb, hc, hd, if_false, if_true, and_self]

end Next

theorem toNat_tail (n : Nat) : (UInt8.ofNat (n % 64 + 128)).toNat = n % 64 + 128 := by
  rw [UInt8.toNat_ofNat']
  omega

theorem isTail_iff {b : UInt8} : isTail b = true ↔ 0x80 ≤ b.toNat ∧ b.toNat ≤ 0xBF := by
  simp only [isTail, Bool.and_eq_true, decide_eq_true_eq, UInt8.le_iff_toNat_le, UInt8.reduceToNat]

theorem isTail_ofNat (n : Nat) : isTail (UInt8.ofNat (n % 64 + 128)) = true := by
  rw [isTail_iff, toNat_tail]
  omega

theorem isSecondOfThree_iff {a b : UInt8} : isSecondOfThree a b = true ↔
    (a.toNat = 0xE0 ∧ 0xA0 ≤ b.toNat ∧ b.toNat ≤ 0xBF) ∨
    (0xE1 ≤ a.toNat ∧ a.toNat ≤ 0xEC ∧ 0x80 ≤ b.toNat ∧ b.toNat ≤ 0xBF) ∨
    (a.toNat = 0xED ∧ 0x80 ≤ b.toNat ∧ b.toNat ≤ 0x9F) ∨
    (0xEE ≤ a.toNat ∧ a.toNat ≤ 0xEF ∧ 0x80 ≤ b.toNat ∧ b.toNat ≤ 0xBF) := by
  simp only [isSecondOfThree, Bool.or_eq_true, Bool.and_eq_true, isTail_iff, beq_iff_eq,
    decide_eq_true_eq, UInt8.le_iff_toNat_le, ← UInt8.toNat_inj, UInt8.reduceToNat]
  omega

theorem isSecondOfFour_iff {a b : UInt8} : isSecondOfFour a b = true ↔
    (a.toNat = 0xF0 ∧ 0x90 ≤ b.toNat ∧ b.toNat ≤ 0xBF) ∨
    (0xF1 ≤ a.toNat ∧ a.toNat ≤ 0xF3 ∧ 0x80 ≤ b.toNat ∧ b.toNat ≤ 0xBF) ∨
    (a.toNat = 0xF4 ∧ 0x80 ≤ b.toNat ∧ b.toNat ≤ 0x8F) := by
  simp only [isSecondOfFour, Bool.or_eq_true, Bool.and_eq_true, isTail_iff, beq_iff_eq,
    decide_eq_true_eq, UInt8.le_iff_toNat_le, ← UInt8.toNat_inj, UInt8.reduceToNat]
  omega

theorem ofNat_eq {c : Char} {n : Nat} (h : n = c.toNat) : Char.ofNat n = c := by
  rw [h, Char.ofNat_toNat]

/-- The second bytes and the values leave out the surrogates, and so do characters. -/
theorem decodeLossy_encodeChar (c : Char) (l : List UInt8) :
    decodeLossy (String.utf8EncodeChar c ++ l) = c :: decodeLossy l := by
  have hv : c.val.toNat = c.toNat := rfl
  have valid : c.toNat < 0xD800 ∨ 0xDFFF < c.toNat ∧ c.toNat < 0x110000 := c.valid
  unfold String.utf8EncodeChar
  simp only [hv]
  split
  next h1 =>
    have lead : (UInt8.ofNat c.toNat).toNat = c.toNat := by
      rw [UInt8.toNat_ofNat']
      omega
    rw [List.singleton_append, decodeLossy_cons, next_one l (by omega), ofNat_eq lead]
  next h1 =>
    split
    next h2 =>
      have lead : (UInt8.ofNat (c.toNat / 64 % 32 + 192)).toNat = c.toNat / 64 + 192 := by
        rw [UInt8.toNat_ofNat']
        omega
      rw [List.cons_append, List.singleton_append, decodeLossy_cons,
        next_two l (by omega) (isTail_ofNat _), ofNat_eq (c := c) (by rw [lead, toNat_tail]; omega)]
    next h2 =>
      split
      next h3 =>
        have lead : (UInt8.ofNat (c.toNat / 4096 % 16 + 224)).toNat = c.toNat / 4096 + 224 := by
          rw [UInt8.toNat_ofNat']
          omega
        have second : isSecondOfThree (UInt8.ofNat (c.toNat / 4096 % 16 + 224))
            (UInt8.ofNat (c.toNat / 64 % 64 + 128)) = true := by
          rw [isSecondOfThree_iff, lead, toNat_tail]
          omega
        rw [List.cons_append, List.cons_append, List.singleton_append, decodeLossy_cons,
          next_three l (by omega) second (isTail_ofNat _),
          ofNat_eq (c := c) (by rw [lead, toNat_tail, toNat_tail]; omega)]
      next h3 =>
        have lead : (UInt8.ofNat (c.toNat / 262144 % 8 + 240)).toNat = c.toNat / 262144 + 240 := by
          rw [UInt8.toNat_ofNat']
          omega
        have second : isSecondOfFour (UInt8.ofNat (c.toNat / 262144 % 8 + 240))
            (UInt8.ofNat (c.toNat / 4096 % 64 + 128)) = true := by
          rw [isSecondOfFour_iff, lead, toNat_tail]
          omega
        rw [List.cons_append, List.cons_append, List.cons_append, List.singleton_append,
          decodeLossy_cons, next_four l (by omega) second (isTail_ofNat _) (isTail_ofNat _),
          ofNat_eq (c := c) (by rw [lead, toNat_tail, toNat_tail, toNat_tail]; omega)]

/-- Nothing is lost of what is UTF-8. -/
@[simp] theorem decodeLossy_encode (s : List Char) : decodeLossy (encode s) = s := by
  induction s with
  | nil => rw [encode_nil, decodeLossy_nil]
  | cons c s ih => rw [encode_cons, decodeLossy_encodeChar, ih]

theorem encode_injective : Function.Injective encode :=
  Function.LeftInverse.injective decodeLossy_encode

end Utf8
