import WinUHid.Utf8
import Mathlib.Tactic.Common

namespace WinUHid

open Utf8

def percentByte : UInt8 := 0x25
def plusByte : UInt8 := 0x2B
def spaceByte : UInt8 := 0x20

/-- `hex_nibble` -/
def hexNibble (b : UInt8) : Option UInt8 :=
  if 0x30 ≤ b ∧ b ≤ 0x39 then some (b - 0x30)
  else if 0x61 ≤ b ∧ b ≤ 0x66 then some (b - 0x61 + 10)
  else if 0x41 ≤ b ∧ b ≤ 0x46 then some (b - 0x41 + 10)
  else none

/-- The loop of `percent_decode`; `none` is a panic at an index that is out of bounds. -/
def percentDecodeLoop (bytes : List UInt8) (i : Nat) (out : List UInt8) : Option (List UInt8) :=
  if i < bytes.length then
    match bytes[i]? with
    | none => none
    | some b =>
      if b = percentByte ∧ i + 2 < bytes.length then
        match bytes[i + 1]?, bytes[i + 2]? with
        | some b1, some b2 =>
          match hexNibble b1, hexNibble b2 with
          | some h, some l => percentDecodeLoop bytes (i + 3) (out ++ [(h <<< 4) ||| l])
          | _, _ => percentDecodeLoop bytes (i + 1) (out ++ [percentByte])
        | _, _ => none
      else if b = plusByte then percentDecodeLoop bytes (i + 1) (out ++ [spaceByte])
      else percentDecodeLoop bytes (i + 1) (out ++ [b])
  else some out
termination_by bytes.length - i

/-- `percent_decode` -/
def percentDecode (s : List UInt8) : Option (List Char) :=
  (percentDecodeLoop s 0 []).map decodeLossy

/-- The same on lists, without positions. -/
def unescape : List UInt8 → List UInt8
  | [] => []
  | a :: b :: c :: l =>
    if a = percentByte then
      match hexNibble b, hexNibble c with
      | some h, some l' => ((h <<< 4) ||| l') :: unescape l
      | _, _ => percentByte :: unescape (b :: c :: l)
    else (if a = plusByte then spaceByte else a) :: unescape (b :: c :: l)
  | a :: l => (if a = plusByte then spaceByte else a) :: unescape l

theorem unescape_cons_of_ne {a : UInt8} (h : a ≠ percentByte) (l : List UInt8) :
    unescape (a :: l) = (if a = plusByte then spaceByte else a) :: unescape l := by
  cases l with
  | nil => simp [unescape]
  | cons b l =>
    cases l with
    | nil => simp [unescape]
    | cons c l => simp [unescape, h]

theorem unescape_cons_of_short {a : UInt8} {l : List UInt8} (h : l.length < 2) :
    unescape (a :: l) = (if a = plusByte then spaceByte else a) :: unescape l := by
  cases l with
  | nil => simp [unescape]
  | cons b l =>
    cases l with
    | nil => simp [unescape]
    | cons c l =>
      simp only [List.length_cons] at h
      omega

/-- The loop stays in bounds, and decodes from where it is to the end. -/
theorem percentDecodeLoop_eq (bytes : List UInt8) (i : Nat) (out : List UInt8) :
    percentDecodeLoop bytes i out = some (out ++ unescape (bytes.drop i)) := by
  induction hn : bytes.length - i using Nat.strongRecOn generalizing i out with
  | _ n ih =>
    rw [percentDecodeLoop]
    by_cases hi : i < bytes.length
    · have goOn : ∀ k o, 0 < k → percentDecodeLoop bytes (i + k) o =
          some (o ++ unescape (bytes.drop (i + k))) := fun k o hk => ih _ (by omega) _ _ rfl
      rw [if_pos hi, List.getElem?_eq_getElem hi, List.drop_eq_getElem_cons hi]
      dsimp only
      by_cases hp : bytes[i] = percentByte
      · by_cases h2 : i + 2 < bytes.length
        · have h1 : i + 1 < bytes.length := by omega
          rw [if_pos ⟨hp, h2⟩, List.getElem?_eq_getElem h1, List.getElem?_eq_getElem h2, hp,
            List.drop_eq_getElem_cons h1, List.drop_eq_getElem_cons h2]
          dsimp only
          rw [unescape, if_pos rfl]
          cases hx : hexNibble bytes[i + 1] with
          | none =>
            dsimp only
            rw [goOn 1 _ (by omega), List.drop_eq_getElem_cons h1, List.drop_eq_getElem_cons h2]
            simp
          | some h =>
            cases hy : hexNibble bytes[i + 2] with
            | none =>
              dsimp only
              rw [goOn 1 _ (by omega), List.drop_eq_getElem_cons h1, List.drop_eq_getElem_cons h2]
              simp
            | some l =>
              dsimp only
              rw [goOn 3 _ (by omega)]
              simp
        · have short : (bytes.drop (i + 1)).length < 2 := by
            rw [List.length_drop]
            omega
          rw [if_neg (fun h => h2 h.2), unescape_cons_of_short short]
          split <;> simp [goOn 1]
      · rw [if_neg (fun h => hp h.1), unescape_cons_of_ne hp]
        split <;> simp [goOn 1]
    · rw [if_neg hi, List.drop_eq_nil_of_le (by omega)]
      simp [unescape]

@[simp] theorem percentDecode_eq (s : List UInt8) :
    percentDecode s = some (decodeLossy (unescape s)) := by
  rw [percentDecode, percentDecodeLoop_eq]
  rfl

def hexDigit (n : UInt8) : UInt8 := if n < 10 then 0x30 + n else 0x41 + (n - 10)

/-- The characters that `encodeURIComponent` leaves alone: letters, digits and `-_.!~*'()`. -/
def isUnreserved (b : UInt8) : Bool :=
  (0x41 ≤ b && b ≤ 0x5A) || (0x61 ≤ b && b ≤ 0x7A) || (0x30 ≤ b && b ≤ 0x39) ||
    [0x2D, 0x5F, 0x2E, 0x21, 0x7E, 0x2A, 0x27, 0x28, 0x29].contains b

def escapeByte (b : UInt8) : List UInt8 :=
  if isUnreserved b then [b] else [percentByte, hexDigit (b >>> 4), hexDigit (b &&& 0x0F)]

/-- `encodeURIComponent` of ECMAScript, on a string of Unicode scalar values. -/
def encodeURIComponent (s : List Char) : List UInt8 := (encode s).flatMap escapeByte

theorem forall_byte {P : UInt8 → Prop} (h : ∀ k < 256, P (UInt8.ofNat k)) (b : UInt8) : P b := by
  have := h b.toNat b.toNat_lt
  rwa [UInt8.ofNat_toNat] at this

theorem unescape_escapeByte (b : UInt8) (l : List UInt8) :
    unescape (escapeByte b ++ l) = b :: unescape l := by
  unfold escapeByte
  cases hu : isUnreserved b with
  | true =>
    have plain : b ≠ percentByte ∧ b ≠ plusByte := by
      constructor <;> rintro rfl <;> revert hu <;> decide
    rw [if_pos rfl, List.singleton_append, unescape_cons_of_ne plain.1, if_neg plain.2]
  | false =>
    have digits : ∀ b : UInt8, hexNibble (hexDigit (b >>> 4)) = some (b >>> 4) ∧
        hexNibble (hexDigit (b &&& 0x0F)) = some (b &&& 0x0F) ∧
        ((b >>> 4) <<< 4) ||| (b &&& 0x0F) = b :=
      forall_byte (by decide +kernel)
    obtain ⟨high, low, joined⟩ := digits b
    rw [if_neg (by decide)]
    simp only [List.cons_append, List.nil_append, unescape, if_true, high, low, joined]

/-- `percent_decode` undoes the encoding of the frontend. -/
theorem percentDecode_encodeURIComponent (s : List Char) :
    percentDecode (encodeURIComponent s) = some s := by
  have bytes : ∀ l : List UInt8, unescape (l.flatMap escapeByte) = l := by
    intro l
    induction l with
    | nil => rfl
    | cons b l ih => rw [List.flatMap_cons, unescape_escapeByte, ih]
  rw [percentDecode_eq, encodeURIComponent, bytes, decodeLossy_encode]

end WinUHid
