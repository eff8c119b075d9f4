import Mathlib.Data.Nat.Bitwise
import Mathlib.Tactic.Ring

namespace LittleEndian

/-- The number a sequence of bytes stands for, least significant byte first. -/
def value : List UInt8 → Nat
  | [] => 0
  | b :: bs => b.toNat + 256 * value bs

/-- The lowest `width` bytes of `n`, least significant first. -/
def bytes : Nat → Nat → List UInt8
  | 0, _ => []
  | width + 1, n => UInt8.ofNat n :: bytes width (n / 256)

@[simp] theorem length_bytes (width n : Nat) : (bytes width n).length = width := by
  induction width generalizing n with
  | zero => rfl
  | succ width ih => simp [bytes, ih]

theorem value_bytes (width n : Nat) : value (bytes width n) = n % 256 ^ width := by
  induction width generalizing n with
  | zero => simp [bytes, value, Nat.mod_one]
  | succ width ih =>
    have hb : (UInt8.ofNat n).toNat = n % 256 := by simp
    rw [bytes, value, ih, hb, pow_succ, mul_comm (256 ^ width) 256, Nat.mod_mul]

theorem value_lt (bs : List UInt8) : value bs < 256 ^ bs.length := by
  induction bs with
  | nil => simp [value]
  | cons b bs ih =>
    have hb := b.toNat_lt
    rw [value, List.length_cons, pow_succ]
    omega

/-- A byte or-ed in above the bits `a` has is added to it. -/
theorem toNat_or_shiftLeft {a k : UInt32} (b : UInt8) (hk : k.toNat ≤ 24)
    (ha : a.toNat < 2 ^ k.toNat) :
    (a ||| (b.toUInt32 <<< k)).toNat = a.toNat + b.toNat * 2 ^ k.toNat := by
  have hb := b.toNat_lt
  have hpow : 2 ^ k.toNat ≤ 2 ^ 24 := Nat.pow_le_pow_right (by omega) hk
  have hlt : b.toNat * 2 ^ k.toNat < 2 ^ 32 := by
    calc b.toNat * 2 ^ k.toNat ≤ 255 * 2 ^ 24 := Nat.mul_le_mul (by omega) hpow
      _ < 2 ^ 32 := by decide
  have hshift : (b.toUInt32 <<< k).toNat = b.toNat <<< k.toNat := by
    rw [UInt32.toNat_shiftLeft, UInt8.toNat_toUInt32, Nat.mod_eq_of_lt (by omega : k.toNat < 32),
      Nat.mod_eq_of_lt (by rw [Nat.shiftLeft_eq]; exact hlt)]
  rw [UInt32.toNat_or, hshift, Nat.lor_comm, ← Nat.shiftLeft_add_eq_or_of_lt ha,
    Nat.shiftLeft_eq, Nat.add_comm]

theorem toNat_two_bytes (b0 b1 : UInt8) :
    (b0.toUInt32 ||| (b1.toUInt32 <<< 8)).toNat = value [b0, b1] := by
  have h0 := b0.toNat_lt
  rw [toNat_or_shiftLeft b1 (by decide) (by simpa using h0)]
  simp [value]
  omega

theorem toNat_four_bytes (b0 b1 b2 b3 : UInt8) :
    (b0.toUInt32 ||| (b1.toUInt32 <<< 8) ||| (b2.toUInt32 <<< 16) ||| (b3.toUInt32 <<< 24)).toNat =
      value [b0, b1, b2, b3] := by
  have h0 := b0.toNat_lt
  have h1 := b1.toNat_lt
  have h2 := b2.toNat_lt
  have e1 := toNat_two_bytes b0 b1
  have e2 := toNat_or_shiftLeft (a := b0.toUInt32 ||| (b1.toUInt32 <<< 8)) (k := 16) b2 (by decide)
    (by rw [e1]; simp [value]; omega)
  rw [toNat_or_shiftLeft b3 (by decide) (by rw [e2, e1]; simp [value]; omega), e2, e1]
  simp [value]
  omega

end LittleEndian
