import Mathlib

/-!
IEEE 754 binary interchange formats at the level of bit patterns, and the two numeric casts
between them and unsigned integers.

`roundNat` is the pattern of the float nearest to a natural number, ties to even: the cast of
an integer to a float. `castToUnsigned` is the cast of a float to an unsigned integer of `w`
bits: rounded toward zero, `NaN` to zero, and saturated at both ends. Both are plain
arithmetic on the sign, exponent and fraction fields, so they evaluate on numerals.
-/

set_option autoImplicit false
set_option relaxedAutoImplicit false

namespace WasmedgeExecutor.Lib.BinaryFloat

/-- A binary interchange format: the widths of its exponent and fraction fields. -/
structure Format where
  exponentBits : Nat
  fractionBits : Nat

/-- `binary32`, the format of `f32`. -/
def binary32 : Format := ⟨8, 23⟩

/-- `binary64`, the format of `f64`. -/
def binary64 : Format := ⟨11, 52⟩

namespace Format

variable (f : Format)

def bias : Nat := 2 ^ (f.exponentBits - 1) - 1

def maxExponent : Nat := 2 ^ f.exponentBits - 1

def sign (bits : Nat) : Bool := bits.testBit (f.exponentBits + f.fractionBits)

def exponent (bits : Nat) : Nat := bits / 2 ^ f.fractionBits % 2 ^ f.exponentBits

def fraction (bits : Nat) : Nat := bits % 2 ^ f.fractionBits

/-- The positive pattern with the given biased exponent and fraction; an exponent that does
not fit gives infinity. -/
def encode (exponent fraction : Nat) : Nat :=
  if f.maxExponent ≤ exponent then f.maxExponent * 2 ^ f.fractionBits
  else exponent * 2 ^ f.fractionBits + fraction

/-- The float nearest to `n`, ties to even. The significand keeps `fractionBits + 1` bits;
when rounding carries out of them the exponent grows by one. -/
def roundNat (n : Nat) : Nat :=
  if n = 0 then 0
  else
    let k := Nat.log2 n
    if k ≤ f.fractionBits then
      f.encode (k + f.bias) (n * 2 ^ (f.fractionBits - k) - 2 ^ f.fractionBits)
    else
      let shift := k - f.fractionBits
      let q := n / 2 ^ shift
      let r := n % 2 ^ shift
      let half := 2 ^ (shift - 1)
      let rounded := if half < r ∨ (r = half ∧ q % 2 = 1) then q + 1 else q
      if rounded = 2 ^ (f.fractionBits + 1) then f.encode (k + 1 + f.bias) 0
      else f.encode (k + f.bias) (rounded - 2 ^ f.fractionBits)

/-- The integer part of a finite, non-negative float. -/
def truncate (bits : Nat) : Nat :=
  let e := f.exponent bits
  let significand := 2 ^ f.fractionBits + f.fraction bits
  if e = 0 then 0
  else if f.bias + f.fractionBits ≤ e then significand * 2 ^ (e - (f.bias + f.fractionBits))
  else significand / 2 ^ (f.bias + f.fractionBits - e)

/-- The cast of a float to an unsigned integer of `w` bits: toward zero, `NaN` to zero,
negative values and negative infinity to zero, values past the top to `2 ^ w - 1`. -/
def castToUnsigned (w bits : Nat) : Nat :=
  if f.exponent bits = f.maxExponent then
    if f.fraction bits = 0 ∧ f.sign bits = false then 2 ^ w - 1 else 0
  else if f.sign bits then 0
  else min (f.truncate bits) (2 ^ w - 1)

/-! ## Integers that the format holds exactly -/

theorem exponent_pattern {e m : Nat} (small : e < 2 ^ f.exponentBits) (low : m < 2 ^ f.fractionBits) :
    f.exponent (e * 2 ^ f.fractionBits + m) = e := by
  have pos : 0 < 2 ^ f.fractionBits := Nat.two_pow_pos _
  rw [exponent, Nat.add_comm, Nat.add_mul_div_right _ _ pos, Nat.div_eq_of_lt low, Nat.zero_add,
    Nat.mod_eq_of_lt small]

theorem fraction_pattern {e m : Nat} (low : m < 2 ^ f.fractionBits) :
    f.fraction (e * 2 ^ f.fractionBits + m) = m := by
  rw [fraction, Nat.add_comm, Nat.add_mul_mod_self_right, Nat.mod_eq_of_lt low]

theorem sign_pattern {e m : Nat} (small : e < 2 ^ f.exponentBits) (low : m < 2 ^ f.fractionBits) :
    f.sign (e * 2 ^ f.fractionBits + m) = false := by
  apply Nat.testBit_lt_two_pow
  have step : (e + 1) * 2 ^ f.fractionBits ≤ 2 ^ f.exponentBits * 2 ^ f.fractionBits :=
    Nat.mul_le_mul_right _ small
  rw [Nat.pow_add]
  rw [Nat.add_mul, Nat.one_mul] at step
  omega

theorem roundNat_of_lt {n : Nat} (pos : 0 < n) (exact : n < 2 ^ (f.fractionBits + 1))
    (fits : f.bias + f.fractionBits < f.maxExponent) :
    f.roundNat n = (Nat.log2 n + f.bias) * 2 ^ f.fractionBits +
      (n * 2 ^ (f.fractionBits - Nat.log2 n) - 2 ^ f.fractionBits) := by
  have leading : Nat.log2 n ≤ f.fractionBits :=
    Nat.le_of_lt_succ ((Nat.log2_lt (by omega)).mpr exact)
  simp only [roundNat, if_neg (Nat.ne_of_gt pos), if_pos leading, encode]
  rw [if_neg (by omega)]

theorem roundNat_lt_of_lt {n : Nat} (exact : n < 2 ^ (f.fractionBits + 1))
    (fits : f.bias + f.fractionBits < f.maxExponent) :
    f.roundNat n < 2 ^ (f.exponentBits + f.fractionBits) := by
  rcases Nat.eq_zero_or_pos n with rfl | pos
  · simp [roundNat]
  have leading : Nat.log2 n ≤ f.fractionBits :=
    Nat.le_of_lt_succ ((Nat.log2_lt (by omega)).mpr exact)
  have upper : n < 2 ^ (Nat.log2 n + 1) := Nat.lt_log2_self
  rw [roundNat_of_lt f pos exact fits]
  generalize Nat.log2 n = k at leading upper ⊢
  have scale : n * 2 ^ (f.fractionBits - k) < 2 * 2 ^ f.fractionBits := by
    calc n * 2 ^ (f.fractionBits - k) < 2 ^ (k + 1) * 2 ^ (f.fractionBits - k) :=
          Nat.mul_lt_mul_of_pos_right upper (Nat.two_pow_pos _)
      _ = 2 * 2 ^ f.fractionBits := by rw [← Nat.pow_add, ← Nat.pow_succ']; congr 1; omega
  have small : k + f.bias < 2 ^ f.exponentBits := by simp only [maxExponent] at fits; omega
  have step : (k + f.bias + 1) * 2 ^ f.fractionBits ≤ 2 ^ f.exponentBits * 2 ^ f.fractionBits :=
    Nat.mul_le_mul_right _ small
  rw [Nat.pow_add]
  rw [Nat.add_mul, Nat.one_mul] at step
  omega

theorem castToUnsigned_roundNat {n w : Nat} (exact : n < 2 ^ (f.fractionBits + 1))
    (width : n < 2 ^ w) (fits : f.bias + f.fractionBits < f.maxExponent) (biased : 0 < f.bias) :
    f.castToUnsigned w (f.roundNat n) = n := by
  rcases Nat.eq_zero_or_pos n with rfl | pos
  · have top : 0 < f.maxExponent := by omega
    simp [castToUnsigned, roundNat, exponent, sign, truncate, Nat.ne_of_lt top]
  have leading : Nat.log2 n ≤ f.fractionBits :=
    Nat.le_of_lt_succ ((Nat.log2_lt (by omega)).mpr exact)
  have lower : 2 ^ Nat.log2 n ≤ n := Nat.log2_self_le (by omega)
  have upper : n < 2 ^ (Nat.log2 n + 1) := Nat.lt_log2_self
  rw [roundNat_of_lt f pos exact fits]
  generalize Nat.log2 n = k at leading lower upper ⊢
  have scale : n * 2 ^ (f.fractionBits - k) < 2 ^ (f.fractionBits + 1) := by
    calc n * 2 ^ (f.fractionBits - k) < 2 ^ (k + 1) * 2 ^ (f.fractionBits - k) :=
          Nat.mul_lt_mul_of_pos_right upper (Nat.two_pow_pos _)
      _ = 2 ^ (f.fractionBits + 1) := by rw [← Nat.pow_add]; congr 1; omega
  have floor : 2 ^ f.fractionBits ≤ n * 2 ^ (f.fractionBits - k) := by
    calc 2 ^ f.fractionBits = 2 ^ k * 2 ^ (f.fractionBits - k) := by
          rw [← Nat.pow_add]; congr 1; omega
      _ ≤ n * 2 ^ (f.fractionBits - k) := Nat.mul_le_mul_right _ lower
  have low : n * 2 ^ (f.fractionBits - k) - 2 ^ f.fractionBits < 2 ^ f.fractionBits := by
    rw [Nat.pow_succ] at scale
    omega
  have below : k + f.bias < f.maxExponent := by omega
  have small : k + f.bias < 2 ^ f.exponentBits := by simp only [maxExponent] at below; omega
  simp only [castToUnsigned, exponent_pattern f small low, fraction_pattern f low,
    sign_pattern f small low, Nat.ne_of_lt below, if_false, Bool.false_eq_true, truncate]
  rw [if_neg (by omega), Nat.add_sub_cancel' floor]
  split
  · case isTrue whole =>
    have same : k = f.fractionBits := by omega
    subst same
    have none : f.fractionBits + f.bias - (f.bias + f.fractionBits) = 0 := by omega
    rw [none, Nat.sub_self, Nat.pow_zero, Nat.mul_one, Nat.mul_one]
    omega
  · case isFalse part =>
    have shift : f.bias + f.fractionBits - (k + f.bias) = f.fractionBits - k := by omega
    rw [shift, Nat.mul_div_cancel _ (Nat.two_pow_pos _)]
    omega

end Format

end WasmedgeExecutor.Lib.BinaryFloat
