import Mathlib

/-!
Two bit-level operations of `u32`, written as the searches they are specified by.

`nextPowerOfTwo` is the least power of two that is at least its argument and `trailingZeros`
counts the zero bits below the lowest one bit. Both scan a bounded range of exponents, so
they evaluate by `decide` on numerals; `powerSearch_spec` and `powerSearch_some` say what the
scan finds.
-/

set_option autoImplicit false
set_option relaxedAutoImplicit false

namespace WasmedgeExecutor.Lib.Bits

/-- The least exponent `k`, among the `fuel` exponents from `start` on, with `x ≤ 2 ^ k`. -/
def powerSearch (x : Nat) : Nat → Nat → Option Nat
  | _, 0 => none
  | k, fuel + 1 => if x ≤ 2 ^ k then some k else powerSearch x (k + 1) fuel

/-- The least position, among the `fuel` positions from `start` on, of a one bit of `n`;
`start + fuel` when there is none. -/
def bitSearch (n : Nat) : Nat → Nat → Nat
  | k, 0 => k
  | k, fuel + 1 => if n.testBit k then k else bitSearch n (k + 1) fuel

/-- `u32::next_power_of_two`. A result past `2 ^ 31` does not fit and wraps to `0`, as in a
release build. -/
def nextPowerOfTwo (x : UInt32) : UInt32 :=
  match powerSearch x.toNat 0 32 with
  | some k => (2 ^ k : Nat).toUInt32
  | none => 0

/-- `u32::trailing_zeros`: `32` for zero. -/
def trailingZeros (x : UInt32) : UInt32 := (bitSearch x.toNat 0 32).toUInt32

/-- `u32::checked_add`. -/
def checkedAdd (a b : UInt32) : Option UInt32 :=
  if a.toNat + b.toNat < 2 ^ 32 then some (a + b) else none

/-- `u32::checked_sub`. -/
def checkedSub (a b : UInt32) : Option UInt32 :=
  if b ≤ a then some (a - b) else none

theorem checkedSub_of_le {a b : UInt32} (le : b ≤ a) : checkedSub a b = some (a - b) := by
  rw [checkedSub, if_pos le]

theorem checkedAdd_eq_some {a b c : UInt32} (h : checkedAdd a b = some c) :
    a.toNat + b.toNat < 2 ^ 32 ∧ c.toNat = a.toNat + b.toNat := by
  unfold checkedAdd at h
  split at h
  · case isTrue fits =>
    cases h
    exact ⟨fits, by rw [UInt32.toNat_add]; omega⟩
  · cases h

theorem checkedAdd_eq_none {a b : UInt32} : checkedAdd a b = none ↔ 2 ^ 32 ≤ a.toNat + b.toNat := by
  unfold checkedAdd
  split <;> simp <;> omega

/-- `u32::saturating_add`. -/
def saturatingAdd (a b : UInt32) : UInt32 :=
  match checkedAdd a b with
  | some sum => sum
  | none => 0xFFFFFFFF

theorem toNat_saturatingAdd (a b : UInt32) :
    (saturatingAdd a b).toNat = min (a.toNat + b.toNat) (2 ^ 32 - 1) := by
  unfold saturatingAdd
  cases sum : checkedAdd a b with
  | some c =>
    obtain ⟨fits, exact⟩ := checkedAdd_eq_some sum
    simp only [exact]
    omega
  | none =>
    have overflow := checkedAdd_eq_none.mp sum
    simp only [UInt32.reduceToNat]
    omega

theorem powerSearch_spec {x : Nat} :
    ∀ {fuel k j : Nat}, powerSearch x k fuel = some j →
      k ≤ j ∧ j < k + fuel ∧ x ≤ 2 ^ j ∧ ∀ i, k ≤ i → i < j → 2 ^ i < x
  | 0, _, _, found => by simp [powerSearch] at found
  | fuel + 1, k, j, found => by
    simp only [powerSearch] at found
    split at found
    · case isTrue fits =>
      cases found
      exact ⟨Nat.le_refl k, by omega, fits, fun i lo hi => by omega⟩
    · case isFalse small =>
      obtain ⟨lo, hi, fits, least⟩ := powerSearch_spec found
      refine ⟨by omega, by omega, fits, fun i lo' hi' => ?_⟩
      rcases Nat.eq_or_lt_of_le lo' with rfl | later
      · omega
      · exact least i later hi'

theorem powerSearch_some {x : Nat} :
    ∀ {fuel k i : Nat}, x ≤ 2 ^ (k + i) → i < fuel → ∃ j, powerSearch x k fuel = some j
  | 0, _, _, _, bound => absurd bound (Nat.not_lt_zero _)
  | fuel + 1, k, i, fits, bound => by
    simp only [powerSearch]
    split
    · exact ⟨k, rfl⟩
    · case isFalse small =>
      cases i with
      | zero => exact absurd fits small
      | succ i =>
        exact powerSearch_some (by rwa [Nat.add_right_comm, Nat.add_assoc]) (by omega)

theorem nextPowerOfTwo_spec {x : UInt32} (fits : x.toNat ≤ 2 ^ 31) :
    ∃ k, k < 32 ∧ (nextPowerOfTwo x).toNat = 2 ^ k ∧ x.toNat ≤ 2 ^ k ∧
      ∀ i, i < k → 2 ^ i < x.toNat := by
  obtain ⟨k, found⟩ := @powerSearch_some x.toNat 32 0 31 (by simpa using fits) (by omega)
  obtain ⟨-, below, least, minimal⟩ := powerSearch_spec found
  have small : 2 ^ k < 2 ^ 32 := Nat.pow_lt_pow_right (by omega) (by omega)
  refine ⟨k, by omega, ?_, least, fun i hi => minimal i (Nat.zero_le i) hi⟩
  simp only [nextPowerOfTwo, found, Nat.toUInt32_eq, UInt32.toNat_ofNat']
  exact Nat.mod_eq_of_lt small

theorem trailingZeros_two_pow : ∀ k : Fin 32, trailingZeros (2 ^ k.val : Nat).toUInt32 = k.val.toUInt32 := by
  decide

end WasmedgeExecutor.Lib.Bits
