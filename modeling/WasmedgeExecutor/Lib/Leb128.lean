import Mathlib

/-!
Unsigned LEB128: a number as bytes of seven bits each, the lowest first, with the top bit set
on every byte but the last. `encode` writes the shortest form, and `decode` reads one number
off the front of its input and returns the bytes after it. The round trip holds at any
trailing bytes, which is what a reader of a number followed by more data needs.
-/

set_option autoImplicit false
set_option relaxedAutoImplicit false

namespace WasmedgeExecutor.Lib.Leb128

/-- The LEB128 bytes of `n`, with at most `fuel` bytes after the first. -/
def encodeFuel : Nat → Nat → List UInt8
  | 0, n => [n.toUInt8]
  | fuel + 1, n => if n < 128 then [n.toUInt8] else (n % 128 + 128).toUInt8 :: encodeFuel fuel (n / 128)

/-- The LEB128 bytes of `n`: the number itself bounds the bytes after the first. -/
def encode (n : Nat) : List UInt8 := encodeFuel n n

/-- One number off the front of the input, and the bytes after it. -/
def decode : List UInt8 → Option (Nat × List UInt8)
  | [] => none
  | b :: rest =>
    if b.toNat < 128 then some (b.toNat, rest)
    else (decode rest).map fun (n, after) => (b.toNat - 128 + 128 * n, after)

theorem decode_encodeFuel (fuel : Nat) :
    ∀ (n : Nat) (rest : List UInt8), n ≤ fuel → decode (encodeFuel fuel n ++ rest) = some (n, rest) := by
  induction fuel with
  | zero =>
    intro n rest small
    obtain rfl : n = 0 := by omega
    rfl
  | succ fuel ih =>
    intro n rest bound
    by_cases last : n < 128
    · have byte : n.toUInt8.toNat = n := by
        rw [Nat.toUInt8_eq, UInt8.toNat_ofNat', Nat.mod_eq_of_lt (by omega)]
      simp [encodeFuel, decode, last, byte]
    · have byte : (n % 128 + 128).toUInt8.toNat = n % 128 + 128 := by
        rw [Nat.toUInt8_eq, UInt8.toNat_ofNat', Nat.mod_eq_of_lt (by omega)]
      have high : n / 128 ≤ fuel := by omega
      simp only [encodeFuel, last, if_false, List.cons_append, decode, byte,
        ih (n / 128) rest high, Option.map_some]
      rw [if_neg (by omega)]
      congr 2
      omega

/-- `decode` reads back what `encode` wrote, and leaves the bytes after it. -/
@[simp] theorem decode_encode (n : Nat) (rest : List UInt8) : decode (encode n ++ rest) = some (n, rest) :=
  decode_encodeFuel n n rest (Nat.le_refl n)

end WasmedgeExecutor.Lib.Leb128
