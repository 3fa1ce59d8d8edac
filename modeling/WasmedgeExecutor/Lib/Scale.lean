import WasmedgeExecutor.Lib.ByteMemory

/-!
The SCALE encoding of `u8`, little-endian `u32` and `u64`, the compact `u32` that prefixes a
vector with its length, and vectors, with the list functions a decoder is written with.

A decoder reads a value off the front of its input and returns the bytes after it; it fails
on a short input and on a compact number not in its shortest form. The encoder of a vector
fails on a length above `u32::MAX`, which has no compact `u32`. The round trips of `u8`, `u32`
and of a run of items hold at any trailing bytes, so that a record decodes field after field.
-/

set_option autoImplicit false
set_option relaxedAutoImplicit false

namespace WasmedgeExecutor.Lib.Scale

open WasmedgeExecutor.Lib.ByteMemory (toLE ofLE ofLE_toLE length_toLE)

/-- The first `n` bytes and the rest, when there are that many. -/
def take? (n : Nat) (bytes : List UInt8) : Option (List UInt8 × List UInt8) :=
  if n ≤ bytes.length then some (bytes.take n, bytes.drop n) else none

theorem take?_append {front rest : List UInt8} {n : Nat} (width : front.length = n) :
    take? n (front ++ rest) = some (front, rest) := by
  subst width
  simp [take?]

/-- `slice::chunks`: pieces of `size` elements, the last one shorter; `fuel` bounds the
pieces. -/
def chunksFuel {α : Type} (size : Nat) : Nat → List α → List (List α)
  | _, [] => []
  | 0, _ :: _ => []
  | fuel + 1, x :: xs => (x :: xs).take size :: chunksFuel size fuel ((x :: xs).drop size)

/-- `slice::chunks`: the length of the slice bounds the pieces. -/
def chunks {α : Type} (size : Nat) (xs : List α) : List (List α) := chunksFuel size xs.length xs

theorem chunks_flatMap {α β : Type} {size : Nat} (positive : 0 < size) {piece : α → List β}
    (width : ∀ a, (piece a).length = size) (items : List α) :
    chunks size (items.flatMap piece) = items.map piece := by
  suffices cut : ∀ fuel, (items.flatMap piece).length ≤ fuel →
      chunksFuel size fuel (items.flatMap piece) = items.map piece from
    cut _ (Nat.le_refl _)
  induction items with
  | nil => intro fuel _; cases fuel <;> rfl
  | cons first others ih =>
    intro fuel bound
    rw [List.flatMap_cons] at bound ⊢
    rw [List.length_append, width] at bound
    obtain ⟨x, xs, split⟩ : ∃ x xs, piece first = x :: xs :=
      List.exists_cons_of_length_pos (by rw [width]; exact positive)
    obtain ⟨fuel, rfl⟩ : ∃ f, fuel = f + 1 := ⟨fuel - 1, by omega⟩
    have take_first : (piece first ++ others.flatMap piece).take size = piece first := by
      rw [List.take_append_of_le_length (Nat.le_of_eq (width first).symm),
        List.take_of_length_le (Nat.le_of_eq (width first))]
    have drop_first : (piece first ++ others.flatMap piece).drop size = others.flatMap piece := by
      rw [List.drop_append_of_le_length (Nat.le_of_eq (width first).symm),
        List.drop_of_length_le (Nat.le_of_eq (width first)), List.nil_append]
    rw [split, List.cons_append, chunksFuel, ← List.cons_append, ← split, take_first, drop_first,
      ih fuel (by omega), List.map_cons]

/-! ## Integers -/

/-- `u8`: the byte. -/
def encodeU8 (b : UInt8) : List UInt8 := [b]

def decodeU8 : List UInt8 → Option (UInt8 × List UInt8)
  | [] => none
  | b :: rest => some (b, rest)

@[simp] theorem decodeU8_encodeU8 (b : UInt8) (rest : List UInt8) :
    decodeU8 (encodeU8 b ++ rest) = some (b, rest) := rfl

/-- `u32`: four little-endian bytes. -/
def encodeU32 (v : UInt32) : List UInt8 := toLE 4 v.toNat

def decodeU32 (input : List UInt8) : Option (UInt32 × List UInt8) :=
  (take? 4 input).map fun (front, rest) => ((ofLE front).toUInt32, rest)

@[simp] theorem length_encodeU32 (v : UInt32) : (encodeU32 v).length = 4 := length_toLE 4 v.toNat

@[simp] theorem decodeU32_encodeU32 (v : UInt32) (rest : List UInt8) :
    decodeU32 (encodeU32 v ++ rest) = some (v, rest) := by
  rw [decodeU32, take?_append (length_encodeU32 v), Option.map_some]
  dsimp only
  rw [encodeU32, ofLE_toLE, Nat.mod_eq_of_lt (by simpa using v.toNat_lt), Nat.toUInt32_eq,
    UInt32.ofNat_toNat]

/-- `u64`: eight little-endian bytes. -/
def encodeU64 (v : UInt64) : List UInt8 := toLE 8 v.toNat

def decodeU64 (input : List UInt8) : Option (UInt64 × List UInt8) :=
  (take? 8 input).map fun (front, rest) => ((ofLE front).toUInt64, rest)

@[simp] theorem length_encodeU64 (v : UInt64) : (encodeU64 v).length = 8 := length_toLE 8 v.toNat

/-! ## Compact numbers -/

/-- `Compact<u32>`: the number shifted left by two over a mode in the low two bits, in one,
two or four bytes (modes `0b00`, `0b01`, `0b10`), or the byte `0b11` followed by the four
bytes of a number of at least `2 ^ 30`. -/
def encodeCompact (n : UInt32) : List UInt8 :=
  if n.toNat < 2 ^ 6 then [(n.toNat * 4).toUInt8]
  else if n.toNat < 2 ^ 14 then toLE 2 (n.toNat * 4 + 1)
  else if n.toNat < 2 ^ 30 then toLE 4 (n.toNat * 4 + 2)
  else 3 :: encodeU32 n

/-- `Decode for Compact<u32>`: the mode of the first byte, then the number; a number that a
shorter mode holds is out of range. -/
def decodeCompact : List UInt8 → Option (UInt32 × List UInt8)
  | [] => none
  | first :: rest =>
    if first.toNat % 4 = 0 then some ((first.toNat / 4).toUInt32, rest)
    else if first.toNat % 4 = 1 then do
      let (high, rest) ← decodeU8 rest
      let x := (first.toNat + 256 * high.toNat) / 4
      if 2 ^ 6 ≤ x ∧ x < 2 ^ 14 then some (x.toUInt32, rest) else none
    else if first.toNat % 4 = 2 then do
      let (high, rest) ← take? 3 rest
      let x := ofLE (first :: high) / 4
      if 2 ^ 14 ≤ x ∧ x < 2 ^ 30 then some (x.toUInt32, rest) else none
    else if first.toNat / 4 = 0 then do
      let (x, rest) ← decodeU32 rest
      if 2 ^ 30 ≤ x.toNat then some (x, rest) else none
    else none

/-! ## Collections -/

/-- `compact_encode_len_to`: the compact prefix of a collection's length, unless the length
does not fit a `u32`. -/
def encodeLength (len : Nat) : Option (List UInt8) :=
  if len ≤ 0xFFFFFFFF then some (encodeCompact len.toUInt32) else none

theorem fromUTF8?_toByteArray (s : String) :
    String.fromUTF8? ⟨s.toByteArray.data.toList.toArray⟩ = some s := by
  rw [Array.toArray_toList, String.fromUTF8?, dif_pos s.isValidUTF8]
  rfl

/-- `n` items, one after another. -/
def decodeMany {α : Type} (item : List UInt8 → Option (α × List UInt8)) :
    Nat → List UInt8 → Option (List α × List UInt8)
  | 0, input => some ([], input)
  | n + 1, input => do
    let (first, input) ← item input
    let (others, input) ← decodeMany item n input
    pure (first :: others, input)

/-- `[T]` and `Vec<T>`: the length, then every item. -/
def encodeVec {α : Type} (item : α → List UInt8) (items : List α) : Option (List UInt8) :=
  (encodeLength items.length).map (· ++ items.flatMap item)

def decodeVec {α : Type} (item : List UInt8 → Option (α × List UInt8)) (input : List UInt8) :
    Option (List α × List UInt8) := do
  let (len, rest) ← decodeCompact input
  decodeMany item len.toNat rest

theorem decodeMany_flatMap {α : Type} {item : α → List UInt8} {decode : List UInt8 → Option (α × List UInt8)}
    (roundTrip : ∀ a rest, decode (item a ++ rest) = some (a, rest)) (items : List α) (rest : List UInt8) :
    decodeMany decode items.length (items.flatMap item ++ rest) = some (items, rest) := by
  induction items with
  | nil => rfl
  | cons first others ih =>
    simp only [List.length_cons, List.flatMap_cons, List.append_assoc, decodeMany, roundTrip,
      Option.bind_eq_bind, Option.bind_some, ih]
    rfl

end WasmedgeExecutor.Lib.Scale
