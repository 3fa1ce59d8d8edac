import Mathlib

/-!
A byte-addressed memory and the little-endian words stored in it.

`Bytes` is a slice: a length and the byte at every address below it. `read` takes a window
of bytes, `write` overwrites one, and `copy` moves a window from one memory into another, or
nothing when either window does not fit. `toLE` and `ofLE` turn a number into its little-endian
bytes and back. The lemmas are the ones a word-level argument needs: a window reads back
what was written into it, and a write leaves every window it does not meet alone. `writeAll`
writes a list of windows in turn; what it leaves at an address depends on the byte that was
there only where no window reaches.
-/

set_option autoImplicit false
set_option relaxedAutoImplicit false

namespace WasmedgeExecutor.Lib.ByteMemory

/-- The `w` little-endian bytes of `n`; the bits above `8 * w` are dropped. -/
def toLE : Nat → Nat → List UInt8
  | 0, _ => []
  | w + 1, n => UInt8.ofNat n :: toLE w (n / 256)

/-- The number whose little-endian bytes are the given ones. -/
def ofLE : List UInt8 → Nat
  | [] => 0
  | b :: bs => b.toNat + 256 * ofLE bs

@[simp] theorem length_toLE (w n : Nat) : (toLE w n).length = w := by
  induction w generalizing n with
  | zero => rfl
  | succ w ih => simp [toLE, ih]

theorem ofLE_toLE (w n : Nat) : ofLE (toLE w n) = n % 256 ^ w := by
  induction w generalizing n with
  | zero => simp [toLE, ofLE, Nat.mod_one]
  | succ w ih =>
    have low : (UInt8.ofNat n).toNat = n % 256 := by simp
    rw [toLE, ofLE, ih, low, Nat.pow_succ, Nat.mul_comm (256 ^ w) 256, Nat.mod_mul]

theorem ofLE_lt (l : List UInt8) : ofLE l < 256 ^ l.length := by
  induction l with
  | nil => simp [ofLE]
  | cons b bs ih =>
    have byte : b.toNat < 256 := b.toNat_lt
    simp only [ofLE, List.length_cons, Nat.pow_succ]
    omega

/-- A byte slice of length `len`; `byte i` is the byte at address `i`. -/
structure Bytes where
  len : Nat
  byte : Nat → UInt8

namespace Bytes

/-- The `n` bytes from address `start` on. -/
def read (m : Bytes) (start n : Nat) : List UInt8 :=
  (List.range n).map fun i => m.byte (start + i)

/-- `m` with the bytes from `start` on replaced by `data`. -/
def write (m : Bytes) (start : Nat) (data : List UInt8) : Bytes where
  len := m.len
  byte i := if start ≤ i ∧ i < start + data.length then data.getD (i - start) 0 else m.byte i

@[simp] theorem length_read (m : Bytes) (start n : Nat) : (m.read start n).length = n := by
  simp [read]

@[simp] theorem len_write (m : Bytes) (start : Nat) (data : List UInt8) :
    (m.write start data).len = m.len := rfl

theorem byte_write (m : Bytes) (start : Nat) (data : List UInt8) (i : Nat) :
    (m.write start data).byte i =
      if start ≤ i ∧ i < start + data.length then data.getD (i - start) 0 else m.byte i := rfl

theorem byte_write_of_not_mem {m : Bytes} {start i : Nat} {data : List UInt8}
    (outside : i < start ∨ start + data.length ≤ i) : (m.write start data).byte i = m.byte i := by
  rw [byte_write, if_neg]
  omega

theorem getElem_read (m : Bytes) (start n i : Nat) (h : i < (m.read start n).length) :
    (m.read start n)[i] = m.byte (start + i) := by
  simp [read]

theorem read_congr {m m' : Bytes} {start n : Nat}
    (agree : ∀ i, start ≤ i → i < start + n → m'.byte i = m.byte i) :
    m'.read start n = m.read start n := by
  apply List.ext_getElem (by simp)
  intro i h h'
  simp only [length_read] at h
  rw [getElem_read, getElem_read]
  exact agree (start + i) (by omega) (by omega)

theorem read_write_self (m : Bytes) (start : Nat) (data : List UInt8) :
    (m.write start data).read start data.length = data := by
  apply List.ext_getElem (by simp)
  intro i h h'
  simp only [length_read] at h
  rw [getElem_read, byte_write, if_pos (by omega), Nat.add_sub_cancel_left]
  simp [h]

theorem read_write_of_disjoint (m : Bytes) {start q n : Nat} {data : List UInt8}
    (disjoint : q + n ≤ start ∨ start + data.length ≤ q) :
    (m.write start data).read q n = m.read q n :=
  read_congr fun i lo hi => byte_write_of_not_mem (by omega)

/-- `n` bytes of `src` from `source` copied into `dst` at `dest`, when both windows lie inside
their memories; `none`, and nothing copied, otherwise. -/
def copy (src : Bytes) (source : Nat) (dst : Bytes) (dest n : Nat) : Option Bytes :=
  if source + n ≤ src.len ∧ dest + n ≤ dst.len then some (dst.write dest (src.read source n)) else none

/-! ## Writing a list of windows -/

/-- `m` with every window `(start, data)` of `writes` written in turn. -/
def writeAll (m : Bytes) (writes : List (Nat × List UInt8)) : Bytes :=
  writes.foldl (fun m window => m.write window.1 window.2) m

def Covers (writes : List (Nat × List UInt8)) (i : Nat) : Prop :=
  ∃ window ∈ writes, window.1 ≤ i ∧ i < window.1 + window.2.length

@[simp] theorem writeAll_nil (m : Bytes) : m.writeAll [] = m := rfl

@[simp] theorem writeAll_cons (m : Bytes) (window : Nat × List UInt8) (rest : List (Nat × List UInt8)) :
    m.writeAll (window :: rest) = (m.write window.1 window.2).writeAll rest := rfl

@[simp] theorem len_writeAll (m : Bytes) (writes : List (Nat × List UInt8)) :
    (m.writeAll writes).len = m.len := by
  induction writes generalizing m with
  | nil => rfl
  | cons window rest ih => simp [ih]

theorem covers_cons {window : Nat × List UInt8} {rest : List (Nat × List UInt8)} {i : Nat} :
    Covers (window :: rest) i ↔ (window.1 ≤ i ∧ i < window.1 + window.2.length) ∨ Covers rest i := by
  simp [Covers]

theorem byte_writeAll_of_not_covers {writes : List (Nat × List UInt8)} {i : Nat}
    (outside : ¬ Covers writes i) (m : Bytes) : (m.writeAll writes).byte i = m.byte i := by
  induction writes generalizing m with
  | nil => rfl
  | cons window rest ih =>
    rw [covers_cons, not_or] at outside
    rw [writeAll_cons, ih outside.2, byte_write_of_not_mem (by omega)]

theorem byte_writeAll_congr {writes : List (Nat × List UInt8)} {m m' : Bytes} {i : Nat}
    (agree : ¬ Covers writes i → m'.byte i = m.byte i) :
    (m'.writeAll writes).byte i = (m.writeAll writes).byte i := by
  induction writes generalizing m m' with
  | nil => exact agree (by simp [Covers])
  | cons window rest ih =>
    apply ih
    intro outside
    rw [byte_write, byte_write]
    by_cases inside : window.1 ≤ i ∧ i < window.1 + window.2.length
    · rw [if_pos inside, if_pos inside]
    · rw [if_neg inside, if_neg inside]
      exact agree (by rw [covers_cons]; exact not_or.mpr ⟨inside, outside⟩)

end Bytes

end WasmedgeExecutor.Lib.ByteMemory
