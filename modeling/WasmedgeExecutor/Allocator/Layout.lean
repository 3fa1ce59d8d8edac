import WasmedgeExecutor.Lib.ByteMemory
import WasmedgeExecutor.Lib.Bits
import WasmedgeExecutor.Lib.Outcome
import Mathlib

/-!
The data of `sc_allocator::freeing_bump`: orders, free-list links and the 8-byte headers in
front of every block, the `Memory` trait the allocator reads headers through, and the `[u8]`
implementation of that trait.

An `Order` carries the bound `raw < 23` that every constructor of the source establishes
(`from_raw` checks it, `from_size` computes it below the maximum), so that indexing the free
lists with it cannot fail.
-/

set_option autoImplicit false
set_option relaxedAutoImplicit false

namespace WasmedgeExecutor.Allocator.Layout

open WasmedgeExecutor.Lib.ByteMemory (Bytes toLE ofLE ofLE_toLE ofLE_lt length_toLE)
open WasmedgeExecutor.Lib.Bits (nextPowerOfTwo trailingZeros nextPowerOfTwo_spec
  trailingZeros_two_pow checkedAdd checkedAdd_eq_some)
open WasmedgeExecutor.Lib.Outcome (Fails ok_bind)

/-- `sc_allocator::Error`. -/
inductive Error
  | requestedAllocationTooLarge
  | allocatorOutOfSpace
  | memoryShrinked
  | other (msg : String)
  deriving DecidableEq, Repr

/-- `error`: an `Error::Other` with the given message. -/
def error (msg : String) : Error := .other msg

/-- `ALIGNMENT`. -/
def alignment : UInt32 := 8

/-- `HEADER_SIZE`. -/
def headerSize : UInt32 := 8

/-- `N_ORDERS`: the sizes `2 ^ 3 .. 2 ^ 25`. -/
def nOrders : Nat := 23

/-- `MIN_POSSIBLE_ALLOCATION`. -/
def minPossibleAllocation : UInt32 := 8

/-- `sp_core::MAX_POSSIBLE_ALLOCATION`, 32 MiB. -/
def maxPossibleAllocation : UInt32 := 33554432

/-- `Order`: the exponent of a block size, counted from the minimal block of 8 bytes. -/
structure Order where
  raw : UInt32
  lt : raw.toNat < nOrders
  deriving DecidableEq, Repr

namespace Order

/-- `Order::from_raw`. -/
def fromRaw (order : UInt32) : Except Error Order :=
  if h : order < nOrders.toUInt32 then .ok ⟨order, by simpa [UInt32.lt_iff_toNat_lt, nOrders] using h⟩
  else .error (error "invalid order")

/-- The order `Order::from_size` computes for an accepted size: the request is clamped to the
minimal allocation, rounded to a power of two, and its exponent shifted down by three. -/
def ofClampedSize (size : UInt32) : UInt32 :=
  let clampedSize := if size < minPossibleAllocation then minPossibleAllocation else size
  let powerOfTwoSize := nextPowerOfTwo clampedSize
  trailingZeros powerOfTwoSize - trailingZeros minPossibleAllocation

theorem ofClampedSize_spec {size : UInt32} (accepted : ¬ size > maxPossibleAllocation) :
    ∃ k, 3 ≤ k ∧ k ≤ 25 ∧ (ofClampedSize size).toNat = k - 3 ∧
      max size.toNat 8 ≤ 2 ^ k ∧ ∀ i, i < k → 2 ^ i < max size.toNat 8 := by
  have bound : size.toNat ≤ 2 ^ 25 := by
    simpa [maxPossibleAllocation, UInt32.lt_iff_toNat_lt] using accepted
  let clamped := if size < minPossibleAllocation then minPossibleAllocation else size
  have clamped_eq : clamped.toNat = max size.toNat 8 := by
    by_cases small : size < minPossibleAllocation
    · simp only [clamped, if_pos small]
      simp [minPossibleAllocation, UInt32.lt_iff_toNat_lt] at small ⊢
      omega
    · simp only [clamped, if_neg small]
      simp [minPossibleAllocation, UInt32.lt_iff_toNat_lt] at small ⊢
      omega
  obtain ⟨k, below, power, fits, least⟩ :=
    nextPowerOfTwo_spec (x := clamped) (by rw [clamped_eq]; omega)
  rw [clamped_eq] at fits least
  have three : 3 ≤ k := by
    refine Nat.le_of_not_lt fun small => ?_
    have : 2 ^ k ≤ 2 ^ 2 := Nat.pow_le_pow_right (by omega) (by omega)
    omega
  have top : k ≤ 25 := by
    refine Nat.le_of_not_lt fun large => ?_
    have := least 25 (by omega)
    omega
  have pow_eq : nextPowerOfTwo clamped = (2 ^ k : Nat).toUInt32 := by
    apply UInt32.toNat_inj.mp
    rw [power, Nat.toUInt32_eq, UInt32.toNat_ofNat', Nat.mod_eq_of_lt]
    exact Nat.pow_lt_pow_right (by omega) (by omega)
  have zeros := trailingZeros_two_pow ⟨k, below⟩
  have min_zeros : trailingZeros minPossibleAllocation = 3 := by decide
  refine ⟨k, three, top, ?_, fits, least⟩
  simp only [ofClampedSize]
  change (trailingZeros (nextPowerOfTwo clamped) - trailingZeros minPossibleAllocation).toNat = _
  rw [pow_eq, zeros, min_zeros, UInt32.toNat_sub_of_le]
  · simp only [Nat.toUInt32_eq, UInt32.toNat_ofNat', UInt32.reduceToNat]
    rw [Nat.mod_eq_of_lt (by omega)]
  · simp only [UInt32.le_iff_toNat_le, Nat.toUInt32_eq, UInt32.toNat_ofNat',
      UInt32.reduceToNat]
    rw [Nat.mod_eq_of_lt (by omega)]
    omega

theorem ofClampedSize_lt {size : UInt32} (accepted : ¬ size > maxPossibleAllocation) :
    (ofClampedSize size).toNat < nOrders := by
  obtain ⟨k, -, top, raw, -⟩ := ofClampedSize_spec accepted
  rw [raw, nOrders]
  omega

/-- `Order::from_size`. -/
def fromSize (size : UInt32) : Except Error Order :=
  if h : size > maxPossibleAllocation then .error .requestedAllocationTooLarge
  else .ok ⟨ofClampedSize size, ofClampedSize_lt h⟩

/-- `Order::size`: the block size `8 << order`. -/
def size (order : Order) : UInt32 := minPossibleAllocation <<< order.raw

/-- `Order::into_raw`. -/
def intoRaw (order : Order) : UInt32 := order.raw

private theorem size_table :
    ∀ k : Fin 23, (minPossibleAllocation <<< k.val.toUInt32).toNat = 2 ^ (k.val + 3) := by
  decide

theorem toNat_size (order : Order) : order.size.toNat = 2 ^ (order.raw.toNat + 3) := by
  have raw_eq : order.raw = order.raw.toNat.toUInt32 := by simp
  have := size_table ⟨order.raw.toNat, order.lt⟩
  simp only at this
  rw [size, raw_eq, this]
  simp

theorem size_le (order : Order) : order.size.toNat ≤ 2 ^ 25 := by
  rw [toNat_size]
  exact Nat.pow_le_pow_right (by omega) (by have := order.lt; rw [nOrders] at this; omega)

end Order

/-- `NIL_MARKER`: the raw link that ends a free list. -/
def nilMarker : UInt32 := 0xFFFFFFFF

/-- `Link`: the successor of a free block. -/
inductive Link
  | nil
  | ptr (headerPtr : UInt32)
  deriving DecidableEq, Repr

/-- `Link::from_raw`. -/
def Link.fromRaw (raw : UInt32) : Link := if raw ≠ nilMarker then .ptr raw else .nil

/-- `Link::into_raw`. -/
def Link.intoRaw : Link → UInt32
  | .nil => nilMarker
  | .ptr headerPtr => headerPtr

/-- `Header`: a free header links to the next free block of its order, an occupied one
records the order of its allocation. -/
inductive Header
  | free (link : Link)
  | occupied (order : Order)
  deriving DecidableEq, Repr

/-- `Memory`: the accesses the allocator makes to a linear memory. -/
class Memory (M : Type) where
  readLeU64 : M → UInt32 → Except Error UInt64
  writeLeU64 : M → UInt32 → UInt64 → Except Error M
  size : M → UInt32

/-- `heap_range`: the byte range of `length` bytes at `offset`, if it fits below `heapLen`. -/
def heapRange (offset length : UInt32) (heapLen : Nat) : Option (Nat × Nat) :=
  let start := offset.toNat
  match checkedAdd offset length with
  | none => none
  | some end_ => if end_.toNat ≤ heapLen then some (start, end_.toNat) else none

/-- A `[u8]` handed to the allocator. Its length fits a `u32`, so the `u32::try_from(len)
.expect(..)` of `size` never panics: every slice the executor builds has a `u32` length. -/
structure HeapSlice where
  bytes : Bytes
  fits : bytes.len < 2 ^ 32

/-- `impl Memory for [u8]`. -/
instance : Memory HeapSlice where
  readLeU64 mem ptr :=
    match heapRange ptr 8 mem.bytes.len with
    | none => .error (error "read out of heap bounds")
    | some (start, _) => .ok (ofLE (mem.bytes.read start 8)).toUInt64
  writeLeU64 mem ptr val :=
    match heapRange ptr 8 mem.bytes.len with
    | none => .error (error "write out of heap bounds")
    | some (start, _) => .ok ⟨mem.bytes.write start (toLE 8 val.toNat), mem.fits⟩
  size mem := mem.bytes.len.toUInt32

namespace Header

variable {M : Type} [Memory M]

/-- `Header::read_from`: bit 32 tells an occupied header from a free one, the low 32 bits hold
the order or the link, and the bits above 32 are ignored. -/
def readFrom (memory : M) (headerPtr : UInt32) : Except Error Header := do
  let rawHeader ← Memory.readLeU64 memory headerPtr
  let occupied := rawHeader &&& 0x00000001_00000000 != 0
  let headerData := rawHeader.toUInt32
  if occupied then
    return .occupied (← Order.fromRaw headerData)
  else
    return .free (Link.fromRaw headerData)

/-- `Header::write_into`. -/
def writeInto (header : Header) (memory : M) (headerPtr : UInt32) : Except Error M :=
  let (headerData, occupiedMask) : UInt32 × UInt64 :=
    match header with
    | .occupied order => (order.intoRaw, 0x00000001_00000000)
    | .free link => (link.intoRaw, 0x00000000_00000000)
  let rawHeader := headerData.toUInt64 ||| occupiedMask
  Memory.writeLeU64 memory headerPtr rawHeader

/-- `Header::into_occupied`. -/
def intoOccupied : Header → Option Order
  | .occupied order => some order
  | _ => none

/-- `Header::into_free`. -/
def intoFree : Header → Option Link
  | .free link => some link
  | _ => none

end Header

/-! ## The header word

A header is one little-endian `u64`: bit 32 is the tag, the low 32 bits hold the order or the
link, and `read_from` ignores the bits above. `write_into` and `read_from` are inverse on every
header but a free one linking to `u32::MAX`, whose raw link is the nil marker.
-/

/-- A link that `into_raw` does not turn into the nil marker. -/
def Link.Encodable : Link → Prop
  | .nil => True
  | .ptr headerPtr => headerPtr ≠ nilMarker

instance : DecidablePred Link.Encodable := fun link =>
  match link with
  | .nil => isTrue trivial
  | .ptr headerPtr => inferInstanceAs (Decidable (headerPtr ≠ nilMarker))

/-- A header that reads back as itself: an occupied one, or a free one with an encodable
link. -/
def Header.Encodable : Header → Prop
  | .free link => link.Encodable
  | .occupied _ => True

instance : DecidablePred Header.Encodable := fun header =>
  match header with
  | .free link => inferInstanceAs (Decidable link.Encodable)
  | .occupied _ => isTrue trivial

theorem Order.fromRaw_intoRaw (order : Order) : Order.fromRaw order.intoRaw = .ok order := by
  have lt : order.intoRaw < nOrders.toUInt32 := by
    rw [UInt32.lt_iff_toNat_lt]
    simpa [nOrders, Order.intoRaw] using order.lt
  rw [Order.fromRaw, dif_pos lt]
  rfl

theorem Link.fromRaw_intoRaw {link : Link} (encodable : link.Encodable) :
    Link.fromRaw link.intoRaw = link := by
  cases link with
  | nil => rfl
  | ptr headerPtr =>
    simp only [Link.Encodable] at encodable
    simp [Link.fromRaw, Link.intoRaw, encodable]

theorem occupied_eq_testBit (rawHeader : UInt64) :
    (rawHeader &&& 0x00000001_00000000 != 0) = rawHeader.toNat.testBit 32 := by
  have masked : (rawHeader &&& 0x00000001_00000000).toNat =
      (rawHeader.toNat.testBit 32).toNat * 2 ^ 32 := by
    rw [UInt64.toNat_and, show (0x00000001_00000000 : UInt64).toNat = 2 ^ 32 from rfl,
      Nat.and_two_pow]
  cases bit : rawHeader.toNat.testBit 32
  · have zero : rawHeader &&& 0x00000001_00000000 = 0 :=
      UInt64.toNat_inj.mp (by rw [masked, bit]; rfl)
    simp [zero]
  · have nonzero : rawHeader &&& 0x00000001_00000000 ≠ 0 := fun zero => by
      have := congrArg UInt64.toNat zero
      rw [masked, bit] at this
      simp at this
    simp [nonzero]

theorem toNat_occupiedWord (headerData : UInt32) :
    (headerData.toUInt64 ||| 0x00000001_00000000).toNat = 2 ^ 32 + headerData.toNat := by
  rw [UInt64.toNat_or, UInt32.toNat_toUInt64,
    show (0x00000001_00000000 : UInt64).toNat = 2 ^ 32 * 1 from rfl, Nat.or_comm,
    ← Nat.two_pow_add_eq_or_of_lt headerData.toNat_lt, Nat.mul_one]

theorem toNat_freeWord (headerData : UInt32) :
    (headerData.toUInt64 ||| 0x00000000_00000000).toNat = headerData.toNat := by
  rw [UInt64.or_zero, UInt32.toNat_toUInt64]

theorem writeInto_eq {M : Type} [Memory M] (header : Header) (memory : M) (headerPtr : UInt32) :
    ∃ rawHeader : UInt64, header.writeInto memory headerPtr = Memory.writeLeU64 memory headerPtr rawHeader ∧
      rawHeader.toNat.testBit 32 = (Header.intoOccupied header).isSome ∧
      rawHeader.toUInt32 = (match header with
        | .occupied order => order.intoRaw
        | .free link => link.intoRaw) := by
  cases header with
  | occupied order =>
    refine ⟨order.intoRaw.toUInt64 ||| 0x00000001_00000000, rfl, ?_, ?_⟩
    · rw [toNat_occupiedWord, Nat.testBit_two_pow_add_eq,
        Nat.testBit_lt_two_pow order.intoRaw.toNat_lt]
      rfl
    · show _ = order.intoRaw
      apply UInt32.toNat_inj.mp
      rw [UInt64.toNat_toUInt32, toNat_occupiedWord, Nat.add_mod_left,
        Nat.mod_eq_of_lt order.intoRaw.toNat_lt]
  | free link =>
    refine ⟨link.intoRaw.toUInt64 ||| 0x00000000_00000000, rfl, ?_, ?_⟩
    · rw [toNat_freeWord, Nat.testBit_lt_two_pow link.intoRaw.toNat_lt]
      rfl
    · show _ = link.intoRaw
      apply UInt32.toNat_inj.mp
      rw [UInt64.toNat_toUInt32, toNat_freeWord, Nat.mod_eq_of_lt link.intoRaw.toNat_lt]

/-! ### The `[u8]` memory -/

theorem heapRange_eq_some {ptr : UInt32} {heapLen : Nat} (fits : ptr.toNat + 8 ≤ heapLen)
    (small : heapLen < 2 ^ 32) : heapRange ptr 8 heapLen = some (ptr.toNat, ptr.toNat + 8) := by
  have no_wrap : ptr.toNat + (8 : UInt32).toNat < 2 ^ 32 := by
    simp only [UInt32.reduceToNat]
    omega
  have sum : checkedAdd ptr 8 = some (ptr + 8) := by
    unfold checkedAdd
    rw [if_pos no_wrap]
  have toNat_sum : (ptr + 8).toNat = ptr.toNat + 8 := by
    rw [UInt32.toNat_add]
    simp only [UInt32.reduceToNat]
    rw [Nat.mod_eq_of_lt (by omega)]
  simp only [heapRange, sum, toNat_sum, if_pos fits]

theorem readLeU64_eq {mem : HeapSlice} {ptr : UInt32} (fits : ptr.toNat + 8 ≤ mem.bytes.len) :
    Memory.readLeU64 mem ptr = .ok (ofLE (mem.bytes.read ptr.toNat 8)).toUInt64 := by
  simp only [Memory.readLeU64, heapRange_eq_some fits mem.fits]

theorem writeLeU64_eq {mem : HeapSlice} {ptr : UInt32} (fits : ptr.toNat + 8 ≤ mem.bytes.len)
    (val : UInt64) :
    Memory.writeLeU64 mem ptr val = .ok ⟨mem.bytes.write ptr.toNat (toLE 8 val.toNat), mem.fits⟩ := by
  simp only [Memory.writeLeU64, heapRange_eq_some fits mem.fits]

theorem readLeU64_of_written {mem mem' : HeapSlice} {ptr : UInt32} {val : UInt64}
    (fits : ptr.toNat + 8 ≤ mem.bytes.len)
    (written : mem'.bytes = mem.bytes.write ptr.toNat (toLE 8 val.toNat)) :
    Memory.readLeU64 mem' ptr = .ok val := by
  have fits' : ptr.toNat + 8 ≤ mem'.bytes.len := by
    rw [written]
    exact fits
  have window : (mem.bytes.write ptr.toNat (toLE 8 val.toNat)).read ptr.toNat 8 = toLE 8 val.toNat := by
    simpa using Bytes.read_write_self mem.bytes ptr.toNat (toLE 8 val.toNat)
  rw [readLeU64_eq fits', written, window, ofLE_toLE, Nat.mod_eq_of_lt (by simpa using val.toNat_lt),
    Nat.toUInt64_eq, UInt64.ofNat_toNat]

theorem readFrom_eq {M : Type} [Memory M] {memory : M} {headerPtr : UInt32} {rawHeader : UInt64}
    (read : Memory.readLeU64 memory headerPtr = .ok rawHeader) :
    Header.readFrom memory headerPtr =
      if rawHeader.toNat.testBit 32 then (Order.fromRaw rawHeader.toUInt32).map .occupied
      else .ok (.free (Link.fromRaw rawHeader.toUInt32)) := by
  simp only [Header.readFrom, read, ok_bind, occupied_eq_testBit]
  split
  · cases Order.fromRaw rawHeader.toUInt32 <;> rfl
  · rfl

theorem readFrom_writeInto {header : Header} {mem : HeapSlice} {ptr : UInt32}
    (encodable : header.Encodable) (fits : ptr.toNat + 8 ≤ mem.bytes.len) :
    ∃ mem', header.writeInto mem ptr = .ok mem' ∧ Header.readFrom mem' ptr = .ok header ∧
      mem'.bytes.len = mem.bytes.len ∧
      ∀ i, i < ptr.toNat ∨ ptr.toNat + 8 ≤ i → mem'.bytes.byte i = mem.bytes.byte i := by
  obtain ⟨rawHeader, written, tag, payload⟩ := writeInto_eq header mem ptr
  refine ⟨⟨mem.bytes.write ptr.toNat (toLE 8 rawHeader.toNat), mem.fits⟩,
    by rw [written, writeLeU64_eq fits], ?_, rfl, fun i outside => ?_⟩
  · rw [readFrom_eq (readLeU64_of_written fits rfl), tag, payload]
    cases header with
    | occupied order => simp [Header.intoOccupied, Order.fromRaw_intoRaw, Except.map]
    | free link => simp [Header.intoOccupied, Link.fromRaw_intoRaw encodable]
  · exact Bytes.byte_write_of_not_mem (by simpa using outside)

theorem readFrom_of_invalid_order {mem : HeapSlice} {ptr : UInt32} {pattern : UInt64}
    (stored : mem.bytes.read ptr.toNat 8 = toLE 8 pattern.toNat) (tagged : pattern.toNat.testBit 32)
    (invalid : nOrders ≤ pattern.toUInt32.toNat) : Fails (Header.readFrom mem ptr) := by
  by_cases fits : ptr.toNat + 8 ≤ mem.bytes.len
  · have read : Memory.readLeU64 mem ptr = .ok pattern := by
      rw [readLeU64_eq fits, stored, ofLE_toLE, Nat.mod_eq_of_lt (by simpa using pattern.toNat_lt),
        Nat.toUInt64_eq, UInt64.ofNat_toNat]
    have rejected : ¬ pattern.toUInt32 < nOrders.toUInt32 := by
      rw [UInt32.lt_iff_toNat_lt, show nOrders.toUInt32.toNat = nOrders from rfl]
      omega
    rw [readFrom_eq read, if_pos tagged, Order.fromRaw, dif_neg rejected]
    exact ⟨_, rfl⟩
  · have outside : heapRange ptr 8 mem.bytes.len = none := by
      unfold heapRange
      split
      · rfl
      · case _ end_ sum =>
        obtain ⟨-, exact⟩ := checkedAdd_eq_some sum
        have past : ¬ end_.toNat ≤ mem.bytes.len := by
          rw [exact]
          simp only [UInt32.reduceToNat]
          omega
        rw [if_neg past]
    refine ⟨error "read out of heap bounds", ?_⟩
    simp only [Header.readFrom, Memory.readLeU64, outside]
    rfl

end WasmedgeExecutor.Allocator.Layout
