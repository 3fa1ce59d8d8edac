import WasmedgeExecutor.Lib.ByteMemory
import WasmedgeExecutor.Lib.Bits

/-!
Host access to the WasmEdge linear memory (`util.rs`, `host.rs`): the byte slices built over
a `wasmedge_sdk::Memory` and the bounds-checked copies in and out of them.

The `Memory` of `wasmedge_sdk` is not part of the repository. It enters as `MemoryApi`: its
page count, its `data_pointer` lookup and the bytes behind that pointer, with `MemoryApi.Lawful`
stating what the slices rely on. A slice's length is `size() * 64 * 1024` computed in `u32`,
as the source computes it in four places; an `expect` that fails is a panic, `none` here.
-/

set_option autoImplicit false
set_option relaxedAutoImplicit false

namespace WasmedgeExecutor.Wasmedge.MemorySlice

open WasmedgeExecutor.Lib.ByteMemory (Bytes)
open WasmedgeExecutor.Lib.ByteMemory.Bytes (read write length_read len_write read_write_self
  read_write_of_disjoint)

/-- What the slices use of a `wasmedge_sdk::Memory`: `size()` (in pages), `data_pointer(offset,
len)` (`none` when it fails), the bytes from the base pointer on, and the memory after a store
through a mutable slice. -/
structure MemoryApi (Mem : Type) where
  size : Mem → UInt32
  dataPointer : Mem → UInt32 → UInt32 → Option Nat
  data : Mem → Nat → UInt8
  withData : Mem → (Nat → UInt8) → Mem

/-- `data_pointer(0, 1)` fails exactly on a memory without a byte, and a store through a slice
changes the bytes and nothing else. -/
structure MemoryApi.Lawful {Mem : Type} (api : MemoryApi Mem) : Prop where
  dataPointer_none : ∀ m, api.dataPointer m 0 1 = none ↔ api.size m = 0
  data_withData : ∀ m d, api.data (api.withData m d) = d
  size_withData : ∀ m d, api.size (api.withData m d) = api.size m

/-- `sc_executor_common::util::checked_range`, over a 64-bit `usize`. -/
def checkedRange (offset len max : Nat) : Option (Nat × Nat) :=
  if offset + len < 2 ^ 64 then
    let end_ := offset + len
    if end_ ≤ max then some (offset, end_) else none
  else none

theorem checkedRange_eq_some {offset len max : Nat} (wide : offset + len < 2 ^ 64) :
    checkedRange offset len max = (if offset + len ≤ max then some (offset, offset + len) else none) := by
  unfold checkedRange
  rw [if_pos wide]

/-- `read_memory_into`: the new contents of `dest`. -/
def readMemoryInto (memory : Bytes) (address : UInt32) (dest : List UInt8) :
    Except String (List UInt8) :=
  match checkedRange address.toNat dest.length memory.len with
  | none => .error "memory read is out of bounds"
  | some (start, end_) => .ok (memory.read start (end_ - start))

/-- `write_memory_from`: the memory after the copy. -/
def writeMemoryFrom (memory : Bytes) (address : UInt32) (data : List UInt8) : Except String Bytes :=
  match checkedRange address.toNat data.length memory.len with
  | none => .error "memory write is out of bounds"
  | some (start, _) => .ok (memory.write start data)

theorem writeMemoryFrom_of_le {memory : Bytes} {address : UInt32} {data : List UInt8}
    (wide : address.toNat + data.length < 2 ^ 64) (inside : address.toNat + data.length ≤ memory.len) :
    writeMemoryFrom memory address data = .ok (memory.write address.toNat data) := by
  unfold writeMemoryFrom
  rw [checkedRange_eq_some wide, if_pos inside]

/-- `read_memory`: a fresh buffer of `size` bytes filled by `read_memory_into`. -/
def readMemory (memory : Bytes) (sourceAddr : UInt32) (size : Nat) : Except String (List UInt8) :=
  match checkedRange sourceAddr.toNat size memory.len with
  | none => .error "memory read is out of bounds"
  | some (start, end_) => readMemoryInto memory sourceAddr (List.replicate (end_ - start) 0)

theorem readMemory_eq (memory : Bytes) (sourceAddr : UInt32) {size : Nat} (small : size < 2 ^ 32) :
    readMemory memory sourceAddr size =
      if sourceAddr.toNat + size ≤ memory.len then .ok (memory.read sourceAddr.toNat size)
      else .error "memory read is out of bounds" := by
  have fits : sourceAddr.toNat + size < 2 ^ 64 := by have := sourceAddr.toNat_lt; omega
  by_cases inside : sourceAddr.toNat + size ≤ memory.len
  · simp [readMemory, readMemoryInto, checkedRange_eq_some fits, inside]
  · simp [readMemory, checkedRange_eq_some fits, inside]

section Slices

variable {Mem : Type} (api : MemoryApi Mem)

/-- The length every slice of the memory is given: `(memory.size() * 64 * 1024) as usize`. -/
def sliceLength (memory : Mem) : Nat := (api.size memory * 64 * 1024).toNat

/-- `memory_slice`; `none` is the panic of the `expect` on `data_pointer(0, 1)`. -/
def memorySlice (memory : Mem) : Option Bytes :=
  match api.dataPointer memory 0 1 with
  | none => none
  | some _ => some ⟨sliceLength api memory, api.data memory⟩

/-- `memory_slice_mut`: the same view, through which stores reach the memory. -/
def memorySliceMut (memory : Mem) : Option Bytes := memorySlice api memory

abbrev Access (α : Type) := Option (Except String α)

/-- `util::read_memory_into` over `util::memory_slice`. -/
def readMemoryIntoSlice (memory : Mem) (address : UInt32) (dest : List UInt8) : Access (List UInt8) :=
  (memorySlice api memory).map fun slice => readMemoryInto slice address dest

/-- `util::write_memory_from` over `util::memory_slice_mut`: the memory after the store. -/
def writeMemoryFromSlice (memory : Mem) (address : UInt32) (data : List UInt8) : Access Mem :=
  (memorySliceMut api memory).map fun slice =>
    (writeMemoryFrom slice address data).map fun slice' => api.withData memory slice'.byte

/-- `Display` of `sc_executor_common::error::Error::Other`. -/
def otherToString (message : String) : String := "Other: " ++ message

/-- `HostContext::read_memory_into`: the error as its `to_string`. -/
def hostReadMemoryInto (memory : Mem) (address : UInt32) (dest : List UInt8) :
    Access (List UInt8) :=
  (readMemoryIntoSlice api memory address dest).map (·.mapError otherToString)

/-- `HostContext::write_memory`: the memory after the store, the error as its `to_string`. -/
def hostWriteMemory (memory : Mem) (address : UInt32) (data : List UInt8) : Access Mem :=
  (writeMemoryFromSlice api memory address data).map (·.mapError otherToString)

/-- `extract_output_data`: `output_len` bytes read from `output_ptr`. -/
def extractOutputData (memory : Mem) (outputPtr outputLen : UInt32) : Access (List UInt8) :=
  readMemoryIntoSlice api memory outputPtr (List.replicate outputLen.toNat 0)

end Slices

/-! ## Exact access below the wasm32 maximum -/

section Exact

variable {Mem : Type} {api : MemoryApi Mem}

theorem sliceLength_eq {memory : Mem} (below : (api.size memory).toNat < 65536) :
    sliceLength api memory = (api.size memory).toNat * 65536 := by
  have pages : (api.size memory * 64).toNat = (api.size memory).toNat * 64 := by
    rw [UInt32.toNat_mul, show (64 : UInt32).toNat = 64 from rfl]
    exact Nat.mod_eq_of_lt (by omega)
  rw [sliceLength, UInt32.toNat_mul, pages, show (1024 : UInt32).toNat = 1024 from rfl,
    Nat.mod_eq_of_lt (by omega)]
  omega

theorem memorySlice_eq {memory : Mem} (lawful : api.Lawful) (pos : 0 < (api.size memory).toNat)
    (below : (api.size memory).toNat < 65536) :
    memorySlice api memory = some ⟨(api.size memory).toNat * 65536, api.data memory⟩ := by
  have found : api.dataPointer memory 0 1 ≠ none := by
    rw [Ne, lawful.dataPointer_none]
    intro empty
    simp [empty] at pos
  obtain ⟨base, base_eq⟩ := Option.ne_none_iff_exists'.mp found
  simp [memorySlice, base_eq, sliceLength_eq below]

theorem readMemoryIntoSlice_eq {memory : Mem} (lawful : api.Lawful)
    (pos : 0 < (api.size memory).toNat) (below : (api.size memory).toNat < 65536)
    (address : UInt32) (dest : List UInt8) (wide : dest.length < 2 ^ 32) :
    readMemoryIntoSlice api memory address dest =
      some (if address.toNat + dest.length ≤ (api.size memory).toNat * 65536 then
        .ok ((Bytes.mk ((api.size memory).toNat * 65536) (api.data memory)).read address.toNat
          dest.length)
      else .error "memory read is out of bounds") := by
  have fits : address.toNat + dest.length < 2 ^ 64 := by have := address.toNat_lt; omega
  simp only [readMemoryIntoSlice, memorySlice_eq lawful pos below, Option.map_some]
  congr 1
  by_cases inside : address.toNat + dest.length ≤ (api.size memory).toNat * 65536
  · simp [readMemoryInto, checkedRange_eq_some fits, inside]
  · simp [readMemoryInto, checkedRange_eq_some fits, inside]

theorem writeMemoryFromSlice_eq {memory : Mem} (lawful : api.Lawful)
    (pos : 0 < (api.size memory).toNat) (below : (api.size memory).toNat < 65536)
    (address : UInt32) (data : List UInt8) (wide : data.length < 2 ^ 32) :
    writeMemoryFromSlice api memory address data =
      some (if address.toNat + data.length ≤ (api.size memory).toNat * 65536 then
        .ok (api.withData memory
          ((Bytes.mk ((api.size memory).toNat * 65536) (api.data memory)).write address.toNat data).byte)
      else .error "memory write is out of bounds") := by
  have fits : address.toNat + data.length < 2 ^ 64 := by have := address.toNat_lt; omega
  simp only [writeMemoryFromSlice, memorySliceMut, memorySlice_eq lawful pos below, Option.map_some]
  congr 1
  by_cases inside : address.toNat + data.length ≤ (api.size memory).toNat * 65536
  · simp [writeMemoryFrom, checkedRange_eq_some fits, inside, Except.map]
  · simp [writeMemoryFrom, checkedRange_eq_some fits, inside, Except.map]

theorem hostReadMemoryInto_eq {memory : Mem} (lawful : api.Lawful)
    (pos : 0 < (api.size memory).toNat) (below : (api.size memory).toNat < 65536)
    (address : UInt32) (dest : List UInt8) (wide : dest.length < 2 ^ 32) :
    hostReadMemoryInto api memory address dest =
      some (if address.toNat + dest.length ≤ (api.size memory).toNat * 65536 then
        .ok ((Bytes.mk ((api.size memory).toNat * 65536) (api.data memory)).read address.toNat
          dest.length)
      else .error "Other: memory read is out of bounds") := by
  rw [hostReadMemoryInto, readMemoryIntoSlice_eq lawful pos below address dest wide, Option.map_some]
  split_ifs <;> rfl

theorem hostWriteMemory_eq {memory : Mem} (lawful : api.Lawful)
    (pos : 0 < (api.size memory).toNat) (below : (api.size memory).toNat < 65536)
    (address : UInt32) (data : List UInt8) (wide : data.length < 2 ^ 32) :
    hostWriteMemory api memory address data =
      some (if address.toNat + data.length ≤ (api.size memory).toNat * 65536 then
        .ok (api.withData memory
          ((Bytes.mk ((api.size memory).toNat * 65536) (api.data memory)).write address.toNat data).byte)
      else .error "Other: memory write is out of bounds") := by
  rw [hostWriteMemory, writeMemoryFromSlice_eq lawful pos below address data wide, Option.map_some]
  split_ifs <;> rfl

end Exact

/-! ## The two ends -/

/-- At the wasm32 maximum of 65536 pages the `u32` length `65536 * 64 * 1024` wraps to `0`:
every slice is empty and a read of the first byte of a 4 GiB memory fails. At zero pages the
`data_pointer(0, 1)` lookup fails and the access panics, even for an empty read. -/
theorem hostReadMemoryInto_ends {Mem : Type} {api : MemoryApi Mem} (lawful : api.Lawful)
    (full empty : Mem) (full_size : api.size full = 65536) (empty_size : api.size empty = 0) :
    memorySlice api full = some ⟨0, api.data full⟩ ∧
      hostReadMemoryInto api full 0 [0] = some (.error "Other: memory read is out of bounds") ∧
      0 + 1 ≤ (api.size full).toNat * 65536 ∧
      hostReadMemoryInto api empty 0 [] = none := by
  have found : api.dataPointer full 0 1 ≠ none := by
    rw [Ne, lawful.dataPointer_none, full_size]
    decide
  obtain ⟨base, base_eq⟩ := Option.ne_none_iff_exists'.mp found
  have missing : api.dataPointer empty 0 1 = none := (lawful.dataPointer_none empty).mpr empty_size
  have wraps : sliceLength api full = 0 := by simp [sliceLength, full_size]
  refine ⟨by simp [memorySlice, base_eq, wraps], ?_, by simp [full_size], ?_⟩
  · simp [hostReadMemoryInto, readMemoryIntoSlice, memorySlice, base_eq, wraps, readMemoryInto,
      checkedRange, Except.mapError, otherToString]
  · simp [hostReadMemoryInto, readMemoryIntoSlice, memorySlice, missing]

/-- A memory given by its page count and its bytes, with the lookup `data_pointer` performs:
an in-bounds window, or an error. -/
structure PagedMemory where
  pages : UInt32
  bytes : Nat → UInt8

/-- `PagedMemory` as a `wasmedge_sdk::Memory`. -/
def pagedApi : MemoryApi PagedMemory where
  size m := m.pages
  dataPointer m offset len :=
    if offset.toNat + len.toNat ≤ m.pages.toNat * 65536 then some offset.toNat else none
  data m := m.bytes
  withData m d := { m with bytes := d }

theorem pagedApi_lawful : pagedApi.Lawful where
  dataPointer_none m := by
    simp only [pagedApi, ite_eq_right_iff, reduceCtorEq, imp_false, Nat.not_le]
    constructor
    · intro small
      apply UInt32.toNat_inj.mp
      simp only [UInt32.toNat_zero]
      simp at small
      omega
    · intro zero
      simp [zero]
  data_withData _ _ := rfl
  size_withData _ _ := rfl

theorem hostReadMemoryInto_ends_paged :
    pagedApi.Lawful ∧
      memorySlice pagedApi ⟨65536, fun _ => 0⟩ = some ⟨0, fun _ => 0⟩ ∧
      hostReadMemoryInto pagedApi ⟨65536, fun _ => 0⟩ 0 [0] =
        some (.error "Other: memory read is out of bounds") ∧
      0 + 1 ≤ (pagedApi.size ⟨65536, fun _ => 0⟩).toNat * 65536 ∧
      hostReadMemoryInto pagedApi ⟨0, fun _ => 0⟩ 0 [] = none :=
  ⟨pagedApi_lawful, hostReadMemoryInto_ends pagedApi_lawful ⟨65536, fun _ => 0⟩ ⟨0, fun _ => 0⟩
    rfl rfl⟩

end WasmedgeExecutor.Wasmedge.MemorySlice
