import WasmedgeExecutor.Wasmedge.MemorySlice
import WasmedgeExecutor.Allocator.Refinement
import Mathlib

/-!
The allocator calls of the WasmEdge host (`host.rs`): `HostContext::allocate_memory` and
`deallocate_memory` hand the `FreeingBumpHeapAllocator` of the `HostState` a `[u8]` over the
whole linear memory, `size() * 64 * 1024` bytes computed in `u32`, and return its `Err` as
its `Display` text.

Over a memory of 1 to 65535 pages the slice is the memory, and both calls answer as the
specification heap of `Allocator.Spec` does, keeping the memory a representation of the next
heap (`allocateMemory_refines`, `deallocateMemory_refines`). At 65536 pages the length wraps
to `0`: an allocator that has seen the memory before finds it shrunk and is poisoned.
-/

set_option autoImplicit false
set_option relaxedAutoImplicit false

namespace WasmedgeExecutor.Wasmedge.HostAllocator

open WasmedgeExecutor.Wasmedge.MemorySlice (MemoryApi sliceLength memorySlice memorySliceMut
  sliceLength_eq PagedMemory pagedApi pagedApi_lawful)
open WasmedgeExecutor.Allocator.Layout
open WasmedgeExecutor.Allocator.FreeingBump (FreeingBumpHeapAllocator Fault Call outcome after)
open WasmedgeExecutor.Allocator.FreeingBump.FreeingBumpHeapAllocator (new allocate deallocate
  run_allocate_shrunk run_deallocate_shrunk)
open WasmedgeExecutor.Allocator.Spec
open WasmedgeExecutor.Allocator.Refinement (Represents represents_allocate represents_deallocate
  represents_new)

/-- `Display` of `sc_allocator::Error`, as `map_err(|e| e.to_string())` returns it. -/
def errorToString : Error → String
  | .requestedAllocationTooLarge => "Requested allocation size is too large"
  | .allocatorOutOfSpace => "Allocator ran out of space"
  | .memoryShrinked => "Shrinking of the underlying memory is observed"
  | .other msg => "Other: " ++ msg

section Calls

variable {Mem : Type} (api : MemoryApi Mem)

/-- The `[u8]` that `from_raw_parts_mut` builds in both calls: the bytes from
`data_pointer_mut(0, 1)` on, `(size() * 64 * 1024) as usize` of them; `none` is the panic of
the `expect`. -/
def heapSlice (memory : Mem) : Option HeapSlice :=
  (api.dataPointer memory 0 1).map fun _ =>
    ⟨⟨sliceLength api memory, api.data memory⟩, UInt32.toNat_lt _⟩

/-- A call of the allocator on the slice of the whole memory: the host function's result, the
allocator and the memory after it, or `none` where it panics. -/
def onSlice {α : Type} (call : Call HeapSlice α) (allocator : FreeingBumpHeapAllocator)
    (memory : Mem) : Option (Except String α × FreeingBumpHeapAllocator × Mem) :=
  (heapSlice api memory).bind fun slice =>
    match call.run (allocator, slice) with
    | .ok a (allocator', slice') => some (.ok a, allocator', api.withData memory slice'.bytes.byte)
    | .error (.err e) (allocator', slice') =>
      some (.error (errorToString e), allocator', api.withData memory slice'.bytes.byte)
    | .error (.panic _) _ => none

/-- `HostContext::allocate_memory`. -/
def allocateMemory (allocator : FreeingBumpHeapAllocator) (memory : Mem) (size : UInt32) :
    Option (Except String UInt32 × FreeingBumpHeapAllocator × Mem) :=
  onSlice api (allocate size) allocator memory

/-- `HostContext::deallocate_memory`. -/
def deallocateMemory (allocator : FreeingBumpHeapAllocator) (memory : Mem) (ptr : UInt32) :
    Option (Except String Unit × FreeingBumpHeapAllocator × Mem) :=
  onSlice api (deallocate ptr) allocator memory

/-- What the host returns for a reply of the allocator: its `Err` as text, `none` for a panic. -/
def hostResult {α : Type} : Except Fault α → Option (Except String α)
  | .ok a => some (.ok a)
  | .error (.err e) => some (.error (errorToString e))
  | .error (.panic _) => none

/-- The allocator and the memory of a host context hold the heap: the slice of the memory does. -/
def HostRepresents (allocator : FreeingBumpHeapAllocator) (memory : Mem) (heap : Heap) : Prop :=
  ∃ slice, heapSlice api memory = some slice ∧ Represents (allocator, slice) heap

theorem bytes_heapSlice (memory : Mem) :
    (heapSlice api memory).map HeapSlice.bytes = memorySliceMut api memory := by
  unfold heapSlice memorySliceMut memorySlice
  cases api.dataPointer memory 0 1 <;> rfl

variable {api}

theorem heapSlice_eq (lawful : api.Lawful) {memory : Mem} (pos : 0 < (api.size memory).toNat)
    (below : (api.size memory).toNat < 65536) :
    heapSlice api memory =
      some ⟨⟨(api.size memory).toNat * 65536, api.data memory⟩, show _ * 65536 < 2 ^ 32 by omega⟩ := by
  have found : api.dataPointer memory 0 1 ≠ none := by
    rw [Ne, lawful.dataPointer_none]
    intro empty
    simp [empty] at pos
  obtain ⟨base, based⟩ := Option.ne_none_iff_exists'.mp found
  simp only [heapSlice, based, Option.map_some, sliceLength_eq below]

theorem heapSlice_withData (lawful : api.Lawful) {memory : Mem} {slice slice' : HeapSlice}
    (sliced : heapSlice api memory = some slice) (len : slice'.bytes.len = slice.bytes.len) :
    heapSlice api (api.withData memory slice'.bytes.byte) = some slice' := by
  have found : api.dataPointer memory 0 1 ≠ none := fun missing => by
    simp [heapSlice, missing] at sliced
  obtain ⟨base, based⟩ := Option.ne_none_iff_exists'.mp found
  have found' : api.dataPointer (api.withData memory slice'.bytes.byte) 0 1 ≠ none := by
    rw [Ne, lawful.dataPointer_none, lawful.size_withData, ← lawful.dataPointer_none]
    exact found
  obtain ⟨base', based'⟩ := Option.ne_none_iff_exists'.mp found'
  simp only [heapSlice, based, Option.map_some, Option.some.injEq] at sliced
  subst sliced
  obtain ⟨⟨len', bytes'⟩, fits'⟩ := slice'
  simp only at len
  subst len
  have kept : sliceLength api (api.withData memory bytes') = sliceLength api memory := by
    unfold sliceLength
    rw [lawful.size_withData]
  simp only [heapSlice, based', Option.map_some, lawful.data_withData, kept]

theorem onSlice_refines {α : Type} (lawful : api.Lawful) {call : Call HeapSlice α}
    {allocator : FreeingBumpHeapAllocator} {memory : Mem} {slice : HeapSlice} {heap' : Heap}
    {result : Except Fault α} (sliced : heapSlice api memory = some slice)
    (same : outcome (call.run (allocator, slice)) = result)
    (rep' : Represents (after (call.run (allocator, slice))) heap')
    (kept : heap'.memLen = slice.bytes.len) (expected : ∀ msg, result ≠ .error (.panic msg)) :
    ∃ r allocator' memory', onSlice api call allocator memory = some (r, allocator', memory') ∧
      hostResult result = some r ∧ HostRepresents api allocator' memory' heap' := by
  unfold onSlice
  rw [sliced, Option.bind_some]
  cases ran : call.run (allocator, slice) with
  | ok a t =>
    obtain ⟨allocator', slice'⟩ := t
    rw [ran] at same rep'
    have len : slice'.bytes.len = slice.bytes.len := rep'.memLen.trans kept
    exact ⟨_, _, _, rfl, by rw [← same]; rfl, slice', heapSlice_withData lawful sliced len, rep'⟩
  | error f t =>
    obtain ⟨allocator', slice'⟩ := t
    rw [ran] at same rep'
    have len : slice'.bytes.len = slice.bytes.len := rep'.memLen.trans kept
    cases f with
    | err e =>
      exact ⟨_, _, _, rfl, by rw [← same]; rfl, slice', heapSlice_withData lawful sliced len, rep'⟩
    | panic msg => exact absurd same.symm (expected msg)

/-- `allocate_memory` over a memory that holds the heap answers as the specification's
`allocate`, and leaves the memory holding the heap after it. -/
theorem allocateMemory_refines (lawful : api.Lawful) {allocator : FreeingBumpHeapAllocator}
    {memory : Mem} {heap : Heap} (rep : HostRepresents api allocator memory heap) (size : UInt32) :
    ∃ r allocator' memory', allocateMemory api allocator memory size = some (r, allocator', memory') ∧
      hostResult (heap.allocate size).1 = some r ∧
      HostRepresents api allocator' memory' (heap.allocate size).2 := by
  obtain ⟨slice, sliced, rep⟩ := rep
  obtain ⟨same, rep'⟩ := represents_allocate rep size
  have expected : ∀ msg, (heap.allocate size).1 ≠ .error (.panic msg) := fun msg panicked => by
    have stepped : heap.step (.allocate size) =
        some (.allocated (heap.allocate size).1, (heap.allocate size).2) := rfl
    have allowed := Heap.expected_step stepped
    rw [panicked] at allowed
    cases allowed
  have kept : (heap.allocate size).2.memLen = slice.bytes.len :=
    (Heap.memLen_allocate size).trans rep.memLen.symm
  exact onSlice_refines lawful sliced same rep' kept expected

theorem allocateMemory_refines_page :
    ∃ r allocator' memory', allocateMemory pagedApi (new 0) (⟨1, fun _ => 0⟩ : PagedMemory) 8 = some (r, allocator', memory') ∧
      hostResult ((Heap.empty (new 0).originalHeapBase.toNat ((1 : UInt32).toNat * 65536)).allocate 8).1 = some r ∧
      HostRepresents pagedApi allocator' memory' ((Heap.empty (new 0).originalHeapBase.toNat ((1 : UInt32).toNat * 65536)).allocate 8).2 := by
  have pos : 0 < (pagedApi.size ⟨1, fun _ => 0⟩).toNat := by decide
  have below : (pagedApi.size ⟨1, fun _ => 0⟩).toNat < 65536 := by decide
  have sliced := heapSlice_eq pagedApi_lawful pos below
  have rep := @represents_new 0 ⟨⟨(1 : UInt32).toNat * 65536, fun _ => 0⟩, by decide⟩ (by decide) (by decide)
  exact allocateMemory_refines pagedApi_lawful ⟨_, sliced, rep⟩ 8

/-- `deallocate_memory` of a pointer the specification frees answers as the specification's
`deallocate`, and leaves the memory holding the heap after it. -/
theorem deallocateMemory_refines (lawful : api.Lawful) {allocator : FreeingBumpHeapAllocator}
    {memory : Mem} {heap heap' : Heap} {ptr : UInt32} {result : Except Fault Unit}
    (rep : HostRepresents api allocator memory heap) (freed : heap.deallocate ptr = some (result, heap')) :
    ∃ r allocator' memory', deallocateMemory api allocator memory ptr = some (r, allocator', memory') ∧
      hostResult result = some r ∧ HostRepresents api allocator' memory' heap' := by
  obtain ⟨slice, sliced, rep⟩ := rep
  obtain ⟨same, rep'⟩ := represents_deallocate rep freed
  have expected : ∀ msg, result ≠ .error (.panic msg) := fun msg panicked => by
    have stepped : heap.step (.deallocate ptr) = some (.deallocated result, heap') := by
      simp [Heap.step, freed]
    have allowed := Heap.expected_step stepped
    rw [panicked] at allowed
    cases allowed
  have kept : heap'.memLen = slice.bytes.len := (Heap.memLen_deallocate freed).trans rep.memLen.symm
  exact onSlice_refines lawful sliced same rep' kept expected

theorem deallocateMemory_refines_first :
    ∃ r allocator' memory', deallocateMemory pagedApi
        (after ((allocate 8 : Call HeapSlice UInt32).run (new 0, ⟨⟨(1 : UInt32).toNat * 65536, fun _ => 0⟩, by decide⟩))).1
        (pagedApi.withData ⟨1, fun _ => 0⟩
          (after ((allocate 8 : Call HeapSlice UInt32).run (new 0, ⟨⟨(1 : UInt32).toNat * 65536, fun _ => 0⟩, by decide⟩))).2.bytes.byte)
        8 = some (r, allocator', memory') ∧
      hostResult (.ok () : Except Fault Unit) = some r ∧
      HostRepresents pagedApi allocator' memory'
        (((Heap.empty (new 0).originalHeapBase.toNat ((1 : UInt32).toNat * 65536)).allocate 8).2.release 0 ⟨0, by decide⟩) := by
  have pos : 0 < (pagedApi.size ⟨1, fun _ => 0⟩).toNat := by decide
  have below : (pagedApi.size ⟨1, fun _ => 0⟩).toNat < 65536 := by decide
  have sliced := heapSlice_eq pagedApi_lawful pos below
  have rep := (represents_allocate (@represents_new 0 ⟨⟨(1 : UInt32).toNat * 65536, fun _ => 0⟩, by decide⟩
    (by decide) (by decide)) 8).2
  have len := rep.memLen.trans (Heap.memLen_allocate 8)
  exact deallocateMemory_refines pagedApi_lawful ⟨_, heapSlice_withData pagedApi_lawful sliced len, rep⟩ rfl

/-- At the wasm32 maximum of 65536 pages the slice is empty: to an allocator that has seen the
memory before, the memory has shrunk, and both calls fail and poison it. -/
theorem onSlice_full_memory (lawful : api.Lawful) {allocator : FreeingBumpHeapAllocator}
    {memory : Mem} (full : api.size memory = 65536) (healthy : allocator.poisoned = false)
    (seen : 0 < allocator.lastObservedMemorySize.toNat) :
    (∀ size, allocateMemory api allocator memory size =
      some (.error "Shrinking of the underlying memory is observed",
        { allocator with poisoned := true }, api.withData memory (api.data memory))) ∧
    (∀ ptr, deallocateMemory api allocator memory ptr =
      some (.error "Shrinking of the underlying memory is observed",
        { allocator with poisoned := true }, api.withData memory (api.data memory))) := by
  have found : api.dataPointer memory 0 1 ≠ none := by
    rw [Ne, lawful.dataPointer_none, full]
    decide
  obtain ⟨base, based⟩ := Option.ne_none_iff_exists'.mp found
  have wraps : sliceLength api memory = 0 := by simp [sliceLength, full]
  have empty : heapSlice api memory = some ⟨⟨0, api.data memory⟩, Nat.two_pow_pos 32⟩ := by
    simp only [heapSlice, based, Option.map_some, wraps]
  have shrunk : Memory.size (⟨⟨0, api.data memory⟩, Nat.two_pow_pos 32⟩ : HeapSlice) <
      allocator.lastObservedMemorySize := by
    rw [UInt32.lt_iff_toNat_lt]
    exact seen
  refine ⟨fun size => ?_, fun ptr => ?_⟩
  · simp only [allocateMemory, onSlice, empty, Option.bind_some, run_allocate_shrunk healthy shrunk]
    rfl
  · simp only [deallocateMemory, onSlice, empty, Option.bind_some, run_deallocate_shrunk healthy shrunk]
    rfl

end Calls

theorem onSlice_full_memory_grown :
    (∀ size, allocateMemory pagedApi (after ((allocate 8 : Call HeapSlice UInt32).run
        (new 0, ⟨⟨65536, fun _ => 0⟩, by decide⟩))).1 ⟨65536, fun _ => 0⟩ size =
      some (.error "Shrinking of the underlying memory is observed",
        { (after ((allocate 8 : Call HeapSlice UInt32).run (new 0, ⟨⟨65536, fun _ => 0⟩, by decide⟩))).1 with
          poisoned := true }, pagedApi.withData ⟨65536, fun _ => 0⟩ (pagedApi.data ⟨65536, fun _ => 0⟩))) ∧
    (∀ ptr, deallocateMemory pagedApi (after ((allocate 8 : Call HeapSlice UInt32).run
        (new 0, ⟨⟨65536, fun _ => 0⟩, by decide⟩))).1 ⟨65536, fun _ => 0⟩ ptr =
      some (.error "Shrinking of the underlying memory is observed",
        { (after ((allocate 8 : Call HeapSlice UInt32).run (new 0, ⟨⟨65536, fun _ => 0⟩, by decide⟩))).1 with
          poisoned := true }, pagedApi.withData ⟨65536, fun _ => 0⟩ (pagedApi.data ⟨65536, fun _ => 0⟩))) :=
  onSlice_full_memory pagedApi_lawful rfl (by decide) (by decide)

end WasmedgeExecutor.Wasmedge.HostAllocator
