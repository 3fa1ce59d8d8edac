import WasmedgeExecutor.Wasmedge.PerformCall
import WasmedgeExecutor.Wasmedge.Dispatch
import WasmedgeExecutor.Lib.Simulation
import Mathlib

/-!
The code of the module as the host sees it while a call runs. It makes requests of
`HostContext` (`allocate_memory`, `deallocate_memory`, `read_memory_into`, `write_memory`,
`register_panic_error_message`) and goes on from the answers. Its own loads and stores reach the
memory as the reads and writes of the host do; a load or a store out of bounds traps, which
the code does on an error answer.

The specification host answers the allocator's requests from the heap of `Allocator.Spec` and
keeps the bytes of the memory as the code wrote them. It refuses a free the heap refuses and a
read or a write over a header. `HostContext` simulates it: every run of code that the
specification host serves is served alike, and the allocator's statistics count the bytes of
the live blocks of the specification's heap (`guest_refines`). The same holds of the whole of
`perform_call`, the input and the output included (`performCall_refines`).
-/

set_option autoImplicit false
set_option relaxedAutoImplicit false

namespace WasmedgeExecutor.Wasmedge.HostCalls

open WasmedgeExecutor.Lib.ByteMemory (Bytes)
open WasmedgeExecutor.Lib.Simulation (Client Simulates Client.run_of_simulates)
open WasmedgeExecutor.Wasmedge.Util (Val WasmValueApi)
open WasmedgeExecutor.Wasmedge.Dispatch (valApi)
open WasmedgeExecutor.Wasmedge.MemorySlice (MemoryApi checkedRange checkedRange_eq_some readMemoryInto
  writeMemoryFrom writeMemoryFrom_of_le readMemoryIntoSlice writeMemoryFromSlice otherToString
  hostReadMemoryInto hostWriteMemory memorySlice memorySliceMut sliceLength extractOutputData PagedMemory
  pagedApi pagedApi_lawful)
open WasmedgeExecutor.Wasmedge.Runtime (InstanceWrapper)
open WasmedgeExecutor.Wasmedge.HostAllocator (heapSlice onSlice allocateMemory deallocateMemory
  hostResult HostRepresents bytes_heapSlice heapSlice_eq heapSlice_withData)
open WasmedgeExecutor.Wasmedge.PerformCall
open WasmedgeExecutor.Allocator.Layout (HeapSlice)
open WasmedgeExecutor.Allocator.FreeingBump (FreeingBumpHeapAllocator AllocationStats Fault Call outcome
  after guestWrite)
open WasmedgeExecutor.Allocator.FreeingBump.FreeingBumpHeapAllocator (allocate deallocate new)
open WasmedgeExecutor.Allocator.Spec
open WasmedgeExecutor.Allocator.Refinement (Represents SameBodies represents_allocate
  represents_deallocate represents_store represents_new bodies_allocate bodies_deallocate)

/-- A request of the code to the host. -/
inductive HostRequest
  | allocateMemory (size : UInt32)
  | deallocateMemory (ptr : UInt32)
  | readMemory (address : UInt32) (len : Nat)
  | writeMemory (address : UInt32) (data : List UInt8)
  | registerPanicErrorMessage (message : String)

/-- The host's answer to a request. -/
inductive HostAnswer
  | pointer (result : Except String UInt32)
  | unit (result : Except String Unit)
  | bytes (result : Except String (List UInt8))

/-- A run of a function of the module: a client of the host that ends with the function's
results or the text of a trap. -/
abbrev Guest (W : Type) := Client HostRequest HostAnswer (Except String (List W))

section Host

variable {Mem : Type} (memoryApi : MemoryApi Mem)

/-- `HostContext` serving one request, over the host state and the instance of the call; a
read is `read_memory_into` a buffer of `len` zeros. -/
def hostStep (s : HostState × InstanceWrapper Mem) :
    HostRequest → Option (HostAnswer × (HostState × InstanceWrapper Mem))
  | .allocateMemory size =>
    (allocateMemory memoryApi s.1.allocator s.2.memory size).map fun done =>
      (.pointer done.1, ({ s.1 with allocator := done.2.1 }, { s.2 with memory := done.2.2 }))
  | .deallocateMemory ptr =>
    (deallocateMemory memoryApi s.1.allocator s.2.memory ptr).map fun done =>
      (.unit done.1, ({ s.1 with allocator := done.2.1 }, { s.2 with memory := done.2.2 }))
  | .readMemory address len =>
    (hostReadMemoryInto memoryApi s.2.memory address (List.replicate len 0)).map fun read =>
      (.bytes read, s)
  | .writeMemory address data =>
    (hostWriteMemory memoryApi s.2.memory address data).map fun
      | .ok memory => (.unit (.ok ()), (s.1, { s.2 with memory }))
      | .error e => (.unit (.error e), s)
  | .registerPanicErrorMessage message =>
    some (.unit (.ok ()), ({ s.1 with panicMessage := some message }, s.2))

/-- The code of a module as WasmEdge runs it: `program` gives the run of each function on its
arguments, and `HostContext` serves its requests. -/
def codeOf {F W : Type} (funcs : List (String × F)) (tables : List (String × List (Option F)))
    (ty : F → Except String FuncType) (program : F → List W → Guest W) : Code Mem F W where
  funcs := funcs
  tables := tables
  ty := ty
  call func args hostState w :=
    ((program func args).run (hostStep memoryApi) (hostState, w)).map fun done =>
      (done.1, done.2.1, done.2.2)

end Host

/-! ## The specification host -/

/-- The host as the specification has it: the heap of the allocator, the bytes of the memory
as the code wrote them, and the panic message registered. -/
structure SpecHost where
  heap : Heap
  memory : Bytes
  panicMessage : Option String

/-- The specification host serving one request: the allocator answers as the heap does, and
the code may neither free what the heap does not free nor read or write a header. -/
def specStep (s : SpecHost) : HostRequest → Option (HostAnswer × SpecHost)
  | .allocateMemory size =>
    (hostResult (s.heap.allocate size).1).map fun r =>
      (.pointer r, { s with heap := (s.heap.allocate size).2 })
  | .deallocateMemory ptr =>
    (s.heap.deallocate ptr).bind fun freed =>
      (hostResult freed.1).map fun r => (.unit r, { s with heap := freed.2 })
  | .readMemory address len =>
    if s.heap.Avoids address.toNat (List.replicate len 0) then
      some (.bytes ((readMemoryInto s.memory address (List.replicate len 0)).mapError otherToString), s)
    else none
  | .writeMemory address data =>
    if s.heap.Avoids address.toNat data then
      match writeMemoryFrom s.memory address data with
      | .ok memory => some (.unit (.ok ()), { s with memory })
      | .error e => some (.unit (.error (otherToString e)), s)
    else none
  | .registerPanicErrorMessage message =>
    some (.unit (.ok ()), { s with panicMessage := some message })

/-- `perform_call` against the specification host, from its heap and the bytes of the memory:
the input in a block the heap hands out, the code served by the specification host, and the
output read from the bytes. Only the entry points of `code` are read; `program` is what runs.
With the outcome comes the heap whose bytes the statistics count, `none` where the call
returns before they are taken; the whole is `none` where the specification refuses. -/
def specPerformCall {Mem F W : Type} (api : WasmValueApi W) (code : Code Mem F W)
    (program : F → List W → Guest W) (data : List UInt8) (method : InvokeMethod) (heap : Heap)
    (memory : Bytes) : Option (Except Error (List UInt8) × Option Heap) :=
  let dataLen := data.length.toUInt32
  match (heap.allocate dataLen).1 with
  | .error (.panic _) => none
  | .error (.err e) => some (.error (.allocator e), none)
  | .ok dataPtr =>
    match writeMemoryFrom memory dataPtr data with
    | .error msg => some (.error (.other msg), none)
    | .ok memory =>
      match entryPoint api code method dataPtr dataLen with
      | .error e => some (.error e, some (heap.allocate dataLen).2)
      | .ok (func, args) =>
        match (program func args).run specStep ⟨(heap.allocate dataLen).2, memory, none⟩ with
        | none => none
        | some (.error trap, t) => some (.error (trapError trap t.panicMessage), some t.heap)
        | some (.ok results, t) =>
          match results.head? with
          | none => none
          | some result =>
            let output := unpackPtrAndLen (api.toI64 result).toUInt64
            if t.heap.Avoids output.1.toNat (List.replicate output.2.toNat 0) then
              some ((readMemoryInto t.memory output.1 (List.replicate output.2.toNat 0)).mapError .other,
                some t.heap)
            else none

/-- Statistics that count the heap: the bytes of its live blocks in `bytes_allocated`, the
bytes it carved in `address_space_used`; neither is there without the other. -/
def Counts : Option AllocationStats → Option Heap → Prop
  | none, none => True
  | some stats, some heap =>
    stats.bytesAllocated.toNat = heap.liveBytes ∧ stats.addressSpaceUsed.toNat = heap.top - heap.base
  | _, _ => False

section Holds

variable {Mem : Type} (memoryApi : MemoryApi Mem)

/-- The host state and the instance of a call hold the specification host: the allocator and
the memory hold its heap, the memory has its bytes outside the headers, and the panic message
is its. -/
structure Holds (s : HostState × InstanceWrapper Mem) (t : SpecHost) : Prop where
  represents : HostRepresents memoryApi s.1.allocator s.2.memory t.heap
  len : t.memory.len = t.heap.memLen
  bodies : ∀ i, t.heap.OutsideHeaders i → i < t.heap.memLen → memoryApi.data s.2.memory i = t.memory.byte i
  panicMessage : s.1.panicMessage = t.panicMessage

variable {memoryApi}

theorem bytes_of_heapSlice {memory : Mem} {slice : HeapSlice}
    (sliced : heapSlice memoryApi memory = some slice) :
    slice.bytes = ⟨sliceLength memoryApi memory, memoryApi.data memory⟩ := by
  unfold heapSlice at sliced
  cases found : memoryApi.dataPointer memory 0 1 with
  | none => simp [found] at sliced
  | some base =>
    simp only [found, Option.map_some, Option.some.injEq] at sliced
    rw [← sliced]

theorem memorySlice_of_heapSlice {memory : Mem} {slice : HeapSlice}
    (sliced : heapSlice memoryApi memory = some slice) : memorySlice memoryApi memory = some slice.bytes := by
  have same := bytes_heapSlice memoryApi memory
  rw [sliced, Option.map_some] at same
  exact same.symm

theorem onSlice_eq {α : Type} {call : Call HeapSlice α} {allocator : FreeingBumpHeapAllocator}
    {memory : Mem} {slice : HeapSlice} {r : Except String α}
    (sliced : heapSlice memoryApi memory = some slice)
    (answered : hostResult (outcome (call.run (allocator, slice))) = some r) :
    onSlice memoryApi call allocator memory = some (r, (after (call.run (allocator, slice))).1,
      memoryApi.withData memory (after (call.run (allocator, slice))).2.bytes.byte) := by
  unfold onSlice
  rw [sliced, Option.bind_some]
  cases ran : call.run (allocator, slice) with
  | ok a t =>
    rw [ran] at answered
    cases answered
    rfl
  | error f t =>
    rw [ran] at answered
    cases f with
    | err e =>
      cases answered
      rfl
    | panic msg => cases answered

theorem start_of_checkedRange {offset len max start stop : Nat}
    (range : checkedRange offset len max = some (start, stop)) :
    start = offset ∧ stop = offset + len ∧ stop ≤ max := by
  by_cases wide : offset + len < 2 ^ 64
  · rw [checkedRange_eq_some wide] at range
    split_ifs at range with inside
    cases range
    exact ⟨rfl, rfl, inside⟩
  · unfold checkedRange at range
    rw [if_neg wide] at range
    cases range

theorem readMemoryInto_congr {m m' : Bytes} (len : m'.len = m.len) {address : UInt32}
    {dest : List UInt8}
    (agree : ∀ i, address.toNat ≤ i → i < address.toNat + dest.length → i < m.len → m'.byte i = m.byte i) :
    readMemoryInto m' address dest = readMemoryInto m address dest := by
  unfold readMemoryInto
  rw [len]
  cases range : checkedRange address.toNat dest.length m.len with
  | none => rfl
  | some bounds =>
    obtain ⟨start, stop⟩ := bounds
    obtain ⟨rfl, rfl, inside⟩ := start_of_checkedRange range
    simp only [Nat.add_sub_cancel_left]
    rw [Bytes.read_congr fun i lo hi => agree i lo hi (by omega)]

end Holds

/-! ## One request -/

section Steps

variable {Mem : Type} {memoryApi : MemoryApi Mem} (lawful : memoryApi.Lawful)
  {s : HostState × InstanceWrapper Mem} {t : SpecHost}
include lawful

theorem holds_onSlice {α : Type} {call : Call HeapSlice α} {slice : HeapSlice} {heap' : Heap}
    {r : Except String α} (holds : Holds memoryApi s t)
    (sliced : heapSlice memoryApi s.2.memory = some slice)
    (answered : hostResult (outcome (call.run (s.1.allocator, slice))) = some r)
    (rep' : Represents (after (call.run (s.1.allocator, slice))) heap')
    (bodies : SameBodies slice (after (call.run (s.1.allocator, slice))).2 heap')
    (kept : heap'.memLen = t.heap.memLen) (grown : t.heap.blocks ⊆ heap'.blocks) :
    ∃ allocator' memory', onSlice memoryApi call s.1.allocator s.2.memory = some (r, allocator', memory') ∧
      Holds memoryApi ({ s.1 with allocator := allocator' }, { s.2 with memory := memory' })
        { t with heap := heap' } := by
  refine ⟨_, _, onSlice_eq sliced answered, ⟨_, heapSlice_withData lawful sliced bodies.1, rep'⟩,
    holds.len.trans kept.symm, fun i outside below => ?_, holds.panicMessage⟩
  show memoryApi.data (memoryApi.withData s.2.memory _) i = t.memory.byte i
  rw [lawful.data_withData, bodies.2 i outside, bytes_of_heapSlice sliced]
  exact holds.bodies i (outside.of_subset grown) (kept ▸ below)

theorem holds_allocate (holds : Holds memoryApi s t) (size : UInt32) {r : Except String UInt32}
    (answered : hostResult (t.heap.allocate size).1 = some r) :
    ∃ s', hostStep memoryApi s (.allocateMemory size) = some (.pointer r, s') ∧
      Holds memoryApi s' { t with heap := (t.heap.allocate size).2 } := by
  obtain ⟨slice, sliced, rep⟩ := holds.represents
  obtain ⟨same, rep'⟩ := represents_allocate rep size
  rw [← same] at answered
  obtain ⟨allocator', memory', called, holds'⟩ := holds_onSlice lawful holds sliced answered rep'
    (bodies_allocate rep size) (Heap.memLen_allocate size) (Heap.blocks_subset_allocate size)
  exact ⟨_, by simp only [hostStep, allocateMemory, called, Option.map_some], holds'⟩

theorem holds_deallocate (holds : Holds memoryApi s t) {ptr : UInt32} {result : Except Fault Unit}
    {heap' : Heap} (freed : t.heap.deallocate ptr = some (result, heap')) {r : Except String Unit}
    (answered : hostResult result = some r) :
    ∃ s', hostStep memoryApi s (.deallocateMemory ptr) = some (.unit r, s') ∧
      Holds memoryApi s' { t with heap := heap' } := by
  obtain ⟨slice, sliced, rep⟩ := holds.represents
  obtain ⟨same, rep'⟩ := represents_deallocate rep freed
  rw [← same] at answered
  have grown : t.heap.blocks ⊆ heap'.blocks := by
    rw [Heap.blocks_deallocate freed]
    exact List.Subset.refl _
  obtain ⟨allocator', memory', called, holds'⟩ := holds_onSlice lawful holds sliced answered rep'
    (bodies_deallocate rep freed) (Heap.memLen_deallocate freed) grown
  exact ⟨_, by simp only [hostStep, deallocateMemory, called, Option.map_some], holds'⟩

omit lawful in
theorem readMemoryIntoSlice_of_holds (holds : Holds memoryApi s t) {address : UInt32}
    {dest : List UInt8} (avoids : t.heap.Avoids address.toNat dest) :
    readMemoryIntoSlice memoryApi s.2.memory address dest = some (readMemoryInto t.memory address dest) := by
  obtain ⟨slice, sliced, rep⟩ := holds.represents
  have len : slice.bytes.len = t.heap.memLen := rep.memLen
  rw [readMemoryIntoSlice, memorySlice_of_heapSlice sliced, Option.map_some]
  congr 1
  refine readMemoryInto_congr (len.trans holds.len.symm) fun i lo hi inside => ?_
  rw [bytes_of_heapSlice sliced]
  exact holds.bodies i (Heap.outsideHeaders_of_avoids avoids lo hi) (holds.len ▸ inside)

theorem holds_writeInto (holds : Holds memoryApi s t) {slice : HeapSlice}
    (sliced : heapSlice memoryApi s.2.memory = some slice) {address : Nat} {data : List UInt8}
    (avoids : t.heap.Avoids address data) :
    Holds memoryApi (s.1, { s.2 with memory := memoryApi.withData s.2.memory (slice.bytes.write address data).byte })
      { t with memory := t.memory.write address data } := by
  obtain ⟨slice₀, sliced₀, rep⟩ := holds.represents
  rw [sliced] at sliced₀
  cases sliced₀
  have rep' : Represents (s.1.allocator, ⟨slice.bytes.write address data, slice.fits⟩) t.heap :=
    represents_store rep avoids
  have sliced' : heapSlice memoryApi (memoryApi.withData s.2.memory (slice.bytes.write address data).byte) =
      some ⟨slice.bytes.write address data, slice.fits⟩ :=
    @heapSlice_withData _ _ lawful _ _ ⟨slice.bytes.write address data, slice.fits⟩ sliced rfl
  refine ⟨⟨_, sliced', rep'⟩, holds.len, fun i outside below => ?_, holds.panicMessage⟩
  show memoryApi.data (memoryApi.withData s.2.memory _) i = (t.memory.write address data).byte i
  rw [lawful.data_withData, Bytes.byte_write, Bytes.byte_write]
  split_ifs
  · rfl
  · rw [bytes_of_heapSlice sliced]
    exact holds.bodies i outside below

theorem holds_write (holds : Holds memoryApi s t) {address : UInt32} {data : List UInt8}
    {answer : HostAnswer} {t' : SpecHost}
    (served : specStep t (.writeMemory address data) = some (answer, t')) :
    ∃ s', hostStep memoryApi s (.writeMemory address data) = some (answer, s') ∧ Holds memoryApi s' t' := by
  obtain ⟨slice, sliced, rep⟩ := holds.represents
  have len : slice.bytes.len = t.memory.len := rep.memLen.trans holds.len.symm
  simp only [specStep] at served
  split_ifs at served with avoids
  have written : hostWriteMemory memoryApi s.2.memory address data =
      some (((writeMemoryFrom slice.bytes address data).map fun bytes =>
        memoryApi.withData s.2.memory bytes.byte).mapError otherToString) := by
    rw [hostWriteMemory, writeMemoryFromSlice, memorySliceMut, memorySlice_of_heapSlice sliced,
      Option.map_some, Option.map_some]
  unfold writeMemoryFrom at served written
  rw [len] at written
  cases range : checkedRange address.toNat data.length t.memory.len with
  | none =>
    rw [range] at served written
    simp only [Option.some.injEq, Prod.mk.injEq] at served
    obtain ⟨rfl, rfl⟩ := served
    exact ⟨s, by simp only [hostStep, written, Option.map_some, Except.map, Except.mapError], holds⟩
  | some bounds =>
    obtain ⟨start, stop⟩ := bounds
    obtain ⟨rfl, -, -⟩ := start_of_checkedRange range
    rw [range] at served written
    simp only [Option.some.injEq, Prod.mk.injEq] at served
    obtain ⟨rfl, rfl⟩ := served
    exact ⟨_, by simp only [hostStep, written, Option.map_some, Except.map, Except.mapError],
      holds_writeInto lawful holds sliced avoids⟩

theorem simulates_hostStep : Simulates (hostStep memoryApi) specStep (Holds memoryApi) := by
  intro s t request answer t' holds served
  cases request with
  | allocateMemory size =>
    simp only [specStep, Option.map_eq_some_iff, Prod.mk.injEq] at served
    obtain ⟨r, answered, rfl, rfl⟩ := served
    exact holds_allocate lawful holds size answered
  | deallocateMemory ptr =>
    simp only [specStep, Option.bind_eq_some_iff, Option.map_eq_some_iff, Prod.mk.injEq] at served
    obtain ⟨⟨result, heap'⟩, freed, r, answered, rfl, rfl⟩ := served
    exact holds_deallocate lawful holds freed answered
  | readMemory address len =>
    simp only [specStep] at served
    split_ifs at served with avoids
    simp only [Option.some.injEq, Prod.mk.injEq] at served
    obtain ⟨rfl, rfl⟩ := served
    refine ⟨s, ?_, holds⟩
    simp only [hostStep, hostReadMemoryInto, readMemoryIntoSlice_of_holds holds avoids, Option.map_some]
  | writeMemory address data => exact holds_write lawful holds served
  | registerPanicErrorMessage message =>
    simp only [specStep, Option.some.injEq, Prod.mk.injEq] at served
    obtain ⟨rfl, rfl⟩ := served
    exact ⟨_, rfl, holds.represents, holds.len, holds.bodies, rfl⟩

end Steps

/-! ## Whole runs -/

section Runs

variable {Mem F W : Type} {memoryApi : MemoryApi Mem} (lawful : memoryApi.Lawful)
include lawful

theorem holds_new {heapBase : UInt32} {w : InstanceWrapper Mem}
    (pos : 0 < (memoryApi.size w.memory).toNat)
    (roomy : Heap.Roomy ((memoryApi.size w.memory).toNat * 65536))
    (inside : (new heapBase).originalHeapBase.toNat ≤ (memoryApi.size w.memory).toNat * 65536) :
    Holds memoryApi (HostState.new (new heapBase), w)
      ⟨Heap.empty (new heapBase).originalHeapBase.toNat ((memoryApi.size w.memory).toNat * 65536),
        ⟨(memoryApi.size w.memory).toNat * 65536, memoryApi.data w.memory⟩, none⟩ := by
  have below : (memoryApi.size w.memory).toNat < 65536 := by
    unfold Heap.Roomy at roomy
    omega
  have sliced := heapSlice_eq lawful pos below
  have rep := @represents_new heapBase
    ⟨⟨(memoryApi.size w.memory).toNat * 65536, memoryApi.data w.memory⟩,
      by show (memoryApi.size w.memory).toNat * 65536 < 2 ^ 32; omega⟩ inside roomy
  exact ⟨⟨_, sliced, rep⟩, rfl, fun _ _ _ => rfl, rfl⟩

omit lawful in
theorem counts_of_holds {s : HostState × InstanceWrapper Mem} {t : SpecHost}
    (holds : Holds memoryApi s t) : Counts (some s.1.allocationStats) (some t.heap) := by
  obtain ⟨slice, -, rep⟩ := holds.represents
  exact ⟨rep.allocated, rep.addressSpace⟩

/-- Every run of code that the specification host serves, `HostContext` serves with the same
result: so long as the code frees only what it allocated and reads or writes no header, it
cannot tell the allocator from the heap of the specification. The allocator it leaves counts
that heap. -/
theorem guest_refines (guest : Guest W) {s : HostState × InstanceWrapper Mem} {t t' : SpecHost}
    {result : Except String (List W)} (holds : Holds memoryApi s t)
    (served : guest.run specStep t = some (result, t')) :
    ∃ s', guest.run (hostStep memoryApi) s = some (result, s') ∧ Holds memoryApi s' t' ∧
      Counts (some s'.1.allocationStats) (some t'.heap) := by
  obtain ⟨s', ran, holds'⟩ := Client.run_of_simulates (simulates_hostStep lawful) guest holds served
  exact ⟨s', ran, holds', counts_of_holds holds'⟩

/-- A run that allocates 8 bytes, stores a byte in them and frees them. -/
def allocateStoreFree : Guest Val :=
  .send (.allocateMemory 8) fun
    | .pointer (.ok ptr) =>
      .send (.writeMemory ptr [7]) fun _ =>
        .send (.deallocateMemory ptr) fun _ => .done (.ok [])
    | _ => .done (.error "out of memory")

def onePage : InstanceWrapper PagedMemory := ⟨⟨1, fun _ => 0⟩, []⟩

omit lawful in
theorem guest_refines_allocateStoreFree :
    ∃ t', allocateStoreFree.run specStep
        ⟨Heap.empty (new 0).originalHeapBase.toNat ((1 : UInt32).toNat * 65536),
          ⟨(1 : UInt32).toNat * 65536, fun _ => 0⟩, none⟩ = some (.ok [], t') ∧
      ∃ s', allocateStoreFree.run (hostStep pagedApi) (HostState.new (new 0), onePage) = some (.ok [], s') ∧
        Holds pagedApi s' t' ∧ Counts (some s'.1.allocationStats) (some t'.heap) :=
  ⟨_, rfl, guest_refines pagedApi_lawful allocateStoreFree
    (@holds_new _ _ pagedApi_lawful 0 onePage (by decide) (by decide) (by decide)) rfl⟩

theorem holds_injected {w : InstanceWrapper Mem} {allocator' : FreeingBumpHeapAllocator}
    {heap heap' : Heap} {slice slice' : HeapSlice} {ptr : UInt32} {data : List UInt8}
    (sliced : heapSlice memoryApi w.memory = some slice)
    (rep' : Represents (allocator', slice') heap') (bodies : SameBodies slice slice' heap')
    (kept : heap'.memLen = heap.memLen) (avoids : heap'.Avoids ptr.toNat data) :
    Holds memoryApi (HostState.new allocator',
        { w with memory := memoryApi.withData w.memory (slice'.bytes.write ptr.toNat data).byte })
      ⟨heap', (⟨heap.memLen, memoryApi.data w.memory⟩ : Bytes).write ptr.toNat data, none⟩ := by
  have written : Represents (allocator', ⟨slice'.bytes.write ptr.toNat data, slice'.fits⟩) heap' :=
    represents_store rep' avoids
  have sliced' : heapSlice memoryApi (memoryApi.withData w.memory (slice'.bytes.write ptr.toNat data).byte) =
      some ⟨slice'.bytes.write ptr.toNat data, slice'.fits⟩ :=
    @heapSlice_withData _ _ lawful _ _ ⟨slice'.bytes.write ptr.toNat data, slice'.fits⟩ sliced bodies.1
  refine ⟨⟨_, sliced', written⟩, kept.symm, fun i outside below => ?_, rfl⟩
  show memoryApi.data (memoryApi.withData w.memory _) i = _
  rw [lawful.data_withData, Bytes.byte_write, Bytes.byte_write]
  split_ifs
  · rfl
  · rw [bodies.2 i outside, bytes_of_heapSlice sliced]

section Served

variable {api : WasmValueApi W} {funcs : List (String × F)} {tables : List (String × List (Option F))}
  {ty : F → Except String FuncType} {program : F → List W → Guest W} {data : List UInt8}
  {w w₁ : InstanceWrapper Mem} {method : InvokeMethod} {allocator allocator' : FreeingBumpHeapAllocator}
  {ptr len : UInt32} {func : F} {args : List W} {t₀ t : SpecHost}

theorem call_codeOf_of_served {s : HostState × InstanceWrapper Mem} {r : Except String (List W)}
    (holds : Holds memoryApi s t₀) (ran : (program func args).run specStep t₀ = some (r, t)) :
    ∃ s', (codeOf memoryApi funcs tables ty program).call func args s.1 s.2 = some (r, s'.1, s'.2) ∧
      Holds memoryApi s' t := by
  obtain ⟨s', ran', holds'⟩ := Client.run_of_simulates (simulates_hostStep lawful) _ holds ran
  exact ⟨s', by simp only [codeOf, Prod.mk.eta, ran', Option.map_some], holds'⟩

theorem performCall_of_trapped {trap : String}
    (injected : injectInputData memoryApi w allocator data = some (.ok (ptr, len), allocator', w₁))
    (resolved : entryPoint api (codeOf memoryApi funcs tables ty program) method ptr len = .ok (func, args))
    (holds₀ : Holds memoryApi (HostState.new allocator', w₁) t₀)
    (ran : (program func args).run specStep t₀ = some (.error trap, t)) :
    ∃ stats w', performCall memoryApi api (codeOf memoryApi funcs tables ty program) data w method
        allocator = some ((.error (trapError trap t.panicMessage), stats), w') ∧ Counts stats (some t.heap) := by
  obtain ⟨s, called, holds⟩ := call_codeOf_of_served lawful holds₀ ran
  rw [← holds.panicMessage]
  exact ⟨_, _, performCall_of_call_error injected (call_of_trap resolved called), counts_of_holds holds⟩

theorem performCall_of_returned {result : W} {rest : List W}
    (injected : injectInputData memoryApi w allocator data = some (.ok (ptr, len), allocator', w₁))
    (resolved : entryPoint api (codeOf memoryApi funcs tables ty program) method ptr len = .ok (func, args))
    (holds₀ : Holds memoryApi (HostState.new allocator', w₁) t₀)
    (ran : (program func args).run specStep t₀ = some (.ok (result :: rest), t))
    (clear : t.heap.Avoids (unpackPtrAndLen (api.toI64 result).toUInt64).1.toNat
      (List.replicate (unpackPtrAndLen (api.toI64 result).toUInt64).2.toNat 0)) :
    ∃ stats w', performCall memoryApi api (codeOf memoryApi funcs tables ty program) data w method
        allocator = some (((readMemoryInto t.memory (unpackPtrAndLen (api.toI64 result).toUInt64).1
          (List.replicate (unpackPtrAndLen (api.toI64 result).toUInt64).2.toNat 0)).mapError .other,
            stats), w') ∧ Counts stats (some t.heap) := by
  obtain ⟨s, called, holds⟩ := call_codeOf_of_served lawful holds₀ ran
  have output := readMemoryIntoSlice_of_holds holds clear
  exact ⟨_, _, performCall_of_call_ok injected (call_of_results resolved called) output,
    counts_of_holds holds⟩

end Served

/-- `perform_call` of code that `HostContext` serves, from an allocator and a memory that hold
a heap: wherever the specification host runs the call, `perform_call` ends in the same
outcome, the output included, and its statistics count the heap the specification ends with. -/
theorem performCall_refines (api : WasmValueApi W) (funcs : List (String × F))
    (tables : List (String × List (Option F))) (ty : F → Except String FuncType)
    (program : F → List W → Guest W) {data : List UInt8} {w : InstanceWrapper Mem}
    {method : InvokeMethod} {allocator : FreeingBumpHeapAllocator} {heap : Heap}
    {outcome : Except Error (List UInt8)} {counted : Option Heap}
    (rep : HostRepresents memoryApi allocator w.memory heap) (short : data.length < 2 ^ 32)
    (served : specPerformCall api (codeOf memoryApi funcs tables ty program) program data method heap
      ⟨heap.memLen, memoryApi.data w.memory⟩ = some (outcome, counted)) :
    ∃ stats w', performCall memoryApi api (codeOf memoryApi funcs tables ty program) data w method
        allocator = some ((outcome, stats), w') ∧ Counts stats counted := by
  obtain ⟨slice, sliced, rep⟩ := rep
  unfold specPerformCall at served
  dsimp only at served
  cases allocated : (heap.allocate data.length.toUInt32).1 with
  | error f =>
    rw [allocated] at served
    cases f with
    | panic msg => cases served
    | err e =>
      simp only [Option.some.injEq, Prod.mk.injEq] at served
      obtain ⟨rfl, rfl⟩ := served
      obtain ⟨allocator', w', rejected⟩ := injectInputData_error sliced rep allocated
      exact ⟨none, w', performCall_of_injectInputData_error rejected, trivial⟩
  | ok ptr =>
    obtain ⟨allocator', slice', injected, rep', bodies, within, avoids⟩ :=
      injectInputData_ok sliced rep short allocated
    have len : slice.bytes.len = heap.memLen := rep.memLen
    have written : writeMemoryFrom ⟨heap.memLen, memoryApi.data w.memory⟩ ptr data =
        .ok ((⟨heap.memLen, memoryApi.data w.memory⟩ : Bytes).write ptr.toNat data) :=
      writeMemoryFrom_of_le (by have := slice.fits; omega) (show ptr.toNat + data.length ≤ heap.memLen by omega)
    rw [allocated] at served
    simp only [written] at served
    have holds₀ := holds_injected lawful sliced rep' bodies (Heap.memLen_allocate _) avoids
    cases resolved : entryPoint api (codeOf memoryApi funcs tables ty program) method ptr
        data.length.toUInt32 with
    | error e =>
      rw [resolved] at served
      simp only [Option.some.injEq, Prod.mk.injEq] at served
      obtain ⟨rfl, rfl⟩ := served
      exact ⟨_, _, performCall_of_call_error injected (call_of_error resolved),
        counts_of_holds holds₀⟩
    | ok entry =>
      obtain ⟨func, args⟩ := entry
      rw [resolved] at served
      simp only at served
      cases ran : (program func args).run specStep
          ⟨(heap.allocate data.length.toUInt32).2,
            (⟨heap.memLen, memoryApi.data w.memory⟩ : Bytes).write ptr.toNat data, none⟩ with
      | none =>
        rw [ran] at served
        cases served
      | some done =>
        obtain ⟨r, t⟩ := done
        rw [ran] at served
        cases r with
        | error trap =>
          simp only [Option.some.injEq, Prod.mk.injEq] at served
          obtain ⟨rfl, rfl⟩ := served
          exact performCall_of_trapped lawful injected resolved holds₀ ran
        | ok results =>
          cases results with
          | nil => cases served
          | cons result rest =>
            simp only [List.head?_cons] at served
            split_ifs at served with clear
            simp only [Option.some.injEq, Prod.mk.injEq] at served
            obtain ⟨rfl, rfl⟩ := served
            exact performCall_of_returned lawful injected resolved holds₀ ran clear

def echo : Unit → List Val → Guest Val
  | _, [ptr, len] =>
    .done (.ok [.i64 (packPtrAndLen (valApi.toI32 ptr).toUInt32 (valApi.toI32 len).toUInt32).toInt64])
  | _, _ => .done (.error "unreachable")

omit lawful in
theorem performCall_refines_echo :
    ∃ stats w', performCall pagedApi valApi
        (codeOf pagedApi [("main", ())] [] (fun _ => .ok ⟨some [.i32, .i32], some [.i64]⟩) echo)
        [1, 2, 3] onePage (.exported "main") (new 0) = some ((.ok [1, 2, 3], stats), w') ∧
      Counts stats
        (some ((Heap.empty (new 0).originalHeapBase.toNat ((1 : UInt32).toNat * 65536)).allocate 3).2) :=
  performCall_refines pagedApi_lawful valApi _ _ _ echo
    (@holds_new _ _ pagedApi_lawful 0 onePage (by decide) (by decide) (by decide)).represents
    (by decide) rfl

end Runs

end WasmedgeExecutor.Wasmedge.HostCalls
