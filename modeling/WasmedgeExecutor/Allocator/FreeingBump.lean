import WasmedgeExecutor.Allocator.Layout
import Mathlib

/-!
`FreeingBumpHeapAllocator`: its state, `new`, `allocate`, `deallocate` and the two helpers
`bump` and `observe_memory_size`.

A call mutates the allocator and the memory in place and returns a `Result`, or panics; it is
modelled in `EStateM` over the pair of both, with `Fault` telling an `Err` from a panic. The
state an `Err` leaves behind is kept, as `&mut` leaves it in the source. The `PoisonBomb` is
`armed`: every exit of its scope other than the final `disarm` raises the poisoned flag.
Arithmetic is `u32` arithmetic as a release build performs it, wrapping on overflow.
-/

set_option autoImplicit false
set_option relaxedAutoImplicit false

namespace WasmedgeExecutor.Allocator.FreeingBump

open WasmedgeExecutor.Allocator.Layout
open WasmedgeExecutor.Lib.Bits (checkedSub)
open WasmedgeExecutor.Lib.Outcome (run_mapM_cons)

/-- `FreeLists`: the head of the free list of every order. -/
structure FreeLists where
  heads : Vector Link nOrders
  deriving DecidableEq, Repr

namespace FreeLists

/-- `FreeLists::new`: every list empty. -/
def new : FreeLists := ⟨Vector.replicate nOrders .nil⟩

/-- `Index<Order>`. -/
def get (lists : FreeLists) (order : Order) : Link :=
  have := order.lt
  lists.heads[order.raw.toNat]

/-- `IndexMut<Order>`, as an assignment. -/
def set (lists : FreeLists) (order : Order) (new : Link) : FreeLists :=
  ⟨lists.heads.set order.raw.toNat new order.lt⟩

/-- `FreeLists::replace`: the old head, and the lists with the new one. -/
def replace (lists : FreeLists) (order : Order) (new : Link) : Link × FreeLists :=
  (lists.get order, lists.set order new)

@[simp] theorem get_set_self (lists : FreeLists) (order : Order) (new : Link) :
    (lists.set order new).get order = new := by
  simp [get, set]

theorem get_set_of_ne (lists : FreeLists) {order other : Order} (new : Link)
    (different : other ≠ order) : (lists.set order new).get other = lists.get other := by
  have raw_ne : order.raw.toNat ≠ other.raw.toNat := by
    intro same
    apply different
    cases order
    cases other
    simp only [Order.mk.injEq]
    exact (UInt32.toNat_inj.mp same).symm
  simp [get, set, raw_ne]

@[simp] theorem get_new (order : Order) : new.get order = .nil := by
  simp [new, get]

end FreeLists

/-- `AllocationStats`. The `u128` sum is a natural number kept below `2 ^ 128`. -/
structure AllocationStats where
  bytesAllocated : UInt32
  bytesAllocatedPeak : UInt32
  bytesAllocatedSum : Nat
  addressSpaceUsed : UInt32
  deriving DecidableEq, Repr

/-- `AllocationStats::default`. -/
def AllocationStats.default : AllocationStats := ⟨0, 0, 0, 0⟩

/-- The statistics after an allocation of a block of `order`. -/
def AllocationStats.afterAllocate (stats : AllocationStats) (order : Order)
    (bumper originalHeapBase : UInt32) : AllocationStats :=
  let bytesAllocated := stats.bytesAllocated + (order.size + headerSize)
  { bytesAllocated
    bytesAllocatedSum := (stats.bytesAllocatedSum + (order.size + headerSize).toNat) % 2 ^ 128
    bytesAllocatedPeak := max stats.bytesAllocatedPeak bytesAllocated
    addressSpaceUsed := bumper - originalHeapBase }

/-- `FreeingBumpHeapAllocator`; `stats()` is the projection `stats`. -/
structure FreeingBumpHeapAllocator where
  originalHeapBase : UInt32
  bumper : UInt32
  freeLists : FreeLists
  poisoned : Bool
  lastObservedMemorySize : UInt32
  stats : AllocationStats
  deriving DecidableEq, Repr

/-- How a call ends early: an `Err` passed up by `?`, or a panic. -/
inductive Fault
  | err (e : Error)
  | panic (msg : String)
  deriving DecidableEq, Repr

/-- A call on the allocator and the memory it is handed. -/
abbrev Call (M : Type) := EStateM Fault (FreeingBumpHeapAllocator × M)

/-- What a call came to: the value it returned or how it ended early. -/
def outcome {σ α : Type} : EStateM.Result Fault σ α → Except Fault α
  | .ok a _ => .ok a
  | .error e _ => .error e

/-- The state a call leaves behind, also when it ends early. -/
def after {σ α : Type} : EStateM.Result Fault σ α → σ
  | .ok _ s => s
  | .error _ s => s

/-- A store of the guest between two calls: `data` at `addr` of the linear memory. -/
def guestWrite (addr : Nat) (data : List UInt8) : Call HeapSlice Unit :=
  modify fun s => (s.1, ⟨s.2.bytes.write addr data, s.2.fits⟩)

namespace FreeingBumpHeapAllocator

variable {M : Type} [Memory M]

/-- `FreeingBumpHeapAllocator::new`: the heap base is rounded up to the alignment. -/
def new (heapBase : UInt32) : FreeingBumpHeapAllocator :=
  let alignedHeapBase := (heapBase + alignment - 1) / alignment * alignment
  { originalHeapBase := alignedHeapBase
    bumper := alignedHeapBase
    freeLists := FreeLists.new
    poisoned := false
    lastObservedMemorySize := 0
    stats := AllocationStats.default }

/-- `bump`: the bumper before and after the increase, unless it would pass `heapEnd`. -/
def bump (bumper size heapEnd : UInt32) : Except Error (UInt32 × UInt32) :=
  if bumper + size > heapEnd then .error .allocatorOutOfSpace
  else .ok (bumper, bumper + size)

theorem bump_eq_ok {bumper size heapEnd : UInt32} :
    (bump bumper size heapEnd).isOk ↔ (bumper.toNat + size.toNat) % 2 ^ 32 ≤ heapEnd.toNat := by
  unfold bump
  split
  · case isTrue beyond =>
    rw [GT.gt, UInt32.lt_iff_toNat_lt, UInt32.toNat_add] at beyond
    simp [Except.isOk, Except.toBool]
    omega
  · case isFalse within =>
    rw [GT.gt, UInt32.lt_iff_toNat_lt, UInt32.toNat_add] at within
    simp [Except.isOk, Except.toBool]
    omega

/-- `observe_memory_size`: the new last observed size, unless the memory shrank. -/
def observeMemorySize (lastObservedMemorySize memorySize : UInt32) : Except Error UInt32 :=
  if memorySize < lastObservedMemorySize then .error .memoryShrinked
  else .ok memorySize

/-- `Option::ok_or_else`. -/
def okOrElse {α : Type} (value : Option α) (e : Error) : Except Error α :=
  match value with
  | some a => .ok a
  | none => .error e

/-- The `?` operator on a `Result` of the allocator. -/
def orErr {α : Type} : Except Error α → Call M α
  | .ok a => pure a
  | .error e => throw (.err e)

/-- `assert!`. -/
def assert (condition : Bool) (msg : String) : Call M Unit :=
  if condition then pure () else throw (.panic msg)

/-- The `PoisonBomb` going off. -/
def poison : Call M Unit :=
  modify fun s => ({ s.1 with poisoned := true }, s.2)

/-- `body` with a `PoisonBomb` armed over it and disarmed at its end. -/
def armed {α : Type} (body : Call M α) : Call M α :=
  tryCatch body fun e => do
    poison
    throw e

/-- The free-list path of `allocate`: unlink the head of the free list of `order`. -/
def takeFree (order : Order) (headerPtr : UInt32) : Call M UInt32 := do
  let (_, mem) ← get
  assert (headerPtr + order.size + headerSize ≤ Memory.size mem)
    "Pointer is looked up in list of free entries, into which\n\t\t\t\t\tonly valid values are inserted; qed"
  let header ← orErr (Header.readFrom mem headerPtr)
  let nextFree ← orErr (okOrElse header.intoFree (error "free list points to a occupied header"))
  modify fun s => ({ s.1 with freeLists := s.1.freeLists.set order nextFree }, s.2)
  return headerPtr

/-- The bump path of `allocate`: carve a new block from the end of the heap. -/
def takeBump (order : Order) : Call M UInt32 := do
  let (self, mem) ← get
  let (headerPtr, bumper) ← orErr (bump self.bumper (order.size + headerSize) (Memory.size mem))
  modify fun s => ({ s.1 with bumper := bumper }, s.2)
  return headerPtr

/-- `FreeingBumpHeapAllocator::allocate`: the pointer just past the header of the block. -/
def allocate (size : UInt32) : Call M UInt32 := do
  if (← get).1.poisoned then
    throw (.err (error "the allocator has been poisoned"))
  armed do
    let (self, mem) ← get
    let lastObserved ← orErr (observeMemorySize self.lastObservedMemorySize (Memory.size mem))
    modify fun s => ({ s.1 with lastObservedMemorySize := lastObserved }, s.2)
    let order ← orErr (Order.fromSize size)
    let headerPtr ← match self.freeLists.get order with
      | .ptr headerPtr => takeFree order headerPtr
      | .nil => takeBump order
    let (self, mem) ← get
    let mem ← orErr (Header.writeInto (.occupied order) mem headerPtr)
    let stats := self.stats.afterAllocate order self.bumper self.originalHeapBase
    set ({ self with stats }, mem)
    return headerPtr + headerSize

/-- A heap base `2 ^ 25` below the top of the address space and a memory of 65535 pages: the
bump of a 32 MiB block wraps to `8`, passes the check, and the block returned ends past the
memory. The bumper is left at `8`, below the heap base. -/
theorem allocate_block_passes_memory_end :
    let mem : HeapSlice := ⟨⟨4294901760, fun _ => 0⟩, by decide⟩
    let call := (allocate 33554432 : Call HeapSlice UInt32).run (new 4261412864, mem)
    outcome call = .ok 4261412872 ∧ (Memory.size mem).toNat < 4261412872 + 2 ^ 25 ∧
      (after call).1.bumper = 8 := by
  decide

/-- Under the same wrap a `2 ^ 17` block is granted although the free list of its order is
empty and the bumper plus the block and its header passes the end of the memory. -/
theorem allocate_succeeds_past_memory_end :
    let mem : HeapSlice := ⟨⟨4294901760, fun _ => 0⟩, by decide⟩
    let heap := new 4294836224
    outcome ((allocate 131072 : Call HeapSlice UInt32).run (heap, mem)) = .ok 4294836232 ∧
      (Memory.size mem).toNat < heap.bumper.toNat + 2 ^ 17 + 8 ∧
      (∀ order, heap.freeLists.get order = .nil) := by
  refine ⟨by decide, by decide, fun order => FreeLists.get_new order⟩

/-! ### The bump path of `allocate`

The run lemmas of the helpers, the spec of an allocation carved from the bumper, and the run of
allocations of one order that all fit below the end of the memory.
-/

omit [Memory M] in
@[simp] theorem run_orErr_ok {α : Type} (a : α) (s : FreeingBumpHeapAllocator × M) :
    (orErr (.ok a) : Call M α).run s = .ok a s := rfl

omit [Memory M] in
@[simp] theorem run_orErr_error {α : Type} (e : Error) (s : FreeingBumpHeapAllocator × M) :
    (orErr (.error e) : Call M α).run s = .error (.err e) s := rfl

omit [Memory M] in
theorem run_armed_ok {α : Type} {body : Call M α} {s s' : FreeingBumpHeapAllocator × M} {a : α}
    (ran : body.run s = .ok a s') : (armed body).run s = .ok a s' := by
  show EStateM.tryCatch body _ s = _
  simp only [EStateM.tryCatch]
  rw [show body s = body.run s from rfl, ran]

theorem observeMemorySize_ok {lastObservedMemorySize memorySize : UInt32}
    (grown : ¬ memorySize < lastObservedMemorySize) :
    observeMemorySize lastObservedMemorySize memorySize = .ok memorySize := by
  rw [observeMemorySize, if_neg grown]

theorem bump_ok {bumper size heapEnd : UInt32} (room : ¬ bumper + size > heapEnd) :
    bump bumper size heapEnd = .ok (bumper, bumper + size) := by
  rw [bump, if_neg room]

theorem run_takeBump {self : FreeingBumpHeapAllocator} {mem : M} {order : Order}
    (room : ¬ self.bumper + (order.size + headerSize) > Memory.size mem) :
    (takeBump order).run (self, mem) =
      .ok self.bumper ({ self with bumper := self.bumper + (order.size + headerSize) }, mem) := by
  simp only [takeBump, EStateM.run_bind, EStateM.run_get, bump_ok room, run_orErr_ok,
    EStateM.run_modify, EStateM.run_pure]

theorem run_allocate_bump {self : FreeingBumpHeapAllocator} {mem mem' : M} {size : UInt32}
    {order : Order} (healthy : self.poisoned = false)
    (observed : ¬ Memory.size mem < self.lastObservedMemorySize)
    (sized : Order.fromSize size = .ok order) (empty : self.freeLists.get order = .nil)
    (room : ¬ self.bumper + (order.size + headerSize) > Memory.size mem)
    (written : Header.writeInto (.occupied order) mem self.bumper = .ok mem') :
    (allocate size).run (self, mem) = .ok (self.bumper + headerSize)
      ({ self with
          bumper := self.bumper + (order.size + headerSize)
          lastObservedMemorySize := Memory.size mem
          stats := self.stats.afterAllocate order (self.bumper + (order.size + headerSize))
            self.originalHeapBase }, mem') := by
  simp only [allocate, EStateM.run_bind, EStateM.run_get, healthy, Bool.false_eq_true, if_false]
  apply run_armed_ok
  simp only [EStateM.run_bind, EStateM.run_get, observeMemorySize_ok observed, run_orErr_ok,
    EStateM.run_modify, sized, empty]
  have room' : ¬ ({ self with lastObservedMemorySize := Memory.size mem }).bumper +
      (order.size + headerSize) > Memory.size mem := room
  rw [run_takeBump room']
  simp only [written, run_orErr_ok, EStateM.run_set, EStateM.run_pure, healthy]

theorem toNat_blockSize (order : Order) :
    (order.size + headerSize).toNat = order.size.toNat + 8 := by
  have small := order.size_le
  rw [UInt32.toNat_add, show headerSize.toNat = 8 from rfl, Nat.mod_eq_of_lt (by omega)]

theorem run_allocate_replicate {size : UInt32} {order : Order}
    (sized : Order.fromSize size = .ok order) :
    ∀ (k : Nat) (self : FreeingBumpHeapAllocator) (mem : HeapSlice),
      self.poisoned = false → ¬ Memory.size mem < self.lastObservedMemorySize →
      self.freeLists.get order = .nil →
      self.bumper.toNat + k * (order.size.toNat + 8) ≤ mem.bytes.len →
      ∃ self' mem', ((List.replicate k size).mapM allocate : Call HeapSlice _).run (self, mem) =
          .ok ((List.range k).map fun i =>
            (self.bumper.toNat + 8 + i * (order.size.toNat + 8)).toUInt32) (self', mem') ∧
        self'.bumper.toNat = self.bumper.toNat + k * (order.size.toNat + 8) ∧
        self'.stats.bytesAllocated.toNat =
          (self.stats.bytesAllocated.toNat + k * (order.size.toNat + 8)) % 2 ^ 32 := by
  intro k
  induction k with
  | zero =>
    intro self mem _ _ _ _
    exact ⟨self, mem, rfl, by simp, by simp [Nat.mod_eq_of_lt self.stats.bytesAllocated.toNat_lt]⟩
  | succ k ih =>
    intro self mem healthy observed empty fits
    have block := toNat_blockSize order
    have header_fits : self.bumper.toNat + 8 ≤ mem.bytes.len := by
      rw [Nat.succ_mul] at fits
      omega
    obtain ⟨mem₁, written, -, len₁, -⟩ :=
      readFrom_writeInto (show (Header.occupied order).Encodable from trivial) header_fits
    have bumped : (self.bumper + (order.size + headerSize)).toNat =
        self.bumper.toNat + (order.size.toNat + 8) := by
      rw [UInt32.toNat_add, block, Nat.mod_eq_of_lt]
      have := mem.fits
      rw [Nat.succ_mul] at fits
      omega
    have room : ¬ self.bumper + (order.size + headerSize) > Memory.size mem := by
      rw [GT.gt, UInt32.lt_iff_toNat_lt, bumped, not_lt]
      show _ ≤ mem.bytes.len.toUInt32.toNat
      rw [Nat.toUInt32_eq, UInt32.toNat_ofNat', Nat.mod_eq_of_lt mem.fits]
      rw [Nat.succ_mul] at fits
      omega
    have first := run_allocate_bump healthy observed sized empty room written
    have size₁ : Memory.size mem₁ = Memory.size mem := by
      show mem₁.bytes.len.toUInt32 = mem.bytes.len.toUInt32
      rw [len₁]
    have fits₁ : (self.bumper + (order.size + headerSize)).toNat + k * (order.size.toNat + 8) ≤
        mem₁.bytes.len := by
      rw [bumped, len₁, Nat.succ_mul] at *
      omega
    obtain ⟨self', mem', rest, bumper', allocated'⟩ := ih
      { self with
          bumper := self.bumper + (order.size + headerSize)
          lastObservedMemorySize := Memory.size mem
          stats := self.stats.afterAllocate order (self.bumper + (order.size + headerSize))
            self.originalHeapBase }
      mem₁ healthy (by rw [size₁]; exact Nat.lt_irrefl _) empty fits₁
    have pointers : (List.range (k + 1)).map (fun i =>
        (self.bumper.toNat + 8 + i * (order.size.toNat + 8)).toUInt32) =
        (self.bumper + headerSize) :: (List.range k).map (fun i =>
          ((self.bumper + (order.size + headerSize)).toNat + 8 + i * (order.size.toNat + 8)).toUInt32) := by
      rw [List.range_succ_eq_map, List.map_cons, List.map_map]
      congr 1
      · apply UInt32.toNat_inj.mp
        rw [UInt32.toNat_add, Nat.toUInt32_eq, UInt32.toNat_ofNat', Nat.zero_mul, Nat.add_zero]
        rfl
      · apply List.map_congr_left
        intro i _
        rw [Function.comp_apply, bumped, Nat.succ_mul]
        congr 1
        omega
    refine ⟨self', mem', ?_, ?_, ?_⟩
    · rw [List.replicate_succ, pointers]
      exact run_mapM_cons first rest
    · rw [bumper', bumped, Nat.succ_mul]
      omega
    · rw [allocated']
      show ((self.stats.bytesAllocated + (order.size + headerSize)).toNat + _) % 2 ^ 32 = _
      rw [UInt32.toNat_add, block, Nat.succ_mul]
      omega

theorem toNat_carved {base stride k i : Nat} (apart : 0 < stride)
    (fits : base + k * stride ≤ 2 ^ 32) (below : i < k) :
    (base + i * stride).toUInt32.toNat = base + i * stride := by
  have next : (i + 1) * stride ≤ k * stride := Nat.mul_le_mul_right stride below
  rw [Nat.succ_mul] at next
  rw [Nat.toUInt32_eq, UInt32.toNat_ofNat', Nat.mod_eq_of_lt (by omega)]

theorem carved_nodup {base stride k : Nat} (apart : 0 < stride)
    (fits : base + k * stride ≤ 2 ^ 32) :
    ((List.range k).map fun i => (base + i * stride).toUInt32).Nodup := by
  apply List.Nodup.map_on _ List.nodup_range
  intro i below j below' same
  have pointers := congrArg UInt32.toNat same
  rw [toNat_carved apart fits (List.mem_range.mp below),
    toNat_carved apart fits (List.mem_range.mp below')] at pointers
  exact Nat.eq_of_mul_eq_mul_right apart (by omega)

/-- Under the wrap of `allocate_block_passes_memory_end` 128 blocks of 32 MiB are live at
once: the first wraps the bumper to `8`, and the other 127 fit below the end of the memory.
With their headers they take `128 * (2 ^ 25 + 8) = 2 ^ 32 + 1024` bytes, but the `u32`
`bytes_allocated` has wrapped to `1024`. -/
theorem bytes_allocated_wraps :
    let mem : HeapSlice := ⟨⟨4294901760, fun _ => 0⟩, by decide⟩
    let call := ((List.replicate 128 33554432).mapM allocate : Call HeapSlice (List UInt32)).run
      (new 4261412864, mem)
    (∃ ptrs, outcome call = .ok ptrs ∧ ptrs.length = 128 ∧ ptrs.Nodup) ∧
      (Order.fromSize 33554432).map Order.size = .ok 33554432 ∧
      (after call).1.stats.bytesAllocated.toNat = 1024 ∧ 128 * (33554432 + 8) = 2 ^ 32 + 1024 := by
  intro mem call
  let order : Order := ⟨22, by decide⟩
  have sized : Order.fromSize 33554432 = .ok order := by decide
  obtain ⟨mem₁, written, -, len₁, -⟩ :=
    readFrom_writeInto (show (Header.occupied order).Encodable from trivial)
      (show (new 4261412864).bumper.toNat + 8 ≤ mem.bytes.len by decide)
  have first := run_allocate_bump (show (new 4261412864).poisoned = false from rfl)
    (show ¬ Memory.size mem < (new 4261412864).lastObservedMemorySize by decide) sized
    (FreeLists.get_new order)
    (show ¬ (new 4261412864).bumper + (order.size + headerSize) > Memory.size mem by decide) written
  have size₁ : Memory.size mem₁ = Memory.size mem := by
    show mem₁.bytes.len.toUInt32 = mem.bytes.len.toUInt32
    rw [len₁]
  obtain ⟨self', mem', rest, -, allocated'⟩ := run_allocate_replicate sized 127
    { new 4261412864 with
        bumper := (new 4261412864).bumper + (order.size + headerSize)
        lastObservedMemorySize := Memory.size mem
        stats := (new 4261412864).stats.afterAllocate order
          ((new 4261412864).bumper + (order.size + headerSize)) (new 4261412864).originalHeapBase }
    mem₁ rfl (by rw [size₁]; exact Nat.lt_irrefl _) (FreeLists.get_new order)
    (by rw [len₁]; decide)
  have ran := run_mapM_cons first rest
  have wrapped : ((new 4261412864).bumper + (order.size + headerSize)).toNat = 8 := by decide
  have block : order.size.toNat = 33554432 := by decide
  dsimp only at ran allocated'
  rw [wrapped, block] at ran
  have call_eq : call = _ := ran
  rw [call_eq]
  refine ⟨⟨_, rfl, by simp, ?_⟩, by rw [sized]; rfl, ?_, by decide⟩
  · have head : ((new 4261412864).bumper + headerSize).toNat = 4261412872 := by decide
    have apart : 0 < 33554432 + 8 := by decide
    have fits : 8 + 8 + 127 * (33554432 + 8) ≤ 2 ^ 32 := by decide
    refine List.nodup_cons.mpr ⟨fun mem_rest => ?_, carved_nodup apart fits⟩
    obtain ⟨i, below, same⟩ := List.mem_map.mp mem_rest
    have pointer := congrArg UInt32.toNat same
    have := List.mem_range.mp below
    rw [toNat_carved apart fits this, head] at pointer
    omega
  · show self'.stats.bytesAllocated.toNat = 1024
    rw [allocated', block]
    decide

/-- `FreeingBumpHeapAllocator::deallocate`. -/
def deallocate (ptr : UInt32) : Call M Unit := do
  if (← get).1.poisoned then
    throw (.err (error "the allocator has been poisoned"))
  armed do
    let (self, mem) ← get
    let lastObserved ← orErr (observeMemorySize self.lastObservedMemorySize (Memory.size mem))
    modify fun s => ({ s.1 with lastObservedMemorySize := lastObserved }, s.2)
    let headerPtr ← orErr (okOrElse (checkedSub ptr headerSize)
      (error "Invalid pointer for deallocation"))
    let header ← orErr (Header.readFrom mem headerPtr)
    let order ← orErr (okOrElse header.intoOccupied
      (error "the allocation points to an empty header"))
    let (self, mem) ← get
    let (prevHead, freeLists) := self.freeLists.replace order (.ptr headerPtr)
    set ({ self with freeLists }, mem)
    let mem ← orErr (Header.writeInto (.free prevHead) mem headerPtr)
    modify fun s => (s.1, mem)
    let bytesAllocated ← orErr (okOrElse
      (checkedSub self.stats.bytesAllocated (order.size + headerSize))
      (error "underflow of the currently allocated bytes count"))
    modify fun s => ({ s.1 with stats := { s.1.stats with bytesAllocated } }, s.2)

/-- A guest that overwrites the header of a freed block with a link past the end of the
memory makes the next but one allocation of that order fail the `assert!`: a panic, not an
`Err`. -/
theorem forged_free_link_panics :
    outcome ((do
      let ptr ← allocate 8
      deallocate ptr
      guestWrite 0 (Lib.ByteMemory.toLE 8 1000)
      let _ ← allocate 8
      allocate 8 : Call HeapSlice UInt32).run (new 0, ⟨⟨32, fun _ => 0⟩, by decide⟩)) =
    .error (.panic
      "Pointer is looked up in list of free entries, into which\n\t\t\t\t\tonly valid values are inserted; qed") := by
  decide

/-! ### The other paths of `allocate`, and `deallocate`

A run lemma for every way a call can go from a healthy allocator: the free-list path, the full
heap and the size too large for `allocate`, a live pointer for `deallocate`; and the calls on a
poisoned allocator, which change nothing.
-/

omit [Memory M] in
theorem run_armed {α : Type} (body : Call M α) (s : FreeingBumpHeapAllocator × M) :
    (armed body).run s = match body.run s with
      | .ok a s' => .ok a s'
      | .error e s' => .error e ({ s'.1 with poisoned := true }, s'.2) := by
  show EStateM.tryCatch body _ s = _
  simp only [EStateM.tryCatch]
  rw [show body s = body.run s from rfl]
  cases body.run s <;> rfl

theorem run_allocate_poisoned {self : FreeingBumpHeapAllocator} {mem : M} {size : UInt32}
    (poisoned : self.poisoned = true) :
    (allocate size).run (self, mem) = .error (.err (error "the allocator has been poisoned")) (self, mem) := by
  simp only [allocate, EStateM.run_bind, EStateM.run_get, poisoned, if_true]
  rfl

theorem run_allocate_shrunk {self : FreeingBumpHeapAllocator} {mem : M} {size : UInt32}
    (healthy : self.poisoned = false) (shrunk : Memory.size mem < self.lastObservedMemorySize) :
    (allocate size).run (self, mem) = .error (.err .memoryShrinked) ({ self with poisoned := true }, mem) := by
  simp only [allocate, EStateM.run_bind, EStateM.run_get, healthy, Bool.false_eq_true, if_false,
    run_armed, observeMemorySize, if_pos shrunk, run_orErr_error]

theorem run_deallocate_shrunk {self : FreeingBumpHeapAllocator} {mem : M} {ptr : UInt32}
    (healthy : self.poisoned = false) (shrunk : Memory.size mem < self.lastObservedMemorySize) :
    (deallocate ptr).run (self, mem) = .error (.err .memoryShrinked) ({ self with poisoned := true }, mem) := by
  simp only [deallocate, EStateM.run_bind, EStateM.run_get, healthy, Bool.false_eq_true, if_false,
    run_armed, observeMemorySize, if_pos shrunk, run_orErr_error]

theorem run_allocate_too_large {self : FreeingBumpHeapAllocator} {mem : M} {size : UInt32} {e : Error}
    (healthy : self.poisoned = false) (observed : ¬ Memory.size mem < self.lastObservedMemorySize)
    (rejected : Order.fromSize size = .error e) :
    (allocate size).run (self, mem) = .error (.err e)
      ({ self with lastObservedMemorySize := Memory.size mem, poisoned := true }, mem) := by
  simp only [allocate, EStateM.run_bind, EStateM.run_get, healthy, Bool.false_eq_true, if_false,
    run_armed, observeMemorySize_ok observed, run_orErr_ok, EStateM.run_modify, rejected, run_orErr_error]

theorem run_takeFree {self : FreeingBumpHeapAllocator} {mem : M} {order : Order} {headerPtr : UInt32}
    {next : Link} (fits : headerPtr + order.size + headerSize ≤ Memory.size mem)
    (read : Header.readFrom mem headerPtr = .ok (.free next)) :
    (takeFree order headerPtr).run (self, mem) =
      .ok headerPtr ({ self with freeLists := self.freeLists.set order next }, mem) := by
  simp only [takeFree, assert, EStateM.run_bind, EStateM.run_get, fits, decide_true, if_true,
    EStateM.run_pure, read, run_orErr_ok, okOrElse, Header.intoFree, EStateM.run_modify]

theorem run_allocate_free {self : FreeingBumpHeapAllocator} {mem mem' : M} {size headerPtr : UInt32}
    {order : Order} {next : Link} (healthy : self.poisoned = false)
    (observed : ¬ Memory.size mem < self.lastObservedMemorySize)
    (sized : Order.fromSize size = .ok order) (listed : self.freeLists.get order = .ptr headerPtr)
    (fits : headerPtr + order.size + headerSize ≤ Memory.size mem)
    (read : Header.readFrom mem headerPtr = .ok (.free next))
    (written : Header.writeInto (.occupied order) mem headerPtr = .ok mem') :
    (allocate size).run (self, mem) = .ok (headerPtr + headerSize)
      ({ self with
          freeLists := self.freeLists.set order next
          lastObservedMemorySize := Memory.size mem
          stats := self.stats.afterAllocate order self.bumper self.originalHeapBase }, mem') := by
  simp only [allocate, EStateM.run_bind, EStateM.run_get, healthy, Bool.false_eq_true, if_false]
  apply run_armed_ok
  simp only [EStateM.run_bind, EStateM.run_get, observeMemorySize_ok observed, run_orErr_ok,
    EStateM.run_modify, sized, listed]
  rw [run_takeFree fits read]
  simp only [written, run_orErr_ok, EStateM.run_set, EStateM.run_pure, healthy]

theorem run_allocate_out_of_space {self : FreeingBumpHeapAllocator} {mem : M} {size : UInt32}
    {order : Order} (healthy : self.poisoned = false)
    (observed : ¬ Memory.size mem < self.lastObservedMemorySize)
    (sized : Order.fromSize size = .ok order) (empty : self.freeLists.get order = .nil)
    (full : self.bumper + (order.size + headerSize) > Memory.size mem) :
    (allocate size).run (self, mem) = .error (.err .allocatorOutOfSpace)
      ({ self with lastObservedMemorySize := Memory.size mem, poisoned := true }, mem) := by
  simp only [allocate, EStateM.run_bind, EStateM.run_get, healthy, Bool.false_eq_true, if_false,
    run_armed, observeMemorySize_ok observed, run_orErr_ok, EStateM.run_modify, sized, empty,
    takeBump, bump, if_pos full, run_orErr_error]

theorem run_deallocate_poisoned {self : FreeingBumpHeapAllocator} {mem : M} {ptr : UInt32}
    (poisoned : self.poisoned = true) :
    (deallocate ptr).run (self, mem) = .error (.err (error "the allocator has been poisoned")) (self, mem) := by
  simp only [deallocate, EStateM.run_bind, EStateM.run_get, poisoned, if_true]
  rfl

theorem run_deallocate_free_header {self : FreeingBumpHeapAllocator} {mem : M} {ptr headerPtr : UInt32}
    {next : Link} (healthy : self.poisoned = false)
    (observed : ¬ Memory.size mem < self.lastObservedMemorySize)
    (sub : checkedSub ptr headerSize = some headerPtr)
    (read : Header.readFrom mem headerPtr = .ok (.free next)) :
    (deallocate ptr).run (self, mem) = .error (.err (error "the allocation points to an empty header"))
      ({ self with lastObservedMemorySize := Memory.size mem, poisoned := true }, mem) := by
  simp only [deallocate, EStateM.run_bind, EStateM.run_get, healthy, Bool.false_eq_true, if_false,
    run_armed, observeMemorySize_ok observed, run_orErr_ok, EStateM.run_modify, sub, okOrElse, read,
    Header.intoOccupied, run_orErr_error]

theorem run_deallocate_occupied {self : FreeingBumpHeapAllocator} {mem mem' : M}
    {ptr headerPtr bytes : UInt32} {order : Order} (healthy : self.poisoned = false)
    (observed : ¬ Memory.size mem < self.lastObservedMemorySize)
    (sub : checkedSub ptr headerSize = some headerPtr)
    (read : Header.readFrom mem headerPtr = .ok (.occupied order))
    (written : Header.writeInto (.free (self.freeLists.get order)) mem headerPtr = .ok mem')
    (counted : checkedSub self.stats.bytesAllocated (order.size + headerSize) = some bytes) :
    (deallocate ptr).run (self, mem) = .ok ()
      ({ self with
          lastObservedMemorySize := Memory.size mem
          freeLists := self.freeLists.set order (.ptr headerPtr)
          stats := { self.stats with bytesAllocated := bytes } }, mem') := by
  simp only [deallocate, EStateM.run_bind, EStateM.run_get, healthy, Bool.false_eq_true, if_false]
  apply run_armed_ok
  simp only [EStateM.run_bind, EStateM.run_get, observeMemorySize_ok observed, run_orErr_ok,
    EStateM.run_modify, sub, okOrElse, read, Header.intoOccupied, FreeLists.replace, EStateM.run_set,
    written, counted, healthy]

end FreeingBumpHeapAllocator

end WasmedgeExecutor.Allocator.FreeingBump
