import WasmedgeExecutor.Allocator.Spec
import WasmedgeExecutor.Lib.Simulation
import Mathlib

/-!
The freeing-bump allocator over a `[u8]` heap refines its specification `Spec.Heap`.

The concrete machine runs every client event on the allocator and the heap slice: a call of
`allocate` or `deallocate`, a store of the guest, a `memory.grow`. `Represents` says how its
state holds a specification heap: the bumper at the top of the carved blocks, the free list of
every order a chain of free headers in memory through the stack of that order, an occupied
header in front of every live block, `bytes_allocated` the bytes of the live blocks and
`address_space_used` the bytes carved. Every event the specification takes, the allocator takes
with the same reply (`simulates`). From `new`, every stream of events the specification
accepts is answered as the specification answers it (`run_refines`).
-/

set_option autoImplicit false
set_option relaxedAutoImplicit false

namespace WasmedgeExecutor.Allocator.Refinement

open WasmedgeExecutor.Lib.Bits (checkedSub checkedSub_of_le)
open WasmedgeExecutor.Lib.ByteMemory (Bytes)
open WasmedgeExecutor.Lib.Simulation (Simulates run run_of_simulates outputs_run)
open WasmedgeExecutor.Allocator.Layout
open WasmedgeExecutor.Allocator.FreeingBump
open WasmedgeExecutor.Allocator.FreeingBump.FreeingBumpHeapAllocator
open WasmedgeExecutor.Allocator.Spec

/-- The allocator and the heap slice it is handed on every call. -/
abbrev State := FreeingBumpHeapAllocator × HeapSlice

/-- `memory.grow` of the guest: `pages` pages of zero bytes past the end, unless the length
would leave a `u32`, when the memory stays as it is. -/
def growMemory (mem : HeapSlice) (pages : Nat) : HeapSlice :=
  if fits : mem.bytes.len + pages * 65536 < 2 ^ 32 then
    ⟨⟨mem.bytes.len + pages * 65536, fun i => if i < mem.bytes.len then mem.bytes.byte i else 0⟩,
      fits⟩
  else mem

/-- One client event on the allocator and its heap slice. -/
def step (s : State) : Event → Option (Reply × State)
  | .allocate size =>
    let call := (allocate size).run s
    some (.allocated (outcome call), after call)
  | .deallocate ptr =>
    let call := (deallocate ptr).run s
    some (.deallocated (outcome call), after call)
  | .store addr data => some (.done, after ((guestWrite addr data).run s))
  | .grow pages => some (.done, (s.1, growMemory s.2 pages))

/-- The free list from `link` on, read through the headers in `mem`: the header addresses of
its blocks, first to last. -/
inductive FreeChain (mem : HeapSlice) : Link → List Nat → Prop
  | nil : FreeChain mem .nil []
  | cons {headerPtr : Nat} {next : Link} {rest : List Nat}
      (read : Header.readFrom mem headerPtr.toUInt32 = .ok (.free next))
      (tail : FreeChain mem next rest) : FreeChain mem (.ptr headerPtr.toUInt32) (headerPtr :: rest)

/-- `mem'` has the header at `headerPtr` byte for byte as `mem` has it. -/
def KeepsHeader (mem mem' : HeapSlice) (headerPtr : Nat) : Prop :=
  headerPtr + 8 ≤ mem.bytes.len ∧ headerPtr + 8 ≤ mem'.bytes.len ∧
    ∀ i, headerPtr ≤ i → i < headerPtr + 8 → mem'.bytes.byte i = mem.bytes.byte i

/-- `mem'` is `mem` with `header` written at `headerPtr`. -/
structure Rewritten (mem mem' : HeapSlice) (headerPtr : Nat) (header : Header) : Prop where
  read : Header.readFrom mem' headerPtr.toUInt32 = .ok header
  len : mem'.bytes.len = mem.bytes.len
  unchanged : ∀ i, i < headerPtr ∨ headerPtr + 8 ≤ i → mem'.bytes.byte i = mem.bytes.byte i

section Frame

variable {mem mem' : HeapSlice}

theorem toNat_toUInt32_of_lt {n : Nat} (small : n < 2 ^ 32) : n.toUInt32.toNat = n := by
  rw [Nat.toUInt32_eq, UInt32.toNat_ofNat', Nat.mod_eq_of_lt small]

theorem toNat_memorySize (mem : HeapSlice) : (Memory.size mem).toNat = mem.bytes.len :=
  toNat_toUInt32_of_lt mem.fits

theorem toNat_block (order : Order) : (order.size + headerSize).toNat = blockSize order :=
  toNat_blockSize order

theorem readFrom_of_keepsHeader {headerPtr : Nat} (keeps : KeepsHeader mem mem' headerPtr) :
    Header.readFrom mem' headerPtr.toUInt32 = Header.readFrom mem headerPtr.toUInt32 := by
  obtain ⟨fits, fits', agree⟩ := keeps
  have small : headerPtr.toUInt32.toNat = headerPtr := by
    have := mem.fits
    exact toNat_toUInt32_of_lt (by omega)
  rw [← small] at fits fits' agree
  simp only [Header.readFrom, readLeU64_eq fits, readLeU64_eq fits', Bytes.read_congr agree]

theorem rewritten_of_writeInto {headerPtr : Nat} (header : Header) (encodable : header.Encodable)
    (fits : headerPtr + 8 ≤ mem.bytes.len) :
    ∃ mem', header.writeInto mem headerPtr.toUInt32 = .ok mem' ∧ Rewritten mem mem' headerPtr header := by
  have small : headerPtr.toUInt32.toNat = headerPtr := by
    have := mem.fits
    exact toNat_toUInt32_of_lt (by omega)
  obtain ⟨mem', written, read, len, unchanged⟩ := readFrom_writeInto encodable (small ▸ fits)
  exact ⟨mem', written, read, len, fun i outside => unchanged i (by rw [small]; exact outside)⟩

theorem Rewritten.keeps {headerPtr other : Nat} {header : Header}
    (rewritten : Rewritten mem mem' headerPtr header) (fits : other + 8 ≤ mem.bytes.len)
    (apart : other + 8 ≤ headerPtr ∨ headerPtr + 8 ≤ other) : KeepsHeader mem mem' other :=
  ⟨fits, rewritten.len ▸ fits, fun i lo hi => rewritten.unchanged i (by omega)⟩

theorem FreeChain.frame {link : Link} {headers : List Nat} (chain : FreeChain mem link headers)
    (keeps : ∀ headerPtr ∈ headers, KeepsHeader mem mem' headerPtr) : FreeChain mem' link headers := by
  induction chain with
  | nil => exact .nil
  | cons read tail ih =>
    refine .cons ?_ (ih fun headerPtr later => keeps headerPtr (List.mem_cons_of_mem _ later))
    rw [readFrom_of_keepsHeader (keeps _ List.mem_cons_self), read]

theorem FreeChain.nil_inv {link : Link} (chain : FreeChain mem link []) : link = .nil := by
  cases chain
  rfl

theorem FreeChain.cons_inv {link : Link} {headerPtr : Nat} {rest : List Nat}
    (chain : FreeChain mem link (headerPtr :: rest)) :
    ∃ next, link = .ptr headerPtr.toUInt32 ∧
      Header.readFrom mem headerPtr.toUInt32 = .ok (.free next) ∧ FreeChain mem next rest := by
  cases chain with
  | cons read tail => exact ⟨_, rfl, read, tail⟩

theorem FreeChain.read_of_mem {link : Link} {headers : List Nat} (chain : FreeChain mem link headers)
    {headerPtr : Nat} (listed : headerPtr ∈ headers) :
    ∃ next, Header.readFrom mem headerPtr.toUInt32 = .ok (.free next) := by
  induction chain with
  | nil => cases listed
  | cons read tail ih =>
    rcases List.mem_cons.mp listed with rfl | later
    · exact ⟨_, read⟩
    · exact ih later

theorem FreeChain.encodable {link : Link} {headers : List Nat} (chain : FreeChain mem link headers)
    (small : ∀ headerPtr ∈ headers, headerPtr + 1 < 2 ^ 32) : link.Encodable := by
  cases chain with
  | nil => trivial
  | cons read tail =>
    rename_i headerPtr next rest
    have below := small headerPtr List.mem_cons_self
    show headerPtr.toUInt32 ≠ nilMarker
    intro marker
    have raw := congrArg UInt32.toNat marker
    rw [toNat_toUInt32_of_lt (by omega)] at raw
    simp only [nilMarker, UInt32.reduceToNat] at raw
    omega

end Frame

/-- The allocator and its heap slice hold the specification heap `heap`. -/
structure Represents (s : State) (heap : Heap) : Prop where
  wf : heap.WF
  base : s.1.originalHeapBase.toNat = heap.base
  bumper : s.1.bumper.toNat = heap.top
  poisoned : s.1.poisoned = heap.poisoned
  memLen : s.2.bytes.len = heap.memLen
  observed : s.1.lastObservedMemorySize.toNat ≤ heap.memLen
  chains : ∀ order, FreeChain s.2 (s.1.freeLists.get order) (heap.free order)
  occupied : ∀ p ∈ heap.live, Header.readFrom s.2 p.1.toUInt32 = .ok (.occupied p.2)
  allocated : s.1.stats.bytesAllocated.toNat = heap.liveBytes
  addressSpace : s.1.stats.addressSpaceUsed.toNat = heap.top - heap.base

section Represents

variable {self : FreeingBumpHeapAllocator} {mem mem' : HeapSlice} {heap : Heap}

theorem Represents.header_fits (rep : Represents (self, mem) heap) {p : Nat × Order}
    (carved : p ∈ heap.blocks) : p.1 + 8 ≤ mem.bytes.len := by
  have below := (Heap.bounds_of_mem_blocks carved).2
  have := blockSize_pos p.2
  have := rep.wf.inside
  have len : mem.bytes.len = heap.memLen := rep.memLen
  omega

theorem Represents.toNat_header (rep : Represents (self, mem) heap) {p : Nat × Order}
    (carved : p ∈ heap.blocks) : p.1.toUInt32.toNat = p.1 := by
  have := rep.header_fits carved
  have := mem.fits
  exact toNat_toUInt32_of_lt (by omega)

theorem Represents.keeps_of_ne {header : Header} {p q : Nat × Order} (rep : Represents (self, mem) heap)
    (rewritten : Rewritten mem mem' q.1 header) (carvedQ : q ∈ heap.blocks) (carvedP : p ∈ heap.blocks)
    (different : p ≠ q) : KeepsHeader mem mem' p.1 :=
  rewritten.keeps (rep.header_fits carvedP) (Heap.headers_apart carvedQ carvedP different)

theorem Represents.keeps_below {header : Header} {p : Nat × Order} (rep : Represents (self, mem) heap)
    (rewritten : Rewritten mem mem' heap.top header) (carved : p ∈ heap.blocks) :
    KeepsHeader mem mem' p.1 := by
  have below := (Heap.bounds_of_mem_blocks carved).2
  have := blockSize_pos p.2
  exact rewritten.keeps (rep.header_fits carved) (.inl (by omega))

theorem Represents.not_shrunk (rep : Represents (self, mem) heap) :
    ¬ Memory.size mem < self.lastObservedMemorySize := by
  rw [UInt32.lt_iff_toNat_lt, toNat_memorySize]
  have := rep.observed
  have len : mem.bytes.len = heap.memLen := rep.memLen
  dsimp only at this
  omega

theorem Represents.frame {memLen : Nat} (rep : Represents (self, mem) heap)
    (keeps : ∀ p ∈ heap.blocks, KeepsHeader mem mem' p.1) (sized : mem'.bytes.len = memLen)
    (grown : heap.memLen ≤ memLen) (roomy : Heap.Roomy memLen) :
    Represents (self, mem') { heap with memLen } := by
  refine ⟨⟨rep.wf.carved, rep.wf.nodup, Nat.le_trans rep.wf.inside grown, roomy, rep.wf.aligned⟩, rep.base,
    rep.bumper, rep.poisoned, sized, Nat.le_trans rep.observed grown, fun order => ?_,
    fun p live => ?_, rep.allocated, rep.addressSpace⟩
  · exact (rep.chains order).frame fun headerPtr free => keeps _ (rep.wf.carved order headerPtr free)
  · rw [readFrom_of_keepsHeader (keeps p (Heap.mem_live.mp live).1)]
    exact rep.occupied p live

theorem Represents.poison (rep : Represents (self, mem) heap) :
    Represents ({ self with lastObservedMemorySize := Memory.size mem, poisoned := true }, mem)
      { heap with poisoned := true } := by
  refine ⟨Heap.wf_poison rep.wf, rep.base, rep.bumper, rfl, rep.memLen, ?_, rep.chains,
    rep.occupied, rep.allocated, rep.addressSpace⟩
  show (Memory.size mem).toNat ≤ heap.memLen
  rw [toNat_memorySize]
  exact rep.memLen.le

theorem stats_afterAllocate {stats : AllocationStats} {order : Order} {bumper base : UInt32}
    {heap' : Heap} (allocated : stats.bytesAllocated.toNat = heap.liveBytes) (wf : heap'.WF)
    (grown : heap'.liveBytes = heap.liveBytes + blockSize order) (bumper' : bumper.toNat = heap'.top)
    (base' : base.toNat = heap'.base) :
    (stats.afterAllocate order bumper base).bytesAllocated.toNat = heap'.liveBytes ∧
      (stats.afterAllocate order bumper base).addressSpaceUsed.toNat = heap'.top - heap'.base := by
  have bound := heap'.liveBytes_le
  have inside := wf.inside
  have roomy := wf.roomy
  have below : heap'.base ≤ heap'.top := le_carvedEnd heap'.base heap'.orders
  unfold Heap.Roomy at roomy
  constructor
  · show (stats.bytesAllocated + (order.size + headerSize)).toNat = _
    rw [UInt32.toNat_add, toNat_block, allocated]
    omega
  · show (bumper - base).toNat = _
    rw [UInt32.toNat_sub_of_le _ _ (UInt32.le_iff_toNat_le.mpr (by omega)), bumper', base']

theorem represents_pop {order : Order} {headerPtr : Nat} {rest : List Nat} {next : Link}
    (rep : Represents (self, mem) heap) (popped : heap.free order = headerPtr :: rest)
    (tail : FreeChain mem next rest) (rewritten : Rewritten mem mem' headerPtr (.occupied order)) :
    Represents ({ self with
        freeLists := self.freeLists.set order next
        lastObservedMemorySize := Memory.size mem
        stats := self.stats.afterAllocate order self.bumper self.originalHeapBase }, mem')
      { heap with free := Function.update heap.free order rest } := by
  have free : headerPtr ∈ heap.free order := by rw [popped]; exact List.mem_cons_self
  have fresh : headerPtr ∉ rest := (List.nodup_cons.mp (popped ▸ rep.wf.nodup order)).1
  have carved := rep.wf.carved order headerPtr free
  have notLive := Heap.not_live_of_free free
  have grown := Heap.live_pop rep.wf popped
  have wf' := Heap.wf_pop rep.wf popped
  have keeps : ∀ p ∈ heap.blocks, p ≠ (headerPtr, order) → KeepsHeader mem mem' p.1 :=
    fun p carvedP different => rep.keeps_of_ne rewritten carved carvedP different
  have stats := stats_afterAllocate rep.allocated wf' (Heap.liveBytes_insert grown notLive)
    rep.bumper rep.base
  refine ⟨wf', rep.base, rep.bumper, rep.poisoned, rewritten.len.trans rep.memLen, ?_,
    fun o => ?_, fun p live => ?_, stats.1, stats.2⟩
  · show (Memory.size mem).toNat ≤ heap.memLen
    rw [toNat_memorySize]
    exact rep.memLen.le
  · show FreeChain mem' ((self.freeLists.set order next).get o) (Function.update heap.free order rest o)
    by_cases sameOrder : o = order
    · rw [sameOrder, FreeLists.get_set_self, Function.update_self]
      refine tail.frame fun x later => keeps (x, order) ?_ fun same => fresh ?_
      · exact rep.wf.carved order x (by rw [popped]; exact List.mem_cons_of_mem _ later)
      · rwa [← (Prod.mk.inj same).1]
    · rw [FreeLists.get_set_of_ne _ _ sameOrder, Function.update_of_ne sameOrder]
      exact (rep.chains o).frame fun x free' =>
        keeps (x, o) (rep.wf.carved o x free') fun same => sameOrder (Prod.mk.inj same).2
  · rw [grown, Finset.mem_insert] at live
    rcases live with rfl | live
    · exact rewritten.read
    · rw [readFrom_of_keepsHeader (keeps p (Heap.mem_live.mp live).1 fun same => notLive (same ▸ live))]
      exact rep.occupied p live

theorem represents_carve {order : Order} (rep : Represents (self, mem) heap)
    (fits : heap.top + blockSize order ≤ heap.memLen)
    (rewritten : Rewritten mem mem' heap.top (.occupied order)) :
    Represents ({ self with
        bumper := self.bumper + (order.size + headerSize)
        lastObservedMemorySize := Memory.size mem
        stats := self.stats.afterAllocate order (self.bumper + (order.size + headerSize))
          self.originalHeapBase }, mem')
      { heap with orders := heap.orders ++ [order] } := by
  have grown : ({ heap with orders := heap.orders ++ [order] } : Heap).live =
      insert (heap.top, order) heap.live := Heap.live_carve rep.wf
  have wf' := Heap.wf_carve rep.wf fits
  have keeps : ∀ p ∈ heap.blocks, KeepsHeader mem mem' p.1 :=
    fun p carved => rep.keeps_below rewritten carved
  have top' : (self.bumper + (order.size + headerSize)).toNat =
      ({ heap with orders := heap.orders ++ [order] } : Heap).top := by
    have roomy := rep.wf.roomy
    have bumper : self.bumper.toNat = heap.top := rep.bumper
    unfold Heap.Roomy at roomy
    rw [Heap.top_carve, UInt32.toNat_add, toNat_block, bumper]
    omega
  have stats := stats_afterAllocate rep.allocated wf'
    (Heap.liveBytes_insert grown (Heap.top_not_live order)) top' rep.base
  refine ⟨wf', rep.base, top', rep.poisoned, rewritten.len.trans rep.memLen, ?_,
    fun o => ?_, fun p live => ?_, stats.1, stats.2⟩
  · show (Memory.size mem).toNat ≤ heap.memLen
    rw [toNat_memorySize]
    exact rep.memLen.le
  · exact (rep.chains o).frame fun x free => keeps (x, o) (rep.wf.carved o x free)
  · rw [grown, Finset.mem_insert] at live
    rcases live with rfl | live
    · exact rewritten.read
    · rw [readFrom_of_keepsHeader (keeps p (Heap.mem_live.mp live).1)]
      exact rep.occupied p live

theorem represents_release {headerPtr : Nat} {order : Order} {bytes : UInt32}
    (rep : Represents (self, mem) heap) (live : (headerPtr, order) ∈ heap.live)
    (rewritten : Rewritten mem mem' headerPtr (.free (self.freeLists.get order)))
    (counted : bytes = self.stats.bytesAllocated - (order.size + headerSize)) :
    Represents ({ self with
        lastObservedMemorySize := Memory.size mem
        freeLists := self.freeLists.set order (.ptr headerPtr.toUInt32)
        stats := { self.stats with bytesAllocated := bytes } }, mem')
      (heap.release headerPtr order) := by
  obtain ⟨carved, notFree⟩ := Heap.mem_live.mp live
  have keeps : ∀ p ∈ heap.blocks, p ≠ (headerPtr, order) → KeepsHeader mem mem' p.1 :=
    fun p carvedP different => rep.keeps_of_ne rewritten carved carvedP different
  have freed := Heap.liveBytes_release live
  have enough := Heap.blockSize_le_liveBytes live
  have allocated : self.stats.bytesAllocated.toNat = heap.liveBytes := rep.allocated
  refine ⟨Heap.wf_release rep.wf live, rep.base, rep.bumper, rep.poisoned,
    rewritten.len.trans rep.memLen, ?_, fun o => ?_, fun p live' => ?_, ?_, rep.addressSpace⟩
  · show (Memory.size mem).toNat ≤ heap.memLen
    rw [toNat_memorySize]
    exact rep.memLen.le
  · show FreeChain mem' ((self.freeLists.set order (.ptr headerPtr.toUInt32)).get o)
      (Function.update heap.free order (headerPtr :: heap.free order) o)
    by_cases sameOrder : o = order
    · rw [sameOrder, FreeLists.get_set_self, Function.update_self]
      refine .cons rewritten.read ((rep.chains order).frame fun x free =>
        keeps (x, order) (rep.wf.carved order x free) fun same => notFree ?_)
      rwa [← (Prod.mk.inj same).1]
    · rw [FreeLists.get_set_of_ne _ _ sameOrder, Function.update_of_ne sameOrder]
      exact (rep.chains o).frame fun x free =>
        keeps (x, o) (rep.wf.carved o x free) fun same => sameOrder (Prod.mk.inj same).2
  · rw [Heap.live_release, Finset.mem_erase] at live'
    obtain ⟨different, live'⟩ := live'
    rw [readFrom_of_keepsHeader (keeps p (Heap.mem_live.mp live').1 different)]
    exact rep.occupied p live'
  · show bytes.toNat = (heap.release headerPtr order).liveBytes
    rw [counted, UInt32.toNat_sub_of_le _ _ (UInt32.le_iff_toNat_le.mpr (by rw [toNat_block]; omega)),
      toNat_block]
    omega

theorem Represents.block_fits (rep : Represents (self, mem) heap) {headerPtr : Nat} {order : Order}
    (carved : (headerPtr, order) ∈ heap.blocks) :
    headerPtr.toUInt32 + order.size + headerSize ≤ Memory.size mem := by
  have below := (Heap.bounds_of_mem_blocks carved).2
  have inside := rep.wf.inside
  have roomy := rep.wf.roomy
  have len : mem.bytes.len = heap.memLen := rep.memLen
  have size := order.size_le
  dsimp only at below
  unfold Heap.Roomy at roomy
  unfold blockSize at below
  rw [UInt32.le_iff_toNat_le, toNat_memorySize, UInt32.toNat_add, UInt32.toNat_add,
    rep.toNat_header carved, show headerSize.toNat = 8 from rfl]
  omega

theorem Represents.bump_iff (rep : Represents (self, mem) heap) (order : Order) :
    self.bumper + (order.size + headerSize) > Memory.size mem ↔ ¬ heap.top + blockSize order ≤ heap.memLen := by
  have inside := rep.wf.inside
  have roomy := rep.wf.roomy
  have len : mem.bytes.len = heap.memLen := rep.memLen
  have bumper : self.bumper.toNat = heap.top := rep.bumper
  have size := blockSize_le order
  unfold Heap.Roomy at roomy
  rw [GT.gt, UInt32.lt_iff_toNat_lt, toNat_memorySize, UInt32.toNat_add, toNat_block, bumper]
  omega

theorem Represents.toUInt32_top (rep : Represents (self, mem) heap) : heap.top.toUInt32 = self.bumper := by
  rw [← rep.bumper, Nat.toUInt32_eq, UInt32.ofNat_toNat]

theorem toUInt32_add_header (n : Nat) : (n + 8).toUInt32 = n.toUInt32 + headerSize := by
  simp [headerSize]

theorem checkedSub_header {ptr : UInt32} {headerPtr : Nat} (body : headerPtr + 8 = ptr.toNat) :
    checkedSub ptr headerSize = some headerPtr.toUInt32 := by
  have le : headerSize ≤ ptr :=
    UInt32.le_iff_toNat_le.mpr (by rw [show headerSize.toNat = 8 from rfl]; omega)
  rw [checkedSub_of_le le]
  congr 1
  apply UInt32.toNat_inj.mp
  rw [UInt32.toNat_sub_of_le _ _ le, toNat_toUInt32_of_lt (by have := ptr.toNat_lt; omega),
    show headerSize.toNat = 8 from rfl]
  omega

theorem represents_allocate {s : State} (rep : Represents s heap) (size : UInt32) :
    outcome ((allocate size).run s) = (heap.allocate size).1 ∧
      Represents (after ((allocate size).run s)) (heap.allocate size).2 := by
  obtain ⟨self, mem⟩ := s
  have observed := rep.not_shrunk
  rcases Heap.allocate_cases heap size with ⟨poisoned, result⟩ | ⟨healthy, e, rejected, result⟩ |
      ⟨healthy, order, headerPtr, rest, sized, popped, result⟩ |
      ⟨healthy, order, sized, empty, fits, result⟩ | ⟨healthy, order, sized, empty, full, result⟩ <;>
    rw [result]
  · rw [run_allocate_poisoned (rep.poisoned.trans poisoned)]
    exact ⟨rfl, rep⟩
  · rw [run_allocate_too_large (rep.poisoned.trans healthy) observed rejected]
    exact ⟨rfl, rep.poison⟩
  · obtain ⟨next, listed, read, tail⟩ := (popped ▸ rep.chains order).cons_inv
    have carved : (headerPtr, order) ∈ heap.blocks :=
      rep.wf.carved order headerPtr (by rw [popped]; exact List.mem_cons_self)
    obtain ⟨mem', written, rewritten⟩ :=
      rewritten_of_writeInto (.occupied order) trivial (rep.header_fits carved)
    rw [run_allocate_free (rep.poisoned.trans healthy) observed sized listed (rep.block_fits carved)
      read written]
    refine ⟨?_, represents_pop rep popped tail rewritten⟩
    show Except.ok (headerPtr.toUInt32 + headerSize) = .ok (headerPtr + 8).toUInt32
    rw [toUInt32_add_header]
  · have listed := (empty ▸ rep.chains order).nil_inv
    have room : ¬ self.bumper + (order.size + headerSize) > Memory.size mem :=
      fun past => (rep.bump_iff order).mp past fits
    have above : heap.top + 8 ≤ mem.bytes.len := by
      have := blockSize_pos order
      have len : mem.bytes.len = heap.memLen := rep.memLen
      omega
    obtain ⟨mem', written, rewritten⟩ := rewritten_of_writeInto (.occupied order) trivial above
    rw [rep.toUInt32_top] at written
    rw [run_allocate_bump (rep.poisoned.trans healthy) observed sized listed room written]
    refine ⟨?_, represents_carve rep fits rewritten⟩
    show Except.ok (self.bumper + headerSize) = .ok (heap.top + 8).toUInt32
    rw [toUInt32_add_header, rep.toUInt32_top]
  · have listed := (empty ▸ rep.chains order).nil_inv
    rw [run_allocate_out_of_space (rep.poisoned.trans healthy) observed sized listed
      ((rep.bump_iff order).mpr full)]
    exact ⟨rfl, rep.poison⟩

theorem represents_deallocate {s : State} {ptr : UInt32} {result : Except Fault Unit} {heap' : Heap}
    (rep : Represents s heap) (accepted : heap.deallocate ptr = some (result, heap')) :
    outcome ((deallocate ptr).run s) = result ∧ Represents (after ((deallocate ptr).run s)) heap' := by
  obtain ⟨self, mem⟩ := s
  have observed := rep.not_shrunk
  unfold Heap.deallocate at accepted
  split at accepted
  · case isTrue poisoned =>
    cases accepted
    rw [run_deallocate_poisoned (rep.poisoned.trans poisoned)]
    exact ⟨rfl, rep⟩
  · case isFalse poisoned =>
    have healthy : self.poisoned = false := rep.poisoned.trans (by simpa using poisoned)
    cases found : heap.findLive ptr with
    | none => simp [found] at accepted
    | some p =>
      obtain ⟨headerPtr, order⟩ := p
      simp only [found, Option.map_some, Option.some.injEq, Prod.mk.injEq] at accepted
      obtain ⟨rfl, rfl⟩ := accepted
      obtain ⟨body, live⟩ := Heap.findLive_live found
      have carved := (Heap.mem_live.mp live).1
      have encodable : (Header.free (self.freeLists.get order)).Encodable :=
        (rep.chains order).encodable fun x free => by
          have := rep.header_fits (rep.wf.carved order x free)
          have := mem.fits
          omega
      obtain ⟨mem', written, rewritten⟩ := rewritten_of_writeInto _ encodable (rep.header_fits carved)
      have allocated : self.stats.bytesAllocated.toNat = heap.liveBytes := rep.allocated
      have enough : order.size + headerSize ≤ self.stats.bytesAllocated := by
        rw [UInt32.le_iff_toNat_le, toNat_block, allocated]
        exact Heap.blockSize_le_liveBytes live
      rw [run_deallocate_occupied healthy observed (checkedSub_header body) (rep.occupied _ live)
        written (checkedSub_of_le enough)]
      exact ⟨rfl, represents_release rep live rewritten rfl⟩

/-- `mem'` is `mem` outside the headers of the blocks of `heap`: what a call of the allocator
leaves of the memory. -/
def SameBodies (mem mem' : HeapSlice) (heap : Heap) : Prop :=
  mem'.bytes.len = mem.bytes.len ∧ ∀ i, heap.OutsideHeaders i → mem'.bytes.byte i = mem.bytes.byte i

theorem sameBodies_refl (mem : HeapSlice) (heap : Heap) : SameBodies mem mem heap :=
  ⟨rfl, fun _ _ => rfl⟩

theorem Rewritten.sameBodies {headerPtr : Nat} {header : Header} {order : Order}
    (rewritten : Rewritten mem mem' headerPtr header) (carved : (headerPtr, order) ∈ heap.blocks) :
    SameBodies mem mem' heap :=
  ⟨rewritten.len, fun i outside => rewritten.unchanged i (outside _ carved)⟩

theorem bodies_allocate {s : State} (rep : Represents s heap) (size : UInt32) :
    SameBodies s.2 (after ((allocate size).run s)).2 (heap.allocate size).2 := by
  obtain ⟨self, mem⟩ := s
  have observed := rep.not_shrunk
  rcases Heap.allocate_cases heap size with ⟨poisoned, result⟩ | ⟨healthy, e, rejected, result⟩ |
      ⟨healthy, order, headerPtr, rest, sized, popped, result⟩ |
      ⟨healthy, order, sized, empty, fits, result⟩ | ⟨healthy, order, sized, empty, full, result⟩ <;>
    rw [result]
  · rw [run_allocate_poisoned (rep.poisoned.trans poisoned)]
    exact sameBodies_refl mem heap
  · rw [run_allocate_too_large (rep.poisoned.trans healthy) observed rejected]
    exact sameBodies_refl mem _
  · obtain ⟨next, listed, read, -⟩ := (popped ▸ rep.chains order).cons_inv
    have carved : (headerPtr, order) ∈ heap.blocks :=
      rep.wf.carved order headerPtr (by rw [popped]; exact List.mem_cons_self)
    obtain ⟨mem', written, rewritten⟩ :=
      rewritten_of_writeInto (.occupied order) trivial (rep.header_fits carved)
    rw [run_allocate_free (rep.poisoned.trans healthy) observed sized listed (rep.block_fits carved)
      read written]
    exact rewritten.sameBodies carved
  · have listed := (empty ▸ rep.chains order).nil_inv
    have room : ¬ self.bumper + (order.size + headerSize) > Memory.size mem :=
      fun past => (rep.bump_iff order).mp past fits
    have above : heap.top + 8 ≤ mem.bytes.len := by
      have := blockSize_pos order
      have len : mem.bytes.len = heap.memLen := rep.memLen
      omega
    obtain ⟨mem', written, rewritten⟩ := rewritten_of_writeInto (.occupied order) trivial above
    rw [rep.toUInt32_top] at written
    rw [run_allocate_bump (rep.poisoned.trans healthy) observed sized listed room written]
    have carved : (heap.top, order) ∈ ({ heap with orders := heap.orders ++ [order] } : Heap).blocks := by
      show (heap.top, order) ∈ carve heap.base (heap.orders ++ [order])
      rw [carve_append]
      exact List.mem_append_right _ List.mem_cons_self
    exact rewritten.sameBodies carved
  · have listed := (empty ▸ rep.chains order).nil_inv
    rw [run_allocate_out_of_space (rep.poisoned.trans healthy) observed sized listed
      ((rep.bump_iff order).mpr full)]
    exact sameBodies_refl mem _

theorem bodies_deallocate {s : State} {ptr : UInt32} {result : Except Fault Unit} {heap' : Heap}
    (rep : Represents s heap) (accepted : heap.deallocate ptr = some (result, heap')) :
    SameBodies s.2 (after ((deallocate ptr).run s)).2 heap' := by
  obtain ⟨self, mem⟩ := s
  have observed := rep.not_shrunk
  unfold Heap.deallocate at accepted
  split at accepted
  · case isTrue poisoned =>
    cases accepted
    rw [run_deallocate_poisoned (rep.poisoned.trans poisoned)]
    exact sameBodies_refl mem heap
  · case isFalse poisoned =>
    have healthy : self.poisoned = false := rep.poisoned.trans (by simpa using poisoned)
    cases found : heap.findLive ptr with
    | none => simp [found] at accepted
    | some p =>
      obtain ⟨headerPtr, order⟩ := p
      simp only [found, Option.map_some, Option.some.injEq, Prod.mk.injEq] at accepted
      obtain ⟨rfl, rfl⟩ := accepted
      obtain ⟨body, live⟩ := Heap.findLive_live found
      have carved := (Heap.mem_live.mp live).1
      have encodable : (Header.free (self.freeLists.get order)).Encodable :=
        (rep.chains order).encodable fun x free => by
          have := rep.header_fits (rep.wf.carved order x free)
          have := mem.fits
          omega
      obtain ⟨mem', written, rewritten⟩ := rewritten_of_writeInto _ encodable (rep.header_fits carved)
      have allocated : self.stats.bytesAllocated.toNat = heap.liveBytes := rep.allocated
      have enough : order.size + headerSize ≤ self.stats.bytesAllocated := by
        rw [UInt32.le_iff_toNat_le, toNat_block, allocated]
        exact Heap.blockSize_le_liveBytes live
      rw [run_deallocate_occupied healthy observed (checkedSub_header body) (rep.occupied _ live)
        written (checkedSub_of_le enough)]
      exact rewritten.sameBodies carved

theorem represents_store {addr : Nat} {data : List UInt8} (rep : Represents (self, mem) heap)
    (avoids : heap.Avoids addr data) : Represents (after ((guestWrite addr data).run (self, mem))) heap := by
  have keeps : ∀ p ∈ heap.blocks, KeepsHeader mem ⟨mem.bytes.write addr data, mem.fits⟩ p.1 :=
    fun p carved => ⟨rep.header_fits carved, rep.header_fits carved, fun i lo hi =>
      Bytes.byte_write_of_not_mem (by have := avoids p carved; omega)⟩
  exact rep.frame keeps rep.memLen (Nat.le_refl _) rep.wf.roomy

theorem represents_grow {pages : Nat} (rep : Represents (self, mem) heap)
    (roomy : Heap.Roomy (heap.memLen + pages * 65536)) :
    Represents (self, growMemory mem pages) { heap with memLen := heap.memLen + pages * 65536 } := by
  have len : mem.bytes.len = heap.memLen := rep.memLen
  have fits : mem.bytes.len + pages * 65536 < 2 ^ 32 := by
    unfold Heap.Roomy at roomy
    omega
  rw [growMemory, dif_pos fits]
  refine rep.frame (fun p carved => ⟨rep.header_fits carved, ?_, fun i lo hi => ?_⟩) ?_
    (Nat.le_add_right _ _) roomy
  · have := rep.header_fits carved
    show _ ≤ mem.bytes.len + pages * 65536
    omega
  · have := rep.header_fits carved
    show (if i < mem.bytes.len then mem.bytes.byte i else 0) = mem.bytes.byte i
    rw [if_pos (by omega)]
  · show mem.bytes.len + pages * 65536 = _
    rw [len]

theorem aligned_new (heapBase : UInt32) : (new heapBase).originalHeapBase.toNat % 8 = 0 := by
  show ((heapBase + alignment - 1) / alignment * alignment).toNat % 8 = 0
  rw [UInt32.toNat_mul, UInt32.toNat_div]
  simp only [alignment, UInt32.reduceToNat]
  omega

theorem toNat_originalHeapBase_new (heapBase : UInt32) :
    (new heapBase).originalHeapBase.toNat =
      if heapBase.toNat + 7 < 2 ^ 32 then (heapBase.toNat + 7) / 8 * 8
      else (heapBase.toNat + 7 - 2 ^ 32) / 8 * 8 := by
  show ((heapBase + alignment - 1) / alignment * alignment).toNat = _
  have below := heapBase.toNat_lt
  rw [UInt32.toNat_mul, UInt32.toNat_div, UInt32.toNat_sub, UInt32.toNat_add]
  simp only [alignment, UInt32.reduceToNat]
  split_ifs <;> omega

theorem represents_new {heapBase : UInt32} {mem : HeapSlice}
    (inside : (new heapBase).originalHeapBase.toNat ≤ mem.bytes.len) (roomy : Heap.Roomy mem.bytes.len) :
    Represents (new heapBase, mem) (Heap.empty (new heapBase).originalHeapBase.toNat mem.bytes.len) := by
  refine ⟨⟨fun _ _ free => absurd free List.not_mem_nil, fun _ => List.nodup_nil, inside, roomy,
    aligned_new heapBase⟩,
    rfl, rfl, rfl, rfl, Nat.zero_le _, fun order => ?_, fun p live => ?_, ?_, ?_⟩
  · show FreeChain mem (FreeLists.new.get order) []
    rw [FreeLists.get_new]
    exact .nil
  · rw [Heap.live_empty] at live
    simp at live
  · show (0 : UInt32).toNat = (Heap.empty _ _).liveBytes
    simp [Heap.liveBytes]
  · show (0 : UInt32).toNat = (new heapBase).originalHeapBase.toNat - (new heapBase).originalHeapBase.toNat
    simp

end Represents

theorem simulates : Simulates step Heap.step Represents := by
  rintro ⟨self, mem⟩ heap event reply heap' rep accepted
  cases event with
  | allocate size =>
    simp only [Heap.step, Option.some.injEq, Prod.mk.injEq] at accepted
    obtain ⟨rfl, rfl⟩ := accepted
    obtain ⟨same, rep'⟩ := represents_allocate rep size
    exact ⟨_, by rw [step, same], rep'⟩
  | deallocate ptr =>
    simp only [Heap.step] at accepted
    cases deallocated : heap.deallocate ptr with
    | none => simp [deallocated] at accepted
    | some done =>
      simp only [deallocated, Option.map_some, Option.some.injEq, Prod.mk.injEq] at accepted
      obtain ⟨rfl, rfl⟩ := accepted
      obtain ⟨same, rep'⟩ := represents_deallocate rep deallocated
      exact ⟨_, by rw [step, same], rep'⟩
  | store addr data =>
    simp only [Heap.step] at accepted
    split at accepted
    · case isTrue avoids =>
      cases accepted
      exact ⟨_, rfl, represents_store rep avoids⟩
    · cases accepted
  | grow pages =>
    simp only [Heap.step] at accepted
    split at accepted
    · case isTrue roomy =>
      cases accepted
      exact ⟨_, rfl, represents_grow rep roomy⟩
    · cases accepted

/-- From `new`, every stream of events the specification accepts the allocator answers with
the specification's replies, into a state holding the specification's heap. -/
theorem run_refines {heapBase : UInt32} {mem : HeapSlice} {events : List Event}
    {replies : List Reply} {heap : Heap}
    (inside : (new heapBase).originalHeapBase.toNat ≤ mem.bytes.len) (roomy : Heap.Roomy mem.bytes.len)
    (accepted : run Heap.step (Heap.empty (new heapBase).originalHeapBase.toNat mem.bytes.len) events =
      some (replies, heap)) :
    ∃ s, run step (new heapBase, mem) events = some (replies, s) ∧ Represents s heap :=
  run_of_simulates simulates events (represents_new inside roomy) accepted

theorem run_refines_sample :
    let mem : HeapSlice := ⟨⟨128, fun _ => 0⟩, by decide⟩
    let events := [Event.allocate 1, .allocate 20, .store 16 [7, 7], .deallocate 16, .allocate 3,
      .grow 1, .allocate 8]
    let replies := [Reply.allocated (.ok 16), .allocated (.ok 32), .done, .deallocated (.ok ()),
      .allocated (.ok 16), .done, .allocated (.ok 72)]
    ∃ heap, run Heap.step (Heap.empty (new 1).originalHeapBase.toNat mem.bytes.len) events =
        some (replies, heap) ∧
      ∃ s, run step (new 1, mem) events = some (replies, s) ∧ Represents s heap :=
  ⟨_, rfl, run_refines (by decide) (by decide) rfl⟩

/-! ### What a client keeping the contract gets -/

section Guarantees

variable {heapBase : UInt32} {mem : HeapSlice} {events : List Event} {replies : List Reply}
  {heap : Heap}

/-- From `new`, a client keeping the contract gets no panic and no error but those of the
contract: no shrunk memory, no header out of bounds, no free list through an occupied header. -/
theorem run_replies_expected (inside : (new heapBase).originalHeapBase.toNat ≤ mem.bytes.len)
    (roomy : Heap.Roomy mem.bytes.len)
    (accepted : run Heap.step (Heap.empty (new heapBase).originalHeapBase.toNat mem.bytes.len) events =
      some (replies, heap)) :
    ∃ s, run step (new heapBase, mem) events = some (replies, s) ∧ ∀ reply ∈ replies, reply.expected := by
  obtain ⟨s, ran, -⟩ := run_of_simulates simulates events (represents_new inside roomy) accepted
  exact ⟨s, ran, outputs_run (fun _ _ _ _ stepped => Heap.expected_step stepped) events accepted⟩

theorem run_replies_expected_sample :
    let mem : HeapSlice := ⟨⟨128, fun _ => 0⟩, by decide⟩
    let events := [Event.allocate 1, .allocate 20, .store 16 [7, 7], .deallocate 16, .allocate 3,
      .grow 1, .allocate 8]
    let replies := [Reply.allocated (.ok 16), .allocated (.ok 32), .done, .deallocated (.ok ()),
      .allocated (.ok 16), .done, .allocated (.ok 72)]
    ∃ s, run step (new 1, mem) events = some (replies, s) ∧ ∀ reply ∈ replies, reply.expected :=
  run_replies_expected (by decide) (by decide) rfl

/-- From `new`, along every stream the specification accepts, `bytes_allocated` is the size of
the live blocks with their headers and `address_space_used` is `bumper - heap_base`, which
covers it: neither wraps. -/
theorem run_stats_exact (inside : (new heapBase).originalHeapBase.toNat ≤ mem.bytes.len)
    (roomy : Heap.Roomy mem.bytes.len)
    (accepted : run Heap.step (Heap.empty (new heapBase).originalHeapBase.toNat mem.bytes.len) events =
      some (replies, heap)) :
    ∃ s, run step (new heapBase, mem) events = some (replies, s) ∧
      s.1.stats.bytesAllocated.toNat = heap.liveBytes ∧
      s.1.stats.addressSpaceUsed.toNat = s.1.bumper.toNat - s.1.originalHeapBase.toNat ∧
      s.1.stats.bytesAllocated.toNat ≤ s.1.stats.addressSpaceUsed.toNat := by
  obtain ⟨s, ran, rep⟩ := run_of_simulates simulates events (represents_new inside roomy) accepted
  have carved := heap.liveBytes_le
  refine ⟨s, ran, rep.allocated, ?_, ?_⟩
  · rw [rep.addressSpace, rep.bumper, rep.base]
  · rw [rep.allocated, rep.addressSpace]
    omega

theorem run_stats_exact_sample :
    let mem : HeapSlice := ⟨⟨128, fun _ => 0⟩, by decide⟩
    let events := [Event.allocate 1, .allocate 20, .store 16 [7, 7], .deallocate 16, .allocate 3,
      .grow 1, .allocate 8]
    let replies := [Reply.allocated (.ok 16), .allocated (.ok 32), .done, .deallocated (.ok ()),
      .allocated (.ok 16), .done, .allocated (.ok 72)]
    ∃ heap, run Heap.step (Heap.empty (new 1).originalHeapBase.toNat mem.bytes.len) events =
        some (replies, heap) ∧
      ∃ s, run step (new 1, mem) events = some (replies, s) ∧
        s.1.stats.bytesAllocated.toNat = heap.liveBytes ∧
        s.1.stats.addressSpaceUsed.toNat = s.1.bumper.toNat - s.1.originalHeapBase.toNat ∧
        s.1.stats.bytesAllocated.toNat ≤ s.1.stats.addressSpaceUsed.toNat :=
  ⟨_, rfl, run_stats_exact (by decide) (by decide) rfl⟩

/-- An allocation from a held heap hands out an aligned body above the heap base, of at least
the size asked for and inside the memory, in a block that meets no live block. -/
theorem allocate_sound {s : State} {size ptr : UInt32} (rep : Represents s heap)
    (allocated : outcome ((allocate size).run s) = .ok ptr) :
    ∃ order, Order.fromSize size = .ok order ∧ ptr.toNat % 8 = 0 ∧
      s.1.originalHeapBase.toNat + 8 ≤ ptr.toNat ∧ max size.toNat 8 ≤ order.size.toNat ∧
      ptr.toNat + order.size.toNat ≤ s.2.bytes.len ∧ ∀ q ∈ heap.live, Apart (ptr.toNat - 8, order) q := by
  obtain ⟨self, mem⟩ := s
  rw [(represents_allocate rep size).1] at allocated
  obtain ⟨headerPtr, order, pointer, sized, -, grown, inside, apart⟩ := Heap.allocate_ok rep.wf allocated
  have carved : (headerPtr, order) ∈ (heap.allocate size).2.blocks :=
    (Heap.mem_live.mp (grown ▸ Finset.mem_insert_self _ _)).1
  have aligned := mod_of_mem_carve _ _ carved
  have above := (Heap.bounds_of_mem_blocks carved).1
  have baseAligned : (heap.allocate size).2.base % 8 = 0 := (Heap.wf_allocate rep.wf).aligned
  rw [Heap.base_allocate] at above aligned baseAligned
  have base : self.originalHeapBase.toNat = heap.base := rep.base
  have len : mem.bytes.len = heap.memLen := rep.memLen
  have large := size_le_of_fromSize sized
  have eight := eight_le_size order
  unfold blockSize at inside
  refine ⟨order, sized, ?_, ?_, ?_, ?_, ?_⟩
  · omega
  · dsimp only at above
    show self.originalHeapBase.toNat + 8 ≤ ptr.toNat
    omega
  · omega
  · show ptr.toNat + order.size.toNat ≤ mem.bytes.len
    omega
  · rw [pointer, Nat.add_sub_cancel]
    exact apart

theorem allocate_sound_second :
    let mem : HeapSlice := ⟨⟨128, fun _ => 0⟩, by decide⟩
    let heap := ((Heap.empty (new 1).originalHeapBase.toNat mem.bytes.len).allocate 1).2
    let s := after ((allocate 1 : Call HeapSlice UInt32).run (new 1, mem))
    ∃ order, Order.fromSize 20 = .ok order ∧ (32 : UInt32).toNat % 8 = 0 ∧
      s.1.originalHeapBase.toNat + 8 ≤ (32 : UInt32).toNat ∧
      max (20 : UInt32).toNat 8 ≤ order.size.toNat ∧ (32 : UInt32).toNat + order.size.toNat ≤ s.2.bytes.len ∧
      ∀ q ∈ heap.live, Apart ((32 : UInt32).toNat - 8, order) q := by
  intro mem heap s
  exact @allocate_sound heap s 20 32
    (represents_allocate (@represents_new 1 mem (by decide) (by decide)) 1).2 (by decide)

/-- An allocation from a held heap fails exactly when the allocator is poisoned, the size is
above the maximum, or the free list of its order is empty and its block does not fit between
the bumper and the end of the memory. -/
theorem allocate_fails_iff {s : State} {size : UInt32} (rep : Represents s heap) :
    (∃ e, outcome ((allocate size).run s) = .error e) ↔
      s.1.poisoned = true ∨ size > maxPossibleAllocation ∨
        ∃ order, Order.fromSize size = .ok order ∧ s.1.freeLists.get order = .nil ∧
          s.2.bytes.len < s.1.bumper.toNat + blockSize order := by
  obtain ⟨self, mem⟩ := s
  have poisonedEq : self.poisoned = heap.poisoned := rep.poisoned
  have bumper : self.bumper.toNat = heap.top := rep.bumper
  have len : mem.bytes.len = heap.memLen := rep.memLen
  show (∃ e, outcome ((allocate size).run (self, mem)) = .error e) ↔
    self.poisoned = true ∨ size > maxPossibleAllocation ∨
      ∃ order, Order.fromSize size = .ok order ∧ self.freeLists.get order = .nil ∧
        mem.bytes.len < self.bumper.toNat + blockSize order
  rw [(represents_allocate rep size).1]
  rcases Heap.allocate_cases heap size with ⟨poisoned, result⟩ | ⟨healthy, e, rejected, result⟩ |
      ⟨healthy, order, headerPtr, rest, sized, popped, result⟩ |
      ⟨healthy, order, sized, empty, fits, result⟩ | ⟨healthy, order, sized, empty, full, result⟩ <;>
    rw [result]
  · exact iff_of_true ⟨_, rfl⟩ (.inl (poisonedEq.trans poisoned))
  · exact iff_of_true ⟨_, rfl⟩ (.inr (.inl (fromSize_error rejected).2))
  · refine iff_of_false (fun ⟨_, failed⟩ => by cases failed) ?_
    rintro (poisoned | large | ⟨order', sized', empty, -⟩)
    · rw [poisonedEq, healthy] at poisoned
      cases poisoned
    · exact not_large_of_fromSize sized large
    · obtain rfl : order' = order := by rw [sized] at sized'; cases sized'; rfl
      obtain ⟨next, listed, -⟩ := (popped ▸ rep.chains order').cons_inv
      rw [show self.freeLists.get order' = _ from listed] at empty
      cases empty
  · refine iff_of_false (fun ⟨_, failed⟩ => by cases failed) ?_
    rintro (poisoned | large | ⟨order', sized', -, past⟩)
    · rw [poisonedEq, healthy] at poisoned
      cases poisoned
    · exact not_large_of_fromSize sized large
    · obtain rfl : order' = order := by rw [sized] at sized'; cases sized'; rfl
      omega
  · exact iff_of_true ⟨_, rfl⟩
      (.inr (.inr ⟨order, sized, (empty ▸ rep.chains order).nil_inv, by omega⟩))

theorem allocate_fails_iff_full :
    let mem : HeapSlice := ⟨⟨128, fun _ => 0⟩, by decide⟩
    ((∃ e, outcome ((allocate 200 : Call HeapSlice UInt32).run (new 1, mem)) = .error e) ↔
      (new 1).poisoned = true ∨ (200 : UInt32) > maxPossibleAllocation ∨
        ∃ order, Order.fromSize 200 = .ok order ∧ (new 1).freeLists.get order = .nil ∧
          mem.bytes.len < (new 1).bumper.toNat + blockSize order) := by
  intro mem
  exact @allocate_fails_iff _ (new 1, mem) 200 (@represents_new 1 mem (by decide) (by decide))

/-- Freeing a live block of a healthy allocator succeeds. -/
theorem deallocate_live_ok {s : State} {ptr : UInt32} {headerPtr : Nat} {order : Order}
    (rep : Represents s heap) (healthy : s.1.poisoned = false) (live : (headerPtr, order) ∈ heap.live)
    (body : headerPtr + 8 = ptr.toNat) : outcome ((deallocate ptr).run s) = .ok () := by
  have healthy' : heap.poisoned = false := rep.poisoned ▸ healthy
  have freed : heap.deallocate ptr = some (.ok (), heap.release headerPtr order) := by
    simp [Heap.deallocate, healthy', Heap.findLive_of_live live body]
  exact (represents_deallocate rep freed).1

theorem deallocate_live_ok_first :
    let mem : HeapSlice := ⟨⟨128, fun _ => 0⟩, by decide⟩
    outcome ((deallocate 16 : Call HeapSlice Unit).run
      (after ((allocate 1 : Call HeapSlice UInt32).run (new 1, mem)))) = .ok () := by
  intro mem
  exact @deallocate_live_ok ((Heap.empty (new 1).originalHeapBase.toNat mem.bytes.len).allocate 1).2
    _ 16 8 ⟨0, by decide⟩ (represents_allocate (@represents_new 1 mem (by decide) (by decide)) 1).2
    (by decide) (by decide) (by decide)

/-- A live block freed from a healthy allocator is the next block its order hands out, at the
same pointer. -/
theorem deallocate_then_allocate {s : State} {size ptr : UInt32} {headerPtr : Nat} {order : Order}
    (rep : Represents s heap) (healthy : s.1.poisoned = false) (live : (headerPtr, order) ∈ heap.live)
    (body : headerPtr + 8 = ptr.toNat) (sized : Order.fromSize size = .ok order) :
    outcome ((deallocate ptr).run s) = .ok () ∧
      outcome ((allocate size).run (after ((deallocate ptr).run s))) = .ok ptr := by
  obtain ⟨freed, reused⟩ :=
    Heap.allocate_after_deallocate (rep.poisoned ▸ healthy) (Heap.findLive_of_live live body) sized
  obtain ⟨same, rep'⟩ := represents_deallocate rep freed
  refine ⟨same, ?_⟩
  rw [(represents_allocate rep' size).1, reused]

theorem deallocate_then_allocate_first :
    let mem : HeapSlice := ⟨⟨128, fun _ => 0⟩, by decide⟩
    let s := after ((allocate 1 : Call HeapSlice UInt32).run (new 1, mem))
    outcome ((deallocate 16 : Call HeapSlice Unit).run s) = .ok () ∧
      outcome ((allocate 3 : Call HeapSlice UInt32).run (after ((deallocate 16 : Call HeapSlice Unit).run s))) =
        .ok 16 := by
  intro mem s
  exact @deallocate_then_allocate ((Heap.empty (new 1).originalHeapBase.toNat mem.bytes.len).allocate 1).2
    s 3 16 8 ⟨0, by decide⟩ (represents_allocate (@represents_new 1 mem (by decide) (by decide)) 1).2
    (by decide) (by decide) (by decide) (by decide)

/-- A block freed twice is caught: the second free reads a free header, fails with the error of
an empty header and poisons the allocator, and the memory stays as it was. -/
theorem deallocate_free_block {s : State} {ptr : UInt32} {headerPtr : Nat} {order : Order}
    (rep : Represents s heap) (healthy : s.1.poisoned = false) (free : headerPtr ∈ heap.free order)
    (body : headerPtr + 8 = ptr.toNat) :
    outcome ((deallocate ptr).run s) = .error (.err (error "the allocation points to an empty header")) ∧
      (after ((deallocate ptr).run s)).1.poisoned = true ∧ (after ((deallocate ptr).run s)).2 = s.2 := by
  obtain ⟨self, mem⟩ := s
  obtain ⟨next, read⟩ := (rep.chains order).read_of_mem free
  rw [run_deallocate_free_header healthy rep.not_shrunk (checkedSub_header body) read]
  exact ⟨rfl, rfl, rfl⟩

theorem deallocate_free_block_twice :
    let mem : HeapSlice := ⟨⟨128, fun _ => 0⟩, by decide⟩
    let s := after ((deallocate 16 : Call HeapSlice Unit).run
      (after ((allocate 1 : Call HeapSlice UInt32).run (new 1, mem))))
    outcome ((deallocate 16 : Call HeapSlice Unit).run s) =
        .error (.err (error "the allocation points to an empty header")) ∧
      (after ((deallocate 16 : Call HeapSlice Unit).run s)).1.poisoned = true ∧
      (after ((deallocate 16 : Call HeapSlice Unit).run s)).2 = s.2 := by
  intro mem s
  have first := (represents_allocate (@represents_new 1 mem (by decide) (by decide)) 1).2
  have freed := (@represents_deallocate _ _ 16 _ _ first rfl).2
  exact @deallocate_free_block _ _ 16 8 ⟨0, by decide⟩ freed (by decide) (by decide) (by decide)

end Guarantees

end WasmedgeExecutor.Allocator.Refinement
