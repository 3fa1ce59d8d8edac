import WasmedgeExecutor.Allocator.FreeingBump
import Mathlib

/-!
The freeing-bump allocator as its clients see it: blocks and free stacks in place of headers
and links in memory.

The heap is the list of blocks carved one after another from the heap base, each a header of
`HEADER_SIZE` bytes followed by a body of its order's size, and for every order the stack of
its free blocks, the last freed on top. `allocate` pops the stack of the order the size rounds
to, or carves a new block at the top when it fits the memory; a size above the maximum or a
full heap fails and poisons the allocator. `deallocate` pushes a live block back on its stack.
A client event is one of the two calls, a store of the guest or a growth of the memory, and
`step` refuses what a client must not do: free what is not live, store into a header, or grow
the memory so far that the `u32` sums of the allocator could wrap.

Every run of accepted events keeps the heap well formed (`WF`); an allocation hands out a block
disjoint from every live one (`allocate_ok`), and a block freed is the next one of its order
handed out (`allocate_after_deallocate`).
-/

set_option autoImplicit false
set_option relaxedAutoImplicit false

namespace WasmedgeExecutor.Allocator.Spec

open WasmedgeExecutor.Allocator.Layout
open WasmedgeExecutor.Allocator.FreeingBump (Fault)

/-- The bytes a block of `order` takes with its header. -/
def blockSize (order : Order) : Nat := order.size.toNat + 8

theorem blockSize_pos (order : Order) : 8 ≤ blockSize order := by
  unfold blockSize
  omega

theorem blockSize_le (order : Order) : blockSize order ≤ 2 ^ 25 + 8 := by
  have := order.size_le
  unfold blockSize
  omega

theorem blockSize_mod (order : Order) : blockSize order % 8 = 0 := by
  unfold blockSize
  rw [Order.toNat_size, Nat.pow_add]
  omega

/-- The blocks carved from `base` one after another: the address of each header, and its
order. -/
def carve (base : Nat) : List Order → List (Nat × Order)
  | [] => []
  | order :: rest => (base, order) :: carve (base + blockSize order) rest

def carvedEnd (base : Nat) : List Order → Nat
  | [] => base
  | order :: rest => carvedEnd (base + blockSize order) rest

/-- Two blocks whose bytes, headers included, do not meet. -/
def Apart (p q : Nat × Order) : Prop :=
  p.1 + blockSize p.2 ≤ q.1 ∨ q.1 + blockSize q.2 ≤ p.1

instance : Std.Symm Apart := ⟨fun _ _ apart => apart.symm⟩

theorem size_le_of_fromSize {size : UInt32} {order : Order} (sized : Order.fromSize size = .ok order) :
    size.toNat ≤ order.size.toNat := by
  unfold Order.fromSize at sized
  split at sized
  · cases sized
  · case isFalse accepted =>
    cases sized
    obtain ⟨k, three, -, raw, fits, -⟩ := Order.ofClampedSize_spec accepted
    rw [Order.toNat_size]
    show size.toNat ≤ 2 ^ ((Order.ofClampedSize size).toNat + 3)
    rw [raw, Nat.sub_add_cancel three]
    omega

theorem fromSize_error {size : UInt32} {e : Error} (rejected : Order.fromSize size = .error e) :
    e = .requestedAllocationTooLarge ∧ size > maxPossibleAllocation := by
  unfold Order.fromSize at rejected
  split at rejected
  · case isTrue large =>
    cases rejected
    exact ⟨rfl, large⟩
  · cases rejected

theorem not_large_of_fromSize {size : UInt32} {order : Order} (sized : Order.fromSize size = .ok order) :
    ¬ size > maxPossibleAllocation := by
  unfold Order.fromSize at sized
  split at sized
  · cases sized
  · assumption

theorem eight_le_size (order : Order) : 8 ≤ order.size.toNat := by
  rw [Order.toNat_size, Nat.pow_add]
  have : 1 ≤ 2 ^ order.raw.toNat := Nat.one_le_two_pow
  omega

section Carve

theorem le_carvedEnd (base : Nat) (orders : List Order) : base ≤ carvedEnd base orders := by
  induction orders generalizing base with
  | nil => exact Nat.le_refl base
  | cons order rest ih => exact Nat.le_trans (Nat.le_add_right _ _) (ih _)

theorem carvedEnd_append (base : Nat) (orders : List Order) (order : Order) :
    carvedEnd base (orders ++ [order]) = carvedEnd base orders + blockSize order := by
  induction orders generalizing base with
  | nil => rfl
  | cons first rest ih => exact ih _

theorem carve_append (base : Nat) (orders : List Order) (order : Order) :
    carve base (orders ++ [order]) = carve base orders ++ [(carvedEnd base orders, order)] := by
  induction orders generalizing base with
  | nil => rfl
  | cons first rest ih => simp only [List.cons_append, carve, carvedEnd, ih]

theorem bounds_of_mem_carve {headerPtr : Nat} {order : Order} (base : Nat) (orders : List Order)
    (carved : (headerPtr, order) ∈ carve base orders) :
    base ≤ headerPtr ∧ headerPtr + blockSize order ≤ carvedEnd base orders := by
  induction orders generalizing base with
  | nil => cases carved
  | cons first rest ih =>
    rcases List.mem_cons.mp carved with same | later
    · obtain ⟨rfl, rfl⟩ := Prod.mk.inj same
      exact ⟨Nat.le_refl _, le_carvedEnd _ rest⟩
    · obtain ⟨above, below⟩ := ih _ later
      exact ⟨by omega, below⟩

theorem mod_of_mem_carve {headerPtr : Nat} {order : Order} (base : Nat) (orders : List Order)
    (carved : (headerPtr, order) ∈ carve base orders) : headerPtr % 8 = base % 8 := by
  induction orders generalizing base with
  | nil => cases carved
  | cons first rest ih =>
    rcases List.mem_cons.mp carved with same | later
    · obtain ⟨rfl, rfl⟩ := Prod.mk.inj same
      rfl
    · have := blockSize_mod first
      rw [ih _ later]
      omega

theorem carve_pairwise (base : Nat) (orders : List Order) :
    (carve base orders).Pairwise fun p q => p.1 + blockSize p.2 ≤ q.1 := by
  induction orders generalizing base with
  | nil => exact .nil
  | cons order rest ih =>
    refine List.pairwise_cons.mpr ⟨?_, ih _⟩
    rintro ⟨headerPtr, order'⟩ later
    exact (bounds_of_mem_carve _ rest later).1

theorem carve_nodup (base : Nat) (orders : List Order) : (carve base orders).Nodup :=
  (carve_pairwise base orders).imp fun {p _} below same => by
    subst same
    have := blockSize_pos p.2
    omega

theorem apart_of_mem_carve {base : Nat} {orders : List Order} {p q : Nat × Order}
    (carvedP : p ∈ carve base orders) (carvedQ : q ∈ carve base orders) (different : p ≠ q) :
    Apart p q := by
  have pairwise : (carve base orders).Pairwise Apart := (carve_pairwise base orders).imp Or.inl
  exact pairwise.forall carvedP carvedQ different

theorem order_eq_of_mem_carve {base : Nat} {orders : List Order} {headerPtr : Nat}
    {order order' : Order} (carved : (headerPtr, order) ∈ carve base orders)
    (carved' : (headerPtr, order') ∈ carve base orders) : order = order' := by
  by_contra different
  have apart := apart_of_mem_carve carved carved' fun same => different (Prod.mk.inj same).2
  have := blockSize_pos order
  have := blockSize_pos order'
  rcases apart with below | below <;> simp only at below <;> omega

theorem sum_carve (base : Nat) (orders : List Order) :
    ((carve base orders).map fun p => blockSize p.2).sum + base = carvedEnd base orders := by
  induction orders generalizing base with
  | nil => simp [carve, carvedEnd]
  | cons order rest ih =>
    have := ih (base + blockSize order)
    simp only [carve, carvedEnd, List.map_cons, List.sum_cons]
    omega

end Carve

/-- The allocator's heap as its clients see it: the blocks carved from `base` in address
order, the stack of free blocks of every order, whether the allocator is poisoned, and the
length of the memory. -/
structure Heap where
  base : Nat
  orders : List Order
  free : Order → List Nat
  poisoned : Bool
  memLen : Nat

/-- A client event: a call of the allocator, a store of the guest, a growth of the memory by
whole pages. -/
inductive Event
  | allocate (size : UInt32)
  | deallocate (ptr : UInt32)
  | store (addr : Nat) (data : List UInt8)
  | grow (pages : Nat)

/-- What an event returns to the client. -/
inductive Reply
  | allocated (result : Except Fault UInt32)
  | deallocated (result : Except Fault Unit)
  | done
  deriving DecidableEq

def poisonedError : Error := error "the allocator has been poisoned"

/-- The replies the contract of the allocator allows: a pointer or one of the errors
`allocate` reports for a poisoned allocator, a size too large and a full heap; a free or the
error of a poisoned allocator; the end of a store or a growth. -/
def Reply.expected : Reply → Bool
  | .allocated (.ok _) => true
  | .allocated (.error (.err e)) =>
    e == poisonedError || e == .requestedAllocationTooLarge || e == .allocatorOutOfSpace
  | .deallocated (.ok _) => true
  | .deallocated (.error (.err e)) => e == poisonedError
  | .done => true
  | _ => false

namespace Heap

def blocks (heap : Heap) : List (Nat × Order) := carve heap.base heap.orders

def top (heap : Heap) : Nat := carvedEnd heap.base heap.orders

/-- The blocks not on the free stack of their order. -/
def live (heap : Heap) : Finset (Nat × Order) :=
  heap.blocks.toFinset.filter fun p => p.1 ∉ heap.free p.2

def liveBytes (heap : Heap) : Nat := ∑ p ∈ heap.live, blockSize p.2

/-- The heap of `FreeingBumpHeapAllocator::new`. -/
def empty (base memLen : Nat) : Heap := ⟨base, [], fun _ => [], false, memLen⟩

/-- `allocate`: the pointer past the header of the block handed out, or the error. -/
def allocate (heap : Heap) (size : UInt32) : Except Fault UInt32 × Heap :=
  if heap.poisoned then (.error (.err poisonedError), heap)
  else
    match Order.fromSize size with
    | .error e => (.error (.err e), { heap with poisoned := true })
    | .ok order =>
      match heap.free order with
      | headerPtr :: rest =>
        (.ok (headerPtr + 8).toUInt32, { heap with free := Function.update heap.free order rest })
      | [] =>
        if heap.top + blockSize order ≤ heap.memLen then
          (.ok (heap.top + 8).toUInt32, { heap with orders := heap.orders ++ [order] })
        else (.error (.err .allocatorOutOfSpace), { heap with poisoned := true })

/-- The live block whose body starts at `ptr`. -/
def findLive (heap : Heap) (ptr : UInt32) : Option (Nat × Order) :=
  heap.blocks.find? fun p => p.1 + 8 = ptr.toNat ∧ p.1 ∉ heap.free p.2

/-- The heap with a block pushed on its order's free stack. -/
def release (heap : Heap) (headerPtr : Nat) (order : Order) : Heap :=
  { heap with free := Function.update heap.free order (headerPtr :: heap.free order) }

/-- `deallocate`; `none` where the client frees what is not live. -/
def deallocate (heap : Heap) (ptr : UInt32) : Option (Except Fault Unit × Heap) :=
  if heap.poisoned then some (.error (.err poisonedError), heap)
  else (heap.findLive ptr).map fun p => (.ok (), heap.release p.1 p.2)

/-- A store of the guest that leaves every header alone. -/
def Avoids (heap : Heap) (addr : Nat) (data : List UInt8) : Prop :=
  ∀ p ∈ heap.blocks, addr + data.length ≤ p.1 ∨ p.1 + 8 ≤ addr

instance (heap : Heap) (addr : Nat) (data : List UInt8) : Decidable (heap.Avoids addr data) :=
  inferInstanceAs (Decidable (∀ p ∈ heap.blocks, _))

/-- Byte `i` of the memory lies in no header of a carved block. -/
def OutsideHeaders (heap : Heap) (i : Nat) : Prop := ∀ p ∈ heap.blocks, i < p.1 ∨ p.1 + 8 ≤ i

/-- A memory short enough that no sum of a pointer into it and a block size wraps a `u32`. -/
def Roomy (memLen : Nat) : Prop := memLen + 2 ^ 25 + 8 < 2 ^ 32

instance (memLen : Nat) : Decidable (Roomy memLen) := inferInstanceAs (Decidable (_ < _))

/-- One client event on the heap, or `none` where the client must not make it. -/
def step (heap : Heap) : Event → Option (Reply × Heap)
  | .allocate size => some (.allocated (heap.allocate size).1, (heap.allocate size).2)
  | .deallocate ptr => (heap.deallocate ptr).map fun done => (.deallocated done.1, done.2)
  | .store addr data => if heap.Avoids addr data then some (.done, heap) else none
  | .grow pages =>
    if Roomy (heap.memLen + pages * 65536) then
      some (.done, { heap with memLen := heap.memLen + pages * 65536 })
    else none

/-- What every heap a run reaches satisfies: its free stacks hold carved blocks of their order,
each once, and its blocks, carved from an aligned base, fit a roomy memory. -/
structure WF (heap : Heap) : Prop where
  carved : ∀ order headerPtr, headerPtr ∈ heap.free order → (headerPtr, order) ∈ heap.blocks
  nodup : ∀ order, (heap.free order).Nodup
  inside : heap.top ≤ heap.memLen
  roomy : Roomy heap.memLen
  aligned : heap.base % 8 = 0

section Live

variable {heap : Heap}

theorem mem_live {p : Nat × Order} : p ∈ heap.live ↔ p ∈ heap.blocks ∧ p.1 ∉ heap.free p.2 := by
  simp [live]

theorem bounds_of_mem_blocks {p : Nat × Order} (carved : p ∈ heap.blocks) :
    heap.base ≤ p.1 ∧ p.1 + blockSize p.2 ≤ heap.top :=
  bounds_of_mem_carve heap.base heap.orders carved

theorem WF.lt_top {order : Order} {headerPtr : Nat} (wf : heap.WF)
    (free : headerPtr ∈ heap.free order) : headerPtr + blockSize order ≤ heap.top :=
  (bounds_of_mem_blocks (wf.carved order headerPtr free)).2

theorem live_pop {order : Order} {headerPtr : Nat} {rest : List Nat} (wf : heap.WF)
    (popped : heap.free order = headerPtr :: rest) :
    ({ heap with free := Function.update heap.free order rest } : Heap).live =
      insert (headerPtr, order) heap.live := by
  have carved := wf.carved order headerPtr (by rw [popped]; exact List.mem_cons_self)
  have fresh : headerPtr ∉ rest := (List.nodup_cons.mp (popped ▸ wf.nodup order)).1
  ext ⟨p, o⟩
  rw [Finset.mem_insert, mem_live, mem_live]
  show (p, o) ∈ heap.blocks ∧ p ∉ Function.update heap.free order rest o ↔ _
  by_cases sameOrder : o = order
  · subst sameOrder
    rw [Function.update_self, popped]
    by_cases samePtr : p = headerPtr
    · subst samePtr
      simp [carved, fresh]
    · simp [samePtr]
  · rw [Function.update_of_ne sameOrder]
    simp [sameOrder]

theorem live_carve {order : Order} (wf : heap.WF) :
    ({ heap with orders := heap.orders ++ [order] } : Heap).live = insert (heap.top, order) heap.live := by
  ext ⟨p, o⟩
  rw [Finset.mem_insert, mem_live, mem_live]
  show (p, o) ∈ carve heap.base (heap.orders ++ [order]) ∧ p ∉ heap.free o ↔ _
  rw [carve_append, List.mem_append, List.mem_singleton]
  by_cases new : (p, o) = (heap.top, order)
  · obtain ⟨samePtr, sameOrder⟩ := Prod.mk.inj new
    subst samePtr sameOrder
    have above : heap.top ∉ heap.free o := fun free => by
      have := wf.lt_top free
      have := blockSize_pos o
      omega
    exact ⟨fun _ => .inl rfl, fun _ => ⟨.inr rfl, above⟩⟩
  · have new' : ¬ (p, o) = (carvedEnd heap.base heap.orders, order) := new
    simp only [new', new, or_false, false_or]
    rfl

theorem live_release {order : Order} {headerPtr : Nat} :
    (heap.release headerPtr order).live = heap.live.erase (headerPtr, order) := by
  ext ⟨p, o⟩
  rw [Finset.mem_erase, mem_live, mem_live]
  show (p, o) ∈ heap.blocks ∧ p ∉ Function.update heap.free order (headerPtr :: heap.free order) o ↔ _
  by_cases sameOrder : o = order
  · subst sameOrder
    rw [Function.update_self, List.mem_cons]
    simp only [ne_eq, Prod.mk.injEq, and_true, not_or]
    tauto
  · rw [Function.update_of_ne sameOrder]
    simp [sameOrder]

theorem not_live_of_free {order : Order} {headerPtr : Nat} (free : headerPtr ∈ heap.free order) :
    (headerPtr, order) ∉ heap.live := fun live => (mem_live.mp live).2 free

theorem top_not_live (order : Order) : (heap.top, order) ∉ heap.live := fun live => by
  have above := (bounds_of_mem_blocks (mem_live.mp live).1).2
  have := blockSize_pos order
  dsimp only at above
  omega

theorem top_carve (order : Order) :
    ({ heap with orders := heap.orders ++ [order] } : Heap).top = heap.top + blockSize order :=
  carvedEnd_append heap.base heap.orders order

@[simp] theorem live_empty (base memLen : Nat) : (empty base memLen).live = ∅ := by
  simp [live, blocks, empty, carve]

theorem liveBytes_insert {heap' : Heap} {p : Nat × Order} (grown : heap'.live = insert p heap.live)
    (fresh : p ∉ heap.live) : heap'.liveBytes = heap.liveBytes + blockSize p.2 := by
  unfold liveBytes
  rw [grown, Finset.sum_insert fresh, Nat.add_comm]

theorem liveBytes_le : heap.liveBytes + heap.base ≤ heap.top := by
  have within : heap.live ⊆ heap.blocks.toFinset := Finset.filter_subset _ _
  have all : ∑ p ∈ heap.blocks.toFinset, blockSize p.2 + heap.base = heap.top := by
    show ∑ p ∈ (carve heap.base heap.orders).toFinset, blockSize p.2 + heap.base =
      carvedEnd heap.base heap.orders
    rw [List.sum_toFinset _ (carve_nodup heap.base heap.orders)]
    exact sum_carve heap.base heap.orders
  have : ∑ p ∈ heap.live, blockSize p.2 ≤ ∑ p ∈ heap.blocks.toFinset, blockSize p.2 :=
    Finset.sum_le_sum_of_subset within
  unfold liveBytes
  omega

end Live

section Steps

variable {heap : Heap}

theorem wf_poison (wf : heap.WF) : ({ heap with poisoned := true } : Heap).WF :=
  ⟨wf.carved, wf.nodup, wf.inside, wf.roomy, wf.aligned⟩

theorem wf_pop {order : Order} {headerPtr : Nat} {rest : List Nat} (wf : heap.WF)
    (popped : heap.free order = headerPtr :: rest) :
    ({ heap with free := Function.update heap.free order rest } : Heap).WF := by
  refine ⟨fun o p free => ?_, fun o => ?_, wf.inside, wf.roomy, wf.aligned⟩
  · change p ∈ Function.update heap.free order rest o at free
    by_cases sameOrder : o = order
    · subst sameOrder
      rw [Function.update_self] at free
      exact wf.carved o p (by rw [popped]; exact List.mem_cons_of_mem _ free)
    · rw [Function.update_of_ne sameOrder] at free
      exact wf.carved o p free
  · show (Function.update heap.free order rest o).Nodup
    by_cases sameOrder : o = order
    · subst sameOrder
      rw [Function.update_self]
      exact (List.nodup_cons.mp (popped ▸ wf.nodup o)).2
    · rw [Function.update_of_ne sameOrder]
      exact wf.nodup o

theorem wf_carve {order : Order} (wf : heap.WF) (fits : heap.top + blockSize order ≤ heap.memLen) :
    ({ heap with orders := heap.orders ++ [order] } : Heap).WF := by
  refine ⟨fun o p free => ?_, wf.nodup, ?_, wf.roomy, wf.aligned⟩
  · show (p, o) ∈ carve heap.base (heap.orders ++ [order])
    rw [carve_append]
    exact List.mem_append_left _ (wf.carved o p free)
  · show carvedEnd heap.base (heap.orders ++ [order]) ≤ heap.memLen
    rw [carvedEnd_append]
    exact fits

theorem wf_release {order : Order} {headerPtr : Nat} (wf : heap.WF)
    (live : (headerPtr, order) ∈ heap.live) : (heap.release headerPtr order).WF := by
  obtain ⟨carved, notFree⟩ := mem_live.mp live
  refine ⟨fun o p free => ?_, fun o => ?_, wf.inside, wf.roomy, wf.aligned⟩
  · by_cases sameOrder : o = order
    · subst sameOrder
      change p ∈ Function.update heap.free o (headerPtr :: heap.free o) o at free
      rw [Function.update_self, List.mem_cons] at free
      rcases free with rfl | free
      · exact carved
      · exact wf.carved o p free
    · exact wf.carved o p (by
        change p ∈ Function.update heap.free order (headerPtr :: heap.free order) o at free
        rwa [Function.update_of_ne sameOrder] at free)
  · show (Function.update heap.free order (headerPtr :: heap.free order) o).Nodup
    by_cases sameOrder : o = order
    · subst sameOrder
      rw [Function.update_self]
      exact List.nodup_cons.mpr ⟨notFree, wf.nodup o⟩
    · rw [Function.update_of_ne sameOrder]
      exact wf.nodup o

theorem allocate_cases (heap : Heap) (size : UInt32) :
    (heap.poisoned = true ∧ heap.allocate size = (.error (.err poisonedError), heap)) ∨
    (heap.poisoned = false ∧ ∃ e, Order.fromSize size = .error e ∧
      heap.allocate size = (.error (.err e), { heap with poisoned := true })) ∨
    (heap.poisoned = false ∧ ∃ order headerPtr rest, Order.fromSize size = .ok order ∧
      heap.free order = headerPtr :: rest ∧
      heap.allocate size =
        (.ok (headerPtr + 8).toUInt32, { heap with free := Function.update heap.free order rest })) ∨
    (heap.poisoned = false ∧ ∃ order, Order.fromSize size = .ok order ∧ heap.free order = [] ∧
      heap.top + blockSize order ≤ heap.memLen ∧
      heap.allocate size = (.ok (heap.top + 8).toUInt32, { heap with orders := heap.orders ++ [order] })) ∨
    (heap.poisoned = false ∧ ∃ order, Order.fromSize size = .ok order ∧ heap.free order = [] ∧
      ¬ heap.top + blockSize order ≤ heap.memLen ∧
      heap.allocate size = (.error (.err .allocatorOutOfSpace), { heap with poisoned := true })) := by
  by_cases poisoned : heap.poisoned = true
  · exact .inl ⟨poisoned, by rw [allocate, if_pos poisoned]⟩
  · have healthy : heap.poisoned = false := by simpa using poisoned
    rw [allocate, if_neg poisoned]
    cases sized : Order.fromSize size with
    | error e => exact .inr (.inl ⟨healthy, e, rfl, rfl⟩)
    | ok order =>
      cases stack : heap.free order with
      | cons headerPtr rest =>
        exact .inr (.inr (.inl ⟨healthy, order, headerPtr, rest, rfl, stack, by simp only [stack]⟩))
      | nil =>
        by_cases fits : heap.top + blockSize order ≤ heap.memLen
        · exact .inr (.inr (.inr (.inl ⟨healthy, order, rfl, stack, fits, by simp only [stack, if_pos fits]⟩)))
        · exact .inr (.inr (.inr (.inr ⟨healthy, order, rfl, stack, fits, by simp only [stack, if_neg fits]⟩)))

theorem wf_allocate {size : UInt32} (wf : heap.WF) : (heap.allocate size).2.WF := by
  rcases allocate_cases heap size with ⟨-, allocated⟩ | ⟨-, e, -, allocated⟩ |
      ⟨-, order, headerPtr, rest, -, popped, allocated⟩ | ⟨-, order, -, -, fits, allocated⟩ |
      ⟨-, order, -, -, -, allocated⟩ <;> rw [allocated]
  · exact wf
  · exact wf_poison wf
  · exact wf_pop wf popped
  · exact wf_carve wf fits
  · exact wf_poison wf

theorem base_allocate (size : UInt32) : (heap.allocate size).2.base = heap.base := by
  rcases allocate_cases heap size with ⟨-, result⟩ | ⟨-, _, -, result⟩ | ⟨-, _, _, _, -, -, result⟩ |
      ⟨-, _, -, -, -, result⟩ | ⟨-, _, -, -, -, result⟩ <;>
    rw [result]

theorem memLen_allocate (size : UInt32) : (heap.allocate size).2.memLen = heap.memLen := by
  rcases allocate_cases heap size with ⟨-, result⟩ | ⟨-, _, -, result⟩ | ⟨-, _, _, _, -, -, result⟩ |
      ⟨-, _, -, -, -, result⟩ | ⟨-, _, -, -, -, result⟩ <;>
    rw [result]

theorem memLen_deallocate {ptr : UInt32} {result : Except Fault Unit} {heap' : Heap}
    (freed : heap.deallocate ptr = some (result, heap')) : heap'.memLen = heap.memLen := by
  unfold deallocate at freed
  split at freed
  · cases freed
    rfl
  · cases found : heap.findLive ptr with
    | none => simp [found] at freed
    | some p =>
      simp only [found, Option.map_some, Option.some.injEq, Prod.mk.injEq] at freed
      obtain ⟨-, rfl⟩ := freed
      rfl

theorem findLive_live {ptr : UInt32} {p : Nat × Order} (found : heap.findLive ptr = some p) :
    p.1 + 8 = ptr.toNat ∧ p ∈ heap.live := by
  have chosen := List.find?_some found
  simp only [Bool.decide_and, Bool.and_eq_true, decide_eq_true_eq] at chosen
  exact ⟨chosen.1, mem_live.mpr ⟨List.mem_of_find?_eq_some found, chosen.2⟩⟩

theorem findLive_of_live {ptr : UInt32} {headerPtr : Nat} {order : Order}
    (live : (headerPtr, order) ∈ heap.live) (body : headerPtr + 8 = ptr.toNat) :
    heap.findLive ptr = some (headerPtr, order) := by
  obtain ⟨carved, notFree⟩ := mem_live.mp live
  cases found : heap.findLive ptr with
  | none =>
    have missed := List.find?_eq_none.mp found (headerPtr, order) carved
    simp only [Bool.decide_and, Bool.and_eq_true, decide_eq_true_eq, not_and] at missed
    exact absurd notFree (missed body)
  | some p =>
    obtain ⟨otherPtr, otherOrder⟩ := p
    obtain ⟨samePtr, otherLive⟩ := findLive_live found
    obtain rfl : otherPtr = headerPtr := by dsimp only at samePtr; omega
    rw [order_eq_of_mem_carve (mem_live.mp otherLive).1 carved]

theorem wf_step {event : Event} {reply : Reply} {heap' : Heap} (wf : heap.WF)
    (stepped : heap.step event = some (reply, heap')) : heap'.WF := by
  cases event with
  | allocate size =>
    cases stepped
    exact wf_allocate wf
  | deallocate ptr =>
    simp only [step, deallocate] at stepped
    split at stepped
    · cases stepped
      exact wf
    · cases found : heap.findLive ptr with
      | none => simp [found] at stepped
      | some p =>
        simp only [found, Option.map_some, Option.some.injEq, Prod.mk.injEq] at stepped
        obtain ⟨-, rfl⟩ := stepped
        exact wf_release wf (findLive_live found).2
  | store addr data =>
    simp only [step] at stepped
    split at stepped
    · cases stepped
      exact wf
    · cases stepped
  | grow pages =>
    simp only [step] at stepped
    split at stepped
    · case isTrue roomy =>
      cases stepped
      exact ⟨wf.carved, wf.nodup, Nat.le_trans wf.inside (Nat.le_add_right _ _), roomy, wf.aligned⟩
    · cases stepped

theorem expected_step {event : Event} {reply : Reply} {heap' : Heap}
    (stepped : heap.step event = some (reply, heap')) : reply.expected = true := by
  cases event with
  | allocate size =>
    simp only [step, Option.some.injEq, Prod.mk.injEq] at stepped
    obtain ⟨rfl, -⟩ := stepped
    rcases allocate_cases heap size with ⟨-, result⟩ | ⟨-, e, rejected, result⟩ |
        ⟨-, _, _, _, -, -, result⟩ | ⟨-, _, -, -, -, result⟩ | ⟨-, _, -, -, -, result⟩ <;>
      rw [result]
    · rfl
    · rw [(fromSize_error rejected).1]
      rfl
    · rfl
    · rfl
    · rfl
  | deallocate ptr =>
    simp only [step, deallocate] at stepped
    split at stepped
    · cases stepped
      rfl
    · cases found : heap.findLive ptr with
      | none => simp [found] at stepped
      | some p =>
        simp only [found, Option.map_some, Option.some.injEq, Prod.mk.injEq] at stepped
        obtain ⟨rfl, -⟩ := stepped
        rfl
  | store addr data =>
    simp only [step] at stepped
    split at stepped
    · cases stepped
      rfl
    · cases stepped
  | grow pages =>
    simp only [step] at stepped
    split at stepped
    · cases stepped
      rfl
    · cases stepped

end Steps

section Guarantees

variable {heap : Heap}

theorem toNat_toUInt32_of_roomy {n : Nat} (wf : heap.WF) (inside : n ≤ heap.memLen) :
    n.toUInt32.toNat = n := by
  have := wf.roomy
  unfold Roomy at this
  rw [Nat.toUInt32_eq, UInt32.toNat_ofNat', Nat.mod_eq_of_lt (by omega)]

theorem headers_apart {p q : Nat × Order} (carvedP : p ∈ heap.blocks) (carvedQ : q ∈ heap.blocks)
    (different : q ≠ p) : q.1 + 8 ≤ p.1 ∨ p.1 + 8 ≤ q.1 := by
  have := blockSize_pos p.2
  have := blockSize_pos q.2
  rcases apart_of_mem_carve carvedP carvedQ (Ne.symm different) with below | below <;> omega

theorem allocate_ok {size ptr : UInt32} (wf : heap.WF) (allocated : (heap.allocate size).1 = .ok ptr) :
    ∃ headerPtr order, ptr.toNat = headerPtr + 8 ∧ Order.fromSize size = .ok order ∧
      (headerPtr, order) ∉ heap.live ∧ (heap.allocate size).2.live = insert (headerPtr, order) heap.live ∧
      headerPtr + blockSize order ≤ heap.memLen ∧ ∀ q ∈ heap.live, Apart (headerPtr, order) q := by
  rcases allocate_cases heap size with ⟨-, result⟩ | ⟨-, e, -, result⟩ |
      ⟨-, order, headerPtr, rest, sized, popped, result⟩ | ⟨-, order, sized, -, fits, result⟩ |
      ⟨-, order, -, -, -, result⟩ <;> rw [result] at allocated ⊢ <;> cases allocated
  · have free : headerPtr ∈ heap.free order := by rw [popped]; exact List.mem_cons_self
    have carved := wf.carved order headerPtr free
    have below := wf.lt_top free
    have inside : headerPtr + blockSize order ≤ heap.memLen := Nat.le_trans below wf.inside
    have notLive := not_live_of_free free
    refine ⟨headerPtr, order, toNat_toUInt32_of_roomy wf (by have := blockSize_pos order; omega),
      sized, notLive, live_pop wf popped, inside, fun q live => ?_⟩
    exact apart_of_mem_carve carved (mem_live.mp live).1 fun same => notLive (same ▸ live)
  · refine ⟨heap.top, order, toNat_toUInt32_of_roomy wf (by have := blockSize_pos order; omega),
      sized, top_not_live order, live_carve wf, fits, fun q live => .inr ?_⟩
    exact (bounds_of_mem_blocks (mem_live.mp live).1).2

theorem liveBytes_allocate {size ptr : UInt32} (wf : heap.WF)
    (allocated : (heap.allocate size).1 = .ok ptr) :
    ∃ order, Order.fromSize size = .ok order ∧
      (heap.allocate size).2.liveBytes = heap.liveBytes + blockSize order := by
  obtain ⟨headerPtr, order, -, sized, notLive, grown, -⟩ := allocate_ok wf allocated
  refine ⟨order, sized, ?_⟩
  rw [liveBytes_insert grown notLive]

theorem liveBytes_release {order : Order} {headerPtr : Nat} (live : (headerPtr, order) ∈ heap.live) :
    (heap.release headerPtr order).liveBytes + blockSize order = heap.liveBytes := by
  have split := Finset.add_sum_erase heap.live (fun p => blockSize p.2) live
  dsimp only at split
  unfold liveBytes
  rw [live_release]
  omega

theorem blockSize_le_liveBytes {order : Order} {headerPtr : Nat}
    (live : (headerPtr, order) ∈ heap.live) : blockSize order ≤ heap.liveBytes := by
  have := liveBytes_release live
  omega

theorem allocate_after_deallocate {size ptr : UInt32} {headerPtr : Nat} {order : Order}
    (healthy : heap.poisoned = false) (found : heap.findLive ptr = some (headerPtr, order))
    (sized : Order.fromSize size = .ok order) :
    heap.deallocate ptr = some (.ok (), heap.release headerPtr order) ∧
      (heap.release headerPtr order).allocate size = (.ok ptr, heap) := by
  have body := (findLive_live found).1
  refine ⟨by simp [deallocate, healthy, found], ?_⟩
  have pointer : (headerPtr + 8).toUInt32 = ptr := by
    apply UInt32.toNat_inj.mp
    rw [Nat.toUInt32_eq, UInt32.toNat_ofNat', body, Nat.mod_eq_of_lt ptr.toNat_lt]
  have restored : Function.update (Function.update heap.free order (headerPtr :: heap.free order)) order
      (heap.free order) = heap.free := by
    rw [Function.update_idem, Function.update_eq_self]
  simp only [allocate, release, healthy, Bool.false_eq_true, if_false, sized,
    Function.update_self, pointer, restored]
  rw [← healthy]

theorem avoids_allocate {size ptr : UInt32} {data : List UInt8} (wf : heap.WF)
    (allocated : (heap.allocate size).1 = .ok ptr) (short : data.length ≤ size.toNat) :
    (heap.allocate size).2.Avoids ptr.toNat data := by
  obtain ⟨headerPtr, order, pointer, sized, -, grown, -, -⟩ := allocate_ok wf allocated
  have fits := size_le_of_fromSize sized
  have live : (headerPtr, order) ∈ (heap.allocate size).2.live := by
    rw [grown]
    exact Finset.mem_insert_self _ _
  have carved := (mem_live.mp live).1
  intro p other
  by_cases same : p = (headerPtr, order)
  · subst same
    right
    omega
  · have apart := apart_of_mem_carve other carved same
    unfold Apart blockSize at apart
    dsimp only at apart
    omega

theorem blocks_subset_allocate (size : UInt32) : heap.blocks ⊆ (heap.allocate size).2.blocks := by
  rcases allocate_cases heap size with ⟨-, allocated⟩ | ⟨-, e, -, allocated⟩ |
      ⟨-, order, headerPtr, rest, -, -, allocated⟩ | ⟨-, order, -, -, -, allocated⟩ |
      ⟨-, order, -, -, -, allocated⟩ <;> rw [allocated]
  · exact List.Subset.refl _
  · exact List.Subset.refl _
  · exact List.Subset.refl _
  · show heap.blocks ⊆ carve heap.base (heap.orders ++ [order])
    rw [carve_append]
    exact List.subset_append_left _ _
  · exact List.Subset.refl _

theorem blocks_deallocate {ptr : UInt32} {result : Except Fault Unit} {heap' : Heap}
    (freed : heap.deallocate ptr = some (result, heap')) : heap'.blocks = heap.blocks := by
  unfold deallocate at freed
  split at freed
  · cases freed
    rfl
  · obtain ⟨p, -, done⟩ := Option.map_eq_some_iff.mp freed
    simp only [Prod.mk.injEq] at done
    obtain ⟨-, rfl⟩ := done
    rfl

theorem outsideHeaders_of_avoids {addr i : Nat} {data : List UInt8} (avoids : heap.Avoids addr data)
    (lo : addr ≤ i) (hi : i < addr + data.length) : heap.OutsideHeaders i := by
  intro p carved
  have := avoids p carved
  omega

theorem OutsideHeaders.of_subset {heap' : Heap} {i : Nat} (outside : heap'.OutsideHeaders i)
    (subset : heap.blocks ⊆ heap'.blocks) : heap.OutsideHeaders i :=
  fun p carved => outside p (subset carved)

end Guarantees

end Heap

end WasmedgeExecutor.Allocator.Spec
