import WasmedgeExecutor.Lib.Simulation
import WasmedgeExecutor.Lib.FirstBinding
import WasmedgeExecutor.Wasmedge.MemorySlice
import WasmedgeExecutor.Executor.Snapshot
import WasmedgeExecutor.Allocator.FreeingBump

/-!
An instance of the WasmEdge backend and the two strategies of `runtime.rs` for calling into it.
`RecreateInstance` instantiates the module afresh for every call. `FastInstanceReuse`
instantiates it once, in `new_instance`, where it captures the heap base and takes the globals
snapshot; before each call it writes the data segments back and restores the globals, and
after each call it decommits the memory, which zeroes it.

What WasmEdge and the code of the module do enters as an `Engine`: the instance that
`register_active_module` produces, and `perform_call`, which injects the input, runs an export
with an allocator and reads the output. An instance is its memory, seen through `MemoryApi`,
and its exported globals. A panic is `none`.

Fast reuse is meant to be invisible to the calls. `Agree` says what a call can observe of an
instance; `Fresh` and `Engine.Confined` say what this rests on outside the code here, and
`Reusable` is the invariant fast reuse keeps between calls. Under them the two strategies run
every history of calls in lockstep, with the same outcomes.
-/

set_option autoImplicit false
set_option relaxedAutoImplicit false

namespace WasmedgeExecutor.Wasmedge.Runtime

open WasmedgeExecutor.Lib.FirstBinding (firstOf insert firstOf_insert)
open WasmedgeExecutor.Lib.ByteMemory (Bytes)
open WasmedgeExecutor.Lib.Simulation (run Lockstep run_of_lockstep)
open WasmedgeExecutor.Wasmedge.MemorySlice (MemoryApi sliceLength writeMemoryFromSlice writeMemoryFromSlice_eq
  sliceLength_eq)
open WasmedgeExecutor.Wasmedge.Util (Val fromWasmedgeVal intoWasmedgeVal)
open WasmedgeExecutor.Executor.Snapshot (DataSegmentsSnapshot GlobalsSnapshot InstanceGlobals
  SavedValue applySegments)
open WasmedgeExecutor.Allocator.FreeingBump (FreeingBumpHeapAllocator AllocationStats)

variable {Mem Method : Type}

/-- What `InstanceWrapper` holds that the calls use: the memory exported as `memory` and the
exported globals with their values. -/
structure InstanceWrapper (Mem : Type) where
  memory : Mem
  globals : List (String × Val)

namespace InstanceWrapper

/-- `instance().global(name)` and its `get_value()`. -/
def global (w : InstanceWrapper Mem) (name : String) : Option Val := firstOf w.globals name

/-- `set_value` on the global exported as `name`. -/
def setGlobal (w : InstanceWrapper Mem) (name : String) (value : Val) : InstanceWrapper Mem :=
  { w with globals := insert w.globals name value }

@[simp] theorem memory_setGlobal (w : InstanceWrapper Mem) (name : String) (value : Val) :
    (w.setGlobal name value).memory = w.memory := rfl

@[simp] theorem global_setGlobal (w : InstanceWrapper Mem) (name name' : String) (value : Val) :
    (w.setGlobal name value).global name' = if name = name' then some value else w.global name' := by
  simp [setGlobal, global]

@[simp] theorem global_with_memory (w : InstanceWrapper Mem) (memory : Mem) (name : String) :
    ({ w with memory } : InstanceWrapper Mem).global name = w.global name := rfl

end InstanceWrapper

/-- A module instance as `register_active_module` returns it: its exported memories and
globals. -/
structure ModuleInstance (Mem : Type) where
  memories : List (String × Mem)
  globals : List (String × Val)

/-- What `call_with_allocation_stats` returns: the output or the error, and the statistics of
the allocator of the call. -/
abbrev Outcome := Except String (List UInt8) × Option AllocationStats

/-- What the runtime takes from WasmEdge and from the code of the module. The module is the
same at every instantiation, and so is the instance WasmEdge makes of it. -/
structure Engine (Mem Method : Type) where
  /-- `register_active_module`: the instance, or the error of WasmEdge. -/
  registerActiveModule : Except String (ModuleInstance Mem)
  /-- `perform_call`: the outcome of calling `method` on the input with the allocator, and the
  instance as the call leaves it. -/
  performCall : Method → List UInt8 → FreeingBumpHeapAllocator → InstanceWrapper Mem →
    Outcome × InstanceWrapper Mem

/-- `InstanceWrapper::instantiate`. -/
def instantiate (engine : Engine Mem Method) : Except String (InstanceWrapper Mem) :=
  match engine.registerActiveModule with
  | .error e => .error s!"failed to register active module: {e}"
  | .ok moduleInstance =>
    match firstOf moduleInstance.memories "memory" with
    | none => .error "fail to get WASM memory named 'memory'"
    | some memory => .ok ⟨memory, moduleInstance.globals⟩

/-- `InstanceWrapper::extract_heap_base`. -/
def extractHeapBase (w : InstanceWrapper Mem) : Except String UInt32 :=
  match w.global "__heap_base" with
  | none => .error "failed to get WASM global named '__heap_base'"
  | some (.i32 v) => .ok v.toUInt32
  | some _ => .error "the type of WASM global named '__heap_base' is not i32"

/-- `InstanceGlobals` of `runtime.rs`: the handle of a global is its export name, a value is
read through `from_wasmedge_val` and set through `into_wasmedge_val`. -/
def instanceGlobals : InstanceGlobals (InstanceWrapper Mem) String where
  getGlobal w exportName := (w.global exportName).map fun _ => exportName
  getGlobalValue w global := (w.global global).bind fromWasmedgeVal
  setGlobalValue w global value := some (w.setGlobal global (intoWasmedgeVal value))

/-- `Strategy`. -/
inductive Strategy (Mem : Type)
  | fastInstanceReuse (instanceWrapper : InstanceWrapper Mem)
      (globalsSnapshot : GlobalsSnapshot String) (dataSegmentsSnapshot : DataSegmentsSnapshot)
      (heapBase : UInt32)
  | recreateInstance (instanceWrapper : Option (InstanceWrapper Mem))

/-- `InstanceSnapshotData`, which `create_runtime` takes from the runtime blob. -/
structure InstanceSnapshotData where
  mutableGlobals : List String
  dataSegmentsSnapshot : DataSegmentsSnapshot

/-- `WasmEdgeRuntime::new_instance`, once the imports are registered. -/
def newInstance (engine : Engine Mem Method) :
    Option InstanceSnapshotData → Option (Except String (Strategy Mem))
  | none => some (.ok (.recreateInstance none))
  | some snapshotData =>
    match instantiate engine with
    | .error e => some (.error e)
    | .ok w =>
      match extractHeapBase w with
      | .error e => some (.error e)
      | .ok heapBase =>
        (GlobalsSnapshot.take instanceGlobals snapshotData.mutableGlobals w).map fun globalsSnapshot =>
          .ok (.fastInstanceReuse w globalsSnapshot snapshotData.dataSegmentsSnapshot heapBase)

section Calls

variable (api : MemoryApi Mem)

/-- `InstanceWrapper::decommit`: `madvise(MADV_DONTNEED)` on Linux, a fresh `mmap` on macOS, and
`fill(0)` on `memory_slice_mut` elsewhere or when the call fails. Each zeroes the
`(size() * 64 * 1024) as usize` bytes from the base, a length computed in `u32`. -/
def decommit (w : InstanceWrapper Mem) : InstanceWrapper Mem :=
  if api.size w.memory = 0 then w
  else
    { w with
      memory := api.withData w.memory fun i =>
        if i < sliceLength api w.memory then 0 else api.data w.memory i }

@[simp] theorem global_decommit (w : InstanceWrapper Mem) (name : String) :
    (decommit api w).global name = w.global name := by
  unfold decommit
  split <;> rfl

/-- The steps of `call_impl` before `perform_call` under fast instance reuse: the data segments
are written back through `write_memory_from` over `memory_slice_mut`, the globals restored and
an allocator made at the captured heap base. It returns the allocator, or the error of a write,
with the instance as these steps leave it. -/
def restore (w : InstanceWrapper Mem) (globalsSnapshot : GlobalsSnapshot String)
    (dataSegmentsSnapshot : DataSegmentsSnapshot) (heapBase : UInt32) :
    Option (Except String FreeingBumpHeapAllocator × InstanceWrapper Mem) :=
  match dataSegmentsSnapshot.apply (writeMemoryFromSlice api) w.memory with
  | none => none
  | some (.error e, memory) => some (.error e, { w with memory })
  | some (.ok (), memory) =>
    (globalsSnapshot.apply instanceGlobals { w with memory }).map fun w' =>
      (.ok (FreeingBumpHeapAllocator.new heapBase), w')

/-- `WasmEdgeInstance::call_impl`, as `call_with_allocation_stats` returns it. -/
def callImpl (engine : Engine Mem Method) (strategy : Strategy Mem) (method : Method)
    (data : List UInt8) : Option (Outcome × Strategy Mem) :=
  match strategy with
  | .fastInstanceReuse w globalsSnapshot dataSegmentsSnapshot heapBase =>
    match restore api w globalsSnapshot dataSegmentsSnapshot heapBase with
    | none => none
    -- an error of the prelude returns early, before the decommit
    | some (.error e, w') =>
      some ((.error e, none), .fastInstanceReuse w' globalsSnapshot dataSegmentsSnapshot heapBase)
    | some (.ok allocator, w') =>
      let result := engine.performCall method data allocator w'
      -- the memory is decommitted after the call, whatever its outcome
      some (result.1,
        .fastInstanceReuse (decommit api result.2) globalsSnapshot dataSegmentsSnapshot heapBase)
  | .recreateInstance w =>
    match instantiate engine with
    | .error e => some ((.error e, none), .recreateInstance w)
    | .ok w' =>
      match extractHeapBase w' with
      | .error e => some ((.error e, none), .recreateInstance (some w'))
      | .ok heapBase =>
        let result := engine.performCall method data (FreeingBumpHeapAllocator.new heapBase) w'
        some (result.1, .recreateInstance (some result.2))

/-- A history of calls on one instance: their outcomes in order and the strategy they leave, or
`none` if one panics. -/
def callAll (engine : Engine Mem Method) (strategy : Strategy Mem)
    (calls : List (Method × List UInt8)) : Option (List Outcome × Strategy Mem) :=
  run (fun strategy call => callImpl api engine strategy call.1 call.2) strategy calls

end Calls

/-! ## What a call observes, and what fast reuse rests on -/

section Invariant

variable (api : MemoryApi Mem)

/-- What a call can observe of an instance: the size of its memory, the bytes in it and the
globals. -/
structure Agree (w w' : InstanceWrapper Mem) : Prop where
  size_eq : api.size w'.memory = api.size w.memory
  data_eq : ∀ i, i < (api.size w.memory).toNat * 65536 → api.data w'.memory i = api.data w.memory i
  global_eq : ∀ name, w'.global name = w.global name

def windows (segments : List (UInt32 × List UInt8)) : List (Nat × List UInt8) :=
  segments.map fun segment => (segment.1.toNat, segment.2)

/-- The instance WasmEdge makes, as fast reuse needs it: a memory of 1 to 65535 pages holding
exactly zeros overlaid with the data segments, each inside the memory (so no start function
wrote to it), and exposed globals whose values survive the round trip through
`from_wasmedge_val` and `into_wasmedge_val`. -/
structure Fresh (F : InstanceWrapper Mem) (segments : List (UInt32 × List UInt8))
    (exposed : List String) : Prop where
  size_pos : 0 < (api.size F.memory).toNat
  size_lt : (api.size F.memory).toNat < 65536
  fits : ∀ segment ∈ segments,
    segment.1.toNat + segment.2.length ≤ (api.size F.memory).toNat * 65536
  data_eq : ∀ i, i < (api.size F.memory).toNat * 65536 →
    api.data F.memory i = ((Bytes.mk ((api.size F.memory).toNat * 65536) fun _ => 0).writeAll
      (windows segments)).byte i
  restores : ∀ name ∈ exposed, ∀ v, F.global name = some v →
    (fromWasmedgeVal v).map intoWasmedgeVal = some v

/-- What the calls of the module may do, as fast reuse needs it: a call observes only what
`Agree` compares, never grows the memory, and sets no global outside the exposed ones. -/
structure Engine.Confined (engine : Engine Mem Method) (exposed : List String) : Prop where
  outcome_eq : ∀ method data allocator w w', Agree api w w' →
    (engine.performCall method data allocator w').1 = (engine.performCall method data allocator w).1
  size_eq : ∀ method data allocator w,
    api.size (engine.performCall method data allocator w).2.memory = api.size w.memory
  global_eq : ∀ method data allocator w name, name ∉ exposed →
    (engine.performCall method data allocator w).2.global name = w.global name

/-- What fast reuse keeps between calls: the memory has the fresh size and is zero wherever no
data segment writes, and every global outside the exposed ones has its fresh value. -/
structure Reusable (F : InstanceWrapper Mem) (segments : List (UInt32 × List UInt8))
    (exposed : List String) (w : InstanceWrapper Mem) : Prop where
  size_eq : api.size w.memory = api.size F.memory
  blank : ∀ i, i < (api.size F.memory).toNat * 65536 → ¬ Bytes.Covers (windows segments) i →
    api.data w.memory i = 0
  global_eq : ∀ name, name ∉ exposed → w.global name = F.global name

end Invariant

/-! ## The steps of fast reuse -/

section Steps

variable {api : MemoryApi Mem} (lawful : api.Lawful)
include lawful

theorem size_decommit (w : InstanceWrapper Mem) :
    api.size (decommit api w).memory = api.size w.memory := by
  unfold decommit
  split
  · rfl
  · exact lawful.size_withData _ _

theorem data_decommit {w : InstanceWrapper Mem} (below : (api.size w.memory).toNat < 65536)
    {i : Nat} (inside : i < (api.size w.memory).toNat * 65536) :
    api.data (decommit api w).memory i = 0 := by
  unfold decommit
  split
  · case isTrue empty =>
    rw [empty] at inside
    exact absurd inside (Nat.not_lt_zero i)
  · rw [lawful.data_withData, if_pos (by rwa [sliceLength_eq below])]

theorem applySegments_writeMemoryFromSlice :
    ∀ (segments : List (UInt32 × List UInt8)) {memory : Mem},
      0 < (api.size memory).toNat → (api.size memory).toNat < 65536 →
      (∀ segment ∈ segments, segment.1.toNat + segment.2.length ≤ (api.size memory).toNat * 65536) →
      ∃ memory', applySegments (writeMemoryFromSlice api) segments memory = some (.ok (), memory') ∧
        api.size memory' = api.size memory ∧
        ∀ i, api.data memory' i =
          ((Bytes.mk ((api.size memory).toNat * 65536) (api.data memory)).writeAll
            (windows segments)).byte i
  | [], memory, _, _, _ => ⟨memory, rfl, rfl, fun _ => rfl⟩
  | (offset, contents) :: rest, memory, pos, below, fits => by
    have fit : offset.toNat + contents.length ≤ (api.size memory).toNat * 65536 :=
      fits _ List.mem_cons_self
    have written := writeMemoryFromSlice_eq lawful pos below offset contents (by omega)
    rw [if_pos fit] at written
    obtain ⟨first, first_eq⟩ : ∃ first, first = api.withData memory
        ((Bytes.mk ((api.size memory).toNat * 65536) (api.data memory)).write offset.toNat
          contents).byte := ⟨_, rfl⟩
    rw [← first_eq] at written
    have size_first : api.size first = api.size memory := by
      rw [first_eq]
      exact lawful.size_withData _ _
    have pos' : 0 < (api.size first).toNat := by rw [size_first]; exact pos
    have below' : (api.size first).toNat < 65536 := by rw [size_first]; exact below
    have fits' : ∀ segment ∈ rest,
        segment.1.toNat + segment.2.length ≤ (api.size first).toNat * 65536 := by
      rw [size_first]
      exact fun segment mem => fits segment (List.mem_cons_of_mem _ mem)
    obtain ⟨memory', applied, size', data'⟩ := applySegments_writeMemoryFromSlice rest pos' below' fits'
    refine ⟨memory', ?_, size'.trans size_first, fun i => ?_⟩
    · simp only [applySegments, written]
      exact applied
    · rw [data' i, size_first, first_eq, lawful.data_withData]
      rfl

end Steps

/-! ## Restoring the globals -/

section Globals

theorem apply_instanceGlobals (snapshot : GlobalsSnapshot String) (w : InstanceWrapper Mem) :
    snapshot.apply instanceGlobals w =
      some (snapshot.savedValues.foldl
        (fun w saved => w.setGlobal saved.handle (intoWasmedgeVal saved.value)) w) :=
  WasmedgeExecutor.Executor.Snapshot.apply_eq_foldl
    (fun w handle value => w.setGlobal handle (intoWasmedgeVal value)) (fun _ _ _ => rfl) snapshot w

@[simp] theorem memory_foldl_setGlobal (saved : List (SavedValue String)) (w : InstanceWrapper Mem) :
    (saved.foldl (fun w saved => w.setGlobal saved.handle (intoWasmedgeVal saved.value)) w).memory =
      w.memory := by
  induction saved generalizing w with
  | nil => rfl
  | cons first rest ih => simp [ih]

theorem global_foldl_setGlobal (saved : List (SavedValue String)) (w : InstanceWrapper Mem)
    (name : String) (g : Val) (uniform : ∀ s ∈ saved, s.handle = name → intoWasmedgeVal s.value = g) :
    (saved.foldl (fun w saved => w.setGlobal saved.handle (intoWasmedgeVal saved.value)) w).global name =
      if name ∈ saved.map (·.handle) then some g else w.global name := by
  induction saved generalizing w with
  | nil => simp
  | cons first rest ih =>
    rw [List.foldl_cons, ih _ fun s mem => uniform s (List.mem_cons_of_mem _ mem),
      InstanceWrapper.global_setGlobal]
    by_cases later : name ∈ rest.map (·.handle)
    · simp [later]
    · by_cases hit : first.handle = name
      · simp [later, hit, uniform first List.mem_cons_self hit]
      · simp [later, hit, Ne.symm hit]

theorem take_instanceGlobals {names : List String} {F : InstanceWrapper Mem}
    {snapshot : GlobalsSnapshot String}
    (taken : GlobalsSnapshot.take instanceGlobals names F = some snapshot) :
    snapshot.savedValues.map (·.handle) = names ∧
      ∀ s ∈ snapshot.savedValues, (F.global s.handle).bind fromWasmedgeVal = some s.value := by
  obtain ⟨saved⟩ := snapshot
  have pairs := WasmedgeExecutor.Executor.Snapshot.take_eq_some taken
  simp only at pairs ⊢
  clear taken
  induction pairs with
  | nil => simp
  | cons head _ ih =>
    obtain ⟨found, read⟩ := head
    obtain ⟨_, _, named⟩ := Option.map_eq_some_iff.mp found
    obtain ⟨handles, values⟩ := ih
    refine ⟨by simp [handles, named], ?_⟩
    intro s mem
    rcases List.mem_cons.mp mem with rfl | later
    · exact read
    · exact values s later

theorem global_restored {names : List String} {F : InstanceWrapper Mem}
    {snapshot : GlobalsSnapshot String}
    (restores : ∀ name ∈ names, ∀ v, F.global name = some v →
      (fromWasmedgeVal v).map intoWasmedgeVal = some v)
    (taken : GlobalsSnapshot.take instanceGlobals names F = some snapshot)
    (w : InstanceWrapper Mem) (name : String) :
    (snapshot.savedValues.foldl
        (fun w saved => w.setGlobal saved.handle (intoWasmedgeVal saved.value)) w).global name =
      if name ∈ names then F.global name else w.global name := by
  obtain ⟨handles, values⟩ := take_instanceGlobals taken
  by_cases listed : name ∈ names
  · obtain ⟨s, mem, named⟩ := List.mem_map.mp (handles ▸ listed)
    obtain ⟨v, found, _⟩ := Option.bind_eq_some_iff.mp (values s mem)
    have uniform : ∀ s' ∈ snapshot.savedValues, s'.handle = name → intoWasmedgeVal s'.value = v := by
      intro s' mem' named'
      obtain ⟨v', found', read'⟩ := Option.bind_eq_some_iff.mp (values s' mem')
      rw [named', named.symm, found] at found'
      cases found'
      have kept := restores name listed v (named ▸ found)
      rw [read', Option.map_some, Option.some.injEq] at kept
      exact kept
    rw [global_foldl_setGlobal _ w name v uniform, if_pos (handles ▸ listed), if_pos listed,
      ← named, found]
  · have uniform : ∀ s ∈ snapshot.savedValues, s.handle = name → intoWasmedgeVal s.value = .unsupported :=
      fun s mem named => absurd (handles ▸ List.mem_map_of_mem mem) (named ▸ listed)
    rw [global_foldl_setGlobal _ w name _ uniform, if_neg (handles ▸ listed), if_neg listed]

end Globals

/-- Fast reuse holding the snapshots of the fresh instance `F` and a reusable instance, beside
recreation. -/
def Matched (api : MemoryApi Mem) (F : InstanceWrapper Mem) (snapshotData : InstanceSnapshotData) (heapBase : UInt32)
    (fast slow : Strategy Mem) : Prop :=
  (∃ w globalsSnapshot,
    fast = .fastInstanceReuse w globalsSnapshot snapshotData.dataSegmentsSnapshot heapBase ∧
      GlobalsSnapshot.take instanceGlobals snapshotData.mutableGlobals F = some globalsSnapshot ∧
      Reusable api F snapshotData.dataSegmentsSnapshot.dataSegments snapshotData.mutableGlobals w) ∧
    ∃ w, slow = .recreateInstance w

/-! ## Fast reuse against recreation -/

section Refinement

variable {api : MemoryApi Mem} {F : InstanceWrapper Mem} {segments : List (UInt32 × List UInt8)}
  {names : List String}

theorem reusable_fresh (fresh : Fresh api F segments names) : Reusable api F segments names F where
  size_eq := rfl
  blank i inside outside := by
    rw [fresh.data_eq i inside, Bytes.byte_writeAll_of_not_covers outside]
  global_eq _ _ := rfl

variable (lawful : api.Lawful) (fresh : Fresh api F segments names)
include lawful fresh

theorem restore_agrees {snapshot : GlobalsSnapshot String}
    (taken : GlobalsSnapshot.take instanceGlobals names F = some snapshot)
    {w : InstanceWrapper Mem} (reusable : Reusable api F segments names w) (heapBase : UInt32) :
    ∃ w', restore api w snapshot ⟨segments⟩ heapBase =
        some (.ok (FreeingBumpHeapAllocator.new heapBase), w') ∧ Agree api F w' := by
  have pos : 0 < (api.size w.memory).toNat := by rw [reusable.size_eq]; exact fresh.size_pos
  have below : (api.size w.memory).toNat < 65536 := by rw [reusable.size_eq]; exact fresh.size_lt
  have fits : ∀ segment ∈ segments,
      segment.1.toNat + segment.2.length ≤ (api.size w.memory).toNat * 65536 := by
    rw [reusable.size_eq]; exact fresh.fits
  obtain ⟨memory, applied, size_eq, data_eq⟩ :=
    applySegments_writeMemoryFromSlice lawful segments pos below fits
  refine ⟨snapshot.savedValues.foldl (fun w saved => w.setGlobal saved.handle
    (intoWasmedgeVal saved.value)) { w with memory }, ?_, ?_⟩
  · simp only [restore, DataSegmentsSnapshot.apply, applied, apply_instanceGlobals, Option.map_some]
  · constructor
    · rw [memory_foldl_setGlobal, size_eq, reusable.size_eq]
    · intro i inside
      rw [memory_foldl_setGlobal, data_eq i, fresh.data_eq i inside, reusable.size_eq]
      exact Bytes.byte_writeAll_congr fun outside => reusable.blank i inside outside
    · intro name
      rw [global_restored fresh.restores taken]
      split
      · rfl
      · case isFalse unlisted => exact reusable.global_eq name unlisted

theorem reusable_decommit {engine : Engine Mem Method} (confined : engine.Confined api names)
    {w : InstanceWrapper Mem} (agree : Agree api F w) (method : Method) (data : List UInt8)
    (allocator : FreeingBumpHeapAllocator) :
    Reusable api F segments names (decommit api (engine.performCall method data allocator w).2) where
  size_eq := by rw [size_decommit lawful, confined.size_eq, agree.size_eq]
  blank i inside _ := by
    have size_after : api.size (engine.performCall method data allocator w).2.memory =
        api.size F.memory := by rw [confined.size_eq, agree.size_eq]
    rw [← size_after] at inside
    exact data_decommit lawful (by rw [size_after]; exact fresh.size_lt) inside
  global_eq name unlisted := by
    rw [global_decommit, confined.global_eq _ _ _ _ _ unlisted, agree.global_eq]

theorem lockstep_matched {engine : Engine Mem Method} {snapshotData : InstanceSnapshotData}
    {heapBase : UInt32} (segments_eq : snapshotData.dataSegmentsSnapshot.dataSegments = segments)
    (names_eq : snapshotData.mutableGlobals = names) (confined : engine.Confined api names)
    (instantiated : instantiate engine = .ok F) (heapBase_eq : extractHeapBase F = .ok heapBase) :
    Lockstep (fun strategy (call : Method × List UInt8) => callImpl api engine strategy call.1 call.2)
      (fun strategy call => callImpl api engine strategy call.1 call.2)
      (Matched api F snapshotData heapBase) := by
  rintro fast slow ⟨method, data⟩ ⟨⟨w, snapshot, rfl, taken, reusable⟩, slowWrapper, rfl⟩
  subst segments_eq names_eq
  obtain ⟨w', restored, agree⟩ := restore_agrees lawful fresh taken reusable heapBase
  have outcome_eq := confined.outcome_eq method data (FreeingBumpHeapAllocator.new heapBase) F w'
    agree
  refine ⟨(engine.performCall method data (FreeingBumpHeapAllocator.new heapBase) F).1,
    .fastInstanceReuse
      (decommit api (engine.performCall method data (FreeingBumpHeapAllocator.new heapBase) w').2)
      snapshot snapshotData.dataSegmentsSnapshot heapBase,
    .recreateInstance (some (engine.performCall method data (FreeingBumpHeapAllocator.new heapBase) F).2),
    ?_, ?_, ?_⟩
  · simp only [callImpl, restored, outcome_eq]
  · simp only [callImpl, instantiated, heapBase_eq]
  · exact ⟨⟨_, snapshot, rfl, taken, reusable_decommit lawful fresh confined agree method data _⟩,
      _, rfl⟩

end Refinement

theorem newInstance_fast {engine : Engine Mem Method} {snapshotData : InstanceSnapshotData}
    {F : InstanceWrapper Mem} {strategy : Strategy Mem} (instantiated : instantiate engine = .ok F)
    (created : newInstance engine (some snapshotData) = some (.ok strategy)) :
    ∃ heapBase globalsSnapshot, extractHeapBase F = .ok heapBase ∧
      GlobalsSnapshot.take instanceGlobals snapshotData.mutableGlobals F = some globalsSnapshot ∧
      strategy = .fastInstanceReuse F globalsSnapshot snapshotData.dataSegmentsSnapshot heapBase := by
  simp only [newInstance, instantiated] at created
  cases heapBase_eq : extractHeapBase F with
  | error e => simp [heapBase_eq] at created
  | ok heapBase =>
    cases taken : GlobalsSnapshot.take instanceGlobals snapshotData.mutableGlobals F with
    | none => simp [heapBase_eq, taken] at created
    | some globalsSnapshot =>
      simp only [heapBase_eq, taken, Option.map_some, Option.some.injEq, Except.ok.injEq] at created
      exact ⟨heapBase, globalsSnapshot, rfl, rfl, created.symm⟩

/-- Fast instance reuse is invisible to the calls, where the instance WasmEdge makes is `Fresh`
and the calls are `Confined`: along every history of calls neither strategy panics, both return
the same outcomes, and the prelude of the next call gives back an instance that agrees with a
freshly instantiated one, with the allocator `FreeingBumpHeapAllocator::new(heap_base)` that
recreation makes. -/
theorem fastInstanceReuse_refines (api : MemoryApi Mem) (lawful : api.Lawful)
    (engine : Engine Mem Method) (snapshotData : InstanceSnapshotData) (F : InstanceWrapper Mem)
    (instantiated : instantiate engine = .ok F)
    (fresh : Fresh api F snapshotData.dataSegmentsSnapshot.dataSegments snapshotData.mutableGlobals)
    (confined : engine.Confined api snapshotData.mutableGlobals) (strategy : Strategy Mem)
    (created : newInstance engine (some snapshotData) = some (.ok strategy))
    (history : List (Method × List UInt8)) :
    ∃ outcomes reused recreated heapBase,
      callAll api engine strategy history = some (outcomes, reused) ∧
      callAll api engine (.recreateInstance none) history = some (outcomes, recreated) ∧
      extractHeapBase F = .ok heapBase ∧
      ∃ w globalsSnapshot,
        reused = .fastInstanceReuse w globalsSnapshot snapshotData.dataSegmentsSnapshot heapBase ∧
        ∃ w', restore api w globalsSnapshot snapshotData.dataSegmentsSnapshot heapBase =
          some (.ok (FreeingBumpHeapAllocator.new heapBase), w') ∧ Agree api F w' := by
  obtain ⟨heapBase, snapshot, heapBase_eq, taken, rfl⟩ := newInstance_fast instantiated created
  have start : Matched api F snapshotData heapBase
      (.fastInstanceReuse F snapshot snapshotData.dataSegmentsSnapshot heapBase) (.recreateInstance none) :=
    ⟨⟨F, snapshot, rfl, taken, reusable_fresh fresh⟩, none, rfl⟩
  obtain ⟨outcomes, reused, recreated, ran, ran', ⟨w, snapshot', rfl, taken', reusable⟩, _⟩ :=
    run_of_lockstep (lockstep_matched lawful fresh rfl rfl confined instantiated heapBase_eq)
      history start
  obtain ⟨w', restored, agree⟩ := restore_agrees lawful fresh taken' reusable heapBase
  exact ⟨outcomes, _, recreated, heapBase, ran, ran', heapBase_eq, w, snapshot', rfl, w', restored,
    agree⟩

/-! ## Concrete engines -/

section Concrete

open WasmedgeExecutor.Wasmedge.MemorySlice (PagedMemory pagedApi pagedApi_lawful)

/-- The instance of a module of one page whose data segment puts `7` at address `0`, with the
heap base and one exposed mutable `i32` global, a counter. -/
def counterInstance : InstanceWrapper PagedMemory where
  memory := ⟨1, ((Bytes.mk 65536 fun _ => 0).writeAll [(0, [7])]).byte⟩
  globals := [("__heap_base", .i32 1024), ("exported_internal_global0", .i32 0)]

/-- The one call of that module: it returns the byte at address `0` and the counter, then
overwrites the byte and increments the counter. -/
def counterCall (w : InstanceWrapper PagedMemory) : Outcome × InstanceWrapper PagedMemory :=
  let byte := if 0 < w.memory.pages.toNat then w.memory.bytes 0 else 0
  let count := match w.global "exported_internal_global0" with
    | some (.i32 n) => n
    | _ => 0
  ((.ok [byte, count.toUInt32.toUInt8], none),
    { memory := { w.memory with bytes := fun i => if i = 0 then 0xFF else w.memory.bytes i }
      globals := insert w.globals "exported_internal_global0" (.i32 (count + 1)) })

def counterEngine : Engine PagedMemory Unit where
  registerActiveModule := .ok ⟨[("memory", counterInstance.memory)], counterInstance.globals⟩
  performCall _ _ _ w := counterCall w

def counterData : InstanceSnapshotData := ⟨["exported_internal_global0"], ⟨[(0, [7])]⟩⟩

theorem counter_fresh :
    Fresh pagedApi counterInstance counterData.dataSegmentsSnapshot.dataSegments
      counterData.mutableGlobals where
  size_pos := by decide
  size_lt := by decide
  fits := by decide
  data_eq _ _ := rfl
  restores name listed v found := by
    simp only [counterData, List.mem_singleton] at listed
    subst listed
    cases found
    rfl

theorem counter_confined : counterEngine.Confined pagedApi counterData.mutableGlobals where
  outcome_eq _ _ _ w w' agree := by
    have pages : w'.memory.pages = w.memory.pages := agree.size_eq
    simp only [counterEngine, counterCall, pages, agree.global_eq]
    by_cases pos : 0 < w.memory.pages.toNat
    · have byte : w'.memory.bytes 0 = w.memory.bytes 0 :=
        agree.data_eq 0 (show 0 < w.memory.pages.toNat * 65536 by omega)
      rw [if_pos pos, if_pos pos, byte]
    · rw [if_neg pos, if_neg pos]
  size_eq _ _ _ _ := rfl
  global_eq _ _ _ w name unlisted := by
    simp only [counterData, List.mem_singleton] at unlisted
    simp [counterEngine, counterCall, InstanceWrapper.global, Ne.symm unlisted]

theorem fastInstanceReuse_refines_counter :
    ∃ outcomes reused recreated heapBase,
      callAll pagedApi counterEngine
          (.fastInstanceReuse counterInstance ⟨[⟨"exported_internal_global0", .i32 0⟩]⟩
            counterData.dataSegmentsSnapshot 1024) [((), []), ((), [])] =
        some (outcomes, reused) ∧
      callAll pagedApi counterEngine (.recreateInstance none) [((), []), ((), [])] =
        some (outcomes, recreated) ∧
      extractHeapBase counterInstance = .ok heapBase ∧
      ∃ w globalsSnapshot,
        reused = .fastInstanceReuse w globalsSnapshot counterData.dataSegmentsSnapshot heapBase ∧
        ∃ w', restore pagedApi w globalsSnapshot counterData.dataSegmentsSnapshot heapBase =
          some (.ok (FreeingBumpHeapAllocator.new heapBase), w') ∧ Agree pagedApi counterInstance w' :=
  fastInstanceReuse_refines pagedApi pagedApi_lawful counterEngine counterData counterInstance rfl
    counter_fresh counter_confined _ rfl [((), []), ((), [])]

/-- A module of one page whose call returns the number of pages and then grows the memory by
a page. -/
def growingEngine : Engine PagedMemory Unit where
  registerActiveModule := .ok ⟨[("memory", ⟨1, fun _ => 0⟩)], [("__heap_base", .i32 1024)]⟩
  performCall _ _ _ w :=
    ((.ok [w.memory.pages.toUInt8], none),
      { w with memory := { w.memory with pages := w.memory.pages + 1 } })

/-- A module with an exposed mutable `f32` global holding `1.5`, whose call returns the second
byte of the bit pattern of the global. -/
def floatEngine : Engine PagedMemory Unit where
  registerActiveModule := .ok ⟨[("memory", ⟨1, fun _ => 0⟩)],
    [("__heap_base", .i32 1024), ("exported_internal_global0", .f32 ⟨0x3FC00000⟩)]⟩
  performCall _ _ _ w :=
    ((.ok (match w.global "exported_internal_global0" with
        | some (.f32 x) => [(x.toBits >>> 16).toUInt8]
        | _ => []), none), w)

/-- Fast reuse is seen by the calls. A call that grows the memory leaves it grown: the second
call sees two pages, where a fresh instance has one. And an exposed `f32` global is restored
through `f32 as u32` and `u32 as f32`: `1.5` comes back as `1.0`, already for the first call. -/
theorem fastInstanceReuse_diverges :
    (∃ strategy, newInstance growingEngine (some ⟨[], ⟨[]⟩⟩) = some (.ok strategy) ∧
      (callAll pagedApi growingEngine strategy [((), []), ((), [])]).map Prod.fst =
        some [(.ok [1], none), (.ok [2], none)]) ∧
    (callAll pagedApi growingEngine (.recreateInstance none) [((), []), ((), [])]).map Prod.fst =
      some [(.ok [1], none), (.ok [1], none)] ∧
    (∃ strategy,
      newInstance floatEngine (some ⟨["exported_internal_global0"], ⟨[]⟩⟩) = some (.ok strategy) ∧
      (callAll pagedApi floatEngine strategy [((), [])]).map Prod.fst = some [(.ok [0x80], none)]) ∧
    (callAll pagedApi floatEngine (.recreateInstance none) [((), [])]).map Prod.fst =
      some [(.ok [0xC0], none)] :=
  ⟨⟨_, rfl, by decide⟩, by decide, ⟨_, rfl, by decide⟩, by decide⟩

end Concrete

end WasmedgeExecutor.Wasmedge.Runtime
