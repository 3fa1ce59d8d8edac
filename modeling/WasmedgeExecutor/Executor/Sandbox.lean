import WasmedgeExecutor.Lib.SlotVector
import WasmedgeExecutor.Lib.FirstBinding
import WasmedgeExecutor.Lib.Outcome
import Mathlib

/-!
The sandbox store of `sc-executor-common` (`sandbox.rs`): two slot vectors, of instances with
their dispatch thunks and of memories, that the host functions `memory_new`,
`memory_teardown`, `instance_new` and `instance_teardown` of a backend drive, and the decoding
of a guest's environment definition against the live memories.

The sandbox backend (`wasmi` or `wasmer`) that creates memories and instantiates modules, and
the SCALE decoder of `EnvironmentDefinition`, are parameters. `Store::instantiate` only reads
the backend, so it is the backend's instantiation; `UnregisteredInstance::register` pushes the
instance.
-/

set_option autoImplicit false
set_option relaxedAutoImplicit false

namespace WasmedgeExecutor.Executor.Sandbox

open WasmedgeExecutor.Lib.SlotVector
open WasmedgeExecutor.Lib.FirstBinding (insert)
open WasmedgeExecutor.Lib.Outcome (map_eq_ok)

/-- `sandbox_env::ExternEntity`. -/
inductive ExternEntity
  | function (funcIdx : UInt32)
  | memory (memoryIdx : UInt32)

/-- `sandbox_env::Entry`. -/
structure Entry where
  moduleName : List UInt8
  fieldName : List UInt8
  entity : ExternEntity

/-- `sandbox_env::EnvironmentDefinition`. -/
structure EnvironmentDefinition where
  entries : List Entry

/-- `InstantiationError`. -/
inductive InstantiationError
  | environmentDefinitionCorrupted
  | moduleDecoding
  | instantiation
  | startTrapped
  | cpuFeature
  deriving DecidableEq, Repr

/-- `Imports`: the guest function index of each function import, and the memory of each
memory import, by qualified name. -/
structure Imports (M : Type) where
  funcMap : List ((List UInt8 × List UInt8) × Nat)
  memoriesMap : List ((List UInt8 × List UInt8) × M)

/-- `GuestEnvironment`; `guestToSupervisorMapping` lists the supervisor function index of each
guest function index. -/
structure GuestEnvironment (M : Type) where
  imports : Imports M
  guestToSupervisorMapping : List Nat

/-- `Store`: instances are `some` until torn down, and so are memories. -/
structure Store (I DT M : Type) where
  instances : List (Option (I × DT))
  memories : List (Option M)

/-- The sandbox backend: `wasmi_new_memory` and `wasmi_instantiate`, or their `wasmer` forms. -/
structure Backend (I M : Type) where
  newMemory : UInt32 → Option UInt32 → Except String M
  instantiate : List UInt8 → GuestEnvironment M → UInt32 → Except InstantiationError I

/-- `UnregisteredInstance`. -/
structure UnregisteredInstance (I : Type) where
  sandboxInstance : I

/-- `sandbox_env::MEM_UNLIMITED`, `-1i32 as u32`. -/
def memUnlimited : UInt32 := 0xFFFFFFFF

variable {I DT M : Type}

/-- The loop of `decode_environment_definition` over the entries; a function entry defines the
next guest function index, a memory entry must name a live memory. -/
def defineEntries (memories : List (Option M)) :
    List Entry → Imports M → List Nat → Except InstantiationError (Imports M × List Nat)
  | [], imports, funcs => .ok (imports, funcs)
  | entry :: rest, imports, funcs =>
    match entry.entity with
    | .function funcIdx =>
      defineEntries memories rest
        { imports with funcMap := insert imports.funcMap (entry.moduleName, entry.fieldName) funcs.length }
        (funcs ++ [funcIdx.toNat])
    | .memory memoryIdx =>
      -- `memories.get(memory_idx as usize).cloned()`: past the end and torn down both fail
      match memories[memoryIdx.toNat]? with
      | some (some memoryRef) =>
        defineEntries memories rest
          { imports with memoriesMap := insert imports.memoriesMap (entry.moduleName, entry.fieldName) memoryRef }
          funcs
      | _ => .error .environmentDefinitionCorrupted

/-- `decode_environment_definition`, over the SCALE decoder `decode`. -/
def decodeEnvironmentDefinition (decode : List UInt8 → Option EnvironmentDefinition)
    (rawEnvDef : List UInt8) (memories : List (Option M)) :
    Except InstantiationError (Imports M × List Nat) :=
  match decode rawEnvDef with
  | none => .error .environmentDefinitionCorrupted
  | some envDef => defineEntries memories envDef.entries ⟨[], []⟩ []

/-- `GuestEnvironment::decode`. -/
def GuestEnvironment.decode (decode : List UInt8 → Option EnvironmentDefinition)
    (store : Store I DT M) (rawEnvDef : List UInt8) : Except InstantiationError (GuestEnvironment M) :=
  (decodeEnvironmentDefinition decode rawEnvDef store.memories).map fun (imports, mapping) =>
    ⟨imports, mapping⟩

namespace Store

/-- `Store::new`. -/
def new : Store I DT M := ⟨[], []⟩

/-- The end of `Store::new_memory`: push the memory and hand out its index. -/
def pushMemory (store : Store I DT M) (memory : M) : UInt32 × Store I DT M :=
  let (memIdx, memories) := pushSlot store.memories memory
  (memIdx, { store with memories })

/-- The limit `Store::new_memory` passes to the backend: none for `MEM_UNLIMITED`. -/
def maximumOf (maximum : UInt32) : Option UInt32 :=
  if maximum = memUnlimited then none else some maximum

/-- `Store::new_memory`. -/
def newMemory (backend : Backend I M) (initial maximum : UInt32) : EStateM String (Store I DT M) UInt32 :=
  fun store =>
    match backend.newMemory initial (maximumOf maximum) with
    | .error e => .error e store
    | .ok memory =>
      let (memIdx, store) := store.pushMemory memory
      .ok memIdx store

/-- `Store::instance` (a keyword in Lean). -/
def getInstance (store : Store I DT M) (instanceIdx : UInt32) : Except String I :=
  (lookupSlot store.instances instanceIdx "Trying to access a non-existent instance"
    "Trying to access a torndown instance").map (·.1)

/-- `Store::dispatch_thunk`. -/
def dispatchThunk (store : Store I DT M) (instanceIdx : UInt32) : Except String DT :=
  (lookupSlot store.instances instanceIdx "Trying to access a non-existent instance"
    "Trying to access a torndown instance").map (·.2)

/-- `Store::memory`. -/
def memory (store : Store I DT M) (memoryIdx : UInt32) : Except String M :=
  lookupSlot store.memories memoryIdx "Trying to access a non-existent sandboxed memory"
    "Trying to access a torndown sandboxed memory"

/-- `Store::memory_teardown`. -/
def memoryTeardown (memoryIdx : UInt32) : EStateM String (Store I DT M) Unit := fun store =>
  match teardownSlot store.memories memoryIdx "Trying to teardown a non-existent sandboxed memory"
      "Double teardown of a sandboxed memory" with
  | .error e => .error e store
  | .ok memories => .ok () { store with memories }

/-- `Store::instance_teardown`. -/
def instanceTeardown (instanceIdx : UInt32) : EStateM String (Store I DT M) Unit := fun store =>
  match teardownSlot store.instances instanceIdx "Trying to teardown a non-existent instance"
      "Double teardown of an instance" with
  | .error e => .error e store
  | .ok instances => .ok () { store with instances }

/-- `Store::instantiate`. -/
def instantiate (backend : Backend I M) (wasm : List UInt8) (guestEnv : GuestEnvironment M)
    (state : UInt32) : Except InstantiationError (UnregisteredInstance I) :=
  (backend.instantiate wasm guestEnv state).map fun sandboxInstance => ⟨sandboxInstance⟩

/-- `Store::register_sandbox_instance`. -/
def registerSandboxInstance (store : Store I DT M) (sandboxInstance : I) (dispatchThunk : DT) :
    UInt32 × Store I DT M :=
  let (instanceIdx, instances) := pushSlot store.instances (sandboxInstance, dispatchThunk)
  (instanceIdx, { store with instances })

end Store

/-- `UnregisteredInstance::register`. -/
def UnregisteredInstance.register (unregistered : UnregisteredInstance I) (store : Store I DT M)
    (dispatchThunk : DT) : UInt32 × Store I DT M :=
  store.registerSandboxInstance unregistered.sandboxInstance dispatchThunk

/-! ## Runs of the store

The users of the store are the host functions of a backend, and what they observe is a log
of events: each memory and instance created with the index handed out for it, and each
teardown. `instantiate` is `instance_new`: decode the guest's environment, instantiate, and
register the instance. -/

/-- An operation of the host functions on the store. -/
inductive Operation (DT : Type)
  | newMemory (initial maximum : UInt32)
  | memoryTeardown (memoryIdx : UInt32)
  | instantiate (wasm rawEnvDef : List UInt8) (state : UInt32) (dispatchThunk : DT)
  | instanceTeardown (instanceIdx : UInt32)

/-- What an operation shows its caller. -/
inductive Event (I DT M : Type)
  | memory (event : SlotEvent M)
  | instance (event : SlotEvent (I × DT))
  | failed

def memoryEvents (log : List (Event I DT M)) : List (SlotEvent M) :=
  log.filterMap fun
    | .memory event => some event
    | _ => none

def instanceEvents (log : List (Event I DT M)) : List (SlotEvent (I × DT)) :=
  log.filterMap fun
    | .instance event => some event
    | _ => none

section Run

variable (backend : Backend I M) (decode : List UInt8 → Option EnvironmentDefinition)

/-- One operation: `new_memory` is the backend's creation and then the push, so that the event
can name the memory created. -/
def perform (store : Store I DT M) : Operation DT → Store I DT M × Event I DT M
  | .newMemory initial maximum =>
    match backend.newMemory initial (Store.maximumOf maximum) with
    | .error _ => (store, .failed)
    | .ok memory =>
      let (memIdx, store) := store.pushMemory memory
      (store, .memory (.created memIdx memory))
  | .memoryTeardown memoryIdx =>
    match Store.memoryTeardown memoryIdx store with
    | .ok () store => (store, .memory (.tornDown memoryIdx))
    | .error _ store => (store, .failed)
  | .instantiate wasm rawEnvDef state dispatchThunk =>
    match GuestEnvironment.decode decode store rawEnvDef >>= fun guestEnv =>
        Store.instantiate backend wasm guestEnv state with
    | .error _ => (store, .failed)
    | .ok unregistered =>
      let (instanceIdx, store) := unregistered.register store dispatchThunk
      (store, .instance (.created instanceIdx (unregistered.sandboxInstance, dispatchThunk)))
  | .instanceTeardown instanceIdx =>
    match Store.instanceTeardown instanceIdx store with
    | .ok () store => (store, .instance (.tornDown instanceIdx))
    | .error _ store => (store, .failed)

/-- A run of operations: the final store and the log of events. -/
def run : Store I DT M → List (Operation DT) → Store I DT M × List (Event I DT M)
  | store, [] => (store, [])
  | store, operation :: rest =>
    let (store, event) := perform backend decode store operation
    let (store, log) := run store rest
    (store, event :: log)

theorem run_nil (store : Store I DT M) : run backend decode store [] = (store, []) := rfl

theorem run_cons (store : Store I DT M) (operation : Operation DT) (rest : List (Operation DT)) :
    run backend decode store (operation :: rest) =
      ((run backend decode (perform backend decode store operation).1 rest).1,
        (perform backend decode store operation).2 ::
          (run backend decode (perform backend decode store operation).1 rest).2) := rfl

end Run

/-! ## The store reflects its log -/

section Events

variable (event : SlotEvent M) (instanceEvent : SlotEvent (I × DT))

@[simp] theorem memoryEvents_append (log log' : List (Event I DT M)) :
    memoryEvents (log ++ log') = memoryEvents log ++ memoryEvents log' := by
  simp [memoryEvents, List.filterMap_append]

@[simp] theorem instanceEvents_append (log log' : List (Event I DT M)) :
    instanceEvents (log ++ log') = instanceEvents log ++ instanceEvents log' := by
  simp [instanceEvents, List.filterMap_append]

@[simp] theorem memoryEvents_memory : memoryEvents [(.memory event : Event I DT M)] = [event] := rfl

@[simp] theorem memoryEvents_instance :
    memoryEvents [(.instance instanceEvent : Event I DT M)] = [] := rfl

@[simp] theorem memoryEvents_failed : memoryEvents [(.failed : Event I DT M)] = [] := rfl

@[simp] theorem instanceEvents_memory : instanceEvents [(.memory event : Event I DT M)] = [] := rfl

@[simp] theorem instanceEvents_instance :
    instanceEvents [(.instance instanceEvent : Event I DT M)] = [instanceEvent] := rfl

@[simp] theorem instanceEvents_failed : instanceEvents [(.failed : Event I DT M)] = [] := rfl

end Events

/-! One lemma for each outcome of the store's teardowns. -/

theorem memoryTeardown_ok {memoryIdx : UInt32} {store store' : Store I DT M} {u : Unit}
    (tornDown : Store.memoryTeardown memoryIdx store = .ok u store') :
    ∃ memories, teardownSlot store.memories memoryIdx "Trying to teardown a non-existent sandboxed memory"
      "Double teardown of a sandboxed memory" = .ok memories ∧ store' = { store with memories } := by
  unfold Store.memoryTeardown at tornDown
  split at tornDown
  · cases tornDown
  · case _ memories emptied =>
    cases tornDown
    exact ⟨memories, emptied, rfl⟩

theorem memoryTeardown_error {memoryIdx : UInt32} {store store' : Store I DT M} {message : String}
    (failed : Store.memoryTeardown memoryIdx store = .error message store') : store' = store := by
  unfold Store.memoryTeardown at failed
  split at failed
  · cases failed
    rfl
  · cases failed

theorem instanceTeardown_ok {instanceIdx : UInt32} {store store' : Store I DT M} {u : Unit}
    (tornDown : Store.instanceTeardown instanceIdx store = .ok u store') :
    ∃ instances, teardownSlot store.instances instanceIdx "Trying to teardown a non-existent instance"
      "Double teardown of an instance" = .ok instances ∧ store' = { store with instances } := by
  unfold Store.instanceTeardown at tornDown
  split at tornDown
  · cases tornDown
  · case _ instances emptied =>
    cases tornDown
    exact ⟨instances, emptied, rfl⟩

theorem instanceTeardown_error {instanceIdx : UInt32} {store store' : Store I DT M} {message : String}
    (failed : Store.instanceTeardown instanceIdx store = .error message store') : store' = store := by
  unfold Store.instanceTeardown at failed
  split at failed
  · cases failed
    rfl
  · cases failed

/-- The store's two slot vectors hold what the log says of memories and of instances. -/
structure Reflects (store : Store I DT M) (log : List (Event I DT M)) : Prop where
  memories : Tracks store.memories (memoryEvents log)
  instances : Tracks store.instances (instanceEvents log)

theorem reflects_nil : Reflects (Store.new : Store I DT M) [] := ⟨tracks_nil, tracks_nil⟩

theorem reflects_failed {store : Store I DT M} {log : List (Event I DT M)} (reflects : Reflects store log) :
    Reflects store (log ++ [.failed]) :=
  ⟨by simpa using reflects.memories, by simpa using reflects.instances⟩

section Step

variable (backend : Backend I M) (decode : List UInt8 → Option EnvironmentDefinition)

theorem length_perform (store : Store I DT M) (operation : Operation DT) :
    store.memories.length ≤ (perform backend decode store operation).1.memories.length ∧
      store.instances.length ≤ (perform backend decode store operation).1.instances.length := by
  cases operation with
  | newMemory initial maximum =>
    cases created : backend.newMemory initial (Store.maximumOf maximum) <;>
      simp [perform, created, Store.pushMemory, pushSlot]
  | memoryTeardown memoryIdx =>
    cases result : Store.memoryTeardown memoryIdx store with
    | ok u store' =>
      obtain ⟨memories, emptied, rfl⟩ := memoryTeardown_ok result
      have same := congrArg List.length (teardownSlot_ok_set emptied)
      simp only [perform, result]
      exact ⟨Nat.le_of_eq (by rw [same, List.length_set]), Nat.le_refl _⟩
    | error e store' =>
      cases memoryTeardown_error result
      simp [perform, result]
  | instantiate wasm rawEnvDef state dispatchThunk =>
    cases instantiated : GuestEnvironment.decode decode store rawEnvDef >>= fun guestEnv =>
        Store.instantiate backend wasm guestEnv state <;>
      simp [perform, instantiated, UnregisteredInstance.register, Store.registerSandboxInstance,
        pushSlot]
  | instanceTeardown instanceIdx =>
    cases result : Store.instanceTeardown instanceIdx store with
    | ok u store' =>
      obtain ⟨instances, emptied, rfl⟩ := instanceTeardown_ok result
      have same := congrArg List.length (teardownSlot_ok_set emptied)
      simp only [perform, result]
      exact ⟨Nat.le_refl _, Nat.le_of_eq (by rw [same, List.length_set])⟩
    | error e store' =>
      cases instanceTeardown_error result
      simp [perform, result]

theorem reflects_perform {store : Store I DT M} {log : List (Event I DT M)}
    (reflects : Reflects store log) (operation : Operation DT)
    (memoriesFit : (perform backend decode store operation).1.memories.length ≤ 2 ^ 32)
    (instancesFit : (perform backend decode store operation).1.instances.length ≤ 2 ^ 32) :
    Reflects (perform backend decode store operation).1 (log ++ [(perform backend decode store operation).2]) := by
  cases operation with
  | newMemory initial maximum =>
    cases created : backend.newMemory initial (Store.maximumOf maximum) with
    | error e =>
      simpa [perform, created] using reflects_failed reflects
    | ok memory =>
      simp only [perform, created, Store.pushMemory] at memoriesFit ⊢
      rw [length_pushSlot] at memoriesFit
      exact ⟨by simpa using tracks_pushSlot reflects.memories memory (by omega),
        by simpa using reflects.instances⟩
  | memoryTeardown memoryIdx =>
    cases result : Store.memoryTeardown memoryIdx store with
    | ok u store' =>
      obtain ⟨memories, emptied, rfl⟩ := memoryTeardown_ok result
      simp only [perform, result]
      exact ⟨by simpa using tracks_teardownSlot reflects.memories emptied,
        by simpa using reflects.instances⟩
    | error e store' =>
      cases memoryTeardown_error result
      simpa [perform, result] using reflects_failed reflects
  | instantiate wasm rawEnvDef state dispatchThunk =>
    cases instantiated : GuestEnvironment.decode decode store rawEnvDef >>= fun guestEnv =>
        Store.instantiate backend wasm guestEnv state with
    | error e =>
      simpa [perform, instantiated] using reflects_failed reflects
    | ok unregistered =>
      simp only [perform, instantiated, UnregisteredInstance.register,
        Store.registerSandboxInstance] at instancesFit ⊢
      rw [length_pushSlot] at instancesFit
      have pushed := tracks_pushSlot reflects.instances (unregistered.sandboxInstance, dispatchThunk)
        (by omega)
      exact ⟨by simpa using reflects.memories, by simpa using pushed⟩
  | instanceTeardown instanceIdx =>
    cases result : Store.instanceTeardown instanceIdx store with
    | ok u store' =>
      obtain ⟨instances, emptied, rfl⟩ := instanceTeardown_ok result
      simp only [perform, result]
      exact ⟨by simpa using reflects.memories,
        by simpa using tracks_teardownSlot reflects.instances emptied⟩
    | error e store' =>
      cases instanceTeardown_error result
      simpa [perform, result] using reflects_failed reflects

theorem length_run (store : Store I DT M) (operations : List (Operation DT)) :
    store.memories.length ≤ (run backend decode store operations).1.memories.length ∧
      store.instances.length ≤ (run backend decode store operations).1.instances.length := by
  induction operations generalizing store with
  | nil => simp [run_nil]
  | cons operation rest ih =>
    rw [run_cons]
    obtain ⟨memories, instances⟩ := length_perform backend decode store operation
    obtain ⟨memories', instances'⟩ := ih (perform backend decode store operation).1
    exact ⟨Nat.le_trans memories memories', Nat.le_trans instances instances'⟩

theorem reflects_run {store : Store I DT M} {log : List (Event I DT M)}
    (reflects : Reflects store log) (operations : List (Operation DT))
    (memoriesFit : (run backend decode store operations).1.memories.length ≤ 2 ^ 32)
    (instancesFit : (run backend decode store operations).1.instances.length ≤ 2 ^ 32) :
    Reflects (run backend decode store operations).1 (log ++ (run backend decode store operations).2) := by
  induction operations generalizing store log with
  | nil => simpa [run_nil] using reflects
  | cons operation rest ih =>
    rw [run_cons] at memoriesFit instancesFit ⊢
    obtain ⟨memoriesLater, instancesLater⟩ :=
      length_run backend decode (perform backend decode store operation).1 rest
    have stepped := reflects_perform backend decode reflects operation
      (Nat.le_trans memoriesLater memoriesFit) (Nat.le_trans instancesLater instancesFit)
    simpa using ih stepped memoriesFit instancesFit

end Step

/-! ## Lookups of a slot -/

theorem Store.memory_of_live {store : Store I DT M} {memoryIdx : UInt32} {memory : M}
    (live : store.memories[memoryIdx.toNat]? = some (some memory)) : store.memory memoryIdx = .ok memory := by
  simp [Store.memory, lookupSlot, live]

theorem Store.memory_of_not_live {store : Store I DT M} {memoryIdx : UInt32}
    (notLive : ∀ memory, store.memories[memoryIdx.toNat]? ≠ some (some memory)) :
    ∃ message, store.memory memoryIdx = .error message := by
  unfold Store.memory lookupSlot
  cases slot : store.memories[memoryIdx.toNat]? with
  | none => exact ⟨_, rfl⟩
  | some held =>
    cases held with
    | none => exact ⟨_, rfl⟩
    | some memory => exact absurd slot (notLive memory)

/-! ## What the users of a store can rely on -/

theorem defineEntries_dead (memories : List (Option M)) :
    ∀ (entries : List Entry) (imports : Imports M) (funcs : List Nat),
      (∃ entry ∈ entries, ∃ memoryIdx, entry.entity = .memory memoryIdx ∧
        (memories[memoryIdx.toNat]? = none ∨ memories[memoryIdx.toNat]? = some none)) →
      defineEntries memories entries imports funcs = .error .environmentDefinitionCorrupted
  | [], _, _, ⟨_, absent, _⟩ => absurd absent List.not_mem_nil
  | entry :: rest, imports, funcs, ⟨dead, mem, memoryIdx, isMemory, missing⟩ => by
    rcases List.mem_cons.mp mem with rfl | later
    · simp only [defineEntries, isMemory]
      rcases missing with past | empty
      · simp [past]
      · simp [empty]
    · have corrupted := defineEntries_dead memories rest
      cases kind : entry.entity with
      | function funcIdx =>
        simp only [defineEntries, kind]
        exact corrupted _ _ ⟨dead, later, memoryIdx, isMemory, missing⟩
      | memory idx =>
        simp only [defineEntries, kind]
        split
        · exact corrupted _ _ ⟨dead, later, memoryIdx, isMemory, missing⟩
        · rfl

namespace Reflects

variable {store : Store I DT M} {log : List (Event I DT M)} (reflects : Reflects store log)
include reflects

theorem memory_eq_ok (memoryIdx : UInt32) (memory : M) :
    store.memory memoryIdx = .ok memory ↔ live (memoryEvents log) memoryIdx.toNat = some memory :=
  lookupSlot_eq_ok reflects.memories memoryIdx _ _ memory

theorem getInstance_eq_ok (instanceIdx : UInt32) (sandboxInstance : I) :
    store.getInstance instanceIdx = .ok sandboxInstance ↔
      ∃ dispatchThunk, live (instanceEvents log) instanceIdx.toNat = some (sandboxInstance, dispatchThunk) := by
  rw [Store.getInstance, map_eq_ok]
  simp only [lookupSlot_eq_ok reflects.instances]
  exact ⟨fun ⟨⟨_, dispatchThunk⟩, named, rfl⟩ => ⟨dispatchThunk, named⟩,
    fun ⟨dispatchThunk, named⟩ => ⟨_, named, rfl⟩⟩

theorem dispatchThunk_eq_ok (instanceIdx : UInt32) (dispatchThunk : DT) :
    store.dispatchThunk instanceIdx = .ok dispatchThunk ↔
      ∃ sandboxInstance, live (instanceEvents log) instanceIdx.toNat = some (sandboxInstance, dispatchThunk) := by
  rw [Store.dispatchThunk, map_eq_ok]
  simp only [lookupSlot_eq_ok reflects.instances]
  exact ⟨fun ⟨⟨sandboxInstance, _⟩, named, rfl⟩ => ⟨sandboxInstance, named⟩,
    fun ⟨sandboxInstance, named⟩ => ⟨_, named, rfl⟩⟩

theorem memoryTeardown_fails {memoryIdx : UInt32} (dead : live (memoryEvents log) memoryIdx.toNat = none) :
    ∃ message, Store.memoryTeardown memoryIdx store = .error message store := by
  obtain ⟨message, failed⟩ := teardownSlot_fails reflects.memories dead
    "Trying to teardown a non-existent sandboxed memory" "Double teardown of a sandboxed memory"
  exact ⟨message, by simp [Store.memoryTeardown, failed]⟩

theorem instanceTeardown_fails {instanceIdx : UInt32}
    (dead : live (instanceEvents log) instanceIdx.toNat = none) :
    ∃ message, Store.instanceTeardown instanceIdx store = .error message store := by
  obtain ⟨message, failed⟩ := teardownSlot_fails reflects.instances dead
    "Trying to teardown a non-existent instance" "Double teardown of an instance"
  exact ⟨message, by simp [Store.instanceTeardown, failed]⟩

theorem decode_fails (decode : List UInt8 → Option EnvironmentDefinition) {rawEnvDef : List UInt8}
    {envDef : EnvironmentDefinition} (decoded : decode rawEnvDef = some envDef)
    (refers : ∃ entry ∈ envDef.entries, ∃ memoryIdx, entry.entity = .memory memoryIdx ∧
      live (memoryEvents log) memoryIdx.toNat = none) :
    GuestEnvironment.decode decode store rawEnvDef = .error .environmentDefinitionCorrupted := by
  obtain ⟨entry, mem, memoryIdx, isMemory, dead⟩ := refers
  have corrupted := defineEntries_dead store.memories envDef.entries ⟨[], []⟩ []
    ⟨entry, mem, memoryIdx, isMemory, getElem?_of_dead reflects.memories dead⟩
  simp [GuestEnvironment.decode, decodeEnvironmentDefinition, decoded, corrupted, Except.map]

end Reflects

/-- What the users of a store can rely on after a log of events: the indices of memories and
of instances were handed out as `0, 1, 2, ...` in creation order and never twice; a lookup
succeeds exactly on a live index, with the object created under it; a teardown of an index
that is not live fails and leaves the store as it is; and an environment definition that
names a memory that is not live is rejected as corrupted. -/
structure HandlesSound (decode : List UInt8 → Option EnvironmentDefinition) (store : Store I DT M)
    (log : List (Event I DT M)) : Prop where
  memoriesHandedOut : handedOut (memoryEvents log) = (List.range store.memories.length).map UInt32.ofNat
  memoriesDistinct : (handedOut (memoryEvents log)).Nodup
  instancesHandedOut :
    handedOut (instanceEvents log) = (List.range store.instances.length).map UInt32.ofNat
  instancesDistinct : (handedOut (instanceEvents log)).Nodup
  lookupMemory : ∀ memoryIdx memory,
    store.memory memoryIdx = .ok memory ↔ live (memoryEvents log) memoryIdx.toNat = some memory
  lookupInstance : ∀ instanceIdx sandboxInstance, store.getInstance instanceIdx = .ok sandboxInstance ↔
    ∃ dispatchThunk, live (instanceEvents log) instanceIdx.toNat = some (sandboxInstance, dispatchThunk)
  lookupDispatchThunk : ∀ instanceIdx dispatchThunk, store.dispatchThunk instanceIdx = .ok dispatchThunk ↔
    ∃ sandboxInstance, live (instanceEvents log) instanceIdx.toNat = some (sandboxInstance, dispatchThunk)
  memoryTeardownFails : ∀ memoryIdx, live (memoryEvents log) memoryIdx.toNat = none →
    ∃ message, Store.memoryTeardown memoryIdx store = .error message store
  instanceTeardownFails : ∀ instanceIdx, live (instanceEvents log) instanceIdx.toNat = none →
    ∃ message, Store.instanceTeardown instanceIdx store = .error message store
  decodeFails : ∀ rawEnvDef envDef, decode rawEnvDef = some envDef →
    (∃ entry ∈ envDef.entries, ∃ memoryIdx, entry.entity = .memory memoryIdx ∧
      live (memoryEvents log) memoryIdx.toNat = none) →
    GuestEnvironment.decode decode store rawEnvDef = .error .environmentDefinitionCorrupted

/-- Every run of the store's operations from an empty store that creates at most `2 ^ 32`
memories and at most `2 ^ 32` instances leaves a store its users can rely on. -/
theorem run_store_handles (backend : Backend I M) (decode : List UInt8 → Option EnvironmentDefinition)
    (operations : List (Operation DT))
    (memoriesFit : (run backend decode Store.new operations).1.memories.length ≤ 2 ^ 32)
    (instancesFit : (run backend decode Store.new operations).1.instances.length ≤ 2 ^ 32) :
    HandlesSound decode (run backend decode Store.new operations).1 (run backend decode Store.new operations).2 := by
  have reflects := reflects_run backend decode reflects_nil operations memoriesFit instancesFit
  rw [List.nil_append] at reflects
  exact ⟨reflects.memories.handedOut_eq, handedOut_nodup reflects.memories memoriesFit,
    reflects.instances.handedOut_eq, handedOut_nodup reflects.instances instancesFit,
    reflects.memory_eq_ok, reflects.getInstance_eq_ok, reflects.dispatchThunk_eq_ok,
    fun _ dead => reflects.memoryTeardown_fails dead, fun _ dead => reflects.instanceTeardown_fails dead,
    fun _ _ decoded refers => reflects.decode_fails decode decoded refers⟩

/-- A backend whose memories are their initial size, and that instantiates nothing. -/
def sizedBackend : Backend Unit Nat :=
  ⟨fun initial _ => .ok initial.toNat, fun _ _ _ => .error .instantiation⟩

def noDefinitions : List UInt8 → Option EnvironmentDefinition := fun _ => none

theorem run_store_handles_teardown :
    let operations : List (Operation Unit) :=
      [.newMemory 1 memUnlimited, .memoryTeardown 0, .newMemory 2 memUnlimited, .memoryTeardown 0]
    (run sizedBackend noDefinitions Store.new operations).1.memories.length ≤ 2 ^ 32 ∧
      (run sizedBackend noDefinitions Store.new operations).1.instances.length ≤ 2 ^ 32 ∧
      HandlesSound noDefinitions (run sizedBackend noDefinitions Store.new operations).1
        (run sizedBackend noDefinitions Store.new operations).2 :=
  ⟨by decide, by decide, run_store_handles sizedBackend noDefinitions _ (by decide) (by decide)⟩

/-! ## Indices past `2 ^ 32` creations -/

theorem run_replicate_newMemory (backend : Backend I M) (decode : List UInt8 → Option EnvironmentDefinition)
    {initial maximum : UInt32} {memory : M}
    (creates : backend.newMemory initial (Store.maximumOf maximum) = .ok memory) (n : Nat)
    (store : Store I DT M) :
    run backend decode store (List.replicate n (.newMemory initial maximum)) =
      ({ store with memories := store.memories ++ List.replicate n (some memory) },
        (List.range' store.memories.length n).map fun i => .memory (.created (UInt32.ofNat i) memory)) := by
  induction n generalizing store with
  | zero => simp [run_nil]
  | succ n ih =>
    have step : perform backend decode store (.newMemory initial maximum) =
        ({ store with memories := store.memories ++ [some memory] },
          .memory (.created (UInt32.ofNat store.memories.length) memory)) := by
      simp [perform, creates, Store.pushMemory, pushSlot]
    rw [List.replicate_succ, run_cons, step, ih]
    simp [List.range'_succ, List.replicate_succ]

theorem memoryEvents_map_memory {α : Type} (f : α → SlotEvent M) (l : List α) :
    memoryEvents (l.map fun a => (.memory (f a) : Event I DT M)) = l.map f := by
  induction l with
  | nil => rfl
  | cons a rest ih => simp [memoryEvents] at ih ⊢

theorem handedOut_map_created {α : Type} (handle : α → UInt32) (object : M) (l : List α) :
    handedOut (l.map fun a => SlotEvent.created (handle a) object) = l.map handle := by
  induction l with
  | nil => rfl
  | cons a rest ih => simp [handedOut] at ih ⊢

/-- A first memory of one page, then `2 ^ 32` memories of none: the last one is handed out
index `0` again, the index of the first, and `memory(0)` still returns the first memory. -/
theorem memory_index_reused :
    let operations : List (Operation Unit) :=
      .newMemory 1 memUnlimited :: List.replicate (2 ^ 32) (.newMemory 0 memUnlimited)
    ¬ (handedOut (memoryEvents (run sizedBackend noDefinitions Store.new operations).2)).Nodup ∧
      (run sizedBackend noDefinitions Store.new operations).1.memory 0 = .ok 1 ∧
      live (memoryEvents (run sizedBackend noDefinitions Store.new operations).2) 0 = some 0 := by
  intro operations
  have creates : sizedBackend.newMemory 0 (Store.maximumOf memUnlimited) = .ok 0 := rfl
  have first : perform sizedBackend noDefinitions (Store.new : Store Unit Unit Nat)
      (.newMemory 1 memUnlimited) = (⟨[], [some 1]⟩, .memory (.created 0 1)) := rfl
  have whole : run sizedBackend noDefinitions Store.new operations =
      (⟨[], [some 1] ++ List.replicate (2 ^ 32) (some 0)⟩,
        .memory (.created 0 1) :: (List.range' 1 (2 ^ 32)).map fun i =>
          .memory (.created (UInt32.ofNat i) 0)) := by
    rw [run_cons, first, run_replicate_newMemory sizedBackend noDefinitions creates]
    rfl
  have last : List.range' 1 (2 ^ 32) = List.range' 1 (2 ^ 32 - 1) ++ [2 ^ 32] :=
    @List.range'_concat 1 1 (2 ^ 32 - 1)
  have wraps : UInt32.ofNat (2 ^ 32) = 0 := rfl
  rw [whole]
  refine ⟨?_, rfl, ?_⟩
  · have events : memoryEvents ((.memory (.created 0 1) : Event Unit Unit Nat) ::
        (List.range' 1 (2 ^ 32)).map fun i => .memory (.created (UInt32.ofNat i) 0)) =
          .created 0 1 :: (List.range' 1 (2 ^ 32)).map fun i => .created (UInt32.ofNat i) 0 := by
      rw [← memoryEvents_map_memory]
      rfl
    have handles : handedOut ((.created 0 1 : SlotEvent Nat) ::
        (List.range' 1 (2 ^ 32)).map fun i => .created (UInt32.ofNat i) 0) =
          0 :: (List.range' 1 (2 ^ 32)).map UInt32.ofNat := by
      rw [← handedOut_map_created]
      rfl
    rw [events, handles, List.nodup_cons, not_and]
    intro fresh
    exact absurd (List.mem_map.mpr ⟨2 ^ 32, List.mem_range'_1.mpr ⟨by omega, by omega⟩, wraps⟩) fresh
  · rw [last, List.map_append, ← List.cons_append, memoryEvents_append, List.map_singleton]
    simp [applyEvent]

end WasmedgeExecutor.Executor.Sandbox
