import WasmedgeExecutor.Executor.WasmiBackend
import WasmedgeExecutor.Wasmedge.Util

/-!
WasmEdge's `SandboxContext` (`host.rs`): the way a sandboxed guest's call of a supervisor
function reaches the supervisor's dispatch thunk, and what a run of such calls through
`GuestExternals::invoke_index` does to the supervisor's heap.

`SandboxContext::invoke` makes an executor and calls the dispatch thunk, a function taken from
the supervisor's table, with the four arguments as `i32`s; it hands back the thunk's first
result as an `i64`. The thunk's call is a parameter over the supervisor's state, and so is the
supervisor's `FunctionContext`. `ThunkLeaksResult` is what `sp_sandbox`'s `dispatch_thunk`
does when its call returns: it leaks one fresh buffer and returns it packed as
`dispatchThunkResult` packs it. Through this context a run of calls ends with the supervisor's
live allocations as it found them, or in a trap (`invokeIndex_heap_balanced`).
-/

set_option autoImplicit false
set_option relaxedAutoImplicit false

namespace WasmedgeExecutor.Wasmedge.Dispatch

open WasmedgeExecutor.Wasmedge.Util (WasmValueApi Val ValType F32 F64)
open WasmedgeExecutor.Interface.Codec (RuntimeValue SandboxCodec derivedCodec)
open WasmedgeExecutor.Executor.WasmiBackend (FunctionContext SandboxContext dispatchThunkResult
  unpackResult unpackResult_dispatchThunkResult HeapContract LeaksResult invokeEach invokeIndex
  callLog deallocated argumentBuffers resultBuffers SupervisorCall deallocated_invokeIndex
  live_run_invokeIndex)

variable {W σ : Type}

/-- WasmEdge's `SandboxContext::invoke`. `newExecutor` is what `Executor::new(None, None)`
returned; `call` runs the dispatch thunk and gives its first result, `result[0]` (the thunk's
type `(i32, i32, i32, i32) -> i64` has one). -/
def invokeDispatchThunk (api : WasmValueApi W) (newExecutor : Except String Unit)
    (call : List W → EStateM String σ W) (invokeArgsPtr invokeArgsLen state : UInt32)
    (funcIdx : Nat) : EStateM String σ Int64 :=
  match newExecutor with
  | .error e => throw ("fail to create a WasmEdge Executor context: " ++ e)
  | .ok () => do
    let result ← call [api.fromI32 invokeArgsPtr.toInt32, api.fromI32 invokeArgsLen.toInt32,
      api.fromI32 state.toInt32, api.fromI32 (Int32.ofNat funcIdx)]
    pure (api.toI64 result)

/-- WasmEdge's `SandboxContext` over the host context, which is the supervisor's
`FunctionContext`. -/
def wasmedgeSandboxContext (api : WasmValueApi W) (newExecutor : Except String Unit)
    (call : List W → EStateM String σ W) (supervisorContext : FunctionContext σ) :
    SandboxContext σ where
  invoke := invokeDispatchThunk api newExecutor call
  supervisorContext := supervisorContext

/-- A dispatch thunk that, when its call returns, has left one fresh buffer allocated besides
what was live, and returns it packed by `dispatch_thunk`, as a wasm `i64` of the same bits. -/
def ThunkLeaksResult (api : WasmValueApi W) (call : List W → EStateM String σ W)
    (live : σ → Finset UInt32) : Prop :=
  ∀ args s w s', (call args).run s = .ok w s' →
    ∃ resultPtr resultLen, w = api.fromI64 (dispatchThunkResult resultPtr resultLen).toInt64 ∧
      resultPtr ∉ live s ∧ live s' = insert resultPtr (live s)

section Runs

variable {api : WasmValueApi W} {newExecutor : Except String Unit}
  {call : List W → EStateM String σ W} {invokeArgsPtr invokeArgsLen state : UInt32} {funcIdx : Nat}
  {s s' : σ}

theorem run_invokeDispatchThunk_ok {w : W}
    (returned : (call [api.fromI32 invokeArgsPtr.toInt32, api.fromI32 invokeArgsLen.toInt32,
      api.fromI32 state.toInt32, api.fromI32 (Int32.ofNat funcIdx)]).run s = .ok w s') :
    (invokeDispatchThunk api (.ok ()) call invokeArgsPtr invokeArgsLen state funcIdx).run s =
      .ok (api.toI64 w) s' := by
  simp only [invokeDispatchThunk, EStateM.run_bind, returned]
  rfl

theorem run_invokeDispatchThunk_eq_ok {v : Int64}
    (returned : (invokeDispatchThunk api newExecutor call invokeArgsPtr invokeArgsLen state
      funcIdx).run s = .ok v s') :
    newExecutor = .ok () ∧ ∃ w, (call [api.fromI32 invokeArgsPtr.toInt32,
      api.fromI32 invokeArgsLen.toInt32, api.fromI32 state.toInt32,
      api.fromI32 (Int32.ofNat funcIdx)]).run s = .ok w s' ∧ v = api.toI64 w := by
  cases newExecutor with
  | error e => cases returned
  | ok u =>
    obtain ⟨w, s₁, called, passed⟩ := Lib.Outcome.run_bind_eq_ok returned
    cases passed
    exact ⟨rfl, w, called, rfl⟩

end Runs

theorem leaksResult_wasmedgeSandboxContext {api : WasmValueApi W} (lawful : api.Lawful)
    {newExecutor : Except String Unit} {call : List W → EStateM String σ W}
    {supervisorContext : FunctionContext σ} {live : σ → Finset UInt32}
    (thunk : ThunkLeaksResult api call live) :
    LeaksResult (wasmedgeSandboxContext api newExecutor call supervisorContext).invoke live := by
  intro ptr len state funcIdx s v s' returned
  obtain ⟨-, w, called, rfl⟩ := run_invokeDispatchThunk_eq_ok returned
  obtain ⟨resultPtr, resultLen, rfl, fresh, leaked⟩ := thunk _ _ _ _ called
  exact ⟨resultPtr, resultLen, (lawful.i64 _).2, fresh, leaked⟩

/-- A guest's calls into the supervisor through WasmEdge's `SandboxContext` leave the
supervisor heap balanced. Unless a free itself failed, each call of `invoke_index` frees the
argument buffer it was handed, the result buffer the thunk's value names if the thunk
returned, and nothing else, whichever step failed; the pointer and length `invoke_index`
unpacks from the thunk's `i64` are those `dispatch_thunk` packed; and against a supervisor
that keeps a set of live allocations, any run of calls that does not trap leaves that set as
it found it. -/
theorem invokeIndex_heap_balanced :
    (∀ (codec : SandboxCodec) (api : WasmValueApi W) (newExecutor : Except String Unit)
        (call : List W → EStateM String σ W) (supervisorContext : FunctionContext σ)
        (mapping : List Nat) (state : UInt32) (index : Nat) (args : List RuntimeValue) (s : σ),
      (∀ c ∈ callLog codec (wasmedgeSandboxContext api newExecutor call supervisorContext) mapping
          state index args s, c.failedDeallocation = false) →
      deallocated (callLog codec (wasmedgeSandboxContext api newExecutor call supervisorContext)
          mapping state index args s) =
        argumentBuffers (callLog codec (wasmedgeSandboxContext api newExecutor call supervisorContext)
            mapping state index args s) ++
          resultBuffers (callLog codec (wasmedgeSandboxContext api newExecutor call supervisorContext)
            mapping state index args s)) ∧
    (∀ (api : WasmValueApi W) (call : List W → EStateM String σ W)
        (invokeArgsPtr invokeArgsLen state : UInt32) (funcIdx : Nat) (s s' : σ)
        (resultPtr resultLen : UInt32),
      api.Lawful →
      (call [api.fromI32 invokeArgsPtr.toInt32, api.fromI32 invokeArgsLen.toInt32,
          api.fromI32 state.toInt32, api.fromI32 (Int32.ofNat funcIdx)]).run s =
        .ok (api.fromI64 (dispatchThunkResult resultPtr resultLen).toInt64) s' →
      ∃ v, (invokeDispatchThunk api (.ok ()) call invokeArgsPtr invokeArgsLen state
          funcIdx).run s = .ok v s' ∧ unpackResult v = (resultPtr, resultLen)) ∧
    (∀ (codec : SandboxCodec) (api : WasmValueApi W) (newExecutor : Except String Unit)
        (call : List W → EStateM String σ W) (supervisorContext : FunctionContext σ)
        (live : σ → Finset UInt32) (mapping : List Nat) (state : UInt32)
        (calls : List (Nat × List RuntimeValue)) (s s' : σ) (values : List (Option RuntimeValue)),
      api.Lawful → HeapContract supervisorContext live → ThunkLeaksResult api call live →
      (invokeEach codec (wasmedgeSandboxContext api newExecutor call supervisorContext) mapping state
          calls).run s = .ok values s' →
      live s' = live s) := by
  refine ⟨?frees, ?unpacks, ?balanced⟩
  case frees =>
    intro codec api newExecutor call supervisorContext mapping state index args s noFailure
    exact deallocated_invokeIndex codec _ mapping state index args s noFailure
  case unpacks =>
    intro api call invokeArgsPtr invokeArgsLen state funcIdx s s' resultPtr resultLen lawful called
    refine ⟨_, run_invokeDispatchThunk_ok called, ?_⟩
    rw [(lawful.i64 _).2, unpackResult_dispatchThunkResult]
  case balanced =>
    intro codec api newExecutor call supervisorContext live mapping state calls s s' values lawful heap
      thunk returned
    exact live_run_invokeIndex heap (leaksResult_wasmedgeSandboxContext lawful thunk) calls returned

/-! ## A supervisor that bumps a pointer -/

/-- A `WasmValue` that is the `Val` it converts to; each accessor reads the variant it is
meant for. -/
def valApi : WasmValueApi Val where
  ty
    | .i32 _ => .i32
    | .i64 _ => .i64
    | .f32 _ => .f32
    | .f64 _ => .f64
    | .unsupported => .v128
  toI32
    | .i32 v => v
    | _ => 0
  toI64
    | .i64 v => v
    | _ => 0
  toF32
    | .f32 v => v
    | _ => ⟨0⟩
  toF64
    | .f64 v => v
    | _ => ⟨0⟩
  fromI32 := .i32
  fromI64 := .i64
  fromF32 := .f32
  fromF64 := .f64

theorem valApi_lawful : valApi.Lawful where
  i32 _ := ⟨rfl, rfl⟩
  i64 _ := ⟨rfl, rfl⟩
  f32 _ := ⟨rfl, rfl⟩
  f64 _ := ⟨rfl, rfl⟩

/-- A supervisor heap that hands out `next` and counts up, refusing a pointer still live. -/
structure BumpHeap where
  next : UInt32
  live : List UInt32

def BumpHeap.allocate : EStateM String BumpHeap UInt32 := fun heap =>
  if heap.next ∈ heap.live then .error "in use" heap
  else .ok heap.next ⟨heap.next + 1, heap.next :: heap.live⟩

/-- A supervisor over the bump heap whose memory reads as zeros. -/
def bumpSupervisor : FunctionContext BumpHeap where
  readMemoryInto _ _ dest := .ok dest
  writeMemory _ _ := pure ()
  allocateMemory _ := BumpHeap.allocate
  deallocateMemory ptr := modify fun heap => { heap with live := heap.live.filter (· ≠ ptr) }

/-- A dispatch thunk that leaks a two-byte buffer from the bump heap; read as zeros, the two
bytes are the encoding of `Ok(ReturnValue::Unit)`. -/
def bumpThunk (_ : List Val) : EStateM String BumpHeap Val := do
  let resultPtr ← BumpHeap.allocate
  pure (.i64 (dispatchThunkResult resultPtr 2).toInt64)

def bumpLive (heap : BumpHeap) : Finset UInt32 := heap.live.toFinset

theorem run_allocate_eq_ok {heap heap' : BumpHeap} {ptr : UInt32}
    (allocated : BumpHeap.allocate.run heap = .ok ptr heap') :
    ptr ∉ bumpLive heap ∧ bumpLive heap' = insert ptr (bumpLive heap) := by
  simp only [EStateM.run, BumpHeap.allocate] at allocated
  split at allocated
  next => cases allocated
  next notLive =>
    cases allocated
    exact ⟨by simpa [bumpLive] using notLive, List.toFinset_cons⟩

theorem bumpSupervisor_heapContract : HeapContract bumpSupervisor bumpLive where
  allocate _ _ _ _ allocated := run_allocate_eq_ok allocated
  write _ _ _ _ written := by
    cases written
    rfl
  deallocate ptr heap _ freed := by
    cases freed
    simp only [bumpLive, List.toFinset_filter, decide_eq_true_eq, Finset.filter_ne']

theorem bumpThunk_leaksResult : ThunkLeaksResult valApi bumpThunk bumpLive := by
  intro args heap w heap' called
  obtain ⟨resultPtr, heap₁, allocated, passed⟩ := Lib.Outcome.run_bind_eq_ok called
  cases passed
  exact ⟨resultPtr, 2, rfl, run_allocate_eq_ok allocated⟩

theorem invokeIndex_heap_balanced_bump :
    (∀ c ∈ callLog derivedCodec (wasmedgeSandboxContext valApi (.ok ()) bumpThunk bumpSupervisor) [0] 0 0 []
        ⟨0, []⟩, c.failedDeallocation = false) ∧
    deallocated (callLog derivedCodec (wasmedgeSandboxContext valApi (.ok ()) bumpThunk bumpSupervisor) [0] 0 0
        [] ⟨0, []⟩) =
      argumentBuffers (callLog derivedCodec (wasmedgeSandboxContext valApi (.ok ()) bumpThunk bumpSupervisor)
          [0] 0 0 [] ⟨0, []⟩) ++
        resultBuffers (callLog derivedCodec (wasmedgeSandboxContext valApi (.ok ()) bumpThunk bumpSupervisor)
          [0] 0 0 [] ⟨0, []⟩) ∧
    valApi.Lawful ∧
    (bumpThunk [valApi.fromI32 (5 : UInt32).toInt32, valApi.fromI32 (1 : UInt32).toInt32,
        valApi.fromI32 (0 : UInt32).toInt32, valApi.fromI32 (Int32.ofNat 0)]).run ⟨0, []⟩ =
      .ok (valApi.fromI64 (dispatchThunkResult 0 2).toInt64) ⟨1, [0]⟩ ∧
    (∃ v, (invokeDispatchThunk valApi (.ok ()) bumpThunk 5 1 0 0).run ⟨0, []⟩ = .ok v ⟨1, [0]⟩ ∧
      unpackResult v = (0, 2)) ∧
    HeapContract bumpSupervisor bumpLive ∧ ThunkLeaksResult valApi bumpThunk bumpLive ∧
    (invokeEach derivedCodec (wasmedgeSandboxContext valApi (.ok ()) bumpThunk bumpSupervisor) [0] 0
        [(0, []), (0, [])]).run ⟨0, []⟩ = .ok [none, none] ⟨4, []⟩ ∧
    bumpLive ⟨4, []⟩ = bumpLive ⟨0, []⟩ := by
  obtain ⟨frees, unpacks, balanced⟩ := @invokeIndex_heap_balanced Val BumpHeap
  have noFailure : ∀ c ∈ callLog derivedCodec (wasmedgeSandboxContext valApi (.ok ()) bumpThunk bumpSupervisor)
      [0] 0 0 [] ⟨0, []⟩, c.failedDeallocation = false := by decide
  have called : (bumpThunk [valApi.fromI32 (5 : UInt32).toInt32, valApi.fromI32 (1 : UInt32).toInt32,
      valApi.fromI32 (0 : UInt32).toInt32, valApi.fromI32 (Int32.ofNat 0)]).run ⟨0, []⟩ =
      .ok (valApi.fromI64 (dispatchThunkResult 0 2).toInt64) ⟨1, [0]⟩ := rfl
  have ran : (invokeEach derivedCodec (wasmedgeSandboxContext valApi (.ok ()) bumpThunk bumpSupervisor) [0] 0
      [(0, []), (0, [])]).run ⟨0, []⟩ = .ok [none, none] ⟨4, []⟩ := rfl
  exact ⟨noFailure, frees _ _ _ _ _ _ _ _ _ _ noFailure, valApi_lawful, called,
    unpacks _ _ _ _ _ _ _ _ _ _ valApi_lawful called, bumpSupervisor_heapContract,
    bumpThunk_leaksResult, ran,
    balanced _ _ _ _ _ _ _ _ _ _ _ _ valApi_lawful bumpSupervisor_heapContract bumpThunk_leaksResult
      ran⟩

end WasmedgeExecutor.Wasmedge.Dispatch
