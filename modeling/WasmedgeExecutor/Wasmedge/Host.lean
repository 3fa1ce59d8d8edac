import WasmedgeExecutor.Executor.Sandbox
import WasmedgeExecutor.Executor.WasmiBackend
import WasmedgeExecutor.Wasmedge.MemorySlice

/-!
The sandbox host functions of the WasmEdge backend (`host.rs`, `impl Sandbox for HostContext`):
`memory_get` and `memory_set`, which copy between the supervisor's linear memory and a
sandboxed memory, and `invoke`, which runs an export of a sandboxed instance and writes its
SCALE-encoded return value back into the supervisor.

A `HostContext` is here the supervisor's WasmEdge memory, seen through `MemoryApi` as in
`MemorySlice`, and the sandbox store, whose memories are wasmi memories. The execution of the
sandboxed export is a parameter: it runs with a `SandboxContext` over this very host context
and may change any of it. Each function returns its `Result` and the context after it, or
`none` where it panics.

On a supervisor memory of 1 to 65535 pages each function does exactly what it promises: a
transfer fails with `Err` exactly on a memory id that is not live, and otherwise either
copies the whole window, when both windows lie in their memories, or nothing
(`memoryGet_eq`, `memorySet_eq`, `invoke_returned`). At 65536 pages the slices are empty and at
0 pages they panic, as for every host access of this backend.
-/

set_option autoImplicit false
set_option relaxedAutoImplicit false

namespace WasmedgeExecutor.Wasmedge.Host

open WasmedgeExecutor.Lib.ByteMemory (Bytes)
open WasmedgeExecutor.Lib.ByteMemory.Bytes (copy)
open WasmedgeExecutor.Executor.Sandbox (Store)
open WasmedgeExecutor.Executor.WasmiBackend (MemoryWrapper)
open WasmedgeExecutor.Wasmedge.MemorySlice (MemoryApi memorySlice readMemory writeMemoryFromSlice
  hostWriteMemory otherToString memorySlice_eq readMemory_eq writeMemoryFromSlice_eq hostWriteMemory_eq)
open WasmedgeExecutor.Wasmedge.Util (Value)
open WasmedgeExecutor.Interface.Codec (ReturnValue SandboxCodec derivedCodec
  derivedCodec_fitsEncodedMaxSize)

/-- `sandbox_env::ERR_OK`. -/
def errOk : UInt32 := 0

/-- `sandbox_env::ERR_OUT_OF_BOUNDS`, `-2i32 as u32`. -/
def errOutOfBounds : UInt32 := 0xFFFFFFFE

/-- `sandbox_env::ERR_EXECUTION`, `-3i32 as u32`. -/
def errExecution : UInt32 := 0xFFFFFFFD

/-- What the sandbox host functions use of a `HostContext`: the supervisor's memory and the
sandbox store of its `HostState`. -/
structure HostContext (Mem I DT : Type) where
  memory : Mem
  sandboxStore : Store I DT MemoryWrapper

variable {Mem I DT : Type}

/-- All the bytes of the supervisor's memory, its pages of 64 KiB each. -/
def linearMemory (api : MemoryApi Mem) (memory : Mem) : Bytes :=
  ⟨(api.size memory).toNat * 65536, api.data memory⟩

/-- The store after a write through the clone of memory `memoryIdx` that `Store::memory`
handed out: the clone shares the memory, so the slot holds what was written. -/
def writeBack (store : Store I DT MemoryWrapper) (memoryIdx : UInt32) (memory : MemoryWrapper) :
    Store I DT MemoryWrapper :=
  { store with memories := store.memories.set memoryIdx.toNat (some memory) }

section HostFunctions

variable (api : MemoryApi Mem)

/-- `Sandbox::memory_get`: `buf_len` bytes of the sandboxed memory from `offset`, into the
supervisor's memory at `buf_ptr`. -/
def memoryGet (ctx : HostContext Mem I DT) (memoryId offset bufPtr bufLen : UInt32) :
    Option (Except String UInt32 × HostContext Mem I DT) :=
  match ctx.sandboxStore.memory memoryId with
  | .error e => some (.error (otherToString e), ctx)
  | .ok sandboxedMemory =>
    match sandboxedMemory.read offset bufLen.toNat with
    | .error _ => some (.ok errOutOfBounds, ctx)
    | .ok buffer =>
      match writeMemoryFromSlice api ctx.memory bufPtr buffer with
      | none => none
      | some (.error _) => some (.ok errOutOfBounds, ctx)
      | some (.ok memory) => some (.ok errOk, { ctx with memory })

/-- `Sandbox::memory_set`: `val_len` bytes of the supervisor's memory from `val_ptr`, into the
sandboxed memory at `offset`. -/
def memorySet (ctx : HostContext Mem I DT) (memoryId offset valPtr valLen : UInt32) :
    Option (Except String UInt32 × HostContext Mem I DT) :=
  match ctx.sandboxStore.memory memoryId with
  | .error e => some (.error (otherToString e), ctx)
  | .ok sandboxedMemory =>
    -- `util::memory_slice` panics where `data_pointer(0, 1)` fails
    match memorySlice api ctx.memory with
    | none => none
    | some slice =>
      match readMemory slice valPtr valLen.toNat with
      | .error _ => some (.ok errOutOfBounds, ctx)
      | .ok buffer =>
        match sandboxedMemory.writeFrom offset buffer with
        | .error _ => some (.ok errOutOfBounds, ctx)
        | .ok written =>
          some (.ok errOk, { ctx with sandboxStore := writeBack ctx.sandboxStore memoryId written })

/-- `Sandbox::invoke`, over `execute`, the run of `SandboxInstance::invoke` with a
`SandboxContext` over this host context and the instance's dispatch thunk. -/
def invoke (codec : SandboxCodec)
    (execute : I → String → List Value → UInt32 → DT → HostContext Mem I DT →
      Except String (Option Value) × HostContext Mem I DT)
    (ctx : HostContext Mem I DT) (instanceId : UInt32) (exportName : String) (args : List UInt8)
    (returnVal returnValLen state : UInt32) : Option (Except String UInt32 × HostContext Mem I DT) :=
  match codec.decodeValues args with
  | none => some (.error "Can't decode serialized arguments for the invocation", ctx)
  | some (args, _) =>
    match ctx.sandboxStore.getInstance instanceId with
    | .error e => some (.error (otherToString e), ctx)
    | .ok sandboxInstance =>
      match ctx.sandboxStore.dispatchThunk instanceId with
      | .error e => some (.error (otherToString e), ctx)
      | .ok dispatchThunk =>
        match execute sandboxInstance exportName args state dispatchThunk ctx with
        | (.ok none, ctx) => some (.ok errOk, ctx)
        | (.ok (some val), ctx) =>
          let encoded := codec.encodeReturnValue (.value val)
          if returnValLen.toNat < encoded.length then some (.error "Return value buffer is too small", ctx)
          else
            match hostWriteMemory api ctx.memory returnVal encoded with
            | none => none
            | some (.error _) => some (.error "can't write return value", ctx)
            | some (.ok memory) => some (.ok errOk, { ctx with memory })
        | (.error _, ctx) => some (.ok errExecution, ctx)

end HostFunctions

/-! ## The host functions on a wasm32 memory -/

section Exact

variable {api : MemoryApi Mem} (lawful : api.Lawful) {ctx : HostContext Mem I DT}
  (pos : 0 < (api.size ctx.memory).toNat) (below : (api.size ctx.memory).toNat < 65536)
include lawful pos below

theorem memoryGet_eq (memoryId offset bufPtr bufLen : UInt32) :
    memoryGet api ctx memoryId offset bufPtr bufLen =
      some (match ctx.sandboxStore.memory memoryId with
        | .error e => (.error (otherToString e), ctx)
        | .ok sandboxed =>
          match copy sandboxed.bytes offset.toNat (linearMemory api ctx.memory) bufPtr.toNat bufLen.toNat with
          | some written => (.ok errOk, { ctx with memory := api.withData ctx.memory written.byte })
          | none => (.ok errOutOfBounds, ctx)) := by
  cases found : ctx.sandboxStore.memory memoryId with
  | error e => simp only [memoryGet, found]
  | ok sandboxed =>
    have small : bufLen.toNat < 2 ^ 32 := bufLen.toNat_lt
    simp only [memoryGet, found, MemoryWrapper.read_eq sandboxed offset small, copy, linearMemory]
    by_cases inSandbox : offset.toNat + bufLen.toNat ≤ sandboxed.bytes.len
    · have length : (sandboxed.bytes.read offset.toNat bufLen.toNat).length < 2 ^ 32 := by simpa using small
      simp only [if_pos inSandbox, writeMemoryFromSlice_eq lawful pos below bufPtr _ length, Bytes.length_read]
      by_cases inSupervisor : bufPtr.toNat + bufLen.toNat ≤ (api.size ctx.memory).toNat * 65536
      · simp [inSandbox, inSupervisor]
      · simp [inSandbox, inSupervisor]
    · simp [inSandbox]

theorem memorySet_eq (memoryId offset valPtr valLen : UInt32) :
    memorySet api ctx memoryId offset valPtr valLen =
      some (match ctx.sandboxStore.memory memoryId with
        | .error e => (.error (otherToString e), ctx)
        | .ok sandboxed =>
          match copy (linearMemory api ctx.memory) valPtr.toNat sandboxed.bytes offset.toNat valLen.toNat with
          | some written =>
            (.ok errOk, { ctx with sandboxStore := writeBack ctx.sandboxStore memoryId ⟨written⟩ })
          | none => (.ok errOutOfBounds, ctx)) := by
  cases found : ctx.sandboxStore.memory memoryId with
  | error e => simp only [memorySet, found]
  | ok sandboxed =>
    have small : valLen.toNat < 2 ^ 32 := valLen.toNat_lt
    simp only [memorySet, found, memorySlice_eq lawful pos below, readMemory_eq _ valPtr small, copy,
      linearMemory]
    by_cases inSupervisor : valPtr.toNat + valLen.toNat ≤ (api.size ctx.memory).toNat * 65536
    · have length : (Bytes.read ⟨(api.size ctx.memory).toNat * 65536, api.data ctx.memory⟩ valPtr.toNat
          valLen.toNat).length < 2 ^ 32 := by simpa using small
      simp only [if_pos inSupervisor, MemoryWrapper.writeFrom_eq sandboxed offset length, Bytes.length_read]
      by_cases inSandbox : offset.toNat + valLen.toNat ≤ sandboxed.bytes.len
      · simp [inSandbox, inSupervisor]
      · simp [inSandbox, inSupervisor]
    · simp [inSupervisor]

end Exact

theorem invoke_returned {api : MemoryApi Mem} (lawful : api.Lawful) {codec : SandboxCodec}
    (fits : codec.FitsEncodedMaxSize)
    {execute : I → String → List Value → UInt32 → DT → HostContext Mem I DT →
      Except String (Option Value) × HostContext Mem I DT}
    {ctx ctx' : HostContext Mem I DT} {instanceId : UInt32} {exportName : String} {args : List UInt8}
    {values : List Value} {rest : List UInt8} {sandboxInstance : I} {dispatchThunk : DT} {val : Value}
    (decoded : codec.decodeValues args = some (values, rest))
    (found : ctx.sandboxStore.getInstance instanceId = .ok sandboxInstance)
    (thunk : ctx.sandboxStore.dispatchThunk instanceId = .ok dispatchThunk) {state : UInt32}
    (returned : execute sandboxInstance exportName values state dispatchThunk ctx = (.ok (some val), ctx'))
    (pos : 0 < (api.size ctx'.memory).toNat) (below : (api.size ctx'.memory).toNat < 65536)
    (returnVal returnValLen : UInt32) :
    invoke api codec execute ctx instanceId exportName args returnVal returnValLen state =
      some (if returnValLen.toNat < (codec.encodeReturnValue (.value val)).length then
          (.error "Return value buffer is too small", ctx')
        else if returnVal.toNat + (codec.encodeReturnValue (.value val)).length ≤ (api.size ctx'.memory).toNat * 65536 then
          (.ok errOk, { ctx' with
            memory := api.withData ctx'.memory
              ((linearMemory api ctx'.memory).write returnVal.toNat (codec.encodeReturnValue (.value val))).byte })
        else (.error "can't write return value", ctx')) := by
  have short : (codec.encodeReturnValue (.value val)).length < 2 ^ 32 := by
    have := fits (.value val)
    simp only [ReturnValue.encodedMaxSize] at this
    omega
  simp only [invoke, decoded, found, thunk, returned]
  by_cases small : returnValLen.toNat < (codec.encodeReturnValue (.value val)).length
  · simp only [if_pos small]
  · simp only [if_neg small, hostWriteMemory_eq lawful pos below returnVal _ short, linearMemory]
    by_cases inside : returnVal.toNat + (codec.encodeReturnValue (.value val)).length ≤ (api.size ctx'.memory).toNat * 65536
    · simp [inside]
    · simp [inside]

/-- The sandbox memory transfers and the write of a return value are all-or-nothing, on every
supervisor memory of 1 to 65535 pages: `memory_get` and `memory_set` fail exactly on a
memory id that is not live, and otherwise copy the whole window when both windows lie in their
memories and nothing at all when one does not; `invoke` writes a returned value exactly when
its encoding fits both the buffer and the memory, and otherwise fails with the memory as the
execution left it. -/
theorem sandbox_transfers_all_or_nothing {api : MemoryApi Mem} (lawful : api.Lawful) :
    (∀ (ctx : HostContext Mem I DT), 0 < (api.size ctx.memory).toNat → (api.size ctx.memory).toNat < 65536 →
      ∀ memoryId offset bufPtr bufLen,
        ((∀ m, ctx.sandboxStore.memories[memoryId.toNat]? ≠ some (some m)) →
          ∃ e, memoryGet api ctx memoryId offset bufPtr bufLen = some (.error e, ctx)) ∧
        ∀ m, ctx.sandboxStore.memories[memoryId.toNat]? = some (some m) →
          memoryGet api ctx memoryId offset bufPtr bufLen =
            some (match copy m.bytes offset.toNat (linearMemory api ctx.memory) bufPtr.toNat bufLen.toNat with
              | some written => (.ok errOk, { ctx with memory := api.withData ctx.memory written.byte })
              | none => (.ok errOutOfBounds, ctx))) ∧
    (∀ (ctx : HostContext Mem I DT), 0 < (api.size ctx.memory).toNat → (api.size ctx.memory).toNat < 65536 →
      ∀ memoryId offset valPtr valLen,
        ((∀ m, ctx.sandboxStore.memories[memoryId.toNat]? ≠ some (some m)) →
          ∃ e, memorySet api ctx memoryId offset valPtr valLen = some (.error e, ctx)) ∧
        ∀ m, ctx.sandboxStore.memories[memoryId.toNat]? = some (some m) →
          memorySet api ctx memoryId offset valPtr valLen =
            some (match copy (linearMemory api ctx.memory) valPtr.toNat m.bytes offset.toNat valLen.toNat with
              | some written =>
                (.ok errOk, { ctx with sandboxStore := writeBack ctx.sandboxStore memoryId ⟨written⟩ })
              | none => (.ok errOutOfBounds, ctx))) ∧
    (∀ (codec : SandboxCodec), codec.FitsEncodedMaxSize →
      ∀ (execute : I → String → List Value → UInt32 → DT → HostContext Mem I DT →
        Except String (Option Value) × HostContext Mem I DT) (ctx ctx' : HostContext Mem I DT)
        instanceId exportName args values rest sandboxInstance dispatchThunk state val,
      codec.decodeValues args = some (values, rest) → ctx.sandboxStore.getInstance instanceId = .ok sandboxInstance →
      ctx.sandboxStore.dispatchThunk instanceId = .ok dispatchThunk →
      execute sandboxInstance exportName values state dispatchThunk ctx = (.ok (some val), ctx') →
      0 < (api.size ctx'.memory).toNat → (api.size ctx'.memory).toNat < 65536 →
      ∀ returnVal returnValLen, ∃ e,
        invoke api codec execute ctx instanceId exportName args returnVal returnValLen state =
          some (if (codec.encodeReturnValue (.value val)).length ≤ returnValLen.toNat ∧
              returnVal.toNat + (codec.encodeReturnValue (.value val)).length ≤ (api.size ctx'.memory).toNat * 65536 then
            (.ok errOk, { ctx' with
              memory := api.withData ctx'.memory
                ((linearMemory api ctx'.memory).write returnVal.toNat (codec.encodeReturnValue (.value val))).byte })
          else (.error e, ctx'))) := by
  refine ⟨fun ctx pos below memoryId offset bufPtr bufLen => ⟨fun notLive => ?_, fun m live => ?_⟩,
    fun ctx pos below memoryId offset valPtr valLen => ⟨fun notLive => ?_, fun m live => ?_⟩,
    fun codec fits execute ctx ctx' instanceId exportName args values rest sandboxInstance dispatchThunk
      state val decoded found thunk returned pos below returnVal returnValLen => ?_⟩
  · obtain ⟨message, failed⟩ := Store.memory_of_not_live notLive
    exact ⟨_, by rw [memoryGet_eq lawful pos below, failed]⟩
  · rw [memoryGet_eq lawful pos below, Store.memory_of_live live]
  · obtain ⟨message, failed⟩ := Store.memory_of_not_live notLive
    exact ⟨_, by rw [memorySet_eq lawful pos below, failed]⟩
  · rw [memorySet_eq lawful pos below, Store.memory_of_live live]
  · rw [invoke_returned lawful fits decoded found thunk returned pos below]
    by_cases small : returnValLen.toNat < (codec.encodeReturnValue (.value val)).length
    · exact ⟨"Return value buffer is too small", by simp [small]⟩
    · exact ⟨"can't write return value", by simp [small, Nat.le_of_not_lt small]⟩

/-! ## A memory of one page, and the two ends -/

open WasmedgeExecutor.Wasmedge.MemorySlice (PagedMemory pagedApi pagedApi_lawful)

/-- A supervisor of one page whose store holds one memory of four bytes and one instance whose
export returns `5`. -/
def onePageContext : HostContext PagedMemory Unit Unit :=
  ⟨⟨1, fun _ => 0⟩, ⟨[some ((), ())], [some ⟨⟨4, fun _ => 7⟩⟩]⟩⟩

def returnsFive : Unit → String → List Value → UInt32 → Unit → HostContext PagedMemory Unit Unit →
    Except String (Option Value) × HostContext PagedMemory Unit Unit :=
  fun _ _ _ _ _ ctx => (.ok (some (.i32 5)), ctx)

example :
    pagedApi.Lawful ∧ 0 < (pagedApi.size onePageContext.memory).toNat ∧
      (pagedApi.size onePageContext.memory).toNat < 65536 ∧
      onePageContext.sandboxStore.memories[(0 : UInt32).toNat]? = some (some ⟨⟨4, fun _ => 7⟩⟩) ∧
      memoryGet pagedApi onePageContext 0 0 16 4 =
        some (match copy ⟨4, fun _ => 7⟩ 0 (linearMemory pagedApi onePageContext.memory) 16 4 with
          | some written =>
            (.ok errOk, { onePageContext with memory := pagedApi.withData onePageContext.memory written.byte })
          | none => (.ok errOutOfBounds, onePageContext)) ∧
      memorySet pagedApi onePageContext 0 2 16 4 =
        some (match copy (linearMemory pagedApi onePageContext.memory) 16 ⟨4, fun _ => 7⟩ 2 4 with
          | some written =>
            (.ok errOk, { onePageContext with sandboxStore := writeBack onePageContext.sandboxStore 0 ⟨written⟩ })
          | none => (.ok errOutOfBounds, onePageContext)) ∧
      derivedCodec.FitsEncodedMaxSize ∧ derivedCodec.decodeValues [0] = some ([], []) ∧ onePageContext.sandboxStore.getInstance 0 = .ok () ∧
      onePageContext.sandboxStore.dispatchThunk 0 = .ok () ∧
      returnsFive () "run" [] 0 () onePageContext = (.ok (some (.i32 5)), onePageContext) ∧
      ∃ e, invoke pagedApi derivedCodec returnsFive onePageContext 0 "run" [0] 32 10 0 =
        some (if (derivedCodec.encodeReturnValue (.value (.i32 5))).length ≤ (10 : UInt32).toNat ∧
            (32 : UInt32).toNat + (derivedCodec.encodeReturnValue (.value (.i32 5))).length ≤
              (pagedApi.size onePageContext.memory).toNat * 65536 then
          (.ok errOk, { onePageContext with
            memory := pagedApi.withData onePageContext.memory
              ((linearMemory pagedApi onePageContext.memory).write (32 : UInt32).toNat
                (derivedCodec.encodeReturnValue (.value (.i32 5)))).byte })
        else (.error e, onePageContext)) := by
  have transfers := @sandbox_transfers_all_or_nothing PagedMemory Unit Unit pagedApi pagedApi_lawful
  have pos : 0 < (pagedApi.size onePageContext.memory).toNat := by decide
  have below : (pagedApi.size onePageContext.memory).toNat < 65536 := by decide
  exact ⟨pagedApi_lawful, pos, below, rfl, (transfers.1 onePageContext pos below 0 0 16 4).2 _ rfl,
    (transfers.2.1 onePageContext pos below 0 2 16 4).2 _ rfl, derivedCodec_fitsEncodedMaxSize, rfl, rfl, rfl,
    rfl, transfers.2.2 derivedCodec derivedCodec_fitsEncodedMaxSize returnsFive onePageContext onePageContext 0 "run" [0] [] [] () () 0 (.i32 5) rfl rfl rfl
      rfl pos below 32 10⟩

/-- At the wasm32 maximum of 65536 pages `memory_get` reports an in-bounds copy of one byte as
out of bounds: the slice it writes through is empty. At 0 pages it panics, even on an empty
copy. -/
theorem memoryGet_full_memory_out_of_bounds :
    let full : HostContext PagedMemory Unit Unit := ⟨⟨65536, fun _ => 0⟩, ⟨[], [some ⟨⟨1, fun _ => 7⟩⟩]⟩⟩
    memoryGet pagedApi full 0 0 0 1 = some (.ok errOutOfBounds, full) ∧
      0 + 1 ≤ 1 ∧ 0 + 1 ≤ (pagedApi.size full.memory).toNat * 65536 ∧
      memoryGet pagedApi ⟨⟨0, fun _ => 0⟩, full.sandboxStore⟩ 0 0 0 0 = none :=
  ⟨rfl, by decide, by decide, rfl⟩

end WasmedgeExecutor.Wasmedge.Host
