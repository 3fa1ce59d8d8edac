import WasmedgeExecutor.Wasmedge.HostAllocator
import WasmedgeExecutor.Wasmedge.Runtime
import Mathlib

/-!
One call into the module (`perform_call` of `runtime.rs`, `InstanceWrapper::call`). The input is
allocated and written into the linear memory (`inject_input_data`); the entry point runs with a
fresh `HostState` around the allocator; the statistics of the allocator are kept whatever the
run came to; and the output is read where the returned `u64` points (`unpack_ptr_and_len`,
`extract_output_data`).

`InstanceWrapper::call` resolves the entry point of an `InvokeMethod`, an export or an entry
of `__indirect_function_table`, and checks its signature before it runs it. A trap becomes
`AbortedDueToPanic` with the message the code registered, if it registered one, and
`AbortedDueToTrap` otherwise. What WasmEdge runs is a parameter, `Code`. A panic is `none`.
-/

set_option autoImplicit false
set_option relaxedAutoImplicit false

namespace WasmedgeExecutor.Wasmedge.PerformCall

open WasmedgeExecutor.Lib.FirstBinding (firstOf)
open WasmedgeExecutor.Wasmedge.Util (ValType WasmValueApi)
open WasmedgeExecutor.Wasmedge.MemorySlice (MemoryApi writeMemoryFrom extractOutputData
  writeMemoryFrom_of_le)
open WasmedgeExecutor.Wasmedge.Runtime (InstanceWrapper)
open WasmedgeExecutor.Wasmedge.HostAllocator (errorToString heapSlice)
open WasmedgeExecutor.Allocator.Layout (HeapSlice)
open WasmedgeExecutor.Allocator.FreeingBump (FreeingBumpHeapAllocator AllocationStats Call)
open WasmedgeExecutor.Allocator.FreeingBump.FreeingBumpHeapAllocator (allocate)
open WasmedgeExecutor.Allocator.Spec
open WasmedgeExecutor.Allocator.Refinement (Represents SameBodies represents_allocate
  bodies_allocate toNat_toUInt32_of_lt)

/-! ## A pointer and a length in one `u64` -/

/-- `pack_ptr_and_len`. -/
def packPtrAndLen (ptr len : UInt32) : UInt64 := (len.toUInt64 <<< 32) ||| ptr.toUInt64

/-- `unpack_ptr_and_len`: the pointer in the low 32 bits, the length in the high ones. -/
def unpackPtrAndLen (val : UInt64) : UInt32 × UInt32 :=
  ((val &&& (~~~(0 : UInt32)).toUInt64).toUInt32, (val >>> 32).toUInt32)

/-- `MessageWithBacktrace`. -/
structure MessageWithBacktrace where
  message : String
  backtrace : Option String
  deriving DecidableEq, Repr

/-- `Display` of `MessageWithBacktrace`. -/
def MessageWithBacktrace.toString (m : MessageWithBacktrace) : String :=
  match m.backtrace with
  | none => m.message
  | some backtrace => m.message ++ "\nWASM backtrace:\n" ++ backtrace

/-- The variants of `sc_executor_common::error::Error` a call can end in;
`runtimeConstruction` is a `WasmError::Other` passed up by `?`. -/
inductive Error
  | other (msg : String)
  | allocator (e : Allocator.Layout.Error)
  | noTable
  | noTableEntryWithIndex (index : UInt32)
  | functionRefIsNull (index : UInt32)
  | runtimeConstruction (msg : String)
  | abortedDueToPanic (m : MessageWithBacktrace)
  | abortedDueToTrap (m : MessageWithBacktrace)
  deriving DecidableEq, Repr

/-- `Display` of `Error`: `Allocator` and `RuntimeConstruction` show their inner error. -/
def Error.toString : Error → String
  | .other msg => "Other: " ++ msg
  | .allocator e => errorToString e
  | .noTable => "No table exported by wasm blob"
  | .noTableEntryWithIndex index => s!"No table entry with index {index} in wasm blob exported table"
  | .functionRefIsNull index => s!"Table entry with index {index} in wasm blob is null"
  | .runtimeConstruction msg => msg
  | .abortedDueToPanic m => "Execution aborted due to panic: " ++ m.toString
  | .abortedDueToTrap m => "Execution aborted due to trap: " ++ m.toString

/-! ## The host state of a call -/

/-- `HostState`, without the sandbox store, which no modelled step reads. -/
structure HostState where
  allocator : FreeingBumpHeapAllocator
  panicMessage : Option String

/-- `HostState::new`. -/
def HostState.new (allocator : FreeingBumpHeapAllocator) : HostState := ⟨allocator, none⟩

/-- `take_panic_message`. -/
def HostState.takePanicMessage (hostState : HostState) : Option String × HostState :=
  (hostState.panicMessage, { hostState with panicMessage := none })

/-- `allocation_stats`. -/
def HostState.allocationStats (hostState : HostState) : AllocationStats := hostState.allocator.stats

/-! ## Entry points -/

/-- `InvokeMethod`; `exported` is `InvokeMethod::Export`. -/
inductive InvokeMethod
  | exported (method : String)
  | table (func : UInt32)
  | tableWithWrapper (dispatcherRef func : UInt32)
  deriving DecidableEq, Repr

/-- `wasmedge_sdk::FuncType`: `args()` and `returns()`. -/
structure FuncType where
  args : Option (List ValType)
  returns : Option (List ValType)
  deriving DecidableEq, Repr

/-- What `InstanceWrapper::call` uses of WasmEdge and of the instance: the exported functions,
the exported tables with an entry `FuncRef(Some f)` as `some f` and any other value as `none`,
the type of a function (`ty()`, with the text of its error), and a run of a function on
arguments: its results or the text of its trap, with the host state and the instance as the
run leaves them, or `none` where the run panics. -/
structure Code (Mem F W : Type) where
  funcs : List (String × F)
  tables : List (String × List (Option F))
  ty : F → Except String FuncType
  call : F → List W → HostState → InstanceWrapper Mem →
    Option (Except String (List W) × HostState × InstanceWrapper Mem)

section Call

variable {Mem F W : Type}

/-- The check of `check_signature1` to `check_signature3`: the parameters are `params` and the
result is one `i64`, where `args()` and `returns()` of `None` read as empty. -/
def checkSignature (ty : F → Except String FuncType) (params : List ValType) (func : F) :
    Except Error Unit :=
  match ty func with
  | .error error => .error (.runtimeConstruction ("fail to get the function type: " ++ error))
  | .ok funcType =>
    if funcType.args.getD [] ≠ params ∨ funcType.returns.getD [] ≠ [.i64] then
      .error (.other "Invalid signature for direct entry point")
    else .ok ()

/-- `check_signature1`, for an exported entry point. -/
def checkSignature1 (ty : F → Except String FuncType) (func : F) : Except Error Unit :=
  checkSignature ty [.i32, .i32] func

/-- `check_signature2`, for an entry point in the table. -/
def checkSignature2 (ty : F → Except String FuncType) (func : F) : Except Error Unit :=
  checkSignature ty [.i32, .i32] func

/-- `check_signature3`, for a dispatcher in the table. -/
def checkSignature3 (ty : F → Except String FuncType) (func : F) : Except Error Unit :=
  checkSignature ty [.i32, .i32, .i32] func

/-- `table.get(index)` and the match on `Val::FuncRef(Some(_))`. -/
def tableEntry (table : List (Option F)) (index : UInt32) : Except Error F :=
  match table[index.toNat]? with
  | none => .error (.noTableEntryWithIndex index)
  | some none => .error (.functionRefIsNull index)
  | some (some func) => .ok func

/-- The table the entry points of `Table` and `TableWithWrapper` are looked up in. -/
def indirectFunctionTable : String := "__indirect_function_table"

/-- The function `call` runs for `method`, and its arguments: the data pointer and length as
`i32`, after `func` for `TableWithWrapper`. -/
def entryPoint (api : WasmValueApi W) (code : Code Mem F W) (method : InvokeMethod)
    (dataPtr dataLen : UInt32) : Except Error (F × List W) :=
  let ptrArg := api.fromI32 dataPtr.toInt32
  let lenArg := api.fromI32 dataLen.toInt32
  match method with
  | .exported method =>
    match firstOf code.funcs method with
    | none => .error (.runtimeConstruction "function is not found")
    | some func => (checkSignature1 code.ty func).map fun _ => (func, [ptrArg, lenArg])
  | .table func =>
    match firstOf code.tables indirectFunctionTable with
    | none => .error .noTable
    | some table => do
      let funcRef ← tableEntry table func
      checkSignature2 code.ty funcRef
      pure (funcRef, [ptrArg, lenArg])
  | .tableWithWrapper dispatcherRef func =>
    match firstOf code.tables indirectFunctionTable with
    | none => .error .noTable
    | some table => do
      let funcRef ← tableEntry table dispatcherRef
      checkSignature3 code.ty funcRef
      pure (funcRef, [api.fromI32 func.toInt32, ptrArg, lenArg])

/-- What is left of `text` after the first `pattern` in it: `find`, then
`replace_range(0..index + pattern.len(), "")`. -/
def afterFirst (pattern text : List Char) : Option (List Char) :=
  if pattern.isPrefixOf text then some (text.drop pattern.length)
  else
    match text with
    | [] => none
    | _ :: rest => afterFirst pattern rest

/-- The backtrace `call` keeps of the text of a trap: what follows `"\nwasm backtrace:"` in it,
or all of it. -/
def backtraceOf (trap : String) : String :=
  match afterFirst "\nwasm backtrace:".toList trap.toList with
  | some rest => String.ofList rest
  | none => trap

/-- The error the `map_err` of `call` makes of a trap, given what `take_panic_message` took. -/
def trapError (trap : String) : Option String → Error
  | some message => .abortedDueToPanic ⟨message, some (backtraceOf trap)⟩
  | none => .abortedDueToTrap ⟨trap, some (backtraceOf trap)⟩

/-- `InstanceWrapper::call`, on the host state `set_host_state` put in the instance. -/
def call (api : WasmValueApi W) (code : Code Mem F W) (w : InstanceWrapper Mem)
    (hostState : HostState) (method : InvokeMethod) (dataPtr dataLen : UInt32) :
    Option (Except Error UInt64 × HostState × InstanceWrapper Mem) :=
  match entryPoint api code method dataPtr dataLen with
  | .error e => some (.error e, hostState, w)
  | .ok (func, args) =>
    match code.call func args hostState w with
    | none => none
    | some (.error trap, hostState', w') =>
      some (.error (trapError trap hostState'.takePanicMessage.1), hostState'.takePanicMessage.2, w')
    -- `res[0]` panics on a run without results
    | some (.ok results, hostState', w') =>
      results.head?.map fun result => (.ok (api.toI64 result).toUInt64, hostState', w')

variable (memoryApi : MemoryApi Mem)

/-- `inject_input_data`: the input allocated and written through `memory_slice_mut`, with its
pointer and its length as `u32`, and the allocator and the instance as it leaves them. -/
def injectInputData (w : InstanceWrapper Mem) (allocator : FreeingBumpHeapAllocator)
    (data : List UInt8) :
    Option (Except Error (UInt32 × UInt32) × FreeingBumpHeapAllocator × InstanceWrapper Mem) :=
  let dataLen := data.length.toUInt32
  (heapSlice memoryApi w.memory).bind fun slice =>
    match (allocate dataLen : Call HeapSlice UInt32).run (allocator, slice) with
    | .error (.panic _) _ => none
    | .error (.err e) (allocator', slice') =>
      some (.error (.allocator e), allocator',
        { w with memory := memoryApi.withData w.memory slice'.bytes.byte })
    | .ok dataPtr (allocator', slice') =>
      match writeMemoryFrom slice'.bytes dataPtr data with
      | .error msg =>
        some (.error (.other msg), allocator',
          { w with memory := memoryApi.withData w.memory slice'.bytes.byte })
      | .ok bytes =>
        some (.ok (dataPtr, dataLen), allocator', { w with memory := memoryApi.withData w.memory bytes.byte })

/-- `perform_call`: the output or the error, and what `allocation_stats` is set to, with the
instance as the call leaves it. -/
def performCall (api : WasmValueApi W) (code : Code Mem F W) (data : List UInt8)
    (w : InstanceWrapper Mem) (method : InvokeMethod) (allocator : FreeingBumpHeapAllocator) :
    Option ((Except Error (List UInt8) × Option AllocationStats) × InstanceWrapper Mem) :=
  match injectInputData memoryApi w allocator data with
  | none => none
  -- `?` returns before `allocation_stats` is set
  | some (.error e, _, w') => some ((.error e, none), w')
  | some (.ok (dataPtr, dataLen), allocator', w') =>
    match call api code w' (HostState.new allocator') method dataPtr dataLen with
    | none => none
    | some (.error e, hostState, w'') => some ((.error e, some hostState.allocationStats), w'')
    | some (.ok packed, hostState, w'') =>
      match extractOutputData memoryApi w''.memory (unpackPtrAndLen packed).1 (unpackPtrAndLen packed).2 with
      | none => none
      | some (.error msg) => some ((.error (.other msg), some hostState.allocationStats), w'')
      | some (.ok output) => some ((.ok output, some hostState.allocationStats), w'')

end Call

/-! ## What a call ends in -/

section Outcomes

variable {Mem F W : Type} {api : WasmValueApi W} {code : Code Mem F W} {w w' : InstanceWrapper Mem}
  {hostState hostState' : HostState} {method : InvokeMethod} {dataPtr dataLen : UInt32}

theorem call_of_error {e : Error} (rejected : entryPoint api code method dataPtr dataLen = .error e) :
    call api code w hostState method dataPtr dataLen = some (.error e, hostState, w) := by
  simp [call, rejected]

theorem call_of_trap {func : F} {args : List W} {trap : String}
    (resolved : entryPoint api code method dataPtr dataLen = .ok (func, args))
    (trapped : code.call func args hostState w = some (.error trap, hostState', w')) :
    call api code w hostState method dataPtr dataLen =
      some (.error (trapError trap hostState'.panicMessage), { hostState' with panicMessage := none },
        w') := by
  simp [call, resolved, trapped, HostState.takePanicMessage]

theorem call_of_results {func : F} {args : List W} {result : W} {results : List W}
    (resolved : entryPoint api code method dataPtr dataLen = .ok (func, args))
    (returned : code.call func args hostState w = some (.ok (result :: results), hostState', w')) :
    call api code w hostState method dataPtr dataLen =
      some (.ok (api.toI64 result).toUInt64, hostState', w') := by
  simp [call, resolved, returned]

end Outcomes

/-! ## The input -/

section Injection

variable {Mem : Type} {memoryApi : MemoryApi Mem} {w : InstanceWrapper Mem} {allocator : FreeingBumpHeapAllocator}
  {heap : Heap} {slice : HeapSlice} {data : List UInt8}

theorem injectInputData_ok (sliced : heapSlice memoryApi w.memory = some slice)
    (rep : Represents (allocator, slice) heap) (short : data.length < 2 ^ 32) {ptr : UInt32}
    (allocated : (heap.allocate data.length.toUInt32).1 = .ok ptr) :
    ∃ allocator' slice', injectInputData memoryApi w allocator data =
        some (.ok (ptr, data.length.toUInt32), allocator',
          { w with memory := memoryApi.withData w.memory (slice'.bytes.write ptr.toNat data).byte }) ∧
      Represents (allocator', slice') (heap.allocate data.length.toUInt32).2 ∧
      SameBodies slice slice' (heap.allocate data.length.toUInt32).2 ∧
      ptr.toNat + data.length ≤ slice.bytes.len ∧
      (heap.allocate data.length.toUInt32).2.Avoids ptr.toNat data := by
  have sizeNat : data.length.toUInt32.toNat = data.length := toNat_toUInt32_of_lt short
  obtain ⟨same, rep'⟩ := represents_allocate rep data.length.toUInt32
  have bodies := bodies_allocate rep data.length.toUInt32
  rw [allocated] at same
  obtain ⟨headerPtr, order, pointer, fromSize, -, -, inside, -⟩ := Heap.allocate_ok rep.wf allocated
  have fits := size_le_of_fromSize fromSize
  have len : slice.bytes.len = heap.memLen := rep.memLen
  have within : ptr.toNat + data.length ≤ slice.bytes.len := by
    unfold blockSize at inside
    omega
  have avoids := Heap.avoids_allocate rep.wf allocated (by omega : data.length ≤ data.length.toUInt32.toNat)
  cases ran : (allocate data.length.toUInt32 : Call HeapSlice UInt32).run (allocator, slice) with
  | error f st =>
    rw [ran] at same
    cases same
  | ok v st =>
    obtain ⟨allocator', slice'⟩ := st
    rw [ran] at same rep' bodies
    cases same
    have len' : slice'.bytes.len = slice.bytes.len := bodies.1
    have written : writeMemoryFrom slice'.bytes ptr data = .ok (slice'.bytes.write ptr.toNat data) :=
      writeMemoryFrom_of_le (by have := slice.fits; omega) (by omega)
    refine ⟨allocator', slice', ?_, rep', bodies, within, avoids⟩
    simp only [injectInputData, sliced, Option.bind_some, ran, written]

theorem injectInputData_error (sliced : heapSlice memoryApi w.memory = some slice)
    (rep : Represents (allocator, slice) heap) {e : Allocator.Layout.Error}
    (rejected : (heap.allocate data.length.toUInt32).1 = .error (.err e)) :
    ∃ allocator' w', injectInputData memoryApi w allocator data = some (.error (.allocator e), allocator', w') := by
  have same := (represents_allocate rep data.length.toUInt32).1
  rw [rejected] at same
  cases ran : (allocate data.length.toUInt32 : Call HeapSlice UInt32).run (allocator, slice) with
  | ok v st =>
    rw [ran] at same
    cases same
  | error f st =>
    obtain ⟨allocator', slice'⟩ := st
    rw [ran] at same
    cases same
    refine ⟨allocator', { w with memory := memoryApi.withData w.memory slice'.bytes.byte }, ?_⟩
    simp only [injectInputData, sliced, Option.bind_some, ran]

end Injection

/-! ## What `perform_call` returns -/

section Outcome

variable {Mem F W : Type} {memoryApi : MemoryApi Mem} {api : WasmValueApi W} {code : Code Mem F W}
  {data : List UInt8} {w w' w'' : InstanceWrapper Mem} {method : InvokeMethod}
  {allocator allocator' : FreeingBumpHeapAllocator} {dataPtr dataLen : UInt32} {hostState : HostState}

theorem performCall_of_injectInputData_error {e : Error}
    (rejected : injectInputData memoryApi w allocator data = some (.error e, allocator', w')) :
    performCall memoryApi api code data w method allocator = some ((.error e, none), w') := by
  simp [performCall, rejected]

theorem performCall_of_call_error {e : Error}
    (injected : injectInputData memoryApi w allocator data = some (.ok (dataPtr, dataLen), allocator', w'))
    (failed : call api code w' (HostState.new allocator') method dataPtr dataLen =
      some (.error e, hostState, w'')) :
    performCall memoryApi api code data w method allocator =
      some ((.error e, some hostState.allocationStats), w'') := by
  simp [performCall, injected, failed]

theorem performCall_of_call_ok {packed : UInt64} {read : Except String (List UInt8)}
    (injected : injectInputData memoryApi w allocator data = some (.ok (dataPtr, dataLen), allocator', w'))
    (returned : call api code w' (HostState.new allocator') method dataPtr dataLen =
      some (.ok packed, hostState, w''))
    (output : extractOutputData memoryApi w''.memory (unpackPtrAndLen packed).1 (unpackPtrAndLen packed).2 =
      some read) :
    performCall memoryApi api code data w method allocator =
      some ((read.mapError .other, some hostState.allocationStats), w'') := by
  cases read <;> simp [performCall, injected, returned, output, Except.mapError]

end Outcome

end WasmedgeExecutor.Wasmedge.PerformCall
