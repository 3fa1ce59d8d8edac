import WasmedgeExecutor.Interface.Codec
import WasmedgeExecutor.Wasmedge.MemorySlice
import WasmedgeExecutor.Lib.Outcome
import Mathlib

/-!
The wasmi sandbox backend of `sc-executor-common` (`sandbox/wasmi_backend.rs`): the memories of
sandboxed instances, and `GuestExternals::invoke_index`, through which a sandboxed guest calls
a function of the supervisor.

`invoke_index` talks to the supervisor through a `SandboxContext`: its `supervisor_context`, a
`FunctionContext`, allocates, writes, reads and frees memory, and its `invoke` runs the
supervisor's dispatch thunk. Both are parameters over the supervisor's state `σ`; each call
passes the state on, also when it fails. The arguments are SCALE-encoded, by the codec the
sandbox is given, into a buffer
allocated in the supervisor; the thunk leaks the encoded result in another buffer and returns
its pointer and length packed into one `i64`, as `sp_sandbox`'s `dispatch_thunk` packs them.

Two things are shown of every call, for every outcome of every step. A context that records
the calls it serves sees the argument buffer freed once, the result buffer freed once if the
thunk returned, and nothing else freed, unless a free itself failed
(`deallocated_invokeIndex`). Against a supervisor that keeps a set of live allocations, a call
that returns leaves that set as it found it, and so does a whole run of calls
(`live_run_invokeIndex`).
-/

set_option autoImplicit false
set_option relaxedAutoImplicit false

namespace WasmedgeExecutor.Executor.WasmiBackend

open WasmedgeExecutor.Lib.ByteMemory (Bytes)
open WasmedgeExecutor.Wasmedge.MemorySlice (checkedRange checkedRange_eq_some writeMemoryFrom)
open WasmedgeExecutor.Interface.Codec (RuntimeValue SandboxCodec ReturnValue)
open WasmedgeExecutor.Lib.Outcome (attempt stateOf run_attempt_ok run_attempt_error run_bind_eq_ok)

/-! ## Sandboxed memories -/

/-- `MemoryWrapper`: a wasmi memory, as the bytes its direct access shows. A clone shares the
memory, so a write through the clone a lookup returns is a write to the stored memory. -/
structure MemoryWrapper where
  bytes : Bytes

namespace MemoryWrapper

/-- `MemoryTransfer::read`: `size` bytes from `source_addr`. -/
def read (memory : MemoryWrapper) (sourceAddr : UInt32) (size : Nat) : Except String (List UInt8) :=
  match checkedRange sourceAddr.toNat size memory.bytes.len with
  | none => .error "memory read is out of bounds"
  | some (start, end_) => .ok (memory.bytes.read start (end_ - start))

/-- `MemoryTransfer::write_from`: the copy of `util::write_memory_from`, on the wasmi memory. -/
def writeFrom (memory : MemoryWrapper) (destAddr : UInt32) (source : List UInt8) :
    Except String MemoryWrapper :=
  (writeMemoryFrom memory.bytes destAddr source).map MemoryWrapper.mk

theorem read_eq (memory : MemoryWrapper) (sourceAddr : UInt32) {size : Nat} (small : size < 2 ^ 32) :
    memory.read sourceAddr size =
      if sourceAddr.toNat + size ≤ memory.bytes.len then .ok (memory.bytes.read sourceAddr.toNat size)
      else .error "memory read is out of bounds" := by
  have wide : sourceAddr.toNat + size < 2 ^ 64 := by have := sourceAddr.toNat_lt; omega
  by_cases inside : sourceAddr.toNat + size ≤ memory.bytes.len
  · simp [read, checkedRange_eq_some wide, inside]
  · simp [read, checkedRange_eq_some wide, inside]

theorem writeFrom_eq (memory : MemoryWrapper) (destAddr : UInt32) {source : List UInt8}
    (small : source.length < 2 ^ 32) :
    memory.writeFrom destAddr source =
      if destAddr.toNat + source.length ≤ memory.bytes.len then
        .ok ⟨memory.bytes.write destAddr.toNat source⟩
      else .error "memory write is out of bounds" := by
  have wide : destAddr.toNat + source.length < 2 ^ 64 := by have := destAddr.toNat_lt; omega
  by_cases inside : destAddr.toNat + source.length ≤ memory.bytes.len
  · simp [writeFrom, writeMemoryFrom, checkedRange_eq_some wide, inside, Except.map]
  · simp [writeFrom, writeMemoryFrom, checkedRange_eq_some wide, inside, Except.map]

end MemoryWrapper

/-! ## The supervisor's side -/

/-- What `invoke_index` uses of `sp_wasm_interface::FunctionContext`, over the supervisor's
state. `read_memory_into` takes `&self` and returns the new contents of `dest`. -/
structure FunctionContext (σ : Type) where
  readMemoryInto : σ → UInt32 → List UInt8 → Except String (List UInt8)
  writeMemory : UInt32 → List UInt8 → EStateM String σ Unit
  allocateMemory : UInt32 → EStateM String σ UInt32
  deallocateMemory : UInt32 → EStateM String σ Unit

/-- `FunctionContext::read_memory`, the provided method: `size` zeros, read into. -/
def FunctionContext.readMemory {σ : Type} (context : FunctionContext σ) (address size : UInt32) :
    EStateM String σ (List UInt8) := fun s =>
  match context.readMemoryInto s address (List.replicate size.toNat 0) with
  | .ok data => .ok data s
  | .error e => .error e s

/-- `sandbox::SandboxContext`: `invoke(invoke_args_ptr, invoke_args_len, state, func_idx)`
runs the dispatch thunk. -/
structure SandboxContext (σ : Type) where
  invoke : UInt32 → UInt32 → UInt32 → Nat → EStateM String σ Int64
  supervisorContext : FunctionContext σ

/-- The value `sp_sandbox`'s `dispatch_thunk` returns for the result vector it leaks:
`(result_ptr << 32) | result_len`, the wasm32 pointer and length cast to `u64`. -/
def dispatchThunkResult (resultPtr resultLen : UInt32) : UInt64 :=
  (resultPtr.toUInt64 <<< 32) ||| resultLen.toUInt64

/-- The unpacking in `invoke_index` of the thunk's `i64`, cast to `u64`: `ptr = v >> 32`,
`len = v & 0xFFFFFFFF`. -/
def unpackResult (result : Int64) : UInt32 × UInt32 :=
  let v := result.toUInt64
  ((v >>> 32).toUInt32, (v &&& 0xFFFFFFFF).toUInt32)

theorem toNat_dispatchThunkResult (resultPtr resultLen : UInt32) :
    (dispatchThunkResult resultPtr resultLen).toNat = 2 ^ 32 * resultPtr.toNat + resultLen.toNat := by
  have high : (resultPtr.toUInt64 <<< 32).toNat = 2 ^ 32 * resultPtr.toNat := by
    have := resultPtr.toNat_lt
    rw [UInt64.toNat_shiftLeft, UInt32.toNat_toUInt64, Nat.shiftLeft_eq,
      show (32 : UInt64).toNat % 64 = 32 from rfl, Nat.mod_eq_of_lt (by omega), Nat.mul_comm]
  rw [dispatchThunkResult, UInt64.toNat_or, high, UInt32.toNat_toUInt64,
    ← Nat.two_pow_add_eq_or_of_lt resultLen.toNat_lt]

theorem unpackResult_dispatchThunkResult (resultPtr resultLen : UInt32) :
    unpackResult (dispatchThunkResult resultPtr resultLen).toInt64 = (resultPtr, resultLen) := by
  have packed := toNat_dispatchThunkResult resultPtr resultLen
  have low := resultLen.toNat_lt
  have high := resultPtr.toNat_lt
  simp only [unpackResult, UInt64.toUInt64_toInt64, Prod.mk.injEq]
  constructor
  · apply UInt32.toNat_inj.mp
    rw [UInt64.toNat_toUInt32, UInt64.toNat_shiftRight, packed,
      show (32 : UInt64).toNat % 64 = 32 from rfl, Nat.shiftRight_eq_div_pow, Nat.mod_eq_of_lt (by omega)]
    omega
  · apply UInt32.toNat_inj.mp
    rw [UInt64.toNat_toUInt32, UInt64.toNat_and, packed,
      show (0xFFFFFFFF : UInt64).toNat = 2 ^ 32 - 1 from rfl, Nat.and_two_pow_sub_one_eq_mod]
    omega

/-! ## `invoke_index` -/

/-- How `invoke_index` ends early: a wasmi `Trap`, made by `trap(msg)` or passed up by `?`,
or a panic. -/
inductive Escape
  | trap (message : String)
  | panic (message : String)
  deriving DecidableEq, Repr

section InvokeIndex

variable {σ : Type}

/-- `.map_err(|_| trap(message))`. -/
def orTrap {α : Type} (message : String) (call : EStateM String σ α) : EStateM Escape σ α :=
  EStateM.adaptExcept (fun _ => .trap message) call

/-- The closure `deallocate` of `invoke_index`. -/
def deallocate (supervisorContext : FunctionContext σ) (ptr : UInt32) (failMsg : String) :
    EStateM Escape σ Unit :=
  orTrap failMsg (supervisorContext.deallocateMemory ptr)

/-- The arguments moved into the supervisor: a buffer allocated and written, and freed again
when the write fails. -/
def passArguments (supervisorContext : FunctionContext σ) (invokeArgsLen : UInt32)
    (invokeArgsData : List UInt8) : EStateM Escape σ UInt32 := do
  let invokeArgsPtr ← orTrap "Can't allocate memory in supervisor for the arguments"
    (supervisorContext.allocateMemory invokeArgsLen)
  match ← attempt (supervisorContext.writeMemory invokeArgsPtr invokeArgsData) with
  | .ok () => pure invokeArgsPtr
  | .error _ =>
    deallocate supervisorContext invokeArgsPtr
      "Failed dealloction after failed write of invoke arguments"
    throw (.trap "Can't write invoke args into memory")

/-- The dispatch thunk invoked, then the argument buffer freed, and only then its result
passed up by `?`. -/
def callDispatchThunk (sandboxContext : SandboxContext σ) (invokeArgsPtr invokeArgsLen state : UInt32)
    (funcIdx : Nat) : EStateM Escape σ Int64 := do
  let result ← attempt (sandboxContext.invoke invokeArgsPtr invokeArgsLen state funcIdx)
  deallocate sandboxContext.supervisorContext invokeArgsPtr
    "Can't deallocate memory for dispatch thunk's invoke arguments"
  match result with
  | .ok v => pure v
  | .error e => throw (.trap e)

/-- The closure of `and_then`: the supervisor function's decoded `Result`, as wasmi's value. -/
def returnValueOf (codec : SandboxCodec) (serializedResultVal : List UInt8) :
    Except Escape (Option RuntimeValue) :=
  match codec.decodeHostResult serializedResultVal with
  | none => .error (.trap "Decoding Result<ReturnValue, HostError> failed!")
  | some (.ok .unit, _) => .ok none
  | some (.ok (.value typedValue), _) => .ok (some (.ofValue typedValue))
  | some (.error _, _) => .error (.trap "Supervisor function returned sandbox::HostError")

/-- The result collected: read, its buffer freed whatever the read gave, and then
`deallocate(..).and(serialized_result_val).and_then(..)`. -/
def collectResult (codec : SandboxCodec) (supervisorContext : FunctionContext σ) (result : Int64) :
    EStateM Escape σ (Option RuntimeValue) := do
  let (serializedResultValPtr, serializedResultValLen) := unpackResult result
  let serializedResultVal ← attempt (orTrap "Can't read the serialized result from dispatch thunk"
    (supervisorContext.readMemory serializedResultValPtr serializedResultValLen))
  deallocate supervisorContext serializedResultValPtr "Can't deallocate memory for dispatch thunk's result"
  liftExcept (serializedResultVal >>= returnValueOf codec)

/-- `GuestExternals::invoke_index`, for a sandboxed instance whose
`guest_to_supervisor_mapping` lists `mapping` and whose externals carry `state`. -/
def invokeIndex (codec : SandboxCodec) (sandboxContext : SandboxContext σ) (mapping : List Nat) (state : UInt32)
    (index : Nat) (args : List RuntimeValue) : EStateM Escape σ (Option RuntimeValue) := do
  let some funcIdx := mapping[index]?
    | throw (.panic "invoke_index is called with indexes registered via FuncInstance::alloc_host")
  let invokeArgsData := codec.encodeValues (args.map RuntimeValue.toValue)
  let invokeArgsLen := invokeArgsData.length.toUInt32
  let invokeArgsPtr ← passArguments sandboxContext.supervisorContext invokeArgsLen invokeArgsData
  let result ← callDispatchThunk sandboxContext invokeArgsPtr invokeArgsLen state funcIdx
  collectResult codec sandboxContext.supervisorContext result

end InvokeIndex

/-! ## The phases of a call, one outcome at a time -/

section Runs

variable {σ : Type} {s s₁ s₂ : σ}

theorem run_orTrap_ok {α : Type} {call : EStateM String σ α} {message : String} {a : α}
    (ran : call.run s = .ok a s₁) : (orTrap message call).run s = .ok a s₁ := by
  rw [orTrap, EStateM.run_adaptExcept, ran]

theorem run_orTrap_error {α : Type} {call : EStateM String σ α} {message e : String}
    (failed : call.run s = .error e s₁) : (orTrap message call).run s = .error (.trap message) s₁ := by
  rw [orTrap, EStateM.run_adaptExcept, failed]

variable {supervisorContext : FunctionContext σ} {invokeArgsLen ptr : UInt32} {data : List UInt8}

theorem run_passArguments_ok (allocated : (supervisorContext.allocateMemory invokeArgsLen).run s = .ok ptr s₁)
    (written : (supervisorContext.writeMemory ptr data).run s₁ = .ok () s₂) :
    (passArguments supervisorContext invokeArgsLen data).run s = .ok ptr s₂ := by
  simp only [passArguments, EStateM.run_bind, run_orTrap_ok allocated, run_attempt_ok written]
  rfl

theorem run_passArguments_allocate_error {e : String}
    (failed : (supervisorContext.allocateMemory invokeArgsLen).run s = .error e s₁) :
    (passArguments supervisorContext invokeArgsLen data).run s =
      .error (.trap "Can't allocate memory in supervisor for the arguments") s₁ := by
  simp only [passArguments, EStateM.run_bind, run_orTrap_error failed]

theorem run_passArguments_write_error {e : String}
    (allocated : (supervisorContext.allocateMemory invokeArgsLen).run s = .ok ptr s₁)
    (failed : (supervisorContext.writeMemory ptr data).run s₁ = .error e s₂) :
    ∃ escape, (passArguments supervisorContext invokeArgsLen data).run s =
      .error escape (stateOf ((supervisorContext.deallocateMemory ptr).run s₂)) := by
  simp only [passArguments, EStateM.run_bind, run_orTrap_ok allocated, run_attempt_error failed]
  cases released : (supervisorContext.deallocateMemory ptr).run s₂ with
  | ok u s₃ =>
    refine ⟨.trap "Can't write invoke args into memory", ?_⟩
    simp only [deallocate, run_orTrap_ok released]
    rfl
  | error e' s₃ =>
    refine ⟨.trap "Failed dealloction after failed write of invoke arguments", ?_⟩
    simp only [deallocate, run_orTrap_error released]
    rfl

theorem run_passArguments_eq_ok (returned : (passArguments supervisorContext invokeArgsLen data).run s = .ok ptr s₂) :
    ∃ s₁, (supervisorContext.allocateMemory invokeArgsLen).run s = .ok ptr s₁ ∧
      (supervisorContext.writeMemory ptr data).run s₁ = .ok () s₂ := by
  cases allocated : (supervisorContext.allocateMemory invokeArgsLen).run s with
  | ok p s₁ =>
    cases written : (supervisorContext.writeMemory p data).run s₁ with
    | ok u s₂' =>
      rw [run_passArguments_ok allocated written] at returned
      cases returned
      exact ⟨s₁, rfl, written⟩
    | error e s₂' =>
      obtain ⟨escape, failed⟩ := run_passArguments_write_error allocated written
      rw [failed] at returned
      cases returned
  | error e s₁ =>
    rw [run_passArguments_allocate_error allocated] at returned
    cases returned

variable {sandboxContext : SandboxContext σ} {state : UInt32} {funcIdx : Nat}

theorem run_callDispatchThunk_ok {v : Int64}
    (invoked : (sandboxContext.invoke ptr invokeArgsLen state funcIdx).run s = .ok v s₁)
    (released : (sandboxContext.supervisorContext.deallocateMemory ptr).run s₁ = .ok () s₂) :
    (callDispatchThunk sandboxContext ptr invokeArgsLen state funcIdx).run s = .ok v s₂ := by
  simp only [callDispatchThunk, deallocate, EStateM.run_bind, run_attempt_ok invoked,
    run_orTrap_ok released]
  rfl

theorem run_callDispatchThunk_eq_ok {v : Int64}
    (returned : (callDispatchThunk sandboxContext ptr invokeArgsLen state funcIdx).run s = .ok v s₂) :
    ∃ s₁, (sandboxContext.invoke ptr invokeArgsLen state funcIdx).run s = .ok v s₁ ∧
      (sandboxContext.supervisorContext.deallocateMemory ptr).run s₁ = .ok () s₂ := by
  simp only [callDispatchThunk, deallocate, EStateM.run_bind] at returned
  cases invoked : (sandboxContext.invoke ptr invokeArgsLen state funcIdx).run s with
  | ok v' s₁ =>
    cases released : (sandboxContext.supervisorContext.deallocateMemory ptr).run s₁ with
    | ok u s₂' =>
      simp only [run_attempt_ok invoked, run_orTrap_ok released] at returned
      cases returned
      exact ⟨s₁, rfl, released⟩
    | error e s₂' =>
      simp only [run_attempt_ok invoked, run_orTrap_error released] at returned
      cases returned
  | error e s₁ =>
    cases released : (sandboxContext.supervisorContext.deallocateMemory ptr).run s₁ with
    | ok u s₂' =>
      simp only [run_attempt_error invoked, run_orTrap_ok released] at returned
      cases returned
    | error e' s₂' =>
      simp only [run_attempt_error invoked, run_orTrap_error released] at returned
      cases returned

theorem run_callDispatchThunk_invoke_error {e : String}
    (invoked : (sandboxContext.invoke ptr invokeArgsLen state funcIdx).run s = .error e s₁)
    (released : (sandboxContext.supervisorContext.deallocateMemory ptr).run s₁ = .ok () s₂) :
    (callDispatchThunk sandboxContext ptr invokeArgsLen state funcIdx).run s = .error (.trap e) s₂ := by
  simp only [callDispatchThunk, deallocate, EStateM.run_bind, run_attempt_error invoked,
    run_orTrap_ok released]
  rfl

theorem run_callDispatchThunk_release_error {e : String}
    (released : (sandboxContext.supervisorContext.deallocateMemory ptr).run
      (stateOf ((sandboxContext.invoke ptr invokeArgsLen state funcIdx).run s)) = .error e s₂) :
    (callDispatchThunk sandboxContext ptr invokeArgsLen state funcIdx).run s =
      .error (.trap "Can't deallocate memory for dispatch thunk's invoke arguments") s₂ := by
  simp only [callDispatchThunk, deallocate, EStateM.run_bind]
  cases invoked : (sandboxContext.invoke ptr invokeArgsLen state funcIdx).run s with
  | ok v s₁ =>
    simp only [invoked, stateOf] at released
    simp only [run_attempt_ok invoked, run_orTrap_error released]
  | error e' s₁ =>
    simp only [invoked, stateOf] at released
    simp only [run_attempt_error invoked, run_orTrap_error released]

theorem run_attempt_readMemory (supervisorContext : FunctionContext σ) (s : σ) (message : String)
    (address size : UInt32) :
    ∃ read, (attempt (orTrap message (supervisorContext.readMemory address size)) :
      EStateM Escape σ _).run s = .ok read s := by
  cases readInto : supervisorContext.readMemoryInto s address (List.replicate size.toNat 0) with
  | ok data =>
    have ran : (supervisorContext.readMemory address size).run s = .ok data s := by
      simp only [EStateM.run, FunctionContext.readMemory, readInto]
    exact ⟨_, run_attempt_ok (run_orTrap_ok ran)⟩
  | error e =>
    have ran : (supervisorContext.readMemory address size).run s = .error e s := by
      simp only [EStateM.run, FunctionContext.readMemory, readInto]
    exact ⟨_, run_attempt_error (run_orTrap_error ran)⟩

variable {codec : SandboxCodec} {result : Int64}

theorem stateOf_run_collectResult :
    stateOf ((collectResult codec supervisorContext result).run s) =
      stateOf ((supervisorContext.deallocateMemory (unpackResult result).1).run s) := by
  obtain ⟨read, attempted⟩ := run_attempt_readMemory supervisorContext s
    "Can't read the serialized result from dispatch thunk" (unpackResult result).1 (unpackResult result).2
  simp only [collectResult, deallocate, EStateM.run_bind, attempted]
  cases released : (supervisorContext.deallocateMemory (unpackResult result).1).run s with
  | ok u s' =>
    simp only [run_orTrap_ok released, stateOf]
    cases read >>= returnValueOf codec <;> rfl
  | error e s' => simp only [run_orTrap_error released, stateOf]

theorem run_collectResult_eq_ok {value : Option RuntimeValue}
    (returned : (collectResult codec supervisorContext result).run s = .ok value s₂) :
    (supervisorContext.deallocateMemory (unpackResult result).1).run s = .ok () s₂ := by
  obtain ⟨read, attempted⟩ := run_attempt_readMemory supervisorContext s
    "Can't read the serialized result from dispatch thunk" (unpackResult result).1 (unpackResult result).2
  simp only [collectResult, deallocate, EStateM.run_bind, attempted] at returned
  cases released : (supervisorContext.deallocateMemory (unpackResult result).1).run s with
  | ok u s' =>
    simp only [run_orTrap_ok released] at returned
    cases decoded : read >>= returnValueOf codec with
    | ok a =>
      simp only [decoded] at returned
      cases returned
      rfl
    | error e =>
      simp only [decoded] at returned
      cases returned
  | error e s' =>
    simp only [run_orTrap_error released] at returned
    cases returned

variable {mapping : List Nat} {index : Nat} {args : List RuntimeValue}

theorem run_invokeIndex_eq_ok {value : Option RuntimeValue}
    (returned : (invokeIndex codec sandboxContext mapping state index args).run s = .ok value s₂) :
    ∃ funcIdx data ptr v s₁ s₁' s₁'' s₁''',
      mapping[index]? = some funcIdx ∧ codec.encodeValues (args.map RuntimeValue.toValue) = data ∧
      (sandboxContext.supervisorContext.allocateMemory data.length.toUInt32).run s = .ok ptr s₁ ∧
      (sandboxContext.supervisorContext.writeMemory ptr data).run s₁ = .ok () s₁' ∧
      (sandboxContext.invoke ptr data.length.toUInt32 state funcIdx).run s₁' = .ok v s₁'' ∧
      (sandboxContext.supervisorContext.deallocateMemory ptr).run s₁'' = .ok () s₁''' ∧
      (sandboxContext.supervisorContext.deallocateMemory (unpackResult v).1).run s₁''' = .ok () s₂ := by
  unfold invokeIndex at returned
  cases mapped : mapping[index]? with
  | none =>
    rw [mapped] at returned
    cases returned
  | some funcIdx =>
    generalize codec.encodeValues (args.map RuntimeValue.toValue) = data at returned
    simp only [mapped, EStateM.run_bind] at returned
    cases passed : (passArguments sandboxContext.supervisorContext data.length.toUInt32 data).run s with
    | error e s' =>
      rw [passed] at returned
      cases returned
    | ok ptr s₁' =>
      rw [passed] at returned
      cases called : (callDispatchThunk sandboxContext ptr data.length.toUInt32 state funcIdx).run s₁' with
      | error e s' =>
        simp only [called] at returned
        cases returned
      | ok v s₁''' =>
        simp only [called] at returned
        obtain ⟨s₁, allocated, written⟩ := run_passArguments_eq_ok passed
        obtain ⟨s₁'', invoked, released⟩ := run_callDispatchThunk_eq_ok called
        exact ⟨funcIdx, data, ptr, v, s₁, s₁', s₁'', s₁''', rfl, rfl, allocated, written, invoked,
          released, run_collectResult_eq_ok returned⟩

end Runs

/-! ## What a recording supervisor sees -/

section Trace

variable {σ : Type}

/-- What a recording supervisor notes of the calls `invoke_index` makes on it: each
allocation, each call of the dispatch thunk and each deallocation, with what it returned. -/
inductive SupervisorCall
  | allocateMemory (size : UInt32) (result : Except String UInt32)
  | invoke (result : Except String Int64)
  | deallocateMemory (ptr : UInt32) (result : Except String Unit)

/-- `call` on the supervisor's state, and `entry` of what it returned appended to the log. -/
def recorded {α : Type} (call : EStateM String σ α) (entry : Except String α → SupervisorCall) :
    EStateM String (σ × List SupervisorCall) α := fun (s, log) =>
  match call s with
  | .ok a s' => .ok a (s', log ++ [entry (.ok a)])
  | .error e s' => .error e (s', log ++ [entry (.error e)])

/-- `call` on the supervisor's state, left out of the log. -/
def unrecorded {α : Type} (call : EStateM String σ α) : EStateM String (σ × List SupervisorCall) α :=
  fun (s, log) =>
    match call s with
    | .ok a s' => .ok a (s', log)
    | .error e s' => .error e (s', log)

/-- `sandboxContext` with its allocations, thunk calls and deallocations recorded. -/
def SandboxContext.traced (sandboxContext : SandboxContext σ) :
    SandboxContext (σ × List SupervisorCall) where
  invoke ptr len state funcIdx := recorded (sandboxContext.invoke ptr len state funcIdx) .invoke
  supervisorContext :=
    { readMemoryInto := fun s => sandboxContext.supervisorContext.readMemoryInto s.1
      writeMemory := fun address data =>
        unrecorded (sandboxContext.supervisorContext.writeMemory address data)
      allocateMemory := fun size =>
        recorded (sandboxContext.supervisorContext.allocateMemory size) (.allocateMemory size)
      deallocateMemory := fun ptr =>
        recorded (sandboxContext.supervisorContext.deallocateMemory ptr) (.deallocateMemory ptr) }

/-- The log a recording supervisor keeps of one call of `invoke_index` from `s`. -/
def callLog (codec : SandboxCodec) (sandboxContext : SandboxContext σ) (mapping : List Nat) (state : UInt32)
    (index : Nat) (args : List RuntimeValue) (s : σ) : List SupervisorCall :=
  (stateOf ((invokeIndex codec sandboxContext.traced mapping state index args).run (s, []))).2

def deallocated (log : List SupervisorCall) : List UInt32 :=
  log.filterMap fun
    | .deallocateMemory ptr _ => some ptr
    | _ => none

def argumentBuffers (log : List SupervisorCall) : List UInt32 :=
  log.filterMap fun
    | .allocateMemory _ (.ok ptr) => some ptr
    | _ => none

def resultBuffers (log : List SupervisorCall) : List UInt32 :=
  log.filterMap fun
    | .invoke (.ok v) => some (unpackResult v).1
    | _ => none

def SupervisorCall.failedDeallocation : SupervisorCall → Bool
  | .deallocateMemory _ (.error _) => true
  | _ => false

variable {α : Type} {call : EStateM String σ α} {s s' : σ} {log : List SupervisorCall}

theorem run_recorded_ok {entry : Except String α → SupervisorCall} {a : α} (ran : call.run s = .ok a s') :
    (recorded call entry).run (s, log) = .ok a (s', log ++ [entry (.ok a)]) := by
  simp only [EStateM.run] at ran
  simp only [EStateM.run, recorded, ran]

theorem run_recorded_error {entry : Except String α → SupervisorCall} {e : String}
    (failed : call.run s = .error e s') :
    (recorded call entry).run (s, log) = .error e (s', log ++ [entry (.error e)]) := by
  simp only [EStateM.run] at failed
  simp only [EStateM.run, recorded, failed]

theorem stateOf_run_recorded (recordedCall : EStateM String σ α)
    (entry : Except String α → SupervisorCall) (t : σ) (before : List SupervisorCall) :
    ∃ r, stateOf ((recorded recordedCall entry).run (t, before)) =
      (stateOf (recordedCall.run t), before ++ [entry r]) := by
  cases ran : recordedCall.run t with
  | ok a t' => exact ⟨.ok a, by rw [run_recorded_ok ran]; rfl⟩
  | error e t' => exact ⟨.error e, by rw [run_recorded_error ran]; rfl⟩

theorem run_unrecorded_ok {a : α} (ran : call.run s = .ok a s') :
    (unrecorded call).run (s, log) = .ok a (s', log) := by
  simp only [EStateM.run] at ran
  simp only [EStateM.run, unrecorded, ran]

theorem run_unrecorded_error {e : String} (failed : call.run s = .error e s') :
    (unrecorded call).run (s, log) = .error e (s', log) := by
  simp only [EStateM.run] at failed
  simp only [EStateM.run, unrecorded, failed]

/-! What each phase of a call shows a recording supervisor. -/

variable {sandboxContext : SandboxContext σ}

theorem tracedLog_passArguments (sandboxContext : SandboxContext σ) (s : σ) (log : List SupervisorCall)
    (invokeArgsLen : UInt32) (data : List UInt8) :
    (∃ e escape t, (passArguments sandboxContext.traced.supervisorContext invokeArgsLen data).run (s, log) =
      .error escape (t, log ++ [.allocateMemory invokeArgsLen (.error e)])) ∨
    (∃ ptr r escape t, (passArguments sandboxContext.traced.supervisorContext invokeArgsLen data).run (s, log) =
      .error escape (t, log ++ [.allocateMemory invokeArgsLen (.ok ptr), .deallocateMemory ptr r])) ∨
    (∃ ptr t, (passArguments sandboxContext.traced.supervisorContext invokeArgsLen data).run (s, log) =
      .ok ptr (t, log ++ [.allocateMemory invokeArgsLen (.ok ptr)])) := by
  cases allocated : (sandboxContext.supervisorContext.allocateMemory invokeArgsLen).run s with
  | error e s₁ =>
    exact .inl ⟨e, _, s₁, run_passArguments_allocate_error (run_recorded_error allocated)⟩
  | ok ptr s₁ =>
    let logged := log ++ [.allocateMemory invokeArgsLen (.ok ptr)]
    have allocated' : (sandboxContext.traced.supervisorContext.allocateMemory invokeArgsLen).run (s, log) =
        .ok ptr (s₁, logged) := run_recorded_ok allocated
    cases written : (sandboxContext.supervisorContext.writeMemory ptr data).run s₁ with
    | ok u s₂ =>
      have written' : (sandboxContext.traced.supervisorContext.writeMemory ptr data).run (s₁, logged) =
          .ok u (s₂, logged) := run_unrecorded_ok written
      exact .inr (.inr ⟨ptr, s₂, run_passArguments_ok allocated' written'⟩)
    | error e s₂ =>
      have written' : (sandboxContext.traced.supervisorContext.writeMemory ptr data).run (s₁, logged) =
          .error e (s₂, logged) := run_unrecorded_error written
      obtain ⟨escape, failed⟩ := run_passArguments_write_error allocated' written'
      obtain ⟨r, released⟩ := stateOf_run_recorded
        (sandboxContext.supervisorContext.deallocateMemory ptr) (.deallocateMemory ptr) s₂ logged
      refine .inr (.inl ⟨ptr, r, escape,
        stateOf ((sandboxContext.supervisorContext.deallocateMemory ptr).run s₂), ?_⟩)
      rw [failed]
      simp only [SandboxContext.traced, released, logged, List.append_assoc, List.singleton_append]

theorem tracedLog_callDispatchThunk (sandboxContext : SandboxContext σ) (s : σ)
    (log : List SupervisorCall) (ptr invokeArgsLen state : UInt32) (funcIdx : Nat) :
    (∃ v t, (callDispatchThunk sandboxContext.traced ptr invokeArgsLen state funcIdx).run (s, log) =
      .ok v (t, log ++ [.invoke (.ok v), .deallocateMemory ptr (.ok ())])) ∨
    (∃ r r' escape t, (callDispatchThunk sandboxContext.traced ptr invokeArgsLen state funcIdx).run (s, log) =
      .error escape (t, log ++ [.invoke r, .deallocateMemory ptr r']) ∧
        ((∃ e, r = .error e) ∨ ∃ e, r' = .error e)) := by
  cases invoked : (sandboxContext.invoke ptr invokeArgsLen state funcIdx).run s with
  | ok v s₁ =>
    let logged := log ++ [.invoke (.ok v)]
    have invoked' : (sandboxContext.traced.invoke ptr invokeArgsLen state funcIdx).run (s, log) =
        .ok v (s₁, logged) := run_recorded_ok invoked
    cases released : (sandboxContext.supervisorContext.deallocateMemory ptr).run s₁ with
    | ok u s₂ =>
      have released' : (sandboxContext.traced.supervisorContext.deallocateMemory ptr).run (s₁, logged) =
          .ok () (s₂, logged ++ [.deallocateMemory ptr (.ok ())]) := run_recorded_ok released
      refine .inl ⟨v, s₂, ?_⟩
      rw [run_callDispatchThunk_ok invoked' released', List.append_assoc, List.singleton_append]
    | error e s₂ =>
      have released' : (sandboxContext.traced.supervisorContext.deallocateMemory ptr).run
          (stateOf ((sandboxContext.traced.invoke ptr invokeArgsLen state funcIdx).run (s, log))) =
            .error e (s₂, logged ++ [.deallocateMemory ptr (.error e)]) := by
        rw [invoked']
        exact run_recorded_error released
      refine .inr ⟨.ok v, .error e, .trap "Can't deallocate memory for dispatch thunk's invoke arguments",
        s₂, ?_, .inr ⟨e, rfl⟩⟩
      rw [run_callDispatchThunk_release_error released', List.append_assoc, List.singleton_append]
  | error e s₁ =>
    let logged := log ++ [.invoke (.error e)]
    have invoked' : (sandboxContext.traced.invoke ptr invokeArgsLen state funcIdx).run (s, log) =
        .error e (s₁, logged) := run_recorded_error invoked
    cases released : (sandboxContext.supervisorContext.deallocateMemory ptr).run s₁ with
    | ok u s₂ =>
      have released' : (sandboxContext.traced.supervisorContext.deallocateMemory ptr).run (s₁, logged) =
          .ok () (s₂, logged ++ [.deallocateMemory ptr (.ok ())]) := run_recorded_ok released
      refine .inr ⟨.error e, .ok (), .trap e, s₂, ?_, .inl ⟨e, rfl⟩⟩
      rw [run_callDispatchThunk_invoke_error invoked' released', List.append_assoc, List.singleton_append]
    | error e' s₂ =>
      have released' : (sandboxContext.traced.supervisorContext.deallocateMemory ptr).run
          (stateOf ((sandboxContext.traced.invoke ptr invokeArgsLen state funcIdx).run (s, log))) =
            .error e' (s₂, logged ++ [.deallocateMemory ptr (.error e')]) := by
        rw [invoked']
        exact run_recorded_error released
      refine .inr ⟨.error e, .error e',
        .trap "Can't deallocate memory for dispatch thunk's invoke arguments", s₂, ?_, .inl ⟨e, rfl⟩⟩
      rw [run_callDispatchThunk_release_error released', List.append_assoc, List.singleton_append]

theorem tracedLog_collectResult (codec : SandboxCodec) (sandboxContext : SandboxContext σ) (s : σ)
    (log : List SupervisorCall) (result : Int64) :
    ∃ r, (stateOf ((collectResult codec sandboxContext.traced.supervisorContext result).run (s, log))).2 =
      log ++ [.deallocateMemory (unpackResult result).1 r] := by
  rw [stateOf_run_collectResult]
  obtain ⟨r, released⟩ := stateOf_run_recorded
    (sandboxContext.supervisorContext.deallocateMemory (unpackResult result).1)
    (.deallocateMemory (unpackResult result).1) s log
  exact ⟨r, congrArg Prod.snd released⟩

theorem callLog_cases (codec : SandboxCodec) (sandboxContext : SandboxContext σ) (s : σ) (mapping : List Nat)
    (state : UInt32)
    (index : Nat) (args : List RuntimeValue) :
    callLog codec sandboxContext mapping state index args s = [] ∨
    (∃ n e, callLog codec sandboxContext mapping state index args s = [.allocateMemory n (.error e)]) ∨
    (∃ n ptr r, callLog codec sandboxContext mapping state index args s =
      [.allocateMemory n (.ok ptr), .deallocateMemory ptr r]) ∨
    (∃ n ptr r r', callLog codec sandboxContext mapping state index args s =
      [.allocateMemory n (.ok ptr), .invoke r, .deallocateMemory ptr r'] ∧
        ((∃ e, r = .error e) ∨ ∃ e, r' = .error e)) ∨
    (∃ n ptr v r, callLog codec sandboxContext mapping state index args s =
      [.allocateMemory n (.ok ptr), .invoke (.ok v), .deallocateMemory ptr (.ok ()),
        .deallocateMemory (unpackResult v).1 r]) := by
  unfold callLog invokeIndex
  cases mapping[index]? with
  | none => exact .inl rfl
  | some funcIdx =>
    generalize codec.encodeValues (args.map RuntimeValue.toValue) = data
    simp only [EStateM.run_bind]
    rcases tracedLog_passArguments sandboxContext s [] data.length.toUInt32 data with
      ⟨e, escape, t, failed⟩ | ⟨ptr, r, escape, t, failed⟩ | ⟨ptr, t, passed⟩
    · exact .inr (.inl ⟨_, e, by rw [failed]; rfl⟩)
    · exact .inr (.inr (.inl ⟨_, ptr, r, by rw [failed]; rfl⟩))
    · simp only [passed]
      rcases tracedLog_callDispatchThunk sandboxContext t
          ([] ++ [.allocateMemory data.length.toUInt32 (.ok ptr)]) ptr data.length.toUInt32 state
          funcIdx with ⟨v, t', called⟩ | ⟨r, r', escape, t', failed, cause⟩
      · obtain ⟨r, collected⟩ := tracedLog_collectResult codec sandboxContext t'
          ([] ++ [.allocateMemory data.length.toUInt32 (.ok ptr)] ++
            [.invoke (.ok v), .deallocateMemory ptr (.ok ())]) v
        refine .inr (.inr (.inr (.inr ⟨data.length.toUInt32, ptr, v, r, ?_⟩)))
        simp only [called]
        exact collected
      · refine .inr (.inr (.inr (.inl ⟨data.length.toUInt32, ptr, r, r', ?_, cause⟩)))
        simp only [failed]
        rfl

theorem deallocated_invokeIndex (codec : SandboxCodec) (sandboxContext : SandboxContext σ) (mapping : List Nat)
    (state : UInt32)
    (index : Nat) (args : List RuntimeValue) (s : σ)
    (noFailure : ∀ call ∈ callLog codec sandboxContext mapping state index args s,
      call.failedDeallocation = false) :
    deallocated (callLog codec sandboxContext mapping state index args s) =
      argumentBuffers (callLog codec sandboxContext mapping state index args s) ++
        resultBuffers (callLog codec sandboxContext mapping state index args s) := by
  rcases callLog_cases codec sandboxContext s mapping state index args with
    logged | ⟨n, e, logged⟩ | ⟨n, ptr, r, logged⟩ | ⟨n, ptr, r, r', logged, cause⟩ |
      ⟨n, ptr, v, r, logged⟩ <;> rw [logged] at noFailure ⊢
  · rfl
  · rfl
  · rfl
  · rcases cause with ⟨e, rfl⟩ | ⟨e, rfl⟩
    · rfl
    · have failed := noFailure (.deallocateMemory ptr (.error e)) (by simp)
      simp [SupervisorCall.failedDeallocation] at failed
  · rfl

end Trace

/-! ## The supervisor heap through a call -/

section Balance

variable {σ : Type}

/-- What the balance of the supervisor heap rests on: a set of live allocations that an
allocation grows by a fresh pointer, a deallocation shrinks by its pointer, and a write
leaves as it is. -/
structure HeapContract (supervisorContext : FunctionContext σ) (live : σ → Finset UInt32) : Prop where
  allocate : ∀ size s ptr s', (supervisorContext.allocateMemory size).run s = .ok ptr s' →
    ptr ∉ live s ∧ live s' = insert ptr (live s)
  write : ∀ address data s s', (supervisorContext.writeMemory address data).run s = .ok () s' →
    live s' = live s
  deallocate : ∀ ptr s s', (supervisorContext.deallocateMemory ptr).run s = .ok () s' →
    live s' = (live s).erase ptr

/-- A dispatch thunk that, when it returns, has left one fresh buffer allocated besides what
was live, and returns it as `dispatch_thunk` packs it. -/
def LeaksResult (invoke : UInt32 → UInt32 → UInt32 → Nat → EStateM String σ Int64)
    (live : σ → Finset UInt32) : Prop :=
  ∀ ptr len state funcIdx s v s', (invoke ptr len state funcIdx).run s = .ok v s' →
    ∃ resultPtr resultLen, v = (dispatchThunkResult resultPtr resultLen).toInt64 ∧
      resultPtr ∉ live s ∧ live s' = insert resultPtr (live s)

/-- The calls a sandboxed guest makes into the supervisor during one invocation, one after the
other; the first trap ends the invocation. -/
def invokeEach (codec : SandboxCodec) (sandboxContext : SandboxContext σ) (mapping : List Nat) (state : UInt32)
    (calls : List (Nat × List RuntimeValue)) : EStateM Escape σ (List (Option RuntimeValue)) :=
  calls.mapM fun (index, args) => invokeIndex codec sandboxContext mapping state index args

variable {codec : SandboxCodec} {sandboxContext : SandboxContext σ} {live : σ → Finset UInt32}
  (heap : HeapContract sandboxContext.supervisorContext live) (leaks : LeaksResult sandboxContext.invoke live)
include heap leaks

theorem live_invokeIndex {mapping : List Nat} {state : UInt32} {index : Nat} {args : List RuntimeValue}
    {s s' : σ} {value : Option RuntimeValue}
    (returned : (invokeIndex codec sandboxContext mapping state index args).run s = .ok value s') :
    live s' = live s := by
  obtain ⟨funcIdx, data, ptr, v, s₁, s₂, s₃, s₄, -, -, allocated, written, invoked, released,
    releasedResult⟩ := run_invokeIndex_eq_ok returned
  obtain ⟨fresh, grown⟩ := heap.allocate _ _ _ _ allocated
  have kept := heap.write _ _ _ _ written
  obtain ⟨resultPtr, resultLen, rfl, resultFresh, leaked⟩ := leaks _ _ _ _ _ _ _ invoked
  have freed := heap.deallocate _ _ _ released
  have freedResult := heap.deallocate _ _ _ releasedResult
  rw [unpackResult_dispatchThunkResult] at freedResult
  have resultFresh' : resultPtr ∉ insert ptr (live s) := by rwa [kept, grown] at resultFresh
  have apart : resultPtr ≠ ptr := fun same => resultFresh' (same ▸ Finset.mem_insert_self _ _)
  calc live s' = ((insert resultPtr (insert ptr (live s))).erase ptr).erase resultPtr := by
        rw [freedResult, freed, leaked, kept, grown]
    _ = (insert resultPtr (live s)).erase resultPtr := by
        rw [Finset.erase_insert_of_ne apart, Finset.erase_insert fresh]
    _ = live s := Finset.erase_insert (fun mem => resultFresh' (Finset.mem_insert_of_mem mem))

theorem live_run_invokeIndex {mapping : List Nat} {state : UInt32} :
    ∀ (calls : List (Nat × List RuntimeValue)) {s s' : σ} {values : List (Option RuntimeValue)},
      (invokeEach codec sandboxContext mapping state calls).run s = .ok values s' → live s' = live s
  | [], _, _, _, returned => by
    cases returned
    rfl
  | (index, args) :: rest, s, s', values, returned => by
    rw [invokeEach, List.mapM_cons] at returned
    obtain ⟨value, s₁, first, others⟩ := run_bind_eq_ok returned
    obtain ⟨values', s₂, later, finished⟩ := run_bind_eq_ok others
    cases finished
    rw [live_run_invokeIndex rest later, live_invokeIndex heap leaks first]

end Balance

end WasmedgeExecutor.Executor.WasmiBackend
