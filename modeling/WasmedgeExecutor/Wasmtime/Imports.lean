import WasmedgeExecutor.Interface.HostFunctions

/-!
The registry the wasmtime backend hands to `HostFunctions::register_static` (`imports.rs`): a
name still pending among the module's function imports leaves the pending map and is defined in
the linker, with `func_wrap`, as the function registered for it. So the first registration of a
name is the one the linker keeps.

The `wasmtime::Linker` is not part of the repository. It enters as `Linker`: `func_wrap` under
the module `env`, which may fail, and the function the linker then defines under a name.
`Linker.Lawful` is what the registry relies on: a name not yet defined is defined by
`func_wrap`, and every other name is left as it was.

Through it both backends bind every import to the same host function: WasmEdge's first match
in `host_functions()` is wasmtime's first registration (`registerStatic_registers_lookup`).
-/

set_option autoImplicit false
set_option relaxedAutoImplicit false

namespace WasmedgeExecutor.Wasmtime.Imports

open WasmedgeExecutor.Lib.FirstBinding
open WasmedgeExecutor.Lib.Outcome
open WasmedgeExecutor.Interface.HostFunctions
open WasmedgeExecutor.Wasmedge.Imports (Function lookup NamedFunction)

/-- What `register_static` uses of a `wasmtime::Linker`: `func_wrap("env", name, func)`, and the
function the linker defines under a name of `env`. -/
structure Linker (L F : Type) where
  funcWrap : L → String → F → Except String L
  defined : L → String → Option F

/-- `func_wrap` defines a name the linker does not define yet, and no other. -/
structure Linker.Lawful {L F : Type} (linker : Linker L F) : Prop where
  funcWrap_fresh : ∀ l name func, linker.defined l name = none →
    ∃ l', linker.funcWrap l name func = .ok l' ∧
      ∀ name', linker.defined l' name' = if name' = name then some func else linker.defined l name'

/-- `Registry`: the linker, and the keys of `pending_func_imports`. -/
structure Registry (L : Type) where
  linker : L
  pendingFuncImports : List String

variable {L F : Type} (linker : Linker L F)

/-- `Registry::register_static`. -/
def Registry.registerStatic (registry : Registry L) (fnName : String) (func : F) :
    Except String (Registry L) :=
  if fnName ∈ registry.pendingFuncImports then
    match linker.funcWrap registry.linker fnName func with
    | .error error =>
      .error s!"failed to register host function '{fnName}' with the WASM linker: {error}"
    | .ok defined => .ok ⟨defined, registry.pendingFuncImports.filter (· ≠ fnName)⟩
  else .ok registry

def wasmtimeRegistry : HostFunctionRegistry (Registry L) String F :=
  ⟨Registry.registerStatic linker⟩

def Registry.Fresh (registry : Registry L) : Prop :=
  ∀ name ∈ registry.pendingFuncImports, linker.defined registry.linker name = none

variable {linker}

theorem registerStatic_pending (lawful : linker.Lawful) {registry : Registry L}
    (fresh : registry.Fresh linker) {fnName : String} (waiting : fnName ∈ registry.pendingFuncImports)
    (func : F) :
    ∃ l', Registry.registerStatic linker registry fnName func =
        .ok ⟨l', registry.pendingFuncImports.filter (· ≠ fnName)⟩ ∧
      ∀ name, linker.defined l' name = if name = fnName then some func else linker.defined registry.linker name := by
  obtain ⟨l', wrapped, defines⟩ := lawful.funcWrap_fresh registry.linker fnName func (fresh fnName waiting)
  exact ⟨l', by simp [Registry.registerStatic, waiting, wrapped], defines⟩

theorem fresh_filter {registry : Registry L} (fresh : registry.Fresh linker) {fnName : String}
    {l' : L} (kept : ∀ name, name ≠ fnName → linker.defined l' name = linker.defined registry.linker name) :
    Registry.Fresh linker ⟨l', registry.pendingFuncImports.filter (· ≠ fnName)⟩ := by
  intro name mem
  simp only [List.mem_filter, decide_eq_true_eq] at mem
  rw [kept name mem.2]
  exact fresh name mem.1

theorem replay_wasmtimeRegistry (lawful : linker.Lawful) (stream : List (String × F)) :
    ∀ (registry : Registry L), registry.Fresh linker →
      ∃ final, replay (wasmtimeRegistry linker) stream registry = .ok final ∧
        ∀ name, linker.defined final.linker name =
          if name ∈ registry.pendingFuncImports then firstOf stream name
          else linker.defined registry.linker name := by
  induction stream with
  | nil =>
    intro registry fresh
    refine ⟨registry, rfl, fun name => ?_⟩
    by_cases waiting : name ∈ registry.pendingFuncImports
    · rw [if_pos waiting, fresh name waiting, firstOf_nil]
    · rw [if_neg waiting]
  | cons call rest ih =>
    intro registry fresh
    obtain ⟨fnName, func⟩ := call
    by_cases waiting : fnName ∈ registry.pendingFuncImports
    · obtain ⟨l', registered, defines⟩ := registerStatic_pending lawful fresh waiting func
      have kept : ∀ name, name ≠ fnName → linker.defined l' name = linker.defined registry.linker name :=
        fun name other => by rw [defines, if_neg other]
      obtain ⟨final, replayed, spec⟩ := ih _ (fresh_filter fresh kept)
      have step : replay (wasmtimeRegistry linker) ((fnName, func) :: rest) registry =
          replay (wasmtimeRegistry linker) rest ⟨l', registry.pendingFuncImports.filter (· ≠ fnName)⟩ := by
        rw [replay_cons]
        exact congrArg (· >>= replay (wasmtimeRegistry linker) rest) registered
      refine ⟨final, step.trans replayed, fun name => ?_⟩
      rw [spec name, firstOf_cons]
      by_cases hit : name = fnName
      · subst hit
        simp [waiting, defines]
      · simp [hit, Ne.symm hit, kept name hit]
    · obtain ⟨final, replayed, spec⟩ := ih registry fresh
      have unchanged : Registry.registerStatic linker registry fnName func = .ok registry := by
        simp [Registry.registerStatic, waiting]
      have step : replay (wasmtimeRegistry linker) ((fnName, func) :: rest) registry =
          replay (wasmtimeRegistry linker) rest registry := by
        rw [replay_cons]
        exact congrArg (· >>= replay (wasmtimeRegistry linker) rest) unchanged
      refine ⟨final, step.trans replayed, fun name => ?_⟩
      rw [spec name, firstOf_cons]
      by_cases hit : name = fnName
      · subst hit
        simp [waiting]
      · simp [Ne.symm hit]

/-- A linker as its table of names, where `func_wrap` refuses a name already defined. -/
def tableLinker : Linker (List (String × F)) F where
  funcWrap l name func :=
    if (firstOf l name).isSome then .error s!"import of {name} defined twice" else .ok (l ++ [(name, func)])
  defined := firstOf

theorem tableLinker_lawful : (tableLinker : Linker (List (String × F)) F).Lawful where
  funcWrap_fresh l name func undefined := by
    have absent : firstOf l name = none := undefined
    refine ⟨l ++ [(name, func)], by simp [tableLinker, absent], fun name' => ?_⟩
    show firstOf (l ++ [(name, func)]) name' = if name' = name then some func else firstOf l name'
    rw [firstOf_append, firstOf_cons, firstOf_nil]
    by_cases same : name' = name
    · subst same
      simp [absent]
    · rw [if_neg (Ne.symm same), if_neg same]
      cases firstOf l name' <;> rfl

variable [Function F]

/-- For every composition of host-function sets, wasmtime's `register_static` defines each
pending import with the function the WasmEdge backend binds it to, the first of its name in
`host_functions()`, and defines nothing else. -/
theorem registerStatic_registers_lookup (lawful : linker.Lawful) (set : HostFunctionSet F) (start : L)
    (pendingFuncImports : List String)
    (fresh : ∀ name ∈ pendingFuncImports, linker.defined start name = none) :
    ∃ final, registerStatic set (wasmtimeRegistry linker) ⟨start, pendingFuncImports⟩ = .ok final ∧
      ∀ name, linker.defined final.linker name =
        if name ∈ pendingFuncImports then lookup (hostFunctions set) name else linker.defined start name := by
  obtain ⟨final, replayed, spec⟩ := replay_wasmtimeRegistry lawful (calls set) ⟨start, pendingFuncImports⟩ fresh
  refine ⟨final, by rw [registerStatic_eq_replay]; exact replayed, fun name => ?_⟩
  rw [spec name, lookup_hostFunctions]

theorem registerStatic_registers_lookup_logging :
    (tableLinker : Linker (List (String × NamedFunction)) NamedFunction).Lawful ∧
      (∀ name ∈ ["ext_logging_log"], tableLinker.defined ([] : List (String × NamedFunction)) name = none) ∧
      ∃ final, registerStatic (.base [⟨"ext_logging_log", ⟨[.i32], none⟩⟩])
          (wasmtimeRegistry tableLinker) ⟨[], ["ext_logging_log"]⟩ = .ok final ∧
        ∀ name, tableLinker.defined final.linker name =
          if name ∈ ["ext_logging_log"] then
            lookup (hostFunctions (.base [(⟨"ext_logging_log", ⟨[.i32], none⟩⟩ : NamedFunction)])) name
          else tableLinker.defined ([] : List (String × NamedFunction)) name :=
  ⟨tableLinker_lawful, fun _ _ => rfl,
    registerStatic_registers_lookup tableLinker_lawful _ [] ["ext_logging_log"] fun _ _ => rfl⟩

end WasmedgeExecutor.Wasmtime.Imports
