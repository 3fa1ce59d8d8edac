import WasmedgeExecutor.Wasmedge.Util
import WasmedgeExecutor.Lib.Outcome
import WasmedgeExecutor.Lib.FirstBinding
import Mathlib

/-!
Import resolution of the WasmEdge backend (`imports.rs`): `prepare_imports` checks every import
of the module and registers a function for it in the `env` import object.

The import object is what `ImportObjectBuilder` records: a name and the function registered
under it, with the type it is registered at. `with_func_by_type` registers at the type it is
given and `with_func::<(), (), !>` at `() -> ()`; their failure paths, and those of `build` and
`register_import`, belong to `wasmedge_sdk` and are not modelled. The two `HashMap`s are
iterated in an order the source does not fix, so the iteration order is a parameter, any
permutation of the entries.
-/

set_option autoImplicit false
set_option relaxedAutoImplicit false

namespace WasmedgeExecutor.Wasmedge.Imports

open WasmedgeExecutor.Wasmedge.Util (ValType ValueType intoWasmedgeValType)
open WasmedgeExecutor.Lib.Outcome
open WasmedgeExecutor.Lib.FirstBinding (insert mem_insert key_insert)

/-- `wasmedge_sdk::FuncType`. -/
structure FuncType where
  args : List ValType
  returns : List ValType
  deriving DecidableEq, Repr

/-- `wasmedge_sdk::ExternalInstanceType`. -/
inductive ExternalInstanceType
  | func (ty : FuncType)
  | table
  | memory
  | global
  deriving DecidableEq, Repr

/-- `wasmedge_sdk::ImportType`: `ty()` may fail. -/
structure ImportType where
  moduleName : String
  name : String
  ty : Except String ExternalInstanceType
  deriving DecidableEq, Repr

/-- `sp_wasm_interface::Signature`. -/
structure Signature where
  args : List ValueType
  returnValue : Option ValueType
  deriving DecidableEq, Repr

/-- `sp_wasm_interface::Function`: what import resolution reads of a host function. -/
class Function (F : Type) where
  name : F → String
  signature : F → Signature

/-- A function the import object holds: a host function behind `function_static`, or the stub
that traps with `MissingHostFunc`. -/
inductive Registered (F : Type)
  | host (hostFunc : F) (ty : FuncType)
  | stub (ty : FuncType)
  deriving DecidableEq, Repr

def Registered.ty {F : Type} : Registered F → FuncType
  | .host _ ty => ty
  | .stub ty => ty

/-- The iteration order of a `HashMap` keyed by name: some permutation of its entries. -/
structure Iteration where
  order : ∀ {α : Type}, List (String × α) → List (String × α)
  perm : ∀ {α : Type} (entries : List (String × α)), (order entries).Perm entries

variable {F : Type} [Function F]

/-- The `FuncType` of a host function's signature, as `prepare_imports` builds it. -/
def signatureType (signature : Signature) : FuncType :=
  ⟨signature.args.map intoWasmedgeValType, signature.returnValue.toList.map intoWasmedgeValType⟩

/-- The first loop of `prepare_imports`: every import must be a function from `env`. -/
def collectImports : List ImportType → List (String × FuncType) → Except String (List (String × FuncType))
  | [], pending => .ok pending
  | importTy :: rest, pending =>
    if importTy.moduleName ≠ "env" then
      .error s!"host doesn't provide any imports from non-env module: {importTy.moduleName}:{importTy.name}"
    else
      match importTy.ty with
      | .ok (.func funcTy) => collectImports rest (insert pending importTy.name funcTy)
      | _ =>
        .error s!"host doesn't provide any non function imports: {importTy.moduleName}:{importTy.name}"

/-- The host function an import of this name binds to: the first of its name. -/
def lookup (hostFunctions : List F) (name : String) : Option F :=
  hostFunctions.find? (Function.name · = name)

/-- The second loop: bind each pending import to its host function, after checking that the
signatures agree, and push its wrapper to `HOST_FUNC_DATA`, whose `lock()` fails where the
mutex is poisoned; the imports without a host function are collected as missing. -/
def bindImports (hostFunctions : List F) (hostFuncDataPoisoned : Bool) :
    List (String × FuncType) → List (String × Registered F) → List (String × FuncType) →
      Except String (List (String × Registered F) × List (String × FuncType))
  | [], importObject, missing => .ok (importObject, missing)
  | (name, funcTy) :: rest, importObject, missing =>
    match lookup hostFunctions name with
    | some hostFunc =>
      if funcTy ≠ signatureType (Function.signature hostFunc) then
        .error s!"signature mismatch for: env:{name}"
      else if hostFuncDataPoisoned then .error "failed to lock the HOST_FUNC_DATA"
      else
        bindImports hostFunctions hostFuncDataPoisoned rest
          (importObject ++ [(name, .host hostFunc funcTy)]) missing
    | none => bindImports hostFunctions hostFuncDataPoisoned rest importObject (insert missing name funcTy)

/-- The end of `prepare_imports`: with missing imports allowed each gets the stub, registered
by `with_func::<(), (), !>`; otherwise they are named in the error. -/
def registerMissing (iteration : Iteration) (allowMissingFuncImports : Bool)
    (importObject : List (String × Registered F)) (missing : List (String × FuncType)) :
    Except String (List (String × Registered F)) :=
  if missing.isEmpty then .ok importObject
  else if allowMissingFuncImports then
    .ok (importObject ++ (iteration.order missing).map fun entry => (entry.1, .stub ⟨[], []⟩))
  else
    let names := (iteration.order missing).map fun entry => s!"'env:{entry.1}'"
    let joined := ", ".intercalate names
    .error s!"runtime requires function imports which are not present on the host: {joined}"

/-- `prepare_imports`: the entries of the `env` import object. -/
def prepareImports (iteration : Iteration) (imports : List ImportType) (hostFunctions : List F)
    (allowMissingFuncImports hostFuncDataPoisoned : Bool) : Except String (List (String × Registered F)) := do
  let pending ← collectImports imports []
  let (importObject, missing) ← bindImports hostFunctions hostFuncDataPoisoned (iteration.order pending) [] []
  registerMissing iteration allowMissingFuncImports importObject missing

/-- A module importing `env.missing : (i32) -> ()` with no host function of that name: with
missing imports allowed, `prepare_imports` succeeds and registers the stub at `() -> ()`, not
at the declared `(i32) -> ()` that the wasmtime backend's `func_new` would use. -/
theorem prepareImports_stub_type (iteration : Iteration) (hostFuncDataPoisoned : Bool) :
    prepareImports iteration [⟨"env", "missing", .ok (.func ⟨[.i32], []⟩)⟩] ([] : List F) true
        hostFuncDataPoisoned =
        .ok [("missing", .stub ⟨[], []⟩)] ∧
      (Registered.stub ⟨[], []⟩ : Registered F).ty ≠ ⟨[.i32], []⟩ := by
  have single : ∀ {α : Type} (entry : String × α), iteration.order [entry] = [entry] :=
    fun entry => List.perm_singleton.mp (iteration.perm [entry])
  refine ⟨?_, by simp [Registered.ty]⟩
  simp [prepareImports, collectImports, bindImports, registerMissing, lookup,
    WasmedgeExecutor.Lib.FirstBinding.insert, single]

/-! ## The import object of a successful resolution -/

/-- An import that `prepare_imports` accepts: a function imported from `env`. -/
def Accepted (importTy : ImportType) : Prop :=
  importTy.moduleName = "env" ∧ ∃ funcTy, importTy.ty = .ok (.func funcTy)

/-- The imports give each name a single declared type. -/
def SingleTyped (imports : List ImportType) : Prop :=
  ∀ a ∈ imports, ∀ b ∈ imports, a.name = b.name → a.ty = b.ty

theorem collectImports_fails {imports : List ImportType} {pending : List (String × FuncType)} :
    Fails (collectImports imports pending) ↔ ∃ importTy ∈ imports, ¬ Accepted importTy := by
  induction imports generalizing pending with
  | nil => simp [collectImports]
  | cons importTy rest ih =>
    by_cases env : importTy.moduleName = "env"
    · rcases kind : importTy.ty with _ | (funcTy | _ | _ | _) <;>
        simp [collectImports, env, kind, ih, Accepted]
    · simp [collectImports, env, Accepted]

theorem collectImports_ok {imports : List ImportType} {pending result : List (String × FuncType)}
    (collected : collectImports imports pending = .ok result) :
    (∀ name funcTy, (name, funcTy) ∈ result → (name, funcTy) ∈ pending ∨
        ∃ importTy ∈ imports, importTy.name = name ∧ importTy.ty = .ok (.func funcTy)) ∧
      ∀ name, ((∃ funcTy, (name, funcTy) ∈ pending) ∨ ∃ importTy ∈ imports, importTy.name = name) →
        ∃ funcTy, (name, funcTy) ∈ result := by
  induction imports generalizing pending with
  | nil =>
    simp only [collectImports, Except.ok.injEq] at collected
    subst collected
    simp
  | cons importTy rest ih =>
    by_cases env : importTy.moduleName = "env"
    · rcases kind : importTy.ty with _ | (funcTy | _ | _ | _) <;>
        simp [collectImports, env, kind] at collected
      obtain ⟨sound, complete⟩ := ih collected
      refine ⟨fun name ty mem => ?_, fun name present => complete name ?_⟩
      · rcases sound name ty mem with inserted | later
        · rcases mem_insert.mp inserted with ⟨rfl, rfl⟩ | ⟨earlier, -⟩
          · exact .inr ⟨importTy, List.mem_cons_self, rfl, kind⟩
          · exact .inl earlier
        · obtain ⟨other, mem', named, typed⟩ := later
          exact .inr ⟨other, List.mem_cons_of_mem _ mem', named, typed⟩
      · rw [key_insert]
        rcases present with earlier | ⟨other, mem', named⟩
        · exact .inl (.inr earlier)
        · rcases List.mem_cons.mp mem' with rfl | later
          · exact .inl (.inl named.symm)
          · exact .inr ⟨other, later, named⟩
    · simp [collectImports, env] at collected

theorem mem_collectImports {imports : List ImportType} {pending : List (String × FuncType)}
    (single : SingleTyped imports) (collected : collectImports imports [] = .ok pending)
    {name : String} {funcTy : FuncType} :
    (name, funcTy) ∈ pending ↔
      ∃ importTy ∈ imports, importTy.name = name ∧ importTy.ty = .ok (.func funcTy) := by
  obtain ⟨sound, complete⟩ := collectImports_ok collected
  constructor
  · intro mem
    simpa using sound name funcTy mem
  · rintro ⟨importTy, mem, rfl, typed⟩
    obtain ⟨funcTy', mem'⟩ := complete importTy.name (.inr ⟨importTy, mem, rfl⟩)
    obtain ⟨other, memOther, named, typedOther⟩ := (sound _ _ mem').resolve_left (by simp)
    have same := single importTy mem other memOther named.symm
    rw [typed, typedOther] at same
    simp only [Except.ok.injEq, ExternalInstanceType.func.injEq] at same
    rwa [same]

theorem bindImports_fails {hostFunctions : List F} {poisoned : Bool} {pending : List (String × FuncType)}
    {importObject : List (String × Registered F)} {missing : List (String × FuncType)} :
    Fails (bindImports hostFunctions poisoned pending importObject missing) ↔
      ∃ name funcTy hostFunc, (name, funcTy) ∈ pending ∧ lookup hostFunctions name = some hostFunc ∧
        (funcTy ≠ signatureType (Function.signature hostFunc) ∨ poisoned = true) := by
  induction pending generalizing importObject missing with
  | nil => simp [bindImports]
  | cons entry rest ih =>
    obtain ⟨name, funcTy⟩ := entry
    cases found : lookup hostFunctions name with
    | none =>
      simp only [bindImports, found, ih]
      grind
    | some hostFunc =>
      by_cases agrees : funcTy = signatureType (Function.signature hostFunc)
      · cases poisoned with
        | false =>
          simp only [bindImports, found, agrees, ne_eq, not_true_eq_false, if_false]
          grind
        | true =>
          simp only [bindImports, found, agrees, ne_eq, not_true_eq_false, if_false, if_true,
            fails_error, true_iff]
          exact ⟨name, _, hostFunc, List.mem_cons_self, found, .inr trivial⟩
      · simp only [bindImports, found, agrees, ne_eq, not_false_eq_true, if_true, fails_error,
          true_iff]
        exact ⟨name, funcTy, hostFunc, List.mem_cons_self, found, .inl agrees⟩

theorem bindImports_ok {hostFunctions : List F} {poisoned : Bool} {pending : List (String × FuncType)}
    {importObject importObject' : List (String × Registered F)}
    {missing missing' : List (String × FuncType)}
    (bound : bindImports hostFunctions poisoned pending importObject missing = .ok (importObject', missing')) :
    (∀ name registered, (name, registered) ∈ importObject' ↔ (name, registered) ∈ importObject ∨
        ∃ funcTy hostFunc, (name, funcTy) ∈ pending ∧ lookup hostFunctions name = some hostFunc ∧
          registered = .host hostFunc funcTy) ∧
      (∀ name, (∃ funcTy, (name, funcTy) ∈ missing') ↔ (∃ funcTy, (name, funcTy) ∈ missing) ∨
        ∃ funcTy, (name, funcTy) ∈ pending ∧ lookup hostFunctions name = none) := by
  induction pending generalizing importObject missing with
  | nil =>
    simp only [bindImports, Except.ok.injEq, Prod.mk.injEq] at bound
    obtain ⟨rfl, rfl⟩ := bound
    simp
  | cons entry rest ih =>
    obtain ⟨name, funcTy⟩ := entry
    cases found : lookup hostFunctions name with
    | none =>
      simp only [bindImports, found] at bound
      obtain ⟨registered, left⟩ := ih bound
      refine ⟨fun name' r => ?_, fun name' => ?_⟩
      · rw [registered]
        grind
      · rw [left, key_insert]
        grind
    | some hostFunc =>
      by_cases agrees : funcTy = signatureType (Function.signature hostFunc)
      · cases poisoned with
        | true => simp [bindImports, found, agrees] at bound
        | false => ?_
        simp only [bindImports, found, agrees, ne_eq, not_true_eq_false, if_false,
          Bool.false_eq_true] at bound
        obtain ⟨registered, left⟩ := ih bound
        refine ⟨fun name' r => ?_, fun name' => ?_⟩
        · rw [registered, List.mem_append, List.mem_singleton]
          grind
        · rw [left]
          grind
      · simp [bindImports, found, agrees] at bound

omit [Function F] in
theorem registerMissing_fails {iteration : Iteration} {allowMissingFuncImports : Bool}
    {importObject : List (String × Registered F)} {missing : List (String × FuncType)} :
    Fails (registerMissing iteration allowMissingFuncImports importObject missing) ↔
      missing ≠ [] ∧ allowMissingFuncImports = false := by
  cases allowMissingFuncImports <;> by_cases empty : missing = [] <;>
    simp [registerMissing, empty]

omit [Function F] in
theorem registerMissing_ok {iteration : Iteration} {allowMissingFuncImports : Bool}
    {importObject importObject' : List (String × Registered F)} {missing : List (String × FuncType)}
    (registered : registerMissing iteration allowMissingFuncImports importObject missing =
      .ok importObject') :
    (∀ entry ∈ importObject, entry ∈ importObject') ∧
      ∀ name funcTy, (name, funcTy) ∈ missing → (name, .stub ⟨[], []⟩) ∈ importObject' := by
  unfold registerMissing at registered
  split at registered
  · case isTrue empty =>
    simp only [Except.ok.injEq] at registered
    subst registered
    simp only [List.isEmpty_iff] at empty
    simp [empty]
  · split at registered
    · simp only [Except.ok.injEq] at registered
      subst registered
      refine ⟨fun entry mem => List.mem_append_left _ mem, fun name funcTy mem => ?_⟩
      have listed : (name, funcTy) ∈ iteration.order missing := (iteration.perm missing).mem_iff.mpr mem
      exact List.mem_append_right _ (List.mem_map.mpr ⟨_, listed, rfl⟩)
    · cases registered

theorem prepareImports_fails {iteration : Iteration} {imports : List ImportType}
    {hostFunctions : List F} {allowMissingFuncImports poisoned : Bool} (single : SingleTyped imports) :
    Fails (prepareImports iteration imports hostFunctions allowMissingFuncImports poisoned) ↔
      (∃ importTy ∈ imports, ¬ Accepted importTy) ∨
      (∃ importTy ∈ imports, ∃ funcTy hostFunc, importTy.ty = .ok (.func funcTy) ∧
        lookup hostFunctions importTy.name = some hostFunc ∧
        (funcTy ≠ signatureType (Function.signature hostFunc) ∨ poisoned = true)) ∨
      (allowMissingFuncImports = false ∧
        ∃ importTy ∈ imports, lookup hostFunctions importTy.name = none) := by
  cases collected : collectImports imports [] with
  | error e =>
    have rejected := collectImports_fails.mp (collected ▸ fails_error e)
    simp [prepareImports, collected, rejected]
  | ok pending =>
    have accepted : ∀ importTy ∈ imports, Accepted importTy := by
      have clean := (@collectImports_fails imports []).not
      simpa [collected] using clean
    have listed : ∀ name funcTy, (name, funcTy) ∈ iteration.order pending ↔
        ∃ importTy ∈ imports, importTy.name = name ∧ importTy.ty = .ok (.func funcTy) :=
      fun name funcTy => (iteration.perm pending).mem_iff.trans (mem_collectImports single collected)
    have mismatch := @bindImports_fails F _ hostFunctions poisoned (iteration.order pending) [] []
    simp only [listed] at mismatch
    cases bound : bindImports hostFunctions poisoned (iteration.order pending) [] [] with
    | error e =>
      rw [bound] at mismatch
      have found := mismatch.mp (fails_error e)
      simp only [prepareImports, collected, ok_bind, bound, error_bind, fails_error, true_iff]
      grind
    | ok result =>
      obtain ⟨importObject, missing⟩ := result
      rw [bound] at mismatch
      obtain ⟨-, left⟩ := bindImports_ok bound
      simp only [listed] at left
      have nonempty : missing ≠ [] ↔ ∃ importTy ∈ imports, lookup hostFunctions importTy.name = none := by
        constructor
        · intro some
          obtain ⟨⟨name, funcTy⟩, rest, rfl⟩ := List.exists_cons_of_ne_nil some
          obtain ⟨funcTy', ⟨importTy, mem', rfl, -⟩, found⟩ :=
            ((left name).mp ⟨funcTy, List.mem_cons_self⟩).resolve_left (by simp)
          exact ⟨importTy, mem', found⟩
        · rintro ⟨importTy, mem, found⟩
          obtain ⟨funcTy, typed⟩ := (accepted importTy mem).2
          obtain ⟨funcTy', present⟩ :=
            (left importTy.name).mpr (.inr ⟨funcTy, ⟨importTy, mem, rfl, typed⟩, found⟩)
          exact List.ne_nil_of_mem present
      have noReject : ¬ ∃ importTy ∈ imports, ¬ Accepted importTy := by
        rintro ⟨importTy, mem, bad⟩
        exact bad (accepted importTy mem)
      have noMismatch : ¬ ∃ importTy ∈ imports, ∃ funcTy hostFunc,
          importTy.ty = .ok (.func funcTy) ∧ lookup hostFunctions importTy.name = some hostFunc ∧
            (funcTy ≠ signatureType (Function.signature hostFunc) ∨ poisoned = true) := by
        rintro ⟨importTy, mem, funcTy, hostFunc, typed, found, differs⟩
        exact (not_fails_ok _) (mismatch.mpr ⟨_, funcTy, hostFunc, ⟨importTy, mem, rfl, typed⟩, found, differs⟩)
      simp only [prepareImports, collected, ok_bind, bound, registerMissing_fails, nonempty,
        noReject, noMismatch, false_or]
      exact and_comm

/-- A successful resolution registers every import of the module: the host function of its
name, at the declared type, which is then the host function's own; otherwise the stub, at
`() -> ()` whatever the declared type. -/
theorem prepareImports_ok {iteration : Iteration} {imports : List ImportType}
    {hostFunctions : List F} {allowMissingFuncImports hostFuncDataPoisoned : Bool}
    {importObject : List (String × Registered F)} (single : SingleTyped imports)
    (resolved : prepareImports iteration imports hostFunctions allowMissingFuncImports hostFuncDataPoisoned =
      .ok importObject) :
    ∀ importTy ∈ imports, ∃ funcTy, importTy.ty = .ok (.func funcTy) ∧
      ((∃ hostFunc, lookup hostFunctions importTy.name = some hostFunc ∧
          funcTy = signatureType (Function.signature hostFunc) ∧
          (importTy.name, .host hostFunc funcTy) ∈ importObject) ∨
        (lookup hostFunctions importTy.name = none ∧
          (importTy.name, .stub ⟨[], []⟩) ∈ importObject)) := by
  obtain ⟨pending, collected, rest⟩ := bind_eq_ok.mp resolved
  obtain ⟨⟨bound, missing⟩, binding, finished⟩ := bind_eq_ok.mp rest
  obtain ⟨kept, stubbed⟩ := registerMissing_ok finished
  obtain ⟨registered, left⟩ := bindImports_ok binding
  have agrees := (@bindImports_fails F _ hostFunctions hostFuncDataPoisoned (iteration.order pending) [] []).not
  rw [binding] at agrees
  intro importTy mem
  have accepted : Accepted importTy := by
    have clean := (@collectImports_fails imports []).not
    simp only [collected, not_fails_ok, not_false_eq_true, not_exists, not_and, not_not,
      true_iff] at clean
    exact clean importTy mem
  obtain ⟨funcTy, typed⟩ := accepted.2
  have listed : (importTy.name, funcTy) ∈ iteration.order pending :=
    (iteration.perm pending).mem_iff.mpr ((mem_collectImports single collected).mpr ⟨importTy, mem, rfl, typed⟩)
  refine ⟨funcTy, typed, ?_⟩
  cases found : lookup hostFunctions importTy.name with
  | some hostFunc =>
    have same : funcTy = signatureType (Function.signature hostFunc) := by
      by_contra differs
      exact agrees.mp (not_fails_ok _) ⟨_, _, _, listed, found, .inl differs⟩
    exact .inl ⟨hostFunc, rfl, same,
      kept _ ((registered _ _).mpr (.inr ⟨funcTy, hostFunc, listed, found, rfl⟩))⟩
  | none =>
    obtain ⟨funcTy', present⟩ := (left importTy.name).mpr (.inr ⟨funcTy, listed, found⟩)
    exact .inr ⟨rfl, stubbed _ _ present⟩

structure NamedFunction where
  name : String
  signature : Signature

instance : Function NamedFunction := ⟨NamedFunction.name, NamedFunction.signature⟩

def insertionOrder : Iteration := ⟨fun entries => entries, fun entries => List.Perm.refl entries⟩

/-- `env.ext_logging_log : (i32) -> ()`, which the host provides, and `env.missing : () -> ()`,
which it does not. -/
def loggingAndMissing : List ImportType :=
  [⟨"env", "ext_logging_log", .ok (.func ⟨[.i32], []⟩)⟩, ⟨"env", "missing", .ok (.func ⟨[], []⟩)⟩]

def loggingHost : List NamedFunction := [⟨"ext_logging_log", ⟨[.i32], none⟩⟩]

/-- The import object `prepare_imports` builds for them: the host function, then the stub. -/
def loggingObject : List (String × Registered NamedFunction) :=
  [("ext_logging_log", .host ⟨"ext_logging_log", ⟨[.i32], none⟩⟩ ⟨[.i32], []⟩), ("missing", .stub ⟨[], []⟩)]

theorem prepareImports_ok_loggingAndMissing :
    SingleTyped loggingAndMissing ∧
      ∀ importTy ∈ loggingAndMissing, ∃ funcTy, importTy.ty = .ok (.func funcTy) ∧
        ((∃ hostFunc, lookup loggingHost importTy.name = some hostFunc ∧
            funcTy = signatureType (Function.signature hostFunc) ∧
            (importTy.name, .host hostFunc funcTy) ∈ loggingObject) ∨
          (lookup loggingHost importTy.name = none ∧ (importTy.name, .stub ⟨[], []⟩) ∈ loggingObject)) := by
  have single : SingleTyped loggingAndMissing := by
    simp [SingleTyped, loggingAndMissing]
  have resolved : prepareImports insertionOrder loggingAndMissing loggingHost true false = .ok loggingObject := by
    simp [prepareImports, collectImports, bindImports, registerMissing, lookup, insertionOrder,
      loggingAndMissing, loggingHost, loggingObject, signatureType, intoWasmedgeValType,
      WasmedgeExecutor.Lib.FirstBinding.insert, Function.name, Function.signature]
  exact ⟨single, prepareImports_ok single resolved⟩

end WasmedgeExecutor.Wasmedge.Imports
