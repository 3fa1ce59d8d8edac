import WasmedgeExecutor.Lib.FirstBinding
import WasmedgeExecutor.Lib.Outcome
import WasmedgeExecutor.Wasmedge.Imports

/-!
Sets of host functions (`sp_wasm_interface::HostFunctions`) and the two ways a backend reads
them. `host_functions` lists the functions, and the WasmEdge backend binds an import to the
first of its name. `register_static` instead streams the functions into a registry; for
`ExtendedHostFunctions` it goes through a `Proxy` that registers the overlay first and then
drops the base functions it has already seen.

A base interface is generated by the runtime-interface macro, whose `host_functions` and
`register_static` list the same functions in the same order: it is modelled as that list.
The `Proxy` only decides which calls reach the registry below it, so its effect is a filter on
the stream of calls (`registerStatic_eq_replay`); the first call of each name in that stream is
the first host function of that name (`lookup_hostFunctions`).
-/

set_option autoImplicit false
set_option relaxedAutoImplicit false

namespace WasmedgeExecutor.Interface.HostFunctions

open WasmedgeExecutor.Lib.FirstBinding
open WasmedgeExecutor.Lib.Outcome
open WasmedgeExecutor.Wasmedge.Imports (Function lookup)

/-- A `HostFunctions` implementation, as the composition that builds it. -/
inductive HostFunctionSet (F : Type)
  /-- An interface generated by the runtime-interface macro. -/
  | base (functions : List F)
  /-- A tuple of sets. -/
  | tuple (members : List (HostFunctionSet F))
  /-- `ExtendedHostFunctions<Base, Overlay>`. -/
  | extended (base overlay : HostFunctionSet F)

/-- `HostFunctionRegistry::register_static`, as a transition of the registry's state. -/
structure HostFunctionRegistry (R E F : Type) where
  registerStatic : R → String → F → Except E R

/-- The state of `ExtendedHostFunctions`' `Proxy` over a registry of state `R`. -/
structure Proxy (R : Type) where
  registry : R
  seenOverlay : List String
  seenBase : List String
  overlayRegistered : Bool

variable {F E : Type} [Function F]

mutual
/-- `HostFunctions::host_functions`. -/
def hostFunctions : HostFunctionSet F → List F
  | .base functions => functions
  | .tuple members => memberFunctions members
  | .extended base overlay =>
    let overlayFunctions := hostFunctions overlay
    (hostFunctions base).filter (fun hostFn =>
      !overlayFunctions.any fun extHostFn => Function.name hostFn == Function.name extHostFn) ++
      overlayFunctions

/-- The functions of a tuple: its members' in order. -/
def memberFunctions : List (HostFunctionSet F) → List F
  | [] => []
  | member :: rest => hostFunctions member ++ memberFunctions rest
end

/-- `Proxy::register_static`: in the overlay phase a name is forwarded the first time it is
seen; in the base phase the first time it is seen in the base, and only if the overlay did not
have it. -/
def Proxy.registerStatic {R : Type} (registry : HostFunctionRegistry R E F) (proxy : Proxy R)
    (fnName : String) (func : F) : Except E (Proxy R) :=
  if proxy.overlayRegistered then
    -- `seen_base.insert` returned false: "Duplicate base host function"
    if fnName ∈ proxy.seenBase then .ok proxy
    else
      let proxy := { proxy with seenBase := proxy.seenBase ++ [fnName] }
      -- "Overriding base host function"
      if fnName ∈ proxy.seenOverlay then .ok proxy
      else do
        let inner ← registry.registerStatic proxy.registry fnName func
        return { proxy with registry := inner }
  -- `seen_overlay.insert` returned false: "Duplicate overlay host function"
  else if fnName ∈ proxy.seenOverlay then .ok proxy
  else do
    let proxy := { proxy with seenOverlay := proxy.seenOverlay ++ [fnName] }
    let inner ← registry.registerStatic proxy.registry fnName func
    return { proxy with registry := inner }

def proxyRegistry {R : Type} (registry : HostFunctionRegistry R E F) :
    HostFunctionRegistry (Proxy R) E F :=
  ⟨Proxy.registerStatic registry⟩

/-- The `register_static` of a macro-generated interface: each function under its name. -/
def registerAll {R : Type} (registry : HostFunctionRegistry R E F) (functions : List F) (state : R) :
    Except E R :=
  functions.foldlM (fun state func => registry.registerStatic state (Function.name func) func) state

mutual
/-- `HostFunctions::register_static`. -/
def registerStatic : HostFunctionSet F → {R : Type} → HostFunctionRegistry R E F → R → Except E R
  | .base functions, _, registry, state => registerAll registry functions state
  | .tuple members, _, registry, state => registerMembers members registry state
  | .extended base overlay, _, registry, state => do
    let proxy ← registerStatic overlay (proxyRegistry registry) ⟨state, [], [], false⟩
    let proxy ← registerStatic base (proxyRegistry registry) { proxy with overlayRegistered := true }
    return proxy.registry

/-- The `register_static` of a tuple: its members' in order, stopping at the first error. -/
def registerMembers : List (HostFunctionSet F) → {R : Type} → HostFunctionRegistry R E F → R →
    Except E R
  | [], _, _, state => .ok state
  | member :: rest, _, registry, state => do
    let state ← registerStatic member registry state
    registerMembers rest registry state
end

/-! ## The stream of registrations -/

/-- Feeding a stream of calls `(name, function)` to a registry. -/
def replay {R : Type} (registry : HostFunctionRegistry R E F) (stream : List (String × F))
    (state : R) : Except E R :=
  stream.foldlM (fun state call => registry.registerStatic state call.1 call.2) state

mutual
/-- The calls a set's `register_static` makes on the registry it is given. -/
def calls : HostFunctionSet F → List (String × F)
  | .base functions => functions.map fun func => (Function.name func, func)
  | .tuple members => memberCalls members
  | .extended base overlay =>
    let overlayCalls := keepFirst [] (calls overlay)
    overlayCalls ++ (keepFirst [] (calls base)).filter fun call => call.1 ∉ overlayCalls.map (·.1)

def memberCalls : List (HostFunctionSet F) → List (String × F)
  | [] => []
  | member :: rest => calls member ++ memberCalls rest
end

omit [Function F] in
@[simp] theorem replay_nil {R : Type} (registry : HostFunctionRegistry R E F) (state : R) :
    replay registry [] state = .ok state := rfl

omit [Function F] in
theorem replay_cons {R : Type} (registry : HostFunctionRegistry R E F) (name : String) (func : F)
    (rest : List (String × F)) (state : R) :
    replay registry ((name, func) :: rest) state =
      registry.registerStatic state name func >>= replay registry rest := rfl

omit [Function F] in
theorem replay_append {R : Type} (registry : HostFunctionRegistry R E F)
    (front back : List (String × F)) (state : R) :
    replay registry (front ++ back) state = replay registry front state >>= replay registry back :=
  List.foldlM_append

section Proxy

variable {R : Type} (registry : HostFunctionRegistry R E F) (state : R) (name : String) (func : F)
  (seenOverlay seenBase : List String)

omit [Function F]

/-! One lemma per branch of `Proxy::register_static`. -/

theorem proxy_overlay_seen (seen : name ∈ seenOverlay) :
    (proxyRegistry registry).registerStatic ⟨state, seenOverlay, seenBase, false⟩ name func =
      .ok ⟨state, seenOverlay, seenBase, false⟩ := by
  simp [proxyRegistry, Proxy.registerStatic, seen]

theorem proxy_overlay_fresh (fresh : name ∉ seenOverlay) :
    (proxyRegistry registry).registerStatic ⟨state, seenOverlay, seenBase, false⟩ name func =
      registry.registerStatic state name func >>= fun inner =>
        .ok ⟨inner, seenOverlay ++ [name], seenBase, false⟩ := by
  simp [proxyRegistry, Proxy.registerStatic, fresh]

theorem proxy_base_seen (seen : name ∈ seenBase) :
    (proxyRegistry registry).registerStatic ⟨state, seenOverlay, seenBase, true⟩ name func =
      .ok ⟨state, seenOverlay, seenBase, true⟩ := by
  simp [proxyRegistry, Proxy.registerStatic, seen]

theorem proxy_base_overridden (fresh : name ∉ seenBase) (overridden : name ∈ seenOverlay) :
    (proxyRegistry registry).registerStatic ⟨state, seenOverlay, seenBase, true⟩ name func =
      .ok ⟨state, seenOverlay, seenBase ++ [name], true⟩ := by
  simp [proxyRegistry, Proxy.registerStatic, fresh, overridden]

theorem proxy_base_fresh (fresh : name ∉ seenBase) (own : name ∉ seenOverlay) :
    (proxyRegistry registry).registerStatic ⟨state, seenOverlay, seenBase, true⟩ name func =
      registry.registerStatic state name func >>= fun inner =>
        .ok ⟨inner, seenOverlay, seenBase ++ [name], true⟩ := by
  simp [proxyRegistry, Proxy.registerStatic, fresh, own]

end Proxy

omit [Function F] in
theorem replay_proxy_overlay {R : Type} (registry : HostFunctionRegistry R E F)
    (stream : List (String × F)) (state : R) (seenOverlay seenBase : List String) :
    replay (proxyRegistry registry) stream ⟨state, seenOverlay, seenBase, false⟩ =
      replay registry (keepFirst seenOverlay stream) state >>= fun inner =>
        .ok ⟨inner, seenOverlay ++ (keepFirst seenOverlay stream).map (·.1), seenBase, false⟩ := by
  induction stream generalizing state seenOverlay with
  | nil => simp [keepFirst]
  | cons call rest ih =>
    obtain ⟨name, func⟩ := call
    by_cases seen : name ∈ seenOverlay
    · rw [replay_cons, proxy_overlay_seen registry state name func seenOverlay seenBase seen,
        ok_bind, ih]
      simp only [keepFirst, seen, if_true]
    · rw [replay_cons, proxy_overlay_fresh registry state name func seenOverlay seenBase seen,
        bind_assoc]
      simp only [ok_bind, ih, keepFirst, seen, if_false, replay_cons, bind_assoc, List.map_cons,
        List.append_assoc, List.singleton_append]

omit [Function F] in
theorem replay_proxy_base {R : Type} (registry : HostFunctionRegistry R E F)
    (stream : List (String × F)) (state : R) (seenOverlay seenBase : List String) :
    replay (proxyRegistry registry) stream ⟨state, seenOverlay, seenBase, true⟩ =
      replay registry ((keepFirst seenBase stream).filter fun call => call.1 ∉ seenOverlay) state >>=
        fun inner => .ok ⟨inner, seenOverlay, seenBase ++ (keepFirst seenBase stream).map (·.1), true⟩ := by
  induction stream generalizing state seenBase with
  | nil => simp [keepFirst]
  | cons call rest ih =>
    obtain ⟨name, func⟩ := call
    by_cases seen : name ∈ seenBase
    · rw [replay_cons, proxy_base_seen registry state name func seenOverlay seenBase seen,
        ok_bind, ih]
      simp only [keepFirst, seen, if_true]
    · by_cases overridden : name ∈ seenOverlay
      · rw [replay_cons,
          proxy_base_overridden registry state name func seenOverlay seenBase seen overridden,
          ok_bind, ih]
        simp [keepFirst, seen, overridden]
      · rw [replay_cons, proxy_base_fresh registry state name func seenOverlay seenBase seen overridden,
          bind_assoc]
        simp [ih, keepFirst, seen, overridden, replay_cons, bind_assoc]

mutual
theorem registerStatic_eq_replay : ∀ (set : HostFunctionSet F) {R : Type}
    (registry : HostFunctionRegistry R E F) (state : R),
    registerStatic set registry state = replay registry (calls set) state
  | .base functions, _, registry, state => by
    simp only [registerStatic, registerAll, calls, replay, List.foldlM_map]
  | .tuple members, _, registry, state => by
    simp only [registerStatic, calls]
    exact registerMembers_eq_replay members registry state
  | .extended base overlay, _, registry, state => by
    simp only [registerStatic, calls, registerStatic_eq_replay overlay,
      registerStatic_eq_replay base, replay_proxy_overlay, bind_assoc, ok_bind, List.nil_append,
      replay_proxy_base, pure_eq, replay_append, bind_ok_self]
  termination_by set => sizeOf set

theorem registerMembers_eq_replay : ∀ (members : List (HostFunctionSet F)) {R : Type}
    (registry : HostFunctionRegistry R E F) (state : R),
    registerMembers members registry state = replay registry (memberCalls members) state
  | [], _, _, _ => rfl
  | member :: rest, _, registry, state => by
    simp only [registerMembers, memberCalls, replay_append, registerStatic_eq_replay member,
      registerMembers_eq_replay rest]
  termination_by members => sizeOf members
end

/-! ## The first function of each name -/

section Lookup

variable (name : String)

theorem lookup_append (front back : List F) :
    lookup (front ++ back) name = (lookup front name).or (lookup back name) := by
  simp [lookup, List.find?_append]

theorem lookup_eq_firstOf (functions : List F) :
    lookup functions name = firstOf (functions.map fun func => (Function.name func, func)) name := by
  induction functions with
  | nil => rfl
  | cons func rest ih =>
    by_cases hit : Function.name func = name
    · simp [lookup, firstOf_cons, hit]
    · simp only [List.map_cons, firstOf_cons, hit, if_false, ← ih]
      simp [lookup, hit]

theorem any_name_eq (others : List F) (hostFn : F) :
    (others.any fun extHostFn => Function.name hostFn == Function.name extHostFn) =
      (lookup others (Function.name hostFn)).isSome := by
  rw [Bool.eq_iff_iff, List.any_eq_true, lookup, List.find?_isSome]
  simp only [beq_iff_eq, decide_eq_true_eq]
  constructor
  · rintro ⟨g, mem, same⟩
    exact ⟨g, mem, same.symm⟩
  · rintro ⟨g, mem, same⟩
    exact ⟨g, mem, same.symm⟩

theorem lookup_cons_of_eq {func : F} (hit : Function.name func = name) (rest : List F) :
    lookup (func :: rest) name = some func := by
  simp [lookup, hit]

theorem lookup_cons_of_ne {func : F} (miss : Function.name func ≠ name) (rest : List F) :
    lookup (func :: rest) name = lookup rest name := by
  simp [lookup, miss]

theorem lookup_filter_unnamed (functions others : List F) :
    lookup (functions.filter fun hostFn =>
        !others.any fun extHostFn => Function.name hostFn == Function.name extHostFn) name =
      if (lookup others name).isSome then none else lookup functions name := by
  have unnamed : (fun hostFn => !others.any fun extHostFn =>
      Function.name hostFn == Function.name extHostFn) =
        fun hostFn => !(lookup others (Function.name hostFn)).isSome :=
    funext fun hostFn => by rw [any_name_eq]
  rw [unnamed]
  induction functions with
  | nil => simp [lookup]
  | cons func rest ih =>
    rw [List.filter_cons]
    by_cases hit : Function.name func = name
    · cases named : lookup others name with
      | none =>
        rw [if_pos (by simp [hit, named]), lookup_cons_of_eq name hit, lookup_cons_of_eq name hit]
        rfl
      | some g =>
        rw [if_neg (by simp [hit, named]), ih, named]
        rfl
    · split
      · rw [lookup_cons_of_ne name hit, lookup_cons_of_ne name hit, ih]
      · rw [lookup_cons_of_ne name hit, ih]

theorem lookup_extended (base overlay : HostFunctionSet F) :
    lookup (hostFunctions (.extended base overlay)) name =
      (lookup (hostFunctions overlay) name).or (lookup (hostFunctions base) name) := by
  simp only [hostFunctions, lookup_append, lookup_filter_unnamed]
  cases lookup (hostFunctions overlay) name <;> simp

theorem firstOf_calls_extended (base overlay : HostFunctionSet F) :
    firstOf (calls (.extended base overlay)) name =
      (firstOf (calls overlay) name).or (firstOf (calls base) name) := by
  have seen : name ∈ (keepFirst [] (calls overlay)).map (·.1) ↔ firstOf (calls overlay) name ≠ none := by
    have kept : firstOf (keepFirst [] (calls overlay)) name = firstOf (calls overlay) name := by simp
    rw [← kept, ne_eq, firstOf_eq_none, not_not]
  simp only [calls, firstOf_append, firstOf_keepFirst, firstOf_filter_not_mem, List.not_mem_nil,
    if_false]
  cases overlaid : firstOf (calls overlay) name with
  | none => simp [overlaid] at seen; simp [seen]
  | some func => simp

end Lookup

mutual
theorem lookup_hostFunctions : ∀ (set : HostFunctionSet F) (name : String),
    lookup (hostFunctions set) name = firstOf (calls set) name
  | .base functions, name => lookup_eq_firstOf name functions
  | .tuple members, name => by
    simp only [hostFunctions, calls]
    exact lookup_memberFunctions members name
  | .extended base overlay, name => by
    rw [lookup_extended, firstOf_calls_extended, lookup_hostFunctions overlay,
      lookup_hostFunctions base]
  termination_by set => sizeOf set

theorem lookup_memberFunctions : ∀ (members : List (HostFunctionSet F)) (name : String),
    lookup (memberFunctions members) name = firstOf (memberCalls members) name
  | [], _ => rfl
  | member :: rest, name => by
    rw [memberFunctions, memberCalls, lookup_append, firstOf_append, lookup_hostFunctions member,
      lookup_memberFunctions rest]
  termination_by members => sizeOf members
end

end WasmedgeExecutor.Interface.HostFunctions
