import WasmedgeExecutor.Executor.Elements
import WasmedgeExecutor.Wasmedge.Util
import WasmedgeExecutor.Lib.Outcome
import Mathlib

/-!
The two snapshots that fast instance reuse restores an instance from
(`data_segments_snapshot.rs`, `globals_snapshot.rs`): the offset and bytes of every data segment
of the runtime blob, and the values of the mutable globals that `expose_mutable_globals`
exported, as an instance holds them once it is instantiated.

Both are generic in the source. The data segments are written through any closure that sets
memory; here the closure passes the memory along, and a failed write leaves it as it was. The
globals are read and set through the `InstanceGlobals` trait, which a backend implements; here
the trait is the record of its three methods, with `none` for a panic.
-/

set_option autoImplicit false
set_option relaxedAutoImplicit false

namespace WasmedgeExecutor.Executor.Snapshot

open WasmedgeExecutor.Executor.Elements (WasmModule)
open WasmedgeExecutor.Wasmedge.Util (Value)
open WasmedgeExecutor.Lib.Outcome (bind_eq_ok map_eq_ok)

/-! ## Data segments -/

/-- The first instruction of an offset expression, as the snapshot tells them apart: `other`
is any other instruction, with its `Debug` text. -/
inductive Instruction
  | i32Const (v : Int32)
  | getGlobal (index : UInt32)
  | other (debug : String)
  deriving DecidableEq, Repr

/-- `DataSegment` of `parity_wasm`: the offset expression of an active segment (`none` for a
passive one) and the bytes. -/
structure DataSegment where
  offset : Option (List Instruction)
  value : List UInt8
  deriving DecidableEq, Repr

/-- The errors `DataSegmentsSnapshot::take` returns. -/
inductive Error
  | sharedMemUnsupported
  | importedGlobalsUnsupported
  | initializerHasTooManyExpressions
  | invalidInitializerExpression (debug : String)
  deriving DecidableEq, Repr

/-- `DataSegmentsSnapshot`: the offset and the bytes of every data segment, in order. -/
structure DataSegmentsSnapshot where
  dataSegments : List (UInt32 × List UInt8)
  deriving DecidableEq, Repr

/-- The closure `take` maps over the segments. -/
def takeSegment (segment : DataSegment) : Except Error (UInt32 × List UInt8) :=
  match segment.offset with
  | none => .error .sharedMemUnsupported
  -- `[op, End]`: the source checks the length only
  | some [op, _] =>
    match op with
    | .i32Const v => .ok (v.toUInt32, segment.value)
    | .getGlobal _ => .error .importedGlobalsUnsupported
    | .other debug => .error (.invalidInitializerExpression debug)
  | some _ => .error .initializerHasTooManyExpressions

/-- `DataSegmentsSnapshot::take`, over `data_segments()` of the blob. -/
def DataSegmentsSnapshot.take (dataSegments : List DataSegment) : Except Error DataSegmentsSnapshot :=
  (dataSegments.mapM takeSegment).map DataSegmentsSnapshot.mk

/-- The loop of `apply`: each segment is written in turn, and the first error stops it with the
memory as the writes before it left it. -/
def applySegments {σ ε : Type} (memorySet : σ → UInt32 → List UInt8 → Option (Except ε σ)) :
    List (UInt32 × List UInt8) → σ → Option (Except ε Unit × σ)
  | [], memory => some (.ok (), memory)
  | (offset, contents) :: rest, memory =>
    match memorySet memory offset contents with
    | none => none
    | some (.error e) => some (.error e, memory)
    | some (.ok memory') => applySegments memorySet rest memory'

/-- `DataSegmentsSnapshot::apply`. -/
def DataSegmentsSnapshot.apply {σ ε : Type} (snapshot : DataSegmentsSnapshot)
    (memorySet : σ → UInt32 → List UInt8 → Option (Except ε σ)) (memory : σ) :
    Option (Except ε Unit × σ) :=
  applySegments memorySet snapshot.dataSegments memory

theorem takeSegment_eq_ok {segment : DataSegment} {saved : UInt32 × List UInt8}
    (taken : takeSegment segment = .ok saved) :
    ∃ v rest, segment.offset = some [.i32Const v, rest] ∧ saved = (v.toUInt32, segment.value) := by
  unfold takeSegment at taken
  split at taken
  · cases taken
  · case _ op rest found =>
    cases op with
    | i32Const v =>
      cases taken
      exact ⟨v, rest, found, rfl⟩
    | getGlobal _ => cases taken
    | other _ => cases taken
  · cases taken

theorem take_eq_ok {dataSegments : List DataSegment} {snapshot : DataSegmentsSnapshot}
    (taken : DataSegmentsSnapshot.take dataSegments = .ok snapshot) :
    List.Forall₂ (fun segment saved => ∃ v rest, segment.offset = some [.i32Const v, rest] ∧
      saved = (v.toUInt32, segment.value)) dataSegments snapshot.dataSegments := by
  obtain ⟨saveds, mapped, rfl⟩ := map_eq_ok.mp taken
  clear taken
  induction dataSegments generalizing saveds with
  | nil =>
    cases mapped
    exact .nil
  | cons segment rest ih =>
    rw [List.mapM_cons, bind_eq_ok] at mapped
    obtain ⟨saved, first, mapped⟩ := mapped
    rw [bind_eq_ok] at mapped
    obtain ⟨others, taken, mapped⟩ := mapped
    cases mapped
    exact .cons (takeSegment_eq_ok first) (ih others taken)

/-! ## Globals -/

/-- `ExposedMutableGlobalsSet::collect`: the names of the exported globals that start with
`exported_internal_global`, in the order of the export section. -/
def ExposedMutableGlobalsSet.collect {M : Type} (wasm : WasmModule M) (runtimeBlob : M) : List String :=
  ((wasm.exportSection runtimeBlob).getD []).filterMap fun entry =>
    match entry.internal with
    | .global _ => if entry.field.startsWith "exported_internal_global" then some entry.field else none
    | _ => none

/-- The `InstanceGlobals` trait over instances `I` with global handles `G`: a handle to the
global exported under a name, the value behind a handle and setting it. -/
structure InstanceGlobals (I G : Type) where
  getGlobal : I → String → Option G
  getGlobalValue : I → G → Option Value
  setGlobalValue : I → G → Value → Option I

/-- `SavedValue`: a global and the value it had. -/
structure SavedValue (G : Type) where
  handle : G
  value : Value
  deriving DecidableEq, Repr

/-- `GlobalsSnapshot`. -/
structure GlobalsSnapshot (G : Type) where
  savedValues : List (SavedValue G)
  deriving DecidableEq, Repr

section Globals

variable {I G : Type} (instanceGlobals : InstanceGlobals I G)

/-- `GlobalsSnapshot::take`: the handle and the value of every global of the set. -/
def GlobalsSnapshot.take (mutableGlobals : List String) (instance_ : I) : Option (GlobalsSnapshot G) :=
  (mutableGlobals.mapM fun globalName => do
    let handle ← instanceGlobals.getGlobal instance_ globalName
    let value ← instanceGlobals.getGlobalValue instance_ handle
    pure (SavedValue.mk handle value)).map GlobalsSnapshot.mk

/-- `GlobalsSnapshot::apply`: every saved value is set back, in order. -/
def GlobalsSnapshot.apply (snapshot : GlobalsSnapshot G) (instance_ : I) : Option I :=
  snapshot.savedValues.foldlM
    (fun instance_ savedValue => instanceGlobals.setGlobalValue instance_ savedValue.handle savedValue.value)
    instance_

end Globals

section GlobalsSpec

variable {I G : Type} {instanceGlobals : InstanceGlobals I G}

theorem take_eq_some {mutableGlobals : List String} {instance_ : I} {snapshot : GlobalsSnapshot G}
    (taken : GlobalsSnapshot.take instanceGlobals mutableGlobals instance_ = some snapshot) :
    List.Forall₂ (fun globalName saved =>
      instanceGlobals.getGlobal instance_ globalName = some saved.handle ∧
        instanceGlobals.getGlobalValue instance_ saved.handle = some saved.value)
      mutableGlobals snapshot.savedValues := by
  induction mutableGlobals generalizing snapshot with
  | nil =>
    simp only [GlobalsSnapshot.take, List.mapM_nil] at taken
    cases taken
    exact .nil
  | cons globalName rest ih =>
    simp only [GlobalsSnapshot.take, List.mapM_cons, Option.map_eq_some_iff,
      Option.bind_eq_bind, Option.bind_eq_some_iff, Option.pure_def, Option.some.injEq] at taken
    obtain ⟨_, ⟨saved, ⟨handle, found, value, read, rfl⟩, saveds, others, rfl⟩, rfl⟩ := taken
    exact .cons ⟨found, read⟩ (ih (by simp [GlobalsSnapshot.take, others]))

theorem apply_eq_foldl (set : I → G → Value → I)
    (setGlobalValue_eq : ∀ instance_ handle value,
      instanceGlobals.setGlobalValue instance_ handle value = some (set instance_ handle value))
    (snapshot : GlobalsSnapshot G) (instance_ : I) :
    snapshot.apply instanceGlobals instance_ =
      some (snapshot.savedValues.foldl (fun instance_ saved => set instance_ saved.handle saved.value)
        instance_) := by
  obtain ⟨savedValues⟩ := snapshot
  simp only [GlobalsSnapshot.apply]
  induction savedValues generalizing instance_ with
  | nil => rfl
  | cons saved rest ih =>
    simp only [List.foldlM_cons]
    rw [setGlobalValue_eq]
    exact ih _

end GlobalsSpec

end WasmedgeExecutor.Executor.Snapshot
