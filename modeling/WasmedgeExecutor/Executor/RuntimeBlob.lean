import WasmedgeExecutor.Executor.Elements
import WasmedgeExecutor.Lib.Bits
import WasmedgeExecutor.Lib.Outcome
import Mathlib

/-!
`RuntimeBlob` (`runtime_blob.rs`): a `parity_wasm` module, made by `RuntimeBlob::new`, whose
custom sections `custom_section_contents` reads, and the memory rewriting that
`prepare_blob_for_compilation` applies before WasmEdge compiles a runtime:
`convert_memory_import_into_export` turns the memory import into a defined memory and exports
it, and `add_extra_heap_pages_to_memory_section` grows the defined memory.

The functions are written over any implementation of the `parity_wasm` module interface. What
the passes give is proved from its laws: `prepareMemory_rewrites` from `WasmModule.Lawful`, and
`prepareMemory_refused`, for a module that imports its memory and has a memory section besides,
also from `insert_section` refusing a duplicate section.
-/

set_option autoImplicit false
set_option relaxedAutoImplicit false

namespace WasmedgeExecutor.Executor.RuntimeBlob

open WasmedgeExecutor.Executor.Elements
open WasmedgeExecutor.Lib.Bits (saturatingAdd toNat_saturatingAdd)
open WasmedgeExecutor.Lib.FirstBinding (firstOf firstOf_cons)
open WasmedgeExecutor.Lib.Outcome (ok_bind)

/-- `WasmError`, with the two variants the runtime blob and the version return. -/
inductive WasmError
  | instantiation (msg : String)
  | other (msg : String)
  deriving DecidableEq, Repr

/-- The loop of `convert_memory_import_into_export`: the index, type and field of the first
memory import. -/
def findMemoryImport : List ImportEntry → Option (Nat × MemoryType × String)
  | [] => none
  | entry :: rest =>
    match entry.external with
    | .memory memoryTy => some (0, memoryTy, entry.field)
    | _ => (findMemoryImport rest).map fun (index, memoryTy, field) => (index + 1, memoryTy, field)

/-- The outcome of a rewrite: `none` is a panic (an `expect` that fails). -/
abbrev Rewrite (α : Type) := Option (Except String α)

/-- The new limits of one memory: the initial size grows by `extra` pages, saturating, and the
maximum is raised to it if below. -/
def growMemory (extraHeapPages : UInt32) (memoryTy : MemoryType) : MemoryType :=
  let min := saturatingAdd memoryTy.limits.initial extraHeapPages
  let max := memoryTy.limits.maximum.map fun max => Max.max min max
  MemoryType.new min max

section Blob

variable {M : Type} (wasm : WasmModule M)

/-- `RuntimeBlob::new`. -/
def new {B : Type} (codec : WasmCodec M B) (wasmCode : B) : Except WasmError M :=
  match codec.deserializeBuffer wasmCode with
  | .error e => .error (.other s!"cannot deserialize module: {e}")
  | .ok rawModule => .ok rawModule

/-- `RuntimeBlob::custom_section_contents`: the payload of the first custom section of the
name. -/
def customSectionContents (module : M) (sectionName : String) : Option (List UInt8) :=
  ((wasm.customSections module).find? (·.1 == sectionName)).map (·.2)

/-- `RuntimeBlob::convert_memory_import_into_export`. -/
def convertMemoryImportIntoExport (module : M) : Rewrite M :=
  match wasm.importSection module with
  | none => some (.ok module)
  | some importEntries =>
    match findMemoryImport importEntries with
    | none => some (.ok module)
    | some (index, memoryTy, memoryName) =>
      let module := wasm.modifyImportEntries module (·.eraseIdx index)
      match wasm.insertSection module (.memory [memoryTy]) with
      | .error error =>
        some (.error s!"can't convert a memory import into an export: failed to insert a new memory section: {error}")
      | .ok module =>
        -- "an export section can be always inserted if it doesn't exist; qed"
        let withExports : Option M :=
          if (wasm.exportSection module).isNone then
            match wasm.insertSection module (.export []) with
            | .ok module => some module
            | .error _ => none
          else some module
        withExports.bind fun module =>
          -- "export section already existed or we just added it above, so it always exists; qed"
          if (wasm.exportSection module).isNone then none
          else some (.ok (wasm.modifyExportEntries module (· ++ [⟨memoryName, .memory 0⟩])))

/-- `RuntimeBlob::add_extra_heap_pages_to_memory_section`. -/
def addExtraHeapPagesToMemorySection (module : M) (extraHeapPages : UInt32) : Except String M :=
  match wasm.memorySection module with
  | none => .error "no memory section found"
  | some [] => .error "memory section is empty"
  | some _ => .ok (wasm.modifyMemoryEntries module (·.map (growMemory extraHeapPages)))

/-- The memory passes of `prepare_blob_for_compilation`. -/
def prepareMemory (module : M) (extraHeapPages : UInt32) : Rewrite M :=
  (convertMemoryImportIntoExport wasm module).map fun converted =>
    converted >>= fun module => addExtraHeapPagesToMemorySection wasm module extraHeapPages

theorem customSectionContents_eq_firstOf (module : M) (sectionName : String) :
    customSectionContents wasm module sectionName = firstOf (wasm.customSections module) sectionName := by
  unfold customSectionContents
  induction wasm.customSections module with
  | nil => rfl
  | cons custom rest ih =>
    obtain ⟨name, payload⟩ := custom
    by_cases hit : name = sectionName <;> simp [firstOf_cons, hit, ih]

end Blob

/-! ## The memory import -/

theorem findMemoryImport_cons_of_not {head : ImportEntry} (plain : head.isMemoryImport = false)
    (rest : List ImportEntry) :
    findMemoryImport (head :: rest) =
      (findMemoryImport rest).map fun (index, memoryTy, field) => (index + 1, memoryTy, field) := by
  cases kind : head.external <;> simp_all [findMemoryImport, ImportEntry.isMemoryImport]

theorem findMemoryImport_of_single {entries : List ImportEntry} {entry : ImportEntry}
    {memoryTy : MemoryType} (isMemory : entry.external = .memory memoryTy)
    (single : entries.filter ImportEntry.isMemoryImport = [entry]) :
    ∃ index, findMemoryImport entries = some (index, memoryTy, entry.field) ∧
      entries.eraseIdx index = entries.filter fun other => !other.isMemoryImport := by
  induction entries with
  | nil => simp at single
  | cons head rest ih =>
    by_cases headMemory : head.isMemoryImport
    · simp only [List.filter_cons, headMemory, if_true, List.cons.injEq] at single
      obtain ⟨rfl, none⟩ := single
      refine ⟨0, by simp [findMemoryImport, isMemory], ?_⟩
      have kept : rest.filter (fun other => !other.isMemoryImport) = rest :=
        List.filter_eq_self.mpr fun other mem => by
          have absent : other ∉ rest.filter ImportEntry.isMemoryImport := by simp [none]
          simp only [List.mem_filter, not_and] at absent
          simpa using absent mem
      simp [headMemory, kept]
    · have plain : head.isMemoryImport = false := by simpa using headMemory
      simp only [List.filter_cons, plain] at single
      obtain ⟨index, found, erased⟩ := ih (by simpa using single)
      exact ⟨index + 1, by rw [findMemoryImport_cons_of_not plain, found]; rfl,
        by simp [plain, erased]⟩

theorem findMemoryImport_eq_none {entries : List ImportEntry}
    (noMemory : entries.all fun entry => !entry.isMemoryImport) : findMemoryImport entries = none := by
  induction entries with
  | nil => rfl
  | cons head rest ih =>
    simp only [List.all_cons, Bool.and_eq_true, Bool.not_eq_true'] at noMemory
    rw [findMemoryImport_cons_of_not noMemory.1, ih noMemory.2]
    rfl

/-! ## The memory passes -/

section Passes

variable {M : Type} {wasm : WasmModule M}

theorem growMemory_initial (extraHeapPages : UInt32) (memoryTy : MemoryType) :
    (growMemory extraHeapPages memoryTy).limits.initial.toNat =
      min (memoryTy.limits.initial.toNat + extraHeapPages.toNat) (2 ^ 32 - 1) :=
  toNat_saturatingAdd _ _

theorem addExtraHeapPages_ok {module : M} {memoryTy : MemoryType}
    (single : wasm.memorySection module = some [memoryTy]) (extraHeapPages : UInt32) :
    addExtraHeapPagesToMemorySection wasm module extraHeapPages =
      .ok (wasm.modifyMemoryEntries module (·.map (growMemory extraHeapPages))) := by
  simp [addExtraHeapPagesToMemorySection, single]

theorem convert_of_noImport {module : M}
    (noImport : ((wasm.importSection module).getD []).all fun entry => !entry.isMemoryImport) :
    convertMemoryImportIntoExport wasm module = some (.ok module) := by
  unfold convertMemoryImportIntoExport
  cases found : wasm.importSection module with
  | none => rfl
  | some entries =>
    have noMemory : entries.all fun entry => !entry.isMemoryImport := by
      simpa [found] using noImport
    simp [findMemoryImport_eq_none noMemory]

variable (lawful : wasm.Lawful)
include lawful

theorem convert_of_import {module : M} {entry : ImportEntry} {memoryTy : MemoryType}
    (isMemory : entry.external = .memory memoryTy)
    (imported : (wasm.importSection module).map (·.filter ImportEntry.isMemoryImport) = some [entry])
    (noSection : wasm.memorySection module = none) :
    ∃ converted, convertMemoryImportIntoExport wasm module = some (.ok converted) ∧
      wasm.view converted = { wasm.view module with
        imports := (wasm.importSection module).map (·.filter fun other => !other.isMemoryImport)
        memories := some [memoryTy]
        exports := some ((wasm.exportSection module).getD [] ++ [⟨entry.field, .memory 0⟩]) } := by
  obtain ⟨entries, found, single⟩ := Option.map_eq_some_iff.mp imported
  obtain ⟨index, located, erased⟩ := findMemoryImport_of_single isMemory single
  have removed := lawful.view_modifyImportEntries module (·.eraseIdx index)
  have stillNone : wasm.memorySection (wasm.modifyImportEntries module (·.eraseIdx index)) = none := by
    simpa [noSection] using congrArg View.memories removed
  obtain ⟨inserted, insertedOk, insertedView⟩ := lawful.insertSection_memory _ [memoryTy] stillNone
  rw [removed] at insertedView
  cases exports : wasm.exportSection module with
  | none =>
    have noExports : wasm.exportSection inserted = none := by
      simpa [exports] using congrArg View.exports insertedView
    obtain ⟨withExports, exportOk, exportView⟩ := lawful.insertSection_export inserted [] noExports
    have someExports : wasm.exportSection withExports = some [] := by
      simpa using congrArg View.exports exportView
    refine ⟨wasm.modifyExportEntries withExports (· ++ [⟨entry.field, .memory 0⟩]), ?_, ?_⟩
    · simp [convertMemoryImportIntoExport, found, located, insertedOk, noExports, exportOk, someExports]
    · rw [lawful.view_modifyExportEntries, someExports, exportView, insertedView]
      simp [found, erased]
  | some existing =>
    have someExports : wasm.exportSection inserted = some existing := by
      simpa [exports] using congrArg View.exports insertedView
    refine ⟨wasm.modifyExportEntries inserted (· ++ [⟨entry.field, .memory 0⟩]), ?_, ?_⟩
    · simp [convertMemoryImportIntoExport, found, located, insertedOk, someExports]
    · rw [lawful.view_modifyExportEntries, someExports, insertedView]
      simp [found, erased]

end Passes

section Results

variable {M : Type} (wasm : WasmModule M)

/-- What the memory passes make of a module whose one memory has type `memoryTy`: no
memory import is left and the other imports stay in order, the memory section holds that memory with
`extraHeapPages` more initial pages (saturating) and a maximum raised to them, the export
section gains an export of memory `0` under `exported` when the memory was imported under that
field (the section made if missing) and is unchanged otherwise, and every other section stays,
in order. -/
structure RewrittenMemory (module result : M) (memoryTy : MemoryType) (extraHeapPages : UInt32)
    (exported : Option String) : Prop where
  imports_eq : wasm.importSection result =
    (wasm.importSection module).map (·.filter fun entry => !entry.isMemoryImport)
  memory_eq : ∃ limits, wasm.memorySection result = some [⟨limits⟩] ∧
    limits.initial.toNat = min (memoryTy.limits.initial.toNat + extraHeapPages.toNat) (2 ^ 32 - 1) ∧
    limits.maximum = memoryTy.limits.maximum.map (Max.max limits.initial)
  exports_eq : wasm.exportSection result =
    match exported with
    | none => wasm.exportSection module
    | some field => some ((wasm.exportSection module).getD [] ++ [⟨field, .memory 0⟩])
  others_eq : (wasm.sections result).filter Section.isOther = (wasm.sections module).filter Section.isOther

variable {wasm}

theorem rewritten_of_grown (lawful : wasm.Lawful) {module converted : M} {memoryTy : MemoryType}
    (extraHeapPages : UInt32) (exported : Option String)
    (single : wasm.memorySection converted = some [memoryTy])
    (imports : wasm.importSection converted =
      (wasm.importSection module).map (·.filter fun entry => !entry.isMemoryImport))
    (exports : wasm.exportSection converted = match exported with
      | none => wasm.exportSection module
      | some field => some ((wasm.exportSection module).getD [] ++ [⟨field, .memory 0⟩]))
    (others : (wasm.sections converted).filter Section.isOther = (wasm.sections module).filter Section.isOther) :
    RewrittenMemory wasm module (wasm.modifyMemoryEntries converted (·.map (growMemory extraHeapPages)))
      memoryTy extraHeapPages exported := by
  have grown := lawful.view_modifyMemoryEntries converted (·.map (growMemory extraHeapPages))
  refine ⟨?_, ⟨_, ?_, growMemory_initial _ _, rfl⟩, ?_, ?_⟩
  · simpa [imports] using congrArg View.imports grown
  · simpa [single] using congrArg View.memories grown
  · simpa [exports] using congrArg View.exports grown
  · simpa [others] using congrArg View.others grown

theorem prepareMemory_defined (lawful : wasm.Lawful) {module : M} {memoryTy : MemoryType}
    (extraHeapPages : UInt32) (defined : wasm.memorySection module = some [memoryTy])
    (noImport : ((wasm.importSection module).getD []).all fun entry => !entry.isMemoryImport) :
    ∃ result, prepareMemory wasm module extraHeapPages = some (.ok result) ∧
      RewrittenMemory wasm module result memoryTy extraHeapPages none := by
  have kept : wasm.importSection module =
      (wasm.importSection module).map (·.filter fun entry => !entry.isMemoryImport) := by
    cases found : wasm.importSection module with
    | none => rfl
    | some entries =>
      simp only [found, Option.getD_some, List.all_eq_true] at noImport
      simp [List.filter_eq_self.mpr noImport]
  exact ⟨_, by simp [prepareMemory, convert_of_noImport noImport, ok_bind, addExtraHeapPages_ok defined],
    rewritten_of_grown lawful extraHeapPages none defined kept rfl rfl⟩

theorem prepareMemory_imported (lawful : wasm.Lawful) {module : M} {entry : ImportEntry}
    {memoryTy : MemoryType} (extraHeapPages : UInt32) (isMemory : entry.external = .memory memoryTy)
    (imported : (wasm.importSection module).map (·.filter ImportEntry.isMemoryImport) = some [entry])
    (noSection : wasm.memorySection module = none) :
    ∃ result, prepareMemory wasm module extraHeapPages = some (.ok result) ∧
      RewrittenMemory wasm module result memoryTy extraHeapPages (some entry.field) := by
  obtain ⟨converted, convertedOk, convertedView⟩ := convert_of_import lawful isMemory imported noSection
  have single : wasm.memorySection converted = some [memoryTy] := by
    simpa using congrArg View.memories convertedView
  exact ⟨_, by simp [prepareMemory, convertedOk, ok_bind, addExtraHeapPages_ok single],
    rewritten_of_grown lawful extraHeapPages (some entry.field) single
      (by simpa using congrArg View.imports convertedView) (by simpa using congrArg View.exports convertedView)
      (by simpa using congrArg View.others convertedView)⟩

theorem prepareMemory_noMemory {module : M} (extraHeapPages : UInt32)
    (noImport : ((wasm.importSection module).getD []).all fun entry => !entry.isMemoryImport)
    (noMemory : (wasm.memorySection module).getD [] = []) :
    ∃ message, prepareMemory wasm module extraHeapPages = some (.error message) := by
  have absent : wasm.memorySection module = none ∨ wasm.memorySection module = some [] := by
    revert noMemory
    cases wasm.memorySection module <;> simp
  rcases absent with missing | empty
  · exact ⟨"no memory section found",
      by simp [prepareMemory, convert_of_noImport noImport, ok_bind, addExtraHeapPagesToMemorySection, missing]⟩
  · exact ⟨"memory section is empty",
      by simp [prepareMemory, convert_of_noImport noImport, ok_bind, addExtraHeapPagesToMemorySection, empty]⟩

/-- `convert_memory_import_into_export` then `add_extra_heap_pages_to_memory_section`, over
every module and every number of extra pages: a module whose one memory is defined in its
memory section, or imported while the module has no memory section, is rewritten as
`RewrittenMemory` says, and a module with no memory is refused. -/
theorem prepareMemory_rewrites (wasm : WasmModule M) (lawful : wasm.Lawful) (module : M)
    (extraHeapPages : UInt32) :
    (∀ memoryTy, wasm.memorySection module = some [memoryTy] →
      ((wasm.importSection module).getD []).all (fun entry => !entry.isMemoryImport) →
      ∃ result, prepareMemory wasm module extraHeapPages = some (.ok result) ∧
        RewrittenMemory wasm module result memoryTy extraHeapPages none) ∧
    (∀ entry memoryTy, entry.external = .memory memoryTy →
      (wasm.importSection module).map (·.filter ImportEntry.isMemoryImport) = some [entry] →
      wasm.memorySection module = none →
      ∃ result, prepareMemory wasm module extraHeapPages = some (.ok result) ∧
        RewrittenMemory wasm module result memoryTy extraHeapPages (some entry.field)) ∧
    (((wasm.importSection module).getD []).all (fun entry => !entry.isMemoryImport) →
      (wasm.memorySection module).getD [] = [] →
      ∃ message, prepareMemory wasm module extraHeapPages = some (.error message)) :=
  ⟨fun _ defined noImport => prepareMemory_defined lawful extraHeapPages defined noImport,
    fun _ _ isMemory imported noSection => prepareMemory_imported lawful extraHeapPages isMemory imported noSection,
    fun noImport noMemory => prepareMemory_noMemory extraHeapPages noImport noMemory⟩

theorem prepareMemory_rewrites_sectionList :
    sectionList.Lawful ∧
      ∃ result, prepareMemory sectionList ⟨[.import [⟨"env", "memory", .memory ⟨⟨17, none⟩⟩⟩]]⟩ 1024 =
          some (.ok result) ∧
        RewrittenMemory sectionList ⟨[.import [⟨"env", "memory", .memory ⟨⟨17, none⟩⟩⟩]]⟩ result
          ⟨⟨17, none⟩⟩ 1024 (some "memory") :=
  ⟨sectionList_lawful,
    (prepareMemory_rewrites sectionList sectionList_lawful _ 1024).2.1 ⟨"env", "memory", .memory ⟨⟨17, none⟩⟩⟩
      ⟨⟨17, none⟩⟩ rfl rfl rfl⟩

/-- A module that imports its memory and has a memory section besides, even an empty one: the
memory section the conversion inserts is a duplicate, and where `insert_section` refuses it the
passes fail. -/
theorem prepareMemory_refused (lawful : wasm.Lawful) (refuses : wasm.RefusesDuplicates) {module : M}
    {entry : ImportEntry} {memoryTy : MemoryType} (isMemory : entry.external = .memory memoryTy)
    (imported : (wasm.importSection module).map (·.filter ImportEntry.isMemoryImport) = some [entry])
    (present : (wasm.memorySection module).isSome) (extraHeapPages : UInt32) :
    ∃ message, prepareMemory wasm module extraHeapPages = some (.error message) := by
  obtain ⟨entries, found, single⟩ := Option.map_eq_some_iff.mp imported
  obtain ⟨index, located, -⟩ := findMemoryImport_of_single isMemory single
  have kept : (wasm.memorySection (wasm.modifyImportEntries module (·.eraseIdx index))).isSome := by
    simpa [present] using congrArg (·.memories.isSome) (lawful.view_modifyImportEntries module (·.eraseIdx index))
  obtain ⟨error, refused⟩ := refuses _ [memoryTy] kept
  exact ⟨s!"can't convert a memory import into an export: failed to insert a new memory section: {error}",
    by simp [prepareMemory, convertMemoryImportIntoExport, found, located, refused]⟩

example : prepareMemory sectionList ⟨[.import [⟨"env", "memory", .memory ⟨⟨17, none⟩⟩⟩], .memory []]⟩ 1024 =
    some (.error "can't convert a memory import into an export: failed to insert a new memory section: Duplicated sections (5)") := by
  decide

/-- The module with an imported memory and an empty memory section, under the implementation
that meets the laws and refuses duplicates: the passes fail. -/
theorem prepareMemory_import_with_empty_section :
    sectionList.Lawful ∧ sectionList.RefusesDuplicates ∧
      (sectionList.importSection ⟨[.import [⟨"env", "memory", .memory ⟨⟨17, none⟩⟩⟩], .memory []]⟩).map
          (·.filter ImportEntry.isMemoryImport) = some [⟨"env", "memory", .memory ⟨⟨17, none⟩⟩⟩] ∧
      sectionList.memorySection ⟨[.import [⟨"env", "memory", .memory ⟨⟨17, none⟩⟩⟩], .memory []]⟩ = some [] ∧
      ∃ message, prepareMemory sectionList
        ⟨[.import [⟨"env", "memory", .memory ⟨⟨17, none⟩⟩⟩], .memory []]⟩ 1024 = some (.error message) :=
  ⟨sectionList_lawful, sectionList_refusesDuplicates, rfl, rfl,
    prepareMemory_refused sectionList_lawful sectionList_refusesDuplicates rfl rfl rfl 1024⟩

end Results

end WasmedgeExecutor.Executor.RuntimeBlob
