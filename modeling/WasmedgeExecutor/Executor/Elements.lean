import WasmedgeExecutor.Lib.FirstBinding
import Mathlib

/-!
What the runtime blob uses of `parity_wasm::elements`: the entries of the import, memory and
export sections, the sections of a module, and the operations of `Module` that
`runtime_blob.rs` and `embed.rs` call.

`parity_wasm` is not part of the repository. Its `Module` enters as `WasmModule`, the record of
those operations over a module type, and what the executor relies on of them enters as laws:
`WasmModule.Lawful` (an accessor reads the section it names, `entries_mut` changes that section
only, and `insert_section` places a section of a kind the module lacks), `RefusesDuplicates`
(`insert_section` fails on a kind the module has), `SetsCustomSections` and
`WasmCodec.KeepsCustomSections`. `sectionList` implements them over a module as its list of
sections, the way the crate does, and meets every law.
-/

set_option autoImplicit false
set_option relaxedAutoImplicit false

namespace WasmedgeExecutor.Executor.Elements

open WasmedgeExecutor.Lib.FirstBinding (firstOf firstOf_cons firstOf_append)

/-- `ResizableLimits`. -/
structure ResizableLimits where
  initial : UInt32
  maximum : Option UInt32
  deriving DecidableEq, Repr

/-- `MemoryType`. -/
structure MemoryType where
  limits : ResizableLimits
  deriving DecidableEq, Repr

/-- `MemoryType::new`. -/
def MemoryType.new (min : UInt32) (max : Option UInt32) : MemoryType := ⟨⟨min, max⟩⟩

/-- `External`: what an import brings in; only the memory's type is read. -/
inductive External
  | function (typeIdx : UInt32)
  | table
  | memory (memoryTy : MemoryType)
  | global
  deriving DecidableEq, Repr

/-- `ImportEntry`. -/
structure ImportEntry where
  moduleStr : String
  field : String
  external : External
  deriving DecidableEq, Repr

def ImportEntry.isMemoryImport (entry : ImportEntry) : Bool :=
  match entry.external with
  | .memory _ => true
  | _ => false

/-- `Internal`: what an export refers to. -/
inductive Internal
  | function (idx : UInt32)
  | table (idx : UInt32)
  | memory (idx : UInt32)
  | global (idx : UInt32)
  deriving DecidableEq, Repr

/-- `ExportEntry`. -/
structure ExportEntry where
  field : String
  internal : Internal
  deriving DecidableEq, Repr

/-- `Section`: a section other than the import, memory, export and custom sections is kept as
its ordering number and its bytes. -/
inductive Section
  | import (entries : List ImportEntry)
  | memory (entries : List MemoryType)
  | export (entries : List ExportEntry)
  | custom (name : String) (payload : List UInt8)
  | other (order : Nat) (payload : List UInt8)
  deriving DecidableEq, Repr

/-- `Section::order`: custom sections have order `0`. -/
def Section.order : Section → Nat
  | .import _ => 2
  | .memory _ => 5
  | .export _ => 7
  | .custom _ _ => 0
  | .other order _ => order

/-- A section the memory passes do not touch. -/
def Section.isOther : Section → Bool
  | .custom _ _ | .other _ _ => true
  | _ => false

/-! ## The module interface -/

/-- The operations of `parity_wasm::elements::Module` over modules `M`: `sections`, the
accessors `import_section`, `memory_section` and `export_section`, `entries_mut` of the section
each `_mut` accessor returns (nothing to change where there is none), `insert_section`,
`custom_sections` as name and payload, and `set_custom_section`. -/
structure WasmModule (M : Type) where
  sections : M → List Section
  importSection : M → Option (List ImportEntry)
  memorySection : M → Option (List MemoryType)
  exportSection : M → Option (List ExportEntry)
  modifyImportEntries : M → (List ImportEntry → List ImportEntry) → M
  modifyMemoryEntries : M → (List MemoryType → List MemoryType) → M
  modifyExportEntries : M → (List ExportEntry → List ExportEntry) → M
  insertSection : M → Section → Except String M
  customSections : M → List (String × List UInt8)
  setCustomSection : M → String → List UInt8 → M

/-- The parts of a module the memory passes touch, and the sections they leave. -/
structure View where
  imports : Option (List ImportEntry)
  memories : Option (List MemoryType)
  exports : Option (List ExportEntry)
  others : List Section

section Interface

variable {M : Type} (wasm : WasmModule M)

def WasmModule.view (module : M) : View :=
  ⟨wasm.importSection module, wasm.memorySection module, wasm.exportSection module,
    (wasm.sections module).filter Section.isOther⟩

/-- What the memory passes rely on of `parity_wasm`: `entries_mut` changes the entries of the
section it is called on and nothing else, and `insert_section` of a memory or export section
into a module without one succeeds, the new section becoming the module's section of its kind
and every other section kept in order. -/
structure WasmModule.Lawful : Prop where
  view_modifyImportEntries : ∀ module f, wasm.view (wasm.modifyImportEntries module f) =
    { wasm.view module with imports := (wasm.importSection module).map f }
  view_modifyMemoryEntries : ∀ module f, wasm.view (wasm.modifyMemoryEntries module f) =
    { wasm.view module with memories := (wasm.memorySection module).map f }
  view_modifyExportEntries : ∀ module f, wasm.view (wasm.modifyExportEntries module f) =
    { wasm.view module with exports := (wasm.exportSection module).map f }
  insertSection_memory : ∀ module entries, wasm.memorySection module = none →
    ∃ module', wasm.insertSection module (.memory entries) = .ok module' ∧
      wasm.view module' = { wasm.view module with memories := some entries }
  insertSection_export : ∀ module entries, wasm.exportSection module = none →
    ∃ module', wasm.insertSection module (.export entries) = .ok module' ∧
      wasm.view module' = { wasm.view module with exports := some entries }

/-- `insert_section` refuses a memory section where the module has one. -/
def WasmModule.RefusesDuplicates : Prop :=
  ∀ module entries, (wasm.memorySection module).isSome →
    ∃ error, wasm.insertSection module (.memory entries) = .error error

/-- `set_custom_section` gives the first custom section of its name the payload, or adds one,
and leaves what every other name reads. -/
def WasmModule.SetsCustomSections : Prop :=
  ∀ module name payload sectionName,
    firstOf (wasm.customSections (wasm.setCustomSection module name payload)) sectionName =
      if name = sectionName then some payload else firstOf (wasm.customSections module) sectionName

@[simp] theorem view_imports (module : M) : (wasm.view module).imports = wasm.importSection module := rfl
@[simp] theorem view_memories (module : M) : (wasm.view module).memories = wasm.memorySection module := rfl
@[simp] theorem view_exports (module : M) : (wasm.view module).exports = wasm.exportSection module := rfl
@[simp] theorem view_others (module : M) :
    (wasm.view module).others = (wasm.sections module).filter Section.isOther := rfl

end Interface

/-- `deserialize_buffer` and `serialize`, between modules `M` and blobs `B`, each failing with
the text of its error. -/
structure WasmCodec (M B : Type) where
  deserializeBuffer : B → Except String M
  serialize : M → Except String B

/-- What embedding a version needs of `parity_wasm`: every module serialises, to a blob that
deserialises to a module with the same custom sections. -/
def WasmCodec.KeepsCustomSections {M B : Type} (wasm : WasmModule M) (codec : WasmCodec M B) : Prop :=
  ∀ module, ∃ blob module', codec.serialize module = .ok blob ∧
    codec.deserializeBuffer blob = .ok module' ∧
    ∀ name, firstOf (wasm.customSections module') name = firstOf (wasm.customSections module) name

/-! ## A module as its list of sections -/

/-- `parity_wasm::elements::Module` as its sections. -/
structure Module where
  sections : List Section
  deriving DecidableEq, Repr

/-- Two sections of one kind (`mem::discriminant`). -/
def Section.sameKind : Section → Section → Bool
  | .import _, .import _ => true
  | .memory _, .memory _ => true
  | .export _, .export _ => true
  | .custom _ _, .custom _ _ => true
  | .other a _, .other b _ => a == b
  | _, _ => false

/-- A kind of section with entries of type `β`: how to read them and how to build one. -/
structure SectionKind (β : Type) where
  entries? : Section → Option (List β)
  build : List β → Section

def importKind : SectionKind ImportEntry :=
  ⟨fun | .import entries => some entries | _ => none, .import⟩

def memoryKind : SectionKind MemoryType :=
  ⟨fun | .memory entries => some entries | _ => none, .memory⟩

def exportKind : SectionKind ExportEntry :=
  ⟨fun | .export entries => some entries | _ => none, .export⟩

variable {β : Type}

def firstEntries (kind : SectionKind β) (sections : List Section) : Option (List β) :=
  sections.findSome? kind.entries?

def modifyFirst (kind : SectionKind β) (f : List β → List β) : List Section → List Section
  | [] => []
  | s :: rest =>
    match kind.entries? s with
    | some entries => kind.build (f entries) :: rest
    | none => s :: modifyFirst kind f rest

/-- `Module::insert_section`: a custom section goes last; a section of a kind the module has is
refused; any other goes before the first section of a higher order. -/
def insertSection (module : Module) (newSection : Section) : Except String Module :=
  if newSection.order = 0 then .ok ⟨module.sections ++ [newSection]⟩
  else if module.sections.any (·.sameKind newSection) then
    .error s!"Duplicated sections ({newSection.order})"
  else
    match module.sections.findIdx? (newSection.order < ·.order) with
    | some pos => .ok ⟨module.sections.insertIdx pos newSection⟩
    | none => .ok ⟨module.sections ++ [newSection]⟩

def Section.custom? : Section → Option (String × List UInt8)
  | .custom name payload => some (name, payload)
  | _ => none

/-- The loop of `Module::set_custom_section`: the first custom section of the name takes the
payload; none if there is no such section. -/
def setCustomSectionIn (name : String) (payload : List UInt8) : List Section → Option (List Section)
  | [] => none
  | s :: rest =>
    if (s.custom?.map Prod.fst) = some name then some (.custom name payload :: rest)
    else (setCustomSectionIn name payload rest).map (s :: ·)

/-- `Module::set_custom_section`: a new custom section goes last. -/
def setCustomSection (module : Module) (name : String) (payload : List UInt8) : Module :=
  ⟨(setCustomSectionIn name payload module.sections).getD (module.sections ++ [.custom name payload])⟩

/-- The operations of `Module` on its list of sections. -/
def sectionList : WasmModule Module where
  sections := Module.sections
  importSection module := firstEntries importKind module.sections
  memorySection module := firstEntries memoryKind module.sections
  exportSection module := firstEntries exportKind module.sections
  modifyImportEntries module f := ⟨modifyFirst importKind f module.sections⟩
  modifyMemoryEntries module f := ⟨modifyFirst memoryKind f module.sections⟩
  modifyExportEntries module f := ⟨modifyFirst exportKind f module.sections⟩
  insertSection := insertSection
  customSections module := module.sections.filterMap Section.custom?
  setCustomSection := setCustomSection

/-! ### Sections of a kind -/

section Kinds

variable {γ : Type} (kind : SectionKind β) (kind' : SectionKind γ)

/-- A kind reads back the entries it builds a section from. -/
def SectionKind.Faithful : Prop := ∀ entries, kind.entries? (kind.build entries) = some entries

/-- Two kinds share no section. -/
def SectionKind.Apart : Prop :=
  (∀ s, (kind.entries? s).isSome → kind'.entries? s = none) ∧
    ∀ entries, kind'.entries? (kind.build entries) = none

/-- A kind has no section the passes leave alone. -/
def SectionKind.NotOther : Prop :=
  (∀ s, (kind.entries? s).isSome → s.isOther = false) ∧ ∀ entries, (kind.build entries).isOther = false

theorem firstEntries_cons (s : Section) (rest : List Section) :
    firstEntries kind (s :: rest) = (kind.entries? s).or (firstEntries kind rest) := by
  simp only [firstEntries, List.findSome?_cons]
  cases kind.entries? s <;> rfl

theorem firstEntries_append (front back : List Section) :
    firstEntries kind (front ++ back) = (firstEntries kind front).or (firstEntries kind back) := by
  simp [firstEntries, List.findSome?_append]

theorem modifyFirst_cons_of_none {s : Section} (skipped : kind.entries? s = none) (f : List β → List β)
    (rest : List Section) : modifyFirst kind f (s :: rest) = s :: modifyFirst kind f rest := by
  simp [modifyFirst, skipped]

theorem modifyFirst_cons_of_some {s : Section} {entries : List β} (found : kind.entries? s = some entries)
    (f : List β → List β) (rest : List Section) :
    modifyFirst kind f (s :: rest) = kind.build (f entries) :: rest := by
  simp [modifyFirst, found]

theorem firstEntries_modifyFirst (faithful : kind.Faithful) (f : List β → List β) (sections : List Section) :
    firstEntries kind (modifyFirst kind f sections) = (firstEntries kind sections).map f := by
  induction sections with
  | nil => rfl
  | cons s rest ih =>
    cases found : kind.entries? s with
    | none => rw [modifyFirst_cons_of_none kind found, firstEntries_cons, firstEntries_cons, found, ih]; rfl
    | some entries => rw [modifyFirst_cons_of_some kind found, firstEntries_cons, firstEntries_cons,
        faithful, found]; rfl

theorem firstEntries_modifyFirst_apart (apart : kind.Apart kind') (f : List β → List β)
    (sections : List Section) :
    firstEntries kind' (modifyFirst kind f sections) = firstEntries kind' sections := by
  induction sections with
  | nil => rfl
  | cons s rest ih =>
    cases found : kind.entries? s with
    | none => rw [modifyFirst_cons_of_none kind found, firstEntries_cons, firstEntries_cons, ih]
    | some entries =>
      have other : kind'.entries? s = none := apart.1 s (by simp [found])
      rw [modifyFirst_cons_of_some kind found, firstEntries_cons, firstEntries_cons, apart.2, other]

theorem others_modifyFirst (notOther : kind.NotOther) (f : List β → List β) (sections : List Section) :
    (modifyFirst kind f sections).filter Section.isOther = sections.filter Section.isOther := by
  induction sections with
  | nil => rfl
  | cons s rest ih =>
    cases found : kind.entries? s with
    | none => simp [modifyFirst, found, List.filter_cons, ih]
    | some entries =>
      have plain : s.isOther = false := notOther.1 s (by simp [found])
      simp [modifyFirst, found, plain, notOther.2]

end Kinds

theorem importKind_faithful : importKind.Faithful := fun _ => rfl
theorem memoryKind_faithful : memoryKind.Faithful := fun _ => rfl
theorem exportKind_faithful : exportKind.Faithful := fun _ => rfl

theorem importKind_apart_memoryKind : importKind.Apart memoryKind :=
  ⟨fun s => by cases s <;> simp [importKind, memoryKind], fun _ => rfl⟩
theorem importKind_apart_exportKind : importKind.Apart exportKind :=
  ⟨fun s => by cases s <;> simp [importKind, exportKind], fun _ => rfl⟩
theorem memoryKind_apart_importKind : memoryKind.Apart importKind :=
  ⟨fun s => by cases s <;> simp [importKind, memoryKind], fun _ => rfl⟩
theorem memoryKind_apart_exportKind : memoryKind.Apart exportKind :=
  ⟨fun s => by cases s <;> simp [memoryKind, exportKind], fun _ => rfl⟩
theorem exportKind_apart_importKind : exportKind.Apart importKind :=
  ⟨fun s => by cases s <;> simp [importKind, exportKind], fun _ => rfl⟩
theorem exportKind_apart_memoryKind : exportKind.Apart memoryKind :=
  ⟨fun s => by cases s <;> simp [memoryKind, exportKind], fun _ => rfl⟩

theorem importKind_notOther : importKind.NotOther :=
  ⟨fun s => by cases s <;> simp [importKind, Section.isOther], fun _ => rfl⟩
theorem memoryKind_notOther : memoryKind.NotOther :=
  ⟨fun s => by cases s <;> simp [memoryKind, Section.isOther], fun _ => rfl⟩
theorem exportKind_notOther : exportKind.NotOther :=
  ⟨fun s => by cases s <;> simp [exportKind, Section.isOther], fun _ => rfl⟩

/-! ### Inserting a section -/

theorem exists_insertIdx_eq {α : Type} (x : α) :
    ∀ (l : List α) (i : Nat), i ≤ l.length →
      ∃ front back, l = front ++ back ∧ l.insertIdx i x = front ++ x :: back
  | l, 0, _ => ⟨[], l, rfl, by simp⟩
  | [], _ + 1, small => absurd small (by simp)
  | a :: rest, i + 1, small => by
    obtain ⟨front, back, split, inserted⟩ := exists_insertIdx_eq x rest i (by simpa using small)
    exact ⟨a :: front, back, by simp [split], by simp [inserted]⟩

theorem insertSection_ok {module : Module} {newSection : Section} (ordered : newSection.order ≠ 0)
    (fresh : module.sections.any (·.sameKind newSection) = false) :
    ∃ front back, module.sections = front ++ back ∧
      insertSection module newSection = .ok ⟨front ++ newSection :: back⟩ := by
  unfold insertSection
  rw [if_neg ordered, if_neg (by simp [fresh])]
  cases position : module.sections.findIdx? (newSection.order < ·.order) with
  | none => exact ⟨module.sections, [], by simp, rfl⟩
  | some pos =>
    obtain ⟨inside, -⟩ := List.findIdx?_eq_some_iff_getElem.mp position
    obtain ⟨front, back, split, inserted⟩ :=
      exists_insertIdx_eq newSection module.sections pos (Nat.le_of_lt inside)
    exact ⟨front, back, split, by simp [inserted]⟩

theorem any_sameKind_memory (sections : List Section) (entries : List MemoryType) :
    sections.any (·.sameKind (.memory entries)) = (firstEntries memoryKind sections).isSome := by
  induction sections with
  | nil => rfl
  | cons s rest ih =>
    cases s <;> simp_all [Section.sameKind, firstEntries, memoryKind]

theorem any_sameKind_export (sections : List Section) (entries : List ExportEntry) :
    sections.any (·.sameKind (.export entries)) = (firstEntries exportKind sections).isSome := by
  induction sections with
  | nil => rfl
  | cons s rest ih =>
    cases s <;> simp_all [Section.sameKind, firstEntries, exportKind]

theorem firstEntries_insert (kind : SectionKind β) (faithful : kind.Faithful) (entries : List β)
    {front : List Section} (absent : firstEntries kind front = none) (back : List Section) :
    firstEntries kind (front ++ kind.build entries :: back) = some entries := by
  rw [firstEntries_append, absent, firstEntries_cons, faithful]
  rfl

theorem firstEntries_insert_apart {γ : Type} (kind : SectionKind β) (kind' : SectionKind γ)
    (apart : kind.Apart kind') (entries : List β) (front back : List Section) :
    firstEntries kind' (front ++ kind.build entries :: back) = firstEntries kind' (front ++ back) := by
  rw [firstEntries_append, firstEntries_cons, apart.2, firstEntries_append]
  rfl

/-- A section of a kind the module lacks, apart from two other kinds, becomes the module's
section of its kind, and the other two kinds and the other sections read as before. -/
theorem insertSection_fresh {γ δ : Type} (kind : SectionKind β) (kindA : SectionKind γ)
    (kindB : SectionKind δ) (faithful : kind.Faithful) (notOther : kind.NotOther)
    (apartA : kind.Apart kindA) (apartB : kind.Apart kindB) {module : Module} {entries : List β}
    (ordered : (kind.build entries).order ≠ 0)
    (fresh : module.sections.any (·.sameKind (kind.build entries)) = false)
    (absent : firstEntries kind module.sections = none) :
    ∃ module', insertSection module (kind.build entries) = .ok module' ∧
      firstEntries kind module'.sections = some entries ∧
      firstEntries kindA module'.sections = firstEntries kindA module.sections ∧
      firstEntries kindB module'.sections = firstEntries kindB module.sections ∧
      module'.sections.filter Section.isOther = module.sections.filter Section.isOther := by
  obtain ⟨front, back, split, inserted⟩ := insertSection_ok ordered fresh
  rw [split, firstEntries_append, Option.or_eq_none_iff] at absent
  refine ⟨_, inserted, firstEntries_insert kind faithful entries absent.1 back, ?_, ?_, ?_⟩
  · rw [split, firstEntries_insert_apart kind kindA apartA]
  · rw [split, firstEntries_insert_apart kind kindB apartB]
  · simp [split, List.filter_append, notOther.2]

/-! ### The laws -/

theorem sectionList_lawful : sectionList.Lawful where
  view_modifyImportEntries module f := by
    simp only [WasmModule.view, sectionList, firstEntries_modifyFirst importKind importKind_faithful,
      firstEntries_modifyFirst_apart importKind memoryKind importKind_apart_memoryKind,
      firstEntries_modifyFirst_apart importKind exportKind importKind_apart_exportKind,
      others_modifyFirst importKind importKind_notOther]
  view_modifyMemoryEntries module f := by
    simp only [WasmModule.view, sectionList, firstEntries_modifyFirst memoryKind memoryKind_faithful,
      firstEntries_modifyFirst_apart memoryKind importKind memoryKind_apart_importKind,
      firstEntries_modifyFirst_apart memoryKind exportKind memoryKind_apart_exportKind,
      others_modifyFirst memoryKind memoryKind_notOther]
  view_modifyExportEntries module f := by
    simp only [WasmModule.view, sectionList, firstEntries_modifyFirst exportKind exportKind_faithful,
      firstEntries_modifyFirst_apart exportKind importKind exportKind_apart_importKind,
      firstEntries_modifyFirst_apart exportKind memoryKind exportKind_apart_memoryKind,
      others_modifyFirst exportKind exportKind_notOther]
  insertSection_memory module entries absent := by
    have fresh : module.sections.any (·.sameKind (.memory entries)) = false := by
      rw [any_sameKind_memory, show firstEntries memoryKind module.sections = none from absent]
      rfl
    obtain ⟨module', inserted, memories, imports, exports, others⟩ :=
      insertSection_fresh memoryKind importKind exportKind memoryKind_faithful memoryKind_notOther
        memoryKind_apart_importKind memoryKind_apart_exportKind (by simp [memoryKind, Section.order]) fresh absent
    exact ⟨module', inserted, by simp only [WasmModule.view, sectionList, memories, imports, exports, others]⟩
  insertSection_export module entries absent := by
    have fresh : module.sections.any (·.sameKind (.export entries)) = false := by
      rw [any_sameKind_export, show firstEntries exportKind module.sections = none from absent]
      rfl
    obtain ⟨module', inserted, exports, imports, memories, others⟩ :=
      insertSection_fresh exportKind importKind memoryKind exportKind_faithful exportKind_notOther
        exportKind_apart_importKind exportKind_apart_memoryKind (by simp [exportKind, Section.order]) fresh absent
    exact ⟨module', inserted, by simp only [WasmModule.view, sectionList, memories, imports, exports, others]⟩

theorem sectionList_refusesDuplicates : sectionList.RefusesDuplicates := by
  intro module entries present
  have duplicate : module.sections.any (·.sameKind (.memory entries)) = true := by
    rw [any_sameKind_memory]
    exact present
  refine ⟨s!"Duplicated sections ({(Section.memory entries).order})", ?_⟩
  show insertSection module (.memory entries) = _
  rw [insertSection, if_neg (by simp [Section.order]), if_pos duplicate]

/-! ### Custom sections -/

theorem custom?_eq_some {s : Section} {name : String} {payload : List UInt8} :
    s.custom? = some (name, payload) ↔ s = .custom name payload := by
  cases s <;> simp [Section.custom?]

theorem firstOf_setCustomSectionIn {name : String} {payload : List UInt8} (sectionName : String) :
    ∀ {sections sections' : List Section}, setCustomSectionIn name payload sections = some sections' →
      firstOf (sections'.filterMap Section.custom?) sectionName =
        if name = sectionName then some payload else firstOf (sections.filterMap Section.custom?) sectionName
  | [], _, set => by cases set
  | s :: rest, sections', set => by
    unfold setCustomSectionIn at set
    split at set
    · case isTrue named =>
      cases set
      obtain ⟨⟨name', payload'⟩, custom, same⟩ := Option.map_eq_some_iff.mp named
      obtain rfl : name' = name := same
      rw [custom?_eq_some.mp custom]
      simp only [List.filterMap_cons, Section.custom?, firstOf_cons]
      by_cases hit : name' = sectionName <;> simp [hit]
    · case isFalse unnamed =>
      obtain ⟨rest', set', rfl⟩ := Option.map_eq_some_iff.mp set
      have inner := firstOf_setCustomSectionIn sectionName set'
      cases custom : s.custom? with
      | none => simp only [List.filterMap_cons, custom, inner]
      | some entry =>
        obtain ⟨name', payload'⟩ := entry
        have other : name' ≠ name := fun same => unnamed (by simp [custom, same])
        simp only [List.filterMap_cons, custom, firstOf_cons, inner]
        by_cases hit : name' = sectionName
        · rw [if_pos hit, if_pos hit, if_neg (fun same => other (hit.trans same.symm))]
        · rw [if_neg hit, if_neg hit]

theorem firstOf_of_setCustomSectionIn_none {name : String} {payload : List UInt8} :
    ∀ {sections : List Section}, setCustomSectionIn name payload sections = none →
      firstOf (sections.filterMap Section.custom?) name = none
  | [], _ => rfl
  | s :: rest, unset => by
    unfold setCustomSectionIn at unset
    split at unset
    · cases unset
    · case isFalse unnamed =>
      rw [Option.map_eq_none_iff] at unset
      cases custom : s.custom? with
      | none => simp only [List.filterMap_cons, custom, firstOf_of_setCustomSectionIn_none unset]
      | some entry =>
        obtain ⟨name', payload'⟩ := entry
        have other : name' ≠ name := fun same => unnamed (by simp [custom, same])
        simp only [List.filterMap_cons, custom, firstOf_cons, if_neg other,
          firstOf_of_setCustomSectionIn_none unset]

theorem sectionList_setsCustomSections : sectionList.SetsCustomSections := by
  intro module name payload sectionName
  show firstOf ((setCustomSection module name payload).sections.filterMap Section.custom?) sectionName = _
  unfold setCustomSection
  cases set : setCustomSectionIn name payload module.sections with
  | some sections' => exact firstOf_setCustomSectionIn sectionName set
  | none =>
    simp only [Option.getD_none, List.filterMap_append, firstOf_append]
    by_cases same : name = sectionName
    · subst same
      simp [firstOf_of_setCustomSectionIn_none set, Section.custom?, firstOf_cons]
    · simp [same, Section.custom?, firstOf_cons]
      rfl

def identityCodec : WasmCodec Module Module := ⟨.ok, .ok⟩

theorem identityCodec_keepsCustomSections : identityCodec.KeepsCustomSections sectionList :=
  fun module => ⟨module, module, rfl, rfl, fun _ => rfl⟩

end WasmedgeExecutor.Executor.Elements
