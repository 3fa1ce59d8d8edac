import WasmedgeExecutor.Executor.RuntimeBlob
import WasmedgeExecutor.Lib.Leb128
import WasmedgeExecutor.Lib.Scale
import Mathlib

/-!
The runtime version that a runtime blob carries in two custom sections (`embed.rs`,
`wasm_runtime.rs`, `sp_version`). `embed_runtime_version` writes the apis, twelve bytes each,
into `runtime_apis`, and the SCALE encoding of the `RuntimeVersion` with its apis cleared into
`runtime_version`. `read_embedded_version` reads them back: the version of the `Core` api among
the apis tells `decode_with_version_hint` which trailing fields the version section holds.

Neither `parity_wasm` nor `parity-scale-codec` is part of the repository. The module and its
custom sections are the `WasmModule` interface, and SCALE with the encoder derived for
`RuntimeVersion` is `Scale`, the record of the encoders and decoders the version uses, whose
laws `Scale.Lawful` states: each decoder reads back what its encoder wrote, whatever follows
it; the derived encoder writes the fields in order; and an api encodes as
`serialize_runtime_api_info` lays it out.
-/

set_option autoImplicit false
set_option relaxedAutoImplicit false

namespace WasmedgeExecutor.Executor.Version

open WasmedgeExecutor.Executor
open WasmedgeExecutor.Executor.Elements
open WasmedgeExecutor.Executor.RuntimeBlob (WasmError customSectionContents customSectionContents_eq_firstOf)
open WasmedgeExecutor.Lib.Scale (take? take?_append chunks chunks_flatMap decodeMany decodeMany_flatMap
  fromUTF8?_toByteArray encodeU8 decodeU8 decodeU8_encodeU8 encodeU32 decodeU32 decodeU32_encodeU32)
open WasmedgeExecutor.Lib.ByteMemory (toLE ofLE ofLE_toLE)
open WasmedgeExecutor.Lib.Outcome (ok_bind)

/-! ## The runtime version -/

/-- `ApiId`. -/
abbrev ApiId := Vector UInt8 8

/-- `RuntimeVersion`. A `RuntimeString` is the string it holds: its equality compares the
bytes, whether it borrows them or owns them. -/
structure RuntimeVersion where
  specName : String
  implName : String
  authoringVersion : UInt32
  specVersion : UInt32
  implVersion : UInt32
  apis : List (ApiId × UInt32)
  transactionVersion : UInt32
  stateVersion : UInt8
  deriving DecidableEq, Repr

/-- `blake2b_64!(b"Core")`, the id of the `Core` api, which the macro computes at compile
time. -/
def coreApiId : ApiId := ⟨#[0xdf, 0x6a, 0xcb, 0x68, 0x99, 0x07, 0x60, 0x9b], rfl⟩

/-- `core_version_from_apis`: the version of the first `Core` api. -/
def coreVersionFromApis (apis : List (ApiId × UInt32)) : Option UInt32 :=
  (apis.find? fun api => api.1 == coreApiId).map (·.2)

/-- `sp_api::serialize_runtime_api_info`: the id, then the version in little endian. -/
def serializeRuntimeApiInfo (id : ApiId) (version : UInt32) : Vector UInt8 12 :=
  ⟨(id.toList ++ toLE 4 version.toNat).toArray, by simp⟩

/-- `sp_api::deserialize_runtime_api_info`. -/
def deserializeRuntimeApiInfo (bytes : Vector UInt8 12) : ApiId × UInt32 :=
  (⟨(bytes.toList.take 8).toArray, by simp⟩, (ofLE (bytes.toList.drop 8)).toUInt32)

/-! ## SCALE -/

/-- What the version uses of SCALE: `Encode` and `Decode` for `RuntimeString`, `u32`, `u8` and
the apis vector, `Encode` for an api `([u8; 8], u32)`, and the `Encode` that
`#[derive(Encode)]` writes for `RuntimeVersion`. -/
structure Scale where
  encodeString : String → List UInt8
  decodeString : List UInt8 → Option (String × List UInt8)
  encodeU32 : UInt32 → List UInt8
  decodeU32 : List UInt8 → Option (UInt32 × List UInt8)
  encodeU8 : UInt8 → List UInt8
  decodeU8 : List UInt8 → Option (UInt8 × List UInt8)
  encodeApi : ApiId × UInt32 → List UInt8
  encodeApis : List (ApiId × UInt32) → List UInt8
  decodeApis : List UInt8 → Option (List (ApiId × UInt32) × List UInt8)
  encodeVersion : RuntimeVersion → List UInt8

/-- The laws of SCALE the round trip rests on. -/
structure Scale.Lawful (scale : Scale) : Prop where
  decodeString_encodeString : ∀ s rest, scale.decodeString (scale.encodeString s ++ rest) = some (s, rest)
  decodeU32_encodeU32 : ∀ v rest, scale.decodeU32 (scale.encodeU32 v ++ rest) = some (v, rest)
  decodeU8_encodeU8 : ∀ v rest, scale.decodeU8 (scale.encodeU8 v ++ rest) = some (v, rest)
  decodeApis_encodeApis : ∀ apis rest, scale.decodeApis (scale.encodeApis apis ++ rest) = some (apis, rest)
  /-- An api is its eight id bytes, then its version in four little-endian bytes. -/
  encodeApi_eq : ∀ api, scale.encodeApi api = (serializeRuntimeApiInfo api.1 api.2).toList
  /-- The derived encoder writes the fields in the order of the struct. -/
  encodeVersion_eq : ∀ version, scale.encodeVersion version =
    scale.encodeString version.specName ++ scale.encodeString version.implName ++
      scale.encodeU32 version.authoringVersion ++ scale.encodeU32 version.specVersion ++
      scale.encodeU32 version.implVersion ++ scale.encodeApis version.apis ++
      scale.encodeU32 version.transactionVersion ++ scale.encodeU8 version.stateVersion

/-! ## Reading the sections back -/

section Read

variable (scale : Scale)

/-- `RuntimeVersion::decode_with_version_hint`: the fields up to the apis, then the
transaction version from `Core` 3 on and the state version from `Core` 4 on, each at its
default before. -/
def decodeWithVersionHint (input : List UInt8) (coreVersion : Option UInt32) :
    Option (RuntimeVersion × List UInt8) := do
  let (specName, input) ← scale.decodeString input
  let (implName, input) ← scale.decodeString input
  let (authoringVersion, input) ← scale.decodeU32 input
  let (specVersion, input) ← scale.decodeU32 input
  let (implVersion, input) ← scale.decodeU32 input
  let (apis, input) ← scale.decodeApis input
  let coreVersion := if coreVersion.isSome then coreVersion else coreVersionFromApis apis
  let (transactionVersion, input) ←
    if (coreVersion.map fun v => decide (v ≥ 3)).getD false then scale.decodeU32 input else pure (1, input)
  let (stateVersion, input) ←
    if (coreVersion.map fun v => decide (v ≥ 4)).getD false then scale.decodeU8 input else pure (0, input)
  pure (⟨specName, implName, authoringVersion, specVersion, implVersion, apis, transactionVersion,
    stateVersion⟩, input)

/-- `decode_runtime_apis`: the section in chunks of twelve bytes; a shorter last chunk is an
error. -/
def decodeRuntimeApis (apis : List UInt8) : Except WasmError (List (ApiId × UInt32)) :=
  (chunks 12 apis).mapM fun chunk =>
    if h : chunk.length = 12 then .ok (deserializeRuntimeApiInfo ⟨chunk.toArray, by simpa using h⟩)
    else .error (.other "a clipped runtime api info declaration")

variable {M : Type} (wasm : WasmModule M)

/-- `read_embedded_version`. -/
def readEmbeddedVersion (blob : M) : Except WasmError (Option RuntimeVersion) :=
  match customSectionContents wasm blob "runtime_version" with
  | none => .ok none
  | some versionSection => do
    let apis ← match customSectionContents wasm blob "runtime_apis" with
      | none => pure none
      | some apis => (decodeRuntimeApis apis).map some
    let coreVersion := apis.bind coreVersionFromApis
    let decodedVersion ← match decodeWithVersionHint scale versionSection coreVersion with
      | none => .error (.instantiation "failed to decode version section")
      | some (decoded, _) => .ok decoded
    match apis with
    | some apis => pure (some { decodedVersion with apis })
    | none => pure (some decodedVersion)

/-! ## Embedding -/

/-- The errors of `embed_runtime_version`. -/
inductive EmbedError
  | deserialize
  | serialize
  deriving DecidableEq, Repr

/-- `embed_runtime_version`. -/
def embedRuntimeVersion {B : Type} (codec : WasmCodec M B) (wasmCode : B) (version : RuntimeVersion) :
    Except EmbedError B :=
  match codec.deserializeBuffer wasmCode with
  | .error _ => .error .deserialize
  | .ok module =>
    let apis := version.apis.flatMap scale.encodeApi
    let module := wasm.setCustomSection module "runtime_apis" apis
    let module := wasm.setCustomSection module "runtime_version" (scale.encodeVersion { version with apis := [] })
    match codec.serialize module with
    | .error _ => .error .serialize
    | .ok blob => .ok blob

end Read

/-- The version read back from an embedded one, as it should be: the version itself, with
the transaction version and the state version at their defaults `1` and `0` unless the first
`Core` api has at least version 3, and 4. -/
def RuntimeVersion.readBack (version : RuntimeVersion) : RuntimeVersion :=
  { version with
    transactionVersion := match coreVersionFromApis version.apis with
      | some core => if 3 ≤ core then version.transactionVersion else 1
      | none => 1
    stateVersion := match coreVersionFromApis version.apis with
      | some core => if 4 ≤ core then version.stateVersion else 0
      | none => 0 }

/-! ## The apis section -/

theorem mk_toList_toArray {α : Type} {n : Nat} (v : Vector α n) (h : v.toList.toArray.size = n) :
    (⟨v.toList.toArray, h⟩ : Vector α n) = v :=
  Vector.toArray_inj.mp Array.toArray_toList

theorem deserializeRuntimeApiInfo_serializeRuntimeApiInfo (id : ApiId) (version : UInt32) :
    deserializeRuntimeApiInfo (serializeRuntimeApiInfo id version) = (id, version) := by
  have width : id.toList.length = 8 := Vector.length_toList
  have id_eq : (⟨id.toList.toArray, by simp⟩ : ApiId) = id := mk_toList_toArray id _
  have version_eq : (ofLE (toLE 4 version.toNat)).toUInt32 = version := by
    rw [ofLE_toLE, Nat.mod_eq_of_lt (show version.toNat < 256 ^ 4 from version.toNat_lt),
      Nat.toUInt32_eq, UInt32.ofNat_toNat]
  simp only [deserializeRuntimeApiInfo, serializeRuntimeApiInfo, Vector.toList_mk,
    List.take_left' width, List.drop_left' width, id_eq, version_eq]

theorem decodeRuntimeApis_serialized (apis : List (ApiId × UInt32)) :
    decodeRuntimeApis (apis.flatMap fun api => (serializeRuntimeApiInfo api.1 api.2).toList) = .ok apis := by
  unfold decodeRuntimeApis
  rw [chunks_flatMap (by decide) fun _ => Vector.length_toList]
  induction apis with
  | nil => rfl
  | cons api rest ih =>
    rw [List.map_cons, List.mapM_cons, dif_pos Vector.length_toList, mk_toList_toArray,
      deserializeRuntimeApiInfo_serializeRuntimeApiInfo, ih]
    rfl

/-! ## The version section -/

section Lawful

variable {scale : Scale} (lawful : scale.Lawful)
include lawful

theorem flatMap_encodeApi (apis : List (ApiId × UInt32)) :
    apis.flatMap scale.encodeApi = apis.flatMap fun api => (serializeRuntimeApiInfo api.1 api.2).toList :=
  List.flatMap_congr fun api _ => lawful.encodeApi_eq api

theorem decodeWithVersionHint_encodeVersion (version : RuntimeVersion) :
    ∃ rest, decodeWithVersionHint scale (scale.encodeVersion { version with apis := [] })
        (coreVersionFromApis version.apis) = some ({ version.readBack with apis := [] }, rest) := by
  rw [lawful.encodeVersion_eq, ← List.append_nil (scale.encodeU8 _)]
  simp only [decodeWithVersionHint, List.append_assoc, lawful.decodeString_encodeString,
    lawful.decodeU32_encodeU32, lawful.decodeApis_encodeApis, Option.bind_eq_bind, Option.bind_some]
  simp only [RuntimeVersion.readBack]
  generalize coreVersionFromApis version.apis = core
  cases core with
  | none => exact ⟨_, rfl⟩
  | some core =>
    by_cases three : 3 ≤ core
    · by_cases four : 4 ≤ core
      · simp only [Option.isSome_some, if_true, Option.map_some, Option.getD_some, ge_iff_le,
          decide_eq_true three, decide_eq_true four, if_pos three, if_pos four,
          lawful.decodeU8_encodeU8, Option.bind_some]
        exact ⟨_, rfl⟩
      · simp only [Option.isSome_some, if_true, Option.map_some, Option.getD_some, ge_iff_le,
          decide_eq_true three, decide_eq_false four, if_pos three, if_neg four,
          Bool.false_eq_true, if_false]
        exact ⟨_, rfl⟩
    · have four : ¬ 4 ≤ core := fun four => three (Nat.le_trans (by decide) four)
      simp only [Option.isSome_some, if_true, Option.map_some, Option.getD_some, ge_iff_le,
        decide_eq_false three, decide_eq_false four, if_neg three, if_neg four,
        Bool.false_eq_true, if_false]
      exact ⟨_, rfl⟩

end Lawful

/-! ## A codec that meets the laws -/

/-- Twelve bytes decoded as `deserialize_runtime_api_info` reads them. -/
def decodeApiInfo (input : List UInt8) : Option ((ApiId × UInt32) × List UInt8) :=
  if h : 12 ≤ input.length then
    some (deserializeRuntimeApiInfo ⟨(input.take 12).toArray, by simp; omega⟩, input.drop 12)
  else none

theorem decodeApiInfo_serialized (api : ApiId × UInt32) (rest : List UInt8) :
    decodeApiInfo ((serializeRuntimeApiInfo api.1 api.2).toList ++ rest) = some (api, rest) := by
  have width : (serializeRuntimeApiInfo api.1 api.2).toList.length = 12 := Vector.length_toList
  rw [decodeApiInfo, dif_pos (by simp [width])]
  simp only [List.take_left' width, List.drop_left' width, mk_toList_toArray,
    deserializeRuntimeApiInfo_serializeRuntimeApiInfo]

def encodeCounted (s : String) : List UInt8 :=
  Lib.Leb128.encode s.utf8ByteSize ++ s.toByteArray.data.toList

def decodeCounted (input : List UInt8) : Option (String × List UInt8) := do
  let (length, rest) ← Lib.Leb128.decode input
  let (bytes, rest) ← take? length rest
  let s ← String.fromUTF8? ⟨bytes.toArray⟩
  pure (s, rest)

theorem decodeCounted_encodeCounted (s : String) (rest : List UInt8) :
    decodeCounted (encodeCounted s ++ rest) = some (s, rest) := by
  have width : s.toByteArray.data.toList.length = s.utf8ByteSize := by
    rw [Array.length_toList, ← String.size_toByteArray]
    rfl
  simp only [decodeCounted, encodeCounted, List.append_assoc, Lib.Leb128.decode_encode, Option.bind_eq_bind,
    Option.bind_some, take?_append width, fromUTF8?_toByteArray]
  rfl

/-- A codec with the laws: strings and the apis vector prefixed by their length in LEB128, the
integers in little endian as SCALE writes them, an api as `serialize_runtime_api_info` lays it
out, and the version field after field. -/
def countedScale : Scale where
  encodeString := encodeCounted
  decodeString := decodeCounted
  encodeU32 := encodeU32
  decodeU32 := decodeU32
  encodeU8 := encodeU8
  decodeU8 := decodeU8
  encodeApi api := (serializeRuntimeApiInfo api.1 api.2).toList
  encodeApis apis :=
    Lib.Leb128.encode apis.length ++ apis.flatMap fun api => (serializeRuntimeApiInfo api.1 api.2).toList
  decodeApis input := do
    let (count, rest) ← Lib.Leb128.decode input
    decodeMany decodeApiInfo count rest
  encodeVersion version :=
    encodeCounted version.specName ++ encodeCounted version.implName ++ encodeU32 version.authoringVersion ++
      encodeU32 version.specVersion ++ encodeU32 version.implVersion ++
      (Lib.Leb128.encode version.apis.length ++
        version.apis.flatMap fun api => (serializeRuntimeApiInfo api.1 api.2).toList) ++
      encodeU32 version.transactionVersion ++ encodeU8 version.stateVersion

theorem countedScale_lawful : countedScale.Lawful where
  decodeString_encodeString := decodeCounted_encodeCounted
  decodeU32_encodeU32 := decodeU32_encodeU32
  decodeU8_encodeU8 := decodeU8_encodeU8
  decodeApis_encodeApis apis rest := by
    simp only [countedScale, List.append_assoc, Lib.Leb128.decode_encode, Option.bind_eq_bind,
      Option.bind_some]
    exact decodeMany_flatMap decodeApiInfo_serialized apis rest
  encodeApi_eq _ := rfl
  encodeVersion_eq _ := rfl

/-! ## The round trip -/

end WasmedgeExecutor.Executor.Version
