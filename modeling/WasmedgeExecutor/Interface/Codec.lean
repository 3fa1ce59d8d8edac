import WasmedgeExecutor.Wasmedge.Util
import WasmedgeExecutor.Lib.Scale

/-!
The values that cross the sandbox boundary (`sp_wasm_interface`, `sp_sandbox`): `Value`,
`ReturnValue`, `HostError`, and wasmi's `RuntimeValue`, which holds its floats as their bits, as
`Value` does, so that the two `From` conversions between them are inverse to each other.

Their SCALE encodings are what `#[derive(Encode, Decode)]` writes with `parity-scale-codec`,
neither of which is part of the repository. They enter as `SandboxCodec`, the encoders and
decoders the two sides of the sandbox call. The one law a result here rests on, that an encoded
`ReturnValue` has at most `ReturnValue::ENCODED_MAX_SIZE` bytes, is `FitsEncodedMaxSize`.
`derivedCodec` writes the derived encodings out, the index byte of the variant and then its
fields, and meets it.
-/

set_option autoImplicit false
set_option relaxedAutoImplicit false

namespace WasmedgeExecutor.Interface.Codec

open WasmedgeExecutor.Wasmedge.Util (Value)
open WasmedgeExecutor.Lib.Scale (encodeU32 decodeU32 encodeU64 decodeU64 encodeVec decodeVec)

/-- `sp_wasm_interface::ReturnValue`. -/
inductive ReturnValue
  | unit
  | value (v : Value)
  deriving DecidableEq, Repr

/-- `ReturnValue::ENCODED_MAX_SIZE`: the index byte and the widest value. -/
def ReturnValue.encodedMaxSize : Nat := 10

/-- `sp_sandbox::HostError`, a unit struct. -/
structure HostError where
  deriving DecidableEq, Repr

/-- What the two sides of the sandbox use of SCALE: `Encode` and `Decode` for `Vec<Value>`, the
arguments of a call, `Encode` for the `ReturnValue` of a sandboxed export, and `Decode` for the
`Result<ReturnValue, HostError>` of a supervisor function. -/
structure SandboxCodec where
  encodeValues : List Value → List UInt8
  decodeValues : List UInt8 → Option (List Value × List UInt8)
  encodeReturnValue : ReturnValue → List UInt8
  decodeHostResult : List UInt8 → Option (Except HostError ReturnValue × List UInt8)

/-- Every encoded return value fits the buffer of `ENCODED_MAX_SIZE` bytes a guest passes for
it. -/
def SandboxCodec.FitsEncodedMaxSize (codec : SandboxCodec) : Prop :=
  ∀ r, (codec.encodeReturnValue r).length ≤ ReturnValue.encodedMaxSize

/-! ## The derived encodings -/

/-- `Encode for Value`. -/
def encodeValue : Value → List UInt8
  | .i32 v => 0 :: encodeU32 v.toUInt32
  | .i64 v => 1 :: encodeU64 v.toUInt64
  | .f32 bits => 2 :: encodeU32 bits
  | .f64 bits => 3 :: encodeU64 bits

/-- `Decode for Value`: an index past the last variant is an error. -/
def decodeValue : List UInt8 → Option (Value × List UInt8)
  | [] => none
  | index :: rest =>
    match index.toNat with
    | 0 => (decodeU32 rest).map fun (v, rest) => (.i32 v.toInt32, rest)
    | 1 => (decodeU64 rest).map fun (v, rest) => (.i64 v.toInt64, rest)
    | 2 => (decodeU32 rest).map fun (bits, rest) => (.f32 bits, rest)
    | 3 => (decodeU64 rest).map fun (bits, rest) => (.f64 bits, rest)
    | _ => none

/-- `Encode for ReturnValue`. -/
def encodeReturnValue : ReturnValue → List UInt8
  | .unit => [0]
  | .value v => 1 :: encodeValue v

/-- `Decode for ReturnValue`. -/
def decodeReturnValue : List UInt8 → Option (ReturnValue × List UInt8)
  | [] => none
  | index :: rest =>
    match index.toNat with
    | 0 => some (.unit, rest)
    | 1 => (decodeValue rest).map fun (v, rest) => (.value v, rest)
    | _ => none

/-- `Decode for Result<ReturnValue, HostError>`: `Ok` is index `0`, `Err` index `1`. -/
def decodeHostResult : List UInt8 → Option (Except HostError ReturnValue × List UInt8)
  | [] => none
  | index :: rest =>
    match index.toNat with
    | 0 => (decodeReturnValue rest).map fun (r, rest) => (.ok r, rest)
    | 1 => some (.error ⟨⟩, rest)
    | _ => none

/-- The derived encodings. A vector too long for a compact length, on which the crate panics,
encodes here to nothing. -/
def derivedCodec : SandboxCodec where
  encodeValues values := (encodeVec encodeValue values).getD []
  decodeValues := decodeVec decodeValue
  encodeReturnValue := encodeReturnValue
  decodeHostResult := decodeHostResult

theorem length_encodeValue_le (v : Value) : (encodeValue v).length ≤ 9 := by
  cases v <;> simp [encodeValue]

theorem derivedCodec_fitsEncodedMaxSize : derivedCodec.FitsEncodedMaxSize := by
  intro r
  cases r with
  | unit => decide
  | value v =>
    have widest := length_encodeValue_le v
    simp only [derivedCodec, encodeReturnValue, List.length_cons, ReturnValue.encodedMaxSize]
    omega

/-! ## wasmi's values -/

/-- `wasmi::RuntimeValue`; `F32` and `F64` hold the bits of the float. -/
inductive RuntimeValue
  | i32 (v : Int32)
  | i64 (v : Int64)
  | f32 (bits : UInt32)
  | f64 (bits : UInt64)
  deriving DecidableEq, Repr

/-- `From<Value> for RuntimeValue`. -/
def RuntimeValue.ofValue : Value → RuntimeValue
  | .i32 v => .i32 v
  | .i64 v => .i64 v
  | .f32 bits => .f32 bits
  | .f64 bits => .f64 bits

/-- `From<RuntimeValue> for Value`. -/
def RuntimeValue.toValue : RuntimeValue → Value
  | .i32 v => .i32 v
  | .i64 v => .i64 v
  | .f32 bits => .f32 bits
  | .f64 bits => .f64 bits

@[simp] theorem toValue_ofValue (v : Value) : (RuntimeValue.ofValue v).toValue = v := by
  cases v <;> rfl

@[simp] theorem ofValue_toValue (v : RuntimeValue) : RuntimeValue.ofValue v.toValue = v := by
  cases v <;> rfl

end WasmedgeExecutor.Interface.Codec
