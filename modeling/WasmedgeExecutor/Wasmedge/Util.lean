import WasmedgeExecutor.Lib.BinaryFloat

/-!
The values crossing the host/Wasm boundary and their conversions in the WasmEdge backend
(`util.rs`): `sp_wasm_interface::Value`, `wasmedge_sdk::types::Val` and
`wasmedge_sys::WasmValue`.

`Value::F32` and `Value::F64` store the raw bit pattern of a float. The WasmEdge conversions
pass it through the numeric casts `u32 as f32` and `f32 as u32` (and their 64-bit forms);
the wasmtime backend passes the bits through unchanged. `fromWasmedgeVal` returns `none` where
the source panics on a variant Substrate does not support.
-/

set_option autoImplicit false
set_option relaxedAutoImplicit false

namespace WasmedgeExecutor.Wasmedge.Util

open WasmedgeExecutor.Lib.BinaryFloat (binary32 binary64 Format)

/-- `f32`, as the bit pattern it is stored as. -/
structure F32 where
  toBits : UInt32
  deriving DecidableEq, Repr

/-- `f64`, as the bit pattern it is stored as. -/
structure F64 where
  toBits : UInt64
  deriving DecidableEq, Repr

/-- `f32::from_bits`. -/
def F32.fromBits (bits : UInt32) : F32 := ⟨bits⟩

/-- `f64::from_bits`. -/
def F64.fromBits (bits : UInt64) : F64 := ⟨bits⟩

/-- `n as f32` for `n : u32`: the nearest float, ties to even. -/
def F32.ofU32 (n : UInt32) : F32 := ⟨(binary32.roundNat n.toNat).toUInt32⟩

/-- `x as u32` for `x : f32`: toward zero, saturating, `NaN` to zero. -/
def F32.toU32 (x : F32) : UInt32 := (binary32.castToUnsigned 32 x.toBits.toNat).toUInt32

/-- `n as f64` for `n : u64`. -/
def F64.ofU64 (n : UInt64) : F64 := ⟨(binary64.roundNat n.toNat).toUInt64⟩

/-- `x as u64` for `x : f64`. -/
def F64.toU64 (x : F64) : UInt64 := (binary64.castToUnsigned 64 x.toBits.toNat).toUInt64

/-- `sp_wasm_interface::Value`; the floats are raw bit patterns, to be read with `from_bits`. -/
inductive Value
  | i32 (v : Int32)
  | i64 (v : Int64)
  | f32 (bits : UInt32)
  | f64 (bits : UInt64)
  deriving DecidableEq, Repr

/-- `sp_wasm_interface::ValueType`. -/
inductive ValueType
  | i32
  | i64
  | f32
  | f64
  deriving DecidableEq, Repr

/-- `wasmedge_sdk::types::Val`. `V128`, `FuncRef` and `ExternRef` are folded into
`unsupported`: the conversions only tell them apart from the four numeric variants. -/
inductive Val
  | i32 (v : Int32)
  | i64 (v : Int64)
  | f32 (v : F32)
  | f64 (v : F64)
  | unsupported
  deriving DecidableEq, Repr

/-- `wasmedge_sdk::ValType`. -/
inductive ValType
  | i32
  | i64
  | f32
  | f64
  | v128
  | funcRef
  | externRef
  deriving DecidableEq, Repr

/-- `from_wasmedge_val`; `none` is the panic on an unsupported variant. -/
def fromWasmedgeVal : Val → Option Value
  | .i32 v => some (.i32 v)
  | .i64 v => some (.i64 v)
  | .f32 v => some (.f32 v.toU32)
  | .f64 v => some (.f64 v.toU64)
  | .unsupported => none

/-- `into_wasmedge_val`. -/
def intoWasmedgeVal : Value → Val
  | .i32 v => .i32 v
  | .i64 v => .i64 v
  | .f32 fBits => .f32 (F32.ofU32 fBits)
  | .f64 fBits => .f64 (F64.ofU64 fBits)

/-- `into_wasmedge_val_type`. -/
def intoWasmedgeValType : ValueType → ValType
  | .i32 => .i32
  | .i64 => .i64
  | .f32 => .f32
  | .f64 => .f64

/-- What the conversions use of `wasmedge_sys::WasmValue`: its type and its accessors. -/
structure WasmValueApi (W : Type) where
  ty : W → ValType
  toI32 : W → Int32
  toI64 : W → Int64
  toF32 : W → F32
  toF64 : W → F64
  fromI32 : Int32 → W
  fromI64 : Int64 → W
  fromF32 : F32 → W
  fromF64 : F64 → W

/-- A `WasmValue` built from a number has that number's type and gives the number back. -/
structure WasmValueApi.Lawful {W : Type} (api : WasmValueApi W) : Prop where
  i32 : ∀ v, api.ty (api.fromI32 v) = .i32 ∧ api.toI32 (api.fromI32 v) = v
  i64 : ∀ v, api.ty (api.fromI64 v) = .i64 ∧ api.toI64 (api.fromI64 v) = v
  f32 : ∀ v, api.ty (api.fromF32 v) = .f32 ∧ api.toF32 (api.fromF32 v) = v
  f64 : ∀ v, api.ty (api.fromF64 v) = .f64 ∧ api.toF64 (api.fromF64 v) = v

section WasmValue

variable {W : Type} (api : WasmValueApi W)

/-- `from_wasmedge_value`; `none` is the panic on an unsupported type. -/
def fromWasmedgeValue (val : W) : Option Value :=
  match api.ty val with
  | .i32 => some (.i32 (api.toI32 val))
  | .i64 => some (.i64 (api.toI64 val))
  | .f32 => some (.f32 (api.toF32 val).toU32)
  | .f64 => some (.f64 (api.toF64 val).toU64)
  | _ => none

/-- `into_wasmedge_value`. -/
def intoWasmedgeValue : Value → W
  | .i32 v => api.fromI32 v
  | .i64 v => api.fromI64 v
  | .f32 fBits => api.fromF32 (F32.ofU32 fBits)
  | .f64 fBits => api.fromF64 (F64.ofU64 fBits)

end WasmValue

theorem fromWasmedgeValue_intoWasmedgeValue {W : Type} {api : WasmValueApi W} (lawful : api.Lawful)
    (v : Value) :
    fromWasmedgeValue api (intoWasmedgeValue api v) = fromWasmedgeVal (intoWasmedgeVal v) := by
  cases v with
  | i32 v => simp [fromWasmedgeValue, intoWasmedgeValue, fromWasmedgeVal, intoWasmedgeVal,
      (lawful.i32 v).1, (lawful.i32 v).2]
  | i64 v => simp [fromWasmedgeValue, intoWasmedgeValue, fromWasmedgeVal, intoWasmedgeVal,
      (lawful.i64 v).1, (lawful.i64 v).2]
  | f32 b => simp [fromWasmedgeValue, intoWasmedgeValue, fromWasmedgeVal, intoWasmedgeVal,
      (lawful.f32 _).1, (lawful.f32 _).2]
  | f64 b => simp [fromWasmedgeValue, intoWasmedgeValue, fromWasmedgeVal, intoWasmedgeVal,
      (lawful.f64 _).1, (lawful.f64 _).2]

/-- `wasmtime::Val` as the wasmtime backend matches on it: the floats hold raw bits. -/
inductive WasmtimeVal
  | i32 (v : Int32)
  | i64 (v : Int64)
  | f32 (bits : UInt32)
  | f64 (bits : UInt64)
  | unsupported
  deriving DecidableEq, Repr

/-- `from_wasmtime_val`. -/
def fromWasmtimeVal : WasmtimeVal → Option Value
  | .i32 v => some (.i32 v)
  | .i64 v => some (.i64 v)
  | .f32 fBits => some (.f32 fBits)
  | .f64 fBits => some (.f64 fBits)
  | .unsupported => none

/-- `into_wasmtime_val`. -/
def intoWasmtimeVal : Value → WasmtimeVal
  | .i32 v => .i32 v
  | .i64 v => .i64 v
  | .f32 fBits => .f32 fBits
  | .f64 fBits => .f64 fBits

theorem fromWasmtimeVal_intoWasmtimeVal (v : Value) :
    fromWasmtimeVal (intoWasmtimeVal v) = some v := by
  cases v <;> rfl

theorem toU32_ofU32 {n : UInt32} (exact : n.toNat < 2 ^ 24) : (F32.ofU32 n).toU32 = n := by
  have fits : binary32.bias + binary32.fractionBits < binary32.maxExponent := by decide
  have pattern := Format.roundNat_lt_of_lt binary32 (n := n.toNat) exact fits
  have width : binary32.exponentBits + binary32.fractionBits = 31 := rfl
  rw [width] at pattern
  apply UInt32.toNat_inj.mp
  simp only [F32.toU32, F32.ofU32, Nat.toUInt32_eq, UInt32.toNat_ofNat']
  rw [Nat.mod_eq_of_lt (show binary32.roundNat n.toNat < 2 ^ 32 by omega),
    Format.castToUnsigned_roundNat binary32 exact n.toNat_lt fits (by decide),
    Nat.mod_eq_of_lt n.toNat_lt]

theorem toU64_ofU64 {n : UInt64} (exact : n.toNat < 2 ^ 53) : (F64.ofU64 n).toU64 = n := by
  have fits : binary64.bias + binary64.fractionBits < binary64.maxExponent := by decide
  have pattern := Format.roundNat_lt_of_lt binary64 (n := n.toNat) exact fits
  have width : binary64.exponentBits + binary64.fractionBits = 63 := rfl
  rw [width] at pattern
  apply UInt64.toNat_inj.mp
  simp only [F64.toU64, F64.ofU64, Nat.toUInt64_eq, UInt64.toNat_ofNat']
  rw [Nat.mod_eq_of_lt (show binary64.roundNat n.toNat < 2 ^ 64 by omega),
    Format.castToUnsigned_roundNat binary64 exact n.toNat_lt fits (by decide),
    Nat.mod_eq_of_lt n.toNat_lt]

theorem fromWasmedgeVal_intoWasmedgeVal_of_exact (v : Value)
    (exact : ∀ bits, v = .f32 bits → bits.toNat < 2 ^ 24)
    (exact64 : ∀ bits, v = .f64 bits → bits.toNat < 2 ^ 53) :
    fromWasmedgeVal (intoWasmedgeVal v) = some v := by
  cases v with
  | i32 v => rfl
  | i64 v => rfl
  | f32 bits => simp [fromWasmedgeVal, intoWasmedgeVal, toU32_ofU32 (exact bits rfl)]
  | f64 bits => simp [fromWasmedgeVal, intoWasmedgeVal, toU64_ofU64 (exact64 bits rfl)]

/-- `Value::F32(16777217)`, one above `2 ^ 24`, is cast to the float `16777216.0` and comes
back as `Value::F32(16777216)`; and the pattern of `1.0` becomes the float `1065353216.0`
instead of `f32::from_bits(0x3F800000) = 1.0`. -/
theorem fromWasmedgeVal_intoWasmedgeVal_f32_rounds :
    fromWasmedgeVal (intoWasmedgeVal (.f32 16777217)) = some (.f32 16777216) ∧
      intoWasmedgeVal (.f32 0x3F800000) = .f32 ⟨0x4E7E0000⟩ ∧
      intoWasmedgeVal (.f32 0x3F800000) ≠ .f32 (F32.fromBits 0x3F800000) := by
  decide

end WasmedgeExecutor.Wasmedge.Util
