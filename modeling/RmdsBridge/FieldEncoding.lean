import RmdsBridge.EnumCodec
import RmdsBridge.FieldTypes
import RmdsBridge.PayloadGetters
import RmdsBridge.PriceCodec

namespace RmdsBridge

open FieldTypes

inductive RsslCodedType
  | enum
  | qos
  | state
  deriving DecidableEq

/-- The type of an RMDS field with what the dictionary holds for it; an array and the other types without a
case in the encoder are `other`. -/
inductive RwfType
  | int
  | uint
  | float
  | double
  | real (fieldType : MfFieldType)
  | coded (t : RsslCodedType) (enumTypes : Option RsslEnumTypeTable)
  | temporal (t : RsslDateDataType)
  | buffer
  | other

abbrev EntriesArray := RsslFieldId → Option RwfType

structure FieldConversions (D T : Type) extends ValueConversions D T where
  createPrice : MamaPrice D
  getIsValidPrice : MamaPrice D → Bool
  zero : D
  ofFloat : Float → D
  ofFloat32 : Float32 → D
  formatF64 : D → String
  rsslDoubleToReal : D → RsslRealHints → RsslReal
  rsslRealToDouble : RsslReal → D
  rsslNumericStringToReal : String → RsslReal
  rsslRealToString : RsslReal → String
  /-- `mamaDateTime_setWithHints` of a cleared date-time, which has a time only. -/
  setWithHints : ℤ → ℕ → T

/-- A value is written or fails to be. What is read is an error, blank or a value; `none` is written blank. -/
structure RsslPrimitiveApi (W α : Type) where
  encode : Option α → Option W
  decode : W → Option (Option α)

/-- A type that is written from an enumerated value, and of which nothing is used that is read. -/
structure RsslUnusedApi (W : Type) where
  encode : RsslEnum → Option W
  decodes : W → Bool

def RsslPrimitiveApi.Faithful {W α : Type} (p : RsslPrimitiveApi W α) : Prop :=
  ∀ v w, p.encode v = some w → p.decode w = some v

def RsslUnusedApi.Faithful {W : Type} (p : RsslUnusedApi W) : Prop :=
  ∀ v w, p.encode v = some w → p.decodes w = true

abbrev WireField (W : Type) := RsslFieldId × W

/-- `W` is the data of an entry. `room` tells which entries the buffer takes, `completes` whether the field
list and the message can be completed. -/
structure RsslFieldApi (W D : Type) where
  int : RsslPrimitiveApi W Int64
  uint : RsslPrimitiveApi W UInt64
  float : RsslPrimitiveApi W D
  double : RsslPrimitiveApi W D
  real : RsslPrimitiveApi W RsslReal
  enum : RsslPrimitiveApi W RsslEnum
  qos : RsslUnusedApi W
  state : RsslUnusedApi W
  date : RsslPrimitiveApi W RsslDate
  time : RsslPrimitiveApi W RsslTime
  dateTime : RsslPrimitiveApi W RsslDateTime
  buffer : RsslPrimitiveApi W (List Char)
  room : List (WireField W) → WireField W → Bool
  completes : List (WireField W) → Bool

structure RsslFieldApi.Faithful {W D : Type} (api : RsslFieldApi W D) : Prop where
  int : api.int.Faithful
  uint : api.uint.Faithful
  float : api.float.Faithful
  double : api.double.Faithful
  real : api.real.Faithful
  enum : api.enum.Faithful
  qos : api.qos.Faithful
  state : api.state.Faithful
  date : api.date.Faithful
  time : api.time.Faithful
  dateTime : api.dateTime.Faithful
  buffer : api.buffer.Faithful

def RsslFieldApi.encodeCoded {W D : Type} (api : RsslFieldApi W D) : RsslCodedType → RsslEnum → Option W
  | .enum, enumVal => api.enum.encode (some enumVal)
  | .qos, enumVal => api.qos.encode enumVal
  | .state, enumVal => api.state.encode enumVal

def unlessBlank {α : Type} [DecidableEq α] (blank v : α) : Option α := if v = blank then none else some v

inductive FieldEncoding (W : Type)
  | written (data : W)
  | skipped
  | failed

def FieldEncoding.ofEntry {W : Type} : Option W → FieldEncoding W
  | some data => .written data
  | none => .failed

structure FieldListState (W : Type) where
  entries : List (WireField W) := []
  encodeFail : Bool := false

structure FieldListEncoder where
  upaFieldMap : FieldMap UpaAsMamaFieldTypeEnum
  rmdsDictionary : EntriesArray

section

variable {W D T M : Type} (c : FieldConversions D T) (api : RsslFieldApi W D)

namespace ValueType

/-- The outer `none` is a conversion error, the inner one a blank real. -/
def toRsslReal (v : ValueType D T M) : Option (Option RsslReal) :=
  match v.type with
  | .price => (v.getPrice c.toValueConversions c.createPrice).map fun p =>
      if c.getIsValidPrice p then
        some (c.rsslDoubleToReal p.value (UPAFieldEncoder.mamaPrecisionToRsslHint p.precision))
      else none
  | .integer _ => (v.getI64 c.toValueConversions).map fun n => some ⟨n, .exponent0⟩
  | .f64 => (v.getF64 c.toValueConversions).map fun d => some (c.rsslNumericStringToReal (c.formatF64 d))
  | .f32 => (v.getF32 c.toValueConversions).map fun d =>
      some (c.rsslNumericStringToReal (c.formatF64 (c.f32ToF64 d)))
  | _ => none

/-- The inner `none` is an undefined value, which is left out without an error. -/
def toRsslEnum (enumTypes : Option RsslEnumTypeTable) (v : ValueType D T M) : Option (Option RsslEnum) :=
  match v.type with
  -- without a table a string is looked for behind a null pointer, which no result stands for
  | .string => v.strictString.bind fun s => enumTypes.map fun t => some (t.encodeField s.toList)
  | .integer _ => (v.getU16 c.toValueConversions).map fun n =>
      if (enumTypes.bind fun t => t.getFieldEntryEnumType (UInt16.ofInt n)).isSome then some (UInt16.ofInt n)
      else none
  | _ => none

def encodeTemporal (t : RsslDateDataType) (dt : T) : Option W :=
  match UPAFieldEncoder.encodeTemporal c.mamaDateTime dt t with
  | .date d => api.date.encode (unlessBlank .blank d)
  | .time t => api.time.encode (unlessBlank .blank t)
  | .dateTime v => api.dateTime.encode (unlessBlank ⟨.blank, .blank⟩ v)

def encode (v : ValueType D T M) : RwfType → FieldEncoding W
  | .int => .ofEntry ((v.getI64 c.toValueConversions).bind fun n => api.int.encode (some (Int64.ofInt n)))
  | .uint => .ofEntry ((v.getU64 c.toValueConversions).bind fun n => api.uint.encode (some (UInt64.ofInt n)))
  | .float => .ofEntry ((v.getF32 c.toValueConversions).bind fun d => api.float.encode (some d))
  | .double => .ofEntry ((v.getF64 c.toValueConversions).bind fun d => api.double.encode (some d))
  | .real _ => .ofEntry ((v.toRsslReal c).bind api.real.encode)
  | .coded t enumTypes =>
    match v.toRsslEnum c enumTypes with
    | some (some enumVal) => .ofEntry (api.encodeCoded t enumVal)
    | some none => .skipped
    | none => .failed
  | .temporal t => .ofEntry ((v.getDateTime c.toValueConversions c.mamaDateTime.create).bind
      (encodeTemporal c api t))
  | .buffer => .ofEntry (v.strictString.bind fun s => api.buffer.encode (unlessBlank [] (cString s.toList)))
  | .other => .skipped

end ValueType

namespace FieldListEncoder

variable (enc : FieldListEncoder)

def fieldEntry (f : UpaFieldPayload D T M) : Option (Option (WireField W)) :=
  let rmdsFid := enc.upaFieldMap.getRMDSFidFromMAMAFid (UInt16.ofNat f.fid)
  if rmdsFid ≠ 0 then
    match enc.rmdsDictionary rmdsFid with
    | none => some none
    | some dictEntry =>
      match f.data.encode c api dictEntry with
      | .written data => some (some (rmdsFid, data))
      | .skipped => some none
      | .failed => none
  else some none

def encodeField (s : FieldListState W) (f : UpaFieldPayload D T M) : FieldListState W :=
  match enc.fieldEntry c api f with
  | some (some e) =>
    if api.room s.entries e then { s with entries := s.entries ++ [e] } else { s with encodeFail := true }
  | some none => s
  | none => { s with encodeFail := true }

/-- The fields come in the order in which the payload is iterated; `none` is a message that is not sent. -/
def encode (fields : List (UpaFieldPayload D T M)) : Option (List (WireField W)) :=
  let s := fields.foldl (enc.encodeField c api) {}
  if s.encodeFail then none else if api.completes s.entries then some s.entries else none

end FieldListEncoder

end

end RmdsBridge
