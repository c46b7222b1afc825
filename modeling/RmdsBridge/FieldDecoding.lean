import RmdsBridge.FieldEncoding
import RmdsBridge.IntegerDecoding
import RmdsBridge.PayloadMap

namespace RmdsBridge

open FieldTypes

theorem castInteger_range (t : MamaIntegerType) (v : ℤ) :
    t.least ≤ castInteger t v ∧ castInteger t v ≤ t.greatest := by
  have hpos : 0 < t.greatest - t.least + 1 := by cases t <;> decide
  have h := Int.emod_nonneg (v - t.least) hpos.ne'
  have h' := Int.emod_lt_of_pos (v - t.least) hpos
  unfold castInteger
  omega

def MamaInteger.cast (t : MamaIntegerType) (v : ℤ) : MamaInteger :=
  ⟨t, castInteger t v, (castInteger_range t v).1, (castInteger_range t v).2⟩

theorem castInteger_eq {t : MamaIntegerType} {v : ℤ} (h : t.least ≤ v) (h' : v ≤ t.greatest) :
    castInteger t v = v := by
  rw [castInteger, Int.emod_eq_of_lt (by omega) (by omega), Int.sub_add_cancel]

theorem MamaInteger.cast_value (n : MamaInteger) : MamaInteger.cast n.type n.value = n := by
  obtain ⟨t, v, h, h'⟩ := n
  simp only [MamaInteger.cast, castInteger_eq h h']

/-- The types that the date cases name; all the others come to their default, as a bool does. -/
def FieldTypes.UpaAsMamaFieldTypeEnum.forDates : UpaAsMamaFieldTypeEnum → UpaAsMamaFieldType
  | .mama .time => .time
  | .mama .string => .string
  | .enumAsString => .enumAsString
  | .dateAsTime => .dateAsTime
  | .timeAsTime => .timeAsTime
  | _ => .bool

section

variable {D T M : Type} (c : FieldConversions D T)

def AddedValue.toValueType : AddedValue → ValueType D T M
  | .string s => .string s
  | .bool b => .bool b
  | .char n => .char (castChar n.toInt)
  | .i8 n => .integer (.cast .i8 n.toInt)
  | .u8 n => .integer (.cast .u8 n.toNat)
  | .i16 n => .integer (.cast .i16 n.toInt)
  | .u16 n => .integer (.cast .u16 n.toNat)
  | .i32 n => .integer (.cast .i32 n.toInt)
  | .u32 n => .integer (.cast .u32 n.toNat)
  | .i64 n => .integer (.cast .i64 n.toInt)
  | .u64 n => .integer (.cast .u64 n.toNat)
  | .f32 x => .f32 (c.ofFloat32 x)
  | .f64 x => .f64 (c.ofFloat x)
  | .price x => .price { c.createPrice with value := c.ofFloat x }
  | .dateTime seconds micros => .time (c.setWithHints seconds.toInt micros.toNat)

def MamaDateField.toValueType : MamaDateField T → ValueType D T M
  | .dateTime dt => .time dt
  | .string s => .string s

namespace UPAFieldDecoder

variable (f : MamaField UpaAsMamaFieldTypeEnum)

def addInteger (w : WireInteger) : Option (ValueType D T M) :=
  (w.addToMsg f).added.map fun a => a.value.toValueType c

def addRsslFloatToMsg (v : D) : Option (ValueType D T M) :=
  match f.fieldType with
  | .mama .string | .enumAsString => some (.string (c.formatF64 (c.f32ToF64 v)))
  | .mama .f32 | .realAsF32 => some (.f32 v)
  | .mama .f64 => some (.f64 (c.f32ToF64 v))
  | .mama .price => some (.price { c.createPrice with value := c.f32ToF64 v })
  | .mama .i16 => some (.integer (.cast .i16 (c.f32ToInteger .i16 v)))
  | .mama .u16 => some (.integer (.cast .u16 (c.f32ToInteger .u16 v)))
  | .mama .i32 => some (.integer (.cast .i32 (c.f32ToInteger .i32 v)))
  | .mama .u32 => some (.integer (.cast .u32 (c.f32ToInteger .u32 v)))
  | .mama .i64 => some (.integer (.cast .i64 (c.f32ToInteger .i64 v)))
  | .mama .u64 => some (.integer (.cast .u64 (c.f32ToInteger .u64 v)))
  | _ => none

def addRsslDoubleToMsg (v : D) (hint : RsslRealHints) : Option (ValueType D T M) :=
  match f.fieldType with
  | .mama .string | .enumAsString => some (.string (c.formatF64 v))
  | .mama .f32 | .realAsF32 => some (.f32 (c.f64ToF32 v))
  | .mama .f64 => some (.f64 v)
  | .mama .price => some (.price ⟨v, rsslHintToMamaPrecisionTo hint⟩)
  | .mama .i16 => some (.integer (.cast .i16 (c.f64ToInteger .i16 v)))
  | .mama .u16 => some (.integer (.cast .u16 (c.f64ToInteger .u16 v)))
  | .mama .i32 => some (.integer (.cast .i32 (c.f64ToInteger .i32 v)))
  | .mama .u32 => some (.integer (.cast .u32 (c.f64ToInteger .u32 v)))
  | .mama .i64 => some (.integer (.cast .i64 (c.f64ToInteger .i64 v)))
  | .mama .u64 => some (.integer (.cast .u64 (c.f64ToInteger .u64 v)))
  | _ => none

def addRsslStringToMsg (s : String) : Option (ValueType D T M) :=
  match f.fieldType with
  | .mama .string | .enumAsString => some (.string s)
  | _ => none

end UPAFieldDecoder

end

structure FieldListDecoder where
  cfg : FieldMapConfig UpaAsMamaFieldTypeEnum
  dictionary : EntriesArray
  dates : UPAFieldDecoder
  uninitialised : Bool

structure DecodedMsg (D T M : Type) where
  fieldmap : FieldMap UpaAsMamaFieldTypeEnum
  msg : UpaPayload D T M

def UpaPayload.writeAll {D T M : Type} (p : UpaPayload D T M) (ws : List (FieldWrite D T M)) :
    UpaPayload D T M :=
  ws.foldl (fun p w => (p.write w.fid w.name w.value).2) p

/-- A field list, which is `none` when it cannot be read, with the header fields of its message. -/
structure ReceivedFields (W D T M : Type) where
  entries : Option (List (Option (WireField W)))
  before : List (FieldWrite D T M)
  after : List (FieldWrite D T M)

namespace FieldListDecoder

section

variable {W D T M : Type} (c : FieldConversions D T) (api : RsslFieldApi W D) (dec : FieldListDecoder)

def decodeReal (f : MamaField UpaAsMamaFieldTypeEnum) :
    MfFieldType → Option RsslReal → Option (ValueType D T M)
  | .integer, some r => UPAFieldDecoder.addInteger c f
      (.int (Int64.ofInt (c.f64ToInteger .i64 (c.rsslRealToDouble r))))
  | .integer, none => UPAFieldDecoder.addInteger c f (.int 0)
  | .price, some r => UPAFieldDecoder.addRsslDoubleToMsg c f (c.rsslRealToDouble r) r.hint
  | .price, none => UPAFieldDecoder.addRsslDoubleToMsg c f c.zero .exponent0
  | .other, some r => UPAFieldDecoder.addRsslStringToMsg f (c.rsslRealToString r)
  | .other, none => UPAFieldDecoder.addRsslStringToMsg f ""

def decodeTemporal (f : MamaField UpaAsMamaFieldTypeEnum) (t : RsslDateDataType) (data : W) :
    Option (Option (MamaDateField T)) :=
  match t with
  | .date => (api.date.decode data).map fun v =>
    match v with
    | some d => dec.dates.addRsslDateToMsg c.mamaDateTime f.fieldType.forDates
        { RsslDateTime.clear with date := d } false
    | none => dec.dates.addRsslDateToMsg c.mamaDateTime f.fieldType.forDates .clear true
  | .time => (api.time.decode data).map fun v =>
    match v with
    | some t => dec.dates.addRsslTimeToMsg c.mamaDateTime f.fieldType.forDates
        { RsslDateTime.clear with time := t } false
    | none => dec.dates.addRsslTimeToMsg c.mamaDateTime f.fieldType.forDates .clear true
  | .dateTime => (api.dateTime.decode data).map fun v =>
    match v with
    | some v => dec.dates.addRsslDateTimeToMsg c.mamaDateTime f.fieldType.forDates v false
    | none => dec.dates.addRsslDateTimeToMsg c.mamaDateTime f.fieldType.forDates
        { RsslDateTime.clear with date := ⟨1970, 1, 1⟩ } true

def decodeData (f : MamaField UpaAsMamaFieldTypeEnum) (data : W) :
    RwfType → Option (Option (ValueType D T M))
  | .uint => (api.uint.decode data).map fun v => UPAFieldDecoder.addInteger c f (.uint (v.getD 0))
  | .int => (api.int.decode data).map fun v => UPAFieldDecoder.addInteger c f (.int (v.getD 0))
  | .float => (api.float.decode data).map fun v => UPAFieldDecoder.addRsslFloatToMsg c f (v.getD c.zero)
  | .double => (api.double.decode data).map fun v =>
      UPAFieldDecoder.addRsslDoubleToMsg c f (v.getD c.zero) .exponent0
  | .real fieldType => (api.real.decode data).map (decodeReal c f fieldType)
  | .coded .enum enumTypes => (api.enum.decode data).map fun v =>
      UPAFieldDecoder.addRsslStringToMsg f
        (match v with
        | some enumVal => String.ofList (enumTypes.elim (Nat.toDigits 10 enumVal.toNat) (·.decodeFieldEntry enumVal))
        | none => "0")
  -- these are decoded, and what they are is not added
  | .coded .qos _ => if api.qos.decodes data then some none else none
  | .coded .state _ => if api.state.decodes data then some none else none
  | .temporal t => (dec.decodeTemporal c api f t data).map fun v => v.map MamaDateField.toValueType
  -- a string is added whatever the type that the field is mapped to
  | .buffer => (api.buffer.decode data).map fun v => some (.string (String.ofList (cString (v.getD []))))
  | .other => some none

def decodeFieldEntry (s : DecodedMsg D T M) (e : WireField W) : Bool × DecodedMsg D T M :=
  match dec.dictionary e.1 with
  | none => (true, s)
  | some t =>
    let (mamaField, fieldmap) := s.fieldmap.getTranslatedField dec.cfg e.1 dec.uninitialised
    match mamaField with
    | none => (true, { s with fieldmap := fieldmap })
    | some f =>
      match dec.decodeData c api f e.2 t with
      | none => (false, { s with fieldmap := fieldmap })
      | some none => (true, { s with fieldmap := fieldmap })
      | some (some v) => (true, ⟨fieldmap, (s.msg.write f.mamaFid.toNat (some f.fieldName) v).2⟩)

def decodeFields : DecodedMsg D T M → List (Option (WireField W)) → Bool × DecodedMsg D T M
  | s, [] => (true, s)
  | s, none :: _ => (false, s)
  | s, some e :: entries =>
    match dec.decodeFieldEntry c api s e with
    | (true, s) => decodeFields s entries
    | (false, s) => (false, s)

/-- The header fields are written around the loop. The message goes to the callback if it decodes, and is
cleared in any case. -/
def processMarketPriceResponse (s : DecodedMsg D T M) (r : ReceivedFields W D T M) :
    Option (UpaPayload D T M) × DecodedMsg D T M :=
  let begun := { s with msg := s.msg.writeAll r.before }
  match r.entries with
  | none => (none, { s with msg := begun.msg.clear })
  | some entries =>
    let (decodes, s) := dec.decodeFields c api begun entries
    (if decodes then some (s.msg.writeAll r.after) else none, { s with msg := s.msg.clear })

end

end FieldListDecoder

end RmdsBridge
