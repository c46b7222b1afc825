import RmdsBridge.FieldMap

namespace RmdsBridge.FieldTypes

inductive MamaFieldTypeEnum
  | msg | opaqueData | string | bool | char | i8 | u8 | i16 | u16 | i32 | u32 | i64 | u64 | f32 | f64
  | time | price
  | vectorI8 | vectorU8 | vectorI16 | vectorU16 | vectorI32 | vectorU32 | vectorI64 | vectorU64 | vectorF32
  | vectorF64 | vectorString | vectorMsg | vectorTime | vectorPrice
  | quantity | collection | unknown
  deriving DecidableEq, Repr

/-- `other` is a value that the enumeration does not have. -/
inductive UpaAsMamaFieldTypeEnum
  | mama (t : MamaFieldTypeEnum)
  | realAsF32
  | enumAsString
  | dateAsTime
  | timeAsTime
  | other (value : ℕ)
  deriving DecidableEq, Repr

def toMamaFieldType : String → Option MamaFieldTypeEnum
  | "MAMA_FIELD_TYPE_MSG" => some .msg
  | "MAMA_FIELD_TYPE_OPAQUE" => some .opaqueData
  | "MAMA_FIELD_TYPE_STRING" => some .string
  | "MAMA_FIELD_TYPE_BOOL" => some .bool
  | "MAMA_FIELD_TYPE_CHAR" => some .char
  | "MAMA_FIELD_TYPE_I8" => some .i8
  | "MAMA_FIELD_TYPE_U8" => some .u8
  | "MAMA_FIELD_TYPE_I16" => some .i16
  | "MAMA_FIELD_TYPE_U16" => some .u16
  | "MAMA_FIELD_TYPE_I32" => some .i32
  | "MAMA_FIELD_TYPE_U32" => some .u32
  | "MAMA_FIELD_TYPE_I64" => some .i64
  | "MAMA_FIELD_TYPE_U64" => some .u64
  | "MAMA_FIELD_TYPE_F32" => some .f32
  | "MAMA_FIELD_TYPE_F64" => some .f64
  | "MAMA_FIELD_TYPE_TIME" => some .time
  | "MAMA_FIELD_TYPE_PRICE" => some .price
  | "MAMA_FIELD_TYPE_VECTOR_I8" => some .vectorI8
  | "MAMA_FIELD_TYPE_VECTOR_U8" => some .vectorU8
  | "MAMA_FIELD_TYPE_VECTOR_I16" => some .vectorI16
  | "MAMA_FIELD_TYPE_VECTOR_U16" => some .vectorU16
  | "MAMA_FIELD_TYPE_VECTOR_I32" => some .vectorI32
  | "MAMA_FIELD_TYPE_VECTOR_U32" => some .vectorU32
  | "MAMA_FIELD_TYPE_VECTOR_I64" => some .vectorI64
  | "MAMA_FIELD_TYPE_VECTOR_U64" => some .vectorU64
  | "MAMA_FIELD_TYPE_VECTOR_F32" => some .vectorF32
  | "MAMA_FIELD_TYPE_VECTOR_F64" => some .vectorF64
  | "MAMA_FIELD_TYPE_VECTOR_STRING" => some .vectorString
  | "MAMA_FIELD_TYPE_VECTOR_MSG" => some .vectorMsg
  | "MAMA_FIELD_TYPE_VECTOR_TIME" => some .vectorTime
  | "MAMA_FIELD_TYPE_VECTOR_PRICE" => some .vectorPrice
  | "MAMA_FIELD_TYPE_QUANTITY" => some .quantity
  | "MAMA_FIELD_TYPE_COLLECTION" => some .collection
  | "MAMA_FIELD_TYPE_UNKNOWN" => some .unknown
  | _ => none

def UpaAsMamaFieldTypeEnum.toMamaFieldType : UpaAsMamaFieldTypeEnum → Option MamaFieldTypeEnum
  | .mama t => some t
  | .realAsF32 => some .f32
  | .enumAsString => some .string
  | .dateAsTime => some .time
  | .timeAsTime => some .time
  | .other _ => none

/-- `other` stands for all that `UpaToMamaFieldType` takes to its default. -/
inductive RsslDataTypes
  | qos | state | array | buffer | map | uint | int | float | double | real | enumeration | date | time
  | dateTime | utf8String | rmtesString | asciiString | other
  deriving DecidableEq, Repr

inductive MfFieldType
  | price | integer | other
  deriving DecidableEq, Repr

def upaToMamaFieldType (rwfType : RsslDataTypes) (mfType : MfFieldType) : UpaAsMamaFieldTypeEnum × Bool :=
  match rwfType with
  | .qos | .state | .array | .other => (.mama .unknown, false)
  | .buffer | .map => (.mama .opaqueData, true)
  | .uint => (.mama .u64, true)
  | .int => (.mama .i64, true)
  | .float => (.mama .f32, true)
  | .double => (.mama .f64, true)
  | .real =>
    match mfType with
    | .price => (.mama .price, true)
    | .integer => (.mama .i64, true)
    | .other => (.mama .string, true)
  | .enumeration => (.enumAsString, true)
  | .date => (.dateAsTime, true)
  | .time => (.timeAsTime, true)
  | .dateTime => (.mama .time, true)
  | .utf8String | .rmtesString | .asciiString => (.mama .string, true)

def specialConversion : RsslDataTypes → MamaFieldTypeEnum → Option UpaAsMamaFieldTypeEnum
  | .real, .f32 => some .realAsF32
  | .enumeration, .string => some .enumAsString
  | .date, .time => some .dateAsTime
  | .time, .time => some .timeAsTime
  | _, _ => none

structure RsslDictionaryEntry where
  fid : RsslFieldId
  acronym : String
  rwfType : RsslDataTypes
  fieldType : MfFieldType
  deriving DecidableEq, Repr

def RsslDictionaryEntry.toEntry (e : RsslDictionaryEntry) : DictionaryEntry UpaAsMamaFieldTypeEnum :=
  ⟨e.fid, e.acronym, (upaToMamaFieldType e.rwfType e.fieldType).1⟩

structure UPADictionaryWrapper where
  entries : List RsslDictionaryEntry
  sorted : entries.Pairwise (·.fid < ·.fid)
  fieldsLoaded : Bool

namespace UPADictionaryWrapper

def getDictionaryEntry (d : UPADictionaryWrapper) (fid : RsslFieldId) : Option RsslDictionaryEntry :=
  d.entries.find? (·.fid == fid)

def rsslDictionary (d : UPADictionaryWrapper) : RsslDataDictionary UpaAsMamaFieldTypeEnum where
  entries := d.entries.map RsslDictionaryEntry.toEntry
  sorted := List.pairwise_map.mpr d.sorted

end UPADictionaryWrapper

end RmdsBridge.FieldTypes
