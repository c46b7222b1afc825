import RmdsBridge.DateTimeCodec
import RmdsBridge.FieldDecoding
import RmdsBridge.FieldRefusals
import RmdsBridge.FieldTranslation

namespace RmdsBridge

open FieldTypes

namespace UpaPayload

variable {D T M : Type} {p : UpaPayload D T M} {ws : List (FieldWrite D T M)} {w : FieldWrite D T M}

end UpaPayload

section

variable {W D T M : Type} {c : FieldConversions D T} {api : RsslFieldApi W D} {enc : FieldListEncoder}
  {dec : FieldListDecoder} {s : DecodedMsg D T M} {f : MamaField UpaAsMamaFieldTypeEnum} {w : W}

def relayed (c : FieldConversions D T) (api : RsslFieldApi W D) (dec : FieldListDecoder) (t : RwfType)
    (f : MamaField UpaAsMamaFieldTypeEnum) (v : ValueType D T M) : Option (ValueType D T M) :=
  match v.encode c api t with
  | .written data => (dec.decodeData c api f data t).join
  | .skipped | .failed => none

namespace FieldListDecoder

theorem decodeTemporal_encode (ha : api.Faithful) {t : RsslDateDataType} {dt : T}
    (h : ValueType.encodeTemporal c api t dt = some w) :
    dec.decodeTemporal c api f t w = some (dec.dates.decodeTemporal c.mamaDateTime f.fieldType.forDates
      (UPAFieldEncoder.encodeTemporal c.mamaDateTime dt t)) := by
  cases t with
  | date =>
    simp only [decodeTemporal, ha.date _ _ h, UPAFieldEncoder.encodeTemporal, UPAFieldDecoder.decodeTemporal,
      unlessBlank, Option.map_some, Option.some.injEq]
    split_ifs <;> rfl
  | time =>
    simp only [decodeTemporal, ha.time _ _ h, UPAFieldEncoder.encodeTemporal, UPAFieldDecoder.decodeTemporal,
      unlessBlank, Option.map_some, Option.some.injEq]
    split_ifs <;> rfl
  | dateTime =>
    simp only [decodeTemporal, ha.dateTime _ _ h, UPAFieldEncoder.encodeTemporal,
      UPAFieldDecoder.decodeTemporal, unlessBlank, Option.map_some, Option.some.injEq]
    split_ifs <;> rfl

/-- No field is mapped on the fly: they all are mapped, or the others are not passed on. -/
def Settled (dec : FieldListDecoder) (m : FieldMap UpaAsMamaFieldTypeEnum) : Prop :=
  dec.cfg.shouldPassNonTranslated = true → ∀ key, (dec.dictionary key).isSome → (m.findField key).isSome

end FieldListDecoder

end

end RmdsBridge
