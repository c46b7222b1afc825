import RmdsBridge.FieldEncoding

namespace RmdsBridge

open FieldTypes

section

variable {W D T M : Type} {c : FieldConversions D T} {api : RsslFieldApi W D} {enc : FieldListEncoder}
  {s : FieldListState W} {fields : List (UpaFieldPayload D T M)}

namespace FieldListEncoder

theorem foldl_encodeField (h : (fields.foldl (enc.encodeField c api) s).encodeFail = false) :
    s.encodeFail = false ∧ (∀ f ∈ fields, enc.fieldEntry c api f ≠ none) ∧
      (fields.foldl (enc.encodeField c api) s).entries =
        s.entries ++ fields.filterMap fun f => (enc.fieldEntry c api f).join := by
  induction fields generalizing s with
  | nil => simp_all
  | cons f fields ih =>
    obtain ⟨hfirst, hok, hentries⟩ := ih h
    rw [List.foldl_cons, hentries]
    unfold encodeField at hfirst ⊢
    cases he : enc.fieldEntry c api f with
    | none => simp [he] at hfirst
    | some o =>
      rw [he] at hfirst
      cases o with
      | none => exact ⟨hfirst, List.forall_mem_cons.mpr ⟨by simp [he], hok⟩, by simp [he]⟩
      | some e =>
        dsimp only at hfirst ⊢
        split_ifs at hfirst ⊢
        exact ⟨hfirst, List.forall_mem_cons.mpr ⟨by simp [he], hok⟩, by simp [he]⟩

theorem encode_eq_some {wire : List (WireField W)} (h : enc.encode c api fields = some wire) :
    (∀ f ∈ fields, enc.fieldEntry c api f ≠ none) ∧
      wire = fields.filterMap fun f => (enc.fieldEntry c api f).join := by
  unfold encode at h
  dsimp only at h
  split_ifs at h with hfail
  obtain ⟨-, hok, hentries⟩ := foldl_encodeField (Bool.eq_false_iff.mpr hfail)
  exact ⟨hok, (Option.some.inj h).symm.trans hentries⟩

theorem encode_eq_none_iff (hroom : ∀ entries e, api.room entries e = true)
    (hcompletes : ∀ entries, api.completes entries = true) :
    enc.encode c api fields = none ↔ ∃ f ∈ fields, enc.fieldEntry c api f = none := by
  have hfail : ∀ s : FieldListState W, (fields.foldl (enc.encodeField c api) s).encodeFail = true ↔
      s.encodeFail = true ∨ ∃ f ∈ fields, enc.fieldEntry c api f = none := by
    induction fields with
    | nil => simp
    | cons f fields ih =>
      intro s
      rw [List.foldl_cons, ih, List.exists_mem_cons_iff]
      unfold encodeField
      cases enc.fieldEntry c api f with
      | none => simp
      | some o => cases o <;> simp [hroom]
  unfold encode
  dsimp only
  rw [hcompletes, if_pos rfl, ite_eq_left_iff]
  simp [hfail]

end FieldListEncoder

namespace RwfType

/-- The types of a payload's field that the encoder converts to an RMDS field; a vector of bytes is stored as
an 8-bit integer. -/
def converts : RwfType → MamaFieldType → Bool
  | .int, .integer _ | .int, .f32 | .int, .f64 | .int, .price => true
  | .uint, .integer _ | .uint, .f32 | .uint, .f64 | .uint, .price | .uint, .time => true
  | .float, .integer _ | .float, .f32 | .float, .f64 | .float, .price => true
  | .double, .integer _ | .double, .f32 | .double, .f64 | .double, .price => true
  | .real _, .integer _ | .real _, .f32 | .real _, .f64 | .real _, .price => true
  | .coded _ _, .integer _ | .coded _ _, .string => true
  | .temporal _, .integer .u64 | .temporal _, .time | .temporal _, .f64 | .temporal _, .string => true
  | .buffer, .string => true
  | .other, _ => true
  | _, _ => false

end RwfType

structure RsslFieldApi.WritesAll (api : RsslFieldApi W D) : Prop where
  int : ∀ v, (api.int.encode v).isSome
  uint : ∀ v, (api.uint.encode v).isSome
  float : ∀ v, (api.float.encode v).isSome
  double : ∀ v, (api.double.encode v).isSome
  real : ∀ v, (api.real.encode v).isSome
  enum : ∀ v, (api.enum.encode v).isSome
  qos : ∀ v, (api.qos.encode v).isSome
  state : ∀ v, (api.state.encode v).isSome
  date : ∀ v, (api.date.encode v).isSome
  time : ∀ v, (api.time.encode v).isSome
  dateTime : ∀ v, (api.dateTime.encode v).isSome
  buffer : ∀ v, (api.buffer.encode v).isSome
  room : ∀ entries e, api.room entries e = true
  completes : ∀ entries, api.completes entries = true

theorem ofEntry_bind_none {α : Type} {o : Option α} {g : α → Option W} (ho : o.isSome = false) :
    FieldEncoding.ofEntry (o.bind g) = .failed := by
  rw [Option.isSome_eq_false_iff, Option.isNone_iff_eq_none] at ho
  rw [ho]
  rfl

theorem ofEntry_bind_some {α : Type} {o : Option α} {g : α → Option W} (hg : ∀ a, (g a).isSome)
    (ho : o.isSome = true) : FieldEncoding.ofEntry (o.bind g) ≠ .failed := by
  obtain ⟨a, rfl⟩ := Option.isSome_iff_exists.mp ho
  obtain ⟨data, hdata⟩ := Option.isSome_iff_exists.mp (hg a)
  rw [Option.bind_some, hdata]
  nofun

namespace ValueType

theorem getI64_isSome (v : ValueType D T M) :
    (v.getI64 c.toValueConversions).isSome = RwfType.int.converts v.type := by
  cases v <;> rfl

theorem getU64_isSome (v : ValueType D T M) :
    (v.getU64 c.toValueConversions).isSome = RwfType.uint.converts v.type := by
  cases v <;> rfl

theorem getF32_isSome (v : ValueType D T M) :
    (v.getF32 c.toValueConversions).isSome = RwfType.float.converts v.type := by
  cases v <;> rfl

theorem getF64_isSome (v : ValueType D T M) :
    (v.getF64 c.toValueConversions).isSome = RwfType.double.converts v.type := by
  cases v <;> rfl

theorem toRsslReal_isSome (v : ValueType D T M) (fieldType : MfFieldType) :
    (v.toRsslReal c).isSome = (RwfType.real fieldType).converts v.type := by
  cases v <;> rfl

/-- A string has no use for a field without an enum table. -/
def Tabled (v : ValueType D T M) : RwfType → Prop
  | .coded _ none => v.type ≠ .string
  | _ => True

theorem toRsslEnum_of_not_converts {v : ValueType D T M} {t : RsslCodedType}
    {enumTypes : Option RsslEnumTypeTable} (h : (RwfType.coded t enumTypes).converts v.type = false) :
    v.toRsslEnum c enumTypes = none := by
  cases v with
  | string _ | integer _ | vectorI8 _ => cases h
  | _ => rfl

theorem toRsslEnum_isSome {v : ValueType D T M} {t : RsslCodedType} {enumTypes : Option RsslEnumTypeTable}
    (h : (RwfType.coded t enumTypes).converts v.type = true) (ht : v.Tabled (.coded t enumTypes)) :
    (v.toRsslEnum c enumTypes).isSome = true := by
  cases v with
  | string s =>
    cases enumTypes with
    | none => exact absurd rfl ht
    | some table => rfl
  | integer _ | vectorI8 _ => rfl
  | _ => cases h

theorem getDateTime_isSome (v : ValueType D T M) (dt : T) (t : RsslDateDataType) :
    (v.getDateTime c.toValueConversions dt).isSome = (RwfType.temporal t).converts v.type := by
  cases v with
  | integer n =>
    obtain ⟨type, value, h, h'⟩ := n
    cases type <;> rfl
  | _ => rfl

theorem strictString_isSome (v : ValueType D T M) : v.strictString.isSome = RwfType.buffer.converts v.type := by
  cases v <;> rfl

theorem encode_of_not_converts {v : ValueType D T M} {t : RwfType} (h : t.converts v.type = false) :
    v.encode c api t = .failed := by
  cases t with
  | int => exact ofEntry_bind_none (v.getI64_isSome.trans h)
  | uint => exact ofEntry_bind_none (v.getU64_isSome.trans h)
  | float => exact ofEntry_bind_none (v.getF32_isSome.trans h)
  | double => exact ofEntry_bind_none (v.getF64_isSome.trans h)
  | real fieldType => exact ofEntry_bind_none ((v.toRsslReal_isSome fieldType).trans h)
  | coded t enumTypes => rw [encode, toRsslEnum_of_not_converts h]
  | temporal t => exact ofEntry_bind_none ((v.getDateTime_isSome _ t).trans h)
  | buffer => exact ofEntry_bind_none (v.strictString_isSome.trans h)
  | other => cases h

theorem encodeTemporal_isSome (hw : api.WritesAll) (t : RsslDateDataType) (dt : T) :
    (encodeTemporal c api t dt).isSome := by
  cases t
  · exact hw.date _
  · exact hw.time _
  · exact hw.dateTime _

theorem encodeCoded_isSome (hw : api.WritesAll) (t : RsslCodedType) (enumVal : RsslEnum) :
    (api.encodeCoded t enumVal).isSome := by
  cases t
  · exact hw.enum _
  · exact hw.qos _
  · exact hw.state _

theorem encode_of_converts (hw : api.WritesAll) {v : ValueType D T M} {t : RwfType}
    (h : t.converts v.type = true) (ht : v.Tabled t) : v.encode c api t ≠ .failed := by
  cases t with
  | int => exact ofEntry_bind_some (fun _ => hw.int _) (v.getI64_isSome.trans h)
  | uint => exact ofEntry_bind_some (fun _ => hw.uint _) (v.getU64_isSome.trans h)
  | float => exact ofEntry_bind_some (fun _ => hw.float _) (v.getF32_isSome.trans h)
  | double => exact ofEntry_bind_some (fun _ => hw.double _) (v.getF64_isSome.trans h)
  | real fieldType => exact ofEntry_bind_some hw.real ((v.toRsslReal_isSome fieldType).trans h)
  | coded t enumTypes =>
    obtain ⟨o, ho⟩ := Option.isSome_iff_exists.mp (toRsslEnum_isSome (c := c) h ht)
    rw [encode, ho]
    cases o with
    | none => nofun
    | some enumVal =>
      obtain ⟨data, hdata⟩ := Option.isSome_iff_exists.mp (encodeCoded_isSome hw t enumVal)
      dsimp only
      rw [hdata]
      nofun
  | temporal t => exact ofEntry_bind_some (encodeTemporal_isSome hw t) ((v.getDateTime_isSome _ t).trans h)
  | buffer => exact ofEntry_bind_some (fun _ => hw.buffer _) (v.strictString_isSome.trans h)
  | other => nofun

end ValueType

def FieldListEncoder.Unconverted (enc : FieldListEncoder) (f : UpaFieldPayload D T M) : Prop :=
  ∃ t, enc.upaFieldMap.getRMDSFidFromMAMAFid (UInt16.ofNat f.fid) ≠ 0 ∧
    enc.rmdsDictionary (enc.upaFieldMap.getRMDSFidFromMAMAFid (UInt16.ofNat f.fid)) = some t ∧
      t.converts f.data.type = false

def FieldListEncoder.Tabled (enc : FieldListEncoder) (p : UpaPayload D T M) : Prop :=
  ∀ k f t, p.fields.find k = some f →
    enc.rmdsDictionary (enc.upaFieldMap.getRMDSFidFromMAMAFid (UInt16.ofNat f.fid)) = some t → f.data.Tabled t

theorem message_refused_iff (c : FieldConversions D T) (api : RsslFieldApi W D) (enc : FieldListEncoder)
    (p : UpaPayload D T M) (order : List (UpaFieldPayload D T M)) (hperm : order.Perm p.fields.values) :
    ((∃ k f, p.fields.find k = some f ∧ enc.Unconverted f) → enc.encode c api order = none) ∧
      (api.WritesAll → enc.Tabled p → enc.encode c api order = none →
        ∃ k f, p.fields.find k = some f ∧ enc.Unconverted f) := by
  have hmem {f : UpaFieldPayload D T M} : f ∈ order ↔ ∃ k, p.fields.find k = some f :=
    hperm.mem_iff.trans UnorderedMap.mem_values
  constructor
  · rintro ⟨k, f, hk, t, h0, ht, hconverts⟩
    have hentry : enc.fieldEntry c api f = none := by
      unfold FieldListEncoder.fieldEntry
      simp only [ht, ValueType.encode_of_not_converts hconverts]
      rw [if_pos h0]
    cases hsent : enc.encode c api order with
    | none => rfl
    | some wire => exact absurd hentry ((FieldListEncoder.encode_eq_some hsent).1 f (hmem.mpr ⟨k, hk⟩))
  · intro hw htabled hnone
    obtain ⟨f, hf, hentry⟩ := (FieldListEncoder.encode_eq_none_iff hw.room hw.completes).mp hnone
    obtain ⟨k, hk⟩ := hmem.mp hf
    unfold FieldListEncoder.fieldEntry at hentry
    dsimp only at hentry
    split_ifs at hentry with h0
    split at hentry
    · cases hentry
    · rename_i t ht
      refine ⟨k, f, hk, t, h0, ht, Bool.eq_false_iff.mpr fun hconverts => ?_⟩
      have hne := ValueType.encode_of_converts (c := c) hw hconverts (htabled k f t hk ht)
      split at hentry
      · cases hentry
      · cases hentry
      · rename_i hfailed
        exact hne hfailed

end

inductive PlainData (D : Type)
  | int (v : Option Int64)
  | uint (v : Option UInt64)
  | float (v : Option D)
  | double (v : Option D)
  | real (v : Option RsslReal)
  | enum (v : Option RsslEnum)
  | unused (v : RsslEnum)
  | date (v : Option RsslDate)
  | time (v : Option RsslTime)
  | dateTime (v : Option RsslDateTime)
  | buffer (v : Option (List Char))

def plainFieldApi (D : Type) : RsslFieldApi (PlainData D) D where
  int := ⟨fun v => some (.int v), fun | .int v => some v | _ => none⟩
  uint := ⟨fun v => some (.uint v), fun | .uint v => some v | _ => none⟩
  float := ⟨fun v => some (.float v), fun | .float v => some v | _ => none⟩
  double := ⟨fun v => some (.double v), fun | .double v => some v | _ => none⟩
  real := ⟨fun v => some (.real v), fun | .real v => some v | _ => none⟩
  enum := ⟨fun v => some (.enum v), fun | .enum v => some v | _ => none⟩
  qos := ⟨fun v => some (.unused v), fun _ => true⟩
  state := ⟨fun v => some (.unused v), fun _ => true⟩
  date := ⟨fun v => some (.date v), fun | .date v => some v | _ => none⟩
  time := ⟨fun v => some (.time v), fun | .time v => some v | _ => none⟩
  dateTime := ⟨fun v => some (.dateTime v), fun | .dateTime v => some v | _ => none⟩
  buffer := ⟨fun v => some (.buffer v), fun | .buffer v => some v | _ => none⟩
  room _ _ := true
  completes _ := true

def plainFieldConversions : FieldConversions ℤ PlainDateTime where
  toValueConversions := plainConversions
  createPrice := ⟨0, .unknown⟩
  getIsValidPrice _ := true
  zero := 0
  ofFloat x := x.toInt64.toInt
  ofFloat32 x := x.toInt64.toInt
  formatF64 d := toString d ++ ".000000"
  rsslDoubleToReal d hint := ⟨d, hint⟩
  rsslRealToDouble r := r.value
  rsslNumericStringToReal s := ⟨s.toInt?.getD 0, .exponent0⟩
  rsslRealToString r := toString r.value
  setWithHints seconds micros := ⟨seconds, micros * 1000, ⟨false, true⟩⟩

def plainFieldMap : FieldMap UpaAsMamaFieldTypeEnum :=
  let m : FieldMap UpaAsMamaFieldTypeEnum := ⟨∅, ∅, 100⟩
  ((m.put 22 ⟨5, .mama .price, "wBid", false⟩).put 23 ⟨6, .enumAsString, "wSide", false⟩).put 24
    ⟨7, .mama .i32, "wFlag", false⟩

def plainEncoder : FieldListEncoder where
  upaFieldMap := plainFieldMap
  rmdsDictionary
    | 22 => some (.real .price)
    | 23 => some (.coded .enum (some RsslEnumTypeTable.sideTable))
    | 24 => some .int
    | _ => none

def bidField : UpaFieldPayload ℤ PlainDateTime Unit := ⟨5, "wBid", .price ⟨101, .int⟩⟩

theorem bool_flag_refused :
    plainEncoder.encode plainFieldConversions (plainFieldApi ℤ) [⟨7, "wFlag", .bool true⟩, bidField] = none :=
  (message_refused_iff plainFieldConversions (plainFieldApi ℤ) plainEncoder
    ((UpaPayload.set ⟨∅⟩ bidField).set ⟨7, "wFlag", .bool true⟩) _ (List.Perm.refl _)).1
    ⟨7, ⟨7, "wFlag", .bool true⟩, rfl, .int, by decide, rfl, rfl⟩

end RmdsBridge
