import RmdsBridge.FieldRelay

namespace RmdsBridge

open FieldTypes

section

variable {W D T M : Type} (c : FieldConversions D T)

structure FieldConversions.KeepsPrice (p : MamaPrice D) : Prop where
  valid : c.getIsValidPrice p = true
  decimal : p.precision = .int ∨ ∃ n, 1 ≤ n ∧ n ≤ 10 ∧ p.precision = .pow10 n
  hint : (c.rsslDoubleToReal p.value (UPAFieldEncoder.mamaPrecisionToRsslHint p.precision)).hint =
    UPAFieldEncoder.mamaPrecisionToRsslHint p.precision
  value : c.rsslRealToDouble
    (c.rsslDoubleToReal p.value (UPAFieldEncoder.mamaPrecisionToRsslHint p.precision)) = p.value

def RwfType.Carries (t : RwfType) (target : UpaAsMamaFieldTypeEnum) : ValueType D T M → Prop
  | .integer n => target = (IntegerTarget.integer n.type).fieldType ∧
    match t with
    | .int => n.value < 9223372036854775808
    | .uint => 0 ≤ n.value
    | .real .integer => n.value < 9223372036854775808 ∧
        c.f64ToInteger .i64 (c.rsslRealToDouble ⟨n.value, .exponent0⟩) = n.value
    | _ => False
  | .f32 _ => t = .float ∧ (target = .mama .f32 ∨ target = .realAsF32)
  | .f64 _ => t = .double ∧ target = .mama .f64
  | .price p => target = .mama .price ∧
    match t with
    | .double => p.precision = .int
    | .real .price => c.KeepsPrice p
    | _ => False
  | .string s =>
    match t with
    | .buffer => '\x00' ∉ s.toList
    | .coded .enum (some enumTypes) => (target = .mama .string ∨ target = .enumAsString) ∧ enumTypes.Plain ∧
        enumTypes.maxValue < 65535 ∧ ∃ e ∈ enumTypes.enumTypes.reduceOption, e.display = s.toList
    | _ => False
  | .time dt =>
    match t with
    | .temporal t => target.forDates.IsDateTime t ∧ (UPAFieldEncoder.encodeTemporal c.mamaDateTime dt t).Valid ∧
        (UPAFieldEncoder.encodeTemporal c.mamaDateTime dt t).Kept
    | _ => False
  | _ => False

def RwfType.Reads (t : RwfType) : ValueType D T M → ValueType D T M → Prop
  | .time dt, .time dt' => ∃ t', t = .temporal t' ∧
      UPAFieldEncoder.encodeTemporal c.mamaDateTime dt' t' = UPAFieldEncoder.encodeTemporal c.mamaDateTime dt t'
  | v, v' => v' = v

end

section

variable {W D T M : Type} {c : FieldConversions D T} {api : RsslFieldApi W D} {dec : FieldListDecoder}
  {f : MamaField UpaAsMamaFieldTypeEnum} {t : RwfType}

theorem decimal_precision_kept {p : MamaPricePrecision} (h : p = .int ∨ ∃ n, 1 ≤ n ∧ n ≤ 10 ∧ p = .pow10 n) :
    UPAFieldDecoder.rsslHintToMamaPrecisionTo (UPAFieldEncoder.mamaPrecisionToRsslHint p) = p := by
  obtain rfl | ⟨n, h1, h10, rfl⟩ := h
  · rfl
  · have h14 : 14 - n ≠ 14 := by omega
    have hlt : ¬ 14 < 14 - n := by omega
    have h4 : ¬ 14 - n < 4 := by omega
    have hsub : 14 - (14 - n) = n := by omega
    simp [UPAFieldEncoder.mamaPrecisionToRsslHint, h1, h10, UPAFieldDecoder.rsslHintToMamaPrecisionTo, h14, hlt,
      h4, hsub]

theorem toValueType_of_integer {value : AddedValue} {t : MamaIntegerType} {z : ℤ}
    (h : value.integer = some (.integer t, z)) :
    value.toValueType c = (.integer (.cast t z) : ValueType D T M) := by
  cases value <;> cases h <;> rfl

theorem addInteger_eq {n : MamaInteger} (hf : f.fieldType = (IntegerTarget.integer n.type).fieldType)
    {w : WireInteger} (hw : w.toInt = n.value) :
    UPAFieldDecoder.addInteger c f w = some (.integer n : ValueType D T M) := by
  have hself : f.withTarget (.integer n.type) = f := by
    rw [MamaField.withTarget, ← hf]
  obtain ⟨value, hvalue, hadd⟩ := w.adds f (.integer n.type)
  have hfits : (IntegerTarget.integer n.type).Fits n.value := ⟨n.least_le, n.le_greatest⟩
  rw [hw, IntegerTarget.wrap_of_fits hfits] at hvalue
  rw [hself] at hadd
  unfold UPAFieldDecoder.addInteger
  rw [hadd, Option.map_some, toValueType_of_integer hvalue, MamaInteger.cast_value]

theorem exists_of_ofEntry {o : Option W} (h : FieldEncoding.ofEntry o ≠ .failed) : ∃ data, o = some data := by
  cases o with
  | none => exact absurd rfl h
  | some data => exact ⟨data, rfl⟩

theorem relayed_of_primitive {α : Type} {a : RsslPrimitiveApi W α} (ha : a.Faithful) {v : ValueType D T M}
    {o : Option α} (hv : v.encode c api t = .ofEntry (a.encode o)) (hsent : v.encode c api t ≠ .failed)
    {g : Option α → Option (ValueType D T M)}
    (hg : ∀ data, dec.decodeData c api f data t = (a.decode data).map g) : relayed c api dec t f v = g o := by
  rw [hv] at hsent
  obtain ⟨data, hdata⟩ := exists_of_ofEntry hsent
  rw [hdata] at hv
  simp only [relayed, hv, FieldEncoding.ofEntry, hg, ha o data hdata, Option.map_some, Option.join_some]

theorem toInt_ofInt {v : ℤ} (h : -9223372036854775808 ≤ v) (h' : v < 9223372036854775808) :
    (Int64.ofInt v).toInt = v :=
  Int64.toInt_ofInt_of_le h h'

theorem toNat_ofInt {v : ℤ} (h : 0 ≤ v) (h' : v < 18446744073709551616) : ((UInt64.ofInt v).toNat : ℤ) = v := by
  have hmod : v % 2 ^ 64 = v := Int.emod_eq_of_lt h h'
  rw [UInt64.ofInt, hmod, UInt64.toNat_ofNat']
  omega

theorem integer_carried (ha : api.Faithful) {n : MamaInteger}
    (hcar : t.Carries c f.fieldType (.integer n : ValueType D T M))
    (hsent : (ValueType.integer n : ValueType D T M).encode c api t ≠ .failed) :
    relayed c api dec t f (.integer n : ValueType D T M) = some (.integer n) := by
  obtain ⟨hf, ht⟩ := hcar
  have hrange := n.range
  cases t with
  | int =>
    have hcast : castInteger .i64 n.value = n.value := castInteger_eq hrange.1 (Int.le_sub_one_of_lt ht)
    have hencode : (ValueType.integer n : ValueType D T M).encode c api .int =
        .ofEntry (api.int.encode (some (Int64.ofInt n.value))) := by
      simp only [ValueType.encode, ValueType.getI64, ValueType.getNumber, ValueType.integer?, Option.bind_some,
        hcast]
    rw [relayed_of_primitive ha.int hencode hsent fun _ => rfl]
    exact addInteger_eq hf (toInt_ofInt hrange.1 ht)
  | uint =>
    have hcast : castInteger .u64 n.value = n.value := castInteger_eq ht (Int.le_sub_one_of_lt hrange.2)
    have hencode : (ValueType.integer n : ValueType D T M).encode c api .uint =
        .ofEntry (api.uint.encode (some (UInt64.ofInt n.value))) := by
      simp only [ValueType.encode, ValueType.getU64, ValueType.getNumber, ValueType.integer?, Option.bind_some,
        hcast]
    rw [relayed_of_primitive ha.uint hencode hsent fun _ => rfl]
    exact addInteger_eq hf (toNat_ofInt ht hrange.2)
  | real fieldType =>
    cases fieldType with
    | integer =>
      obtain ⟨hlt, hdouble⟩ := ht
      have hcast : castInteger .i64 n.value = n.value := castInteger_eq hrange.1 (Int.le_sub_one_of_lt hlt)
      have hencode : (ValueType.integer n : ValueType D T M).encode c api (.real .integer) =
          .ofEntry (api.real.encode (some ⟨n.value, .exponent0⟩)) := by
        simp only [ValueType.encode, ValueType.toRsslReal, ValueType.type, ValueType.getI64, ValueType.getNumber,
          ValueType.integer?, Option.map_some, Option.bind_some, hcast]
      rw [relayed_of_primitive ha.real hencode hsent fun _ => rfl, FieldListDecoder.decodeReal, hdouble]
      exact addInteger_eq hf (toInt_ofInt hrange.1 hlt)
    | price | other => exact ht.elim
  | float | double | coded _ _ | temporal _ | buffer | other => exact ht.elim

theorem floating_carried (ha : api.Faithful) {v : ValueType D T M} (hv : (∃ d, v = .f32 d) ∨ ∃ d, v = .f64 d)
    (hcar : t.Carries c f.fieldType v) (hsent : v.encode c api t ≠ .failed) :
    relayed c api dec t f v = some v := by
  obtain ⟨d, rfl⟩ | ⟨d, rfl⟩ := hv
  · obtain ⟨rfl, hf⟩ := hcar
    rw [relayed_of_primitive ha.float (o := some d) rfl hsent fun _ => rfl]
    rcases hf with hf | hf <;> simp [UPAFieldDecoder.addRsslFloatToMsg, hf]
  · obtain ⟨rfl, hf⟩ := hcar
    rw [relayed_of_primitive ha.double (o := some d) rfl hsent fun _ => rfl]
    simp [UPAFieldDecoder.addRsslDoubleToMsg, hf]

theorem price_carried (ha : api.Faithful) {p : MamaPrice D}
    (hcar : t.Carries c f.fieldType (.price p : ValueType D T M))
    (hsent : (ValueType.price p : ValueType D T M).encode c api t ≠ .failed) :
    relayed c api dec t f (.price p : ValueType D T M) = some (.price p) := by
  obtain ⟨hf, ht⟩ := hcar
  cases t with
  | double =>
    rw [relayed_of_primitive ha.double (o := some p.value) rfl hsent fun _ => rfl]
    obtain ⟨value, precision⟩ := p
    obtain rfl : precision = .int := ht
    simp only [UPAFieldDecoder.addRsslDoubleToMsg, hf, Option.getD_some]
    rfl
  | real fieldType =>
    cases fieldType with
    | price =>
      have hencode : (ValueType.price p : ValueType D T M).encode c api (.real .price) = .ofEntry
          (api.real.encode
            (some (c.rsslDoubleToReal p.value (UPAFieldEncoder.mamaPrecisionToRsslHint p.precision)))) := by
        simp only [ValueType.encode, ValueType.toRsslReal, ValueType.type, ValueType.getPrice, ValueType.integer?,
          Option.map_some, Option.bind_some, ht.valid, if_true]
      rw [relayed_of_primitive ha.real hencode hsent fun _ => rfl, FieldListDecoder.decodeReal]
      simp only [UPAFieldDecoder.addRsslDoubleToMsg, hf, ht.value, ht.hint, decimal_precision_kept ht.decimal]
    | integer | other => exact ht.elim
  | int | uint | float | coded _ _ | temporal _ | buffer | other => exact ht.elim

theorem string_carried (ha : api.Faithful) {s : String}
    (hcar : t.Carries c f.fieldType (.string s : ValueType D T M))
    (hsent : (ValueType.string s : ValueType D T M).encode c api t ≠ .failed) :
    relayed c api dec t f (.string s : ValueType D T M) = some (.string s) := by
  cases t with
  | buffer =>
    have hnul : '\x00' ∉ s.toList := hcar
    have hencode : (ValueType.string s : ValueType D T M).encode c api .buffer =
        .ofEntry (api.buffer.encode (unlessBlank [] s.toList)) := by
      simp only [ValueType.encode, ValueType.strictString, Option.bind_some, cString_eq hnul]
    have hgetD : (unlessBlank [] s.toList).getD [] = s.toList := by
      unfold unlessBlank
      split_ifs with h
      · exact h.symm
      · rfl
    rw [relayed_of_primitive ha.buffer hencode hsent fun _ => rfl, hgetD, cString_eq hnul, String.ofList_toList]
  | coded t enumTypes =>
    obtain ⟨rfl, table, rfl⟩ : t = .enum ∧ ∃ table, enumTypes = some table := by
      cases t <;> cases enumTypes <;> first | exact hcar.elim | exact ⟨rfl, _, rfl⟩
    obtain ⟨hf, hplain, hmax, e, he, hs⟩ := hcar
    have hdecode : table.decodeFieldEntry e.value = s.toList := by
      rw [RsslEnumTypeTable.decodeFieldEntry, RsslEnumTypeTable.getFieldEntryEnumType_eq_some.mpr ⟨he, rfl⟩]
      exact (cString_eq (hplain.noNul e he)).trans hs
    have hvalue : table.encodeField s.toList = e.value := by
      have hdefined := RsslEnumTypeTable.getFieldEntryEnumType_eq_some.mpr ⟨he, rfl⟩
      rw [← hdecode]
      exact (RsslEnumTypeTable.defined_round_trip_iff hplain hdefined).mpr (.inl hmax)
    have hencode : (ValueType.string s : ValueType D T M).encode c api (.coded .enum (some table)) =
        .ofEntry (api.enum.encode (some e.value)) := by
      simp only [ValueType.encode, ValueType.toRsslEnum, ValueType.type, ValueType.strictString, Option.map_some,
        Option.bind_some, hvalue, RsslFieldApi.encodeCoded]
    rw [relayed_of_primitive ha.enum hencode hsent fun _ => rfl]
    simp only [Option.elim_some, hdecode, String.ofList_toList, UPAFieldDecoder.addRsslStringToMsg]
    rcases hf with hf | hf <;> rw [hf]
  | int | uint | float | double | real _ | temporal _ | other => exact hcar.elim

theorem temporal_kept {m : MamaDateTime T} (hm : m.Exact) {d : UPAFieldDecoder}
    (hd : d.returnDateTimeAsString = false) {target : UpaAsMamaFieldType} {v : RsslTemporal}
    (ht : target.IsDateTime v.dataType) (hv : v.Valid) (hk : v.Kept) : roundTrip m d target v = some v := by
  cases v with
  | date _ => exact date_kept hm hd ht hv
  | time _ => exact (time_kept_iff hm hd ht hv).mpr hk
  | dateTime _ => exact (dateTime_kept_iff hm hd ht hv).mpr hk

theorem time_carried (ha : api.Faithful) (hm : c.mamaDateTime.Exact)
    (hd : dec.dates.returnDateTimeAsString = false) {dt : T}
    (hcar : t.Carries c f.fieldType (.time dt : ValueType D T M))
    (hsent : (ValueType.time dt : ValueType D T M).encode c api t ≠ .failed) :
    ∃ dt', relayed c api dec t f (.time dt : ValueType D T M) = some (.time dt') ∧
      t.Reads c (.time dt : ValueType D T M) (.time dt') := by
  cases t with
  | temporal t =>
    obtain ⟨ht, hvalid, hkept⟩ := hcar
    obtain ⟨data, hdata⟩ := exists_of_ofEntry hsent
    have hencode : ValueType.encodeTemporal c api t dt = some data := hdata
    have htype : (UPAFieldEncoder.encodeTemporal c.mamaDateTime dt t).dataType = t := by cases t <;> rfl
    have hround := temporal_kept hm hd (htype.symm ▸ ht) hvalid hkept
    obtain ⟨field, hfield, hback⟩ := Option.bind_eq_some_iff.mp hround
    cases field with
    | string s => cases hback
    | dateTime dt' =>
      refine ⟨dt', ?_, t, rfl, ?_⟩
      · have hw : (ValueType.time dt : ValueType D T M).encode c api (.temporal t) = .written data :=
          congrArg FieldEncoding.ofEntry hdata
        simp only [relayed, hw, FieldListDecoder.decodeData, FieldListDecoder.decodeTemporal_encode ha hencode,
          hfield, Option.map_some, Option.join_some, MamaDateField.toValueType]
      · rw [← htype]
        simpa only [htype] using Option.some.inj hback
  | int | uint | float | double | real _ | coded _ _ | buffer | other => exact hcar.elim

theorem carried (ha : api.Faithful) (hm : c.mamaDateTime.Exact) (hd : dec.dates.returnDateTimeAsString = false)
    {v : ValueType D T M} (hcar : t.Carries c f.fieldType v) (hsent : v.encode c api t ≠ .failed) :
    ∃ v', relayed c api dec t f v = some v' ∧ t.Reads c v v' := by
  cases v with
  | integer n => exact ⟨_, integer_carried ha hcar hsent, rfl⟩
  | f32 d => exact ⟨_, floating_carried ha (.inl ⟨d, rfl⟩) hcar hsent, rfl⟩
  | f64 d => exact ⟨_, floating_carried ha (.inr ⟨d, rfl⟩) hcar hsent, rfl⟩
  | price p => exact ⟨_, price_carried ha hcar hsent, rfl⟩
  | string s => exact ⟨_, string_carried ha hcar hsent, rfl⟩
  | time dt =>
    obtain ⟨dt', hrel, hreads⟩ := time_carried ha hm hd hcar hsent
    exact ⟨_, hrel, hreads⟩
  | bool _ | char _ | opaqueData _ | msg _ | vectorI8 _ | vectorMsg _ | vectorString _ => exact hcar.elim

variable {enc : FieldListEncoder} {p : UpaPayload D T M} {order : List (UpaFieldPayload D T M)}
  {m : FieldMap UpaAsMamaFieldTypeEnum} {wire : List (WireField W)}

end

end RmdsBridge
