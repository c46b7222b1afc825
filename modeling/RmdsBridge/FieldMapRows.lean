import RmdsBridge.FieldMapReader

namespace RmdsBridge

open FieldTypes TextTokens

def InRange (n : ℤ) : Prop := n ≠ 0 ∧ -32768 ≤ n ∧ n ≤ 32767

instance (n : ℤ) : Decidable (InRange n) := by
  unfold InRange; infer_instance

def HasComment : ℕ → List (Option (List Char)) → Prop
  | i, some tok :: cols => i < 7 ∧ (isComment i tok = true ∨ HasComment (i + 1) cols)
  | _, _ => False

instance HasComment.decidable : ∀ (i : ℕ) (cols : List (Option (List Char))), Decidable (HasComment i cols)
  | _, [] => inferInstanceAs (Decidable False)
  | _, none :: _ => inferInstanceAs (Decidable False)
  | i, some tok :: cols =>
    have := HasComment.decidable (i + 1) cols
    inferInstanceAs (Decidable (i < 7 ∧ (isComment i tok = true ∨ HasComment (i + 1) cols)))

namespace CsvLine

variable (cfg : HandlerConfig) (line : CsvLine)

def fieldType (key : RsslFieldId) (tok : List Char) : Option UpaAsMamaFieldTypeEnum :=
  match toMamaFieldType (String.ofList tok) with
  | some t => some (.mama t)
  | none =>
    if tok = [] then
      match toUpaAsMamaFieldTypeByFid cfg.upaDictionary key line.uninitialised.originalTarget with
      | .read t => some t
      | _ => none
    else none

def csvRow : Option (CsvRow UpaAsMamaFieldTypeEnum) :=
  match line.columns with
  | some _ :: some fid :: some _ :: some name :: some mamaFid :: some type :: _ =>
    some
      { sourceFieldFid := (lexicalCastInt32 fid).filter fun n => InRange n
        mamaFieldName := String.ofList name
        mamaFid := fidToken mamaFid
        mamaFieldType := (lexicalCastInt32 fid).bind fun n => line.fieldType cfg (Int16.ofInt n) type }
  | _ => none

def row : Option (ParsedRow UpaAsMamaFieldTypeEnum) :=
  if HasComment 0 line.columns then none else (line.csvRow cfg).bind CsvRow.parse

end CsvLine

section Columns

variable (cfg : HandlerConfig) (originalTarget : MamaFieldTypeEnum)

def ValidColumn (key : RsslFieldId) (i : ℕ) (tok : List Char) : Prop :=
  match i with
  | 1 => (lexicalCastInt32 tok).isSome
  | 4 => (fidToken tok).parse.isSome
  | 5 => ∃ t, readFieldType cfg.upaDictionary key originalTarget tok = .read t
  | _ => True

def NoEntry (key : RsslFieldId) (i : ℕ) (tok : List Char) : Prop :=
  i = 5 ∧ toMamaFieldType (String.ofList tok) = none ∧ cfg.upaDictionary.fieldsLoaded = true ∧
    cfg.upaDictionary.getDictionaryEntry key = none

def keyAfter (key : RsslFieldId) (i : ℕ) (tok : List Char) : RsslFieldId :=
  if i = 1 then Int16.ofInt ((lexicalCastInt32 tok).getD 0) else key

def Stops : ℕ → RsslFieldId → List (Option (List Char)) → Prop
  | _, _, [] => False
  | _, _, none :: _ => True
  | i, key, some tok :: cols =>
    i < 7 ∧ isComment i tok = false ∧
      (NoEntry cfg key i tok ∨
        ValidColumn cfg originalTarget key i tok ∧ Stops (i + 1) (keyAfter key i tok) cols)

def ReadThrough : ℕ → RsslFieldId → List (Option (List Char)) → Prop
  | _, _, [] => True
  | _, _, none :: _ => False
  | i, key, some tok :: cols =>
    7 ≤ i ∨ isComment i tok = false ∧ ValidColumn cfg originalTarget key i tok ∧
      ReadThrough (i + 1) (keyAfter key i tok) cols

end Columns

def AllColumns : List (Option (List Char)) → Prop
  | some _ :: some fid :: some _ :: some _ :: some _ :: some type :: _ =>
    (∃ n, lexicalCastInt32 fid = some n ∧ InRange n) ∧
      (type = [] ∨ (toMamaFieldType (String.ofList type)).isSome = true)
  | _ => False

def emptyField : MamaField UpaAsMamaFieldTypeEnum := ⟨0, .mama .unknown, "", true⟩

def FieldMap.fieldAt (m : FieldMap UpaAsMamaFieldTypeEnum) (key : RsslFieldId) :
    MamaField UpaAsMamaFieldTypeEnum :=
  (m.fieldsMap.find key).getD emptyField

structure SameMaps (m m' : FieldMap UpaAsMamaFieldTypeEnum) : Prop where
  fields : ∀ key, m'.fieldAt key = m.fieldAt key
  back : ∀ n, m'.getRMDSFidFromMAMAFid n = m.getRMDSFidFromMAMAFid n

def ParsedRow.locals (r : ParsedRow UpaAsMamaFieldTypeEnum) : RowLocals :=
  ⟨r.key, ⟨r.mamaFid.getD 0, r.fieldType, r.name, r.mamaFid.isNone⟩, true, true⟩

namespace UpaMamaFieldMapHandler

def storedField (cfg : HandlerConfig) (h : UpaMamaFieldMapHandler) (row : RowLocals) :
    MamaField UpaAsMamaFieldTypeEnum :=
  if row.parsedMamaFid ∧ row.parsedMamaFieldName ∧ row.mamaField.hasNoMamaFid then
    match cfg.mamaDictionary.getFieldDescriptorByName row.mamaField.fieldName with
    | some d => { row.mamaField with mamaFid := d.fid }
    | none => { row.mamaField with mamaFid := h.fieldMap.nonTranslatedFieldFid + 1 }
  else row.mamaField

def Rewrites (cfg : HandlerConfig) (h : UpaMamaFieldMapHandler) (row : RowLocals) : Prop :=
  h.fieldMap.fieldAt row.key = h.storedField cfg row ∧
    h.fieldMap.getRMDSFidFromMAMAFid (h.storedField cfg row).mamaFid = row.key

end UpaMamaFieldMapHandler

namespace FieldMapLoader

variable (cfg : HandlerConfig)

structure FollowsRow (s : FieldMapLoader) (line : CsvLine) : Prop where
  goesOn : (s.loadLine cfg line).stopped = false
  row : ∀ r, line.row cfg = some r →
    (s.loadLine cfg line).handler.fieldMap = FieldMap.loadRow cfg.fieldMap s.handler.fieldMap r
  other : line.row cfg = none → SameMaps s.handler.fieldMap (s.loadLine cfg line).handler.fieldMap

structure Loadable (s : FieldMapLoader) (line : CsvLine) : Prop where
  readable : ¬ Stops cfg line.uninitialised.originalTarget 0 line.uninitialised.key line.columns
  complete : line.columns ≠ [] →
    ReadThrough cfg line.uninitialised.originalTarget 0 line.uninitialised.key line.columns →
      AllColumns line.columns ∨ ∃ row, readLine cfg line = .read row ∧ s.handler.Rewrites cfg row

end FieldMapLoader

section Reading

variable {cfg : HandlerConfig} {originalTarget : MamaFieldTypeEnum} {key : RsslFieldId} {i : ℕ}
  {tok : List Char}

theorem toUpaAs_stopped_iff (d : UPADictionaryWrapper) :
    toUpaAsMamaFieldTypeByFid d key originalTarget = .stopped ↔
      d.fieldsLoaded = true ∧ d.getDictionaryEntry key = none := by
  unfold toUpaAsMamaFieldTypeByFid
  by_cases hl : d.fieldsLoaded = true
  · rw [if_pos hl]
    cases he : d.getDictionaryEntry key with
    | none => exact ⟨fun _ => ⟨hl, rfl⟩, fun _ => rfl⟩
    | some e =>
      refine ⟨fun h => ?_, fun h => by cases h.2⟩
      dsimp only at h
      split at h
      · cases h
      · split at h <;> cases h
  · rw [if_neg hl]
    exact ⟨fun h => (by cases h), fun h => absurd h.1 hl⟩

theorem readFieldType_stopped_iff :
    readFieldType cfg.upaDictionary key originalTarget tok = .stopped ↔ NoEntry cfg key 5 tok := by
  unfold readFieldType NoEntry
  cases ht : toMamaFieldType (String.ofList tok) with
  | some t => simp
  | none => simpa using toUpaAs_stopped_iff cfg.upaDictionary

theorem readColumn_cases (cfg : HandlerConfig) (originalTarget : MamaFieldTypeEnum) (i : ℕ) (tok : List Char)
    (row : RowLocals) :
    (ValidColumn cfg originalTarget row.key i tok ∧ ¬ NoEntry cfg row.key i tok ∧
        ∃ row', readColumn cfg originalTarget i tok row = .read row' ∧ row'.key = keyAfter row.key i tok) ∨
      ¬ ValidColumn cfg originalTarget row.key i tok ∧
        (NoEntry cfg row.key i tok ∧ readColumn cfg originalTarget i tok row = .stopped ∨
          ¬ NoEntry cfg row.key i tok ∧ readColumn cfg originalTarget i tok row = .skipped) := by
  by_cases h5 : i = 5
  · subst h5
    unfold readColumn ValidColumn
    cases ht : readFieldType cfg.upaDictionary row.key originalTarget tok with
    | read t =>
      refine .inl ⟨⟨t, rfl⟩, fun h => ?_, _, rfl, rfl⟩
      cases ht.symm.trans (readFieldType_stopped_iff.mpr h)
    | skipped =>
      refine .inr ⟨fun ⟨t, h⟩ => (by cases h), .inr ⟨fun h => ?_, rfl⟩⟩
      cases ht.symm.trans (readFieldType_stopped_iff.mpr h)
    | stopped => exact .inr ⟨fun ⟨t, h⟩ => (by cases h), .inl ⟨readFieldType_stopped_iff.mp ht, rfl⟩⟩
  · have hentry : ¬ NoEntry cfg row.key i tok := fun h => h5 h.1
    match i with
    | 1 =>
      unfold readColumn ValidColumn
      cases hn : lexicalCastInt32 tok with
      | some n => exact .inl ⟨rfl, hentry, _, rfl, by simp [keyAfter, hn]⟩
      | none => exact .inr ⟨by simp, .inr ⟨hentry, rfl⟩⟩
    | 4 =>
      unfold readColumn ValidColumn
      cases hn : (fidToken tok).parse with
      | some n => exact .inl ⟨rfl, hentry, _, rfl, rfl⟩
      | none => exact .inr ⟨by simp, .inr ⟨hentry, rfl⟩⟩
    | 0 => exact .inl ⟨trivial, hentry, _, rfl, rfl⟩
    | 2 => exact .inl ⟨trivial, hentry, _, rfl, rfl⟩
    | 3 => exact .inl ⟨trivial, hentry, _, rfl, rfl⟩
    | n + 6 => exact .inl ⟨trivial, hentry, _, rfl, by simp [keyAfter]⟩

theorem readColumns_cases (cfg : HandlerConfig) (originalTarget : MamaFieldTypeEnum)
    (cols : List (Option (List Char))) (i : ℕ) (row : RowLocals) :
    (Stops cfg originalTarget i row.key cols ∧ readColumns cfg originalTarget i cols row = .stopped) ∨
      ¬ Stops cfg originalTarget i row.key cols ∧
        (ReadThrough cfg originalTarget i row.key cols ∧
            (∃ row', readColumns cfg originalTarget i cols row = .read row') ∨
          ¬ ReadThrough cfg originalTarget i row.key cols ∧
            readColumns cfg originalTarget i cols row = .skipped) := by
  induction cols generalizing i row with
  | nil => exact .inr ⟨id, .inl ⟨trivial, row, rfl⟩⟩
  | cons col cols ih =>
    cases col with
    | none => exact .inl ⟨trivial, rfl⟩
    | some tok =>
      simp only [Stops, ReadThrough, readColumns]
      by_cases hi : 7 ≤ i
      · rw [if_pos hi]
        exact .inr ⟨fun h => absurd h.1 (Nat.not_lt.mpr hi), .inl ⟨.inl hi, row, rfl⟩⟩
      · rw [if_neg hi]
        cases hc : isComment i tok with
        | true => exact .inr ⟨fun h => (by cases h.2.1), .inr ⟨fun h => h.elim hi fun h => (by cases h.1), rfl⟩⟩
        | false =>
          rw [if_neg Bool.false_ne_true]
          have hlt := Nat.lt_of_not_le hi
          obtain ⟨hvalid, hentry, row', hread, hkey⟩ | ⟨hvalid, ⟨hentry, hread⟩ | ⟨hentry, hread⟩⟩ :=
            readColumn_cases cfg originalTarget i tok row
          · rw [hread]
            obtain ⟨hstops, hrest⟩ | ⟨hstops, ⟨hpassed, hrest⟩ | ⟨hpassed, hrest⟩⟩ := ih (i + 1) row'
            · rw [hkey] at hstops
              exact .inl ⟨⟨hlt, rfl, .inr ⟨hvalid, hstops⟩⟩, hrest⟩
            · rw [hkey] at hstops hpassed
              exact .inr ⟨fun h => h.2.2.elim hentry fun h => hstops h.2,
                .inl ⟨.inr ⟨rfl, hvalid, hpassed⟩, hrest⟩⟩
            · rw [hkey] at hstops hpassed
              exact .inr ⟨fun h => h.2.2.elim hentry fun h => hstops h.2,
                .inr ⟨fun h => h.elim hi fun h => hpassed h.2.2, hrest⟩⟩
          · rw [hread]
            exact .inl ⟨⟨hlt, rfl, .inl hentry⟩, rfl⟩
          · rw [hread]
            exact .inr ⟨fun h => h.2.2.elim hentry fun h => hvalid h.1,
              .inr ⟨fun h => h.elim hi fun h => hvalid h.2.1, rfl⟩⟩

theorem ReadThrough.not_comment {cols : List (Option (List Char))}
    (h : ReadThrough cfg originalTarget i key cols) : ¬ HasComment i cols := by
  induction cols generalizing i key with
  | nil => exact id
  | cons col cols ih =>
    cases col with
    | none => exact id
    | some tok =>
      rintro ⟨hi, hcomment⟩
      obtain h7 | ⟨hc, -, hrest⟩ := h
      · exact absurd hi (Nat.not_lt.mpr h7)
      · obtain hcomment | hcomment := hcomment
        · rw [hc] at hcomment
          cases hcomment
        · exact ih hrest hcomment

theorem passed_after_type {cols : List (Option (List Char))} (hi : 6 ≤ i)
    (hstops : ¬ Stops cfg originalTarget i key cols) (hcomment : ¬ HasComment i cols) :
    ReadThrough cfg originalTarget i key cols := by
  induction cols generalizing i key with
  | nil => trivial
  | cons col cols ih =>
    cases col with
    | none => exact absurd trivial hstops
    | some tok =>
      by_cases h7 : 7 ≤ i
      · exact .inl h7
      · obtain rfl : i = 6 := by omega
        have hc : isComment 6 tok = false := by
          cases h : isComment 6 tok with
          | true => exact absurd ⟨by omega, .inl h⟩ hcomment
          | false => rfl
        refine .inr ⟨hc, trivial, ih (by omega) (fun h => hstops ⟨by omega, hc, .inr ⟨trivial, h⟩⟩) fun h => ?_⟩
        exact hcomment ⟨by omega, .inr h⟩

theorem ReadThrough.cons {cols : List (Option (List Char))} (hi : i < 7)
    (h : ReadThrough cfg originalTarget i key (some tok :: cols)) :
    isComment i tok = false ∧ ValidColumn cfg originalTarget key i tok ∧
      ReadThrough cfg originalTarget (i + 1) (keyAfter key i tok) cols :=
  h.resolve_left (Nat.not_le.mpr hi)

theorem readColumns_cons {cols : List (Option (List Char))} {row row' : RowLocals} (hi : i < 7)
    (hc : isComment i tok = false) (h : readColumn cfg originalTarget i tok row = .read row') :
    readColumns cfg originalTarget i (some tok :: cols) row =
      readColumns cfg originalTarget (i + 1) cols row' := by
  rw [readColumns, if_neg (Nat.not_le.mpr hi), hc, if_neg Bool.false_ne_true, h]

theorem readColumns_after_type {cols : List (Option (List Char))} {row : RowLocals} (hi : 6 ≤ i)
    (h : ReadThrough cfg originalTarget i key cols) :
    readColumns cfg originalTarget i cols row = .read row := by
  induction cols generalizing i key with
  | nil => rfl
  | cons col cols ih =>
    cases col with
    | none => cases h
    | some tok =>
      by_cases h7 : 7 ≤ i
      · rw [readColumns, if_pos h7]
      · obtain rfl : i = 6 := by omega
        obtain ⟨hc, -, hrest⟩ := h.cons (by omega)
        rw [readColumns_cons (by omega) hc rfl]
        exact ih (by omega) hrest

theorem readColumns_complete {remark fid acronym name mamaFid type : List Char}
    {rest : List (Option (List Char))} {n : ℤ} (row : RowLocals) (hn : lexicalCastInt32 fid = some n)
    (h : ReadThrough cfg originalTarget 0 key
      (some remark :: some fid :: some acronym :: some name :: some mamaFid :: some type :: rest)) :
    ∃ m t, (fidToken mamaFid).parse = some m ∧
      readFieldType cfg.upaDictionary (Int16.ofInt n) originalTarget type = .read t ∧
      readColumns cfg originalTarget 0
          (some remark :: some fid :: some acronym :: some name :: some mamaFid :: some type :: rest) row =
        .read ⟨Int16.ofInt n, ⟨m.getD 0, t, String.ofList name, m.isNone⟩, true, true⟩ := by
  obtain ⟨hc0, -, h⟩ := h.cons (by omega)
  obtain ⟨hc1, -, h⟩ := h.cons (by omega)
  obtain ⟨hc2, -, h⟩ := h.cons (by omega)
  obtain ⟨hc3, -, h⟩ := h.cons (by omega)
  obtain ⟨hc4, hm, h⟩ := h.cons (by omega)
  obtain ⟨hc5, ⟨t, ht⟩, h⟩ := h.cons (by omega)
  obtain ⟨m, hm⟩ := Option.isSome_iff_exists.mp hm
  have hkey : keyAfter key 1 fid = Int16.ofInt n := by simp [keyAfter, hn]
  replace ht : readFieldType cfg.upaDictionary (Int16.ofInt n) originalTarget type = .read t := by
    rw [← hkey]
    exact ht
  refine ⟨m, t, hm, ht, ?_⟩
  rw [readColumns_cons (by omega) hc0 rfl,
    readColumns_cons (by omega) hc1 (by rw [readColumn, hn]),
    readColumns_cons (by omega) hc2 rfl, readColumns_cons (by omega) hc3 rfl,
    readColumns_cons (by omega) hc4 (by rw [readColumn, hm]),
    readColumns_cons (by omega) hc5 (by rw [readColumn, ht]),
    readColumns_after_type (by omega) h]

theorem not_hasComment_cons {cols : List (Option (List Char))} (hi : i < 7)
    (h : ¬ HasComment i (some tok :: cols)) : isComment i tok = false ∧ ¬ HasComment (i + 1) cols :=
  ⟨Bool.eq_false_iff.mpr fun hc => h ⟨hi, .inl hc⟩, fun hc => h ⟨hi, .inr hc⟩⟩

theorem not_stops_cons {cols : List (Option (List Char))} (hi : i < 7) (hc : isComment i tok = false)
    (hvalid : ValidColumn cfg originalTarget key i tok)
    (h : ¬ Stops cfg originalTarget i key (some tok :: cols)) :
    ¬ Stops cfg originalTarget (i + 1) (keyAfter key i tok) cols :=
  fun hs => h ⟨hi, hc, .inr ⟨hvalid, hs⟩⟩

end Reading

section Lines

variable {cfg : HandlerConfig} {line : CsvLine} {r : ParsedRow UpaAsMamaFieldTypeEnum}

theorem columns_eq_nil_iff : line.columns = [] ↔ trim line.text = [] := by
  unfold CsvLine.columns escapedListFields
  rw [List.map_eq_nil_iff]
  by_cases h : trim line.text = []
  · simp [h]
  · simp [h, readFields_ne_nil]

theorem fieldType_of_read {key : RsslFieldId} {tok : List Char} {t : UpaAsMamaFieldTypeEnum}
    (htok : tok = [] ∨ (toMamaFieldType (String.ofList tok)).isSome = true)
    (h : readFieldType cfg.upaDictionary key line.uninitialised.originalTarget tok = .read t) :
    line.fieldType cfg key tok = some t := by
  unfold readFieldType at h
  unfold CsvLine.fieldType
  cases ht : toMamaFieldType (String.ofList tok) with
  | some t' =>
    rw [ht] at h
    cases h
    rfl
  | none =>
    rw [ht] at h htok
    dsimp only at h ⊢
    rw [if_pos (htok.resolve_right (by simp)), h]

theorem read_of_fieldType {key : RsslFieldId} {tok : List Char} {t : UpaAsMamaFieldTypeEnum}
    (h : line.fieldType cfg key tok = some t) :
    (tok = [] ∨ (toMamaFieldType (String.ofList tok)).isSome = true) ∧
      readFieldType cfg.upaDictionary key line.uninitialised.originalTarget tok = .read t := by
  unfold CsvLine.fieldType at h
  unfold readFieldType
  cases ht : toMamaFieldType (String.ofList tok) with
  | some t' =>
    rw [ht] at h
    cases h
    exact ⟨.inr rfl, rfl⟩
  | none =>
    rw [ht] at h
    dsimp only at h ⊢
    split at h
    · rename_i hnil
      refine ⟨.inl hnil, ?_⟩
      split at h
      · rename_i hread
        cases h
        exact hread
      · cases h
    · cases h

theorem row_of_complete
    (hpassed : ReadThrough cfg line.uninitialised.originalTarget 0 line.uninitialised.key line.columns)
    (hcomplete : AllColumns line.columns) :
    ∃ r, line.row cfg = some r ∧ readLine cfg line = .read r.locals := by
  have hcomment := hpassed.not_comment
  have hblank : trim line.text ≠ [] := fun h => by
    rw [columns_eq_nil_iff.mpr h] at hcomplete
    exact hcomplete
  unfold CsvLine.row CsvLine.csvRow readLine
  rw [if_neg hcomment, if_neg hblank]
  unfold AllColumns at hcomplete
  split at hcomplete
  · rename_i remark fid acronym name mamaFid type rest hcols
    obtain ⟨⟨n, hn, hrange⟩, htype⟩ := hcomplete
    rw [hcols] at hpassed ⊢
    obtain ⟨m, t, hm, ht, hread⟩ := readColumns_complete line.uninitialised.locals hn hpassed
    refine ⟨⟨Int16.ofInt n, String.ofList name, m, t⟩, ?_, hread⟩
    have hfilter : (some n).filter (fun n => decide (InRange n)) = some n := by simp [hrange]
    simp only [hn, hfilter, Option.bind_some, CsvRow.parse, hm, fieldType_of_read htype ht]
  · cases hcomplete

theorem parse_csvRow {fid mamaFid : List Char} {name : String} {f : ℤ → Option UpaAsMamaFieldTypeEnum}
    (h : CsvRow.parse ⟨(lexicalCastInt32 fid).filter fun n => InRange n, name, fidToken mamaFid,
      (lexicalCastInt32 fid).bind f⟩ = some r) :
    ∃ n m t, lexicalCastInt32 fid = some n ∧ InRange n ∧ (fidToken mamaFid).parse = some m ∧ f n = some t := by
  unfold CsvRow.parse at h
  split at h
  · rename_i n m t hn hm ht
    obtain ⟨hn, hrange⟩ := Option.filter_eq_some_iff.mp hn
    rw [hn] at ht
    exact ⟨n, m, t, hn, of_decide_eq_true hrange, hm, ht⟩
  · cases h

theorem complete_of_row (h : line.row cfg = some r)
    (hstops : ¬ Stops cfg line.uninitialised.originalTarget 0 line.uninitialised.key line.columns) :
    ReadThrough cfg line.uninitialised.originalTarget 0 line.uninitialised.key line.columns ∧
      AllColumns line.columns := by
  unfold CsvLine.row at h
  split at h
  · cases h
  rename_i hcomment
  obtain ⟨c, hc, hparse⟩ := Option.bind_eq_some_iff.mp h
  unfold CsvLine.csvRow at hc
  split at hc
  · rename_i remark fid acronym name mamaFid type rest hcols
    cases hc
    rw [hcols] at hcomment hstops ⊢
    obtain ⟨n, m, t, hn, hrange, hm, ht⟩ := parse_csvRow hparse
    obtain ⟨hnamed, hread⟩ := read_of_fieldType ht
    have hvalid : ValidColumn cfg line.uninitialised.originalTarget
        (keyAfter line.uninitialised.key 1 fid) 5 type := by
      rw [keyAfter, if_pos rfl, hn]
      exact ⟨t, hread⟩
    refine ⟨?_, ⟨n, hn, hrange⟩, hnamed⟩
    obtain ⟨hc0, hcomment⟩ := not_hasComment_cons (by omega) hcomment
    obtain ⟨hc1, hcomment⟩ := not_hasComment_cons (by omega) hcomment
    obtain ⟨hc2, hcomment⟩ := not_hasComment_cons (by omega) hcomment
    obtain ⟨hc3, hcomment⟩ := not_hasComment_cons (by omega) hcomment
    obtain ⟨hc4, hcomment⟩ := not_hasComment_cons (by omega) hcomment
    obtain ⟨hc5, hcomment⟩ := not_hasComment_cons (by omega) hcomment
    have hv1 := Option.isSome_of_eq_some hn
    have hv4 := Option.isSome_of_eq_some hm
    replace hstops := not_stops_cons (by omega) hc0 trivial hstops
    replace hstops := not_stops_cons (by omega) hc1 hv1 hstops
    replace hstops := not_stops_cons (by omega) hc2 trivial hstops
    replace hstops := not_stops_cons (by omega) hc3 trivial hstops
    replace hstops := not_stops_cons (by omega) hc4 hv4 hstops
    replace hstops := not_stops_cons (by omega) hc5 hvalid hstops
    have hrest := passed_after_type (by omega) hstops hcomment
    exact .inr ⟨hc0, trivial, .inr ⟨hc1, hv1, .inr ⟨hc2, trivial, .inr ⟨hc3, trivial,
      .inr ⟨hc4, hv4, .inr ⟨hc5, hvalid, hrest⟩⟩⟩⟩⟩⟩
  · cases hc

end Lines

end RmdsBridge
