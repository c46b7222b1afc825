import RmdsBridge.FieldTranslation
import RmdsBridge.FieldTypes
import RmdsBridge.TextTokens

namespace RmdsBridge

open FieldTypes TextTokens

structure HandlerConfig where
  mamaDictionary : MamaDictionary
  upaDictionary : UPADictionaryWrapper
  shouldPassNonTranslated : Bool

def HandlerConfig.fieldMap (cfg : HandlerConfig) : FieldMapConfig UpaAsMamaFieldTypeEnum :=
  ⟨cfg.mamaDictionary, cfg.upaDictionary.rsslDictionary, cfg.shouldPassNonTranslated⟩

structure UpaMamaFieldMapHandler where
  fieldMap : FieldMap UpaAsMamaFieldTypeEnum
  mamaFieldMapConflictingFields : List String

structure Uninitialised where
  key : RsslFieldId
  mamaFid : MamaFid
  mamaFieldType : UpaAsMamaFieldTypeEnum
  hasNoMamaFid : Bool
  originalTarget : MamaFieldTypeEnum

structure CsvLine where
  text : List Char
  uninitialised : Uninitialised

structure RowLocals where
  key : RsslFieldId
  mamaField : MamaField UpaAsMamaFieldTypeEnum
  parsedMamaFid : Bool
  parsedMamaFieldName : Bool

def Uninitialised.locals (u : Uninitialised) : RowLocals :=
  ⟨u.key, ⟨u.mamaFid, u.mamaFieldType, "", u.hasNoMamaFid⟩, false, false⟩

/-- `stopped` is what ends the load: an exception of the tokenizer, or a null pointer. -/
inductive Reading (α : Type)
  | read (a : α)
  | skipped
  | stopped

/-- Without an entry for the fid the pointer to it is null. -/
def toUpaAsMamaFieldTypeByFid (d : UPADictionaryWrapper) (key : RsslFieldId)
    (originalTarget : MamaFieldTypeEnum) : Reading UpaAsMamaFieldTypeEnum :=
  if d.fieldsLoaded then
    match d.getDictionaryEntry key with
    | none => .stopped
    | some e =>
      match specialConversion e.rwfType originalTarget with
      | some t => .read t
      | none =>
        let (t, known) := upaToMamaFieldType e.rwfType e.fieldType
        if known then .read t else .skipped
  else .skipped

/-- The dictionary is asked only where the name is unknown, and then with a target that nobody set. -/
def readFieldType (d : UPADictionaryWrapper) (key : RsslFieldId) (originalTarget : MamaFieldTypeEnum)
    (tok : List Char) : Reading UpaAsMamaFieldTypeEnum :=
  match toMamaFieldType (String.ofList tok) with
  | some t => .read (.mama t)
  | none => toUpaAsMamaFieldTypeByFid d key originalTarget

def fidToken (tok : List Char) : FidToken :=
  if tok = [] then .empty
  else
    match lexicalCastInt32 tok with
    | some n => .number n
    | none => .bad

def isComment (i : ℕ) (tok : List Char) : Bool :=
  tok.head? = some '#' || (tok = ['r', 'e', 'm', 'a', 'r', 'k'] && i = 0)

def readColumn (cfg : HandlerConfig) (originalTarget : MamaFieldTypeEnum) (i : ℕ) (tok : List Char)
    (row : RowLocals) : Reading RowLocals :=
  match i with
  | 1 =>
    match lexicalCastInt32 tok with
    | some val => .read { row with key := Int16.ofInt val }
    | none => .skipped
  | 3 =>
    .read { row with
      mamaField := { row.mamaField with fieldName := String.ofList tok }
      parsedMamaFieldName := true }
  | 4 =>
    match (fidToken tok).parse with
    | some mamaFid =>
      .read { row with
        mamaField := { row.mamaField with mamaFid := mamaFid.getD 0, hasNoMamaFid := mamaFid.isNone }
        parsedMamaFid := true }
    | none => .skipped
  | 5 =>
    match readFieldType cfg.upaDictionary row.key originalTarget tok with
    | .read t => .read { row with mamaField := { row.mamaField with fieldType := t } }
    | .skipped => .skipped
    | .stopped => .stopped
  | _ => .read row

/-- The loop reads the eighth token before it sees that it has all its columns. -/
def readColumns (cfg : HandlerConfig) (originalTarget : MamaFieldTypeEnum) :
    ℕ → List (Option (List Char)) → RowLocals → Reading RowLocals
  | _, [], row => .read row
  | _, none :: _, _ => .stopped
  | i, some tok :: cols, row =>
    if 7 ≤ i then .read row
    else if isComment i tok then .skipped
    else
      match readColumn cfg originalTarget i tok row with
      | .read row => readColumns cfg originalTarget (i + 1) cols row
      | .skipped => .skipped
      | .stopped => .stopped

def CsvLine.columns (line : CsvLine) : List (Option (List Char)) :=
  (escapedListFields (trim line.text)).map (Option.map trim)

def readLine (cfg : HandlerConfig) (line : CsvLine) : Reading RowLocals :=
  if trim line.text = [] then .skipped
  else readColumns cfg line.uninitialised.originalTarget 0 line.columns line.uninitialised.locals

namespace UpaMamaFieldMapHandler

def put (h : UpaMamaFieldMapHandler) (key : RsslFieldId) (field : MamaField UpaAsMamaFieldTypeEnum) :
    UpaMamaFieldMapHandler :=
  { h with fieldMap := h.fieldMap.put key field }

def store (cfg : HandlerConfig) (h : UpaMamaFieldMapHandler) (row : RowLocals) : UpaMamaFieldMapHandler :=
  let result := cfg.mamaDictionary.getFieldDescriptorByName row.mamaField.fieldName
  if row.parsedMamaFid ∧ row.parsedMamaFieldName then
    if row.mamaField.hasNoMamaFid then
      match result with
      | some d => h.put row.key { row.mamaField with mamaFid := d.fid }
      | none =>
        { h with fieldMap := h.fieldMap.bump }.put row.key
          { row.mamaField with mamaFid := h.fieldMap.nonTranslatedFieldFid + 1 }
    else
      match result with
      | some d =>
        if d.fid ≠ row.mamaField.mamaFid then
          { h with
            mamaFieldMapConflictingFields :=
              h.mamaFieldMapConflictingFields.insert row.mamaField.fieldName }.put row.key row.mamaField
        else h.put row.key row.mamaField
      | none => h.put row.key row.mamaField
  else h.put row.key row.mamaField

end UpaMamaFieldMapHandler

structure FieldMapLoader where
  handler : UpaMamaFieldMapHandler
  stopped : Bool

namespace FieldMapLoader

def loadLine (cfg : HandlerConfig) (s : FieldMapLoader) (line : CsvLine) : FieldMapLoader :=
  if s.stopped then s
  else
    match readLine cfg line with
    | .read row => { s with handler := s.handler.store cfg row }
    | .skipped => s
    | .stopped => { s with stopped := true }

end FieldMapLoader

/-- The lines of the text, with what the locals hold in each. A blank one is skipped, the one after the last
newline too. -/
def csvLines (uninitialised : ℕ → Uninitialised) (text : List Char) : List CsvLine :=
  (text.splitOn '\n').mapIdx fun i line => ⟨line, uninitialised i⟩

end RmdsBridge
