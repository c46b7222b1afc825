import Mathlib.Tactic.Common
import RmdsBridge.Runs
import RmdsBridge.UnorderedMap

namespace RmdsBridge

abbrev RsslFieldId := Int16

abbrev MamaFid := UInt16

structure MamaField (T : Type) where
  mamaFid : MamaFid
  fieldType : T
  fieldName : String
  hasNoMamaFid : Bool
  deriving DecidableEq, Repr

structure MamaFieldDescriptor where
  fid : MamaFid
  name : String
  deriving DecidableEq, Repr

abbrev MamaDictionary := List MamaFieldDescriptor

namespace MamaDictionary

def getFieldDescriptorByName (d : MamaDictionary) (name : String) : Option MamaFieldDescriptor :=
  d.find? (·.name == name)

def getMaxFid (d : MamaDictionary) : MamaFid := d.foldl (fun m f => max m f.fid) 0

end MamaDictionary

structure DictionaryEntry (T : Type) where
  fid : RsslFieldId
  acronym : String
  fieldType : T
  deriving DecidableEq, Repr

structure RsslDataDictionary (T : Type) where
  entries : List (DictionaryEntry T)
  sorted : entries.Pairwise (·.fid < ·.fid)

def RsslDataDictionary.getDictionaryEntry {T : Type} (d : RsslDataDictionary T) (fid : RsslFieldId) :
    Option (DictionaryEntry T) :=
  d.entries.find? (·.fid == fid)

inductive FidToken
  | empty
  | number (n : ℤ)
  | bad
  deriving DecidableEq, Repr

/-- A row with all its columns. The fid is `none` where it is no number, the type where neither
conversion knows it. -/
structure CsvRow (T : Type) where
  sourceFieldFid : Option ℤ
  mamaFieldName : String
  mamaFid : FidToken
  mamaFieldType : Option T
  deriving DecidableEq, Repr

structure ParsedRow (T : Type) where
  key : RsslFieldId
  name : String
  mamaFid : Option MamaFid
  fieldType : T
  deriving DecidableEq, Repr

/-- `none` for a token that makes the row be skipped. -/
def FidToken.parse : FidToken → Option (Option MamaFid)
  | .empty => some none
  | .bad => none
  | .number n =>
    if n < 0 then none else if 65535 < n then none else if n = 0 then none
    else some (some (UInt16.ofNat n.toNat))

def CsvRow.parse {T : Type} (r : CsvRow T) : Option (ParsedRow T) :=
  match r.sourceFieldFid, r.mamaFid.parse, r.mamaFieldType with
  | some fid, some mamaFid, some t => some ⟨Int16.ofInt fid, r.mamaFieldName, mamaFid, t⟩
  | _, _, _ => none

/-- Both vectors are sparse here: what is not in them is the empty field and the fid 0. -/
structure FieldMap (T : Type) where
  fieldsMap : UnorderedMap RsslFieldId (MamaField T)
  mama2rmdsMap : UnorderedMap MamaFid RsslFieldId
  nonTranslatedFieldFid : MamaFid

structure FieldMapConfig (T : Type) where
  mamaDictionary : MamaDictionary
  dictionary : RsslDataDictionary T
  shouldPassNonTranslated : Bool

namespace FieldMap

variable {T : Type}

def put (m : FieldMap T) (key : RsslFieldId) (field : MamaField T) : FieldMap T :=
  { m with
    fieldsMap := m.fieldsMap.insert key field
    mama2rmdsMap := m.mama2rmdsMap.insert field.mamaFid key }

/-- The field with the next fid of the counter, which no check keeps from a fid in use. -/
def nextField (m : FieldMap T) (fieldType : T) (name : String) (hasNoMamaFid : Bool) : MamaField T :=
  ⟨m.nonTranslatedFieldFid + 1, fieldType, name, hasNoMamaFid⟩

def bump (m : FieldMap T) : FieldMap T :=
  { m with nonTranslatedFieldFid := m.nonTranslatedFieldFid + 1 }

def loadRow (cfg : FieldMapConfig T) (m : FieldMap T) (r : ParsedRow T) : FieldMap T :=
  match r.mamaFid with
  | some fid => m.put r.key ⟨fid, r.fieldType, r.name, false⟩
  | none =>
    match cfg.mamaDictionary.getFieldDescriptorByName r.name with
    | some d => m.put r.key ⟨d.fid, r.fieldType, r.name, true⟩
    | none => m.bump.put r.key (m.nextField r.fieldType r.name true)

def createFieldMap (cfg : FieldMapConfig T) (start : MamaFid) (rows : List (CsvRow T)) : FieldMap T :=
  Runs.run (loadRow cfg) ⟨∅, ∅, start⟩ (rows.filterMap CsvRow.parse)

def createAll (cfg : FieldMapConfig T) (nonTranslatedFieldFidStart : MamaFid) (rows : List (CsvRow T)) :
    FieldMap T :=
  createFieldMap cfg
    (if nonTranslatedFieldFidStart = 0 then cfg.mamaDictionary.getMaxFid + 1
      else nonTranslatedFieldFidStart) rows

/-- The loop over the fids stops before the largest one and leaves 0 out. -/
def combines (m : FieldMap T) (e : DictionaryEntry T) : Bool :=
  e.fid ≠ 0 && e.fid ≠ 32767 && ((m.fieldsMap.find e.fid).map (·.hasNoMamaFid)).getD true

def combineEntry (m : FieldMap T) (e : DictionaryEntry T) : FieldMap T :=
  if m.combines e then m.bump.put e.fid (m.nextField e.fieldType e.acronym false) else m

/-- `CombineDictionaries`, the RMDS fields. -/
def combineDictionaries (cfg : FieldMapConfig T) (m : FieldMap T) : FieldMap T :=
  if cfg.shouldPassNonTranslated then Runs.run combineEntry m cfg.dictionary.entries else m

def findField (m : FieldMap T) (fid : RsslFieldId) : Option (MamaField T) :=
  match m.fieldsMap.find fid with
  | some f => if f.mamaFid = 0 then none else some f
  | none => none

/-- `uninitialised` is what the new field has in `has_no_mama_fid`, which nobody sets. -/
def getTranslatedField (cfg : FieldMapConfig T) (m : FieldMap T) (key : RsslFieldId)
    (uninitialised : Bool) : Option (MamaField T) × FieldMap T :=
  match m.findField key with
  | some f => (some f, m)
  | none =>
    if cfg.shouldPassNonTranslated then
      match cfg.dictionary.getDictionaryEntry key with
      | none => (none, m.bump)
      | some e =>
        let newValue := m.nextField e.fieldType e.acronym uninitialised
        (some newValue, m.bump.put key newValue)
    else (none, m)

def getRMDSFidFromMAMAFid (m : FieldMap T) (mamaFid : MamaFid) : RsslFieldId :=
  (m.mama2rmdsMap.find mamaFid).getD 0

end FieldMap

end RmdsBridge
