import Mathlib.Data.List.Sort
import RmdsBridge.RowByRow

namespace RmdsBridge

open FieldTypes

structure DictionaryItem where
  name : String
  fieldType : MamaFieldTypeEnum
  deriving DecidableEq, Repr

abbrev DictionaryMap := UnorderedMap MamaFid DictionaryItem

def FieldMap.fieldsInOrder {T : Type} (m : FieldMap T) : List (MamaField T) :=
  (m.fieldsMap.entries.insertionSort fun x y => x.1 ≤ y.1).map (·.2)

namespace UpaMamaFieldMapHandler

/-- The set takes a name in any case: the `if` before it has no braces. -/
def nameSet (cfg : HandlerConfig) : List String := cfg.mamaDictionary.map (·.name)

def mamaItem (types : MamaFieldDescriptor → MamaFieldTypeEnum) (h : UpaMamaFieldMapHandler)
    (d : MamaFieldDescriptor) : Option (MamaFid × DictionaryItem) :=
  if d.name ∈ h.mamaFieldMapConflictingFields then none else some (d.fid, ⟨d.name, types d⟩)

def fieldItem (cfg : HandlerConfig) (f : MamaField UpaAsMamaFieldTypeEnum) :
    Option (MamaFid × DictionaryItem) :=
  if f.hasNoMamaFid then
    if f.fieldName = "" then none
    else
      match f.fieldType.toMamaFieldType with
      | none => none
      | some t =>
        match cfg.mamaDictionary.getFieldDescriptorByName f.fieldName with
        | none => none
        | some d => if f.fieldName ∈ nameSet cfg then none else some (d.fid, ⟨f.fieldName, t⟩)
  else
    match f.fieldType.toMamaFieldType with
    | none => none
    | some t => if f.fieldName ∈ nameSet cfg then none else some (f.mamaFid, ⟨f.fieldName, t⟩)

def combineDictionaries (cfg : HandlerConfig) (types : MamaFieldDescriptor → MamaFieldTypeEnum)
    (h : UpaMamaFieldMapHandler) : DictionaryMap × UpaMamaFieldMapHandler :=
  let merged : DictionaryMap := (∅ : DictionaryMap).insertAll (cfg.mamaDictionary.filterMap (h.mamaItem types))
  let m := h.fieldMap.combineDictionaries cfg.fieldMap
  (merged.insertAll (m.fieldsInOrder.filterMap (fieldItem cfg)), { h with fieldMap := m })

def getCombinedMamaDictionary (cfg : HandlerConfig) (types : MamaFieldDescriptor → MamaFieldTypeEnum)
    (h : UpaMamaFieldMapHandler) (combined : Option MamaDictionary) : MamaDictionary × UpaMamaFieldMapHandler :=
  match combined with
  | some d => (d, h)
  | none =>
    let (merged, h) := h.combineDictionaries cfg types
    (merged.entries.map fun e => ⟨e.1, e.2.name⟩, h)

def loadRows (cfg : HandlerConfig) (start : MamaFid) (rows : List (ParsedRow UpaAsMamaFieldTypeEnum)) :
    UpaMamaFieldMapHandler :=
  Runs.run (fun h r => h.store cfg r.locals) ⟨⟨∅, ∅, start⟩, []⟩ rows

end UpaMamaFieldMapHandler

namespace FieldMap

variable {T : Type}

def numbered (counter : MamaFid) : List (DictionaryEntry T) → List (RsslFieldId × MamaField T)
  | [] => []
  | e :: es => (e.fid, ⟨counter + 1, e.fieldType, e.acronym, false⟩) :: numbered (counter + 1) es

def added (cfg : FieldMapConfig T) (m : FieldMap T) : List (RsslFieldId × MamaField T) :=
  if cfg.shouldPassNonTranslated then
    numbered m.nonTranslatedFieldFid (cfg.dictionary.entries.filter m.combines)
  else []

def Mapped (cfg : FieldMapConfig T) (m : FieldMap T) (key : RsslFieldId) (f : MamaField T) : Prop :=
  (key, f) ∈ m.added cfg ∨ m.fieldsMap.find key = some f ∧ ∀ g, (key, g) ∉ m.added cfg

variable {cfg : FieldMapConfig T} {m : FieldMap T} {es : List (DictionaryEntry T)} {key : RsslFieldId}
  {f g : MamaField T}

theorem combines_combineEntry {e e' : DictionaryEntry T} (h : e'.fid ≠ e.fid) :
    (m.combineEntry e).combines e' = m.combines e' := by
  unfold combineEntry
  split
  · have hadds := adds_bump_put m e.fid (m.nextField e.fieldType e.acronym false)
    rw [combines, combines, hadds.find, if_neg h]
  · rfl

theorem run_combineEntry (hes : es.Pairwise (·.fid ≠ ·.fid)) :
    (Runs.run combineEntry m es).fieldsMap =
      m.fieldsMap.insertAll (numbered m.nonTranslatedFieldFid (es.filter m.combines)) := by
  induction es generalizing m with
  | nil => rfl
  | cons e es ih =>
    obtain ⟨he, hes⟩ := List.pairwise_cons.mp hes
    have hfilter : es.filter (m.combineEntry e).combines = es.filter m.combines :=
      List.filter_congr fun e' he' => combines_combineEntry (he e' he').symm
    rw [Runs.run_cons, ih hes, hfilter]
    cases hc : m.combines e with
    | false =>
      rw [List.filter_cons_of_neg (by simp [hc]), combineEntry, hc]
      rfl
    | true =>
      rw [List.filter_cons_of_pos hc, combineEntry_of_combines hc]
      rfl

theorem entries_distinct (d : RsslDataDictionary T) : d.entries.Pairwise (·.fid ≠ ·.fid) := by
  refine d.sorted.imp ?_
  intro e e' hlt heq
  rw [heq] at hlt
  exact Int16.lt_irrefl hlt

theorem fid_of_mem_numbered {c : MamaFid} (h : (key, f) ∈ numbered c es) : ∃ e ∈ es, e.fid = key := by
  induction es generalizing c with
  | nil => cases h
  | cons e es ih =>
    obtain heq | h := List.mem_cons.mp h
    · exact ⟨e, List.mem_cons_self, (Prod.mk.inj heq).1.symm⟩
    · obtain ⟨e', he', hfid⟩ := ih h
      exact ⟨e', List.mem_cons_of_mem _ he', hfid⟩

theorem numbered_unique {c : MamaFid} (hes : es.Pairwise (·.fid ≠ ·.fid)) (hf : (key, f) ∈ numbered c es)
    (hg : (key, g) ∈ numbered c es) : f = g := by
  induction es generalizing c with
  | nil => cases hf
  | cons e es ih =>
    obtain ⟨he, hes⟩ := List.pairwise_cons.mp hes
    have hnot : ∀ g, (e.fid, g) ∉ numbered (c + 1) es := fun g hg => by
      obtain ⟨e', he', hfid⟩ := fid_of_mem_numbered hg
      exact he e' he' hfid.symm
    obtain heq | hf := List.mem_cons.mp hf
    · obtain ⟨rfl, rfl⟩ := Prod.mk.inj heq
      obtain heq | hg := List.mem_cons.mp hg
      · exact (Prod.mk.inj heq).2.symm
      · exact absurd hg (hnot g)
    · obtain heq | hg := List.mem_cons.mp hg
      · obtain ⟨rfl, rfl⟩ := Prod.mk.inj heq
        exact absurd hf (hnot f)
      · exact ih hes hf hg

theorem added_unique (hf : (key, f) ∈ m.added cfg) (hg : (key, g) ∈ m.added cfg) : f = g := by
  unfold added at hf hg
  split at hf
  · rename_i hpass
    rw [if_pos hpass] at hg
    exact numbered_unique ((entries_distinct cfg.dictionary).sublist List.filter_sublist) hf hg
  · cases hf

theorem combineDictionaries_eq (cfg : FieldMapConfig T) (m : FieldMap T) :
    (m.combineDictionaries cfg).fieldsMap = m.fieldsMap.insertAll (m.added cfg) := by
  unfold combineDictionaries added
  split
  · exact run_combineEntry (entries_distinct cfg.dictionary)
  · rfl

theorem mapped_iff : (m.combineDictionaries cfg).fieldsMap.find key = some f ↔ m.Mapped cfg key f := by
  rw [combineDictionaries_eq]
  by_cases hkey : ∃ g, (key, g) ∈ m.added cfg
  · obtain ⟨g, hg⟩ := hkey
    obtain ⟨g', hg', hfind⟩ := UnorderedMap.find_insertAll_of_mem (m := m.fieldsMap) hg
    rw [hfind]
    constructor
    · intro h
      obtain rfl := Option.some.inj h
      exact .inl hg'
    · rintro (hf | ⟨-, hnot⟩)
      · rw [added_unique hg' hf]
      · exact absurd hg (hnot g)
  · have hnot := not_exists.mp hkey
    rw [UnorderedMap.find_insertAll_of_not_mem hnot]
    exact ⟨fun h => .inr ⟨h, hnot⟩, fun h => (h.resolve_left (hnot f)).1⟩

end FieldMap

namespace UpaMamaFieldMapHandler

def Representable (f : MamaField UpaAsMamaFieldTypeEnum) : Prop := f.fieldType.toMamaFieldType.isSome = true

def Names (merged : DictionaryMap) (n : MamaFid) (name : String) : Prop :=
  ∃ item, merged.find n = some item ∧ item.name = name

def Conflicting (cfg : HandlerConfig) (rows : List (ParsedRow UpaAsMamaFieldTypeEnum)) (name : String) : Prop :=
  ∃ r ∈ rows, r.name = name ∧ ∃ n d, r.mamaFid = some n ∧
    cfg.mamaDictionary.getFieldDescriptorByName name = some d ∧ d.fid ≠ n

def Brought (cfg : HandlerConfig) (h : UpaMamaFieldMapHandler) (n : MamaFid) (name : String) : Prop :=
  (∃ d ∈ cfg.mamaDictionary, d.name ∉ h.mamaFieldMapConflictingFields ∧ d.fid = n ∧ d.name = name) ∨
    ∃ key f, h.fieldMap.Mapped cfg.fieldMap key f ∧ Representable f ∧ f.hasNoMamaFid = false ∧
      f.fieldName ∉ nameSet cfg ∧ f.mamaFid = n ∧ f.fieldName = name

structure Complete (cfg : HandlerConfig) (rows : List (ParsedRow UpaAsMamaFieldTypeEnum))
    (built : DictionaryMap × UpaMamaFieldMapHandler) : Prop where
  mamaNames : ∀ d ∈ cfg.mamaDictionary, ∃ n, Names built.1 n d.name
  mamaFids : ∀ d ∈ cfg.mamaDictionary, ¬ Conflicting cfg rows d.name → Names built.1 d.fid d.name
  mappedFields : ∀ key f, built.2.fieldMap.fieldsMap.find key = some f → Representable f →
    (∀ uninitialised, built.2.fieldMap.getTranslatedField cfg.fieldMap key uninitialised =
      (some f, built.2.fieldMap)) ∧ Names built.1 f.mamaFid f.fieldName
  oneFid : ∀ n n' name, Names built.1 n name → Names built.1 n' name → n = n'

def Source (cfg : HandlerConfig) (m : FieldMap UpaAsMamaFieldTypeEnum) (n : MamaFid) (name : String) : Prop :=
  (∃ d ∈ cfg.mamaDictionary, d.fid = n ∧ d.name = name) ∨
    ∃ key f, m.Mapped cfg.fieldMap key f ∧ Representable f ∧ f.mamaFid = n ∧ f.fieldName = name

structure Mergeable (cfg : HandlerConfig) (rows : List (ParsedRow UpaAsMamaFieldTypeEnum))
    (m : FieldMap UpaAsMamaFieldTypeEnum) : Prop where
  noConflict : ∀ d ∈ cfg.mamaDictionary, ¬ Conflicting cfg rows d.name
  oneToOne : ∀ n name n' name', Source cfg m n name → Source cfg m n' name' → (n = n' ↔ name = name')
  nonzero : ∀ key f, m.Mapped cfg.fieldMap key f → Representable f → f.mamaFid ≠ 0
  known : ∀ key f, m.Mapped cfg.fieldMap key f → Representable f → f.hasNoMamaFid = true →
    (∃ d ∈ cfg.mamaDictionary, d.name = f.fieldName) ∨
      ∃ key' g, m.Mapped cfg.fieldMap key' g ∧ Representable g ∧ g.hasNoMamaFid = false ∧
        g.fieldName = f.fieldName

end UpaMamaFieldMapHandler

end RmdsBridge
