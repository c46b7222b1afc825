import RmdsBridge.CombinedDictionary

namespace RmdsBridge

open FieldTypes

namespace UpaMamaFieldMapHandler

section

variable {cfg : HandlerConfig} {types : MamaFieldDescriptor → MamaFieldTypeEnum} {h : UpaMamaFieldMapHandler}
  {rows : List (ParsedRow UpaAsMamaFieldTypeEnum)} {start : MamaFid} {f : MamaField UpaAsMamaFieldTypeEnum}
  {n : MamaFid} {item : DictionaryItem} {name : String}

theorem mem_nameSet : name ∈ nameSet cfg ↔ ∃ d ∈ cfg.mamaDictionary, d.name = name := List.mem_map

theorem mem_fieldsInOrder {T : Type} {m : FieldMap T} {f : MamaField T} :
    f ∈ m.fieldsInOrder ↔ ∃ key, m.fieldsMap.find key = some f := by
  unfold FieldMap.fieldsInOrder
  rw [List.mem_map]
  constructor
  · rintro ⟨⟨key, f⟩, hmem, rfl⟩
    exact ⟨key, UnorderedMap.mem_entries_iff.mp ((List.mem_insertionSort _).mp hmem)⟩
  · rintro ⟨key, hfind⟩
    exact ⟨⟨key, f⟩, (List.mem_insertionSort _).mpr (UnorderedMap.mem_entries_iff.mpr hfind), rfl⟩

theorem fieldItem_hasNoMamaFid (hno : f.hasNoMamaFid = true) : fieldItem cfg f = none := by
  unfold fieldItem
  rw [if_pos hno]
  split
  · rfl
  · cases f.fieldType.toMamaFieldType with
    | none => rfl
    | some t =>
      cases hd : cfg.mamaDictionary.getFieldDescriptorByName f.fieldName with
      | none => rfl
      | some d =>
        have hname : f.fieldName ∈ nameSet cfg :=
          mem_nameSet.mpr ⟨d, List.mem_of_find?_eq_some hd, by simpa using List.find?_some hd⟩
        exact if_pos hname

theorem fieldItem_eq_some_iff : fieldItem cfg f = some (n, item) ↔
    f.hasNoMamaFid = false ∧ f.fieldName ∉ nameSet cfg ∧ f.mamaFid = n ∧ f.fieldName = item.name ∧
      f.fieldType.toMamaFieldType = some item.fieldType := by
  cases hno : f.hasNoMamaFid with
  | true =>
    rw [fieldItem_hasNoMamaFid hno]
    simp
  | false =>
    unfold fieldItem
    rw [hno, if_neg Bool.false_ne_true]
    obtain ⟨itemName, itemType⟩ := item
    cases f.fieldType.toMamaFieldType with
    | none => simp
    | some t =>
      by_cases hname : f.fieldName ∈ nameSet cfg
      · simp [hname]
      · simp [hname]

theorem mem_mamaItems : (n, item) ∈ cfg.mamaDictionary.filterMap (h.mamaItem types) ↔
    ∃ d ∈ cfg.mamaDictionary, d.name ∉ h.mamaFieldMapConflictingFields ∧ d.fid = n ∧
      ⟨d.name, types d⟩ = item := by
  rw [List.mem_filterMap]
  constructor
  · rintro ⟨d, hd, hitem⟩
    unfold mamaItem at hitem
    split at hitem
    · cases hitem
    · rename_i hname
      obtain ⟨rfl, rfl⟩ := Prod.mk.inj (Option.some.inj hitem)
      exact ⟨d, hd, hname, rfl, rfl⟩
  · rintro ⟨d, hd, hname, rfl, rfl⟩
    exact ⟨d, hd, if_neg hname⟩

theorem mem_fieldItems : (n, item) ∈
      (h.fieldMap.combineDictionaries cfg.fieldMap).fieldsInOrder.filterMap (fieldItem cfg) ↔
    ∃ key f, h.fieldMap.Mapped cfg.fieldMap key f ∧ f.hasNoMamaFid = false ∧ f.fieldName ∉ nameSet cfg ∧
      f.mamaFid = n ∧ f.fieldName = item.name ∧ f.fieldType.toMamaFieldType = some item.fieldType := by
  simp only [List.mem_filterMap, mem_fieldsInOrder, FieldMap.mapped_iff, fieldItem_eq_some_iff]
  constructor
  · rintro ⟨f, ⟨key, hmapped⟩, hitem⟩
    exact ⟨key, f, hmapped, hitem⟩
  · rintro ⟨key, f, hmapped, hitem⟩
    exact ⟨f, ⟨key, hmapped⟩, hitem⟩

theorem brought_of_mamaItem (hitem : (n, item) ∈ cfg.mamaDictionary.filterMap (h.mamaItem types)) :
    Brought cfg h n item.name := by
  obtain ⟨d, hd, hname, hfid, rfl⟩ := mem_mamaItems.mp hitem
  exact .inl ⟨d, hd, hname, hfid, rfl⟩

theorem brought_of_fieldItem
    (hitem : (n, item) ∈
      (h.fieldMap.combineDictionaries cfg.fieldMap).fieldsInOrder.filterMap (fieldItem cfg)) :
    Brought cfg h n item.name := by
  obtain ⟨key, f, hmapped, hno, hnew, hfid, hname, htype⟩ := mem_fieldItems.mp hitem
  exact .inr ⟨key, f, hmapped, Option.isSome_of_eq_some htype, hno, hnew, hfid, hname⟩

theorem Names.brought (hn : Names (h.combineDictionaries cfg types).1 n name) : Brought cfg h n name := by
  obtain ⟨item, hfind, rfl⟩ := hn
  obtain hitem | hfind := UnorderedMap.find_insertAll_some hfind
  · exact brought_of_fieldItem hitem
  · obtain hitem | hfind := UnorderedMap.find_insertAll_some hfind
    · exact brought_of_mamaItem hitem
    · rw [UnorderedMap.find_empty] at hfind
      cases hfind

theorem Brought.names (hb : Brought cfg h n name) (honly : ∀ name', Brought cfg h n name' → name' = name) :
    Names (h.combineDictionaries cfg types).1 n name := by
  by_cases hfields : ∃ item, (n, item) ∈
      (h.fieldMap.combineDictionaries cfg.fieldMap).fieldsInOrder.filterMap (fieldItem cfg)
  · obtain ⟨item, hitem⟩ := hfields
    obtain ⟨item', hitem', hfind⟩ := UnorderedMap.find_insertAll_of_mem hitem
    exact ⟨item', hfind, honly _ (brought_of_fieldItem hitem')⟩
  · have hnone := not_exists.mp hfields
    obtain ⟨d, hd, hname, hfid, rfl⟩ | ⟨key, f, hmapped, hrep, hno, hnew, hfid, rfl⟩ := hb
    · have hitem : (n, ⟨d.name, types d⟩) ∈ cfg.mamaDictionary.filterMap (h.mamaItem types) :=
        mem_mamaItems.mpr ⟨d, hd, hname, hfid, rfl⟩
      obtain ⟨item, hitem', hfind⟩ := UnorderedMap.find_insertAll_of_mem (m := (∅ : DictionaryMap)) hitem
      refine ⟨item, ?_, honly _ (brought_of_mamaItem hitem')⟩
      exact (UnorderedMap.find_insertAll_of_not_mem hnone).trans hfind
    · obtain ⟨t, ht⟩ := Option.isSome_iff_exists.mp hrep
      exact absurd (mem_fieldItems.mpr ⟨key, f, hmapped, hno, hnew, hfid, rfl, ht⟩) (hnone ⟨f.fieldName, t⟩)

theorem Brought.source (hb : Brought cfg h n name) : Source cfg h.fieldMap n name := by
  obtain ⟨d, hd, -, hfid, hname⟩ | ⟨key, f, hmapped, hrep, -, -, hfid, hname⟩ := hb
  · exact .inl ⟨d, hd, hfid, hname⟩
  · exact .inr ⟨key, f, hmapped, hrep, hfid, hname⟩

theorem mem_conflicting_store (r : ParsedRow UpaAsMamaFieldTypeEnum) :
    name ∈ (h.store cfg r.locals).mamaFieldMapConflictingFields ↔
      name ∈ h.mamaFieldMapConflictingFields ∨ Conflicting cfg [r] name := by
  have hiff : Conflicting cfg [r] name ↔ r.name = name ∧ ∃ n d, r.mamaFid = some n ∧
      cfg.mamaDictionary.getFieldDescriptorByName name = some d ∧ d.fid ≠ n := by simp [Conflicting]
  rw [hiff]
  unfold store
  cases hm : r.mamaFid with
  | none =>
    simp only [ParsedRow.locals, hm]
    cases cfg.mamaDictionary.getFieldDescriptorByName r.name <;> simp [put]
  | some n =>
    simp only [ParsedRow.locals, hm]
    cases hd : cfg.mamaDictionary.getFieldDescriptorByName r.name with
    | none =>
      simp only [put, Option.isNone_some]
      refine ⟨.inl, fun h => h.resolve_right ?_⟩
      rintro ⟨rfl, n', d, -, hd', -⟩
      rw [hd] at hd'
      cases hd'
    | some d =>
      simp only [Option.isNone_some, Option.getD_some, and_self, if_true, Bool.false_eq_true, if_false]
      by_cases hfid : d.fid ≠ n
      · rw [if_pos hfid]
        simp only [put, List.mem_insert_iff]
        constructor
        · rintro (rfl | hold)
          · exact .inr ⟨rfl, n, d, rfl, hd, hfid⟩
          · exact .inl hold
        · rintro (hold | ⟨rfl, -⟩)
          · exact .inr hold
          · exact .inl rfl
      · rw [if_neg hfid]
        refine ⟨.inl, fun h => h.resolve_right ?_⟩
        rintro ⟨rfl, n', d', hn, hd', hne⟩
        obtain rfl := Option.some.inj hn
        obtain rfl := Option.some.inj (hd.symm.trans hd')
        exact hfid hne

theorem mem_conflicting_run : name ∈
      (Runs.run (fun h r => h.store cfg (ParsedRow.locals r)) h rows).mamaFieldMapConflictingFields ↔
    name ∈ h.mamaFieldMapConflictingFields ∨ Conflicting cfg rows name := by
  induction rows generalizing h with
  | nil => simp [Conflicting]
  | cons r rows ih =>
    rw [Runs.run_cons, ih, mem_conflicting_store, or_assoc]
    simp only [Conflicting, List.mem_cons, List.not_mem_nil, or_false, exists_eq_left, or_and_right, exists_or]

theorem mem_conflicting_loadRows :
    name ∈ (loadRows cfg start rows).mamaFieldMapConflictingFields ↔ Conflicting cfg rows name := by
  unfold loadRows
  rw [mem_conflicting_run]
  exact or_iff_right List.not_mem_nil

end

section

variable {T : Type} {cfg : FieldMapConfig T} {m : FieldMap T} {key : RsslFieldId} {f : MamaField T}

theorem getTranslatedField_mapped_iff (hfind : m.fieldsMap.find key = some f) (uninitialised : Bool) :
    m.getTranslatedField cfg key uninitialised = (some f, m) ↔ f.mamaFid ≠ 0 := by
  unfold FieldMap.getTranslatedField FieldMap.findField
  rw [hfind]
  by_cases hzero : f.mamaFid = 0
  · simp only [hzero, if_true, ne_eq, not_true_eq_false, iff_false]
    intro heq
    split at heq
    · split at heq
      · cases heq
      · have hcounter : m.nonTranslatedFieldFid + 1 = m.nonTranslatedFieldFid :=
          congrArg (fun p => p.2.nonTranslatedFieldFid) heq
        simp at hcounter
    · cases heq
  · simp [hzero]

end

section

variable {cfg : HandlerConfig} {types : MamaFieldDescriptor → MamaFieldTypeEnum}
  {rows : List (ParsedRow UpaAsMamaFieldTypeEnum)} {start : MamaFid}

theorem Complete.names_source
    (hc : Complete cfg rows ((loadRows cfg start rows).combineDictionaries cfg types))
    (hconflict : ∀ d ∈ cfg.mamaDictionary, ¬ Conflicting cfg rows d.name) {n : MamaFid} {name : String}
    (hs : Source cfg (loadRows cfg start rows).fieldMap n name) :
    Names ((loadRows cfg start rows).combineDictionaries cfg types).1 n name := by
  obtain ⟨d, hd, rfl, rfl⟩ | ⟨key, f, hmapped, hrep, rfl, rfl⟩ := hs
  · exact hc.mamaFids d hd (hconflict d hd)
  · exact (hc.mappedFields key f (FieldMap.mapped_iff.mpr hmapped) hrep).2

theorem Complete.noConflict
    (hc : Complete cfg rows ((loadRows cfg start rows).combineDictionaries cfg types)) :
    ∀ d ∈ cfg.mamaDictionary, ¬ Conflicting cfg rows d.name := by
  intro d hd hconflict
  obtain ⟨n, hn⟩ := hc.mamaNames d hd
  obtain ⟨d', -, hname, -, heq⟩ | ⟨key, f, -, -, -, hnew, -, heq⟩ := hn.brought
  · rw [heq] at hname
    exact hname (mem_conflicting_loadRows.mpr hconflict)
  · rw [heq] at hnew
    exact hnew (mem_nameSet.mpr ⟨d, hd, rfl⟩)

theorem Complete.mergeable
    (hc : Complete cfg rows ((loadRows cfg start rows).combineDictionaries cfg types)) :
    Mergeable cfg rows (loadRows cfg start rows).fieldMap where
  noConflict := hc.noConflict
  oneToOne n name n' name' hs hs' := by
    have hn := hc.names_source hc.noConflict hs
    have hn' := hc.names_source hc.noConflict hs'
    constructor
    · rintro rfl
      obtain ⟨item, hfind, rfl⟩ := hn
      obtain ⟨item', hfind', rfl⟩ := hn'
      obtain rfl := Option.some.inj (hfind.symm.trans hfind')
      rfl
    · rintro rfl
      exact hc.oneFid n n' name hn hn'
  nonzero key f hmapped hrep := by
    have hfind := FieldMap.mapped_iff.mpr hmapped
    exact (getTranslatedField_mapped_iff hfind false).mp ((hc.mappedFields key f hfind hrep).1 false)
  known key f hmapped hrep hno := by
    have hn := (hc.mappedFields key f (FieldMap.mapped_iff.mpr hmapped) hrep).2
    obtain ⟨d, hd, -, -, hname⟩ | ⟨key', g, hg, hgrep, hgno, -, -, hname⟩ := hn.brought
    · exact .inl ⟨d, hd, hname⟩
    · exact .inr ⟨key', g, hg, hgrep, hgno, hname⟩

theorem Mergeable.brought (hm : Mergeable cfg rows (loadRows cfg start rows).fieldMap) {n : MamaFid}
    {name : String} (hs : Source cfg (loadRows cfg start rows).fieldMap n name) :
    Brought cfg (loadRows cfg start rows) n name := by
  have hmama : ∀ d ∈ cfg.mamaDictionary, d.name = name → Brought cfg (loadRows cfg start rows) n name := by
    rintro d hd rfl
    have hfid := (hm.oneToOne _ _ _ _ (.inl ⟨d, hd, rfl, rfl⟩) hs).mpr rfl
    exact .inl ⟨d, hd, fun hc => hm.noConflict d hd (mem_conflicting_loadRows.mp hc), hfid, rfl⟩
  have hfield : ∀ key f, (loadRows cfg start rows).fieldMap.Mapped cfg.fieldMap key f → Representable f →
      f.hasNoMamaFid = false → f.fieldName = name → Brought cfg (loadRows cfg start rows) n name := by
    rintro key f hmapped hrep hno rfl
    by_cases hname : f.fieldName ∈ nameSet cfg
    · obtain ⟨d, hd, heq⟩ := mem_nameSet.mp hname
      exact hmama d hd heq
    · have hfid := (hm.oneToOne _ _ _ _ (.inr ⟨key, f, hmapped, hrep, rfl, rfl⟩) hs).mpr rfl
      exact .inr ⟨key, f, hmapped, hrep, hno, hname, hfid, rfl⟩
  obtain ⟨d, hd, -, hname⟩ | ⟨key, f, hmapped, hrep, -, hname⟩ := hs
  · exact hmama d hd hname
  · cases hno : f.hasNoMamaFid with
    | false => exact hfield key f hmapped hrep hno hname
    | true =>
      obtain ⟨d, hd, heq⟩ | ⟨key', g, hg, hgrep, hgno, heq⟩ := hm.known key f hmapped hrep hno
      · exact hmama d hd (heq.trans hname)
      · exact hfield key' g hg hgrep hgno (heq.trans hname)

theorem Mergeable.names (hm : Mergeable cfg rows (loadRows cfg start rows).fieldMap) {n : MamaFid}
    {name : String} (hs : Source cfg (loadRows cfg start rows).fieldMap n name) :
    Names ((loadRows cfg start rows).combineDictionaries cfg types).1 n name := by
  apply (hm.brought hs).names
  intro name' hb
  exact (hm.oneToOne _ _ _ _ hb.source hs).mp rfl

theorem complete_of_mergeable (hm : Mergeable cfg rows (loadRows cfg start rows).fieldMap) :
    Complete cfg rows ((loadRows cfg start rows).combineDictionaries cfg types) where
  mamaNames d hd := ⟨d.fid, hm.names (.inl ⟨d, hd, rfl, rfl⟩)⟩
  mamaFids d hd _ := hm.names (.inl ⟨d, hd, rfl, rfl⟩)
  mappedFields key f hfind hrep := by
    have hmapped := FieldMap.mapped_iff.mp hfind
    refine ⟨fun u => ?_, hm.names (.inr ⟨key, f, hmapped, hrep, rfl, rfl⟩)⟩
    exact (getTranslatedField_mapped_iff hfind u).mpr (hm.nonzero key f hmapped hrep)
  oneFid n n' name hn hn' := (hm.oneToOne _ _ _ _ hn.brought.source hn'.brought.source).mpr rfl

theorem combined_dictionary_complete_iff (cfg : HandlerConfig) (types : MamaFieldDescriptor → MamaFieldTypeEnum)
    (start : MamaFid) (rows : List (ParsedRow UpaAsMamaFieldTypeEnum)) :
    Complete cfg rows ((loadRows cfg start rows).combineDictionaries cfg types) ↔
      Mergeable cfg rows (loadRows cfg start rows).fieldMap :=
  ⟨Complete.mergeable, complete_of_mergeable⟩

theorem mem_getCombinedMamaDictionary (h : UpaMamaFieldMapHandler) (d : MamaFieldDescriptor) :
    d ∈ (h.getCombinedMamaDictionary cfg types none).1 ↔
      Names (h.combineDictionaries cfg types).1 d.fid d.name := by
  obtain ⟨fid, name⟩ := d
  refine Iff.trans List.mem_map ?_
  constructor
  · rintro ⟨⟨n, item⟩, hmem, heq⟩
    obtain ⟨rfl, rfl⟩ := MamaFieldDescriptor.mk.inj heq
    exact ⟨item, UnorderedMap.mem_entries_iff.mp hmem, rfl⟩
  · rintro ⟨item, hfind, rfl⟩
    exact ⟨⟨fid, item⟩, UnorderedMap.mem_entries_iff.mpr hfind, rfl⟩

/-- Files that keep their names and fids apart, and a counter that starts above them. -/
structure Apart (cfg : HandlerConfig) (start : MamaFid) (rows : List (ParsedRow UpaAsMamaFieldTypeEnum)) :
    Prop where
  mamaNames : cfg.mamaDictionary.Pairwise (·.name ≠ ·.name)
  mamaFids : cfg.mamaDictionary.Pairwise (·.fid ≠ ·.fid)
  rowNames : rows.Pairwise (·.name ≠ ·.name)
  rowFids : ∀ r ∈ rows, ∀ n, r.mamaFid = some n → ∀ d ∈ cfg.mamaDictionary, d.fid = n → d.name = r.name
  acronyms : (cfg.upaDictionary.entries.filter fun e => rows.all (·.key ≠ e.fid)).Pairwise
    (·.acronym ≠ ·.acronym)
  acronymsNew : ∀ e ∈ cfg.upaDictionary.entries, (∀ r ∈ rows, r.key ≠ e.fid) →
    (∀ d ∈ cfg.mamaDictionary, d.name ≠ e.acronym) ∧ ∀ r ∈ rows, r.name ≠ e.acronym
  counter : (∀ d ∈ cfg.mamaDictionary, d.fid < start) ∧ ∀ r ∈ rows, ∀ n, r.mamaFid = some n → n < start

/-- The MAMA dictionary has wBid under 5, the field map under 6, and the combined dictionary under none. -/
theorem conflicting_name_lost :
    ¬ ∀ (cfg : HandlerConfig) (types : MamaFieldDescriptor → MamaFieldTypeEnum) (start : MamaFid)
        (rows : List (ParsedRow UpaAsMamaFieldTypeEnum)), Apart cfg start rows →
      Complete cfg rows ((loadRows cfg start rows).combineDictionaries cfg types) := by
  intro h
  have hcomplete := h ⟨[⟨5, "wBid"⟩], ⟨[], .nil, false⟩, false⟩ (fun _ => .f64) 10
    [⟨22, "wBid", some 6, .mama .f64⟩]
    ⟨by simp, by simp, by simp, by simp, by simp, by simp, by decide, by simp⟩
  refine hcomplete.noConflict ⟨5, "wBid"⟩ List.mem_cons_self ?_
  exact ⟨_, List.mem_cons_self, rfl, 6, ⟨5, "wBid"⟩, rfl, rfl, by decide⟩

end

end UpaMamaFieldMapHandler

end RmdsBridge
