import RmdsBridge.DictionaryComplete

namespace RmdsBridge.UpaMamaFieldMapHandler

open FieldTypes

structure Plain (cfg : HandlerConfig) (start : MamaFid) (rows : List (ParsedRow UpaAsMamaFieldTypeEnum)) :
    Prop where
  agree : ∀ r ∈ rows, ∀ n, r.mamaFid = some n →
    n ≠ 0 ∧ ∀ d ∈ cfg.mamaDictionary, d.name = r.name → d.fid = n
  named : ∀ r ∈ rows, r.mamaFid = none → ∃ d ∈ cfg.mamaDictionary, d.name = r.name ∧ d.fid ≠ 0
  kept : cfg.shouldPassNonTranslated = true → ∀ r ∈ rows, r.mamaFid = none →
    ∀ e ∈ cfg.upaDictionary.entries, e.fid ≠ r.key
  keys : rows.Pairwise (·.key ≠ ·.key)
  fids : rows.Pairwise fun r r' => ∀ n, r.mamaFid = some n → r'.mamaFid ≠ some n
  room : start.toNat + cfg.upaDictionary.entries.length < 65536

structure FieldOf (cfg : HandlerConfig) (r : ParsedRow UpaAsMamaFieldTypeEnum)
    (f : MamaField UpaAsMamaFieldTypeEnum) : Prop where
  fieldName : f.fieldName = r.name
  fieldType : f.fieldType = r.fieldType
  given : ∀ n, r.mamaFid = some n → f.mamaFid = n ∧ f.hasNoMamaFid = false
  named : r.mamaFid = none →
    f.hasNoMamaFid = true ∧ ∃ d ∈ cfg.mamaDictionary, d.name = r.name ∧ d.fid = f.mamaFid

structure FromRows (cfg : HandlerConfig) (start : MamaFid) (rows : List (ParsedRow UpaAsMamaFieldTypeEnum))
    (m : FieldMap UpaAsMamaFieldTypeEnum) : Prop where
  fields : ∀ key f, m.fieldsMap.find key = some f → ∃ r ∈ rows, r.key = key ∧ FieldOf cfg r f
  keys : ∀ r ∈ rows, ∃ f, m.fieldsMap.find r.key = some f
  counter : m.nonTranslatedFieldFid = start

section

variable {cfg : HandlerConfig} {start : MamaFid} {rows : List (ParsedRow UpaAsMamaFieldTypeEnum)}
  {m : FieldMap UpaAsMamaFieldTypeEnum} {r : ParsedRow UpaAsMamaFieldTypeEnum}

theorem eq_of_distinct {α β : Type} {f : α → β} {l : List α} (h : l.Pairwise fun a b => f a ≠ f b) {a b : α}
    (ha : a ∈ l) (hb : b ∈ l) (heq : f a = f b) : a = b :=
  List.inj_on_of_nodup_map (List.pairwise_map.mpr h) ha hb heq

theorem loadRow_fieldOf (hnamed : r.mamaFid = none → ∃ d ∈ cfg.mamaDictionary, d.name = r.name) :
    ∃ f, m.Adds (FieldMap.loadRow cfg.fieldMap m r) r.key f ∧ FieldOf cfg r f ∧
      (FieldMap.loadRow cfg.fieldMap m r).nonTranslatedFieldFid = m.nonTranslatedFieldFid := by
  unfold FieldMap.loadRow
  cases hm : r.mamaFid with
  | some n =>
    refine ⟨_, FieldMap.adds_put _ _ _, ⟨rfl, rfl, fun n' hn => ?_, fun hn => ?_⟩, rfl⟩
    · exact ⟨Option.some.inj (hm.symm.trans hn), rfl⟩
    · rw [hm] at hn
      cases hn
  | none =>
    obtain ⟨d, hd, hname⟩ := hnamed hm
    cases hfind : cfg.fieldMap.mamaDictionary.getFieldDescriptorByName r.name with
    | none => exact absurd hname (by simpa using List.find?_eq_none.mp hfind d hd)
    | some d' =>
      refine ⟨_, FieldMap.adds_put _ _ _, ⟨rfl, rfl, fun n hn => ?_, fun _ => ⟨rfl, d', ?_, ?_, rfl⟩⟩, rfl⟩
      · rw [hm] at hn
        cases hn
      · exact List.mem_of_find?_eq_some hfind
      · simpa using List.find?_some hfind

theorem FromRows.loadRow (h : FromRows cfg start rows m)
    (hnamed : r.mamaFid = none → ∃ d ∈ cfg.mamaDictionary, d.name = r.name) :
    FromRows cfg start (rows ++ [r]) (FieldMap.loadRow cfg.fieldMap m r) := by
  obtain ⟨f, hadds, hfield, hcounter⟩ := loadRow_fieldOf (m := m) hnamed
  refine ⟨fun key g hg => ?_, fun r' hr' => ?_, hcounter.trans h.counter⟩
  · rw [hadds.find] at hg
    split at hg
    · rename_i hkey
      obtain rfl := Option.some.inj hg
      exact ⟨r, by simp, hkey.symm, hfield⟩
    · obtain ⟨r', hr', hkey, hg⟩ := h.fields key g hg
      exact ⟨r', List.mem_append_left _ hr', hkey, hg⟩
  · rw [hadds.find]
    split
    · exact ⟨f, rfl⟩
    · rename_i hne
      obtain hold | hnew := List.mem_append.mp hr'
      · exact h.keys r' hold
      · rw [List.mem_singleton.mp hnew] at hne
        exact absurd rfl hne

theorem FromRows.run {before : List (ParsedRow UpaAsMamaFieldTypeEnum)} {h : UpaMamaFieldMapHandler}
    (hb : FromRows cfg start before h.fieldMap)
    (hnamed : ∀ r ∈ rows, r.mamaFid = none → ∃ d ∈ cfg.mamaDictionary, d.name = r.name) :
    FromRows cfg start (before ++ rows)
      (Runs.run (fun h r => h.store cfg (ParsedRow.locals r)) h rows).fieldMap := by
  induction rows generalizing before h with
  | nil => simpa using hb
  | cons r rows ih =>
    have hstep := hb.loadRow (hnamed r List.mem_cons_self)
    rw [← store_locals] at hstep
    have hrest := ih hstep fun r' hr' => hnamed r' (List.mem_cons_of_mem _ hr')
    rwa [List.append_assoc, List.singleton_append] at hrest

theorem Plain.fromRows (hp : Plain cfg start rows) :
    FromRows cfg start rows (loadRows cfg start rows).fieldMap := by
  have hempty : FromRows cfg start [] (⟨∅, ∅, start⟩ : FieldMap UpaAsMamaFieldTypeEnum) := by
    refine ⟨fun key f hf => ?_, fun r hr => (by cases hr), rfl⟩
    rw [UnorderedMap.find_empty] at hf
    cases hf
  exact FromRows.run (h := ⟨_, []⟩) hempty fun r hr hn => by
    obtain ⟨d, hd, hname, -⟩ := hp.named r hr hn
    exact ⟨d, hd, hname⟩

end

section

variable {T : Type} {c : MamaFid} {es : List (DictionaryEntry T)} {key : RsslFieldId} {f : MamaField T}

theorem mem_numbered (hroom : c.toNat + es.length < 65536) (h : (key, f) ∈ FieldMap.numbered c es) :
    c.toNat < f.mamaFid.toNat ∧ f.hasNoMamaFid = false ∧ ∃ e ∈ es, e.fid = key ∧ e.acronym = f.fieldName := by
  induction es generalizing c with
  | nil => cases h
  | cons e es ih =>
    rw [List.length_cons] at hroom
    have hnext := FieldMap.nextFid_toNat (c := c) (by omega)
    obtain heq | h := List.mem_cons.mp h
    · obtain ⟨rfl, rfl⟩ := Prod.mk.inj heq
      refine ⟨?_, rfl, e, List.mem_cons_self, rfl, rfl⟩
      show c.toNat < (c + 1).toNat
      omega
    · obtain ⟨hlt, hno, e', he', hfid⟩ := ih (by omega) h
      exact ⟨by omega, hno, e', List.mem_cons_of_mem _ he', hfid⟩

theorem exists_mem_numbered {e : DictionaryEntry T} (he : e ∈ es) :
    ∃ f, (e.fid, f) ∈ FieldMap.numbered c es ∧ f.fieldName = e.acronym ∧ f.fieldType = e.fieldType := by
  induction es generalizing c with
  | nil => cases he
  | cons e' es ih =>
    obtain rfl | he := List.mem_cons.mp he
    · exact ⟨_, List.mem_cons_self, rfl, rfl⟩
    · obtain ⟨f, hf, hname, htype⟩ := ih he
      exact ⟨f, List.mem_cons_of_mem _ hf, hname, htype⟩

theorem numbered_increasing (hroom : c.toNat + es.length < 65536) :
    (FieldMap.numbered c es).Pairwise fun x y => x.2.mamaFid.toNat < y.2.mamaFid.toNat := by
  induction es generalizing c with
  | nil => exact .nil
  | cons e es ih =>
    rw [List.length_cons] at hroom
    have hnext := FieldMap.nextFid_toNat (c := c) (by omega)
    refine List.pairwise_cons.mpr ⟨?_, ih (by omega)⟩
    rintro ⟨key, g⟩ hg
    exact (mem_numbered (by omega) hg).1

end

section

variable {cfg : HandlerConfig} {start : MamaFid} {rows : List (ParsedRow UpaAsMamaFieldTypeEnum)}
  {key key' : RsslFieldId} {f g : MamaField UpaAsMamaFieldTypeEnum}

theorem Plain.combines_unmapped (hp : Plain cfg start rows) (hpass : cfg.shouldPassNonTranslated = true)
    {e : FieldTypes.RsslDictionaryEntry} (he : e ∈ cfg.upaDictionary.entries)
    (hc : (loadRows cfg start rows).fieldMap.combines e.toEntry = true) : ∀ r ∈ rows, r.key ≠ e.fid := by
  intro r hr hkey
  obtain ⟨f, hf⟩ := hp.fromRows.keys r hr
  obtain ⟨r', hr', hkey', hfield⟩ := hp.fromRows.fields _ f hf
  cases hm : r'.mamaFid with
  | none => exact hp.kept hpass r' hr' hm e he (hkey'.trans hkey).symm
  | some n =>
    have hno := (hfield.given n hm).2
    unfold FieldMap.combines at hc
    rw [show e.toEntry.fid = r.key from hkey.symm, hf] at hc
    simp [hno] at hc

theorem Plain.added_room (hp : Plain cfg start rows) : start.toNat +
    (cfg.fieldMap.dictionary.entries.filter (loadRows cfg start rows).fieldMap.combines).length < 65536 := by
  have hroom := hp.room
  have hfilter := List.length_filter_le (loadRows cfg start rows).fieldMap.combines
    cfg.fieldMap.dictionary.entries
  have hentries : cfg.fieldMap.dictionary.entries.length = cfg.upaDictionary.entries.length :=
    List.length_map _
  omega

theorem Plain.mem_added (hp : Plain cfg start rows)
    (h : (key, f) ∈ (loadRows cfg start rows).fieldMap.added cfg.fieldMap) :
    start.toNat < f.mamaFid.toNat ∧ f.hasNoMamaFid = false ∧
      ∃ e ∈ cfg.upaDictionary.entries.filter (fun e => rows.all (·.key ≠ e.fid)),
        e.fid = key ∧ e.acronym = f.fieldName := by
  unfold FieldMap.added at h
  split at h
  · rename_i hpass
    rw [hp.fromRows.counter] at h
    obtain ⟨hlt, hno, e', he', hfid, hname⟩ := mem_numbered hp.added_room h
    obtain ⟨hmem, hc⟩ := List.mem_filter.mp he'
    obtain ⟨e, he, rfl⟩ := List.mem_map.mp hmem
    refine ⟨hlt, hno, e, List.mem_filter.mpr ⟨he, ?_⟩, hfid, hname⟩
    simpa using hp.combines_unmapped hpass he hc
  · cases h

theorem Plain.added_fid_inj (hp : Plain cfg start rows)
    (hf : (key, f) ∈ (loadRows cfg start rows).fieldMap.added cfg.fieldMap)
    (hg : (key', g) ∈ (loadRows cfg start rows).fieldMap.added cfg.fieldMap) (h : f.mamaFid = g.mamaFid) :
    f = g := by
  unfold FieldMap.added at hf hg
  split at hf
  · rename_i hpass
    rw [if_pos hpass, hp.fromRows.counter] at hg
    rw [hp.fromRows.counter] at hf
    have hdistinct := (numbered_increasing hp.added_room).imp fun h => Nat.ne_of_lt h
    exact (Prod.mk.inj (eq_of_distinct hdistinct hf hg (congrArg UInt16.toNat h))).2
  · cases hf

theorem Apart.added_name_inj (ha : Apart cfg start rows) (hp : Plain cfg start rows)
    (hf : (key, f) ∈ (loadRows cfg start rows).fieldMap.added cfg.fieldMap)
    (hg : (key', g) ∈ (loadRows cfg start rows).fieldMap.added cfg.fieldMap) (h : f.fieldName = g.fieldName) :
    f = g := by
  obtain ⟨-, -, e, he, hkey, hname⟩ := hp.mem_added hf
  obtain ⟨-, -, e', he', hkey', hname'⟩ := hp.mem_added hg
  obtain rfl := eq_of_distinct ha.acronyms he he' (hname.trans (h.trans hname'.symm))
  obtain rfl : key = key' := hkey.symm.trans hkey'
  exact FieldMap.added_unique hf hg

inductive PlainSource (cfg : HandlerConfig) (start : MamaFid) (rows : List (ParsedRow UpaAsMamaFieldTypeEnum)) :
    MamaFid → String → Prop
  | mama (d : MamaFieldDescriptor) (hd : d ∈ cfg.mamaDictionary) : PlainSource cfg start rows d.fid d.name
  | row (r : ParsedRow UpaAsMamaFieldTypeEnum) (hr : r ∈ rows) (n : MamaFid) (hn : r.mamaFid = some n) :
    PlainSource cfg start rows n r.name
  | added (key : RsslFieldId) (f : MamaField UpaAsMamaFieldTypeEnum)
    (hf : (key, f) ∈ (loadRows cfg start rows).fieldMap.added cfg.fieldMap) :
    PlainSource cfg start rows f.mamaFid f.fieldName

theorem Plain.source (hp : Plain cfg start rows) {n : MamaFid} {name : String}
    (hs : Source cfg (loadRows cfg start rows).fieldMap n name) : PlainSource cfg start rows n name := by
  obtain ⟨d, hd, rfl, rfl⟩ | ⟨key, f, hf | ⟨hfind, -⟩, -, rfl, rfl⟩ := hs
  · exact .mama d hd
  · exact .added key f hf
  · obtain ⟨r, hr, -, hfield⟩ := hp.fromRows.fields key f hfind
    rw [hfield.fieldName]
    cases hm : r.mamaFid with
    | some n =>
      rw [(hfield.given n hm).1]
      exact .row r hr n hm
    | none =>
      obtain ⟨-, d, hd, hname, hfid⟩ := hfield.named hm
      rw [← hname, ← hfid]
      exact .mama d hd

theorem Plain.row_fid_inj (hp : Plain cfg start rows) {r r' : ParsedRow UpaAsMamaFieldTypeEnum} (hr : r ∈ rows)
    (hr' : r' ∈ rows) {n : MamaFid} (hn : r.mamaFid = some n) (hn' : r'.mamaFid = some n) : r = r' := by
  by_contra hne
  have : Std.Symm fun r r' : ParsedRow UpaAsMamaFieldTypeEnum =>
      ∀ n, r.mamaFid = some n → r'.mamaFid ≠ some n := ⟨fun r r' h n hn hn' => h n hn' hn⟩
  exact hp.fids.forall hr hr' hne n hn hn'

theorem mama_row_iff (ha : Apart cfg start rows) (hp : Plain cfg start rows) {d : MamaFieldDescriptor}
    (hd : d ∈ cfg.mamaDictionary) {r : ParsedRow UpaAsMamaFieldTypeEnum} (hr : r ∈ rows) {n : MamaFid}
    (hn : r.mamaFid = some n) : d.fid = n ↔ d.name = r.name :=
  ⟨ha.rowFids r hr n hn d hd, (hp.agree r hr n hn).2 d hd⟩

theorem mama_added_ne (ha : Apart cfg start rows) (hp : Plain cfg start rows) {d : MamaFieldDescriptor}
    (hd : d ∈ cfg.mamaDictionary) (hf : (key, f) ∈ (loadRows cfg start rows).fieldMap.added cfg.fieldMap) :
    d.fid ≠ f.mamaFid ∧ d.name ≠ f.fieldName := by
  obtain ⟨hlt, -, e, he, -, hname⟩ := hp.mem_added hf
  obtain ⟨hmem, hunmapped⟩ := List.mem_filter.mp he
  refine ⟨fun heq => ?_, fun heq => ?_⟩
  · have hstart := UInt16.lt_iff_toNat_lt.mp (ha.counter.1 d hd)
    rw [heq] at hstart
    omega
  · exact (ha.acronymsNew e hmem (by simpa using hunmapped)).1 d hd (heq.trans hname.symm)

theorem row_added_ne (ha : Apart cfg start rows) (hp : Plain cfg start rows)
    {r : ParsedRow UpaAsMamaFieldTypeEnum} (hr : r ∈ rows) {n : MamaFid} (hn : r.mamaFid = some n)
    (hf : (key, f) ∈ (loadRows cfg start rows).fieldMap.added cfg.fieldMap) :
    n ≠ f.mamaFid ∧ r.name ≠ f.fieldName := by
  obtain ⟨hlt, -, e, he, -, hname⟩ := hp.mem_added hf
  obtain ⟨hmem, hunmapped⟩ := List.mem_filter.mp he
  refine ⟨fun heq => ?_, fun heq => ?_⟩
  · have hstart := UInt16.lt_iff_toNat_lt.mp (ha.counter.2 r hr n hn)
    rw [heq] at hstart
    omega
  · exact (ha.acronymsNew e hmem (by simpa using hunmapped)).2 r hr (heq.trans hname.symm)

theorem Apart.one_to_one (ha : Apart cfg start rows) (hp : Plain cfg start rows) {n n' : MamaFid}
    {name name' : String} (hs : PlainSource cfg start rows n name) (hs' : PlainSource cfg start rows n' name') :
    n = n' ↔ name = name' := by
  cases hs with
  | mama d hd =>
    cases hs' with
    | mama d' hd' =>
      refine ⟨fun heq => ?_, fun heq => ?_⟩
      · rw [eq_of_distinct ha.mamaFids hd hd' heq]
      · rw [eq_of_distinct ha.mamaNames hd hd' heq]
    | row r hr n hn => exact mama_row_iff ha hp hd hr hn
    | added key f hf =>
      obtain ⟨hfid, hname⟩ := mama_added_ne ha hp hd hf
      exact iff_of_false hfid hname
  | row r hr n hn =>
    cases hs' with
    | mama d hd =>
      rw [eq_comm, mama_row_iff ha hp hd hr hn, eq_comm]
    | row r' hr' n' hn' =>
      refine ⟨fun heq => ?_, fun heq => ?_⟩
      · rw [hp.row_fid_inj hr hr' hn (heq ▸ hn')]
      · obtain rfl := eq_of_distinct ha.rowNames hr hr' heq
        exact Option.some.inj (hn.symm.trans hn')
    | added key f hf =>
      obtain ⟨hfid, hname⟩ := row_added_ne ha hp hr hn hf
      exact iff_of_false hfid hname
  | added key f hf =>
    cases hs' with
    | mama d hd =>
      obtain ⟨hfid, hname⟩ := mama_added_ne ha hp hd hf
      exact iff_of_false hfid.symm hname.symm
    | row r hr n hn =>
      obtain ⟨hfid, hname⟩ := row_added_ne ha hp hr hn hf
      exact iff_of_false hfid.symm hname.symm
    | added key' g hg =>
      refine ⟨fun heq => ?_, fun heq => ?_⟩
      · rw [hp.added_fid_inj hf hg heq]
      · rw [ha.added_name_inj hp hf hg heq]

theorem Apart.mergeable (ha : Apart cfg start rows) (hp : Plain cfg start rows) :
    Mergeable cfg rows (loadRows cfg start rows).fieldMap where
  noConflict d hd := by
    rintro ⟨r, hr, hname, n, d', hn, hfind, hne⟩
    refine hne ((hp.agree r hr n hn).2 d' (List.mem_of_find?_eq_some hfind) ?_)
    rw [hname]
    simpa using List.find?_some hfind
  oneToOne n name n' name' hs hs' := ha.one_to_one hp (hp.source hs) (hp.source hs')
  nonzero key f hmapped _ hzero := by
    obtain hf | ⟨hfind, -⟩ := hmapped
    · have hlt := (hp.mem_added hf).1
      rw [hzero] at hlt
      exact Nat.not_lt_zero _ hlt
    · obtain ⟨r, hr, -, hfield⟩ := hp.fromRows.fields key f hfind
      cases hm : r.mamaFid with
      | some n => exact (hp.agree r hr n hm).1 ((hfield.given n hm).1.symm.trans hzero)
      | none =>
        obtain ⟨d, hd, hname, hne⟩ := hp.named r hr hm
        obtain ⟨-, d', hd', hname', hfid⟩ := hfield.named hm
        obtain rfl := eq_of_distinct ha.mamaNames hd hd' (hname.trans hname'.symm)
        exact hne (hfid.trans hzero)
  known key f hmapped _ hno := by
    obtain hf | ⟨hfind, -⟩ := hmapped
    · rw [(hp.mem_added hf).2.1] at hno
      cases hno
    · obtain ⟨r, hr, -, hfield⟩ := hp.fromRows.fields key f hfind
      cases hm : r.mamaFid with
      | some n =>
        rw [(hfield.given n hm).2] at hno
        cases hno
      | none =>
        obtain ⟨-, d, hd, hname, -⟩ := hfield.named hm
        exact .inl ⟨d, hd, hname.trans hfield.fieldName.symm⟩

theorem Plain.row_mapped (hp : Plain cfg start rows) {r : ParsedRow UpaAsMamaFieldTypeEnum} (hr : r ∈ rows) :
    ∃ f, (loadRows cfg start rows).fieldMap.Mapped cfg.fieldMap r.key f ∧ FieldOf cfg r f := by
  obtain ⟨f, hf⟩ := hp.fromRows.keys r hr
  obtain ⟨r', hr', hkey, hfield⟩ := hp.fromRows.fields _ f hf
  obtain rfl := eq_of_distinct hp.keys hr' hr hkey
  refine ⟨f, .inr ⟨hf, fun g hg => ?_⟩, hfield⟩
  obtain ⟨-, -, e, he, hfid, -⟩ := hp.mem_added hg
  have hunmapped : ∀ r ∈ rows, r.key ≠ e.fid := by simpa using (List.mem_filter.mp he).2
  exact hunmapped r' hr hfid.symm

/-- The loop over the RMDS fids passes over 0 and the largest. -/
theorem Plain.entry_mapped (hp : Plain cfg start rows) (hpass : cfg.shouldPassNonTranslated = true)
    {e : FieldTypes.RsslDictionaryEntry} (he : e ∈ cfg.upaDictionary.entries) (hfirst : e.fid ≠ 0)
    (hlast : e.fid ≠ 32767) (hunmapped : ∀ r ∈ rows, r.key ≠ e.fid) :
    ∃ f, (loadRows cfg start rows).fieldMap.Mapped cfg.fieldMap e.fid f ∧ f.fieldName = e.acronym ∧
      f.fieldType = e.toEntry.fieldType := by
  have hnone : (loadRows cfg start rows).fieldMap.fieldsMap.find e.toEntry.fid = none := by
    rw [Option.eq_none_iff_forall_not_mem]
    intro f hf
    obtain ⟨r, hr, hkey, -⟩ := hp.fromRows.fields _ f hf
    exact hunmapped r hr hkey
  have hcombines : (loadRows cfg start rows).fieldMap.combines e.toEntry = true := by
    unfold FieldMap.combines
    rw [hnone]
    simpa using ⟨hfirst, hlast⟩
  have hentry : e.toEntry ∈ cfg.fieldMap.dictionary.entries := List.mem_map_of_mem he
  obtain ⟨f, hf, hname, htype⟩ := exists_mem_numbered
    (c := (loadRows cfg start rows).fieldMap.nonTranslatedFieldFid) (List.mem_filter.mpr ⟨hentry, hcombines⟩)
  refine ⟨f, .inl ?_, hname, htype⟩
  unfold FieldMap.added
  rwa [if_pos (show cfg.fieldMap.shouldPassNonTranslated = true from hpass)]

def Translated (cfg : HandlerConfig) (given : MamaDictionary × UpaMamaFieldMapHandler) (key : RsslFieldId)
    (name : String) (mamaFid : Option MamaFid) : Prop :=
  ∃ f : MamaField UpaAsMamaFieldTypeEnum, ⟨f.mamaFid, f.fieldName⟩ ∈ given.1 ∧ f.fieldName = name ∧
    (∀ n ∈ mamaFid, f.mamaFid = n) ∧
    ∀ uninitialised, given.2.fieldMap.getTranslatedField cfg.fieldMap key uninitialised =
      (some f, given.2.fieldMap)

structure Merged (cfg : HandlerConfig) (rows : List (ParsedRow UpaAsMamaFieldTypeEnum))
    (given : MamaDictionary × UpaMamaFieldMapHandler) : Prop where
  mamaFields : ∀ d ∈ cfg.mamaDictionary, d ∈ given.1
  rowFields : ∀ r ∈ rows, r.fieldType.toMamaFieldType.isSome = true →
    Translated cfg given r.key r.name r.mamaFid
  otherFields : cfg.shouldPassNonTranslated = true → ∀ e ∈ cfg.upaDictionary.entries, e.fid ≠ 0 →
    e.fid ≠ 32767 → (∀ r ∈ rows, r.key ≠ e.fid) → e.toEntry.fieldType.toMamaFieldType.isSome = true →
    Translated cfg given e.fid e.acronym none
  oneToOne : ∀ d ∈ given.1, ∀ d' ∈ given.1, d.fid = d'.fid ↔ d.name = d'.name

theorem Mergeable.translated (hm : Mergeable cfg rows (loadRows cfg start rows).fieldMap)
    (hmapped : (loadRows cfg start rows).fieldMap.Mapped cfg.fieldMap key f) (hrep : Representable f)
    {types : MamaFieldDescriptor → MamaFieldTypeEnum} {mamaFid : Option MamaFid}
    (hfid : ∀ n ∈ mamaFid, f.mamaFid = n) :
    Translated cfg ((loadRows cfg start rows).getCombinedMamaDictionary cfg types none) key f.fieldName
      mamaFid := by
  obtain ⟨htranslated, hnames⟩ := (complete_of_mergeable hm).mappedFields key f
    (FieldMap.mapped_iff.mpr hmapped) hrep
  exact ⟨f, (mem_getCombinedMamaDictionary _ _).mpr hnames, rfl, hfid, htranslated⟩

theorem plain_field_map_merged (ha : Apart cfg start rows) (hp : Plain cfg start rows)
    (types : MamaFieldDescriptor → MamaFieldTypeEnum) :
    Merged cfg rows ((loadRows cfg start rows).getCombinedMamaDictionary cfg types none) := by
  have hm := ha.mergeable hp
  refine ⟨fun d hd => ?_, fun r hr htype => ?_, fun hpass e he hfirst hlast hunmapped htype => ?_,
    fun d hd d' hd' => ?_⟩
  · exact (mem_getCombinedMamaDictionary _ d).mpr (hm.names (.inl ⟨d, hd, rfl, rfl⟩))
  · obtain ⟨f, hmapped, hfield⟩ := hp.row_mapped hr
    have hrep : Representable f := by
      unfold Representable
      rwa [hfield.fieldType]
    rw [← hfield.fieldName]
    exact hm.translated hmapped hrep fun n hn => (hfield.given n hn).1
  · obtain ⟨f, hmapped, hname, hftype⟩ := hp.entry_mapped hpass he hfirst hlast hunmapped
    have hrep : Representable f := by
      unfold Representable
      rwa [hftype]
    rw [← hname]
    exact hm.translated hmapped hrep fun n hn => by cases hn
  · have hsource := ((mem_getCombinedMamaDictionary _ d).mp hd).brought.source
    have hsource' := ((mem_getCombinedMamaDictionary _ d').mp hd').brought.source
    exact hm.oneToOne _ _ _ _ hsource hsource'

end

theorem bid_ask_merged :
    let cfg : HandlerConfig := ⟨[⟨5, "wBid"⟩], ⟨[⟨22, "BID", .real, .price⟩, ⟨30, "BIDSIZE", .real, .integer⟩],
      by decide, false⟩, true⟩
    let rows : List (ParsedRow UpaAsMamaFieldTypeEnum) :=
      [⟨22, "wBid", some 5, .mama .f64⟩, ⟨25, "wAsk", some 6, .mama .f64⟩]
    Merged cfg rows ((loadRows cfg 10 rows).getCombinedMamaDictionary cfg (fun _ => .f64) none) :=
  plain_field_map_merged
    ⟨by simp, by simp, by simp, by simp, by simp, by simp, by decide, by simp⟩
    ⟨by simp, by simp, by simp, by simp, by simp, by decide⟩ _

end RmdsBridge.UpaMamaFieldMapHandler
