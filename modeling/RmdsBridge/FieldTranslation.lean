import RmdsBridge.FieldMap

namespace RmdsBridge

namespace FieldMap

variable {T : Type}

def Free (m : FieldMap T) (n : MamaFid) : Prop := n ≠ 0 ∧ ∀ f ∈ m.fieldsMap.values, f.mamaFid ≠ n

instance (m : FieldMap T) (n : MamaFid) : Decidable (m.Free n) := by
  unfold Free; infer_instance

def Inverse (m : FieldMap T) : Prop :=
  ∀ key f, m.fieldsMap.find key = some f → f.mamaFid ≠ 0 ∧ m.mama2rmdsMap.find f.mamaFid = some key

def Within (m m' : FieldMap T) : Prop :=
  ∀ key f, m.fieldsMap.find key = some f → m'.fieldsMap.find key = some f

structure Adds (m m' : FieldMap T) (key : RsslFieldId) (f : MamaField T) : Prop where
  fields : m'.fieldsMap = m.fieldsMap.insert key f
  back : m'.mama2rmdsMap = m.mama2rmdsMap.insert f.mamaFid key

variable {m m' m'' : FieldMap T} {key : RsslFieldId} {f : MamaField T}

theorem Within.refl : m.Within m := fun _ _ h => h

theorem Within.trans (h : m.Within m') (h' : m'.Within m'') : m.Within m'' :=
  fun key f hf => h' key f (h key f hf)

theorem adds_put (m : FieldMap T) (key : RsslFieldId) (f : MamaField T) : m.Adds (m.put key f) key f :=
  ⟨rfl, rfl⟩

theorem adds_bump_put (m : FieldMap T) (key : RsslFieldId) (f : MamaField T) :
    m.Adds (m.bump.put key f) key f :=
  ⟨rfl, rfl⟩

theorem Adds.find (h : m.Adds m' key f) (key' : RsslFieldId) :
    m'.fieldsMap.find key' = if key' = key then some f else m.fieldsMap.find key' := by
  rw [h.fields, UnorderedMap.find_insert]

theorem Adds.within (h : m.Adds m' key f) (hkey : m.fieldsMap.find key = none) : m.Within m' := by
  intro key' g hg
  have hne : key' ≠ key := by
    rintro rfl
    rw [hkey] at hg
    cases hg
  rw [h.find, if_neg hne]
  exact hg

theorem Adds.inverse (h : m.Adds m' key f) (hm : m.Inverse) (hf : m.Free f.mamaFid) : m'.Inverse := by
  intro key' g hg
  rw [h.find] at hg
  rw [h.back, UnorderedMap.find_insert]
  by_cases heq : key' = key
  · rw [if_pos heq] at hg
    cases hg
    exact ⟨hf.1, by rw [if_pos rfl, heq]⟩
  · rw [if_neg heq] at hg
    obtain ⟨hne, hback⟩ := hm key' g hg
    have hother : g.mamaFid ≠ f.mamaFid := hf.2 g (UnorderedMap.mem_values.mpr ⟨key', hg⟩)
    exact ⟨hne, by rw [if_neg hother, hback]⟩

theorem Adds.mem_values (h : m.Adds m' key f) {g : MamaField T} (hg : g ∈ m'.fieldsMap.values) :
    g = f ∨ g ∈ m.fieldsMap.values := by
  obtain ⟨key', hg⟩ := UnorderedMap.mem_values.mp hg
  rw [h.find] at hg
  by_cases heq : key' = key
  · rw [if_pos heq] at hg
    cases hg
    exact Or.inl rfl
  · rw [if_neg heq] at hg
    exact Or.inr (UnorderedMap.mem_values.mpr ⟨key', hg⟩)

theorem Inverse.findField (h : m.Inverse) (key : RsslFieldId) :
    m.findField key = m.fieldsMap.find key := by
  unfold FieldMap.findField
  cases hf : m.fieldsMap.find key with
  | none => rfl
  | some f => exact if_neg (h key f hf).1

def rowFid (cfg : FieldMapConfig T) (m : FieldMap T) (r : ParsedRow T) : MamaFid :=
  match r.mamaFid with
  | some fid => fid
  | none =>
    match cfg.mamaDictionary.getFieldDescriptorByName r.name with
    | some d => d.fid
    | none => m.nonTranslatedFieldFid + 1

def Holds (m : FieldMap T) (r : ParsedRow T) : Prop :=
  ∃ f, m.fieldsMap.find r.key = some f ∧ f.fieldName = r.name ∧ ∀ n, r.mamaFid = some n → f.mamaFid = n

theorem Holds.within {r : ParsedRow T} (h : m.Holds r) (hm : m.Within m') : m'.Holds r := by
  obtain ⟨f, hf, hname, hfid⟩ := h
  exact ⟨f, hm _ _ hf, hname, hfid⟩

theorem loadRow_adds (cfg : FieldMapConfig T) (m : FieldMap T) (r : ParsedRow T) :
    ∃ f : MamaField T, m.Adds (loadRow cfg m r) r.key f ∧ f.fieldName = r.name ∧
      f.fieldType = r.fieldType ∧ f.mamaFid = m.rowFid cfg r := by
  unfold loadRow rowFid
  cases r.mamaFid with
  | some fid => exact ⟨_, adds_put _ _ _, rfl, rfl, rfl⟩
  | none =>
    cases cfg.mamaDictionary.getFieldDescriptorByName r.name with
    | some d => exact ⟨_, adds_put _ _ _, rfl, rfl, rfl⟩
    | none => exact ⟨_, adds_bump_put _ _ _, rfl, rfl, rfl⟩

structure Loaded (m : FieldMap T) (rows : List (ParsedRow T)) : Prop where
  inverse : m.Inverse
  holds : ∀ r ∈ rows, m.Holds r
  keys : ∀ key f, m.fieldsMap.find key = some f → ∃ r ∈ rows, r.key = key

theorem loaded_empty (start : MamaFid) : (⟨∅, ∅, start⟩ : FieldMap T).Loaded [] where
  inverse key f hf := by
    rw [UnorderedMap.find_empty] at hf
    cases hf
  holds r hr := by cases hr
  keys key f hf := by
    rw [UnorderedMap.find_empty] at hf
    cases hf

theorem Loaded.loadRow {cfg : FieldMapConfig T} {rows : List (ParsedRow T)} (h : m.Loaded rows)
    {r : ParsedRow T} (hnew : ∀ r' ∈ rows, r'.key ≠ r.key) (hfree : m.Free (m.rowFid cfg r)) :
    (loadRow cfg m r).Loaded (rows ++ [r]) := by
  obtain ⟨f, hadds, hname, -, hfid⟩ := loadRow_adds cfg m r
  have hkey : m.fieldsMap.find r.key = none := by
    cases hf : m.fieldsMap.find r.key with
    | none => rfl
    | some g =>
      obtain ⟨r', hr', heq⟩ := h.keys r.key g hf
      exact absurd heq (hnew r' hr')
  refine ⟨hadds.inverse h.inverse (hfid ▸ hfree), ?_, ?_⟩
  · intro r' hr'
    obtain hold | rfl := List.mem_append.mp hr' |>.imp_right List.mem_singleton.mp
    · exact (h.holds r' hold).within (hadds.within hkey)
    · refine ⟨f, by rw [hadds.find, if_pos rfl], hname, fun n hn => ?_⟩
      rw [hfid, rowFid, hn]
  · intro key' g hg
    rw [hadds.find] at hg
    by_cases heq : key' = r.key
    · exact ⟨r, by simp, heq.symm⟩
    · rw [if_neg heq] at hg
      obtain ⟨r', hr', h'⟩ := h.keys key' g hg
      exact ⟨r', List.mem_append_left _ hr', h'⟩

theorem Loaded.run {cfg : FieldMapConfig T} {before : List (ParsedRow T)} (h : m.Loaded before)
    {rows : List (ParsedRow T)} (hkeys : (before ++ rows).Pairwise (·.key ≠ ·.key))
    (hfree : Runs.Guarded (FieldMap.loadRow cfg) (fun m r => m.Free (m.rowFid cfg r)) m rows) :
    (Runs.run (FieldMap.loadRow cfg) m rows).Loaded (before ++ rows) := by
  induction rows generalizing m before with
  | nil => simpa using h
  | cons r rows ih =>
    have hnew : ∀ r' ∈ before, r'.key ≠ r.key := fun r' hr' =>
      (List.pairwise_append.mp hkeys).2.2 r' hr' r (by simp)
    have hnext := ih (h.loadRow hnew hfree.1) (by simpa using hkeys) hfree.2
    simpa using hnext

def Room (m : FieldMap T) (n : ℕ) : Prop :=
  m.nonTranslatedFieldFid.toNat + n < 65536 ∧
    ∀ f ∈ m.fieldsMap.values, f.mamaFid.toNat ≤ m.nonTranslatedFieldFid.toNat ∨
      m.nonTranslatedFieldFid.toNat + n < f.mamaFid.toNat

instance (m : FieldMap T) (n : ℕ) : Decidable (m.Room n) := by
  unfold Room; infer_instance

theorem Room.mono {n k : ℕ} (h : m.Room n) (hk : k ≤ n) : m.Room k := by
  refine ⟨by have := h.1; omega, fun f hf => ?_⟩
  have := h.2 f hf
  omega

theorem nextFid_toNat {c : MamaFid} (h : c.toNat + 1 < 65536) : (c + 1).toNat = c.toNat + 1 := by
  rw [UInt16.toNat_add]
  simp only [UInt16.toNat_one]
  omega

theorem Room.next_toNat {n : ℕ} (h : m.Room (n + 1)) :
    (m.nonTranslatedFieldFid + 1).toNat = m.nonTranslatedFieldFid.toNat + 1 := by
  have hlt := h.1
  exact nextFid_toNat (by omega)

theorem Room.free {n : ℕ} (h : m.Room (n + 1)) : m.Free (m.nonTranslatedFieldFid + 1) := by
  have hnext := h.next_toNat
  constructor
  · intro h0
    rw [h0] at hnext
    simp at hnext
  · intro f hf heq
    have hbound := h.2 f hf
    rw [heq, hnext] at hbound
    omega

theorem Room.adds {n : ℕ} (h : m.Room (n + 1)) {t : T} {name : String} {flag : Bool}
    (hadds : m.Adds m' key (m.nextField t name flag))
    (hcount : m'.nonTranslatedFieldFid = m.nonTranslatedFieldFid + 1) : m'.Room n := by
  have hnext := h.next_toNat
  have hlt := h.1
  rw [Room, hcount, hnext]
  refine ⟨by omega, fun f hf => ?_⟩
  obtain rfl | hold := hadds.mem_values hf
  · left
    show (m.nonTranslatedFieldFid + 1).toNat ≤ _
    omega
  · have hbound := h.2 f hold
    omega

theorem combineEntry_of_combines {e : DictionaryEntry T} (h : m.combines e = true) :
    m.combineEntry e = m.bump.put e.fid (m.nextField e.fieldType e.acronym false) :=
  if_pos h

theorem combines_of_combineEntry {e e' : DictionaryEntry T} (h : m.combines e = true)
    (h' : (m.combineEntry e).combines e' = true) :
    m.combines e' = true ∧ (m.combineEntry e).fieldsMap.find e'.fid = m.fieldsMap.find e'.fid := by
  have hadds := adds_bump_put m e.fid (m.nextField e.fieldType e.acronym false)
  rw [combineEntry_of_combines h] at h' ⊢
  unfold combines at h' ⊢
  rw [hadds.find] at h' ⊢
  by_cases heq : e'.fid = e.fid
  · simp [heq, nextField] at h'
  · rw [if_neg heq] at h' ⊢
    exact ⟨h', rfl⟩

def Combinable (m : FieldMap T) (es : List (DictionaryEntry T)) : Prop :=
  (∀ e ∈ es, m.combines e = true → m.fieldsMap.find e.fid = none) ∧ m.Room (es.countP m.combines)

instance (m : FieldMap T) (es : List (DictionaryEntry T)) : Decidable (m.Combinable es) := by
  unfold Combinable
  have : ∀ e : DictionaryEntry T, Decidable (m.fieldsMap.find e.fid = none) := fun e =>
    decidable_of_iff _ Option.isNone_iff_eq_none
  infer_instance

theorem Combinable.run {es : List (DictionaryEntry T)} (h : m.Combinable es) (hm : m.Inverse) :
    (Runs.run combineEntry m es).Inverse ∧ m.Within (Runs.run combineEntry m es) := by
  induction es generalizing m with
  | nil => exact ⟨hm, .refl⟩
  | cons e es ih =>
    obtain ⟨hnew, hroom⟩ := h
    rw [Runs.run_cons]
    cases hc : m.combines e with
    | false =>
      have hsame : m.combineEntry e = m := by
        rw [combineEntry, hc]
        rfl
      rw [List.countP_cons_of_neg (by simp [hc])] at hroom
      rw [hsame]
      exact ih ⟨fun e' he' => hnew e' (List.mem_cons_of_mem _ he'), hroom⟩ hm
    | true =>
      rw [List.countP_cons_of_pos hc] at hroom
      have hadds := adds_bump_put m e.fid (m.nextField e.fieldType e.acronym false)
      rw [← combineEntry_of_combines hc] at hadds
      have hcount : (m.combineEntry e).nonTranslatedFieldFid = m.nonTranslatedFieldFid + 1 := by
        rw [combineEntry_of_combines hc]
        rfl
      have hnext : (m.combineEntry e).Combinable es := by
        constructor
        · intro e' he' hc'
          obtain ⟨hold, hfind⟩ := combines_of_combineEntry hc hc'
          rw [hfind]
          exact hnew e' (List.mem_cons_of_mem _ he') hold
        · refine (hroom.adds hadds hcount).mono (List.countP_mono_left fun e' _ hc' => ?_)
          exact (combines_of_combineEntry hc hc').1
      obtain ⟨hinv, hwithin⟩ := ih hnext (hadds.inverse hm hroom.free)
      exact ⟨hinv, (hadds.within (hnew e (by simp) hc)).trans hwithin⟩

end FieldMap

inductive FieldCall
  | combineDictionaries
  | getTranslatedField (key : RsslFieldId) (uninitialised : Bool)
  deriving DecidableEq, Repr

structure FieldRun (T : Type) where
  map : FieldMap T
  translations : List (RsslFieldId × MamaField T) := []

namespace FieldRun

variable {T : Type}

def step (cfg : FieldMapConfig T) (s : FieldRun T) : FieldCall → FieldRun T
  | .combineDictionaries => { s with map := s.map.combineDictionaries cfg }
  | .getTranslatedField key uninitialised =>
    let result := s.map.getTranslatedField cfg key uninitialised
    ⟨result.2, s.translations ++ (result.1.map fun f => (key, f)).toList⟩

structure TwoWay (rows : List (ParsedRow T)) (s : FieldRun T) : Prop where
  same : ∀ a ∈ s.translations, ∀ b ∈ s.translations, a.1 = b.1 → a.2 = b.2
  distinct : ∀ a ∈ s.translations, ∀ b ∈ s.translations, a.1 ≠ b.1 → a.2.mamaFid ≠ b.2.mamaFid
  inverse : ∀ a ∈ s.translations, s.map.getRMDSFidFromMAMAFid a.2.mamaFid = a.1
  rows : ∀ a ∈ s.translations, ∀ r ∈ rows, r.key = a.1 →
    a.2.fieldName = r.name ∧ ∀ n, r.mamaFid = some n → a.2.mamaFid = n

def Admissible (cfg : FieldMapConfig T) (s : FieldRun T) : FieldCall → Prop
  | .combineDictionaries => cfg.shouldPassNonTranslated = true → s.map.Combinable cfg.dictionary.entries
  | .getTranslatedField key _ => (s.map.findField key).isNone → cfg.shouldPassNonTranslated = true →
      (cfg.dictionary.getDictionaryEntry key).isSome → s.map.Free (s.map.nonTranslatedFieldFid + 1)

instance (cfg : FieldMapConfig T) (s : FieldRun T) (c : FieldCall) : Decidable (Admissible cfg s c) := by
  unfold Admissible; split <;> infer_instance

structure Kept (rows : List (ParsedRow T)) (s : FieldRun T) : Prop where
  inverse : s.map.Inverse
  holds : ∀ r ∈ rows, s.map.Holds r
  given : ∀ a ∈ s.translations, s.map.fieldsMap.find a.1 = some a.2

variable {cfg : FieldMapConfig T} {rows : List (ParsedRow T)} {s : FieldRun T}

theorem Kept.twoWay (h : Kept rows s) : TwoWay rows s where
  same a ha b hb heq := by
    have hfind := h.given a ha
    rw [heq, h.given b hb] at hfind
    exact (Option.some.inj hfind).symm
  distinct a ha b hb hne heq := by
    have hback := (h.inverse a.1 a.2 (h.given a ha)).2
    rw [heq, (h.inverse b.1 b.2 (h.given b hb)).2] at hback
    exact hne (Option.some.inj hback).symm
  inverse a ha := by
    rw [FieldMap.getRMDSFidFromMAMAFid, (h.inverse a.1 a.2 (h.given a ha)).2]
    rfl
  rows a ha r hr hkey := by
    obtain ⟨f, hf, hname, hfid⟩ := h.holds r hr
    rw [hkey, h.given a ha] at hf
    obtain rfl := Option.some.inj hf
    exact ⟨hname, hfid⟩

theorem Kept.combine (h : Kept rows s) (ha : Admissible cfg s .combineDictionaries) :
    Kept rows (s.step cfg .combineDictionaries) := by
  have hmap : (s.map.combineDictionaries cfg).Inverse ∧ s.map.Within (s.map.combineDictionaries cfg) := by
    unfold FieldMap.combineDictionaries
    cases hpass : cfg.shouldPassNonTranslated with
    | false => exact ⟨h.inverse, .refl⟩
    | true => exact (ha hpass).run h.inverse
  exact ⟨hmap.1, fun r hr => (h.holds r hr).within hmap.2, fun a hmem => hmap.2 _ _ (h.given a hmem)⟩

theorem getTranslatedField_spec (key : RsslFieldId) (flag : Bool) (hm : s.map.Inverse)
    (ha : Admissible cfg s (.getTranslatedField key flag)) :
    (s.map.getTranslatedField cfg key flag).2.Inverse ∧
      s.map.Within (s.map.getTranslatedField cfg key flag).2 ∧
      ∀ f, (s.map.getTranslatedField cfg key flag).1 = some f →
        (s.map.getTranslatedField cfg key flag).2.fieldsMap.find key = some f := by
  have hfound := hm.findField key
  unfold FieldMap.getTranslatedField
  cases hf : s.map.findField key with
  | some f =>
    rw [hfound] at hf
    refine ⟨hm, .refl, fun g hg => ?_⟩
    cases hg
    exact hf
  | none =>
    rw [hfound] at hf
    cases hpass : cfg.shouldPassNonTranslated with
    | false => exact ⟨hm, .refl, fun g hg => by cases hg⟩
    | true =>
      cases he : cfg.dictionary.getDictionaryEntry key with
      | none => exact ⟨hm, .refl, fun g hg => by cases hg⟩
      | some e =>
        have hfree := ha (by rw [hfound, hf]; rfl) hpass (by rw [he]; rfl)
        have hadds := FieldMap.adds_bump_put s.map key (s.map.nextField e.fieldType e.acronym flag)
        refine ⟨hadds.inverse hm hfree, hadds.within hf, fun g hg => ?_⟩
        cases hg
        exact (hadds.find key).trans (if_pos rfl)

theorem Kept.translate {key : RsslFieldId} {flag : Bool} (h : Kept rows s)
    (ha : Admissible cfg s (.getTranslatedField key flag)) :
    Kept rows (s.step cfg (.getTranslatedField key flag)) := by
  obtain ⟨hinv, hwithin, hgives⟩ := getTranslatedField_spec key flag h.inverse ha
  refine ⟨hinv, fun r hr => (h.holds r hr).within hwithin, fun a hmem => ?_⟩
  obtain hold | hnew := List.mem_append.mp hmem
  · exact hwithin _ _ (h.given a hold)
  · obtain ⟨f, hf, rfl⟩ := Option.map_eq_some_iff.mp (Option.mem_toList.mp hnew)
    exact hgives f hf

theorem Kept.step {c : FieldCall} (h : Kept rows s) (ha : Admissible cfg s c) : Kept rows (s.step cfg c) := by
  cases c with
  | combineDictionaries => exact h.combine ha
  | getTranslatedField key flag => exact h.translate ha

theorem refused_maps {m : FieldMap T} {key : RsslFieldId} {flag : Bool}
    (h : (m.getTranslatedField cfg key flag).1 = none) :
    (m.getTranslatedField cfg key flag).2.fieldsMap = m.fieldsMap ∧
      (m.getTranslatedField cfg key flag).2.mama2rmdsMap = m.mama2rmdsMap := by
  unfold FieldMap.getTranslatedField at h ⊢
  cases hf : m.findField key with
  | some f => simp [hf] at h
  | none =>
    cases hpass : cfg.shouldPassNonTranslated with
    | false => exact ⟨rfl, rfl⟩
    | true =>
      cases he : cfg.dictionary.getDictionaryEntry key with
      | none => exact ⟨rfl, rfl⟩
      | some e => simp [hf, hpass, he] at h

def startFid (cfg : FieldMapConfig T) (configured : MamaFid) : MamaFid :=
  if configured = 0 then cfg.mamaDictionary.getMaxFid + 1 else configured

def bidConfig : FieldMapConfig Unit :=
  ⟨[⟨5, "wBid"⟩], ⟨[⟨22, "BID", ()⟩, ⟨25, "ASK", ()⟩], by decide⟩, true⟩

/-- A row without a MAMA fid keeps the flag that says it is not mapped, so `CombineDictionaries` takes
its name and its fid away. -/
theorem row_without_fid_renamed :
    ¬ Runs.Always (FieldRun.step bidConfig)
      (TwoWay ([⟨some 22, "wBid", .empty, some ()⟩].filterMap CsvRow.parse))
      { map := FieldMap.createAll bidConfig 0 [⟨some 22, "wBid", .empty, some ()⟩] }
      [.combineDictionaries, .getTranslatedField 22 false] := by
  intro h
  have hrow := h.2.2.rows (22, ⟨7, (), "BID", false⟩) (by decide) ⟨22, "wBid", none, ()⟩ (by decide) rfl
  exact absurd hrow.1 (by decide)

theorem fields_two_way (cfg : FieldMapConfig T) (configured : MamaFid) (csv : List (CsvRow T))
    (hkeys : (csv.filterMap CsvRow.parse).Pairwise (·.key ≠ ·.key))
    (hload : Runs.Guarded (FieldMap.loadRow cfg) (fun m r => m.Free (m.rowFid cfg r))
      ⟨∅, ∅, startFid cfg configured⟩ (csv.filterMap CsvRow.parse))
    (calls : List FieldCall)
    (h : Runs.Guarded (FieldRun.step cfg) (Admissible cfg)
      { map := FieldMap.createAll cfg configured csv } calls) :
    Runs.Always (FieldRun.step cfg) (TwoWay (csv.filterMap CsvRow.parse))
        { map := FieldMap.createAll cfg configured csv } calls ∧
      ∀ (m : FieldMap T) (key : RsslFieldId) (flag : Bool), (m.getTranslatedField cfg key flag).1 = none →
        (m.getTranslatedField cfg key flag).2.fieldsMap = m.fieldsMap ∧
          (m.getTranslatedField cfg key flag).2.mama2rmdsMap = m.mama2rmdsMap := by
  have hloaded : (FieldMap.createAll cfg configured csv).Loaded (csv.filterMap CsvRow.parse) :=
    (FieldMap.loaded_empty _).run hkeys hload
  have hkept : Kept (csv.filterMap CsvRow.parse)
      ({ map := FieldMap.createAll cfg configured csv } : FieldRun T) :=
    ⟨hloaded.inverse, hloaded.holds, by simp⟩
  exact ⟨(h.always (fun _ _ hk ha => hk.step ha) hkept).mono fun _ hk => hk.twoWay,
    fun _ _ _ hnone => refused_maps hnone⟩

theorem fields_two_way_example :
    Runs.Always (FieldRun.step bidConfig)
      (TwoWay ([⟨some 22, "wBid", .number 9, some ()⟩].filterMap CsvRow.parse))
      { map := FieldMap.createAll bidConfig 20 [⟨some 22, "wBid", .number 9, some ()⟩] }
      [.getTranslatedField 22 true, .getTranslatedField 25 false, .combineDictionaries,
        .getTranslatedField 30 true] :=
  (fields_two_way bidConfig 20 [⟨some 22, "wBid", .number 9, some ()⟩] (by decide) (by decide)
    [.getTranslatedField 22 true, .getTranslatedField 25 false, .combineDictionaries,
      .getTranslatedField 30 true] (by decide)).1

end FieldRun

end RmdsBridge
