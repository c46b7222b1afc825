import RmdsBridge.Payload
import RmdsBridge.Runs

namespace RmdsBridge

variable {D T M : Type}

inductive FieldIdentity
  | fid (k : ℕ)
  | name (n : String)
  deriving DecidableEq, Repr

def fieldIdentity (fid : ℕ) (name : Option String) : FieldIdentity :=
  if fid ≠ 0 then .fid fid else .name (name.getD "")

structure FieldWrite (D T M : Type) where
  fid : ℕ
  name : Option String
  value : ValueType D T M

namespace FieldWrite

def identity (w : FieldWrite D T M) : FieldIdentity := fieldIdentity w.fid w.name

def field (w : FieldWrite D T M) : UpaFieldPayload D T M := ⟨w.fid, w.name.getD "", w.value⟩

end FieldWrite

structure WrittenPayload (D T M : Type) where
  payload : UpaPayload D T M
  written : UnorderedMap FieldIdentity (FieldWrite D T M)

inductive PayloadCall (D T M : Type)
  | write (w : FieldWrite D T M)
  | clear

namespace WrittenPayload

def empty : WrittenPayload D T M := ⟨⟨∅⟩, ∅⟩

def step (s : WrittenPayload D T M) : PayloadCall D T M → WrittenPayload D T M
  | .clear => ⟨s.payload.clear, ∅⟩
  | .write w =>
    match s.payload.write w.fid w.name w.value with
    | (.ok, p) => ⟨p, s.written.insert w.identity w⟩
    | (_, p) => ⟨p, s.written⟩

def IsMap (s : WrittenPayload D T M) : Prop :=
  (∀ order : List (UpaFieldPayload D T M), order.Perm s.payload.fields.values →
    ∀ i w, s.written.find i = some w →
      ∃ f, s.payload.getField w.fid order w.name = (.ok, some f) ∧ f.data = w.value) ∧
  s.payload.numFields = s.written.size

end WrittenPayload

def ValueType.NeedsSameType : ValueType D T M → Prop
  | .price _ | .msg _ | .vectorMsg _ | .opaqueData _ => True
  | .bool _ | .char _ | .integer _ | .f32 _ | .f64 _ | .string _ | .time _ | .vectorI8 _
  | .vectorString _ => False

def FieldWrite.Replaces (w : FieldWrite D T M) (g : UpaFieldPayload D T M) : Prop :=
  (w.fid = 0 → g.name = w.name.getD "") ∧ (w.value.NeedsSameType → g.data.type = w.value.type)

def FieldWrite.Agrees (w : FieldWrite D T M) (g : UpaFieldPayload D T M) : Prop :=
  g.fid ≠ w.fid → w.fid = 0 ∨ g.fid = 0 → g.name = w.name.getD "" → g.data = w.value

def Admissible (s : WrittenPayload D T M) : PayloadCall D T M → Prop
  | .clear => True
  | .write w => checkName w.name w.fid = .ok →
      (∀ g, s.payload.fields.find w.fid = some g → w.Replaces g) ∧
        ∀ g ∈ s.payload.fields.values, w.Agrees g

structure WrittenPayload.Stored (s : WrittenPayload D T M) : Prop where
  fid_eq : ∀ k f, s.payload.fields.find k = some f → f.fid = k
  identity_eq : ∀ i w, s.written.find i = some w → w.identity = i ∧ checkName w.name w.fid = .ok
  field_eq : ∀ i w, s.written.find i = some w → s.payload.fields.find w.fid = some w.field
  written_eq : ∀ k f, s.payload.fields.find k = some f →
    ∃ w, s.written.find (fieldIdentity k (some f.name)) = some w ∧ w.field = f
  agree : ∀ f₀ f, s.payload.fields.find 0 = some f₀ → f ∈ s.payload.fields.values →
    f.name = f₀.name → f.data = f₀.data
  size_eq : s.payload.numFields = s.written.size

namespace UpaPayload

theorem write_of_checkName {p : UpaPayload D T M} {fid : ℕ} {name : Option String}
    {v : ValueType D T M} (h : checkName name fid = .ok) :
    p.write fid name v = (.ok, p.upaMsgSet fid name v) := by
  simp [write, h]

theorem write_of_not_checkName {p : UpaPayload D T M} {fid : ℕ} {name : Option String}
    {v : ValueType D T M} (h : checkName name fid ≠ .ok) :
    p.write fid name v = (checkName name fid, p) := by
  cases hc : checkName name fid <;> simp_all [write]

theorem setIfSameType_eq (p : UpaPayload D T M) (f : UpaFieldPayload D T M) :
    p.setIfSameType f = p ∧ (∃ g, p.fields.find f.fid = some g ∧ g.data.type ≠ f.data.type) ∨
      p.setIfSameType f = p.set f ∧ ∀ g, p.fields.find f.fid = some g → g.data.type = f.data.type := by
  cases hg : p.fields.find f.fid with
  | none => simp [setIfSameType, set, hg]
  | some g =>
    by_cases ht : g.data.type = f.data.type
    · simp [setIfSameType, set, hg, ht]
    · simp [setIfSameType, hg, ht]

theorem upaMsgSet_eq (p : UpaPayload D T M) (w : FieldWrite D T M) :
    p.upaMsgSet w.fid w.name w.value = p ∧ w.value.NeedsSameType ∧
        (∃ g, p.fields.find w.fid = some g ∧ g.data.type ≠ w.value.type) ∨
      p.upaMsgSet w.fid w.name w.value = p.set w.field ∧
        (w.value.NeedsSameType → ∀ g, p.fields.find w.fid = some g → g.data.type = w.value.type) := by
  obtain ⟨fid, name, v⟩ := w
  have hs := p.setIfSameType_eq ⟨fid, name.getD "", v⟩
  cases v with
  | price v | msg v | vectorMsg v | opaqueData v =>
    obtain ⟨he, g, hg, ht⟩ | ⟨he, h⟩ := hs
    · exact Or.inl ⟨he, trivial, g, hg, ht⟩
    · exact Or.inr ⟨he, fun _ => h⟩
  | bool _ | char _ | integer _ | f32 _ | f64 _ | string _ | time _ | vectorI8 _ | vectorString _ =>
    exact Or.inr ⟨rfl, fun h => h.elim⟩

theorem find_set (p : UpaPayload D T M) (w : FieldWrite D T M) (k : ℕ) :
    (p.set w.field).fields.find k = if k = w.fid then some w.field else p.fields.find k :=
  UnorderedMap.find_insert p.fields w.fid k w.field

theorem getField_of_find {p : UpaPayload D T M} {fid : ℕ} {order : List (UpaFieldPayload D T M)}
    {name : Option String} {f : UpaFieldPayload D T M} (hc : checkName name fid = .ok) (h0 : fid ≠ 0)
    (hf : p.fields.find fid = some f) : p.getField fid order name = (.ok, some f) := by
  simp [getField, findField, hc, h0, hf]

theorem getField_of_name {p : UpaPayload D T M} {order : List (UpaFieldPayload D T M)} {n : String}
    (hc : checkName (some n) 0 = .ok) {f : UpaFieldPayload D T M}
    (hf : order.find? (fun f => f.name = n) = some f) :
    p.getField 0 order (some n) = (.ok, some f) := by
  simp [getField, findField, hc, hf]

end UpaPayload

theorem checkName_zero {name : Option String} (h : checkName name 0 = .ok) :
    ∃ n, name = some n := by
  cases name with
  | none => simp [checkName] at h
  | some n => exact ⟨n, rfl⟩

theorem FieldWrite.identity_eq (w : FieldWrite D T M) :
    w.identity = fieldIdentity w.fid (some w.field.name) := rfl

theorem fieldIdentity_inj {k l : ℕ} {n m : Option String} (h : fieldIdentity k n = fieldIdentity l m) :
    k = l := by
  simp only [fieldIdentity] at h
  split at h <;> split at h <;> simp_all

theorem FieldWrite.Replaces.same_identity {w w' : FieldWrite D T M} (h : w.Replaces w'.field)
    (he : w'.fid = w.fid) : w'.identity = w.identity := by
  rw [FieldWrite.identity, FieldWrite.identity, fieldIdentity, fieldIdentity, he]
  split
  · rfl
  · rename_i h0
    rw [← h.1 (not_not.mp h0)]
    rfl

theorem exists_order {p : UpaPayload D T M} {f : UpaFieldPayload D T M} (h : f ∈ p.fields.values) :
    ∃ rest, (f :: rest).Perm p.fields.values := by
  obtain ⟨before, after, he⟩ := List.append_of_mem h
  exact ⟨before ++ after, he ▸ List.perm_middle.symm⟩

namespace WrittenPayload

variable {s : WrittenPayload D T M} {w : FieldWrite D T M}

theorem empty_stored : (empty : WrittenPayload D T M).Stored where
  fid_eq k f h := by simp [empty] at h
  identity_eq i w h := by simp [empty] at h
  field_eq i w h := by simp [empty] at h
  written_eq k f h := by simp [empty] at h
  agree f₀ f h := by simp [empty] at h
  size_eq := rfl

theorem Stored.isMap (h : s.Stored) : s.IsMap := by
  refine ⟨fun order ho i w hw => ?_, h.size_eq⟩
  have hc := (h.identity_eq i w hw).2
  have hf := h.field_eq i w hw
  obtain ⟨fid, name, v⟩ := w
  by_cases h0 : fid = 0
  · subst h0
    obtain ⟨n, rfl⟩ := checkName_zero hc
    have hm : (⟨0, n, v⟩ : UpaFieldPayload D T M) ∈ order :=
      ho.mem_iff.mpr (UnorderedMap.mem_values.mpr ⟨0, hf⟩)
    cases hg : order.find? (fun f => f.name = n) with
    | none => exact absurd (List.find?_eq_none.mp hg _ hm) (by simp)
    | some g =>
      refine ⟨g, UpaPayload.getField_of_name hc hg, ?_⟩
      have hgm := ho.mem_iff.mp (List.mem_of_find?_eq_some hg)
      exact h.agree _ g hf hgm (by simpa [FieldWrite.field] using List.find?_some hg)
  · exact ⟨_, UpaPayload.getField_of_find hc h0 hf, rfl⟩

theorem step_write_ok {p : UpaPayload D T M} (hc : checkName w.name w.fid = .ok)
    (hp : s.payload.upaMsgSet w.fid w.name w.value = p) :
    s.step (.write w) = ⟨p, s.written.insert w.identity w⟩ := by
  simp [step, UpaPayload.write_of_checkName hc, hp]

theorem step_write_rejected (hc : checkName w.name w.fid ≠ .ok) : s.step (.write w) = s := by
  simp only [step, UpaPayload.write_of_not_checkName hc]

theorem Stored.isSome_iff (h : s.Stored) (hr : ∀ g, s.payload.fields.find w.fid = some g → w.Replaces g) :
    (s.payload.fields.find w.fid).isSome = (s.written.find w.identity).isSome := by
  rw [Bool.eq_iff_iff, Option.isSome_iff_exists, Option.isSome_iff_exists]
  constructor
  · rintro ⟨g, hg⟩
    obtain ⟨w', hw', -⟩ := h.written_eq _ g hg
    refine ⟨w', ?_⟩
    by_cases h0 : w.fid = 0
    · rw [FieldWrite.identity_eq, FieldWrite.field, ← (hr g hg).1 h0]
      exact hw'
    · rw [← hw']
      simp [FieldWrite.identity, fieldIdentity, h0]
  · rintro ⟨w', hw'⟩
    have hi := (h.identity_eq _ w' hw').1
    have hf := h.field_eq _ w' hw'
    rw [fieldIdentity_inj hi] at hf
    exact ⟨_, hf⟩

theorem Stored.agree_set (h : s.Stored) (ha : ∀ g ∈ s.payload.fields.values, w.Agrees g)
    (f₀ f : UpaFieldPayload D T M) (hf₀ : (s.payload.set w.field).fields.find 0 = some f₀)
    (hf : f ∈ (s.payload.set w.field).fields.values) (hn : f.name = f₀.name) : f.data = f₀.data := by
  obtain ⟨k, hk⟩ := UnorderedMap.mem_values.mp hf
  rw [UpaPayload.find_set] at hf₀ hk
  split at hf₀
  · rename_i h0
    cases hf₀
    split at hk
    · cases hk
      rfl
    · have hfid := h.fid_eq k f hk
      exact ha f (UnorderedMap.mem_values.mpr ⟨k, hk⟩) (by omega) (Or.inl h0.symm) hn
  · rename_i h0
    split at hk
    · cases hk
      have hfid := h.fid_eq 0 f₀ hf₀
      exact (ha f₀ (UnorderedMap.mem_values.mpr ⟨0, hf₀⟩) (by omega) (Or.inr hfid) hn.symm).symm
    · exact h.agree f₀ f hf₀ (UnorderedMap.mem_values.mpr ⟨k, hk⟩) hn

theorem Stored.set (h : s.Stored) (hc : checkName w.name w.fid = .ok)
    (hr : ∀ g, s.payload.fields.find w.fid = some g → w.Replaces g)
    (ha : ∀ g ∈ s.payload.fields.values, w.Agrees g) :
    Stored ⟨s.payload.set w.field, s.written.insert w.identity w⟩ where
  fid_eq k f hf := by
    rw [UpaPayload.find_set] at hf
    split at hf
    · cases hf
      exact Eq.symm ‹_›
    · exact h.fid_eq k f hf
  identity_eq i w' hw' := by
    rw [UnorderedMap.find_insert] at hw'
    split at hw'
    · cases hw'
      exact ⟨Eq.symm ‹_›, hc⟩
    · exact h.identity_eq i w' hw'
  field_eq i w' hw' := by
    rw [UnorderedMap.find_insert] at hw'
    split at hw'
    · cases hw'
      simp [UpaPayload.find_set]
    · rename_i hne
      have hf := h.field_eq i w' hw'
      have hfid : w'.fid ≠ w.fid := by
        intro he
        apply hne
        rw [← (h.identity_eq i w' hw').1]
        exact (hr _ (he ▸ hf)).same_identity he
      rw [UpaPayload.find_set, if_neg hfid, hf]
  written_eq k f hf := by
    rw [UpaPayload.find_set] at hf
    split at hf
    · cases hf
      exact ⟨w, by simp [UnorderedMap.find_insert, FieldWrite.identity_eq, FieldWrite.field, *], rfl⟩
    · obtain ⟨w', hw', he⟩ := h.written_eq k f hf
      refine ⟨w', ?_, he⟩
      rw [UnorderedMap.find_insert, if_neg, hw']
      intro hi
      exact absurd (fieldIdentity_inj hi) ‹_›
  agree := h.agree_set ha
  size_eq := by
    have hs := h.size_eq
    simp only [UpaPayload.numFields, UpaPayload.set] at hs ⊢
    rw [UnorderedMap.size_insert, UnorderedMap.size_insert]
    have hi := h.isSome_iff hr
    simp only [FieldWrite.field, hi, hs]

theorem Stored.step {c : PayloadCall D T M} (h : s.Stored) (hc : Admissible s c) : (s.step c).Stored := by
  cases c with
  | clear => exact empty_stored
  | write w =>
    by_cases hn : checkName w.name w.fid = .ok
    · obtain ⟨hr, ha⟩ := hc hn
      obtain ⟨-, hs, g, hg, ht⟩ | ⟨he, -⟩ := s.payload.upaMsgSet_eq w
      · exact absurd ((hr g hg).2 hs) ht
      · rw [step_write_ok hn he]
        exact h.set hn hr ha
    · rw [step_write_rejected hn]
      exact h

theorem not_isMap_of_found {p : UpaPayload D T M} {f : UpaFieldPayload D T M}
    {written : UnorderedMap FieldIdentity (FieldWrite D T M)} {i : FieldIdentity}
    (hw : written.find i = some w) (hc : checkName w.name w.fid = .ok)
    (hf : f ∈ p.fields.values) (hfound : w.fid ≠ 0 → p.fields.find w.fid = some f)
    (hname : w.fid = 0 → f.name = w.name.getD "") (hne : f.data ≠ w.value) :
    ¬ IsMap ⟨p, written⟩ := by
  intro hm
  obtain ⟨rest, hrest⟩ := exists_order hf
  obtain ⟨g, hg, hv⟩ := hm.1 _ hrest i w hw
  obtain ⟨fid, name, v⟩ := w
  by_cases h0 : fid = 0
  · subst h0
    obtain ⟨n, rfl⟩ := checkName_zero hc
    have hn : f.name = n := hname rfl
    rw [UpaPayload.getField_of_name hc (f := f) (by simp [hn])] at hg
    cases hg
    exact hne hv
  · rw [UpaPayload.getField_of_find hc h0 (hfound h0)] at hg
    cases hg
    exact hne hv

theorem numFields_over {g : UpaFieldPayload D T M} (hg : s.payload.fields.find w.fid = some g) :
    (s.payload.upaMsgSet w.fid w.name w.value).numFields = s.payload.numFields := by
  obtain ⟨he, -⟩ | ⟨he, -⟩ := s.payload.upaMsgSet_eq w
  · rw [he]
  · rw [he]
    simp [UpaPayload.numFields, UpaPayload.set, UnorderedMap.size_insert, FieldWrite.field, hg]

theorem Stored.not_isMap_of_renamed (h : s.Stored) (h0 : w.fid = 0)
    {g : UpaFieldPayload D T M} (hg : s.payload.fields.find w.fid = some g)
    (hne : g.name ≠ w.name.getD "") :
    ¬ IsMap ⟨s.payload.upaMsgSet w.fid w.name w.value, s.written.insert w.identity w⟩ := by
  intro hm
  have hsize := hm.2
  have hnone : s.written.find w.identity = none := by
    rw [Option.eq_none_iff_forall_ne_some]
    intro w' hw'
    have hi := (h.identity_eq _ w' hw').1
    have hf := h.field_eq _ w' hw'
    have hfid := fieldIdentity_inj hi
    rw [hfid, hg] at hf
    cases hf
    apply hne
    simpa [FieldWrite.identity, fieldIdentity, h0, hfid, FieldWrite.field] using hi
  simp only [UnorderedMap.size_insert, hnone] at hsize
  rw [numFields_over hg, h.size_eq] at hsize
  simp at hsize

theorem not_isMap_of_kept (hn : checkName w.name w.fid = .ok) {g : UpaFieldPayload D T M}
    (hg : s.payload.fields.find w.fid = some g) (hname : w.fid = 0 → g.name = w.name.getD "")
    (hs : w.value.NeedsSameType) (ht : g.data.type ≠ w.value.type) :
    ¬ IsMap ⟨s.payload.upaMsgSet w.fid w.name w.value, s.written.insert w.identity w⟩ := by
  obtain ⟨he, -⟩ | ⟨-, ht'⟩ := s.payload.upaMsgSet_eq w
  · rw [he]
    apply not_isMap_of_found (UnorderedMap.find_insert_self ..) hn
      (UnorderedMap.mem_values.mpr ⟨_, hg⟩) (fun _ => hg) hname
    intro hd
    exact ht (congrArg ValueType.type hd)
  · exact absurd (ht' hs g hg) ht

theorem Stored.not_isMap_of_shadowed (h : s.Stored) (hn : checkName w.name w.fid = .ok)
    {g : UpaFieldPayload D T M} (hg : g ∈ s.payload.fields.values) (ha : ¬ w.Agrees g) :
    ¬ IsMap ⟨s.payload.set w.field, s.written.insert w.identity w⟩ := by
  simp only [FieldWrite.Agrees, Classical.not_imp] at ha
  obtain ⟨hne, h0, hname, hdata⟩ := ha
  obtain ⟨k, hk⟩ := UnorderedMap.mem_values.mp hg
  have hfid := h.fid_eq k g hk
  rcases h0 with h0 | h0
  · have hg' : (s.payload.set w.field).fields.find k = some g := by
      rw [UpaPayload.find_set, if_neg (by omega), hk]
    exact not_isMap_of_found (UnorderedMap.find_insert_self ..) hn
      (UnorderedMap.mem_values.mpr ⟨k, hg'⟩) (absurd h0) (fun _ => hname) hdata
  · obtain ⟨w₀, hw₀, rfl⟩ := h.written_eq k g hk
    have hi : fieldIdentity k (some w₀.field.name) ≠ w.identity := by
      intro hi
      exact hne (hfid.trans (fieldIdentity_inj hi))
    have hf : (s.payload.set w.field).fields.find w.fid = some w.field := by
      rw [UpaPayload.find_set, if_pos rfl]
    exact not_isMap_of_found (w := w₀) (f := w.field)
      (by rw [UnorderedMap.find_insert, if_neg hi, hw₀]) (h.identity_eq _ _ hw₀).2
      (UnorderedMap.mem_values.mpr ⟨_, hf⟩) (absurd h0) (fun _ => hname.symm) (fun hd => hdata hd.symm)

theorem Stored.step_not_isMap {c : PayloadCall D T M} (h : s.Stored) (hc : ¬ Admissible s c) :
    ¬ (s.step c).IsMap := by
  cases c with
  | clear => exact absurd trivial hc
  | write w =>
    simp only [Admissible, Classical.not_imp] at hc
    obtain ⟨hn, hc⟩ := hc
    rw [step_write_ok hn rfl]
    by_cases hr : ∀ g, s.payload.fields.find w.fid = some g → w.Replaces g
    · have ha : ¬ ∀ g ∈ s.payload.fields.values, w.Agrees g := fun ha => hc ⟨hr, ha⟩
      simp only [not_forall] at ha
      obtain ⟨g, hg, ha⟩ := ha
      obtain ⟨-, hs, g', hg', ht⟩ | ⟨he, -⟩ := s.payload.upaMsgSet_eq w
      · exact absurd ((hr g' hg').2 hs) ht
      · rw [he]
        exact h.not_isMap_of_shadowed hn hg ha
    · simp only [not_forall] at hr
      obtain ⟨g, hg, hr⟩ := hr
      by_cases hname : w.fid = 0 → g.name = w.name.getD ""
      · have hst : ¬ (w.value.NeedsSameType → g.data.type = w.value.type) := fun ht => hr ⟨hname, ht⟩
        obtain ⟨hs, ht⟩ := Classical.not_imp.mp hst
        exact not_isMap_of_kept hn hg hname hs ht
      · obtain ⟨h0, hne⟩ := Classical.not_imp.mp hname
        exact h.not_isMap_of_renamed h0 hg hne

end WrittenPayload

theorem payload_isMap_iff (cs : List (PayloadCall D T M)) :
    Runs.Always WrittenPayload.step WrittenPayload.IsMap .empty cs ↔
      Runs.Guarded WrittenPayload.step Admissible .empty cs :=
  Runs.always_iff_guarded (I := WrittenPayload.Stored) (fun _ => WrittenPayload.Stored.isMap)
    (fun _ _ => WrittenPayload.Stored.step) (fun _ _ => WrittenPayload.Stored.step_not_isMap)
    WrittenPayload.empty_stored

theorem price_over_string_lost : ¬ ∀ cs : List (PayloadCall ℕ ℕ ℕ),
    Runs.Always WrittenPayload.step WrittenPayload.IsMap .empty cs := by
  intro h
  have hm := (h [.write ⟨5, some "Px", .string "n/a"⟩,
    .write ⟨5, some "Px", .price ⟨101, .int⟩⟩]).2.2.1
  obtain ⟨g, hg, hv⟩ := hm _ (List.Perm.refl _) (.fid 5) ⟨5, some "Px", .price ⟨101, .int⟩⟩ rfl
  cases hg
  cases hv

end RmdsBridge
