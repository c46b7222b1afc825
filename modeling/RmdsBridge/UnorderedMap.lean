import Mathlib.Data.List.AList
import Mathlib.Tactic.Common

namespace RmdsBridge

/-- A hash map, as a list of entries with distinct keys. -/
abbrev UnorderedMap (K V : Type) : Type := AList fun _ : K => V

namespace UnorderedMap

variable {K V W : Type} [DecidableEq K]

def find (m : UnorderedMap K V) (k : K) : Option V := AList.lookup k m

def mapVal (f : V → W) (m : UnorderedMap K V) : UnorderedMap K W :=
  ⟨m.entries.map (.map id fun _ => f), m.nodupKeys.map₂ _ _⟩

def size (m : UnorderedMap K V) : ℕ := m.entries.length

def values (m : UnorderedMap K V) : List V := m.entries.map Sigma.snd

def insertAll (m : UnorderedMap K V) (kvs : List (K × V)) : UnorderedMap K V :=
  kvs.foldl (fun m kv => m.insert kv.1 kv.2) m

def eraseUnless (p : V → Bool) (m : UnorderedMap K V) : UnorderedMap K V :=
  ⟨m.entries.filter fun x => p x.2, m.nodupKeys.sublist List.filter_sublist⟩

@[simp] theorem find_empty (k : K) : find (∅ : UnorderedMap K V) k = none := AList.lookup_empty k

theorem find_insert (m : UnorderedMap K V) (k k' : K) (v : V) :
    find (m.insert k v) k' = if k' = k then some v else m.find k' := by
  unfold find
  by_cases h : k' = k
  · subst h; simp
  · rw [AList.lookup_insert_ne h, if_neg h]

theorem find_insert_self (m : UnorderedMap K V) (k : K) (v : V) : find (m.insert k v) k = some v := by
  rw [find_insert, if_pos rfl]

theorem find_erase (m : UnorderedMap K V) (k k' : K) :
    find (m.erase k) k' = if k' = k then none else m.find k' := by
  unfold find
  by_cases h : k' = k
  · subst h; simp
  · rw [AList.lookup_erase_ne h, if_neg h]

theorem find_mapVal (f : V → W) (m : UnorderedMap K V) (k : K) :
    (mapVal f m).find k = (m.find k).map f :=
  List.dlookup_map₂ k

theorem mem_entries_iff {m : UnorderedMap K V} {k : K} {v : V} :
    (⟨k, v⟩ : Sigma fun _ : K => V) ∈ m.entries ↔ m.find k = some v :=
  (List.mem_dlookup_iff m.nodupKeys).symm

theorem find_eraseUnless (p : V → Bool) (m : UnorderedMap K V) (k : K) :
    (eraseUnless p m).find k = (m.find k).filter p := by
  ext v
  rw [← mem_entries_iff, Option.filter_eq_some_iff, ← mem_entries_iff]
  simp [eraseUnless]

theorem mem_iff_find {m : UnorderedMap K V} {k : K} : k ∈ m ↔ ∃ v, m.find k = some v := by
  rw [← AList.lookup_isSome, Option.isSome_iff_exists]
  rfl

theorem find_eq_none {m : UnorderedMap K V} {k : K} : m.find k = none ↔ k ∉ m :=
  AList.lookup_eq_none

theorem mem_values {m : UnorderedMap K V} {v : V} : v ∈ m.values ↔ ∃ k, m.find k = some v := by
  simp only [values, List.mem_map]
  constructor
  · rintro ⟨⟨k, w⟩, hm, rfl⟩
    exact ⟨k, mem_entries_iff.mp hm⟩
  · rintro ⟨k, hk⟩
    exact ⟨⟨k, v⟩, mem_entries_iff.mpr hk, rfl⟩

theorem size_insert (m : UnorderedMap K V) (k : K) (v : V) :
    size (m.insert k v) = if (m.find k).isSome then m.size else m.size + 1 := by
  have hk : ∀ n : UnorderedMap K V, n.size = n.keys.length := fun n => (List.length_map _).symm
  rw [hk, hk, AList.keys_insert, List.length_cons]
  cases h : m.find k with
  | none =>
    have hn : k ∉ m.keys := find_eq_none.mp h
    simp [List.erase_of_not_mem hn]
  | some w =>
    have hm : k ∈ m.keys := mem_iff_find.mpr ⟨w, h⟩
    have hpos := List.length_pos_of_mem hm
    simp only [Option.isSome_some, if_true, List.length_erase_of_mem hm]
    omega

theorem find_insertAll (m : UnorderedMap K V) (kvs : List (K × V)) (k : K) :
    (m.insertAll kvs).find k = (kvs.reverse.lookup k).or (m.find k) := by
  induction kvs generalizing m with
  | nil => rfl
  | cons kv kvs ih =>
    have hstep : (m.insertAll (kv :: kvs)).find k = (insertAll (m.insert kv.1 kv.2) kvs).find k := rfl
    rw [hstep, ih, find_insert, List.reverse_cons, List.lookup_append, Option.or_assoc]
    congr 1
    by_cases h : k = kv.1
    · have hb : (k == kv.1) = true := beq_iff_eq.mpr h
      rw [if_pos h, List.lookup_cons, hb]
      rfl
    · have hb : (k == kv.1) = false := beq_false_of_ne h
      rw [if_neg h, List.lookup_cons, hb]
      rfl

theorem find_insertAll_some {m : UnorderedMap K V} {kvs : List (K × V)} {k : K} {v : V}
    (h : (m.insertAll kvs).find k = some v) : (k, v) ∈ kvs ∨ m.find k = some v := by
  rw [find_insertAll] at h
  obtain hl | ⟨-, hm⟩ := Option.or_eq_some_iff.mp h
  · obtain ⟨before, after, hkvs, -⟩ := List.lookup_eq_some_iff.mp hl
    exact .inl (List.mem_reverse.mp (hkvs ▸ List.mem_append_cons_self))
  · exact .inr hm

theorem find_insertAll_of_mem {m : UnorderedMap K V} {kvs : List (K × V)} {k : K} {v : V}
    (h : (k, v) ∈ kvs) : ∃ w, (k, w) ∈ kvs ∧ (m.insertAll kvs).find k = some w := by
  cases hl : kvs.reverse.lookup k with
  | none =>
    have hk := List.lookup_eq_none_iff.mp hl (k, v) (List.mem_reverse.mpr h)
    simp at hk
  | some w =>
    obtain ⟨before, after, hkvs, -⟩ := List.lookup_eq_some_iff.mp hl
    refine ⟨w, List.mem_reverse.mp (hkvs ▸ List.mem_append_cons_self), ?_⟩
    rw [find_insertAll, hl, Option.some_or]

theorem find_insertAll_of_not_mem {m : UnorderedMap K V} {kvs : List (K × V)} {k : K}
    (h : ∀ v, (k, v) ∉ kvs) : (m.insertAll kvs).find k = m.find k := by
  have hl : kvs.reverse.lookup k = none := by
    apply List.lookup_eq_none_iff.mpr
    rintro ⟨k', v⟩ hmem
    have hne : k ≠ k' := by
      rintro rfl
      exact h v (List.mem_reverse.mp hmem)
    simpa using hne
  rw [find_insertAll, hl, Option.none_or]

theorem lookup_eq_find {m : UnorderedMap K V} {kvs : List (K × V)} (k : K)
    (hsound : ∀ kv ∈ kvs, m.find kv.1 = some kv.2) (hcomplete : ∀ v, m.find k = some v → (k, v) ∈ kvs) :
    kvs.lookup k = m.find k := by
  cases hl : kvs.lookup k with
  | some v =>
    obtain ⟨before, after, rfl, -⟩ := List.lookup_eq_some_iff.mp hl
    exact (hsound (k, v) List.mem_append_cons_self).symm
  | none =>
    cases hf : m.find k with
    | none => rfl
    | some v =>
      have hmem := hcomplete v hf
      have hk := List.lookup_eq_none_iff.mp hl _ hmem
      simp at hk

theorem find_of_entries_nil {m : UnorderedMap K V} (h : m.entries = []) (k : K) : m.find k = none := by
  apply Option.eq_none_iff_forall_not_mem.mpr
  intro v hv
  have hm := mem_entries_iff.mpr hv
  rw [h] at hm
  cases hm

theorem find_of_entries_singleton {m : UnorderedMap K V} {k : K} {v : V} (h : m.entries = [⟨k, v⟩]) :
    m.find k = some v := by
  rw [← mem_entries_iff, h]
  exact List.mem_singleton_self _

theorem find_of_entries_singleton_ne {m : UnorderedMap K V} {k k' : K} {v : V}
    (h : m.entries = [⟨k, v⟩]) (hk : k' ≠ k) : m.find k' = none := by
  apply Option.eq_none_iff_forall_not_mem.mpr
  intro w hw
  have hm := mem_entries_iff.mpr hw
  rw [h, List.mem_singleton] at hm
  exact hk (congrArg Sigma.fst hm)

theorem flatMap_entries_of_single {m : UnorderedMap K V} {k : K} (f : (Σ _ : K, V) → List W)
    (h : ∀ x ∈ m.entries, x.1 ≠ k → f x = []) :
    m.entries.flatMap f = ((m.find k).map fun v => f ⟨k, v⟩).getD [] := by
  have key : ∀ l : List (Σ _ : K, V), l.NodupKeys → (∀ x ∈ l, x.1 ≠ k → f x = []) →
      l.flatMap f = ((l.dlookup k).map fun v => f ⟨k, v⟩).getD [] := by
    intro l hl hf
    induction l with
    | nil => rfl
    | cons x l ih =>
      obtain ⟨k', v⟩ := x
      obtain ⟨hx, hl⟩ := List.nodupKeys_cons.mp hl
      by_cases hk : k' = k
      · subst hk
        have hrest : l.flatMap f = [] := by
          apply List.flatMap_eq_nil_iff.mpr
          intro y hy
          apply hf y (List.mem_cons_of_mem _ hy)
          intro he
          have hm : y.1 ∈ l.keys := List.mem_keys_of_mem hy
          rw [he] at hm
          exact hx hm
        simp [hrest]
      · rw [List.flatMap_cons, hf ⟨k', v⟩ List.mem_cons_self hk, List.nil_append,
          ih hl fun y hy => hf y (List.mem_cons_of_mem _ hy), List.dlookup_cons_ne l ⟨k', v⟩ (Ne.symm hk)]
  exact key _ m.nodupKeys h

end UnorderedMap

end RmdsBridge
