import Mathlib.Data.Finset.Card
import RmdsBridge.PayloadMap

namespace RmdsBridge

variable {D T M : Type}

namespace UpaPayload

/-- `order` is the order in which the hash map of the source is walked. Each of its fields goes under
the fid that the field itself has. -/
def apply (p : UpaPayload D T M) (order : List (UpaFieldPayload D T M)) : UpaPayload D T M :=
  order.foldl UpaPayload.set p

def Walks (q : UpaPayload D T M) (order : List (UpaFieldPayload D T M)) : Prop :=
  order.Perm q.fields.values

def fids (p : UpaPayload D T M) : Finset ℕ := p.fields.keys.toFinset

def Same (p q : UpaPayload D T M) : Prop := ∀ fid, p.fields.find fid = q.fields.find fid

def Keyed (p : UpaPayload D T M) : Prop := ∀ fid f, p.fields.find fid = some f → f.fid = fid

structure IsUnion (p q u : UpaPayload D T M) : Prop where
  theirs : ∀ fid f, q.fields.find fid = some f → u.fields.find fid = some f
  ours : ∀ fid, q.fields.find fid = none → u.fields.find fid = p.fields.find fid
  size : u.numFields = (p.fids ∪ q.fids).card

end UpaPayload

abbrev PayloadHeap (D T M : Type) : Type := ℕ → Option (UpaPayload D T M)

namespace PayloadHeap

def Applies (s : PayloadHeap D T M) (dest src : ℕ) (s' : PayloadHeap D T M) : Prop :=
  ∃ p q order, s dest = some p ∧ s src = some q ∧ q.Walks order ∧
    s' = Function.update s dest (some (p.apply order))

/-- A call of the payload's functions. `copy` makes a new payload or assigns to one that there is. -/
inductive Call (s : PayloadHeap D T M) : PayloadHeap D T M → Prop
  | create (h : ℕ) (hnew : s h = none) : Call s (Function.update s h (some ⟨∅⟩))
  | write (h : ℕ) (w : FieldWrite D T M) {p : UpaPayload D T M} (hp : s h = some p) :
    Call s (Function.update s h (some (p.write w.fid w.name w.value).2))
  | clear (h : ℕ) {p : UpaPayload D T M} (hp : s h = some p) :
    Call s (Function.update s h (some p.clear))
  | copy (src dest : ℕ) {p : UpaPayload D T M} (hp : s src = some p) :
    Call s (Function.update s dest (some p))
  | apply (dest src : ℕ) {s' : PayloadHeap D T M} (h : s.Applies dest src s') : Call s s'

def Reachable : PayloadHeap D T M → Prop := Relation.ReflTransGen Call fun _ => none

def Keyed (s : PayloadHeap D T M) : Prop := ∀ h p, s h = some p → p.Keyed

end PayloadHeap

namespace UpaPayload

variable {p q r u : UpaPayload D T M} {order : List (UpaFieldPayload D T M)}

theorem mem_fids {fid : ℕ} : fid ∈ p.fids ↔ ∃ f, p.fields.find fid = some f := by
  rw [fids, List.mem_toFinset]
  exact UnorderedMap.mem_iff_find

theorem numFields_eq_card (p : UpaPayload D T M) : p.numFields = p.fids.card := by
  rw [fids, List.toFinset_card_of_nodup p.fields.keys_nodup]
  exact (List.length_map _).symm

theorem keyed_empty : (⟨∅⟩ : UpaPayload D T M).Keyed := by
  intro fid f hf
  rw [UnorderedMap.find_empty] at hf
  cases hf

theorem Keyed.set (h : p.Keyed) (f : UpaFieldPayload D T M) : (p.set f).Keyed := by
  intro fid g hg
  have hg : UnorderedMap.find (p.fields.insert f.fid f) fid = some g := hg
  rw [UnorderedMap.find_insert] at hg
  by_cases he : fid = f.fid
  · rw [if_pos he] at hg
    cases hg
    exact he.symm
  · rw [if_neg he] at hg
    exact h fid g hg

theorem Keyed.write (h : p.Keyed) (w : FieldWrite D T M) : (p.write w.fid w.name w.value).2.Keyed := by
  by_cases hc : checkName w.name w.fid = .ok
  · rw [write_of_checkName hc]
    obtain ⟨he, -⟩ | ⟨he, -⟩ := p.upaMsgSet_eq w
    · rw [he]
      exact h
    · rw [he]
      exact h.set w.field
  · rw [write_of_not_checkName hc]
    exact h

theorem Keyed.apply (h : p.Keyed) (order : List (UpaFieldPayload D T M)) : (p.apply order).Keyed := by
  induction order generalizing p with
  | nil => exact h
  | cons f order ih => exact ih (h.set f)

theorem apply_fields (p : UpaPayload D T M) (order : List (UpaFieldPayload D T M)) :
    (p.apply order).fields = p.fields.insertAll (order.map fun f => (f.fid, f)) := by
  induction order generalizing p with
  | nil => rfl
  | cons f order ih => exact ih (p.set f)

theorem find_apply (hq : q.Keyed) (ho : q.Walks order) (fid : ℕ) :
    (p.apply order).fields.find fid = (q.fields.find fid).or (p.fields.find fid) := by
  rw [apply_fields, UnorderedMap.find_insertAll]
  congr 1
  apply UnorderedMap.lookup_eq_find
  · intro kv hkv
    obtain ⟨f, hf, rfl⟩ := List.mem_map.mp (List.mem_reverse.mp hkv)
    obtain ⟨k, hk⟩ := UnorderedMap.mem_values.mp (ho.mem_iff.mp hf)
    rw [hq k f hk]
    exact hk
  · intro f hf
    apply List.mem_reverse.mpr
    apply List.mem_map.mpr
    refine ⟨f, ho.mem_iff.mpr (UnorderedMap.mem_values.mpr ⟨fid, hf⟩), ?_⟩
    rw [hq fid f hf]

theorem apply_isUnion (hq : q.Keyed) (ho : q.Walks order) : IsUnion p q (p.apply order) where
  theirs fid f hf := by rw [find_apply hq ho, hf, Option.some_or]
  ours fid hf := by rw [find_apply hq ho, hf, Option.none_or]
  size := by
    have hfids : (p.apply order).fids = p.fids ∪ q.fids := by
      ext fid
      rw [Finset.mem_union, mem_fids, mem_fids, mem_fids, find_apply hq ho]
      cases q.fields.find fid with
      | none => simp
      | some f => simp
    rw [numFields_eq_card, hfids]

theorem apply_self (hp : p.Keyed) (ho : p.Walks order) : (p.apply order).Same p := by
  intro fid
  rw [find_apply hp ho, Option.or_self]

theorem IsUnion.absorbs {q' : UpaPayload D T M} (h : IsUnion p q u) (hq' : q'.Keyed) (he : q'.Same q)
    (ho : q'.Walks order) : (u.apply order).Same u := by
  intro fid
  rw [find_apply hq' ho, he fid]
  cases hf : q.fields.find fid with
  | none => rw [Option.none_or]
  | some f => rw [Option.some_or, h.theirs fid f hf]

theorem apply_apply {order₁ order₂ order₃ order₄ : List (UpaFieldPayload D T M)} (hq : q.Keyed)
    (hr : r.Keyed) (h₁ : q.Walks order₁) (h₂ : r.Walks order₂) (h₃ : r.Walks order₃)
    (h₄ : (q.apply order₃).Walks order₄) :
    ((p.apply order₁).apply order₂).Same (p.apply order₄) := by
  intro fid
  rw [find_apply hr h₂, find_apply hq h₁, find_apply (hq.apply order₃) h₄, find_apply hr h₃,
    Option.or_assoc]

end UpaPayload

namespace PayloadHeap

variable {s s' : PayloadHeap D T M} {a b c : ℕ} {p q r : UpaPayload D T M}

theorem Keyed.update (hs : s.Keyed) (hp : p.Keyed) : Keyed (Function.update s a (some p)) := by
  intro h p' hp'
  by_cases he : h = a
  · rw [he, Function.update_self] at hp'
    cases hp'
    exact hp
  · rw [Function.update_of_ne he] at hp'
    exact hs h p' hp'

theorem Keyed.call (hs : s.Keyed) (h : Call s s') : s'.Keyed := by
  cases h with
  | create h hnew => exact hs.update UpaPayload.keyed_empty
  | write h w hp => exact hs.update ((hs h _ hp).write w)
  | clear h hp => exact hs.update UpaPayload.keyed_empty
  | copy src dest hp => exact hs.update (hs src _ hp)
  | apply dest src h =>
    obtain ⟨p, q, order, hp, -, -, rfl⟩ := h
    exact hs.update ((hs dest p hp).apply order)

theorem Reachable.keyed (h : Reachable s) : s.Keyed := by
  induction h with
  | refl =>
    intro h p hp
    cases hp
  | tail _ hstep ih => exact ih.call hstep

theorem Applies.dest (h : s.Applies a b s') (ha : s a = some p) (hb : s b = some q) :
    ∃ order, q.Walks order ∧ s' a = some (p.apply order) := by
  obtain ⟨p', q', order, hp, hq, ho, rfl⟩ := h
  rw [ha] at hp
  rw [hb] at hq
  cases hp
  cases hq
  exact ⟨order, ho, Function.update_self ..⟩

theorem Applies.src (h : s.Applies a b s') (hs : s.Keyed) (hb : s b = some q) :
    ∃ q', s' b = some q' ∧ q'.Same q := by
  by_cases he : b = a
  · subst he
    obtain ⟨order, ho, hs'⟩ := h.dest hb hb
    exact ⟨_, hs', UpaPayload.apply_self (hs b q hb) ho⟩
  · obtain ⟨-, -, -, -, -, -, rfl⟩ := h
    exact ⟨q, by rw [Function.update_of_ne he, hb], fun _ => rfl⟩

structure Merged (s s' : PayloadHeap D T M) (a b : ℕ) (p q : UpaPayload D T M) : Prop where
  dest : ∃ u, s' a = some u ∧ UpaPayload.IsUnion p q u
  src : ∃ q', s' b = some q' ∧ q'.Same q
  frame : ∀ h, h ≠ a → s' h = s h

theorem Applies.merged (h : s.Applies a b s') (hs : s.Keyed) (ha : s a = some p) (hb : s b = some q) :
    Merged s s' a b p q where
  dest := by
    obtain ⟨order, ho, hs'⟩ := h.dest ha hb
    exact ⟨_, hs', UpaPayload.apply_isUnion (hs b q hb) ho⟩
  src := h.src hs hb
  frame h' hne := by
    obtain ⟨-, -, -, -, -, -, rfl⟩ := h
    rw [Function.update_of_ne hne]

theorem Merged.applied_again {s'' : PayloadHeap D T M} (h : Merged s s' a b p q) (hs' : s'.Keyed)
    (happ : s'.Applies a b s'') : ∃ u u', s' a = some u ∧ s'' a = some u' ∧ u'.Same u := by
  obtain ⟨u, hu, hunion⟩ := h.dest
  obtain ⟨q', hq', he⟩ := h.src
  obtain ⟨order, ho, hs''⟩ := happ.dest hu hq'
  exact ⟨u, _, hu, hs'', hunion.absorbs (hs' b q' hq') he ho⟩

theorem Applies.eq_update {s' : PayloadHeap D T M} (h : s.Applies a b s') (ha : s a = some p)
    (hb : s b = some q) : ∃ order, q.Walks order ∧ s' = Function.update s a (some (p.apply order)) := by
  obtain ⟨p', q', order, ha', hb', hw, rfl⟩ := h
  obtain rfl := Option.some.inj (ha.symm.trans ha')
  obtain rfl := Option.some.inj (hb.symm.trans hb')
  exact ⟨order, hw, rfl⟩

theorem payloads_merged (hs : s.Reachable) (ha : s a = some p) (hb : s b = some q) (hc : s c = some r) :
    (∃ s', s.Applies a b s') ∧
    (∀ s', s.Applies a b s' → Merged s s' a b p q ∧
      ∀ s'', s'.Applies a b s'' → ∃ u u', s' a = some u ∧ s'' a = some u' ∧ u'.Same u) ∧
    (a ≠ b → c ≠ a → c ≠ b → ∀ s₁ s₂ t₁ t₂, s.Applies a b s₁ → s₁.Applies a c s₂ → s.Applies b c t₁ →
      t₁.Applies a b t₂ → ∃ u u', s₂ a = some u ∧ t₂ a = some u' ∧ u.Same u') ∧
    ∀ order₁ order₂ order₃ order₄, q.Walks order₁ → r.Walks order₂ → r.Walks order₃ →
      (q.apply order₃).Walks order₄ → ((p.apply order₁).apply order₂).Same (p.apply order₄) := by
  have hkeyed := hs.keyed
  have hthird {order₁ order₂ order₃ order₄} (h₁ : q.Walks order₁) (h₂ : r.Walks order₂) (h₃ : r.Walks order₃)
      (h₄ : (q.apply order₃).Walks order₄) : ((p.apply order₁).apply order₂).Same (p.apply order₄) :=
    UpaPayload.apply_apply (hkeyed b q hb) (hkeyed c r hc) h₁ h₂ h₃ h₄
  refine ⟨⟨_, p, q, q.fields.values, ha, hb, List.Perm.refl _, rfl⟩, ?_, ?_, ?_⟩
  · intro s' happ
    have hm := happ.merged hkeyed ha hb
    exact ⟨hm, fun s'' happ' => hm.applied_again (hkeyed.call (.apply a b happ)) happ'⟩
  · rintro hab hca hcb s₁ s₂ t₁ t₂ h₁ h₂ h₃ h₄
    obtain ⟨o₁, ho₁, rfl⟩ := h₁.eq_update ha hb
    obtain ⟨o₃, ho₃, rfl⟩ := h₃.eq_update hb hc
    obtain ⟨o₂, ho₂, rfl⟩ := h₂.eq_update (Function.update_self ..) ((Function.update_of_ne hca ..).trans hc)
    obtain ⟨o₄, ho₄, rfl⟩ := h₄.eq_update ((Function.update_of_ne hab ..).trans ha) (Function.update_self ..)
    exact ⟨_, _, Function.update_self .., Function.update_self .., hthird ho₁ ho₂ ho₃ ho₄⟩
  · exact fun _ _ _ _ => hthird

def only (w : FieldWrite D T M) : UpaPayload D T M := UpaPayload.set ⟨∅⟩ w.field

def bidWrite : FieldWrite ℕ ℕ ℕ := ⟨22, some "BID", .string "100"⟩

def askWrite : FieldWrite ℕ ℕ ℕ := ⟨25, some "ASK", .string "101"⟩

def laterAskWrite : FieldWrite ℕ ℕ ℕ := ⟨25, some "ASK", .string "102"⟩

def quotes : PayloadHeap ℕ ℕ ℕ :=
  Function.update (Function.update (Function.update (Function.update (Function.update (Function.update
    (fun _ => none) 0 (some ⟨∅⟩)) 0 (some (only bidWrite))) 1 (some ⟨∅⟩)) 1 (some (only askWrite)))
    2 (some ⟨∅⟩)) 2 (some (only laterAskWrite))

theorem quotes_reachable : quotes.Reachable := by
  refine (((((Relation.ReflTransGen.single (.create 0 rfl)).tail (.write 0 bidWrite rfl)).tail
    (.create 1 rfl)).tail (.write 1 askWrite rfl)).tail (.create 2 rfl)).tail (.write 2 laterAskWrite rfl)

theorem quotes_merged : ∃ s', quotes.Applies 0 1 s' ∧ Merged quotes s' 0 1 (only bidWrite) (only askWrite) := by
  obtain ⟨⟨s', h⟩, hm, -⟩ := payloads_merged quotes_reachable (a := 0) (b := 1) (c := 2) rfl rfl rfl
  exact ⟨s', h, (hm s' h).1⟩

end PayloadHeap

end RmdsBridge
