import Mathlib.Data.List.Basic
import Mathlib.Data.List.Nodup
import Mathlib.Logic.Function.Basic
import Mathlib.Tactic.Common

namespace RmdsBridge

@[ext]
structure Registry (S K U B : Type*) where
  entry : S → K → Option U
  owner : U → Option S
  listeners : U → List B

namespace Registry

variable {S K U B : Type*} {r : Registry S K U B} {s s' : S} {k k' : K} {u u' : U} {b : B}

def Listed (r : Registry S K U B) (u : U) : Prop :=
  ∃ s k, r.owner u = some s ∧ r.entry s k = some u

structure Tidy (r : Registry S K U B) : Prop where
  owned : ∀ s k u, r.entry s k = some u → r.owner u = some s
  single : ∀ s k k' u, r.entry s k = some u → r.entry s k' = some u → k = k'
  listed : ∀ u, r.Listed u ↔ r.listeners u ≠ []
  once : ∀ u, (r.listeners u).Nodup

theorem Tidy.entry_ne (h : r.Tidy) (hu : r.owner u = none) (s : S) (k : K) :
    r.entry s k ≠ some u := by
  intro he
  rw [h.owned s k u he] at hu
  cases hu

theorem Tidy.listeners_ne (h : r.Tidy) (he : r.entry s k = some u) : r.listeners u ≠ [] :=
  (h.listed u).mp ⟨s, k, h.owned s k u he, he⟩

theorem Tidy.listeners_of_new (h : r.Tidy) (hu : r.owner u = none) : r.listeners u = [] := by
  by_contra hl
  obtain ⟨s, k, ho, -⟩ := (h.listed u).mpr hl
  rw [hu] at ho
  cases ho

variable [DecidableEq U]

def setListeners (r : Registry S K U B) (u : U) (ls : List B) : Registry S K U B :=
  { r with listeners := Function.update r.listeners u ls }

theorem setListeners_self (ls : List B) : (r.setListeners u ls).listeners u = ls :=
  Function.update_self ..

theorem setListeners_of_ne {ls : List B} (hu : u' ≠ u) :
    (r.setListeners u ls).listeners u' = r.listeners u' := Function.update_of_ne hu ..

theorem Tidy.setListeners (h : r.Tidy) {ls : List B} (hls : ls ≠ []) (hu : r.listeners u ≠ [])
    (hn : ls.Nodup) : (r.setListeners u ls).Tidy where
  owned := h.owned
  single := h.single
  listed u' := by
    by_cases hu' : u' = u
    · subst hu'
      rw [setListeners_self]
      exact iff_of_true ((h.listed u').mpr hu) hls
    · rw [setListeners_of_ne hu']
      exact h.listed u'
  once u' := by
    by_cases hu' : u' = u
    · subst hu'
      rwa [setListeners_self]
    · rw [setListeners_of_ne hu']
      exact h.once u'

def own (r : Registry S K U B) (s : S) (u : U) : Registry S K U B :=
  { r with owner := Function.update r.owner u (some s) }

theorem Tidy.own (h : r.Tidy) (hu : r.owner u = none) (s : S) : (r.own s u).Tidy where
  owned s' k' u' he := by
    have hu' : u' ≠ u := by
      rintro rfl
      exact h.entry_ne hu s' k' he
    exact (Function.update_of_ne hu' ..).trans (h.owned s' k' u' he)
  single := h.single
  listed u' := by
    rw [show (r.own s u).listeners u' = r.listeners u' from rfl, ← h.listed u']
    constructor
    all_goals
      rintro ⟨s', k', -, he⟩
      have hu' : u' ≠ u := by
        rintro rfl
        exact h.entry_ne hu s' k' he
    · exact ⟨s', k', h.owned s' k' u' he, he⟩
    · exact ⟨s', k', (Function.update_of_ne hu' ..).trans (h.owned s' k' u' he), he⟩
  once := h.once

variable [DecidableEq S] [DecidableEq K]

def setEntry (r : Registry S K U B) (s : S) (k : K) (o : Option U) : S → K → Option U :=
  fun s' k' => if s' = s ∧ k' = k then o else r.entry s' k'

omit [DecidableEq U] in
theorem setEntry_self (o : Option U) : r.setEntry s k o s k = o := if_pos ⟨rfl, rfl⟩

omit [DecidableEq U] in
theorem setEntry_of_ne {o : Option U} (h : ¬ (s' = s ∧ k' = k)) :
    r.setEntry s k o s' k' = r.entry s' k' := if_neg h

def create (r : Registry S K U B) (s : S) (k : K) (u : U) (b : B) : Registry S K U B where
  entry := r.setEntry s k (some u)
  owner := Function.update r.owner u (some s)
  listeners := Function.update r.listeners u [b]

theorem create_listeners_self : (r.create s k u b).listeners u = [b] := Function.update_self ..

theorem create_listeners_of_ne (hu : u' ≠ u) :
    (r.create s k u b).listeners u' = r.listeners u' := Function.update_of_ne hu ..

theorem create_owner_self : (r.create s k u b).owner u = some s := Function.update_self ..

theorem create_owner_of_ne (hu : u' ≠ u) : (r.create s k u b).owner u' = r.owner u' :=
  Function.update_of_ne hu ..

theorem create_entry_iff (he : r.entry s k = none) (hu : u' ≠ u) :
    (r.create s k u b).entry s' k' = some u' ↔ r.entry s' k' = some u' := by
  change r.setEntry s k (some u) s' k' = some u' ↔ _
  by_cases hk : s' = s ∧ k' = k
  · obtain ⟨rfl, rfl⟩ := hk
    rw [setEntry_self, he]
    simp [Ne.symm hu]
  · rw [setEntry_of_ne hk]

theorem Tidy.create_entry (h : r.Tidy) (hu : r.owner u = none)
    (he : (r.create s k u b).entry s' k' = some u) : s' = s ∧ k' = k := by
  by_contra hk
  exact h.entry_ne hu s' k' ((setEntry_of_ne hk).symm.trans he)

theorem Tidy.create (h : r.Tidy) (he : r.entry s k = none) (hu : r.owner u = none) :
    (r.create s k u b).Tidy where
  owned s' k' u' hs := by
    by_cases hu' : u' = u
    · subst hu'
      rw [(h.create_entry hu hs).1, create_owner_self]
    · rw [create_owner_of_ne hu']
      exact h.owned s' k' u' ((create_entry_iff he hu').mp hs)
  single s' k' k'' u' hs hs' := by
    by_cases hu' : u' = u
    · subst hu'
      exact (h.create_entry hu hs).2.trans (h.create_entry hu hs').2.symm
    · exact h.single s' k' k'' u' ((create_entry_iff he hu').mp hs)
        ((create_entry_iff he hu').mp hs')
  listed u' := by
    by_cases hu' : u' = u
    · subst hu'
      rw [create_listeners_self]
      exact iff_of_true ⟨s, k, create_owner_self, setEntry_self _⟩ (List.cons_ne_nil _ _)
    · unfold Listed
      rw [create_listeners_of_ne hu', create_owner_of_ne hu', ← h.listed u']
      simp only [create_entry_iff he hu']
      rfl
  once u' := by
    by_cases hu' : u' = u
    · subst hu'
      rw [create_listeners_self]
      exact List.nodup_singleton b
    · rw [create_listeners_of_ne hu']
      exact h.once u'

def drop (r : Registry S K U B) (s : S) (k : K) (u : U) : Registry S K U B where
  entry := r.setEntry s k none
  owner := r.owner
  listeners := Function.update r.listeners u []

theorem drop_listeners_self : (r.drop s k u).listeners u = [] := Function.update_self ..

theorem drop_listeners_of_ne (hu : u' ≠ u) : (r.drop s k u).listeners u' = r.listeners u' :=
  Function.update_of_ne hu ..

theorem drop_entry_iff : (r.drop s k u).entry s' k' = some u' ↔
    r.entry s' k' = some u' ∧ ¬ (s' = s ∧ k' = k) := by
  change r.setEntry s k none s' k' = some u' ↔ _
  by_cases hk : s' = s ∧ k' = k
  · obtain ⟨rfl, rfl⟩ := hk
    rw [setEntry_self]
    simp
  · rw [setEntry_of_ne hk, and_iff_left hk]

theorem Tidy.drop (h : r.Tidy) (he : r.entry s k = some u) : (r.drop s k u).Tidy where
  owned s' k' u' hs := h.owned s' k' u' (drop_entry_iff.mp hs).1
  single s' k' k'' u' hs hs' :=
    h.single s' k' k'' u' (drop_entry_iff.mp hs).1 (drop_entry_iff.mp hs').1
  listed u' := by
    unfold Listed
    simp only [drop_entry_iff]
    by_cases hu' : u' = u
    · subst hu'
      rw [drop_listeners_self]
      refine iff_of_false ?_ (fun hn => hn rfl)
      rintro ⟨s', k', -, hs, hne⟩
      obtain rfl := Option.some.inj ((h.owned s' k' u' hs).symm.trans (h.owned s k u' he))
      exact hne ⟨rfl, h.single s' k' k u' hs he⟩
    · rw [drop_listeners_of_ne hu', ← h.listed u']
      constructor
      · rintro ⟨s', k', ho, hs, -⟩
        exact ⟨s', k', ho, hs⟩
      · rintro ⟨s', k', ho, hs⟩
        refine ⟨s', k', ho, hs, ?_⟩
        rintro ⟨rfl, rfl⟩
        exact hu' (Option.some.inj (hs.symm.trans he))
  once u' := by
    by_cases hu' : u' = u
    · subst hu'
      rw [drop_listeners_self]
      exact List.nodup_nil
    · rw [drop_listeners_of_ne hu']
      exact h.once u'

end Registry

end RmdsBridge
