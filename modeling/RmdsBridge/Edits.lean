import Mathlib.Data.Finset.Basic
import Mathlib.Logic.Function.Basic
import Mathlib.Tactic.Common

namespace RmdsBridge

inductive Edit (α : Type*)
  | insert (a : α)
  | touch (a : α)
  | erase (a : α)
  | skip

namespace Edit

variable {α : Type*} [DecidableEq α]

def effect : Edit α → Finset α → Finset α
  | .insert a, s => Insert.insert a s
  | .erase a, s => s.erase a
  | .touch _, s | .skip, s => s

def Fits : Edit α → Finset α → Prop
  | .insert a, s => a ∉ s
  | .touch a, s | .erase a, s => a ∈ s
  | .skip, _ => True

instance : ∀ (e : Edit α) (s : Finset α), Decidable (e.Fits s)
  | .insert a, s => inferInstanceAs (Decidable (a ∉ s))
  | .touch a, s | .erase a, s => inferInstanceAs (Decidable (a ∈ s))
  | .skip, _ => inferInstanceAs (Decidable True)

def replay : Finset α → List (Edit α) → Option (Finset α)
  | s, [] => some s
  | s, e :: es => if e.Fits s then replay (e.effect s) es else none

@[simp] theorem replay_nil (s : Finset α) : replay s [] = some s := rfl

theorem replay_append (s : Finset α) (es fs : List (Edit α)) :
    replay s (es ++ fs) = (replay s es).bind fun t => replay t fs := by
  induction es generalizing s with
  | nil => rfl
  | cons e es ih =>
    simp only [List.cons_append, replay]
    split_ifs
    · exact ih _
    · rfl

theorem apply_injective {e : Edit α} {s t : Finset α} (hs : e.Fits s) (ht : e.Fits t)
    (h : e.effect s = e.effect t) : s = t := by
  cases e with
  | insert a => rw [← Finset.erase_insert hs, ← Finset.erase_insert ht]; exact congrArg (·.erase a) h
  | erase a => rw [← Finset.insert_erase hs, ← Finset.insert_erase ht]; exact congrArg (Insert.insert a) h
  | touch a | skip => exact h

theorem replay_injective {s t u : Finset α} {es : List (Edit α)} (hs : replay s es = some u)
    (ht : replay t es = some u) : s = t := by
  induction es generalizing s t with
  | nil => exact Option.some.inj (hs.trans ht.symm)
  | cons e es ih =>
    simp only [replay, Option.ite_none_right_eq_some] at hs ht
    exact apply_injective hs.1 ht.1 (ih hs.2 ht.2)

end Edit

section Keyed

variable {K V ι : Type*} [DecidableEq K]

def foldKeyed (key : ι → K) (act : ι → Option V → Option (Option V)) (c : K → Option V)
    (items : List ι) : Option (K → Option V) :=
  items.foldlM (fun c i => (act i (c (key i))).map (Function.update c (key i))) c

theorem foldKeyed_eq_some {key : ι → K} {items : List ι}
    (act : ι → Option V → Option (Option V)) (g : ι → Option V)
    (hd : items.Pairwise fun i j => key i ≠ key j) (c : K → Option V)
    (hg : ∀ i ∈ items, act i (c (key i)) = some (g i)) :
    ∃ c', foldKeyed key act c items = some c' ∧ (∀ i ∈ items, c' (key i) = g i) ∧
      ∀ k, (∀ i ∈ items, key i ≠ k) → c' k = c k := by
  induction items generalizing c with
  | nil => exact ⟨c, rfl, by simp, fun _ _ => rfl⟩
  | cons i items ih =>
    obtain ⟨hi, hd⟩ := List.pairwise_cons.mp hd
    have hact := hg i List.mem_cons_self
    obtain ⟨c', hc', hin, hout⟩ := ih hd (Function.update c (key i) (g i)) fun j hj => by
      rw [Function.update_of_ne (hi j hj).symm]
      exact hg j (List.mem_cons_of_mem _ hj)
    refine ⟨c', ?_, ?_, ?_⟩
    · unfold foldKeyed
      rw [List.foldlM_cons, hact]
      exact hc'
    · intro j hj
      rcases List.mem_cons.mp hj with rfl | hj
      · rw [hout _ fun k hk => (hi k hk).symm, Function.update_self]
      · exact hin j hj
    · intro k hk
      rw [hout k fun j hj => hk j (List.mem_cons_of_mem _ hj),
        Function.update_of_ne (hk i List.mem_cons_self).symm]

theorem foldKeyed_acts {key : ι → K} {items : List ι} {act : ι → Option V → Option (Option V)}
    (hd : items.Pairwise fun i j => key i ≠ key j) {c c' : K → Option V}
    (hc : foldKeyed key act c items = some c') :
    (∀ i ∈ items, act i (c (key i)) = some (c' (key i))) ∧
      ∀ k, (∀ i ∈ items, key i ≠ k) → c' k = c k := by
  induction items generalizing c with
  | nil =>
    obtain rfl := Option.some.inj hc
    exact ⟨by simp, fun _ _ => rfl⟩
  | cons i items ih =>
    obtain ⟨hi, hd⟩ := List.pairwise_cons.mp hd
    unfold foldKeyed at hc
    rw [List.foldlM_cons] at hc
    obtain ⟨c₁, hfirst, hrest⟩ := Option.bind_eq_some_iff.mp hc
    obtain ⟨o, ho, rfl⟩ := Option.map_eq_some_iff.mp hfirst
    obtain ⟨hin, hout⟩ := ih hd hrest
    constructor
    · intro j hj
      rcases List.mem_cons.mp hj with rfl | hj
      · rw [ho, hout _ fun k hk => (hi k hk).symm, Function.update_self]
      · rw [← hin j hj, Function.update_of_ne (hi j hj).symm]
    · intro k hk
      rw [hout k fun j hj => hk j (List.mem_cons_of_mem _ hj),
        Function.update_of_ne (hk i List.mem_cons_self).symm]

theorem foldKeyed_map {κ : Type*} (h : κ → ι) (key : ι → K)
    (act : ι → Option V → Option (Option V)) (c : K → Option V) (items : List κ) :
    foldKeyed key act c (items.map h) = foldKeyed (key ∘ h) (act ∘ h) c items :=
  List.foldlM_map ..

end Keyed

end RmdsBridge
