import Mathlib.Data.List.Iterate
import Mathlib.Data.List.Nodup
import Mathlib.Logic.Function.Basic

namespace RmdsBridge.Delivery

section Keyed

variable {ι κ α : Type*} [DecidableEq κ]

def deliver (key : ι → κ) (act : α → ι → α) (rs : κ → α) (x : ι) : κ → α :=
  Function.update rs (key x) (act (rs (key x)) x)

theorem foldl_deliver (key : ι → κ) (act : α → ι → α) (xs : List ι) (rs : κ → α) (k : κ) :
    xs.foldl (deliver key act) rs k = (xs.filter (key · = k)).foldl act (rs k) := by
  induction xs generalizing rs with
  | nil => rfl
  | cons x xs ih =>
    rw [List.foldl_cons, ih]
    by_cases hx : key x = k
    · subst hx
      rw [List.filter_cons_of_pos (by simp), List.foldl_cons]
      unfold deliver
      rw [Function.update_self]
    · rw [List.filter_cons_of_neg (by simpa using hx)]
      unfold deliver
      rw [Function.update_of_ne (Ne.symm hx)]

theorem filter_broadcast (key : ι → κ) {ks : List κ} (hks : ks.Nodup) {g : κ → Option ι}
    (hg : ∀ k x, g k = some x → key x = k) (k : κ) :
    (ks.filterMap g).filter (key · = k) = if k ∈ ks then (g k).toList else [] := by
  induction ks with
  | nil => rfl
  | cons a ks ih =>
    obtain ⟨ha, hks⟩ := List.nodup_cons.mp hks
    have hrest := ih hks
    by_cases hak : a = k
    · subst hak
      rw [if_neg ha] at hrest
      rw [if_pos List.mem_cons_self]
      cases hga : g a with
      | none =>
        rw [List.filterMap_cons_none hga, hrest]
        rfl
      | some x =>
        rw [List.filterMap_cons_some hga, List.filter_cons_of_pos (by simpa using hg a x hga), hrest]
        rfl
    · have hmem : k ∈ a :: ks ↔ k ∈ ks := by simp [Ne.symm hak]
      rw [if_congr hmem rfl rfl, ← hrest]
      cases hga : g a with
      | none => rw [List.filterMap_cons_none hga]
      | some x =>
        have hx : key x ≠ k := by
          rw [hg a x hga]
          exact hak
        rw [List.filterMap_cons_some hga, List.filter_cons_of_neg (by simpa using hx)]

end Keyed

variable {σ : Type*} {next : σ → σ}

def Consecutive (next : σ → σ) (ks : List (Option σ)) : Prop :=
  ∃ a n, ks = (List.iterate next a n).map some

def LeadsTo (next : σ → σ) (ks : List (Option σ)) (k : σ) : Prop :=
  ∃ a n, ks = (List.iterate next a n).map some ∧ next^[n] a = k

theorem leadsTo_nil (k : σ) : LeadsTo next [] k := ⟨k, 0, rfl, rfl⟩

theorem LeadsTo.snoc {ks : List (Option σ)} {k : σ} (h : LeadsTo next ks k) :
    LeadsTo next (ks ++ [some k]) (next k) := by
  obtain ⟨a, n, rfl, rfl⟩ := h
  refine ⟨a, n + 1, ?_, Function.iterate_succ_apply' next n a⟩
  rw [List.iterate_add, List.map_append]
  rfl

theorem LeadsTo.split {ks ks' : List (Option σ)} {k : σ} (h : LeadsTo next (ks ++ ks') k) :
    Consecutive next ks ∧ LeadsTo next ks' k := by
  obtain ⟨a, n, he, rfl⟩ := h
  have hn : n = ks.length + ks'.length := by
    have hlength := congrArg List.length he
    rw [List.length_append, List.length_map, List.length_iterate] at hlength
    exact hlength.symm
  rw [hn, List.iterate_add, List.map_append] at he
  obtain ⟨hl, hr⟩ := List.append_inj he (by rw [List.length_map, List.length_iterate])
  refine ⟨⟨a, _, hl⟩, _, _, hr, ?_⟩
  rw [hn, Nat.add_comm, Function.iterate_add_apply]

end RmdsBridge.Delivery
