import Mathlib.Data.Stream.Init
import Mathlib.Tactic.Common

/-! Streams of passes: a block for each item of a list, and the block of the last item for ever -/

namespace RmdsBridge.PassStreams

variable {α β ι : Type}

def passes (block : ι → List α) (hne : ∀ i, block i ≠ []) : ι → List ι → Stream' α
  | i, [] => Stream'.cycle (block i) (hne i)
  | i, j :: js => block i ++ₛ passes block hne j js

def follow (block : ι → List α) (hne : ∀ i, block i ≠ []) (i : ι) : List ι → Stream' α
  | [] => passes block hne i []
  | j :: js => passes block hne j js

theorem eq_corec {σ : Type} {f : σ → α} {g : σ → σ} {s : σ → Stream' α} (hhead : ∀ c, (s c).head = f c)
    (htail : ∀ c, (s c).tail = s (g c)) (c : σ) : s c = Stream'.corec f g c := by
  apply Stream'.ext
  intro n
  induction n generalizing c with
  | zero => exact hhead c
  | succ n ih =>
    have hs : (s c).get (n + 1) = (s (g c)).get n := by rw [← htail, Stream'.get_tail]
    rw [hs, ih, Stream'.corec_eq f g c]
    rfl

section

variable {block : ι → List α} {hne : ∀ i, block i ≠ []} {i : ι} {js : List ι}

theorem passes_eq : passes block hne i js = block i ++ₛ follow block hne i js := by
  cases js with
  | nil => exact Stream'.cycle_eq (block i) (hne i)
  | cons j js => rfl

theorem passes_append (before : List ι) (j : ι) (after : List ι) :
    passes block hne i (before ++ j :: after) =
      (i :: before).flatMap block ++ₛ passes block hne j after := by
  induction before generalizing i with
  | nil => simp [passes]
  | cons k before ih =>
    rw [List.cons_append, passes, ih]
    simp only [List.flatMap_cons, Stream'.append_append_stream]

theorem get_cycle_mem {l : List α} (h : l ≠ []) (n : ℕ) : (Stream'.cycle l h).get n ∈ l := by
  induction n using Nat.strong_induction_on with
  | _ n ih =>
    rw [Stream'.cycle_eq]
    by_cases hn : n < l.length
    · rw [Stream'.get_append_left _ _ _ hn]
      exact List.getElem_mem hn
    · obtain ⟨k, rfl⟩ := Nat.exists_eq_add_of_le (Nat.le_of_not_lt hn)
      rw [Stream'.get_append_right]
      have hpos := List.length_pos_iff.mpr h
      exact ih k (by omega)

theorem passes_mem (n : ℕ) : ∃ j ∈ i :: js, (passes block hne i js).get n ∈ block j := by
  induction js generalizing i n with
  | nil => exact ⟨i, List.mem_cons_self, get_cycle_mem (hne i) n⟩
  | cons j js ih =>
    rw [passes]
    by_cases hn : n < (block i).length
    · rw [Stream'.get_append_left _ _ _ hn]
      exact ⟨i, List.mem_cons_self, List.getElem_mem hn⟩
    · obtain ⟨k, rfl⟩ := Nat.exists_eq_add_of_le (Nat.le_of_not_lt hn)
      rw [Stream'.get_append_right]
      obtain ⟨j', hj', hmem⟩ := ih k
      exact ⟨j', List.mem_cons_of_mem _ hj', hmem⟩

theorem passes_const {a : α} (h : ∀ j ∈ i :: js, ∀ x ∈ block j, x = a) :
    passes block hne i js = Stream'.const a := by
  apply Stream'.ext
  intro n
  obtain ⟨j, hj, hmem⟩ : ∃ j ∈ i :: js, (passes block hne i js).get n ∈ block j := passes_mem n
  exact h j hj _ hmem

variable {p : α → Prop} {b : ℕ}

theorem append_again {l : List α} {s : Stream' α} (hl : l.length ≤ b) (hfirst : ∃ m < b, p (s.get m))
    {k : ℕ} (hk : k < l.length) : ∃ m, k ≤ m ∧ m < k + 2 * b ∧ p ((l ++ₛ s).get m) := by
  obtain ⟨m, hm, hp⟩ := hfirst
  refine ⟨l.length + m, by omega, by omega, ?_⟩
  rwa [Stream'.get_append_right]

theorem passes_again (hlength : ∀ j ∈ i :: js, (block j).length ≤ b) (hp : ∀ j ∈ i :: js, ∃ x ∈ block j, p x)
    (k : ℕ) : ∃ m, k ≤ m ∧ m < k + 2 * b ∧ p ((passes block hne i js).get m) := by
  have hfirst (j : ι) (hj : j ∈ i :: js) (s : Stream' α) : ∃ m < b, p ((block j ++ₛ s).get m) := by
    obtain ⟨x, hx, hpx⟩ := hp j hj
    obtain ⟨m, hm, rfl⟩ := List.getElem_of_mem hx
    refine ⟨m, Nat.lt_of_lt_of_le hm (hlength j hj), ?_⟩
    rwa [Stream'.get_append_left _ _ _ hm]
  induction js generalizing i k with
  | nil =>
    induction k using Nat.strong_induction_on with
    | _ k ih =>
      have hself : passes block hne i [] = block i ++ₛ follow block hne i [] := passes_eq
      by_cases hk : k < (block i).length
      · rw [hself]
        apply append_again (hlength i List.mem_cons_self) _ hk
        rw [follow, hself]
        exact hfirst i List.mem_cons_self _
      · obtain ⟨k, rfl⟩ := Nat.exists_eq_add_of_le (Nat.le_of_not_lt hk)
        have hpos := List.length_pos_iff.mpr (hne i)
        obtain ⟨m, hkm, hm, hpm⟩ := ih k (by omega)
        refine ⟨(block i).length + m, by omega, by omega, ?_⟩
        rw [hself, Stream'.get_append_right]
        exact hpm
  | cons j js ih =>
    have htail (k : ℕ) := ih (fun j' hj' => hlength j' (List.mem_cons_of_mem _ hj'))
      (fun j' hj' => hp j' (List.mem_cons_of_mem _ hj')) k
      (fun j' hj' => hfirst j' (List.mem_cons_of_mem _ hj'))
    rw [passes]
    by_cases hk : k < (block i).length
    · apply append_again (hlength i List.mem_cons_self) _ hk
      rw [passes_eq]
      exact hfirst j (List.mem_cons_of_mem _ List.mem_cons_self) _
    · obtain ⟨k, rfl⟩ := Nat.exists_eq_add_of_le (Nat.le_of_not_lt hk)
      obtain ⟨m, hkm, hm, hpm⟩ := htail k
      refine ⟨(block i).length + m, by omega, by omega, ?_⟩
      rwa [Stream'.get_append_right]

end

end RmdsBridge.PassStreams
