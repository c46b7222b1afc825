import Mathlib.Data.List.DropRight
import Mathlib.Data.List.TakeWhile
import RmdsBridge.Numerals

/-! Texts as the C library and boost cut them up -/

namespace RmdsBridge.TextTokens

open Numerals

-- The bounded quantifier is decided along the list; the characters could be enumerated as well.
instance : DecidablePred IsNumeral := fun s =>
  have : Decidable (∀ c ∈ s, c.isDigit = true) := List.decidableBAll (fun c => c.isDigit = true) s
  inferInstanceAs (Decidable (s ≠ [] ∧ ∀ c ∈ s, c.isDigit = true))

def trim (s : List Char) : List Char := (s.dropWhile isSpace).rdropWhile isSpace

def strtok (delimiters s : List Char) : Option (List Char × List Char) :=
  let s := s.dropWhile fun c => c ∈ delimiters
  if s = [] then none
  else some (s.takeWhile fun c => c ∉ delimiters, (s.dropWhile fun c => c ∉ delimiters).tail)

def strtokAll : List (List Char) → List Char → List (List Char)
  | [], _ => []
  | delimiters :: ds, s =>
    match strtok delimiters s with
    | none => []
    | some (tok, rest) => tok :: strtokAll ds rest

/-- `lexical_cast` to an unsigned integer: it negates a number with a minus sign. -/
def lexicalCastUInt32 (s : List Char) : Option UInt32 :=
  let (negative, ds) := splitSign s
  let n := Nat.ofDigitChars 10 ds 0
  if IsNumeral ds ∧ n < 2 ^ 32 then some (if negative then -UInt32.ofNat n else UInt32.ofNat n) else none

def lexicalCastInt32 (s : List Char) : Option ℤ :=
  let (negative, ds) := splitSign s
  let n := Nat.ofDigitChars 10 ds 0
  if IsNumeral ds ∧ (if negative then n ≤ 2 ^ 31 else n < 2 ^ 31) then some (if negative then -n else n)
  else none

def unescape (c : Char) : Option Char :=
  if c = 'n' then some '\n' else if c ∈ ['"', ',', '\\'] then some c else none

def consField (c : Char) : List (Option (List Char)) → List (Option (List Char))
  | field :: fields => field.map (c :: ·) :: fields
  | [] => []

/-- The fields one by one: the last is `none` when a backslash in it escapes nothing. -/
def readFields (inQuote : Bool) : List Char → List (Option (List Char))
  | [] => [some []]
  | ['\\'] => [none]
  | '\\' :: c :: cs =>
    match unescape c with
    | none => [none]
    | some c => consField c (readFields inQuote cs)
  | c :: cs =>
    if c = ',' ∧ ¬ inQuote then some [] :: readFields false cs
    else if c = '"' then readFields (!inQuote) cs
    else consField c (readFields inQuote cs)

def escapedListFields (s : List Char) : List (Option (List Char)) := if s = [] then [] else readFields false s

/-- The tokens of an escaped list, all of them read; `none` where one is not. -/
def escapedListTokens (s : List Char) : Option (List (List Char)) := (escapedListFields s).mapM id

theorem consField_ne_nil (c : Char) {fields : List (Option (List Char))} (h : fields ≠ []) :
    consField c fields ≠ [] := by
  cases fields with
  | nil => exact h
  | cons field fields => exact List.cons_ne_nil _ _

theorem readFields_ne_nil (inQuote : Bool) (s : List Char) : readFields inQuote s ≠ [] := by
  fun_induction readFields inQuote s with
  | case1 => exact List.cons_ne_nil _ _
  | case2 => exact List.cons_ne_nil _ _
  | case3 => exact List.cons_ne_nil _ _
  | case4 inQuote c cs c' h ih => exact consField_ne_nil c' ih
  | case5 => exact List.cons_ne_nil _ _
  | case6 inQuote cs hlast hesc hc ih => exact ih
  | case7 inQuote c cs hlast hesc hc hquote ih => exact consField_ne_nil c ih

section

variable {d : Char} {n m : ℕ} {s s' tok rest : List Char}

theorem dropWhile_replicate_append (hs : d ∉ s.head?) :
    (List.replicate n d ++ s).dropWhile (fun c => c ∈ [d]) = s := by
  rw [List.dropWhile_append_of_pos (by simp)]
  cases s with
  | nil => rfl
  | cons c s => exact List.dropWhile_cons_of_neg (by simpa [eq_comm] using hs)

theorem strtok_nil (delimiters : List Char) : strtok delimiters [] = none := rfl

theorem strtok_none (n : ℕ) : strtok [d] (List.replicate n d) = none := by
  simp [strtok]

theorem head?_of_not_mem (ht : d ∉ tok) : d ∉ tok.head? := fun h => ht (List.mem_of_mem_head? h)

theorem strtok_last (hne : tok ≠ []) (ht : d ∉ tok) :
    strtok [d] (List.replicate n d ++ tok) = some (tok, []) := by
  have hdrop := dropWhile_replicate_append (n := n) (head?_of_not_mem ht)
  have hall : ∀ c ∈ tok, (decide (c ∉ [d])) = true := by
    intro c hc
    simpa using fun hcd : c = d => ht (hcd ▸ hc)
  simp only [strtok, hdrop, if_neg hne]
  rw [List.takeWhile_eq_self_iff.mpr hall, List.dropWhile_eq_nil_iff.mpr hall]
  rfl

theorem strtok_delimited (hne : tok ≠ []) (ht : d ∉ tok) :
    strtok [d] (List.replicate n d ++ (tok ++ d :: rest)) = some (tok, rest) := by
  have hhead : d ∉ (tok ++ d :: rest).head? := by
    rw [List.head?_append_of_ne_nil _ hne]
    exact head?_of_not_mem ht
  have hdrop := dropWhile_replicate_append (n := n) hhead
  have hall : ∀ c ∈ tok, (decide (c ∉ [d])) = true := by
    intro c hc
    simpa using fun hcd : c = d => ht (hcd ▸ hc)
  simp only [strtok, hdrop]
  rw [if_neg (by simp), List.takeWhile_append_of_pos hall, List.dropWhile_append_of_pos hall,
    List.takeWhile_cons_of_neg (by simp), List.dropWhile_cons_of_neg (by simp), List.append_nil]
  rfl

theorem strtok_empty (s : List Char) : strtok [] s = if s = [] then none else some (s, []) := by
  have hdrop : s.dropWhile (fun c => decide (c ∈ ([] : List Char))) = s := by
    cases s with
    | nil => rfl
    | cons c s => exact List.dropWhile_cons_of_neg (by simp)
  have hall : ∀ c ∈ s, decide (c ∉ ([] : List Char)) = true := by simp
  simp only [strtok, hdrop, List.takeWhile_eq_self_iff.mpr hall, List.dropWhile_eq_nil_iff.mpr hall]
  rfl

theorem exists_replicate_append (d : Char) (s : List Char) :
    ∃ n t, s = List.replicate n d ++ t ∧ d ∉ t.head? := by
  induction s with
  | nil => exact ⟨0, [], rfl, by simp⟩
  | cons c s ih =>
    by_cases hc : c = d
    · obtain ⟨n, t, hs, ht⟩ := ih
      refine ⟨n + 1, t, ?_, ht⟩
      rw [hc, hs]
      rfl
    · exact ⟨0, c :: s, rfl, by simpa using hc⟩

theorem strtok_cases (d : Char) (s : List Char) :
    (∃ n, s = List.replicate n d ∧ strtok [d] s = none) ∨
      ∃ n tok rest, tok ≠ [] ∧ d ∉ tok ∧ strtok [d] s = some (tok, rest) ∧
        ((s = List.replicate n d ++ tok ∧ rest = []) ∨ s = List.replicate n d ++ (tok ++ d :: rest)) := by
  obtain ⟨n, t, rfl, ht⟩ := exists_replicate_append d s
  by_cases hd : d ∈ t
  · obtain ⟨tok, rest, rfl, htok⟩ := List.eq_append_cons_of_mem hd
    have hne : tok ≠ [] := by
      rintro rfl
      exact ht rfl
    exact .inr ⟨n, tok, rest, hne, htok, strtok_delimited hne htok, .inr rfl⟩
  · by_cases hne : t = []
    · subst hne
      refine .inl ⟨n, List.append_nil _, ?_⟩
      rw [List.append_nil]
      exact strtok_none n
    · exact .inr ⟨n, t, [], hne, hd, strtok_last hne hd, .inl ⟨rfl, rfl⟩⟩

theorem replicate_append_inj (hs : d ∉ s.head?) (hs' : d ∉ s'.head?)
    (h : List.replicate n d ++ s = List.replicate m d ++ s') : n = m ∧ s = s' := by
  induction n generalizing m with
  | zero =>
    cases m with
    | zero => exact ⟨rfl, h⟩
    | succ m =>
      obtain rfl : s = d :: (List.replicate m d ++ s') := h
      exact absurd rfl hs
  | succ n ih =>
    cases m with
    | zero =>
      obtain rfl : d :: (List.replicate n d ++ s) = s' := h
      exact absurd rfl hs'
    | succ m =>
      obtain ⟨hn, hs⟩ := ih (List.cons.inj h).2
      exact ⟨congrArg (· + 1) hn, hs⟩

theorem not_mem_head?_append (hne : tok ≠ []) (ht : d ∉ tok) (s : List Char) : d ∉ (tok ++ s).head? := by
  rw [List.head?_append_of_ne_nil _ hne]
  exact head?_of_not_mem ht

theorem replicate_ne_append (hne : tok ≠ []) (ht : d ∉ tok) (s : List Char) :
    List.replicate n d ≠ List.replicate m d ++ (tok ++ s) := by
  intro h
  rw [← List.append_nil (List.replicate n d)] at h
  obtain ⟨-, hnil⟩ := replicate_append_inj (by simp) (not_mem_head?_append hne ht s) h
  exact hne (List.append_eq_nil_iff.mp hnil.symm).1

theorem append_inj_of_not_mem {t t' : List Char} (hs : d ∉ s) (hs' : d ∉ s')
    (ht : ∀ c ∈ t.head?, c = d) (ht' : ∀ c ∈ t'.head?, c = d) (h : s ++ t = s' ++ t') : s = s' ∧ t = t' := by
  induction s generalizing s' with
  | nil =>
    cases s' with
    | nil => exact ⟨rfl, h⟩
    | cons c s' =>
      obtain rfl : t = c :: (s' ++ t') := h
      exact absurd (ht c rfl ▸ List.mem_cons_self) hs'
  | cons c s ih =>
    cases s' with
    | nil =>
      obtain rfl : c :: (s ++ t) = t' := h
      exact absurd (ht' c rfl ▸ List.mem_cons_self) hs
    | cons c' s' =>
      obtain ⟨rfl, hrest⟩ := List.cons.inj h
      obtain ⟨rfl, rfl⟩ := ih (fun hm => hs (List.mem_cons_of_mem _ hm))
        (fun hm => hs' (List.mem_cons_of_mem _ hm)) hrest
      exact ⟨rfl, rfl⟩

end

end RmdsBridge.TextTokens
