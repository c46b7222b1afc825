import Mathlib.Tactic.Common

namespace RmdsBridge.NamedFields

variable {R N V D β : Type*}

def fill (put : R → N → D → Option R) : R → List (N × D) → R × Bool
  | r, [] => (r, true)
  | r, (n, d) :: es =>
    match put r n d with
    | some r' => fill put r' es
    | none => (r, false)

variable {put : R → N → D → Option R} {proj : R → β} {name : N} {r : R} {es : List (N × D)}

theorem fill_cons_some {n : N} {d : D} {r' : R} (h : put r n d = some r') :
    fill put r ((n, d) :: es) = fill put r' es := by
  simp [fill, h]

theorem fill_cons_none {n : N} {d : D} (h : put r n d = none) : fill put r ((n, d) :: es) = (r, false) := by
  simp [fill, h]

theorem fill_ok (hput : ∀ e ∈ es, ∀ r, (put r e.1 e.2).isSome) : (fill put r es).2 = true := by
  induction es generalizing r with
  | nil => rfl
  | cons e es ih =>
    obtain ⟨r', hr'⟩ := Option.isSome_iff_exists.mp (hput e List.mem_cons_self r)
    rw [fill_cons_some hr']
    exact ih fun e he => hput e (List.mem_cons_of_mem _ he)

theorem fill_ok_congr (hput : ∀ r₁ r₂ n d, (put r₁ n d).isSome = (put r₂ n d).isSome) (r₁ r₂ : R) :
    (fill put r₁ es).2 = (fill put r₂ es).2 := by
  induction es generalizing r₁ r₂ with
  | nil => rfl
  | cons e es ih =>
    obtain ⟨n, d⟩ := e
    have h := hput r₁ r₂ n d
    cases hp₁ : put r₁ n d with
    | none =>
      rw [hp₁, Option.isSome_none] at h
      rw [fill_cons_none hp₁, fill_cons_none (Option.not_isSome_iff_eq_none.mp (by simp [← h]))]
    | some r₁' =>
      rw [hp₁, Option.isSome_some] at h
      obtain ⟨r₂', hp₂⟩ := Option.isSome_iff_exists.mp h.symm
      rw [fill_cons_some hp₁, fill_cons_some hp₂]
      exact ih r₁' r₂'

theorem fill_frame (hkeep : ∀ e ∈ es, ∀ r r', put r e.1 e.2 = some r' → proj r' = proj r) :
    proj (fill put r es).1 = proj r := by
  induction es generalizing r with
  | nil => rfl
  | cons e es ih =>
    obtain ⟨n, d⟩ := e
    cases hp : put r n d with
    | none => rw [fill_cons_none hp]
    | some r' =>
      rw [fill_cons_some hp, ih fun e he => hkeep e (List.mem_cons_of_mem _ he)]
      exact hkeep (n, d) List.mem_cons_self r r' hp

theorem fill_congr {r₁ r₂ : R} (hframe : ∀ r n d r', put r n d = some r' → n ≠ name → proj r' = proj r)
    (hsets : ∀ d r₁ r₂ r₁' r₂', put r₁ name d = some r₁' → put r₂ name d = some r₂' → proj r₁' = proj r₂')
    (hmem : ∃ e ∈ es, e.1 = name) (h₁ : (fill put r₁ es).2 = true) (h₂ : (fill put r₂ es).2 = true) :
    proj (fill put r₁ es).1 = proj (fill put r₂ es).1 := by
  induction es generalizing r₁ r₂ with
  | nil =>
    obtain ⟨e, he, -⟩ := hmem
    cases he
  | cons e es ih =>
    obtain ⟨n, d⟩ := e
    cases hp₁ : put r₁ n d with
    | none =>
      rw [fill_cons_none hp₁] at h₁
      cases h₁
    | some r₁' =>
      cases hp₂ : put r₂ n d with
      | none =>
        rw [fill_cons_none hp₂] at h₂
        cases h₂
      | some r₂' =>
        rw [fill_cons_some hp₁] at h₁ ⊢
        rw [fill_cons_some hp₂] at h₂ ⊢
        by_cases hlater : ∃ e ∈ es, e.1 = name
        · exact ih hlater h₁ h₂
        · have hkeep : ∀ e ∈ es, ∀ r r', put r e.1 e.2 = some r' → proj r' = proj r :=
            fun e he r r' hp => hframe r e.1 e.2 r' hp fun hn => hlater ⟨e, he, hn⟩
          obtain rfl : n = name := by
            obtain ⟨e, he, hn⟩ := hmem
            rcases List.mem_cons.mp he with rfl | he
            · exact hn
            · exact absurd ⟨e, he, hn⟩ hlater
          rw [fill_frame hkeep, fill_frame hkeep]
          exact hsets d r₁ r₂ r₁' r₂' hp₁ hp₂

theorem fill_last {b : β} (hframe : ∀ r n d r', put r n d = some r' → n ≠ name → proj r' = proj r)
    (hsets : ∀ e ∈ es, e.1 = name → ∀ r r', put r e.1 e.2 = some r' → proj r' = b)
    (hmem : ∃ e ∈ es, e.1 = name) (hok : (fill put r es).2 = true) : proj (fill put r es).1 = b := by
  induction es generalizing r with
  | nil =>
    obtain ⟨e, he, -⟩ := hmem
    cases he
  | cons e es ih =>
    obtain ⟨n, d⟩ := e
    cases hp : put r n d with
    | none =>
      rw [fill_cons_none hp] at hok
      cases hok
    | some r' =>
      rw [fill_cons_some hp] at hok ⊢
      by_cases hlater : ∃ e ∈ es, e.1 = name
      · exact ih (fun e he => hsets e (List.mem_cons_of_mem _ he)) hlater hok
      · rw [fill_frame fun e he r r' hp => hframe r e.1 e.2 r' hp fun hn => hlater ⟨e, he, hn⟩]
        obtain ⟨e, he, hn⟩ := hmem
        rcases List.mem_cons.mp he with rfl | he
        · exact hsets _ List.mem_cons_self hn r r' hp
        · exact absurd ⟨e, he, hn⟩ hlater

structure Carries (value : N → Option V) (encode : V → D) (es : List (N × D)) : Prop where
  values : ∀ e ∈ es, ∀ v, value e.1 = some v → e.2 = encode v
  complete : ∀ n v, value n = some v → ∃ e ∈ es, e.1 = n

theorem carries_filterMap {value : N → Option V} {names : List N} (hnames : ∀ n v, value n = some v → n ∈ names)
    (encode : V → D) : Carries value encode (names.filterMap fun n => (value n).map fun v => (n, encode v)) := by
  constructor
  · intro e he v hv
    obtain ⟨n, -, hn⟩ := List.mem_filterMap.mp he
    obtain ⟨w, hw, rfl⟩ := Option.map_eq_some_iff.mp hn
    rw [Option.some.inj (hv.symm.trans hw)]
  · intro n v hv
    exact ⟨(n, encode v), List.mem_filterMap.mpr ⟨n, hnames n v hv, by rw [hv]; rfl⟩, rfl⟩

theorem Carries.append {value : N → Option V} {encode : V → D} (h : Carries value encode es)
    {other : List (N × D)} (hother : ∀ e ∈ other, value e.1 = none) : Carries value encode (es ++ other) := by
  constructor
  · intro e he v hv
    rcases List.mem_append.mp he with he | he
    · exact h.values e he v hv
    · rw [hother e he] at hv
      cases hv
  · intro n v hv
    obtain ⟨e, he, hn⟩ := h.complete n v hv
    exact ⟨e, List.mem_append_left _ he, hn⟩

/-- Whatever the order of the data, and whatever else is among them, the record that they carry is
read. -/
theorem fill_of_carries {value : R → N → Option V} {encode : V → D} {info : R}
    (hframe : ∀ r n d r', put r n d = some r' → ∀ m, n ≠ m → value r' m = value r m)
    (hput : ∀ r n v, value info n = some v → ∃ r', put r n (encode v) = some r' ∧ value r' n = some v)
    (hnone : ∀ r n, value info n = none → value r n = none)
    (hother : ∀ r n d, value info n = none → put r n d = some r)
    (hes : Carries (value info) encode es) :
    (fill put r es).2 = true ∧ ∀ n, value (fill put r es).1 n = value info n := by
  have hok : (fill put r es).2 = true := by
    refine fill_ok fun e he r => ?_
    cases hv : value info e.1 with
    | none => rw [hother r e.1 e.2 hv, Option.isSome_some]
    | some v =>
      obtain ⟨r', hr', -⟩ := hput r e.1 v hv
      rw [hes.values e he v hv, hr', Option.isSome_some]
  refine ⟨hok, fun n => ?_⟩
  cases hv : value info n with
  | none => exact hnone _ n hv
  | some v =>
    refine fill_last (fun r m d r' hp hne => hframe r m d r' hp n hne) (fun e he hn r r' hp => ?_)
      (hes.complete n v hv) hok
    subst hn
    obtain ⟨r'', hr'', hval⟩ := hput r e.1 v hv
    rw [hes.values e he v hv, hr''] at hp
    exact Option.some.inj hp ▸ hval

end RmdsBridge.NamedFields
