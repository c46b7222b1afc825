import Mathlib.Algebra.Ring.Nat
import Mathlib.Data.List.Infix
import Mathlib.Tactic.Common

namespace RmdsBridge.Runs

variable {σ α : Type*}

def run (step : σ → α → σ) (s : σ) (as : List α) : σ := as.foldl step s

def Guarded (step : σ → α → σ) (ok : σ → α → Prop) : σ → List α → Prop
  | _, [] => True
  | s, a :: as => ok s a ∧ Guarded step ok (step s a) as

def Always (step : σ → α → σ) (P : σ → Prop) : σ → List α → Prop
  | s, [] => P s
  | s, a :: as => P s ∧ Always step P (step s a) as

def Sometime (step : σ → α → σ) (p : σ → α → Prop) : σ → List α → Prop
  | _, [] => False
  | s, a :: as => p s a ∨ Sometime step p (step s a) as

def total (step : σ → α → σ) (f : σ → α → ℕ) : σ → List α → ℕ
  | _, [] => 0
  | s, a :: as => f s a + total step f (step s a) as

instance Guarded.decidable (step : σ → α → σ) (ok : σ → α → Prop) [∀ s a, Decidable (ok s a)] :
    ∀ (s : σ) (as : List α), Decidable (Guarded step ok s as)
  | _, [] => inferInstanceAs (Decidable True)
  | s, a :: as =>
    have := Guarded.decidable step ok (step s a) as
    inferInstanceAs (Decidable (ok s a ∧ Guarded step ok (step s a) as))

instance Sometime.decidable (step : σ → α → σ) (p : σ → α → Prop) [∀ s a, Decidable (p s a)] :
    ∀ (s : σ) (as : List α), Decidable (Sometime step p s as)
  | _, [] => inferInstanceAs (Decidable False)
  | s, a :: as =>
    have := Sometime.decidable step p (step s a) as
    inferInstanceAs (Decidable (p s a ∨ Sometime step p (step s a) as))

instance Always.decidable (step : σ → α → σ) (P : σ → Prop) [DecidablePred P] :
    ∀ (s : σ) (as : List α), Decidable (Always step P s as)
  | s, [] => inferInstanceAs (Decidable (P s))
  | s, a :: as =>
    have := Always.decidable step P (step s a) as
    inferInstanceAs (Decidable (P s ∧ Always step P (step s a) as))

variable {step : σ → α → σ} {ok : σ → α → Prop} {P I : σ → Prop} {s : σ} {as : List α}

@[simp] theorem run_nil : run step s [] = s := rfl

@[simp] theorem run_cons (a : α) : run step s (a :: as) = run step (step s a) as := rfl

theorem run_append (bs : List α) : run step s (as ++ bs) = run step (run step s as) bs :=
  List.foldl_append

theorem run_inv (hstep : ∀ s a, I s → I (step s a)) (h0 : I s) : I (run step s as) := by
  induction as generalizing s with
  | nil => exact h0
  | cons a as ih => exact ih (hstep s a h0)

theorem Always.head (h : Always step P s as) : P s := by
  cases as with
  | nil => exact h
  | cons a as => exact h.1

theorem always_iff_run : Always step P s as ↔ ∀ bs, bs <+: as → P (run step s bs) := by
  induction as generalizing s with
  | nil => simp [Always]
  | cons a as ih =>
    simp only [Always, ih]
    constructor
    · rintro ⟨hs, h⟩ bs hb
      cases bs with
      | nil => exact hs
      | cons b bs =>
        obtain ⟨rfl, hbs⟩ := List.cons_prefix_cons.mp hb
        exact h bs hbs
    · intro h
      refine ⟨h [] List.nil_prefix, fun bs hb => ?_⟩
      exact h (a :: bs) (List.cons_prefix_cons.mpr ⟨rfl, hb⟩)

theorem Always.mono {Q : σ → Prop} (h : Always step P s as) (hPQ : ∀ s, P s → Q s) :
    Always step Q s as :=
  always_iff_run.mpr fun bs hb => hPQ _ (always_iff_run.mp h bs hb)

theorem Guarded.append {bs : List α} (h : Guarded step ok s (as ++ bs)) :
    Guarded step ok s as ∧ Guarded step ok (run step s as) bs := by
  induction as generalizing s with
  | nil => exact ⟨trivial, h⟩
  | cons a as ih => exact ⟨⟨h.1, (ih h.2).1⟩, (ih h.2).2⟩

theorem Guarded.always (hstep : ∀ s a, I s → ok s a → I (step s a)) (h0 : I s)
    (h : Guarded step ok s as) : Always step I s as := by
  induction as generalizing s with
  | nil => exact h0
  | cons a as ih => exact ⟨h0, ih (hstep s a h0 h.1) h.2⟩

theorem Guarded.run_inv (hstep : ∀ s a, I s → ok s a → I (step s a)) (h0 : I s)
    (h : Guarded step ok s as) : I (run step s as) :=
  always_iff_run.mp (h.always hstep h0) as (List.prefix_refl as)

theorem Guarded.imp {ok' : σ → α → Prop} (hstep : ∀ s a, I s → ok s a → I (step s a))
    (himp : ∀ s a, I s → ok s a → ok' s a) (h0 : I s) (h : Guarded step ok s as) :
    Guarded step ok' s as := by
  induction as generalizing s with
  | nil => trivial
  | cons a as ih => exact ⟨himp s a h0 h.1, ih (hstep s a h0 h.1) h.2⟩

theorem Guarded.of_forall (h : ∀ a ∈ as, ∀ s, ok s a) : Guarded step ok s as := by
  induction as generalizing s with
  | nil => trivial
  | cons a as ih => exact ⟨h a List.mem_cons_self s, ih fun b hb => h b (List.mem_cons_of_mem a hb)⟩

/-- A weight pays for the work of the steps, and only so much is put on it from outside. -/
theorem total_add_le {w : σ → ℕ} {work : σ → α → ℕ} {gain : α → ℕ}
    (hstep : ∀ s a, work s a + w (step s a) ≤ w s + gain a) (s : σ) (as : List α) :
    total step work s as + w (run step s as) ≤ w s + (as.map gain).sum := by
  induction as generalizing s with
  | nil => simp [total]
  | cons a as ih =>
    have h1 := hstep s a
    have h2 := ih (step s a)
    simp only [total, run_cons, List.map_cons, List.sum_cons]
    omega

theorem guarded_congr {ok' : σ → α → Prop} (hstep : ∀ s a, I s → ok s a → I (step s a))
    (hiff : ∀ s a, I s → (ok s a ↔ ok' s a)) (h0 : I s) :
    Guarded step ok s as ↔ Guarded step ok' s as := by
  constructor
  · exact Guarded.imp hstep (fun s a hs => (hiff s a hs).mp) h0
  · exact Guarded.imp (fun s a hs ha => hstep s a hs ((hiff s a hs).mpr ha))
      (fun s a hs => (hiff s a hs).mpr) h0

/-- When the guard is exactly what keeps `P`, a run is guarded if and only if `P` never fails. -/
theorem always_iff_guarded (hP : ∀ s, I s → P s)
    (hkeep : ∀ s a, I s → ok s a → I (step s a))
    (hbreak : ∀ s a, I s → ¬ ok s a → ¬ P (step s a)) (h0 : I s) :
    Always step P s as ↔ Guarded step ok s as := by
  constructor
  · intro h
    induction as generalizing s with
    | nil => trivial
    | cons a as ih =>
      have hok : ok s a := by
        by_contra hn
        exact hbreak s a h0 hn h.2.head
      exact ⟨hok, ih (hkeep s a h0 hok) h.2⟩
  · intro h
    exact (h.always hkeep h0).mono hP

end RmdsBridge.Runs
