import Mathlib.Data.Nat.Find
import Mathlib.Order.Monotone.Basic
import Mathlib.Tactic.Common

/-! The proleptic Gregorian calendar, with days counted from 1 January 1970. -/

namespace RmdsBridge.Calendar

def isLeap (y : ℤ) : Bool := y % 4 = 0 ∧ (y % 100 ≠ 0 ∨ y % 400 = 0)

def yearLength (y : ℤ) : ℕ := if isLeap y then 366 else 365

def startOfYear (y : ℤ) : ℤ :=
  365 * (y - 1) + (y - 1) / 4 - (y - 1) / 100 + (y - 1) / 400 - 719162

def monthLength (leap : Bool) : ℕ → ℕ
  | 2 => if leap then 29 else 28
  | 4 | 6 | 9 | 11 => 30
  | _ => 31

def daysThrough (leap : Bool) : ℕ → ℕ
  | 0 => 0
  | m + 1 => daysThrough leap m + monthLength leap (m + 1)

structure Date where
  year : ℤ
  month : ℕ
  day : ℕ
  month_pos : 1 ≤ month
  month_le : month ≤ 12
  day_pos : 1 ≤ day
  day_le : day ≤ monthLength (isLeap year) month
  deriving DecidableEq

def Date.yearDay (d : Date) : ℕ := daysThrough (isLeap d.year) (d.month - 1) + (d.day - 1)

def Date.days (d : Date) : ℤ := startOfYear d.year + d.yearDay

theorem startOfYear_succ (y : ℤ) : startOfYear (y + 1) = startOfYear y + yearLength y := by
  by_cases hy : y % 4 = 0 ∧ (y % 100 ≠ 0 ∨ y % 400 = 0)
  · simp only [startOfYear, yearLength, isLeap, decide_eq_true hy, if_true]
    omega
  · simp only [startOfYear, yearLength, isLeap, decide_eq_false hy, Bool.false_eq_true, if_false]
    omega

theorem startOfYear_mono {y z : ℤ} (h : y ≤ z) : startOfYear y ≤ startOfYear z := by
  simp only [startOfYear]
  omega

def yearOf (n : ℤ) : ℤ :=
  let y := (n + 719162) * 400 / 146097 + 1
  if n < startOfYear y then y - 1 else if startOfYear (y + 1) ≤ n then y + 1 else y

theorem startOfYear_yearOf (n : ℤ) :
    startOfYear (yearOf n) ≤ n ∧ n < startOfYear (yearOf n + 1) := by
  simp only [yearOf]
  split_ifs with h h'
  · refine ⟨?_, by simpa using h⟩
    simp only [startOfYear] at h ⊢
    omega
  · refine ⟨h', ?_⟩
    simp only [startOfYear] at h' ⊢
    omega
  · exact ⟨by omega, by omega⟩

theorem yearOf_eq {n y : ℤ} (h : startOfYear y ≤ n) (h' : n < startOfYear (y + 1)) :
    yearOf n = y := by
  obtain ⟨h1, h2⟩ := startOfYear_yearOf n
  by_contra hne
  rcases lt_or_gt_of_ne hne with hlt | hlt
  · have := startOfYear_mono (show yearOf n + 1 ≤ y by omega)
    omega
  · have := startOfYear_mono (show y + 1 ≤ yearOf n by omega)
    omega

theorem daysThrough_mono (leap : Bool) : Monotone (daysThrough leap) :=
  monotone_nat_of_le_succ fun _ => Nat.le_add_right _ _

theorem daysThrough_twelve (y : ℤ) : daysThrough (isLeap y) 12 = yearLength y := by
  cases h : isLeap y <;> simp [daysThrough, monthLength, yearLength, h]

def monthsBefore (leap : Bool) (n : ℕ) : ℕ := Nat.findGreatest (fun m => daysThrough leap m ≤ n) 11

theorem daysThrough_monthsBefore (leap : Bool) (n : ℕ) :
    daysThrough leap (monthsBefore leap n) ≤ n :=
  Nat.findGreatest_spec (P := fun m => daysThrough leap m ≤ n) (Nat.zero_le 11) (Nat.zero_le n)

theorem lt_daysThrough_monthsBefore {leap : Bool} {n : ℕ} (h : n < daysThrough leap 12) :
    n < daysThrough leap (monthsBefore leap n + 1) := by
  by_contra hn
  have hle : monthsBefore leap n ≤ 11 := Nat.findGreatest_le 11
  rcases Nat.lt_or_ge (monthsBefore leap n) 11 with hlt | hge
  · exact Nat.findGreatest_is_greatest (Nat.lt_succ_self _) hlt (not_lt.mp hn)
  · rw [show monthsBefore leap n = 11 by omega] at hn
    exact hn h

theorem monthsBefore_eq {leap : Bool} {n m : ℕ} (hm : m ≤ 11) (h : daysThrough leap m ≤ n)
    (h' : n < daysThrough leap (m + 1)) : monthsBefore leap n = m := by
  apply le_antisymm
  · by_contra hlt
    have h1 := daysThrough_mono leap (show m + 1 ≤ monthsBefore leap n by omega)
    have h2 := daysThrough_monthsBefore leap n
    omega
  · exact Nat.le_findGreatest hm h

def Date.ofYearDay (y : ℤ) (n : ℕ) (h : n < yearLength y) : Date where
  year := y
  month := monthsBefore (isLeap y) n + 1
  day := n - daysThrough (isLeap y) (monthsBefore (isLeap y) n) + 1
  month_pos := Nat.le_add_left ..
  month_le := Nat.succ_le_succ (Nat.findGreatest_le 11)
  day_pos := Nat.le_add_left ..
  day_le := by
    have h1 := daysThrough_monthsBefore (isLeap y) n
    have h2 := lt_daysThrough_monthsBefore (h.trans_eq (daysThrough_twelve y).symm)
    simp only [daysThrough] at h2
    omega

theorem Date.yearDay_lt_daysThrough (d : Date) :
    d.yearDay < daysThrough (isLeap d.year) (d.month - 1 + 1) := by
  have h1 := d.month_pos
  have h2 := d.day_pos
  have h3 := d.day_le
  simp only [Date.yearDay, daysThrough]
  rw [Nat.sub_add_cancel h1]
  omega

theorem Date.yearDay_lt (d : Date) : d.yearDay < yearLength d.year := by
  rw [← daysThrough_twelve]
  apply d.yearDay_lt_daysThrough.trans_le
  have := d.month_le
  exact daysThrough_mono _ (by omega)

theorem Date.ofYearDay_yearDay (d : Date) : Date.ofYearDay d.year d.yearDay d.yearDay_lt = d := by
  have h1 := d.month_pos
  have h2 := d.day_pos
  have h3 := d.month_le
  have hm : monthsBefore (isLeap d.year) d.yearDay = d.month - 1 :=
    monthsBefore_eq (by omega) (Nat.le_add_right ..) d.yearDay_lt_daysThrough
  have hd : d.yearDay - daysThrough (isLeap d.year) (d.month - 1) = d.day - 1 :=
    Nat.add_sub_cancel_left ..
  have hm' : monthsBefore (isLeap d.year) d.yearDay + 1 = d.month := by omega
  have hd' : d.yearDay - daysThrough (isLeap d.year)
      (monthsBefore (isLeap d.year) d.yearDay) + 1 = d.day := by
    rw [hm]
    omega
  cases d
  simp only [Date.ofYearDay, Date.mk.injEq, true_and]
  exact ⟨hm', hd'⟩

theorem Date.ofYearDay_congr {y y' : ℤ} {n n' : ℕ} (hy : y = y') (hn : n = n') (h : n < yearLength y)
    (h' : n' < yearLength y') : Date.ofYearDay y n h = Date.ofYearDay y' n' h' := by
  subst hy
  subst hn
  rfl

theorem dayOfYear_lt (n : ℤ) : (n - startOfYear (yearOf n)).toNat < yearLength (yearOf n) := by
  obtain ⟨h, h'⟩ := startOfYear_yearOf n
  rw [startOfYear_succ] at h'
  omega

def Date.ofDays (n : ℤ) : Date :=
  Date.ofYearDay (yearOf n) (n - startOfYear (yearOf n)).toNat (dayOfYear_lt n)

theorem Date.ofDays_days (d : Date) : Date.ofDays d.days = d := by
  have hlt := d.yearDay_lt
  have hy : yearOf d.days = d.year := by
    apply yearOf_eq
    · simp only [Date.days]
      omega
    · rw [startOfYear_succ]
      simp only [Date.days]
      omega
  have hn : (d.days - startOfYear (yearOf d.days)).toNat = d.yearDay := by
    rw [hy, Date.days]
    omega
  exact (Date.ofYearDay_congr hy hn _ _).trans d.ofYearDay_yearDay

example : (Date.ofDays 10957).month = 1 ∧ (Date.ofDays 10957).year = 2000 := by decide

end RmdsBridge.Calendar
