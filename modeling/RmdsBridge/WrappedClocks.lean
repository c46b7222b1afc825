import Mathlib.Algebra.Order.Group.Nat
import Mathlib.Tactic.Common

namespace RmdsBridge.WrappedClocks

def reading (period t : ℕ) : ℕ := t % period

variable {period start now : ℕ}

theorem reading_lt (hp : 0 < period) (t : ℕ) : reading period t < period := Nat.mod_lt t hp

theorem reading_same (hle : start ≤ now) (hsame : now / period = start / period) :
    reading period start ≤ reading period now ∧
      reading period now - reading period start = now - start := by
  have hstart := Nat.div_add_mod start period
  have hnow := Nat.div_add_mod now period
  unfold reading
  rw [hsame] at hnow
  omega

theorem div_eq_or_succ (hle : start ≤ now) (hlt : now < start + period) :
    now / period = start / period ∨ now / period = start / period + 1 := by
  have hp : 0 < period := by omega
  have hmono : start / period ≤ now / period := Nat.div_le_div_right hle
  have hnext : now / period ≤ (start + period) / period := Nat.div_le_div_right hlt.le
  rw [Nat.add_div_right start hp] at hnext
  omega

theorem reading_rolled (hle : start ≤ now) (hlt : now < start + period)
    (hrolled : now / period ≠ start / period) :
    reading period now < reading period start ∧
      reading period now + period - reading period start = now - start := by
  have hsucc := (div_eq_or_succ hle hlt).resolve_left hrolled
  have hstart := Nat.div_add_mod start period
  have hnow := Nat.div_add_mod now period
  rw [hsucc, Nat.mul_succ] at hnow
  unfold reading
  omega

theorem elapsed_iff (hle : start ≤ now) (hlt : now < start + period) (d : ℕ) :
    (reading period start < reading period now ∧ d < reading period now - reading period start) ↔
      start + d < now ∧ now / period = start / period := by
  by_cases hsame : now / period = start / period
  · obtain ⟨hmono, hgap⟩ := reading_same hle hsame
    omega
  · obtain ⟨hback, -⟩ := reading_rolled hle hlt hsame
    omega

end RmdsBridge.WrappedClocks
