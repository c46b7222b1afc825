import Mathlib.Algebra.Order.Ring.Int
import Mathlib.Tactic.Ring
import Mathlib.Tactic.SplitIfs

namespace RmdsBridge.IntegerRanges

def wrap (a b z : ℤ) : ℤ := a + (z - a) % (b - a + 1)

theorem wrap_eq_iff {a b : ℤ} (hab : a ≤ b) (z : ℤ) : wrap a b z = z ↔ a ≤ z ∧ z ≤ b := by
  have hpos : 0 < b - a + 1 := by omega
  have hrest := Int.emod_nonneg (z - a) hpos.ne'
  have hlt := Int.emod_lt_of_pos (z - a) hpos
  unfold wrap
  constructor
  · intro h
    omega
  · rintro ⟨ha, hb⟩
    rw [Int.emod_eq_of_lt (by omega) (by omega)]
    omega

theorem wrap_unsigned (k : ℕ) (z : ℤ) : wrap 0 ((2 ^ k : ℕ) - 1) z = z % (2 ^ k : ℕ) := by
  unfold wrap
  rw [Int.sub_zero, Int.sub_zero, Int.zero_add, Int.sub_add_cancel]

theorem wrap_signed (k : ℕ) (z : ℤ) :
    wrap (-(2 ^ k : ℕ)) ((2 ^ k : ℕ) - 1) z = z.bmod (2 ^ (k + 1)) := by
  have hpos : 0 < 2 ^ k := Nat.two_pow_pos k
  unfold wrap
  rw [pow_succ', Int.bmod_def]
  generalize 2 ^ k = n at hpos
  have hsize : ((n : ℤ) - 1 - -(n : ℤ) + 1) = ((2 * n : ℕ) : ℤ) := by omega
  rw [hsize, sub_neg_eq_add, ← Int.emod_add_emod]
  have hr := Int.emod_nonneg z (b := ((2 * n : ℕ) : ℤ)) (by omega)
  have hlt := Int.emod_lt_of_pos z (b := ((2 * n : ℕ) : ℤ)) (by omega)
  generalize z % ((2 * n : ℕ) : ℤ) = r at hr hlt
  split_ifs with h
  · rw [Int.emod_eq_of_lt (by omega) (by omega)]
    omega
  · rw [← Int.sub_emod_right, Int.emod_eq_of_lt (by omega) (by omega)]
    omega

theorem toInt_setWidth_eq_wrap {m : ℕ} (b : BitVec m) (k : ℕ) :
    (b.setWidth (k + 1)).toInt = wrap (-(2 ^ k : ℕ)) ((2 ^ k : ℕ) - 1) b.toNat := by
  rw [wrap_signed, BitVec.toInt_setWidth]

theorem toNat_setWidth_eq_wrap {m : ℕ} (b : BitVec m) (k : ℕ) :
    ((b.setWidth k).toNat : ℤ) = wrap 0 ((2 ^ k : ℕ) - 1) b.toNat := by
  rw [wrap_unsigned, BitVec.toNat_setWidth]
  rfl

theorem toNat_setWidth_eq_wrap_toInt {m k : ℕ} (b : BitVec m) (hk : k ≤ m) :
    ((b.setWidth k).toNat : ℤ) = wrap 0 ((2 ^ k : ℕ) - 1) b.toInt := by
  have hdvd : ((2 ^ k : ℕ) : ℤ) ∣ ((2 ^ m : ℕ) : ℤ) := Int.natCast_dvd_natCast.mpr (Nat.pow_dvd_pow 2 hk)
  rw [wrap_unsigned, BitVec.toInt_eq_toNat_bmod, ← Int.emod_emod_of_dvd _ hdvd, Int.bmod_emod,
    Int.emod_emod_of_dvd _ hdvd, BitVec.toNat_setWidth]
  rfl

end RmdsBridge.IntegerRanges
