import RmdsBridge.WrappedClocks

namespace RmdsBridge

open WrappedClocks

def milliPeriod : ℕ := 0x100000 * 1000

def getMilliCount (t : ℕ) : Int32 := Int32.ofNat (t % 1000 + (t / 1000 &&& 0xfffff) * 1000)

theorem reading_milliPeriod (t : ℕ) :
    t % 1000 + (t / 1000 &&& 0xfffff) * 1000 = reading milliPeriod t := by
  have hand : t / 1000 &&& 0xfffff = t / 1000 % 0x100000 := Nat.and_two_pow_sub_one_eq_mod (t / 1000) 20
  rw [hand]
  unfold reading milliPeriod
  omega

theorem reading_lt_milliPeriod (t : ℕ) : reading milliPeriod t < milliPeriod := reading_lt (by decide) t

theorem getMilliCount_toUInt32 (t : ℕ) :
    (getMilliCount t).toUInt32.toNat = reading milliPeriod t := by
  unfold getMilliCount
  rw [reading_milliPeriod, Int32.toUInt32_ofNat']
  exact UInt32.toNat_ofNat_of_lt' ((reading_lt_milliPeriod t).trans (by decide))

end RmdsBridge
