import Mathlib.Algebra.Order.Field.Rat
import Mathlib.Algebra.Order.Ring.Int
import Mathlib.Data.Rat.Floor
import Mathlib.Tactic.FieldSimp
import Mathlib.Tactic.NormNum
import RmdsBridge.BookRender

namespace RmdsBridge

def UPAFieldDecoder.rsslHintToMamaPrecisionTo : RsslRealHints → MamaPricePrecision
  | .exponent e =>
    if e.val = 14 then .int
    else if 14 < e.val then .unknown
    else if e.val < 4 then .pow10 10 -- EXPONENT_11 to EXPONENT_14 share the finest precision
    else .pow10 (14 - e.val)
  | .fraction k => if k.val = 0 then .pow10 1 else .pow10 k.val
  | .infinity | .negInfinity | .notANumber => .unknown

def UPAFieldEncoder.mamaPrecisionToRsslHint : MamaPricePrecision → RsslRealHints
  | .unknown => .exponent ⟨12, by omega⟩
  | .pow10 n => if h : 1 ≤ n ∧ n ≤ 10 then .exponent ⟨14 - n, by omega⟩ else .exponent0
  | .int => .exponent0
  | .div n => if h : 1 ≤ n ∧ n ≤ 8 then .fraction ⟨n, by omega⟩ else .exponent0

/-- The conversions between reals and doubles, and MAMA's validity test of a price, over rationals. -/
structure RealConversions where
  rsslRealToDouble : RsslReal → ℚ
  rsslDoubleToReal : ℚ → RsslRealHints → RsslReal
  getIsValidPrice : MamaPrice ℚ → Bool

def RsslReal.InRange (r : RsslReal) : Prop :=
  -9223372036854775808 ≤ r.value ∧ r.value < 9223372036854775808

structure RealConversions.Exact (c : RealConversions) : Prop where
  rsslRealToDouble_eq : ∀ r x, r.toRat = some x → c.rsslRealToDouble r = x
  rsslDoubleToReal_hint : ∀ x h, (c.rsslDoubleToReal x h).hint = h
  rsslDoubleToReal_eq : ∀ r x, r.toRat = some x → r.InRange → c.rsslDoubleToReal x r.hint = r
  getIsValidPrice_eq : ∀ x p, c.getIsValidPrice ⟨x, p⟩ = true

/-- The price case of `AddRsslDoubleToMsg`, for a real that is not blank. -/
def UPAFieldDecoder.addPrice (c : RealConversions) (r : RsslReal) : MamaPrice ℚ :=
  ⟨c.rsslRealToDouble r, rsslHintToMamaPrecisionTo r.hint⟩

/-- The price case of `encodeField`; `none` is a blank real. -/
def UPAFieldEncoder.encodePrice (c : RealConversions) (p : MamaPrice ℚ) : Option RsslReal :=
  if c.getIsValidPrice p then
    some (c.rsslDoubleToReal p.value (mamaPrecisionToRsslHint p.precision))
  else none

def priceRoundTrip (c : RealConversions) (r : RsslReal) : Option RsslReal :=
  UPAFieldEncoder.encodePrice c (UPAFieldDecoder.addPrice c r)

def RsslRealHints.encoded (h : RsslRealHints) : RsslRealHints :=
  UPAFieldEncoder.mamaPrecisionToRsslHint (UPAFieldDecoder.rsslHintToMamaPrecisionTo h)

def RsslReal.ResultFits (r : RsslReal) : Prop :=
  ∀ w, RsslReal.toRat ⟨w, r.hint.encoded⟩ = r.toRat → RsslReal.InRange ⟨w, r.hint.encoded⟩

def RsslReal.TenDecimals (r : RsslReal) : Prop :=
  match r.hint with
  | .exponent e => (10 : ℤ) ^ (4 - e.val) ∣ r.value
  | .fraction _ | .infinity | .negInfinity | .notANumber => True

theorem toRat_exponent_eq_exponent {v w : ℤ} {a b : Fin 22} :
    RsslReal.toRat ⟨w, .exponent a⟩ = RsslReal.toRat ⟨v, .exponent b⟩ ↔
      w * 10 ^ a.val = v * 10 ^ b.val := by
  simp only [RsslReal.toRat, Option.some.injEq]
  rw [div_left_inj' (by norm_num)]
  exact_mod_cast Iff.rfl

theorem toRat_exponent_eq_fraction {v w : ℤ} {a : Fin 22} {k : Fin 9} :
    RsslReal.toRat ⟨w, .exponent a⟩ = RsslReal.toRat ⟨v, .fraction k⟩ ↔
      w * 10 ^ a.val * 2 ^ k.val = v * 10 ^ 14 := by
  simp only [RsslReal.toRat, Option.some.injEq]
  rw [div_eq_div_iff (by norm_num) (by positivity)]
  exact_mod_cast Iff.rfl

theorem encoded_exponent_coarse {e : Fin 22} (h : e.val < 4) :
    (RsslRealHints.exponent e).encoded = .exponent 4 := by
  have h14 : e.val ≠ 14 := by omega
  have hlt : ¬ 14 < e.val := by omega
  simp [RsslRealHints.encoded, UPAFieldDecoder.rsslHintToMamaPrecisionTo, h, h14, hlt,
    UPAFieldEncoder.mamaPrecisionToRsslHint]

theorem encoded_exponent {e : Fin 22} (h : 4 ≤ e.val) :
    ∃ a : Fin 22, (RsslRealHints.exponent e).encoded = .exponent a ∧ a ≤ e := by
  revert e
  decide

theorem encoded_fraction (k : Fin 9) : ∃ a : Fin 22, (RsslRealHints.fraction k).encoded = .exponent a ∧
    a.val + k.val ≤ 14 := by
  revert k
  decide

theorem representable_iff {r : RsslReal} {x : ℚ} (hx : r.toRat = some x) :
    (∃ w, RsslReal.toRat ⟨w, r.hint.encoded⟩ = r.toRat) ↔ r.TenDecimals := by
  obtain ⟨v, h⟩ := r
  cases h with
  | exponent e =>
    simp only [RsslReal.TenDecimals]
    by_cases he : e.val < 4
    · simp only [encoded_exponent_coarse he, toRat_exponent_eq_exponent]
      have hpow : (10 : ℤ) ^ (4 : Fin 22).val = 10 ^ (4 - e.val) * 10 ^ e.val := by
        rw [← pow_add]
        congr 1
        change 4 = _
        omega
      have hne : (10 : ℤ) ^ e.val ≠ 0 := by positivity
      constructor
      · rintro ⟨w, hw⟩
        rw [hpow, ← mul_assoc] at hw
        exact ⟨w, by rw [mul_comm, mul_right_cancel₀ hne hw]⟩
      · rintro ⟨w, rfl⟩
        exact ⟨w, by rw [hpow]; ring⟩
    · obtain ⟨a, ha, hle⟩ := encoded_exponent (Nat.le_of_not_lt he)
      simp only [ha, toRat_exponent_eq_exponent]
      have h0 : 4 - e.val = 0 := by omega
      refine iff_of_true ⟨v * 10 ^ (e.val - a.val), ?_⟩ (by simp [h0])
      rw [mul_assoc, ← pow_add, Nat.sub_add_cancel hle]
  | fraction k =>
    obtain ⟨a, ha, hle⟩ := encoded_fraction k
    simp only [ha, toRat_exponent_eq_fraction]
    refine iff_of_true ⟨v * 5 ^ k.val * 10 ^ (14 - a.val - k.val), ?_⟩ trivial
    have hpow : (10 : ℤ) ^ 14 = 10 ^ (14 - a.val - k.val) * 10 ^ a.val * (5 ^ k.val * 2 ^ k.val) :=
      calc (10 : ℤ) ^ 14 = 10 ^ (14 - a.val - k.val + a.val) * 10 ^ k.val := by
            rw [← pow_add]
            congr 1
            omega
        _ = 10 ^ (14 - a.val - k.val) * 10 ^ a.val * (5 ^ k.val * 2 ^ k.val) := by
            rw [pow_add, ← mul_pow]
            norm_num
    rw [hpow]
    ring
  | infinity => simp [RsslReal.toRat] at hx
  | negInfinity => simp [RsslReal.toRat] at hx
  | notANumber => simp [RsslReal.toRat] at hx

variable {c : RealConversions}

theorem priceRoundTrip_eq (hc : c.Exact) {r : RsslReal} {x : ℚ} (hx : r.toRat = some x) :
    priceRoundTrip c r = some (c.rsslDoubleToReal x r.hint.encoded) := by
  simp [priceRoundTrip, UPAFieldEncoder.encodePrice, UPAFieldDecoder.addPrice, hc.getIsValidPrice_eq,
    hc.rsslRealToDouble_eq r x hx, RsslRealHints.encoded]

theorem price_kept_iff (hc : c.Exact) {r : RsslReal} {x : ℚ} (hx : r.toRat = some x)
    (hf : r.ResultFits) : (priceRoundTrip c r).bind RsslReal.toRat = some x ↔ r.TenDecimals := by
  rw [priceRoundTrip_eq hc hx, Option.bind_some, ← representable_iff hx]
  constructor
  · intro h
    have hh := hc.rsslDoubleToReal_hint x r.hint.encoded
    cases hd : c.rsslDoubleToReal x r.hint.encoded with
    | mk w g =>
      rw [hd] at h hh
      subst hh
      exact ⟨w, h.trans hx.symm⟩
  · rintro ⟨w, hw⟩
    have he := hc.rsslDoubleToReal_eq ⟨w, r.hint.encoded⟩ x (hw.trans hx) (hf w hw)
    rw [he, hw, hx]

def nearestConversions : RealConversions where
  rsslRealToDouble r := r.toRat.getD 0
  rsslDoubleToReal x h := ⟨⌊x / (RsslReal.toRat ⟨1, h⟩).getD 1 + 1 / 2⌋, h⟩
  getIsValidPrice _ := true

theorem nearestConversions_exact : nearestConversions.Exact where
  rsslRealToDouble_eq r x hx := by simp [nearestConversions, hx]
  rsslDoubleToReal_hint _ _ := rfl
  rsslDoubleToReal_eq r x hx _ := by
    obtain ⟨v, h⟩ := r
    have hx' : x / (RsslReal.toRat ⟨1, h⟩).getD 1 = v := by
      cases h with
      | exponent e =>
        simp only [RsslReal.toRat, Option.some.injEq] at hx
        simp only [RsslReal.toRat, Option.getD_some, ← hx]
        field_simp
        simp
      | fraction k =>
        simp only [RsslReal.toRat, Option.some.injEq] at hx
        simp only [RsslReal.toRat, Option.getD_some, ← hx]
        field_simp
        simp
      | infinity => simp [RsslReal.toRat] at hx
      | negInfinity => simp [RsslReal.toRat] at hx
      | notANumber => simp [RsslReal.toRat] at hx
    have hv : ⌊(v : ℚ) + 1 / 2⌋ = v := by
      rw [Int.floor_eq_iff]
      norm_num
    simp only [nearestConversions, hx', hv]
  getIsValidPrice_eq _ _ := rfl

theorem price_in_256ths_kept :
    (priceRoundTrip nearestConversions ⟨114, .fraction 8⟩).bind RsslReal.toRat = some (114 / 2 ^ 8) :=
  (price_kept_iff (r := ⟨114, .fraction 8⟩) nearestConversions_exact rfl (by
    intro w hw
    have hw' : w * 10 ^ 6 * 2 ^ 8 = 114 * 10 ^ 14 := toRat_exponent_eq_fraction.mp hw
    constructor <;> simp only <;> omega)).mpr trivial

theorem eleventh_decimal_lost : ¬ ∀ r : RsslReal, r.toRat.isSome → r.ResultFits →
    (priceRoundTrip nearestConversions r).bind RsslReal.toRat = r.toRat := by
  intro h
  have hf : RsslReal.ResultFits ⟨1, .exponent 3⟩ := by
    intro w hw
    have hw' : w * 10 ^ 4 = 1 * 10 ^ 3 := toRat_exponent_eq_exponent.mp hw
    omega
  exact absurd (h _ rfl hf) (by decide +kernel)

end RmdsBridge
