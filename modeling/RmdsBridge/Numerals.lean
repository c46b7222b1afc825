import Mathlib.Algebra.Order.Ring.Int
import Mathlib.Tactic.Common

/-! Decimal numerals as the C library writes and reads them -/

namespace RmdsBridge.Numerals

def isSpace (c : Char) : Bool := c = ' ' || (9 ≤ c.toNat && c.toNat ≤ 13)

def splitSign : List Char → Bool × List Char
  | '-' :: cs => (true, cs)
  | '+' :: cs => (false, cs)
  | cs => (false, cs)

/-- A value that is out of the range of a 64-bit integer is cut to its nearest end. -/
def strtol (s : List Char) : ℤ :=
  let (negative, cs) := splitSign (s.dropWhile isSpace)
  let n : ℤ := Nat.ofDigitChars 10 (cs.takeWhile Char.isDigit) 0
  if negative then max (-n) (-2 ^ 63) else min n (2 ^ 63 - 1)

def atoi (s : List Char) : ℤ := (strtol s).bmod (2 ^ 32)

def IsNumeral (s : List Char) : Prop := s ≠ [] ∧ ∀ c ∈ s, c.isDigit = true

def padded (w n : ℕ) : List Char :=
  List.replicate (w - (Nat.toDigits 10 n).length) '0' ++ Nat.toDigits 10 n

theorem isDigit_not_space {c : Char} (h : c.isDigit = true) : isSpace c = false := by
  obtain ⟨hlo, hhi⟩ := Char.isDigit_iff_toNat.mp h
  have hzero : '0'.toNat = 48 := rfl
  have hs : c ≠ ' ' := by
    rintro rfl
    exact absurd h (by decide)
  have hwide : ¬ c.toNat ≤ 13 := by omega
  simp [isSpace, hs, hwide]

theorem splitSign_digit {c : Char} {cs : List Char} (h : c.isDigit = true) :
    splitSign (c :: cs) = (false, c :: cs) := by
  unfold splitSign
  split
  · rename_i he
    cases he
    exact absurd h (by decide)
  · rename_i he
    cases he
    exact absurd h (by decide)
  · rfl

theorem atoi_numeral {ds rest : List Char} (hd : IsNumeral ds) (hr : ∀ c ∈ rest.head?, c.isDigit = false)
    (hlt : Nat.ofDigitChars 10 ds 0 < 2 ^ 31) : atoi (ds ++ rest) = Nat.ofDigitChars 10 ds 0 := by
  obtain ⟨hne, hdigits⟩ := hd
  obtain ⟨c, cs, rfl⟩ := List.exists_cons_of_ne_nil hne
  have hc := hdigits c List.mem_cons_self
  have htake : ((c :: cs) ++ rest).takeWhile Char.isDigit = c :: cs := by
    rw [List.takeWhile_append_of_pos hdigits]
    cases rest with
    | nil => rw [List.takeWhile_nil, List.append_nil]
    | cons x rest =>
      rw [List.takeWhile_cons_of_neg (by rw [hr x rfl]; exact Bool.false_ne_true), List.append_nil]
  have hdrop : ((c :: cs) ++ rest).dropWhile isSpace = (c :: cs) ++ rest := by
    rw [List.cons_append, List.dropWhile_cons_of_neg (by rw [isDigit_not_space hc]; exact Bool.false_ne_true)]
  have hsign : splitSign ((c :: cs) ++ rest) = (false, (c :: cs) ++ rest) := splitSign_digit hc
  unfold atoi strtol
  rw [hdrop, hsign]
  dsimp only
  rw [htake, if_neg Bool.false_ne_true]
  rw [Int.min_eq_left (by omega), Int.bmod_eq_of_le (by omega) (by omega)]

theorem toDigits_isNumeral (n : ℕ) : IsNumeral (Nat.toDigits 10 n) :=
  ⟨Nat.toDigits_ne_nil, fun _ hc => Nat.isDigit_of_mem_toDigits (by decide) (by decide) hc⟩

theorem padded_isNumeral (w n : ℕ) : IsNumeral (padded w n) := by
  obtain ⟨hne, hdigits⟩ := toDigits_isNumeral n
  refine ⟨List.append_ne_nil_of_right_ne_nil _ hne, fun c hc => ?_⟩
  rcases List.mem_append.mp hc with hc | hc
  · rw [List.eq_of_mem_replicate hc]
    rfl
  · exact hdigits c hc

theorem padded_value (w n : ℕ) : Nat.ofDigitChars 10 (padded w n) 0 = n := by
  unfold padded
  rw [Nat.ofDigitChars_append, Nat.ofDigitChars_replicate_zero, Nat.mul_zero, Nat.ofDigitChars_ten_toDigits]

theorem padded_length {w n : ℕ} (h : n < 10 ^ w) (hw : 0 < w) : (padded w n).length = w := by
  have hle := (Nat.length_toDigits_le_iff (b := 10) (by decide) hw).mpr h
  rw [padded, List.length_append, List.length_replicate]
  omega

theorem atoi_padded (w : ℕ) {n : ℕ} {rest : List Char} (h : n < 2 ^ 31)
    (hr : ∀ c ∈ rest.head?, c.isDigit = false) : atoi (padded w n ++ rest) = n := by
  have hv := padded_value w n
  rw [atoi_numeral (padded_isNumeral w n) hr (by rw [hv]; exact h), hv]

theorem atoi_toDigits {n : ℕ} (h : n < 2 ^ 31) : atoi (Nat.toDigits 10 n) = n := by
  have hv := Nat.ofDigitChars_ten_toDigits (n := n)
  have hnil : ∀ c ∈ ([] : List Char).head?, c.isDigit = false := by simp
  have ha := atoi_numeral (toDigits_isNumeral n) hnil (by rw [hv]; exact h)
  rwa [List.append_nil, hv] at ha

end RmdsBridge.Numerals
