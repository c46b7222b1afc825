import RmdsBridge.EnumCodec
import RmdsBridge.TextTokens

namespace RmdsBridge

open Numerals TextTokens

structure Retrysched where
  delay : UInt32 := 0
  retry : UInt32 := 1
  deriving DecidableEq, Repr

structure Host where
  host : List Char := []
  port : List Char := ['8', '0']
  deriving DecidableEq, Repr

/-- `none` is false, with which the result is not read. -/
def parseRetryschedItem (s : List Char) (default : Retrysched) : Option Retrysched :=
  match strtokAll [['('], [')'], []] (cString s) with
  | [delay] => do
    let delay ← lexicalCastUInt32 delay
    return ⟨delay, default.retry⟩
  | [delay, retry] => do
    let delay ← lexicalCastUInt32 delay
    let retry ← lexicalCastUInt32 retry
    return ⟨delay, retry⟩
  | _ => none

def parseHostItem (s : List Char) (default : Host) : Option Host :=
  match strtokAll [[':'], [':'], [':']] (cString s) with
  | [host] => some ⟨host, default.port⟩
  | [host, port] => some ⟨host, port⟩
  | _ => none

/-- The grammar of a retry schedule item. -/
inductive RetryItem (default : Retrysched) : List Char → Retrysched → Prop
  | delay (ds : List Char) (h : IsNumeral ds) (hlt : Nat.ofDigitChars 10 ds 0 < 2 ^ 32) :
    RetryItem default ds ⟨UInt32.ofNat (Nat.ofDigitChars 10 ds 0), default.retry⟩
  | both (ds rs : List Char) (h : IsNumeral ds) (hlt : Nat.ofDigitChars 10 ds 0 < 2 ^ 32)
    (hr : IsNumeral rs) (hrlt : Nat.ofDigitChars 10 rs 0 < 2 ^ 32) :
    RetryItem default (ds ++ '(' :: (rs ++ [')']))
      ⟨UInt32.ofNat (Nat.ofDigitChars 10 ds 0), UInt32.ofNat (Nat.ofDigitChars 10 rs 0)⟩

inductive HostItem (default : Host) : List Char → Host → Prop
  | host (h : List Char) (hne : h ≠ []) (hh : ':' ∉ h) : HostItem default h ⟨h, default.port⟩
  | both (h p : List Char) (hne : h ≠ []) (hh : ':' ∉ h) (pne : p ≠ []) (hp : ':' ∉ p) :
    HostItem default (h ++ ':' :: p) ⟨h, p⟩

inductive RetryRest
  | nothing
  | bracket (closing : ℕ)
  | retry (closing : ℕ) (number : List Char) (closed : Bool)

structure RetryText where
  opening : ℕ
  delay : List Char
  rest : RetryRest

def RetryRest.text : RetryRest → List Char
  | .nothing => []
  | .bracket closing => '(' :: List.replicate closing ')'
  | .retry closing number closed =>
    '(' :: (List.replicate closing ')' ++ (number ++ if closed then [')'] else []))

namespace RetryText

def text (t : RetryText) : List Char := List.replicate t.opening '(' ++ (t.delay ++ t.rest.text)

def value (t : RetryText) (default : Retrysched) : Option Retrysched :=
  match t.rest with
  | .nothing | .bracket _ => do
    let delay ← lexicalCastUInt32 t.delay
    return ⟨delay, default.retry⟩
  | .retry _ number _ => do
    let delay ← lexicalCastUInt32 t.delay
    let retry ← lexicalCastUInt32 number
    return ⟨delay, retry⟩

def Exact (t : RetryText) : Prop :=
  t.opening = 0 ∧ IsNumeral t.delay ∧
    match t.rest with
    | .nothing => True
    | .bracket _ => False
    | .retry closing number closed => closing = 0 ∧ IsNumeral number ∧ closed = true

end RetryText

def RetrySlip (s : List Char) : Prop :=
  ∃ t : RetryText, t.text = cString s ∧ (t.value {}).isSome ∧ (¬ t.Exact ∨ '\x00' ∈ s)

inductive HostRest
  | nothing (trailing : ℕ)
  | port (between : ℕ) (name : List Char) (trailing : ℕ)

structure HostText where
  leading : ℕ
  host : List Char
  rest : HostRest

def HostRest.text : HostRest → List Char
  | .nothing trailing => List.replicate trailing ':'
  | .port between name trailing =>
    List.replicate (between + 1) ':' ++ (name ++ List.replicate trailing ':')

namespace HostText

def text (t : HostText) : List Char := List.replicate t.leading ':' ++ (t.host ++ t.rest.text)

def value (t : HostText) (default : Host) : Host :=
  match t.rest with
  | .nothing _ => ⟨t.host, default.port⟩
  | .port _ name _ => ⟨t.host, name⟩

def Parts (t : HostText) : Prop :=
  (t.host ≠ [] ∧ ':' ∉ t.host) ∧
    match t.rest with
    | .nothing _ => True
    | .port _ name _ => name ≠ [] ∧ ':' ∉ name

def Exact (t : HostText) : Prop :=
  t.leading = 0 ∧
    match t.rest with
    | .nothing trailing => trailing = 0
    | .port between _ trailing => between = 0 ∧ trailing = 0

end HostText

def HostSlip (s : List Char) : Prop :=
  (∃ t : HostText, t.Parts ∧ t.text = cString s ∧ (¬ t.Exact ∨ '\x00' ∈ s)) ∨
    ('\x00' ∈ s ∧ ∃ default r, HostItem default s r)

theorem numeral_not_mem {ds : List Char} (h : IsNumeral ds) {c : Char} (hc : c.isDigit = false) : c ∉ ds :=
  fun hm => Bool.noConfusion ((h.2 c hm).symm.trans hc)

theorem splitSign_cases (s : List Char) :
    splitSign s = (false, s) ∨ ∃ b c, (c = '-' ∨ c = '+') ∧ ∃ ds, s = c :: ds ∧ splitSign s = (b, ds) := by
  unfold splitSign
  split
  · exact .inr ⟨true, '-', .inl rfl, _, rfl, rfl⟩
  · exact .inr ⟨false, '+', .inr rfl, _, rfl, rfl⟩
  · exact .inl rfl

theorem lexicalCast_chars {s : List Char} {n : UInt32} (h : lexicalCastUInt32 s = some n) {c : Char}
    (hd : c.isDigit = false) (hm : c ≠ '-') (hp : c ≠ '+') : s ≠ [] ∧ c ∉ s := by
  have hnum : IsNumeral (splitSign s).2 := by
    by_contra hn
    simp [lexicalCastUInt32, hn] at h
  rcases splitSign_cases s with hs | ⟨b, c', hc', ds, rfl, hs⟩
  · rw [hs] at hnum
    exact ⟨hnum.1, numeral_not_mem hnum hd⟩
  · rw [hs] at hnum
    refine ⟨List.cons_ne_nil _ _, fun hmem => ?_⟩
    rcases List.mem_cons.mp hmem with rfl | hmem
    · exact hc'.elim hm hp
    · exact numeral_not_mem hnum hd hmem

theorem lexicalCast_numeral {ds : List Char} (h : IsNumeral ds) :
    lexicalCastUInt32 ds = if Nat.ofDigitChars 10 ds 0 < 2 ^ 32 then
      some (UInt32.ofNat (Nat.ofDigitChars 10 ds 0)) else none := by
  have hs : splitSign ds = (false, ds) := by
    obtain ⟨c, cs, rfl⟩ := List.exists_cons_of_ne_nil h.1
    exact splitSign_digit (h.2 c List.mem_cons_self)
  simp [lexicalCastUInt32, hs, h]

theorem lexicalCast_eq_some {ds : List Char} (h : IsNumeral ds) {n : UInt32} :
    lexicalCastUInt32 ds = some n ↔
      Nat.ofDigitChars 10 ds 0 < 2 ^ 32 ∧ n = UInt32.ofNat (Nat.ofDigitChars 10 ds 0) := by
  rw [lexicalCast_numeral h]
  split_ifs with hlt
  · rw [Option.some_inj, and_iff_right hlt]
    exact eq_comm
  · exact iff_of_false (by simp) fun hn => hlt hn.1

end RmdsBridge
