import Mathlib.Algebra.Ring.Nat
import Mathlib.Data.List.TakeWhile
import Mathlib.Tactic.Common

namespace RmdsBridge

/-- What a character array of a length holds, up to its first zero. -/
structure CharArray (n : ℕ) where
  bytes : List UInt8
  short : bytes.length < n
  noZero : 0 ∉ bytes
  deriving DecidableEq, Repr

namespace CharArray

variable {n : ℕ}

theorem ext_bytes {s t : CharArray n} (h : s.bytes = t.bytes) : s = t := by
  cases s
  cases t
  simp_all

def empty [NeZero n] : CharArray n := ⟨[], Nat.pos_of_neZero n, List.not_mem_nil⟩

def copy [NeZero n] (bs : List UInt8) : CharArray n where
  bytes := (bs.take (n - 1)).takeWhile (· ≠ 0)
  short := by
    have h1 := (List.takeWhile_sublist (fun b : UInt8 => decide (b ≠ 0)) (l := bs.take (n - 1))).length_le
    have h2 := List.length_take_le (n - 1) bs
    have h3 := Nat.pos_of_neZero n
    omega
  noZero := fun h => by simpa using List.mem_takeWhile_imp h

variable [NeZero n]

theorem copy_eq {bs : List UInt8} (hlen : bs.length < n) (h0 : 0 ∉ bs) :
    (copy bs : CharArray n) = ⟨bs, hlen, h0⟩ := by
  apply ext_bytes
  simp only [copy, List.take_of_length_le (Nat.le_sub_one_of_lt hlen)]
  exact List.takeWhile_eq_self_iff.mpr fun b hb => decide_eq_true fun hz => h0 (hz ▸ hb)

@[simp] theorem copy_bytes (t : CharArray n) : copy t.bytes = t := copy_eq t.short t.noZero

end CharArray

end RmdsBridge
