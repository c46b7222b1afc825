import Mathlib.Data.Rat.Defs
import Mathlib.Tactic.Common

namespace RmdsBridge

/-- The hint of a real: `exponent e` runs from `RSSL_RH_EXPONENT_14` to `RSSL_RH_EXPONENT7`, the power
of ten being `e - 14`; `fraction k` from `RSSL_RH_FRACTION_1` to `RSSL_RH_FRACTION_256`, over `2 ^ k`. -/
inductive RsslRealHints
  | exponent (e : Fin 22)
  | fraction (k : Fin 9)
  | infinity
  | negInfinity
  | notANumber
  deriving DecidableEq, Repr

abbrev RsslRealHints.exponent0 : RsslRealHints := .exponent 14

structure RsslReal where
  value : ℤ
  hint : RsslRealHints
  deriving DecidableEq, Repr

/-- The number a real stands for; the special hints stand for none. -/
def RsslReal.toRat (r : RsslReal) : Option ℚ :=
  match r.hint with
  | .exponent e => some (r.value * 10 ^ (e : ℕ) / 10 ^ 14)
  | .fraction k => some (r.value / 2 ^ (k : ℕ))
  | .infinity | .negInfinity | .notANumber => none

inductive RsslPrimitive
  | real (r : RsslReal)
  | int (z : ℤ)
  | uint (n : ℕ)
  | enum (n : ℕ)
  | buffer (s : String)
  | blank
  deriving DecidableEq, Repr

def RsslPrimitive.isReal : RsslPrimitive → Bool
  | .real _ => true
  | .int _ | .uint _ | .enum _ | .buffer _ | .blank => false

structure RsslFieldEntry where
  fieldId : ℕ
  data : RsslPrimitive
  deriving DecidableEq, Repr

inductive RsslMapEntryAction
  | update
  | add
  | delete
  deriving DecidableEq, Repr

structure RsslMapEntry where
  action : RsslMapEntryAction
  key : String
  fields : List RsslFieldEntry
  deriving DecidableEq, Repr

end RmdsBridge
