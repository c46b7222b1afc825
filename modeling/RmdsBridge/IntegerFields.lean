import Mathlib.Algebra.Field.Rat
import Mathlib.Tactic.NormNum
import RmdsBridge.Rssl

namespace RmdsBridge

inductive MamaIntegerType
  | i8 | u8 | i16 | u16 | i32 | u32 | i64 | u64
  deriving DecidableEq, Repr

def MamaIntegerType.least : MamaIntegerType → ℤ
  | .u8 | .u16 | .u32 | .u64 => 0
  | .i8 => -128
  | .i16 => -32768
  | .i32 => -2147483648
  | .i64 => -9223372036854775808

def MamaIntegerType.greatest : MamaIntegerType → ℤ
  | .i8 => 127
  | .u8 => 255
  | .i16 => 32767
  | .u16 => 65535
  | .i32 => 2147483647
  | .u32 => 4294967295
  | .i64 => 9223372036854775807
  | .u64 => 18446744073709551615

structure MamaInteger where
  type : MamaIntegerType
  value : ℤ
  least_le : type.least ≤ value
  le_greatest : value ≤ type.greatest
  deriving DecidableEq

def castU16 (v : ℤ) : ℕ := (v % 65536).toNat

def castU64 (v : ℤ) : ℕ := (v % 18446744073709551616).toNat

def castI64 (v : ℤ) : ℤ := v.bmod 18446744073709551616

namespace MamaInteger

variable (f : MamaInteger)

def getU16 : Option ℕ := some (castU16 f.value)

def getU64 : Option ℕ := some (castU64 f.value)

def getI64 : Option ℤ := some (castI64 f.value)

end MamaInteger

inductive RsslDataType
  | int
  | uint
  | real
  | enum
  deriving DecidableEq, Repr

structure RsslDictionaryEntry where
  rwfType : RsslDataType
  /-- The display of an enumerated value, as `getFieldEntryEnumType` finds it. -/
  enumType : ℕ → Option String

structure UPAFieldEncoder where
  getRMDSFidFromMAMAFid : ℕ → ℤ
  entriesArray : ℤ → Option RsslDictionaryEntry

structure EncodeState where
  fields : List (ℤ × RsslPrimitive)
  encodeFail : Bool
  deriving DecidableEq, Repr

def EncodeState.rsslEncodeFieldEntry (room : EncodeState → RsslPrimitive → Bool) (s : EncodeState)
    (rmdsFid : ℤ) (data : RsslPrimitive) : EncodeState :=
  if room s data then { s with fields := s.fields ++ [(rmdsFid, data)] }
  else { s with encodeFail := true }

namespace UPAFieldEncoder

variable (c : UPAFieldEncoder) (room : EncodeState → RsslPrimitive → Bool) (s : EncodeState)

def encodeField (fid : ℕ) (f : MamaInteger) : EncodeState :=
  let rmdsFid := c.getRMDSFidFromMAMAFid fid
  if rmdsFid ≠ 0 then
    match c.entriesArray rmdsFid with
    | none => s
    | some d =>
      match d.rwfType with
      | .int =>
        match f.getI64 with
        | some intVal => s.rsslEncodeFieldEntry room rmdsFid (.int intVal)
        | none => { s with encodeFail := true }
      | .uint =>
        match f.getU64 with
        | some uintVal => s.rsslEncodeFieldEntry room rmdsFid (.uint uintVal)
        | none => { s with encodeFail := true }
      | .real =>
        match f.getI64 with
        | some intVal => s.rsslEncodeFieldEntry room rmdsFid (.real ⟨intVal, .exponent0⟩)
        | none => { s with encodeFail := true }
      | .enum =>
        match f.getU16 with
        | some enumVal =>
          -- the value is looked up after it has been cut to 16 bits
          if (d.enumType enumVal).isSome then s.rsslEncodeFieldEntry room rmdsFid (.enum enumVal)
          else s
        | none => { s with encodeFail := true }
  else s

end UPAFieldEncoder

def RsslPrimitive.toRat : RsslPrimitive → Option ℚ
  | .int z => some z
  | .uint n | .enum n => some n
  | .real r => r.toRat
  | .buffer _ | .blank => none

def UPAFieldEncoder.Faithful (c : UPAFieldEncoder) (fid : ℕ) (f : MamaInteger) : Prop :=
  ∀ room s rmdsFid data,
    c.encodeField room s fid f = { s with fields := s.fields ++ [(rmdsFid, data)] } →
      data.toRat = some (f.value : ℚ)

def RsslDictionaryEntry.Takes (d : RsslDictionaryEntry) (v : ℤ) : Prop :=
  match d.rwfType with
  | .int | .real => v < 9223372036854775808
  | .uint => 0 ≤ v
  | .enum => (0 ≤ v ∧ v < 65536) ∨ d.enumType (castU16 v) = none

variable {c : UPAFieldEncoder} {fid : ℕ} {f : MamaInteger}

theorem MamaInteger.range (f : MamaInteger) :
    -9223372036854775808 ≤ f.value ∧ f.value < 18446744073709551616 := by
  obtain ⟨t, v, h, h'⟩ := f
  cases t <;> simp only [MamaIntegerType.least, MamaIntegerType.greatest] at h h' ⊢ <;> omega

theorem castI64_eq_iff : castI64 f.value = f.value ↔ f.value < 9223372036854775808 := by
  have := f.range
  simp only [castI64, Int.bmod_def]
  omega

theorem castU64_eq_iff : ((castU64 f.value : ℕ) : ℤ) = f.value ↔ 0 ≤ f.value := by
  have := f.range
  simp only [castU64]
  omega

theorem castU16_eq_iff {v : ℤ} : ((castU16 v : ℕ) : ℤ) = v ↔ 0 ≤ v ∧ v < 65536 := by
  simp only [castU16]
  omega

theorem faithful_iff_of_write (data : RsslPrimitive)
    (h : ∀ room s, c.encodeField room s fid f =
      s.rsslEncodeFieldEntry room (c.getRMDSFidFromMAMAFid fid) data) :
    c.Faithful fid f ↔ data.toRat = some (f.value : ℚ) := by
  constructor
  · intro hf
    apply hf (fun _ _ => true) ⟨[], false⟩ (c.getRMDSFidFromMAMAFid fid)
    simp [h, EncodeState.rsslEncodeFieldEntry]
  · intro hd room s rmdsFid data' he
    rw [h, EncodeState.rsslEncodeFieldEntry] at he
    split at he
    · simp only [EncodeState.mk.injEq, List.append_cancel_left_eq, List.cons.injEq, Prod.mk.injEq] at he
      rw [← he.1.1.2, hd]
    · simp at he

theorem faithful_of_unwritten (h : ∀ room s, c.encodeField room s fid f = s) : c.Faithful fid f := by
  intro room s rmdsFid data he
  rw [h] at he
  have := congrArg (fun t => t.fields.length) he
  simp at this

theorem toRat_exponent0 (v : ℤ) : RsslReal.toRat ⟨v, .exponent0⟩ = some (v : ℚ) := by
  have h : (10 : ℚ) ^ 14 ≠ 0 := by norm_num
  exact congrArg some (mul_div_cancel_right₀ (v : ℚ) h)

theorem natCast_toRat_iff {n : ℕ} {v : ℤ} : (some (n : ℚ) = some (v : ℚ)) ↔ (n : ℤ) = v := by
  rw [Option.some.injEq]
  exact_mod_cast Iff.rfl

theorem faithful_iff_of_entry {d : RsslDictionaryEntry} (h0 : c.getRMDSFidFromMAMAFid fid ≠ 0)
    (hd : c.entriesArray (c.getRMDSFidFromMAMAFid fid) = some d) :
    c.Faithful fid f ↔ d.Takes f.value := by
  simp only [RsslDictionaryEntry.Takes]
  cases ht : d.rwfType with
  | int =>
    rw [faithful_iff_of_write (.int (castI64 f.value)), ← castI64_eq_iff]
    · simp [RsslPrimitive.toRat]
    · simp [UPAFieldEncoder.encodeField, h0, hd, ht, MamaInteger.getI64]
  | real =>
    rw [faithful_iff_of_write (.real ⟨castI64 f.value, .exponent0⟩), ← castI64_eq_iff]
    · simp [RsslPrimitive.toRat, toRat_exponent0]
    · simp [UPAFieldEncoder.encodeField, h0, hd, ht, MamaInteger.getI64]
  | uint =>
    rw [faithful_iff_of_write (.uint (castU64 f.value)), ← castU64_eq_iff]
    · exact natCast_toRat_iff
    · simp [UPAFieldEncoder.encodeField, h0, hd, ht, MamaInteger.getU64]
  | enum =>
    cases he : d.enumType (castU16 f.value) with
    | none =>
      refine iff_of_true (faithful_of_unwritten fun room s => ?_) (Or.inr rfl)
      simp [UPAFieldEncoder.encodeField, h0, hd, ht, MamaInteger.getU16, he]
    | some display =>
      rw [faithful_iff_of_write (.enum (castU16 f.value)), ← castU16_eq_iff]
      · simp only [reduceCtorEq, or_false]
        exact natCast_toRat_iff
      · simp [UPAFieldEncoder.encodeField, h0, hd, ht, MamaInteger.getU16, he]

theorem integer_faithful_iff (c : UPAFieldEncoder) (fid : ℕ) (f : MamaInteger) :
    c.Faithful fid f ↔ ∀ d, c.getRMDSFidFromMAMAFid fid ≠ 0 →
      c.entriesArray (c.getRMDSFidFromMAMAFid fid) = some d → d.Takes f.value := by
  by_cases h0 : c.getRMDSFidFromMAMAFid fid = 0
  · refine iff_of_true (faithful_of_unwritten fun room s => ?_) (fun d h => absurd h0 h)
    simp [UPAFieldEncoder.encodeField, h0]
  · cases hd : c.entriesArray (c.getRMDSFidFromMAMAFid fid) with
    | none =>
      refine iff_of_true (faithful_of_unwritten fun room s => ?_) (by simp)
      simp [UPAFieldEncoder.encodeField, h0, hd]
    | some d =>
      rw [faithful_iff_of_entry h0 hd]
      simp [h0]

theorem minus_one_unfaithful : ¬ ∀ (c : UPAFieldEncoder) (fid : ℕ) (f : MamaInteger),
    c.Faithful fid f := by
  intro h
  have hw := h ⟨fun _ => 22, fun _ => some ⟨.uint, fun _ => none⟩⟩ 100
    ⟨.i32, -1, by decide, by decide⟩ (fun _ _ => true) ⟨[], false⟩ 22 (.uint 18446744073709551615) rfl
  exact absurd hw (by decide +kernel)

end RmdsBridge
