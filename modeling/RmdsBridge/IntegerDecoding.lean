import RmdsBridge.FieldTypes
import RmdsBridge.IntegerFields
import RmdsBridge.IntegerRanges

namespace RmdsBridge

open FieldTypes

namespace UPADecodeUtils

def dateTimeFromMidnightMs (msFromMidnight : UInt64) : Int32 × UInt32 :=
  ((msFromMidnight / 1000).toUInt32.toInt32, (msFromMidnight % 1000).toUInt32 * 1000)

end UPADecodeUtils

inductive AddedValue
  | string (s : String)
  | bool (b : Bool)
  | char (c : Int8)
  | i8 (n : Int8)
  | u8 (n : UInt8)
  | i16 (n : Int16)
  | u16 (n : UInt16)
  | i32 (n : Int32)
  | u32 (n : UInt32)
  | i64 (n : Int64)
  | u64 (n : UInt64)
  | f32 (x : Float32)
  | f64 (x : Float)
  | price (x : Float)
  | dateTime (seconds : Int32) (micros : UInt32)

structure AddedField where
  name : String
  fid : MamaFid
  value : AddedValue

/-- `value` is the whole value that the log is given; its format prints the low 32 bits. -/
inductive DecoderLog
  | truncated (name : String) (fid : MamaFid) (value : ℤ) (mamaType : String)
  | unhandled (mamaType : UpaAsMamaFieldTypeEnum) (name : String) (fid : MamaFid)
  deriving DecidableEq, Repr

structure AddedToMsg where
  added : Option AddedField := none
  log : List DecoderLog := []

namespace UPAFieldDecoder

variable (f : MamaField UpaAsMamaFieldTypeEnum)

def add (value : AddedValue) : AddedToMsg := { added := some ⟨f.fieldName, f.mamaFid, value⟩ }

def unhandled : AddedToMsg := { log := [.unhandled f.fieldType f.fieldName f.mamaFid] }

/-- The cases of the integers of less than 64 bits. The field is added in any case. -/
def addChecked (tooBig : Bool) (wireValue : ℤ) (mamaType : String) (value : AddedValue) : AddedToMsg :=
  { add f value with log := if tooBig then [.truncated f.fieldName f.mamaFid wireValue mamaType] else [] }

def addDateTime (msFromMidnight : UInt64) : AddedToMsg :=
  let (seconds, micros) := UPADecodeUtils.dateTimeFromMidnightMs msFromMidnight
  add f (.dateTime seconds micros)

def addRsslUintToMsg (v : UInt64) : AddedToMsg :=
  match f.fieldType with
  | .mama .string | .enumAsString => add f (.string (toString v.toNat))
  | .mama .bool => add f (.bool (v != 0))
  | .mama .char => addChecked f (127 ≤ v) v.toNat "char" (.char v.toUInt8.toInt8)
  | .mama .i8 => addChecked f (127 ≤ v) v.toNat "I8" (.i8 v.toUInt8.toInt8)
  | .mama .u8 => addChecked f (255 ≤ v) v.toNat "U8" (.u8 v.toUInt8)
  | .mama .i16 => addChecked f (32767 ≤ v) v.toNat "I16" (.i16 v.toUInt16.toInt16)
  | .mama .u16 => addChecked f (65535 ≤ v) v.toNat "U16" (.u16 v.toUInt16)
  | .mama .i32 => addChecked f (2147483647 ≤ v) v.toNat "I32" (.i32 v.toUInt32.toInt32)
  | .mama .u32 => addChecked f (4294967295 ≤ v) v.toNat "U32" (.u32 v.toUInt32)
  | .mama .i64 => addChecked f (9223372036854775807 ≤ v) v.toNat "I64" (.i64 v.toInt64)
  | .mama .u64 => add f (.u64 v)
  | .mama .f32 | .realAsF32 => add f (.f32 v.toFloat32)
  | .mama .f64 => add f (.f64 v.toFloat)
  | .mama .price => add f (.price v.toFloat)
  | .mama .time => addDateTime f v
  | _ => unhandled f

def addRsslIntToMsg (v : Int64) : AddedToMsg :=
  match f.fieldType with
  | .mama .string | .enumAsString => add f (.string (toString v.toInt))
  | .mama .bool => add f (.bool (v != 0))
  | .mama .char => addChecked f (127 ≤ v) v.toInt "char" (.char v.toInt8)
  | .mama .i8 => addChecked f (127 ≤ v) v.toInt "I8" (.i8 v.toInt8)
  | .mama .u8 => addChecked f (255 ≤ v) v.toInt "U8" (.u8 v.toUInt64.toUInt8)
  | .mama .i16 => addChecked f (32767 ≤ v) v.toInt "I16" (.i16 v.toInt16)
  | .mama .u16 => addChecked f (65535 ≤ v) v.toInt "U16" (.u16 v.toUInt64.toUInt16)
  | .mama .i32 => addChecked f (2147483647 ≤ v) v.toInt "I32" (.i32 v.toInt32)
  | .mama .u32 => addChecked f (4294967295 ≤ v) v.toInt "U32" (.u32 v.toUInt64.toUInt32)
  | .mama .i64 => add f (.i64 v)
  | .mama .u64 => add f (.u64 v.toUInt64)
  | .mama .f32 | .realAsF32 => add f (.f32 v.toFloat32)
  | .mama .f64 => add f (.f64 v.toFloat)
  | .mama .price => add f (.price v.toFloat)
  | .mama .time => addDateTime f v.toUInt64
  | _ => unhandled f

end UPAFieldDecoder

inductive WireInteger
  | int (v : Int64)
  | uint (v : UInt64)
  deriving DecidableEq

namespace WireInteger

def toInt : WireInteger → ℤ
  | .int v => v.toInt
  | .uint v => v.toNat

def addToMsg (f : MamaField UpaAsMamaFieldTypeEnum) : WireInteger → AddedToMsg
  | .int v => UPAFieldDecoder.addRsslIntToMsg f v
  | .uint v => UPAFieldDecoder.addRsslUintToMsg f v

end WireInteger

inductive IntegerTarget
  | char
  | integer (t : MamaIntegerType)
  deriving DecidableEq

namespace IntegerTarget

def fieldType : IntegerTarget → UpaAsMamaFieldTypeEnum
  | .char => .mama .char
  | .integer .i8 => .mama .i8
  | .integer .u8 => .mama .u8
  | .integer .i16 => .mama .i16
  | .integer .u16 => .mama .u16
  | .integer .i32 => .mama .i32
  | .integer .u32 => .mama .u32
  | .integer .i64 => .mama .i64
  | .integer .u64 => .mama .u64

def range : IntegerTarget → MamaIntegerType
  | .char => .i8
  | .integer t => t

def mamaType : IntegerTarget → String
  | .char => "char"
  | .integer .i8 => "I8"
  | .integer .u8 => "U8"
  | .integer .i16 => "I16"
  | .integer .u16 => "U16"
  | .integer .i32 => "I32"
  | .integer .u32 => "U32"
  | .integer .i64 => "I64"
  | .integer .u64 => "U64"

def Fits (t : IntegerTarget) (z : ℤ) : Prop := t.range.least ≤ z ∧ z ≤ t.range.greatest

instance (t : IntegerTarget) (z : ℤ) : Decidable (t.Fits z) := inferInstanceAs (Decidable (_ ∧ _))

def wrap (t : IntegerTarget) (z : ℤ) : ℤ := IntegerRanges.wrap t.range.least t.range.greatest z

end IntegerTarget

def AddedValue.integer : AddedValue → Option (IntegerTarget × ℤ)
  | .char c => some (.char, c.toInt)
  | .i8 n => some (.integer .i8, n.toInt)
  | .u8 n => some (.integer .u8, n.toNat)
  | .i16 n => some (.integer .i16, n.toInt)
  | .u16 n => some (.integer .u16, n.toNat)
  | .i32 n => some (.integer .i32, n.toInt)
  | .u32 n => some (.integer .u32, n.toNat)
  | .i64 n => some (.integer .i64, n.toInt)
  | .u64 n => some (.integer .u64, n.toNat)
  | .string _ | .bool _ | .f32 _ | .f64 _ | .price _ | .dateTime _ _ => none

def MamaField.withTarget (f : MamaField UpaAsMamaFieldTypeEnum) (t : IntegerTarget) :
    MamaField UpaAsMamaFieldTypeEnum := { f with fieldType := t.fieldType }

namespace WireInteger

structure ExactOrReported (f : MamaField UpaAsMamaFieldTypeEnum) (t : IntegerTarget) (w : WireInteger) :
    Prop where
  exact : t.Fits w.toInt → ∃ value, value.integer = some (t, w.toInt) ∧
    (w.addToMsg (f.withTarget t)).added = some ⟨f.fieldName, f.mamaFid, value⟩
  reported : ¬ t.Fits w.toInt → ∃ mamaType,
    .truncated f.fieldName f.mamaFid w.toInt mamaType ∈ (w.addToMsg (f.withTarget t)).log
  quiet : t.Fits w.toInt → ∀ name fid value mamaType,
    .truncated name fid value mamaType ∉ (w.addToMsg (f.withTarget t)).log

def Unchecked : WireInteger → IntegerTarget → Prop
  | .int _, t => t = .integer .i64 ∨ t = .integer .u64
  | .uint _, t => t = .integer .u64

instance (w : WireInteger) (t : IntegerTarget) : Decidable (w.Unchecked t) := by
  unfold Unchecked; split <;> infer_instance

def TooBig (w : WireInteger) (t : IntegerTarget) : Prop := ¬ w.Unchecked t ∧ t.range.greatest ≤ w.toInt

instance (w : WireInteger) (t : IntegerTarget) : Decidable (w.TooBig t) := inferInstanceAs (Decidable (_ ∧ _))

end WireInteger

section

variable {f : MamaField UpaAsMamaFieldTypeEnum} {t : IntegerTarget}

theorem IntegerTarget.least_le_greatest (t : IntegerTarget) : t.range.least ≤ t.range.greatest := by
  cases t.range <;> decide

theorem IntegerTarget.wrap_of_fits {z : ℤ} (h : t.Fits z) : t.wrap z = z :=
  (IntegerRanges.wrap_eq_iff t.least_le_greatest z).mpr h

theorem IntegerTarget.wrap_signed {k : ℕ} (hl : t.range.least = -(2 ^ k : ℕ))
    (hg : t.range.greatest = (2 ^ k : ℕ) - 1) (z : ℤ) : t.wrap z = z.bmod (2 ^ (k + 1)) := by
  unfold wrap
  rw [hl, hg, IntegerRanges.wrap_signed]

namespace UPAFieldDecoder

theorem signed_of_uint (v : UInt64) {k : ℕ} (hl : t.range.least = -(2 ^ k : ℕ))
    (hg : t.range.greatest = (2 ^ k : ℕ) - 1) : (v.toBitVec.setWidth (k + 1)).toInt = t.wrap v.toNat := by
  unfold IntegerTarget.wrap
  rw [hl, hg]
  exact IntegerRanges.toInt_setWidth_eq_wrap v.toBitVec k

theorem unsigned_of_uint (v : UInt64) {k : ℕ} (hl : t.range.least = 0)
    (hg : t.range.greatest = (2 ^ k : ℕ) - 1) : ((v.toBitVec.setWidth k).toNat : ℤ) = t.wrap v.toNat := by
  unfold IntegerTarget.wrap
  rw [hl, hg]
  exact IntegerRanges.toNat_setWidth_eq_wrap v.toBitVec k

theorem unsigned_of_int (v : Int64) {k : ℕ} (hk : k ≤ 64) (hl : t.range.least = 0)
    (hg : t.range.greatest = (2 ^ k : ℕ) - 1) : ((v.toBitVec.setWidth k).toNat : ℤ) = t.wrap v.toInt := by
  unfold IntegerTarget.wrap
  rw [hl, hg]
  exact IntegerRanges.toNat_setWidth_eq_wrap_toInt v.toBitVec hk

theorem tooBig_uint_iff {v n : UInt64} (hu : t ≠ .integer .u64) (hn : t.range.greatest = n.toNat) :
    decide (n ≤ v) = true ↔ (WireInteger.uint v).TooBig t := by
  rw [decide_eq_true_iff, UInt64.le_iff_toNat_le]
  unfold WireInteger.TooBig
  rw [hn, and_iff_right (show ¬ (WireInteger.uint v).Unchecked t from hu)]
  exact Int.ofNat_le.symm

theorem tooBig_int_iff {v n : Int64} (hi : t ≠ .integer .i64) (hu : t ≠ .integer .u64)
    (hn : t.range.greatest = n.toInt) : decide (n ≤ v) = true ↔ (WireInteger.int v).TooBig t := by
  rw [decide_eq_true_iff, Int64.le_iff_toInt_le]
  unfold WireInteger.TooBig
  rw [hn, and_iff_right (show ¬ (WireInteger.int v).Unchecked t from fun h => h.elim hi hu)]
  rfl

def Adds (d : AddedToMsg) (f : MamaField UpaAsMamaFieldTypeEnum) (t : IntegerTarget) (w : WireInteger) : Prop :=
  ∃ value, value.integer = some (t, t.wrap w.toInt) ∧
    d = { added := some ⟨f.fieldName, f.mamaFid, value⟩
          log := if w.TooBig t then [.truncated f.fieldName f.mamaFid w.toInt t.mamaType] else [] }

theorem adds_checked {w : WireInteger} {tooBig : Bool} {value : AddedValue} {z : ℤ}
    (hi : value.integer = some (t, z)) (hz : z = t.wrap w.toInt) (h : tooBig = true ↔ w.TooBig t) :
    Adds (addChecked (f.withTarget t) tooBig w.toInt t.mamaType value) f t w :=
  ⟨value, hz ▸ hi, congrArg (AddedToMsg.mk _) (if_congr h rfl rfl)⟩

theorem adds_unchecked {w : WireInteger} {value : AddedValue} {z : ℤ} (hi : value.integer = some (t, z))
    (hz : z = t.wrap w.toInt) (h : w.Unchecked t) : Adds (add (f.withTarget t) value) f t w :=
  ⟨value, hz ▸ hi, congrArg (AddedToMsg.mk _) (if_neg fun hbig => hbig.1 h).symm⟩

theorem adds_uint (f : MamaField UpaAsMamaFieldTypeEnum) (t : IntegerTarget) (v : UInt64) :
    Adds (addRsslUintToMsg (f.withTarget t) v) f t (.uint v) := by
  cases t with
  | char => exact adds_checked rfl (signed_of_uint v (k := 7) rfl rfl) (tooBig_uint_iff nofun rfl)
  | integer t =>
    cases t with
    | i8 => exact adds_checked rfl (signed_of_uint v (k := 7) rfl rfl) (tooBig_uint_iff nofun rfl)
    | u8 => exact adds_checked rfl (unsigned_of_uint v (k := 8) rfl rfl) (tooBig_uint_iff nofun rfl)
    | i16 => exact adds_checked rfl (signed_of_uint v (k := 15) rfl rfl) (tooBig_uint_iff nofun rfl)
    | u16 => exact adds_checked rfl (unsigned_of_uint v (k := 16) rfl rfl) (tooBig_uint_iff nofun rfl)
    | i32 => exact adds_checked rfl (signed_of_uint v (k := 31) rfl rfl) (tooBig_uint_iff nofun rfl)
    | u32 => exact adds_checked rfl (unsigned_of_uint v (k := 32) rfl rfl) (tooBig_uint_iff nofun rfl)
    | i64 => exact adds_checked rfl (signed_of_uint v (k := 63) rfl rfl) (tooBig_uint_iff nofun rfl)
    | u64 => exact adds_unchecked rfl (unsigned_of_uint v (k := 64) rfl rfl) rfl

theorem adds_int (f : MamaField UpaAsMamaFieldTypeEnum) (t : IntegerTarget) (v : Int64) :
    Adds (addRsslIntToMsg (f.withTarget t) v) f t (.int v) := by
  have hsigned {t : IntegerTarget} {k : ℕ} (hl : t.range.least = -(2 ^ k : ℕ))
      (hg : t.range.greatest = (2 ^ k : ℕ) - 1) : v.toInt.bmod (2 ^ (k + 1)) = t.wrap v.toInt :=
    (IntegerTarget.wrap_signed hl hg _).symm
  cases t with
  | char =>
    exact adds_checked rfl (v.toInt_toInt8.trans (hsigned rfl rfl)) (tooBig_int_iff nofun nofun rfl)
  | integer t =>
    cases t with
    | i8 => exact adds_checked rfl (v.toInt_toInt8.trans (hsigned rfl rfl)) (tooBig_int_iff nofun nofun rfl)
    | u8 =>
      exact adds_checked rfl (unsigned_of_int v (k := 8) (by decide) rfl rfl) (tooBig_int_iff nofun nofun rfl)
    | i16 => exact adds_checked rfl (v.toInt_toInt16.trans (hsigned rfl rfl)) (tooBig_int_iff nofun nofun rfl)
    | u16 =>
      exact adds_checked rfl (unsigned_of_int v (k := 16) (by decide) rfl rfl) (tooBig_int_iff nofun nofun rfl)
    | i32 => exact adds_checked rfl (v.toInt_toInt32.trans (hsigned rfl rfl)) (tooBig_int_iff nofun nofun rfl)
    | u32 =>
      exact adds_checked rfl (unsigned_of_int v (k := 32) (by decide) rfl rfl) (tooBig_int_iff nofun nofun rfl)
    | i64 =>
      have hfits : (IntegerTarget.integer .i64).Fits v.toInt := ⟨v.le_toInt, Int.le_sub_one_of_lt v.toInt_lt⟩
      exact adds_unchecked rfl (IntegerTarget.wrap_of_fits hfits).symm (.inl rfl)
    | u64 => exact adds_unchecked rfl (unsigned_of_int v (k := 64) le_rfl rfl rfl) (.inr rfl)

end UPAFieldDecoder

namespace WireInteger

theorem adds (f : MamaField UpaAsMamaFieldTypeEnum) (t : IntegerTarget) (w : WireInteger) :
    UPAFieldDecoder.Adds (w.addToMsg (f.withTarget t)) f t w := by
  cases w with
  | int v => exact UPAFieldDecoder.adds_int f t v
  | uint v => exact UPAFieldDecoder.adds_uint f t v

theorem le_greatest_of_unchecked {w : WireInteger} (h : w.Unchecked t) : w.toInt ≤ t.range.greatest := by
  cases w with
  | int v =>
    have hlt := v.toInt_lt
    obtain rfl | rfl := h
    · exact Int.le_sub_one_of_lt hlt
    · exact hlt.le.trans (by decide)
  | uint v =>
    have hlt := v.toNat_lt
    obtain rfl := h
    exact Int.ofNat_le.mpr (Nat.le_sub_one_of_lt hlt)

theorem exactOrReported_iff_log (f : MamaField UpaAsMamaFieldTypeEnum) (t : IntegerTarget) (w : WireInteger) :
    ExactOrReported f t w ↔ (w.TooBig t ↔ ¬ t.Fits w.toInt) := by
  obtain ⟨value, hvalue, hadd⟩ := adds f t w
  constructor
  · intro h
    by_cases hbig : w.TooBig t
    · refine iff_of_true hbig fun hfits => ?_
      apply h.quiet hfits f.fieldName f.mamaFid w.toInt t.mamaType
      rw [hadd, if_pos hbig]
      exact List.mem_singleton_self _
    · refine iff_of_false hbig fun hno => ?_
      obtain ⟨mamaType, hmem⟩ := h.reported hno
      rw [hadd, if_neg hbig] at hmem
      exact absurd hmem List.not_mem_nil
  · intro h
    refine ⟨fun hfits => ⟨value, ?_, by rw [hadd]⟩, fun hno => ⟨t.mamaType, ?_⟩, fun hfits _ _ _ _ => ?_⟩
    · rw [hvalue, IntegerTarget.wrap_of_fits hfits]
    · rw [hadd, if_pos (h.mpr hno)]
      exact List.mem_singleton_self _
    · rw [hadd, if_neg fun hbig => h.mp hbig hfits]
      exact List.not_mem_nil

theorem incoming_integers_iff (f : MamaField UpaAsMamaFieldTypeEnum) (t : IntegerTarget) (w : WireInteger) :
    ExactOrReported f t w ↔
      t.range.least ≤ w.toInt ∧ (w.Unchecked t ∨ w.toInt ≠ t.range.greatest) := by
  have hle := t.least_le_greatest
  rw [exactOrReported_iff_log]
  unfold TooBig IntegerTarget.Fits
  by_cases hu : w.Unchecked t
  · have hg := le_greatest_of_unchecked hu
    simp [hu, hg]
  · simp only [hu, not_false_iff, true_and, false_or]
    omega

def maxI8 : WireInteger := .uint 127

theorem greatest_i8_reported : ¬ ∀ (f : MamaField UpaAsMamaFieldTypeEnum) (t : IntegerTarget) (w : WireInteger),
    ExactOrReported f t w := by
  intro h
  have hquiet := (h ⟨1, .mama .i8, "BID", false⟩ (.integer .i8) maxI8).quiet (by decide) "BID" 1 127 "I8"
  exact hquiet (List.mem_singleton_self _)

end WireInteger

end

end RmdsBridge
