import Mathlib.Data.List.Nodup
import Mathlib.Data.List.ReduceOption
import Mathlib.Data.List.TakeWhile
import RmdsBridge.Numerals

namespace RmdsBridge

abbrev RsslEnum := UInt16

structure RsslEnumType where
  value : RsslEnum
  display : List Char
  deriving DecidableEq

/-- The enumerated values have their types at their indices; the other values up to `maxValue` are gaps. -/
structure RsslEnumTypeTable where
  maxValue : RsslEnum
  enumTypes : List (Option RsslEnumType)
  length_eq : enumTypes.length = maxValue.toNat + 1
  value_eq : ∀ (i : ℕ) (e : RsslEnumType), enumTypes[i]? = some (some e) → e.value.toNat = i

def cString (s : List Char) : List Char := s.takeWhile fun c => c ≠ '\x00'

/-- `strncmp` gives 0; what is past the end of a string reads as its NUL. -/
def strncmpEq : ℕ → List Char → List Char → Bool
  | 0, _, _ => true
  | n + 1, s, t =>
    if s.headD '\x00' ≠ t.headD '\x00' then false
    else if s.headD '\x00' = '\x00' then true
    else strncmpEq n s.tail t.tail

namespace RsslEnumTypeTable

def getFieldEntryEnumType (t : RsslEnumTypeTable) (value : RsslEnum) : Option RsslEnumType :=
  if value ≤ t.maxValue then t.enumTypes[value.toNat]?.join else none

def decodeFieldEntry (t : RsslEnumTypeTable) (enumVal : RsslEnum) : List Char :=
  match t.getFieldEntryEnumType enumVal with
  | some enumType => cString enumType.display
  | none => Nat.toDigits 10 enumVal.toNat

def matchesDisplay (stringVal : List Char) (enumDef : RsslEnumType) : Bool :=
  (cString stringVal).length = enumDef.display.length &&
    strncmpEq enumDef.display.length stringVal enumDef.display

def searchEnumTypes (stringVal : List Char) : List (Option RsslEnumType) → Option RsslEnum
  | [] => none
  | none :: enumTypes => searchEnumTypes stringVal enumTypes
  | some enumDef :: enumTypes =>
    if matchesDisplay stringVal enumDef then some enumDef.value
    else searchEnumTypes stringVal enumTypes

/-- The number of entries is a 16-bit integer, too. -/
def encodeField (t : RsslEnumTypeTable) (stringVal : List Char) : RsslEnum :=
  let numEntries : RsslEnum := t.maxValue + 1
  match searchEnumTypes stringVal (t.enumTypes.take numEntries.toNat) with
  | some enumVal => enumVal
  | none => UInt16.ofInt (Numerals.atoi (cString stringVal))

structure Plain (t : RsslEnumTypeTable) : Prop where
  distinct : (t.enumTypes.reduceOption.map RsslEnumType.display).Nodup
  noNul : ∀ e ∈ t.enumTypes.reduceOption, '\x00' ∉ e.display
  notNumeral : ∀ e ∈ t.enumTypes.reduceOption, ¬ Numerals.IsNumeral e.display

end RsslEnumTypeTable

theorem cString_eq {s : List Char} (h : '\x00' ∉ s) : cString s = s := by
  rw [cString, List.takeWhile_eq_self_iff]
  intro c hc
  apply decide_eq_true
  rintro rfl
  exact h hc

theorem strncmpEq_iff {s t : List Char} (hs : '\x00' ∉ s) (hl : s.length = t.length) :
    strncmpEq t.length s t = true ↔ s = t := by
  induction s generalizing t with
  | nil =>
    obtain rfl := List.eq_nil_of_length_eq_zero hl.symm
    simp [strncmpEq]
  | cons c s ih =>
    cases t with
    | nil => cases hl
    | cons d t =>
      rw [List.mem_cons, not_or] at hs
      have hc : c ≠ '\x00' := Ne.symm hs.1
      simp only [List.length_cons, strncmpEq, List.headD_cons, List.tail_cons, List.cons.injEq]
      by_cases hcd : c = d
      · subst hcd
        simp [hc, ih hs.2 (Nat.succ.inj hl)]
      · simp [hcd]

namespace RsslEnumTypeTable

variable {t : RsslEnumTypeTable} {s : List Char} {v : RsslEnum} {e : RsslEnumType}

theorem matchesDisplay_iff (hs : '\x00' ∉ s) : matchesDisplay s e = true ↔ s = e.display := by
  unfold matchesDisplay
  rw [cString_eq hs, Bool.and_eq_true, decide_eq_true_eq]
  constructor
  · rintro ⟨hl, hcmp⟩
    exact (strncmpEq_iff hs hl).mp hcmp
  · intro he
    have hl := congrArg List.length he
    exact ⟨hl, (strncmpEq_iff hs hl).mpr he⟩

theorem searchEnumTypes_eq (hs : '\x00' ∉ s) (enumTypes : List (Option RsslEnumType)) :
    searchEnumTypes s enumTypes =
      (enumTypes.reduceOption.find? fun e => s = e.display).map RsslEnumType.value := by
  induction enumTypes with
  | nil => rfl
  | cons o enumTypes ih =>
    cases o with
    | none => exact ih
    | some e =>
      rw [searchEnumTypes, List.reduceOption_cons_of_some, List.find?_cons]
      by_cases he : s = e.display
      · rw [if_pos ((matchesDisplay_iff hs).mpr he), decide_eq_true he]
        rfl
      · rw [if_neg fun h => he ((matchesDisplay_iff hs).mp h), ih, decide_eq_false he]

theorem getFieldEntryEnumType_eq_some : t.getFieldEntryEnumType v = some e ↔
    e ∈ t.enumTypes.reduceOption ∧ e.value = v := by
  have hlen := t.length_eq
  unfold getFieldEntryEnumType
  rw [List.reduceOption_mem_iff]
  constructor
  · intro h
    split_ifs at h with hv
    have hget := Option.join_eq_some_iff.mp h
    exact ⟨List.mem_of_getElem? hget, UInt16.toNat_inj.mp (t.value_eq _ _ hget)⟩
  · rintro ⟨hmem, rfl⟩
    obtain ⟨i, hi⟩ := List.mem_iff_getElem?.mp hmem
    have hvalue := t.value_eq i e hi
    have hlt := (List.getElem?_eq_some_iff.mp hi).1
    rw [if_pos (UInt16.le_iff_toNat_le.mpr (by omega)), hvalue, hi]
    rfl

theorem take_numEntries (t : RsslEnumTypeTable) :
    t.enumTypes.take (t.maxValue + 1).toNat = if t.maxValue < 65535 then t.enumTypes else [] := by
  have hlen := t.length_eq
  have hmax := t.maxValue.toNat_lt
  split_ifs with h
  · have hlt : t.maxValue.toNat < 65535 := UInt16.lt_iff_toNat_lt.mp h
    have hsucc : (t.maxValue + 1).toNat = t.maxValue.toNat + 1 := by
      rw [UInt16.toNat_add]
      exact Nat.mod_eq_of_lt (by rw [UInt16.toNat_one]; omega)
    rw [hsucc, ← hlen, List.take_length]
  · have hge : ¬ t.maxValue.toNat < 65535 := fun hlt => h (UInt16.lt_iff_toNat_lt.mpr hlt)
    have hzero : (t.maxValue + 1).toNat = 0 := by
      rw [UInt16.toNat_add]
      have he : t.maxValue.toNat = 65535 := by omega
      rw [he]
      rfl
    rw [hzero, List.take_zero]

theorem encodeField_eq (hs : '\x00' ∉ s) : t.encodeField s =
    (((if t.maxValue < 65535 then t.enumTypes.reduceOption else []).find? fun e => s = e.display).map
      RsslEnumType.value).getD (UInt16.ofInt (Numerals.atoi s)) := by
  unfold encodeField
  dsimp only
  rw [take_numEntries, searchEnumTypes_eq hs, cString_eq hs, apply_ite List.reduceOption,
    List.reduceOption_nil]
  split
  · rename_i h
    rw [h, Option.getD_some]
  · rename_i h
    rw [h, Option.getD_none]

theorem numeral_no_nul {n : ℕ} : '\x00' ∉ Nat.toDigits 10 n := by
  intro h
  exact absurd ((Numerals.toDigits_isNumeral n).2 _ h) (by decide)

theorem undefined_round_trip (h : t.Plain) (hv : t.getFieldEntryEnumType v = none) :
    t.encodeField (t.decodeFieldEntry v) = v := by
  have hdecode : t.decodeFieldEntry v = Nat.toDigits 10 v.toNat := by
    rw [decodeFieldEntry, hv]
  have hnone (types : List RsslEnumType) (hsub : ∀ e ∈ types, e ∈ t.enumTypes.reduceOption) :
      types.find? (fun e => Nat.toDigits 10 v.toNat = e.display) = none := by
    rw [List.find?_eq_none]
    intro e he hd
    apply h.notNumeral e (hsub e he)
    rw [← of_decide_eq_true hd]
    exact Numerals.toDigits_isNumeral _
  have hlt := v.toNat_lt
  rw [hdecode, encodeField_eq numeral_no_nul, hnone]
  · have hcast : ((v.toNat : ℤ) % 2 ^ 16).toNat = v.toNat := by omega
    rw [Numerals.atoi_toDigits (by omega), Option.map_none, Option.getD_none, UInt16.ofInt, hcast,
      UInt16.ofNat_toNat]
  · intro e he
    split_ifs at he
    · exact he
    · cases he

theorem defined_round_trip_iff (h : t.Plain) (hv : t.getFieldEntryEnumType v = some e) :
    t.encodeField (t.decodeFieldEntry v) = v ↔
      t.maxValue < 65535 ∨ UInt16.ofInt (Numerals.atoi e.display) = v := by
  obtain ⟨hmem, rfl⟩ := getFieldEntryEnumType_eq_some.mp hv
  have hdecode : t.decodeFieldEntry e.value = e.display := by
    rw [decodeFieldEntry, hv]
    exact cString_eq (h.noNul e hmem)
  rw [hdecode, encodeField_eq (h.noNul e hmem)]
  by_cases hmax : t.maxValue < 65535
  · have hfind : t.enumTypes.reduceOption.find? (fun e' => e.display = e'.display) = some e := by
      have hsome : (t.enumTypes.reduceOption.find? fun e' => e.display = e'.display).isSome = true :=
        List.find?_isSome.mpr ⟨e, hmem, decide_eq_true rfl⟩
      obtain ⟨e', he'⟩ := Option.isSome_iff_exists.mp hsome
      have hsame : e.display = e'.display := by simpa using List.find?_some he'
      rw [he', List.inj_on_of_nodup_map h.distinct (List.mem_of_find?_eq_some he') hmem hsame.symm]
    rw [if_pos hmax, hfind]
    exact iff_of_true rfl (Or.inl hmax)
  · rw [if_neg hmax]
    exact (or_iff_right hmax).symm

def fullTable : RsslEnumTypeTable where
  maxValue := 65535
  enumTypes := none :: some ⟨1, ['B', 'U', 'Y']⟩ :: List.replicate 65534 none
  length_eq := by rw [List.length_cons, List.length_cons, List.length_replicate]; rfl
  value_eq := by
    intro i e h
    rcases i with _ | _ | i
    · cases h
    · cases h
      rfl
    · rw [List.getElem?_cons_succ, List.getElem?_cons_succ, List.getElem?_replicate] at h
      split_ifs at h
      cases h

theorem fullTable_types : fullTable.enumTypes.reduceOption = [⟨1, ['B', 'U', 'Y']⟩] := by
  rw [fullTable, List.reduceOption_cons_of_none, List.reduceOption_cons_of_some,
    List.reduceOption_replicate_none]

theorem fullTable_plain : fullTable.Plain := by
  constructor <;> rw [fullTable_types]
  · decide
  · decide
  · intro e he
    obtain rfl := List.mem_singleton.mp he
    rintro ⟨-, hdigits⟩
    exact absurd (hdigits 'B' (by decide)) (by decide)

theorem fullTable_not_found : ¬ ∀ t : RsslEnumTypeTable, t.Plain → ∀ v,
    t.encodeField (t.decodeFieldEntry v) = v := by
  intro h
  have hv : fullTable.getFieldEntryEnumType 1 = some ⟨1, ['B', 'U', 'Y']⟩ :=
    getFieldEntryEnumType_eq_some.mpr ⟨by rw [fullTable_types]; exact List.mem_singleton_self _, rfl⟩
  rcases (defined_round_trip_iff fullTable_plain hv).mp (h fullTable fullTable_plain 1) with hlt | hatoi
  · exact absurd hlt (by decide)
  · exact absurd hatoi (by decide)

theorem round_trip_iff (t : RsslEnumTypeTable) (h : t.Plain) (v : RsslEnum) :
    t.encodeField (t.decodeFieldEntry v) = v ↔ t.maxValue < 65535 ∨
      ∀ e, t.getFieldEntryEnumType v = some e → UInt16.ofInt (Numerals.atoi e.display) = v := by
  cases hv : t.getFieldEntryEnumType v with
  | none => exact iff_of_true (undefined_round_trip h hv) (Or.inr fun e he => by cases he)
  | some e =>
    rw [defined_round_trip_iff h hv]
    simp only [Option.some.injEq, forall_eq']

def sideTable : RsslEnumTypeTable where
  maxValue := 2
  enumTypes := [some ⟨0, ['B', 'U', 'Y']⟩, none, some ⟨2, ['S', 'E', 'L', 'L']⟩]
  length_eq := rfl
  value_eq := by
    intro i e h
    rcases i with _ | _ | _ | i <;> cases h <;> rfl

theorem sideTable_round_trip : sideTable.encodeField (sideTable.decodeFieldEntry 2) = 2 := by
  refine (round_trip_iff sideTable ⟨by decide, by decide, ?_⟩ 2).mpr (Or.inl (by decide))
  rintro e he ⟨-, hdigits⟩
  rcases List.mem_cons.mp he with rfl | he
  · exact absurd (hdigits 'B' (by decide)) (by decide)
  · obtain rfl := List.mem_singleton.mp he
    exact absurd (hdigits 'S' (by decide)) (by decide)

end RsslEnumTypeTable

end RmdsBridge
