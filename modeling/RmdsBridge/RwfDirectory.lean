import RmdsBridge.DirectoryRoundTrip

namespace RmdsBridge

namespace RsslDirectoryApi

def encodeUInt2 (n : ℕ) : List UInt8 := [UInt8.ofNat (n / 256), UInt8.ofNat (n % 256)]

def decodeUInt2 (hi lo : UInt8) : ℕ := hi.toNat * 256 + lo.toNat

theorem decodeUInt2_encode {n : ℕ} (h : n < 65536) :
    decodeUInt2 (UInt8.ofNat (n / 256)) (UInt8.ofNat (n % 256)) = n := by
  simp only [decodeUInt2, UInt8.toNat_ofNat']
  omega

def takeItems : ℕ → List UInt8 → List (Option (List UInt8)) × Bool
  | 0, _ => ([], true)
  | n + 1, hi :: lo :: data =>
    if decodeUInt2 hi lo ≤ data.length then
      let (items, ok) := takeItems n (data.drop (decodeUInt2 hi lo))
      ((if decodeUInt2 hi lo = 0 then none else some (data.take (decodeUInt2 hi lo))) :: items, ok)
    else ([], false)
  | _ + 1, _ => ([], false)

theorem takeItems_encode {items : List (List UInt8)} (h : ∀ i ∈ items, i.length < 65536) :
    takeItems items.length (items.flatMap fun i => encodeUInt2 i.length ++ i) =
      (items.map fun i => if i = [] then none else some i, true) := by
  induction items with
  | nil => rfl
  | cons i items ih =>
    have hi := h i List.mem_cons_self
    have hrest := ih fun i hi => h i (List.mem_cons_of_mem _ hi)
    simp only [encodeUInt2, List.cons_append, List.nil_append] at hrest
    simp only [List.length_cons, List.flatMap_cons, encodeUInt2, List.cons_append, List.nil_append, takeItems,
      decodeUInt2_encode hi, List.length_append, Nat.le_add_right, if_true, List.drop_left, List.take_left,
      List.length_eq_zero_iff, List.map_cons]
    rw [hrest]

/-- Arrays with the number of their items and the length of each in two bytes. -/
def rwfDirectory : RsslDirectoryApi UInt64 UInt64 where
  toRsslUIntApi := RsslUIntApi.rwfUInt
  encodeQos := RsslUIntApi.rwfUInt.encodeUInt
  decodeQos := RsslUIntApi.rwfUInt.decodeUInt
  encodeState := RsslUIntApi.rwfUInt.encodeUInt
  decodeState := RsslUIntApi.rwfUInt.decodeUInt
  encodeArray items := encodeUInt2 items.length ++ items.flatMap fun i => encodeUInt2 i.length ++ i
  decodeArray
    | hi :: lo :: data => some (takeItems (decodeUInt2 hi lo) data)
    | _ => none
  clearedQos := 0
  clearedState := 0

theorem rwfUInt_uint1 {n : UInt64} (hn : n < 256) :
    RsslUIntApi.rwfUInt.decodeUInt [n.toUInt8] = some (some n) := by
  have hlt : n.toNat < 256 := UInt64.lt_iff_toNat_lt.mp hn
  simp only [RsslUIntApi.rwfUInt, List.cons_ne_nil, if_false, List.length_singleton, Nat.one_le_ofNat, if_true,
    List.reverse_singleton, List.map_singleton, Nat.ofDigits_singleton, Option.some.injEq]
  apply UInt64.toNat_inj.mp
  simp [Nat.mod_eq_of_lt hlt]

theorem rwfUInt_length (n : UInt64) :
    0 < (RsslUIntApi.rwfUInt.encodeUInt n).length ∧ (RsslUIntApi.rwfUInt.encodeUInt n).length < 65536 := by
  by_cases h0 : n = 0
  · subst h0
    decide
  · have hpos : n.toNat ≠ 0 := fun h => h0 (UInt64.toNat_inj.mp (by simpa using h))
    have hne : Nat.digits 256 n.toNat ≠ [] := Nat.digits_ne_nil_iff_ne_zero.mpr hpos
    have hlt : (Nat.digits 256 n.toNat).length < 65536 := (RsslUIntApi.length_digits n).trans_lt (by decide)
    simpa [RsslUIntApi.rwfUInt, h0, List.length_pos_iff] using And.intro hne hlt

theorem rwfDirectory_faithful : rwfDirectory.Faithful where
  uint := RsslUIntApi.rwfUInt_lawful
  uint1 _ hn := rwfUInt_uint1 hn
  qos := RsslUIntApi.rwfUInt_lawful
  qosLength := rwfUInt_length
  state := RsslUIntApi.rwfUInt_lawful
  array items hlen hitem := by
    simp only [rwfDirectory, encodeUInt2, List.cons_append, List.nil_append, decodeUInt2_encode hlen]
    rw [← takeItems_encode hitem]
    rfl

def exampleSource : ServiceSource UInt64 UInt64 where
  name := .copy [83, 82, 67]
  serviceId := 9999
  capabilities j := [5, 6, 0, 8].getD j 0
  fieldDictionaryName := .copy [82, 87, 70, 70, 108, 100]
  enumTypeDictionaryName := .copy [82, 87, 70, 69, 110, 117, 109]
  qos := 3
  supportOutOfBandSnapshots := 0
  acceptConsumerStatus := 0
  serviceState := 1
  acceptingRequests := 1
  status := 2
  openLimit := 100000
  openWindow := 1000
  loadFactor := 1
  linkName := .copy [108]
  linkType := 2
  linkState := 1
  linkCode := 1
  linkText := .copy [117, 112]

end RsslDirectoryApi

end RmdsBridge
