import RmdsBridge.LoginCodec

namespace RmdsBridge

namespace RsslUIntApi

variable {api : RsslUIntApi}

def Lawful (api : RsslUIntApi) : Prop := ∀ n, api.decodeUInt (api.encodeUInt n) = some (some n)

theorem Lawful.readUInt (h : api.Lawful) (n old : UInt64) : api.readUInt (api.encodeUInt n) old = some n := by
  simp [RsslUIntApi.readUInt, h n]

theorem putRequestElement_value {r r' : RsslLoginRequestInfo} {n : LoginElementName} {data : List UInt8}
    (h : api.putRequestElement r n data = some r') (m : LoginElementName) (hne : n ≠ m) :
    r'.value m = r.value m := by
  cases n <;> simp only [putRequestElement, Option.some.injEq, Option.map_eq_some_iff] at h <;>
    (first | subst h | obtain ⟨_, -, rfl⟩ := h) <;> cases m <;> first | rfl | exact absurd rfl hne

theorem putRequestElement_key {r r' : RsslLoginRequestInfo} {n : LoginElementName} {data : List UInt8}
    (h : api.putRequestElement r n data = some r') :
    (r'.streamId, r'.username) = (r.streamId, r.username) := by
  cases n <;> simp only [putRequestElement, Option.some.injEq, Option.map_eq_some_iff] at h <;>
    first | (subst h; rfl) | (obtain ⟨_, -, rfl⟩ := h; rfl)

theorem Lawful.putRequestElement (h : api.Lawful) {info : RsslLoginRequestInfo} (r : RsslLoginRequestInfo)
    (n : LoginElementName) (v : LoginValue) (hv : info.value n = some v) :
    ∃ r', api.putRequestElement r n (api.encodeValue v) = some r' ∧ r'.value n = some v := by
  cases n <;> simp only [RsslLoginRequestInfo.value, Option.some.injEq, reduceCtorEq] at hv <;> subst hv <;>
    simp [RsslUIntApi.putRequestElement, encodeValue, h.readUInt, RsslLoginRequestInfo.value]

theorem putResponseElement_value {r r' : RsslLoginResponseInfo} {n : LoginElementName} {data : List UInt8}
    (h : api.putResponseElement r n data = some r') (m : LoginElementName) (hne : n ≠ m) :
    r'.value m = r.value m := by
  cases n <;> simp only [putResponseElement, Option.some.injEq, Option.map_eq_some_iff] at h <;>
    (first | subst h | obtain ⟨_, -, rfl⟩ := h) <;> cases m <;> first | rfl | exact absurd rfl hne

theorem putResponseElement_key {r r' : RsslLoginResponseInfo} {n : LoginElementName} {data : List UInt8}
    (h : api.putResponseElement r n data = some r') :
    (r'.streamId, r'.username, r'.isSolicited) = (r.streamId, r.username, r.isSolicited) := by
  cases n <;> simp only [putResponseElement, Option.some.injEq, Option.map_eq_some_iff] at h <;>
    first | (subst h; rfl) | (obtain ⟨_, -, rfl⟩ := h; rfl)

theorem Lawful.putResponseElement (h : api.Lawful) {info : RsslLoginResponseInfo} (r : RsslLoginResponseInfo)
    (n : LoginElementName) (v : LoginValue) (hv : info.value n = some v) :
    ∃ r', api.putResponseElement r n (api.encodeValue v) = some r' ∧ r'.value n = some v := by
  cases n <;> simp only [RsslLoginResponseInfo.value, Option.some.injEq, reduceCtorEq] at hv <;> subst hv <;>
    simp [RsslUIntApi.putResponseElement, encodeValue, h.readUInt, RsslLoginResponseInfo.value]

structure CarriesRequest (api : RsslUIntApi) (info : RsslLoginRequestInfo) (m : LoginRequestMsg) : Prop where
  streamId : m.streamId = info.streamId
  name : m.name = some info.username.bytes
  nameType : m.nameType ≠ some .other
  decodes : m.attrib.decodes = true
  ends : m.attrib.ends = true
  elements : NamedFields.Carries info.value api.encodeValue m.attrib.elements

theorem Lawful.fill_request (hl : api.Lawful) {info : RsslLoginRequestInfo} {es : List LoginElement}
    (hes : NamedFields.Carries info.value api.encodeValue es) (r : RsslLoginRequestInfo) :
    (NamedFields.fill api.putRequestElement r es).2 = true ∧
      ∀ n, (NamedFields.fill api.putRequestElement r es).1.value n = info.value n :=
  NamedFields.fill_of_carries (fun _ _ _ _ h => putRequestElement_value h)
    (fun r n v hv => hl.putRequestElement r n v hv)
    (fun r n hn => by cases n <;> first | rfl | cases hn)
    (fun r n d hn => by cases n <;> first | rfl | cases hn) hes

theorem Lawful.fill_response (hl : api.Lawful) {info : RsslLoginResponseInfo} {es : List LoginElement}
    (hes : NamedFields.Carries info.value api.encodeValue es) (r : RsslLoginResponseInfo) :
    (NamedFields.fill api.putResponseElement r es).2 = true ∧
      ∀ n, (NamedFields.fill api.putResponseElement r es).1.value n = info.value n :=
  NamedFields.fill_of_carries (fun _ _ _ _ h => putResponseElement_value h)
    (fun r n v hv => hl.putResponseElement r n v hv)
    (fun r n hn => by cases n <;> first | rfl | cases hn)
    (fun r n d hn => by cases n <;> first | rfl | cases hn) hes

theorem fill_request_key (api : RsslUIntApi) (r : RsslLoginRequestInfo) (es : List LoginElement) :
    (NamedFields.fill api.putRequestElement r es).1.streamId = r.streamId ∧
      (NamedFields.fill api.putRequestElement r es).1.username = r.username := by
  let key : RsslLoginRequestInfo → ℤ × LoginText := fun r => (r.streamId, r.username)
  have h : key (NamedFields.fill api.putRequestElement r es).1 = key r :=
    NamedFields.fill_frame fun _ _ _ _ h => putRequestElement_key h
  exact ⟨congrArg Prod.fst h, congrArg Prod.snd h⟩

theorem fill_response_key (api : RsslUIntApi) (r : RsslLoginResponseInfo) (es : List LoginElement) :
    (NamedFields.fill api.putResponseElement r es).1.streamId = r.streamId ∧
      (NamedFields.fill api.putResponseElement r es).1.username = r.username ∧
      (NamedFields.fill api.putResponseElement r es).1.isSolicited = r.isSolicited := by
  let key : RsslLoginResponseInfo → ℤ × LoginText × Bool := fun r => (r.streamId, r.username, r.isSolicited)
  have h : key (NamedFields.fill api.putResponseElement r es).1 = key r :=
    NamedFields.fill_frame fun _ _ _ _ h => putResponseElement_key h
  exact ⟨congrArg Prod.fst h, congrArg (fun k => k.2.1) h, congrArg (fun k => k.2.2) h⟩

theorem Lawful.decodeLoginRequest (hl : api.Lawful) {info : RsslLoginRequestInfo} {m : LoginRequestMsg}
    (hm : CarriesRequest api info m) (r : RsslLoginRequestInfo) :
    api.decodeLoginRequest r m = (info, true) := by
  obtain ⟨hok, hval⟩ := hl.fill_request hm.elements
    { r with streamId := m.streamId, username := .copy (m.name.getD []) }
  obtain ⟨hs, hu⟩ := fill_request_key api
    { r with streamId := m.streamId, username := .copy (m.name.getD []) } m.attrib.elements
  simp only [RsslUIntApi.decodeLoginRequest, hm.decodes, if_true, hok, hm.ends, Bool.and_self, Prod.mk.injEq,
    and_true]
  refine RsslLoginRequestInfo.ext_value (hs.trans hm.streamId) (hu.trans ?_) hval
  simp [hm.name]

def requestElementNames : List LoginElementName :=
  [.appId, .appName, .position, .password, .provPermProf, .provPermExp, .singleOpen, .allowSuspectData,
    .instId, .role, .downloadConConfig]

def responseElementNames : List LoginElementName :=
  [.appId, .appName, .position, .provPermProf, .provPermExp, .singleOpen, .allowSuspectData, .supportPR,
    .supportOPR, .supportPost, .supportView, .supportBatch, .supportStandby]

theorem carries_encodeLoginRequest (api : RsslUIntApi) (info : RsslLoginRequestInfo) (b : Bool) :
    CarriesRequest api info (api.encodeLoginRequest b info) := by
  refine ⟨rfl, rfl, by simp [encodeLoginRequest], rfl, rfl, ?_⟩
  have hnames : ∀ n v, info.value n = some v → n ∈ requestElementNames := by
    intro n v hv
    cases n <;> first | cases hv; done | decide
  refine (NamedFields.carries_filterMap hnames api.encodeValue).append fun e he => ?_
  cases b
  · cases he
  · obtain rfl := List.mem_singleton.mp he
    rfl

structure CarriesResponse (api : RsslUIntApi) (info : RsslLoginResponseInfo) (m : LoginRefreshMsg) : Prop where
  streamId : m.streamId = info.streamId
  solicited : m.solicited = info.isSolicited
  name : m.name = some info.username.bytes
  decodes : m.attrib.decodes = true
  ends : m.attrib.ends = true
  elements : NamedFields.Carries info.value api.encodeValue m.attrib.elements

theorem Lawful.decodeLoginResponse (hl : api.Lawful) {info : RsslLoginResponseInfo} {m : LoginRefreshMsg}
    (hm : CarriesResponse api info m) : api.decodeLoginResponse m = (info, true) := by
  obtain ⟨hok, hval⟩ := hl.fill_response hm.elements
    { streamId := m.streamId, isSolicited := m.solicited, username := .copy (m.name.getD []) }
  obtain ⟨hs, hu, hi⟩ := fill_response_key api
    { streamId := m.streamId, isSolicited := m.solicited, username := .copy (m.name.getD []) }
    m.attrib.elements
  simp only [RsslUIntApi.decodeLoginResponse, hm.decodes, if_true, hok, hm.ends, Bool.and_self, Prod.mk.injEq,
    and_true]
  refine RsslLoginResponseInfo.ext_value (hs.trans hm.streamId) (hu.trans ?_) (hi.trans hm.solicited) hval
  simp [hm.name]

theorem carries_encodeLoginResponse (api : RsslUIntApi) {info : RsslLoginResponseInfo}
    (hi : info.isSolicited = true) : CarriesResponse api info (api.encodeLoginResponse info) := by
  refine ⟨rfl, hi.symm, rfl, rfl, rfl, ?_⟩
  have hnames : ∀ n v, info.value n = some v → n ∈ responseElementNames := by
    intro n v hv
    cases n <;> first | cases hv; done | decide
  exact NamedFields.carries_filterMap hnames api.encodeValue

/-- A login of the bridge is accepted by a provider of the bridge, for any settings. Texts come through
as far as they fit, whatever the record for the request held before. -/
theorem login_accepted (hl : api.Lawful) (s : LoginSettings) {m : LoginRequestMsg}
    (hm : CarriesRequest api s.loginReqInfo m) (acceptsPosts : Bool) (r : RsslLoginRequestInfo) (l : UPALogin) :
    api.decodeLoginRequest r m = (s.loginReqInfo, true) ∧
      ∃ a, api.processLoginRequest acceptsPosts r m = .accepted a ∧
        api.decodeLoginResponse a = (s.acceptedInfo acceptsPosts, true) ∧
        (l.processLoginResponse (api.loginMsg a)).notified = some true := by
  have hdec := hl.decodeLoginRequest hm r
  have hnot : ¬ (m.name = none ∨ m.nameType = some .other) := by
    rintro (h | h)
    · rw [hm.name] at h
      cases h
    · exact hm.nameType h
  have hcarries : CarriesResponse api (s.acceptedInfo acceptsPosts) _ := carries_encodeLoginResponse api rfl
  have hresp := hl.decodeLoginResponse hcarries
  refine ⟨hdec, _, ?_, hresp, ?_⟩
  · rw [processLoginRequest, if_neg hnot, hdec]
    simp only [LoginSettings.loginReqInfo, CharArray.copy_bytes]
    rfl
  · rw [loginMsg, hresp]
    rfl

/-- A number is written as its bytes, the highest first, and up to eight of them are read. -/
def rwfUInt : RsslUIntApi where
  encodeUInt n := if n = 0 then [0] else ((Nat.digits 256 n.toNat).map UInt8.ofNat).reverse
  decodeUInt data :=
    if data = [] then some none
    else if data.length ≤ 8 then some (some (UInt64.ofNat (Nat.ofDigits 256 (data.reverse.map UInt8.toNat))))
    else none

theorem length_digits (n : UInt64) : (Nat.digits 256 n.toNat).length ≤ 8 := by
  refine (Nat.digits_length_le_iff (by decide) _).mpr ?_
  have := n.toNat_lt
  omega

theorem rwfUInt_lawful : rwfUInt.Lawful := by
  intro n
  by_cases h0 : n = 0
  · subst h0
    rfl
  · have hpos : n.toNat ≠ 0 := fun h => h0 (UInt64.toNat_inj.mp (by simpa using h))
    have hne : Nat.digits 256 n.toNat ≠ [] := Nat.digits_ne_nil_iff_ne_zero.mpr hpos
    have hlen := length_digits n
    have hmap : (Nat.digits 256 n.toNat).map (UInt8.toNat ∘ UInt8.ofNat) = Nat.digits 256 n.toNat := by
      refine (List.map_congr_left fun d hd => ?_).trans (List.map_id _)
      have hlt := Nat.digits_lt_base (by decide) hd
      simp [UInt8.toNat_ofNat', Nat.mod_eq_of_lt hlt]
    simp only [rwfUInt, if_neg h0, List.reverse_eq_nil_iff, List.map_eq_nil_iff, hne, if_false,
      List.length_reverse, List.length_map, hlen, if_true, List.reverse_reverse, List.map_map, hmap,
      Nat.ofDigits_digits, UInt64.ofNat_toNat]

theorem login_accepted_consumer :
    let s : LoginSettings := ⟨[117, 49], [50, 53, 54], [], [104, 47, 110, 101, 116], [112], [105], false, true,
      true⟩
    ∃ a, rwfUInt.processLoginRequest true { position := .copy [120] }
        (rwfUInt.encodeLoginRequest s.disableDataConversion s.loginReqInfo) = .accepted a ∧
      rwfUInt.decodeLoginResponse a = (s.acceptedInfo true, true) ∧
      (UPALogin.processLoginResponse {} (rwfUInt.loginMsg a)).notified = some true := by
  intro s
  exact (login_accepted rwfUInt_lawful s (carries_encodeLoginRequest rwfUInt s.loginReqInfo true) true
    { position := .copy [120] } {}).2

end RsslUIntApi

end RmdsBridge
