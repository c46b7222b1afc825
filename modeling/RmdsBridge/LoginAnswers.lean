import RmdsBridge.LoginRoundTrip

namespace RmdsBridge

namespace RsslUIntApi

variable {api : RsslUIntApi}

def answerWith (api : RsslUIntApi) (acceptsPosts : Bool) (m : LoginRequestMsg) (position : LoginText) :
    LoginRefreshMsg :=
  api.encodeLoginResponse
    { streamId := m.streamId
      username := .copy (m.name.getD [])
      applicationId := .copy [50, 53, 53]
      applicationName := .copy [66, 114, 105, 100, 103, 101]
      position := position
      supportOMMPost := if acceptsPosts then 1 else 0 }

theorem answerWith_inj {acceptsPosts : Bool} {m : LoginRequestMsg} {t t' : LoginText} :
    api.answerWith acceptsPosts m t = api.answerWith acceptsPosts m t' ↔ t = t' := by
  refine ⟨fun h => ?_, fun h => h ▸ rfl⟩
  have hes := congrArg (fun a => a.attrib.elements) h
  simp only [answerWith, encodeLoginResponse, List.cons.injEq, Prod.mk.injEq, true_and] at hes
  exact CharArray.ext_bytes hes.1

def filledPosition (api : RsslUIntApi) (m : LoginRequestMsg) (r : RsslLoginRequestInfo) : LoginText :=
  (NamedFields.fill api.putRequestElement
    { r with streamId := m.streamId, username := .copy (m.name.getD []) } m.attrib.elements).1.position

theorem putRequestElement_isSome (r₁ r₂ : RsslLoginRequestInfo) (n : LoginElementName) (data : List UInt8) :
    (api.putRequestElement r₁ n data).isSome = (api.putRequestElement r₂ n data).isSome := by
  cases n <;> simp [putRequestElement, readUInt]

theorem putRequestElement_position {r r' : RsslLoginRequestInfo} {n : LoginElementName} {data : List UInt8}
    (h : api.putRequestElement r n data = some r') (hn : n ≠ .position) : r'.position = r.position := by
  have hv := putRequestElement_value h .position hn
  simpa [RsslLoginRequestInfo.value] using hv

structure Acceptable (api : RsslUIntApi) (m : LoginRequestMsg) : Prop where
  key : ¬ (m.name = none ∨ m.nameType = some .other)
  decodes : m.attrib.decodes = true
  ends : m.attrib.ends = true
  elements : ∀ r : RsslLoginRequestInfo, (NamedFields.fill api.putRequestElement r m.attrib.elements).2 = true

theorem acceptable_of_accepted {m : LoginRequestMsg} {acceptsPosts : Bool} {r : RsslLoginRequestInfo}
    {a : LoginRefreshMsg} (ha : api.processLoginRequest acceptsPosts r m = .accepted a) : Acceptable api m := by
  have hkey : ¬ (m.name = none ∨ m.nameType = some .other) := by
    intro hrej
    rw [processLoginRequest, if_pos hrej] at ha
    cases ha
  rw [processLoginRequest, if_neg hkey] at ha
  cases hd : m.attrib.decodes with
  | false => simp [RsslUIntApi.decodeLoginRequest, hd] at ha
  | true =>
    cases hf : (NamedFields.fill api.putRequestElement
        { r with streamId := m.streamId, username := .copy (m.name.getD []) } m.attrib.elements).2 &&
        m.attrib.ends with
    | false => simp [RsslUIntApi.decodeLoginRequest, hd, hf] at ha
    | true =>
      rw [Bool.and_eq_true] at hf
      exact ⟨hkey, hd, hf.2, fun r' => (NamedFields.fill_ok_congr putRequestElement_isSome r' _).trans hf.1⟩

theorem Acceptable.processLoginRequest {m : LoginRequestMsg} (h : Acceptable api m) (acceptsPosts : Bool)
    (r : RsslLoginRequestInfo) :
    api.processLoginRequest acceptsPosts r m =
      .accepted (api.answerWith acceptsPosts m (api.filledPosition m r)) := by
  obtain ⟨hs, hu⟩ := fill_request_key api
    { r with streamId := m.streamId, username := .copy (m.name.getD []) } m.attrib.elements
  rw [RsslUIntApi.processLoginRequest, if_neg h.key]
  simp only [RsslUIntApi.decodeLoginRequest, h.decodes, if_true, h.elements, h.ends, Bool.and_self]
  rw [hs, hu, CharArray.copy_bytes, CharArray.copy_bytes]
  rfl

theorem Acceptable.filledPosition_eq_iff {m : LoginRequestMsg} (h : Acceptable api m)
    (r : RsslLoginRequestInfo) :
    (∀ r', api.filledPosition m r' = api.filledPosition m r) ↔ ∃ e ∈ m.attrib.elements, e.1 = .position := by
  constructor
  · intro hsame
    by_contra hnone
    have hkeep : ∀ r, api.filledPosition m r = r.position := fun r =>
      NamedFields.fill_frame fun e he _ _ hp => putRequestElement_position hp fun hn => hnone ⟨e, he, hn⟩
    have hother : ∃ t : LoginText, t ≠ r.position := by
      by_cases h0 : r.position = .empty
      · exact ⟨.copy [1], by rw [h0]; decide⟩
      · exact ⟨.empty, Ne.symm h0⟩
    obtain ⟨t, ht⟩ := hother
    have hr := hsame { r with position := t }
    rw [hkeep, hkeep] at hr
    exact ht hr
  · intro hmem r'
    refine NamedFields.fill_congr (fun r n d r' hp hn => putRequestElement_position hp hn)
      (fun d r₁ r₂ r₁' r₂' h₁ h₂ => ?_) hmem (h.elements _) (h.elements _)
    rw [← Option.some.inj h₁, ← Option.some.inj h₂]

theorem login_answer_determined {m : LoginRequestMsg} {acceptsPosts : Bool} {r : RsslLoginRequestInfo}
    {a : LoginRefreshMsg} (ha : api.processLoginRequest acceptsPosts r m = .accepted a) :
    (∀ r', api.processLoginRequest acceptsPosts r' m = .accepted a) ↔
      ∃ e ∈ m.attrib.elements, e.1 = .position := by
  have h := acceptable_of_accepted ha
  obtain rfl : a = _ := LoginAnswer.accepted.inj (ha.symm.trans (h.processLoginRequest acceptsPosts r))
  rw [← h.filledPosition_eq_iff r]
  refine forall_congr' fun r' => ?_
  rw [h.processLoginRequest, LoginAnswer.accepted.injEq, answerWith_inj]

def positionless : LoginRequestMsg where
  streamId := 1
  name := some [117]
  nameType := none
  attrib := { elements := [(.appId, [49]), (.singleOpen, [1])] }

theorem login_answer_determined_positionless :
    ¬ ∀ r', rwfUInt.processLoginRequest false r' positionless =
      .accepted (rwfUInt.answerWith false positionless .empty) := by
  have ha : rwfUInt.processLoginRequest false {} positionless =
      .accepted (rwfUInt.answerWith false positionless .empty) := by decide
  intro h
  exact absurd ((login_answer_determined ha).mp h) (by decide)

end RsslUIntApi

end RmdsBridge
