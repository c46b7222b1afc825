import RmdsBridge.DirectoryFields
import RmdsBridge.LoginRoundTrip

namespace RmdsBridge

structure RsslDirectoryApi.Faithful {Q S : Type*} (api : RsslDirectoryApi Q S) : Prop where
  uint : api.toRsslUIntApi.Lawful
  uint1 : ∀ n < 256, api.decodeUInt [n.toUInt8] = some (some n)
  qos : ∀ q, api.decodeQos (api.encodeQos q) = some (some q)
  qosLength : ∀ q, 0 < (api.encodeQos q).length ∧ (api.encodeQos q).length < 65536
  state : ∀ s, api.decodeState (api.encodeState s) = some (some s)
  array : ∀ items, items.length < 65536 → (∀ i ∈ items, i.length < 65536) →
    api.decodeArray (api.encodeArray items) = some (items.map fun i => if i = [] then none else some i, true)

def ReadAs {α : Type*} (read : List UInt8 → α → Option α) (cleared v : α) (item : List UInt8) : Prop :=
  if item = [] then v = cleared else ∀ old, read item old = some v

theorem fillSlots_eq {α : Type*} {n : ℕ} {read : List UInt8 → α → Option α} {cleared : α} {vs : List α}
    {items : List (List UInt8)} (hread : List.Forall₂ (ReadAs read cleared) vs items) (i : ℕ)
    {slots : Fin n → α} (hslots : ∀ j : Fin n, i ≤ j → slots j = cleared) :
    fillSlots read i slots (items.map fun item => if item = [] then none else some item) true =
      some fun j : Fin n => if (j : ℕ) < i then slots j else (vs[(j : ℕ) - i]?).getD cleared := by
  induction hread generalizing i slots with
  | nil =>
    simp only [List.map_nil, fillSlots, true_or, if_true, Option.some.injEq, List.getElem?_nil, Option.getD_none]
    funext j
    split_ifs with hj
    · rfl
    · exact hslots j (Nat.le_of_not_lt hj)
  | @cons v item vs items hv _ ih =>
    by_cases hi : i < n
    · -- Whether the item is blank or not, the slot has its value and the rest goes on behind it.
      have hstep : fillSlots read i slots
          ((item :: items).map fun item => if item = [] then none else some item) true =
          fillSlots read (i + 1) (Function.update slots ⟨i, hi⟩ v)
            (items.map fun item => if item = [] then none else some item) true := by
        by_cases hitem : item = []
        · rw [ReadAs, if_pos hitem] at hv
          have hsame : Function.update slots ⟨i, hi⟩ v = slots := by
            rw [hv, ← hslots ⟨i, hi⟩ (Nat.le_refl i), Function.update_eq_self]
          simp [fillSlots, hi, hitem, hsame]
        · rw [ReadAs, if_neg hitem] at hv
          simp [fillSlots, hi, hitem, hv]
      have hrest : ∀ j : Fin n, i + 1 ≤ j → Function.update slots ⟨i, hi⟩ v j = cleared := by
        intro j hj
        rw [Function.update_of_ne (fun h => by simp [h] at hj)]
        exact hslots j (Nat.le_of_succ_le hj)
      rw [hstep, ih (i + 1) hrest]
      congr 1
      funext j
      by_cases hj : j = ⟨i, hi⟩
      · subst hj
        simp
      · have hne : (j : ℕ) ≠ i := fun h => hj (Fin.ext h)
        by_cases hlt : (j : ℕ) < i
        · simp [hlt, Function.update_of_ne hj, Nat.lt_succ_of_lt hlt]
        · have hsub : (j : ℕ) - i = ((j : ℕ) - (i + 1)) + 1 := by omega
          have hlt' : ¬ (j : ℕ) < i + 1 := by omega
          simp only [hlt, hlt', if_false, hsub, List.getElem?_cons_succ]
    · simp only [List.map_cons, fillSlots, hi, dif_neg, not_false_eq_true]
      congr 1
      funext j
      rw [if_pos (by omega)]

theorem getElem?_takeWhile {α : Type*} (p : α → Bool) (l : List α) (j : ℕ) :
    (l.takeWhile p)[j]? = if ∀ k ≤ j, ∀ a ∈ l[k]?, p a = true then l[j]? else none := by
  induction l generalizing j with
  | nil => simp
  | cons a l ih =>
    by_cases ha : p a = true
    · rw [List.takeWhile_cons_of_pos ha]
      cases j with
      | zero => simp [ha]
      | succ j =>
        rw [List.getElem?_cons_succ, List.getElem?_cons_succ, ih]
        congr 1
        refine propext ⟨fun h k hk => ?_, fun h k hk => h (k + 1) (Nat.succ_le_succ hk)⟩
        cases k with
        | zero => simp [ha]
        | succ k => exact h k (Nat.le_of_succ_le_succ hk)
    · rw [List.takeWhile_cons_of_neg ha, if_neg]
      · rfl
      · exact fun h => ha (h 0 (Nat.zero_le j) a rfl)

theorem forall₂_of_mapM {α β : Type*} {f : α → Option β} {l : List α} {items : List β}
    (h : l.mapM f = some items) : List.Forall₂ (fun a b => f a = some b) l items := by
  induction l generalizing items with
  | nil =>
    obtain rfl : items = [] := by simpa using h.symm
    exact .nil
  | cons a l ih =>
    rw [List.mapM_cons] at h
    obtain ⟨b, hb, h⟩ := Option.bind_eq_some_iff.mp h
    obtain ⟨bs, hbs, h⟩ := Option.bind_eq_some_iff.mp h
    obtain rfl : items = b :: bs := by simpa using h.symm
    exact .cons hb (ih hbs)

theorem length_of_encodeUInt1 {vs : List UInt64} {items : List (List UInt8)}
    (h : List.Forall₂ (fun v item => encodeUInt1 v = some item) vs items) : ∀ i ∈ items, i.length = 1 := by
  induction h with
  | nil => simp
  | cons hv _ ih =>
    simp only [encodeUInt1, Option.ite_none_right_eq_some, Option.some.injEq] at hv
    intro i hi
    rcases List.mem_cons.mp hi with rfl | hi
    · rw [← hv.2]
      rfl
    · exact ih i hi

theorem mapM_encodeUInt1 {vs : List UInt64} (h : ∀ v ∈ vs, v < 256) : ∃ items, vs.mapM encodeUInt1 = some items := by
  induction vs with
  | nil => exact ⟨[], rfl⟩
  | cons v vs ih =>
    obtain ⟨items, hi⟩ := ih fun v hv => h v (List.mem_cons_of_mem _ hv)
    exact ⟨[v.toUInt8] :: items, by simp [List.mapM_cons, encodeUInt1, h v List.mem_cons_self, hi]⟩

theorem capabilityItems_isSome {Q S : Type*} {src : ServiceSource Q S} (h : ∀ j, src.capabilities j < 256) :
    ∃ items, src.capabilityItems = some items := by
  refine mapM_encodeUInt1 fun v hv => ?_
  obtain ⟨j, rfl⟩ := (List.mem_ofFn' _ _).mp ((List.takeWhile_sublist _).mem hv)
  exact h j

namespace RsslDirectoryApi

variable {Q S : Type*} {api : RsslDirectoryApi Q S} {src : ServiceSource Q S}

theorem Faithful.readArray (h : api.Faithful) {α : Type*} {n : ℕ} {read : List UInt8 → α → Option α}
    {cleared : α} {vs : List α} {items : List (List UInt8)}
    (hread : List.Forall₂ (ReadAs read cleared) vs items) (hitems : items.length < 65536)
    (hitem : ∀ i ∈ items, i.length < 65536) :
    api.readArray read (api.encodeArray items) (fun _ : Fin n => cleared) =
      some fun j : Fin n => (vs[(j : ℕ)]?).getD cleared := by
  rw [RsslDirectoryApi.readArray, h.array items hitems hitem, Option.bind_some,
    fillSlots_eq hread 0 fun _ _ => rfl]
  simp

theorem Faithful.capabilities (h : api.Faithful) {items : List (List UInt8)}
    (hi : src.capabilityItems = some items) :
    api.readArray api.readUInt (api.encodeArray items) (fun _ : Fin maxCapabilities => (0 : UInt64)) =
      some fun j => if ∀ k ≤ j, src.capabilities k ≠ 0 then src.capabilities j else 0 := by
  have hall := forall₂_of_mapM hi
  have hread : List.Forall₂ (ReadAs api.readUInt 0) ((List.ofFn src.capabilities).takeWhile (· ≠ 0)) items := by
    refine hall.imp fun v item hv => ?_
    simp only [encodeUInt1, Option.ite_none_right_eq_some, Option.some.injEq] at hv
    obtain ⟨hlt, rfl⟩ := hv
    simp [ReadAs, RsslUIntApi.readUInt, h.uint1 v hlt]
  have hlen : items.length < 65536 := by
    have h1 := hall.length_eq
    have h2 := (List.takeWhile_sublist (fun n : UInt64 => decide (n ≠ 0))
      (l := List.ofFn src.capabilities)).length_le
    rw [List.length_ofFn] at h2
    have h3 : maxCapabilities = 10 := rfl
    omega
  have hitem : ∀ i ∈ items, i.length < 65536 := by
    intro i hmem
    rw [length_of_encodeUInt1 hall i hmem]
    decide
  rw [h.readArray hread hlen hitem]
  congr 1
  funext j
  rw [getElem?_takeWhile]
  by_cases hall : ∀ k ≤ j, src.capabilities k ≠ 0
  · rw [if_pos hall, if_pos]
    · simp
    · intro k hk a ha
      have hlt : k < maxCapabilities := hk.trans_lt j.isLt
      rw [List.getElem?_ofFn, dif_pos hlt, Option.mem_some_iff] at ha
      simpa [← ha] using hall ⟨k, hlt⟩ hk
  · rw [if_neg hall, if_neg]
    · rfl
    · intro hk
      refine hall fun k hkj => ?_
      simpa using hk k hkj (src.capabilities k) (by simp)

theorem readAs_text (t : DirectoryText) : ReadAs readText .empty t t.bytes := by
  unfold ReadAs
  split_ifs with h
  · exact CharArray.ext_bytes h
  · simp [readText]

theorem Faithful.general (h : api.Faithful) {items : List (List UInt8)}
    (hi : src.capabilityItems = some items) :
    ∃ elements, api.encodeServiceGeneralInfo src = some (.info elements) ∧
      decodeElements api.putGeneralInfo { qos := fun _ => api.clearedQos } elements =
        some (src.toInfo api ⟨true, false, false, false, false, false⟩).general := by
  refine ⟨_, by rw [encodeServiceGeneralInfo, hi]; rfl, ?_⟩
  have hlen : ∀ t : DirectoryText, t.bytes.length < 65536 := fun t =>
    t.short.trans (by decide)
  have htexts : List.Forall₂ (ReadAs readText .empty) [src.fieldDictionaryName, src.enumTypeDictionaryName]
      [src.fieldDictionaryName.bytes, src.enumTypeDictionaryName.bytes] := by
    simp [readAs_text]
  have hqos : List.Forall₂ (ReadAs api.readQos api.clearedQos) [src.qos] [api.encodeQos src.qos] := by
    have hne : api.encodeQos src.qos ≠ [] := List.ne_nil_of_length_pos (h.qosLength src.qos).1
    simp [ReadAs, hne, readQos, h.qos]
  simp only [decodeElements, NamedFields.fill, putGeneralInfo, CharArray.copy_bytes, h.capabilities hi,
    Option.map_some, h.readArray htexts (by simp) (by simp [hlen]),
    h.readArray hqos (by simp) (by simp [(h.qosLength src.qos).2]), h.uint.readUInt, if_true]
  rfl

theorem Faithful.state_info (h : api.Faithful) (src : ServiceSource Q S) :
    ∃ elements, api.encodeServiceStateInfo src = .state elements ∧
      decodeElements api.putStateInfo { status := api.clearedState } elements =
        some ⟨src.serviceState, src.acceptingRequests, src.status⟩ := by
  refine ⟨_, rfl, ?_⟩
  simp [decodeElements, NamedFields.fill, putStateInfo, readState, h.uint.readUInt, h.state]

theorem Faithful.load_info (h : api.Faithful) (src : ServiceSource Q S) :
    ∃ elements, api.encodeServiceLoadInfo src = .load elements ∧
      decodeElements api.putLoadInfo {} elements = some ⟨src.openLimit, src.openWindow, src.loadFactor⟩ := by
  refine ⟨_, rfl, ?_⟩
  simp [decodeElements, NamedFields.fill, putLoadInfo, h.uint.readUInt]

theorem Faithful.link_info (h : api.Faithful) (src : ServiceSource Q S) :
    ∃ links, api.encodeServiceLinkInfo src = .link links ∧
      api.decodeLinks 0 (fun _ => {}) links =
        some (Function.update (fun _ => {}) ⟨0, by decide⟩
          ⟨src.linkName, src.linkType, src.linkState, src.linkCode, src.linkText⟩) := by
  refine ⟨_, rfl, ?_⟩
  have h0 : 0 < maxLinks := by decide
  simp [decodeLinks, h0, decodeElements, NamedFields.fill, putLinkInfo, h.uint.readUInt]

theorem Faithful.decodeService (h : api.Faithful) (filter : DirectoryFilter) {items : List (List UInt8)}
    (hi : src.capabilityItems = some items) :
    ∃ e, api.encodeSourceDirectoryInfo src filter = some e ∧
      api.decodeService e = some (src.toInfo api filter, filter.state) := by
  obtain ⟨gs, hg, hgd⟩ := h.general hi
  obtain ⟨ss, hs, hsd⟩ := h.state_info src
  obtain ⟨ls, hl, hld⟩ := h.load_info src
  obtain ⟨ks, hk, hkd⟩ := h.link_info src
  obtain ⟨info, state, group, load, data, link⟩ := filter
  have henc : api.encodeSourceDirectoryInfo src ⟨info, state, group, load, data, link⟩ =
      some ⟨src.serviceId, (if info then [.info gs] else []) ++ (if state then [.state ss] else []) ++
        (if load then [.load ls] else []) ++ if link then [.link ks] else []⟩ := by
    rw [encodeSourceDirectoryInfo, hg, hs, hl, hk]
    cases info <;> rfl
  refine ⟨_, henc, ?_⟩
  cases info <;> cases state <;> cases load <;> cases link <;>
    simp [RsslDirectoryApi.decodeService, decodeFilter, clearedInfo, hgd, hsd, hld, hkd] <;> rfl

end RsslDirectoryApi

end RmdsBridge
