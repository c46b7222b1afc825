import RmdsBridge.StreamExclusive

namespace RmdsBridge

variable {P L : Type}

namespace UPAStreamManager

variable {m : UPAStreamManager P} {ids : P → ℕ} {s t : P}

theorem getItem_addItem (hids : m.Assigned ids ∅) (s : P) (ht : m.getItem (ids t) = some t) :
    (m.addItem s).2.getItem (ids t) = some t := by
  have hkeep {i : ℕ} (hi : m.itemArray i = none) :
      Function.update m.itemArray i (some s) (streamId2Index (ids t)) = some t := by
    rw [Function.update_of_ne]
    · exact ht
    · rintro rfl
      cases hi.symm.trans ht
  unfold addItem
  by_cases hfull : numStreamIds ≤ m.nextIndex
  · rw [if_pos hfull]
    cases hf : m.freeStreamIds with
    | nil => exact ht
    | cons i free =>
      simp only [getItem]
      apply hkeep
      exact (hids.item_of_free i (by rw [hf]; exact List.mem_cons_self)).2
  · rw [if_neg hfull]
    simp only [getItem]
    apply hkeep
    by_contra hsome
    obtain ⟨u, hu⟩ := Option.ne_none_iff_exists'.mp hsome
    exact lt_irrefl _ (hids.id_of_item _ u hu).2

theorem getItem_releaseStreamId (hs : m.getItem (ids s) = some s) (ht : m.getItem (ids t) = some t)
    (hne : t ≠ s) : (m.releaseStreamId (ids s)).getItem (ids t) = some t := by
  simp only [getItem, releaseStreamId] at ht ⊢
  rw [Function.update_of_ne]
  · exact ht
  · intro he
    unfold getItem at hs
    rw [he, hs] at ht
    exact hne (Option.some.inj ht).symm

end UPAStreamManager

namespace UPAConsumer

variable [DecidableEq P]

def requestsOf (c : UPAConsumer P L) (s : P) : List RequestKind :=
  (c.requestQueue.filter fun r => r.sub = s).map Request.kind

def InUse (c : UPAConsumer P L) (kept : Prop) (s : P) : Prop :=
  kept ∨ c.requestsOf s ≠ [] ∨ (c.subscriptions s).snapShot = true

structure Orderly (c : UPAConsumer P L) (kept : Prop) (s : P) : Prop where
  item : c.ids s ≠ 0 → c.InUse kept s → c.streamManager.getItem (c.ids s) = some s
  closes : kept → RequestKind.close ∉ c.requestsOf s
  last : RequestKind.close ∉ (c.requestsOf s).dropLast
  snapshot : (c.subscriptions s).snapShot = true →
    ¬ kept ∧ (c.requestsOf s = [] ∨ c.ids s = 0 ∧ (c.requestsOf s).length = 1)

structure Called (c c' : UPAConsumer P L) (s : P) (sub : UPASubscription L) (ks : List RequestKind) :
    Prop where
  subscriptions : c'.subscriptions = Function.update c.subscriptions s sub
  streamId : sub.streamId = c.ids s
  manager : ∃ o p, c'.streamManager = { c.streamManager with openItems := o, pendingCloses := p }
  requests : c'.requestQueue = c.requestQueue ++ ks.map fun k => ⟨k, s⟩

variable {c c' : UPAConsumer P L} {opened : Finset P} {s t : P} {sub : UPASubscription L}
  {ks : List RequestKind} {kept kept' : Prop}

theorem requestsOf_append {rs : List (Request P)} (h : c'.requestQueue = c.requestQueue ++ rs) (t : P) :
    c'.requestsOf t = c.requestsOf t ++ (rs.filter fun r => r.sub = t).map Request.kind := by
  unfold requestsOf
  rw [h, List.filter_append, List.map_append]

namespace Called

theorem requestsOf_self (h : c.Called c' s sub ks) : c'.requestsOf s = c.requestsOf s ++ ks := by
  rw [requestsOf_append h.requests]
  congr 1
  rw [List.filter_eq_self.mpr (by simp), List.map_map]
  exact List.map_id ks

theorem requestsOf_of_ne (h : c.Called c' s sub ks) (ht : t ≠ s) :
    c'.requestsOf t = c.requestsOf t := by
  rw [requestsOf_append h.requests, List.filter_eq_nil_iff.mpr (by simp [ht.symm])]
  exact List.append_nil _

theorem subscription_self (h : c.Called c' s sub ks) : c'.subscriptions s = sub := by
  rw [h.subscriptions, Function.update_self]

theorem subscription_of_ne (h : c.Called c' s sub ks) (ht : t ≠ s) :
    c'.subscriptions t = c.subscriptions t := by
  rw [h.subscriptions, Function.update_of_ne ht]

theorem ids_eq (h : c.Called c' s sub ks) : c'.ids = c.ids := by
  funext t
  by_cases ht : t = s
  · unfold ids
    rw [ht, h.subscription_self]
    exact h.streamId
  · unfold ids
    rw [h.subscription_of_ne ht]

theorem getItem_eq (h : c.Called c' s sub ks) (id : ℕ) :
    c'.streamManager.getItem id = c.streamManager.getItem id := by
  obtain ⟨o, p, hm⟩ := h.manager
  rw [hm]
  rfl

theorem held (h : c.Called c' s sub ks) (hc : c.Held opened) : c'.Held opened := by
  obtain ⟨o, p, hm⟩ := h.manager
  unfold Held
  rw [h.ids_eq, hm]
  exact UPAStreamManager.Assigned.congr hc rfl rfl rfl

theorem append {c'' : UPAConsumer P L} {sub' : UPASubscription L} {ks' : List RequestKind}
    (h : c.Called c' s sub ks) (h' : c'.Called c'' s sub' ks') : c.Called c'' s sub' (ks ++ ks') where
  subscriptions := by rw [h'.subscriptions, h.subscriptions, Function.update_idem]
  streamId := by rw [h'.streamId, h.ids_eq]
  manager := by
    obtain ⟨o, p, hm⟩ := h.manager
    obtain ⟨o', p', hm'⟩ := h'.manager
    exact ⟨o', p', by rw [hm', hm]⟩
  requests := by rw [h'.requests, h.requests, List.append_assoc, List.map_append]

theorem other (h : c.Called c' s sub ks) (ht : t ≠ s) (ho : c.Orderly kept t) : c'.Orderly kept t := by
  have hr := h.requestsOf_of_ne ht
  have hs := h.subscription_of_ne ht
  have hi := congrFun h.ids_eq t
  refine ⟨fun hid hu => ?_, fun hk => ?_, ?_, fun hsnap => ?_⟩
  · rw [h.getItem_eq, hi]
    rw [hi] at hid
    unfold InUse at hu
    rw [hr, hs] at hu
    exact ho.item hid hu
  · rw [hr]
    exact ho.closes hk
  · rw [hr]
    exact ho.last
  · rw [hs] at hsnap
    rw [hr, hi]
    exact ho.snapshot hsnap

theorem asks (h : c.Called c' s sub ks) (hsnap : sub.snapShot = (c.subscriptions s).snapShot)
    (hks : RequestKind.close ∉ ks) (hk : ks ≠ [] → kept) (ho : c.Orderly kept s) :
    c'.Orderly kept s := by
  have hr := h.requestsOf_self
  have hs := h.subscription_self
  have hi := congrFun h.ids_eq s
  by_cases hnil : ks = []
  · rw [hnil, List.append_nil] at hr
    refine ⟨fun hid hu => ?_, fun hk => ?_, ?_, fun hsn => ?_⟩
    · rw [h.getItem_eq, hi]
      rw [hi] at hid
      unfold InUse at hu
      rw [hr, hs, hsnap] at hu
      exact ho.item hid hu
    · rw [hr]
      exact ho.closes hk
    · rw [hr]
      exact ho.last
    · rw [hs, hsnap] at hsn
      rw [hr, hi]
      exact ho.snapshot hsn
  · have hkept := hk hnil
    have hno : RequestKind.close ∉ c'.requestsOf s := by
      rw [hr, List.mem_append, not_or]
      exact ⟨ho.closes hkept, hks⟩
    refine ⟨fun hid _ => ?_, fun _ => hno, fun hl => hno (List.mem_of_mem_dropLast hl), fun hsn => ?_⟩
    · rw [h.getItem_eq, hi]
      rw [hi] at hid
      exact ho.item hid (.inl hkept)
    · rw [hs, hsnap] at hsn
      exact absurd hkept (ho.snapshot hsn).1

theorem gives_up (h : c.Called c' s sub ks) (hsnap : sub.snapShot = (c.subscriptions s).snapShot)
    (hks : ks = [] ∨ ks = [.close]) (hk : kept) (ho : c.Orderly kept s) : c'.Orderly False s := by
  have hr := h.requestsOf_self
  have hi := congrFun h.ids_eq s
  have hnosnap : ¬ (c.subscriptions s).snapShot = true := fun hsn => (ho.snapshot hsn).1 hk
  refine ⟨fun hid _ => ?_, False.elim, ?_, fun hsn => ?_⟩
  · rw [h.getItem_eq, hi]
    rw [hi] at hid
    exact ho.item hid (.inl hk)
  · rw [hr]
    rcases hks with rfl | rfl
    · rw [List.append_nil]
      exact ho.last
    · rw [List.dropLast_concat]
      exact ho.closes hk
  · rw [h.subscription_self, hsnap] at hsn
    exact absurd hsn hnosnap

theorem takes_snapshot (h : c.Called c' s sub [.snapshot]) (hid : c.ids s = 0)
    (hr : c.requestsOf s = []) : c'.Orderly False s := by
  have hr' := h.requestsOf_self
  have hid' := (congrFun h.ids_eq s).trans hid
  rw [hr] at hr'
  refine ⟨fun hne _ => absurd hid' hne, False.elim, ?_, fun _ => ⟨id, .inr ⟨hid', ?_⟩⟩⟩
  · rw [hr']
    exact List.not_mem_nil
  · rw [hr']
    rfl

end Called

theorem requestsOf_cons {r : Request P} {rs : List (Request P)} (hq : c.requestQueue = r :: rs)
    (hq' : c'.requestQueue = rs) :
    c.requestsOf r.sub = r.kind :: c'.requestsOf r.sub ∧
      ∀ t ≠ r.sub, c.requestsOf t = c'.requestsOf t := by
  unfold requestsOf
  rw [hq, hq']
  refine ⟨?_, fun t ht => ?_⟩
  · rw [List.filter_cons_of_pos (by simp)]
    rfl
  · rw [List.filter_cons_of_neg (by simp [ht.symm])]

theorem Orderly.next {k : RequestKind} (ho : c.Orderly kept s)
    (hr : c.requestsOf s = k :: c'.requestsOf s)
    (hsnap : (c'.subscriptions s).snapShot = (c.subscriptions s).snapShot)
    (hitem : c'.ids s ≠ 0 → c'.InUse kept s → c'.streamManager.getItem (c'.ids s) = some s) :
    c'.Orderly kept s where
  item := hitem
  closes hk hm := ho.closes hk (by rw [hr]; exact List.mem_cons_of_mem _ hm)
  last hm := by
    have hl := ho.last
    rw [hr] at hl
    cases hrs : c'.requestsOf s with
    | nil =>
      rw [hrs] at hm
      cases hm
    | cons k' ks =>
      rw [hrs] at hl hm
      exact hl (List.mem_cons_of_mem _ hm)
  snapshot hsn := by
    rw [hsnap] at hsn
    obtain ⟨hk, hnil | ⟨-, hlen⟩⟩ := ho.snapshot hsn
    · rw [hr] at hnil
      cases hnil
    · rw [hr, List.length_cons] at hlen
      exact ⟨hk, .inl (List.length_eq_zero_iff.mp (by omega))⟩

theorem Orderly.same (ho : c.Orderly kept s) (hr : c.requestsOf s = c'.requestsOf s)
    (hi : c'.ids s = c.ids s) (hsnap : (c'.subscriptions s).snapShot = (c.subscriptions s).snapShot)
    (hitem : c.streamManager.getItem (c.ids s) = some s → c'.streamManager.getItem (c.ids s) = some s) :
    c'.Orderly kept s := by
  refine ⟨fun hid hu => ?_, fun hk => hr ▸ ho.closes hk, hr ▸ ho.last, fun hsn => ?_⟩
  · rw [hi] at hid ⊢
    unfold InUse at hu
    rw [← hr, hsnap] at hu
    exact hitem (ho.item hid hu)
  · rw [hsnap] at hsn
    rw [← hr, hi]
    exact ho.snapshot hsn

theorem Orderly.mono (ho : c.Orderly kept s) (hk : kept' → kept) : c.Orderly kept' s where
  item hid hu := ho.item hid (hu.imp_left hk)
  closes h := ho.closes (hk h)
  last := ho.last
  snapshot hsn := ⟨fun h => (ho.snapshot hsn).1 (hk h), (ho.snapshot hsn).2⟩

end UPAConsumer

end RmdsBridge
