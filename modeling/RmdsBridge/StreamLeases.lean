import RmdsBridge.StreamCalls

namespace RmdsBridge

variable {P L : Type}

namespace UPAConsumer

variable [DecidableEq P] {c c' : UPAConsumer P L} {opened : Finset P} {s t : P}
  {sub : UPASubscription L} {ks : List RequestKind} {kept kept' : Prop}

structure Leased (c : UPAConsumer P L) (opened : Finset P) (kept : P → Prop) : Prop where
  held : c.Held opened
  orderly : ∀ s, c.Orderly (kept s) s

variable {keep : P → Prop} {h : Handling P L} {r : Request P} {rs : List (Request P)}

theorem Became.subscription_self (b : c.Became c' s h) : c'.subscriptions s = h.sub := by
  rw [b.1, Function.update_self]

theorem Became.subscription_of_ne (b : c.Became c' s h) (ht : t ≠ s) :
    c'.subscriptions t = c.subscriptions t := by
  rw [b.1, Function.update_of_ne ht]

theorem Orderly.apart (ho : c.Orderly kept t) (b : c.Became c' s h) (ht : t ≠ s)
    (hr : c.requestsOf t = c'.requestsOf t)
    (hitem : c.streamManager.getItem (c.ids t) = some t → h.manager.getItem (c.ids t) = some t) :
    c'.Orderly kept t := by
  have hsub := b.subscription_of_ne ht
  refine ho.same hr ?_ (by rw [hsub]) ?_
  · unfold ids
    rw [hsub]
  · rw [b.2]
    exact hitem

theorem Leased.item_of_head (hc : c.Leased opened keep) (hq : c.requestQueue = r :: rs)
    (hid : c.ids r.sub ≠ 0) : c.streamManager.getItem (c.ids r.sub) = some r.sub := by
  apply (hc.orderly r.sub).item hid
  refine .inr (.inl ?_)
  unfold requestsOf
  rw [hq, List.filter_cons_of_pos (by simp)]
  exact List.cons_ne_nil _ _

theorem Leased.opens (hc : c.Leased opened keep) (hq : c.requestQueue = r :: rs)
    (hq' : c'.requestQueue = rs) (b : c.Became c' r.sub h)
    (hsub : h.sub = ((c.handling r.sub).takeStreamId r.sub).sub)
    (hitems : h.manager.itemArray = ((c.handling r.sub).takeStreamId r.sub).manager.itemArray) :
    c'.Orderly (keep t) t := by
  obtain ⟨hself, hother⟩ := requestsOf_cons hq hq'
  have hget (id : ℕ) : h.manager.getItem id =
      ((c.handling r.sub).takeStreamId r.sub).manager.getItem id := by
    unfold UPAStreamManager.getItem
    rw [hitems]
  by_cases ht : t = r.sub
  · subst ht
    refine (hc.orderly r.sub).next hself ?_ fun hid _ => ?_
    · rw [b.subscription_self, hsub]
      unfold Handling.takeStreamId
      split_ifs <;> rfl
    · have hi : c'.ids r.sub = ((c.handling r.sub).takeStreamId r.sub).sub.streamId := by
        unfold ids
        rw [b.subscription_self, hsub]
      rw [hi] at hid ⊢
      rw [b.2, hget]
      exact hc.held.found r.sub (hc.item_of_head hq) hid
  · apply (hc.orderly t).apart b ht (hother t ht)
    intro hitem
    rw [hget]
    unfold Handling.takeStreamId
    split_ifs
    · exact UPAStreamManager.getItem_addItem (hc.held.mono (Finset.empty_subset _)) r.sub hitem
    · exact hitem

omit [DecidableEq P] in
theorem getItem_of_streams {h' : Handling P L} (hs : h'.streams = h.streams) (id : ℕ) :
    h'.manager.getItem id = h.manager.getItem id := by
  unfold UPAStreamManager.getItem
  rw [show h'.manager.itemArray = h.manager.itemArray from congrArg (fun v => v.1) hs]

omit [DecidableEq P] in
theorem snapShot_of_streams {h' : Handling P L} (hs : h'.streams = h.streams) :
    h'.sub.snapShot = h.sub.snapShot := congrArg (fun v => v.2.2.2.2.1) hs

theorem Leased.closes (hc : c.Leased opened keep) (hq : c.requestQueue = r :: rs)
    (hq' : c'.requestQueue = rs) (hk : r.kind = .close) {o : SendOutcome}
    (b : c.Became c' r.sub ((c.handling r.sub).sendCloseRequest r.sub o)) :
    c'.Orderly (keep t) t := by
  obtain ⟨hself, hother⟩ := requestsOf_cons hq hq'
  rw [hk] at hself
  by_cases h0 : c.ids r.sub = 0
  · have hs := (c.handling r.sub).sendCloseRequest_unopened r.sub o h0
    by_cases ht : t = r.sub
    · subst ht
      refine (hc.orderly r.sub).next hself ?_ fun hid _ => ?_
      · rw [b.subscription_self]
        exact snapShot_of_streams hs
      · rw [b.ids_same (streamId_of_streams hs)] at hid
        exact absurd h0 hid
    · apply (hc.orderly t).apart b ht (hother t ht)
      intro hitem
      rw [getItem_of_streams hs]
      exact hitem
  · have hs := (c.handling r.sub).sendCloseRequest_streams r.sub o h0
    have hsnap : (c'.subscriptions r.sub).snapShot = (c.subscriptions r.sub).snapShot := by
      rw [b.subscription_self]
      exact snapShot_of_streams hs
    by_cases ht : t = r.sub
    · subst ht
      refine (hc.orderly r.sub).next hself hsnap fun _ hu => ?_
      -- the close request was the last one, of a subscription that is not kept
      rcases hu with hkeep | hreq | hsn
      · exact absurd (by rw [hself]; exact List.mem_cons_self) ((hc.orderly r.sub).closes hkeep)
      · have hlast := (hc.orderly r.sub).last
        rw [hself, List.dropLast_cons_of_ne_nil hreq] at hlast
        exact absurd List.mem_cons_self hlast
      · obtain ⟨-, hnil | ⟨hz, -⟩⟩ := (hc.orderly r.sub).snapshot (hsnap ▸ hsn)
        · rw [hself] at hnil
          cases hnil
        · exact absurd hz h0
    · apply (hc.orderly t).apart b ht (hother t ht)
      intro hitem
      rw [getItem_of_streams hs]
      change (c.streamManager.releaseStreamId (c.ids r.sub)).getItem (c.ids t) = some t
      exact UPAStreamManager.getItem_releaseStreamId (hc.item_of_head hq h0) hitem ht

theorem dispatch_nil (hq : c.requestQueue = []) (o : SendOutcome) : c.dispatch o = c := by
  unfold UPAConsumer.dispatch
  rw [hq]

theorem dispatch_cons (hq : c.requestQueue = r :: rs) (o : SendOutcome) :
    c.dispatch o = { c with requestQueue := rs }.sendRequest r o := by
  unfold UPAConsumer.dispatch
  rw [hq]

theorem dispatch_of_ne (hq : c.requestQueue = r :: rs) (ht : t ≠ r.sub) (o : SendOutcome) :
    (c.dispatch o).subscriptions t = c.subscriptions t := by
  rw [dispatch_cons hq]
  unfold sendRequest
  split_ifs
  · exact Function.update_of_ne ht ..
  · exact Function.update_of_ne ht ..
  · rfl

theorem dispatch_requestQueue (hq : c.requestQueue = r :: rs) (o : SendOutcome) :
    (c.dispatch o).requestQueue = rs := by
  rw [dispatch_cons hq]
  unfold sendRequest
  split_ifs <;> rfl

theorem dispatch_unused (hid : c.ids t = 0) (hr : c.requestsOf t = []) (o : SendOutcome) :
    (c.dispatch o).ids t = 0 ∧ (c.dispatch o).requestsOf t = [] := by
  cases hq : c.requestQueue with
  | nil =>
    rw [dispatch_nil hq]
    exact ⟨hid, hr⟩
  | cons r rs =>
    obtain ⟨hself, hother⟩ := requestsOf_cons hq (dispatch_requestQueue hq o)
    have ht : t ≠ r.sub := by
      rintro rfl
      rw [hself] at hr
      cases hr
    refine ⟨?_, (hother t ht).symm.trans hr⟩
    unfold ids
    rw [dispatch_of_ne hq ht]
    exact hid

theorem Leased.dispatch (hc : c.Leased opened keep) (o : SendOutcome) (t : P) :
    (c.dispatch o).Orderly (keep t) t := by
  cases hq : c.requestQueue with
  | nil =>
    rw [dispatch_nil hq]
    exact hc.orderly t
  | cons r rs =>
    have hd := dispatch_cons hq o
    have hq' := dispatch_requestQueue hq o
    unfold sendRequest at hd
    split_ifs at hd with hw hk
    · exact hc.closes hq hq' hk (o := o) ⟨by rw [hd]; rfl, by rw [hd]; rfl⟩
    · rcases (c.handling r.sub).sendOpenRequest_cases r.sub o with ⟨-, -, heq⟩ | ⟨-, pending, -, n, heq⟩
      · exact hc.opens (h := ((c.handling r.sub).takeStreamId r.sub).addPendingItem r.sub) hq hq'
          ⟨by rw [hd, ← heq]; rfl, by rw [hd, ← heq]; rfl⟩ rfl rfl
      · exact hc.opens hq hq' (h := ((c.handling r.sub).sendOpenRequest r.sub o).2)
          ⟨by rw [hd]; rfl, by rw [hd]; rfl⟩ (by rw [heq]) (by rw [heq])
    · obtain ⟨hself, hother⟩ := requestsOf_cons hq hq'
      by_cases ht : t = r.sub
      · subst ht
        refine (hc.orderly r.sub).next hself (by rw [hd]) fun hid _ => ?_
        rw [hd] at hid ⊢
        exact hc.item_of_head hq hid
      · refine (hc.orderly t).same (hother t ht) (by rw [hd]; rfl) (by rw [hd]) fun hitem => ?_
        rw [hd]
        exact hitem

end UPAConsumer

end RmdsBridge
