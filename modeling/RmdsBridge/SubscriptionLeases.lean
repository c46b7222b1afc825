import RmdsBridge.StreamLeases

namespace RmdsBridge

variable {P L : Type}

namespace UPAConsumer

variable [DecidableEq P] {c c' : UPAConsumer P L} {opened : Finset P} {s t : P}
  {sub : UPASubscription L} {ks : List RequestKind} {kept kept' : Prop}

variable {keep : P → Prop} {h : Handling P L} {r : Request P} {rs : List (Request P)}

theorem respond_requestQueue [DecidableEq L] (c : UPAConsumer P L) (domain : Domain) (streamId : ℕ)
    (msg : RsslMsg) : (c.step (.respond domain streamId msg)).requestQueue = c.requestQueue := by
  cases htar : c.target domain streamId with
  | none => rw [respond_untargeted msg htar]
  | some s =>
    change (c.respond domain streamId msg).requestQueue = _
    unfold UPAConsumer.respond
    rw [htar]
    rfl

theorem respond_requestsOf [DecidableEq L] (c : UPAConsumer P L) (domain : Domain) (streamId : ℕ)
    (msg : RsslMsg) (t : P) :
    (c.step (.respond domain streamId msg)).requestsOf t = c.requestsOf t := by
  unfold requestsOf
  rw [respond_requestQueue]

theorem respond_unused [DecidableEq L] (hc : c.Held opened) (hid : c.ids t = 0) (hr : c.requestsOf t = [])
    (domain : Domain) (streamId : ℕ) (msg : RsslMsg) :
    (c.step (.respond domain streamId msg)).ids t = 0 ∧
      (c.step (.respond domain streamId msg)).requestsOf t = [] := by
  refine ⟨?_, (respond_requestsOf ..).trans hr⟩
  cases htar : c.target domain streamId with
  | none =>
    rw [respond_untargeted msg htar]
    exact hid
  | some s =>
    have ht : t ≠ s := by
      rintro rfl
      exact (hc.target htar).1 hid
    unfold ids
    rw [(respond_became msg htar).subscription_of_ne ht]
    exact hid

theorem Leased.respond [DecidableEq L] (hc : c.Leased opened keep) (domain : Domain) (streamId : ℕ) (msg : RsslMsg)
    (t : P) : (c.step (.respond domain streamId msg)).Orderly (keep t) t := by
  cases htar : c.target domain streamId with
  | none =>
    rw [respond_untargeted msg htar]
    exact hc.orderly t
  | some s =>
    have b := respond_became msg htar
    obtain ⟨hid, hitem⟩ := hc.held.target htar
    set c' := c.step (.respond domain streamId msg)
    have hreq (t : P) : c.requestsOf t = c'.requestsOf t :=
      (c.respond_requestsOf domain streamId msg t).symm
    have hkeep (hs : (processResponse s (c.handling s) domain msg).streams = (c.handling s).streams) :
        c'.Orderly (keep t) t := by
      refine (hc.orderly t).same (hreq t) (congrFun (b.ids_same (streamId_of_streams hs)) t) ?_ ?_
      · by_cases ht : t = s
        · rw [ht, b.subscription_self]
          exact snapShot_of_streams hs
        · rw [b.subscription_of_ne ht]
      · rw [b.2, getItem_of_streams hs]
        exact fun hitem => hitem
    rcases (c.handling s).processResponse_keepsStreams s domain msg with hs | hs
    · exact hkeep hs
    · by_cases hsnap : (c.subscriptions s).snapShot = true
      · have hdone : (c.handling s).completeSnapshot = _ := if_pos hsnap
        rw [hdone] at hs
        by_cases ht : t = s
        · subst ht
          obtain ⟨hk, hnil | ⟨hz, -⟩⟩ := (hc.orderly t).snapshot hsnap
          · have hsnap' : ¬ (c'.subscriptions t).snapShot = true := by
              rw [b.subscription_self, snapShot_of_streams hs]
              exact Bool.false_ne_true
            refine ⟨fun _ hu => ?_, fun h => absurd h hk, ?_, fun h => absurd h hsnap'⟩
            · rcases hu with hu | hu | hu
              · exact absurd hu hk
              · rw [← hreq, hnil] at hu
                exact absurd rfl hu
              · exact absurd hu hsnap'
            · rw [← hreq]
              exact (hc.orderly t).last
          · exact absurd hz hid
        · apply (hc.orderly t).apart b ht (hreq t)
          intro ht'
          rw [getItem_of_streams hs]
          change (c.streamManager.releaseStreamId (c.ids s)).getItem (c.ids t) = some t
          exact UPAStreamManager.getItem_releaseStreamId hitem ht' ht
      · have hdone : (c.handling s).completeSnapshot = _ := if_neg hsnap
        rw [hdone] at hs
        exact hkeep hs

theorem Orderly.of_unopened (hid : c.ids s = 0) (hr : RequestKind.close ∉ c.requestsOf s)
    (hsnap : (c.subscriptions s).snapShot = false) : c.Orderly kept s where
  item h := absurd hid h
  closes _ := hr
  last h := hr (List.mem_of_mem_dropLast h)
  snapshot h := by
    rw [hsnap] at h
    cases h

theorem Leased.called {keep' : P → Prop} (hc : c.Leased opened keep) (h : c.Called c' s sub ks)
    (hs : c'.Orderly (keep' s) s) (hk : ∀ t ≠ s, keep' t → keep t) : c'.Leased opened keep' where
  held := h.held hc.held
  orderly t := by
    by_cases ht : t = s
    · rw [ht]
      exact hs
    · exact (h.other ht (hc.orderly t)).mono (hk t ht)

theorem Leased.mono {keep' : P → Prop} (hc : c.Leased opened keep)
    (hk : ∀ t, keep' t → keep t) : c.Leased opened keep' :=
  ⟨hc.held, fun t => (hc.orderly t).mono (hk t)⟩

theorem Leased.ok [DecidableEq L] (hc : c.Leased opened keep) (e : Event P L) :
    OpenStreams.Ok ⟨c, opened⟩ e := by
  cases e with
  | dispatch o =>
    cases hq : c.requestQueue with
    | nil =>
      refine ⟨fun s hs => ?_, fun s hs => ?_⟩
      · simp only [requestSent, hq] at hs
        cases hs
      · simp only [closeProcessed, hq] at hs
        cases hs
    | cons r rs =>
      have hitem := hc.item_of_head hq
      refine ⟨fun s hs hid => ?_, fun s hs hid => ?_⟩
      · simp only [requestSent, hq] at hs
        split_ifs at hs
        obtain rfl := Option.some.inj hs
        exact hitem hid
      · simp only [closeProcessed, hq] at hs
        split_ifs at hs
        obtain rfl := Option.some.inj hs
        exact hc.held.mayRelease (hitem hid)
  | _ =>
    refine ⟨fun s hs => ?_, fun s hs => ?_⟩
    · cases hs
    · cases hs

section

variable [DecidableEq L]

omit [DecidableEq L] in
theorem called_of_stateOnly (hs : (c.handling s).StateOnly h) :
    c.Called (c.handle s h) s h.sub [] ∧ h.sub.snapShot = (c.subscriptions s).snapShot := by
  obtain ⟨st, n, o, rfl⟩ := hs
  exact ⟨⟨rfl, rfl, ⟨o, c.streamManager.pendingCloses, rfl⟩, (List.append_nil _).symm⟩, rfl⟩

def asked : Event P L → Option (P × List RequestKind)
  | .setDomain s _ | .addListener s _ | .removeListener s _ | .setStale s | .setLive s => some (s, [])
  | .open s | .reSubscribe s => some (s, [.open])
  | .requestImage s _ => some (s, [.refresh])
  | _ => none

theorem called_of_asked (c : UPAConsumer P L) {e : Event P L} (he : asked e = some (s, ks)) :
    ∃ sub, c.Called (c.step e) s sub ks ∧ sub.snapShot = (c.subscriptions s).snapShot ∧
      RequestKind.close ∉ ks := by
  have hm : ∃ o p, c.streamManager = { c.streamManager with openItems := o, pendingCloses := p } :=
    ⟨_, _, rfl⟩
  cases e with
  | setDomain s' domain =>
    obtain ⟨rfl, rfl⟩ := Prod.mk.inj (Option.some.inj he)
    have hid : ((c.subscriptions s').setDomain domain).streamId = (c.subscriptions s').streamId ∧
        ((c.subscriptions s').setDomain domain).snapShot = (c.subscriptions s').snapShot := by
      unfold UPASubscription.setDomain
      repeat' split
      all_goals exact ⟨rfl, rfl⟩
    exact ⟨_, ⟨rfl, hid.1, hm, (List.append_nil _).symm⟩, hid.2, List.not_mem_nil⟩
  | addListener s' l =>
    obtain ⟨rfl, rfl⟩ := Prod.mk.inj (Option.some.inj he)
    exact ⟨_, ⟨rfl, rfl, hm, (List.append_nil _).symm⟩, rfl, List.not_mem_nil⟩
  | removeListener s' l =>
    obtain ⟨rfl, rfl⟩ := Prod.mk.inj (Option.some.inj he)
    exact ⟨_, ⟨rfl, rfl, hm, (List.append_nil _).symm⟩, rfl, List.not_mem_nil⟩
  | «open» s' =>
    obtain ⟨rfl, rfl⟩ := Prod.mk.inj (Option.some.inj he)
    exact ⟨_, ⟨rfl, rfl, hm, rfl⟩, rfl, by simp⟩
  | reSubscribe s' =>
    obtain ⟨rfl, rfl⟩ := Prod.mk.inj (Option.some.inj he)
    exact ⟨_, ⟨rfl, rfl, hm, rfl⟩, rfl, by simp⟩
  | requestImage s' l =>
    obtain ⟨rfl, rfl⟩ := Prod.mk.inj (Option.some.inj he)
    exact ⟨_, ⟨rfl, rfl, hm, rfl⟩, rfl, by simp⟩
  | setStale s' =>
    obtain ⟨rfl, rfl⟩ := Prod.mk.inj (Option.some.inj he)
    obtain ⟨hc, hsnap⟩ := called_of_stateOnly (c.handling s').setStale_stateOnly
    exact ⟨_, hc, hsnap, List.not_mem_nil⟩
  | setLive s' =>
    obtain ⟨rfl, rfl⟩ := Prod.mk.inj (Option.some.inj he)
    obtain ⟨hc, hsnap⟩ := called_of_stateOnly (c.handling s').setLive_stateOnly
    exact ⟨_, hc, hsnap, List.not_mem_nil⟩
  | _ => cases he

theorem called_of_close (c : UPAConsumer P L) (s : P) :
    ∃ sub ks, c.Called (c.step (.close s)) s sub ks ∧ (ks = [] ∨ ks = [.close]) ∧
      sub.snapShot = (c.subscriptions s).snapShot := by
  change ∃ sub ks, c.Called (c.close s) s sub ks ∧ _
  unfold close queueCloseRequest
  split_ifs
  · exact ⟨_, [.close], ⟨rfl, rfl, ⟨c.streamManager.openItems, _, rfl⟩, rfl⟩, .inr rfl, rfl⟩
  · exact ⟨_, [], ⟨rfl, rfl, ⟨_, _, rfl⟩, (List.append_nil _).symm⟩, .inl rfl, rfl⟩

theorem called_of_snapshot (c : UPAConsumer P L) (s : P) :
    ∃ sub, c.Called (c.step (.snapshot s)) s sub [.snapshot] :=
  ⟨_, ⟨rfl, rfl, ⟨_, _, rfl⟩, rfl⟩⟩

end

end UPAConsumer

end RmdsBridge
