import RmdsBridge.SnapshotCourse
import RmdsBridge.SubscriberStreams

namespace RmdsBridge

namespace RMDSSubscriber

variable {r r' : RMDSSubscriber} {opened : Finset ℕ} {u : ℕ}

theorem Leases.move_called (h : r.Leases opened) (m : r.Move r') :
    r'.consumer = r.consumer ∨ ∃ v sub ks, (r.registry.Listed v ∨ v = r.upaSources.length) ∧
      r.consumer.Called r'.consumer v sub ks := by
  cases m with
  | quiet hc => exact .inl hc
  | asked v hv he hc =>
    obtain ⟨sub, hcall, -⟩ := r.consumer.called_of_asked he
    exact .inr ⟨v, sub, _, .inl hv, hc ▸ hcall⟩
  | create symbol domain b hc =>
    obtain ⟨sub, hnew, -⟩ := newSubscription_called h symbol domain
    set c := newSubscription r.consumer r.upaSources.length symbol domain
    obtain ⟨sub₁, hadd, -⟩ := c.called_of_asked (e := .addListener r.upaSources.length b) rfl
    obtain ⟨sub₂, hopen, -⟩ := (c.step (.addListener r.upaSources.length b)).called_of_asked
      (e := .open r.upaSources.length) rfl
    exact .inr ⟨_, sub₂, _, .inr rfl, hc ▸ (hnew.append hadd).append hopen⟩
  | snapshot symbol domain hc =>
    obtain ⟨sub, hnew, -⟩ := newSubscription_called h symbol domain
    obtain ⟨sub₁, hsnap⟩ :=
      (newSubscription r.consumer r.upaSources.length symbol domain).called_of_snapshot _
    exact .inr ⟨_, sub₁, _, .inr rfl, hc ▸ hnew.append hsnap⟩
  | close v hv hc =>
    obtain ⟨sub, ks, hcall, -⟩ := r.consumer.called_of_close v
    exact .inr ⟨v, sub, ks, .inl hv, hc ▸ hcall⟩

def Spare (r : RMDSSubscriber) (u : ℕ) : Prop := u < r.upaSources.length ∧ ¬ r.registry.Listed u

theorem Move.spare (m : r.Move r') (hu : r.Spare u) : r'.Spare u := by
  obtain ⟨hlt, hl⟩ := hu
  cases m with
  | quiet _ hn hiff => exact ⟨hn ▸ hlt, fun h => hl ((hiff u).mp h)⟩
  | asked _ _ _ _ hn hiff => exact ⟨hn ▸ hlt, fun h => hl ((hiff u).mp h)⟩
  | create _ _ _ _ hn hiff =>
    exact ⟨by omega, fun h => hl (((hiff u).mp h).resolve_left (ne_of_lt hlt))⟩
  | snapshot _ _ _ hn hiff => exact ⟨by omega, fun h => hl ((hiff u).mp h)⟩
  | close _ _ _ hn hiff => exact ⟨hn ▸ hlt, fun h => hl ((hiff u).mp h).2⟩

theorem Leases.spares (h : r.Leases opened) (m : r.Moves r') (hu : r.Spare u) :
    r'.Spare u ∧ r'.consumer.subscriptions u = r.consumer.subscriptions u ∧
      r'.consumer.requestsOf u = r.consumer.requestsOf u := by
  induction m with
  | refl => exact ⟨hu, rfl, rfl⟩
  | tail ms m ih =>
    obtain ⟨hspare, hsub, hreq⟩ := ih
    refine ⟨m.spare hspare, ?_⟩
    rcases (h.moves ms).move_called m with hc | ⟨v, sub, ks, hv, hc⟩
    · rw [hc]
      exact ⟨hsub, hreq⟩
    · have hne : u ≠ v := by
        rintro rfl
        rcases hv with hv | hv
        · exact hspare.2 hv
        · exact (ne_of_lt hspare.1) hv
      exact ⟨(hc.subscription_of_ne hne).trans hsub, (hc.requestsOf_of_ne hne).trans hreq⟩

end RMDSSubscriber

namespace UPAConsumer

variable {P L : Type} [DecidableEq P]

def streamTaken (c : UPAConsumer P L) (o : SendOutcome) : Option P :=
  c.requestQueue.head?.bind fun r =>
    if c.ids r.sub = 0 ∧ (c.dispatch o).ids r.sub ≠ 0 then some r.sub else none

variable {c : UPAConsumer P L} {r : Request P} {rs : List (Request P)} {opened : Finset P} {s : P}

theorem streamTaken_cons (hq : c.requestQueue = r :: rs) (o : SendOutcome) :
    c.streamTaken o =
      if c.ids r.sub = 0 ∧ (c.dispatch o).ids r.sub ≠ 0 then some r.sub else none := by
  unfold streamTaken
  rw [hq]
  rfl

omit [DecidableEq P] in
theorem takeStreamId_sub (c : UPAConsumer P L) (s : P) :
    ∃ id, ((c.handling s).takeStreamId s).sub = { c.subscriptions s with streamId := id } := by
  unfold Handling.takeStreamId
  split_ifs
  · exact ⟨_, rfl⟩
  · exact ⟨_, rfl⟩

theorem dispatch_opens (hq : c.requestQueue = r :: rs) (hk : r.kind ≠ .close) (o : SendOutcome) :
    ∃ id, (c.dispatch o).subscriptions r.sub = { c.subscriptions r.sub with streamId := id } := by
  rw [dispatch_cons hq]
  unfold sendRequest
  split_ifs
  · change ∃ id, Function.update c.subscriptions r.sub _ r.sub = _
    rw [Function.update_self]
    rcases (c.handling r.sub).sendOpenRequest_cases r.sub o with ⟨-, -, heq⟩ | ⟨-, pending, -, n, heq⟩
    · obtain ⟨id, hid⟩ := c.takeStreamId_sub r.sub
      exact ⟨id, by rw [← hid]; exact (congrArg Handling.sub heq :)⟩
    · obtain ⟨id, hid⟩ := c.takeStreamId_sub r.sub
      exact ⟨id, by rw [← hid]; exact (congrArg Handling.sub heq :)⟩
  · exact ⟨_, rfl⟩

omit [DecidableEq P] in
theorem target_of_item (hc : c.Held opened) (hid : c.ids s ≠ 0)
    (hitem : c.streamManager.getItem (c.ids s) = some s) (domain : Domain) (streamId : ℕ) :
    c.target domain streamId = some s ↔ streamId % 2 ^ 32 = c.ids s := by
  have hround : index2StreamId (streamId2Index streamId) = streamId % 2 ^ 32 := by
    unfold index2StreamId streamId2Index startStreamId
    omega
  constructor
  · intro ht
    rw [(hc.id_of_item _ s (item_of_target ht)).1, hround]
  · intro he
    obtain ⟨i, hi, hids⟩ := hc.index_of_id s hid
    have hlt : i < numStreamIds := hi.trans_le hc.bounded
    have hindex : streamId2Index streamId = streamId2Index (c.ids s) := by
      rw [← he]
      unfold streamId2Index startStreamId
      omega
    have hlarge : ¬ streamId < 16 := by
      rw [hids] at he
      unfold numStreamIds at hlt
      unfold index2StreamId startStreamId at he
      omega
    unfold target
    rw [if_neg fun h => hlarge h.2]
    unfold UPAStreamManager.getItem at hitem ⊢
    rw [hindex]
    exact hitem

variable [DecidableEq L]

theorem requestSent_cons (hq : c.requestQueue = r :: rs) {o : SendOutcome}
    (hs : c.requestSent (.dispatch o) = some s) : s = r.sub ∧ (c.dispatch o).ids s ≠ 0 := by
  have hst := c.dispatch_stepped o
  rw [hs] at hst
  have hself : s = r.sub := by
    simp only [requestSent, hq] at hs
    split_ifs at hs
    exact (Option.some.inj hs).symm
  refine ⟨hself, ?_⟩
  generalize hc : c.closeProcessed (.dispatch o) = closed at hst
  cases hst with
  | sent _ hid h =>
    rw [h.ids_eq, Function.update_self]
    exact hid

theorem respond_ids (c : UPAConsumer P L) (domain : Domain) (streamId : ℕ) (msg : RsslMsg) :
    (c.step (.respond domain streamId msg)).ids = c.ids := by
  cases ht : c.target domain streamId with
  | none => rw [respond_untargeted msg ht]
  | some s =>
    apply (respond_became msg ht).ids_same
    rcases (c.handling s).processResponse_keepsStreams s domain msg with hs | hs
    · exact streamId_of_streams hs
    · refine (streamId_of_streams hs).trans ?_
      unfold Handling.completeSnapshot
      split_ifs <;> rfl

theorem respond_of_ne {domain : Domain} {streamId : ℕ} (msg : RsslMsg)
    (ht : c.target domain streamId ≠ some s) :
    (c.step (.respond domain streamId msg)).subscriptions s = c.subscriptions s ∧
      c.snapshotCompleted (.respond domain streamId msg) ≠ some s := by
  constructor
  · cases htar : c.target domain streamId with
    | none => rw [respond_untargeted msg htar]
    | some t =>
      apply (respond_became msg htar).subscription_of_ne
      rintro rfl
      exact ht htar
  · intro hc
    exact ht (Option.eq_some_of_filter_eq_some hc)

theorem respond_self {domain : Domain} {streamId : ℕ} (msg : RsslMsg)
    (ht : c.target domain streamId = some s) :
    (c.step (.respond domain streamId msg)).subscriptions s =
        (processResponse s (c.handling s) domain msg).sub ∧
      c.snapshotCompleted (.respond domain streamId msg) =
        if (c.subscriptions s).snapShot = true ∧
          (processResponse s (c.handling s) domain msg).sub.snapShot = false then some s else none := by
  refine ⟨(respond_became msg ht).subscription_self, ?_⟩
  simp only [snapshotCompleted, ht, Option.filter_some]
  simp

end UPAConsumer

end RmdsBridge
