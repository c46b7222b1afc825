import RmdsBridge.Responses

namespace RmdsBridge

variable {P L : Type} [DecidableEq P]

namespace Handling

theorem sendOpenRequest_cases (this : P) (h : Handling P L) (o : SendOutcome) :
    ((o = .sent ∧ (h.sendOpenRequest this o).1 = true) ∧ (h.takeStreamId this).sub.streamId ≠ 0 ∧
        (h.sendOpenRequest this o).2 = (h.takeStreamId this).addPendingItem this) ∨
      (¬ (o = .sent ∧ (h.sendOpenRequest this o).1 = true) ∧
        ∃ pending ⊆ (h.takeStreamId this).manager.pendingItems, ∃ n,
          (h.sendOpenRequest this o).2 =
            ⟨{ (h.takeStreamId this).manager with pendingItems := pending },
              (h.takeStreamId this).sub, n⟩) := by
  unfold sendOpenRequest
  dsimp only
  split_ifs with h0 hb he hf
  · exact .inr ⟨fun h => absurd h.2 id, _, subset_rfl, _, rfl⟩
  · refine .inr ⟨fun h => ?_, _, subset_rfl, _, rfl⟩
    rw [hb] at h
    cases h.1
  · exact .inr ⟨fun h => absurd h.2 id, _, subset_rfl, _, rfl⟩
  · refine .inr ⟨fun h => absurd h.2 id, _, ?_, _, rfl⟩
    intro t ht
    rcases Finset.mem_insert.mp (Finset.mem_of_mem_erase ht) with rfl | ht
    · exact absurd rfl (Finset.ne_of_mem_erase ht)
    · exact ht
  · have hsent : o = .sent := by
      cases o with
      | noBuffer => exact absurd rfl hb
      | encodeFailed => exact absurd (.inl rfl) he
      | sendFailed => exact absurd rfl hf
      | sent => rfl
    exact .inl ⟨⟨hsent, rfl⟩, h0, rfl⟩

theorem sendCloseRequest_eq (this : P) (h : Handling P L) (o : SendOutcome) :
    h.sendCloseRequest this o =
      if h.sub.streamId = 0 then { h with manager := h.manager.decPendingCloses }
      else
        ⟨{ h.manager.releaseStreamId h.sub.streamId with
            pendingItems := if h.sub.state = .subscribing then h.manager.pendingItems.erase this
              else h.manager.pendingItems
            openItems := if Closes h.sub o then h.manager.openItems - 1 else h.manager.openItems
            pendingCloses := h.manager.pendingCloses - 1 }, h.sub, h.notices⟩ := by
  unfold sendCloseRequest closeStream
  dsimp only
  by_cases h0 : h.sub.streamId = 0
  · rw [if_pos h0, if_pos h0]
  · rw [if_neg h0, if_neg h0]
    by_cases hc : Closes h.sub o
    · by_cases hs : h.sub.state = .subscribing
      all_goals
        simp only [hc, hs, if_true, if_false, releaseStreamId]
        rfl
    · by_cases hs : h.sub.state = .subscribing
      all_goals
        simp only [hc, hs, if_true, if_false, releaseStreamId]
        rfl

theorem sendCloseRequest_unopened (this : P) {h : Handling P L} (o : SendOutcome)
    (h0 : h.sub.streamId = 0) : (h.sendCloseRequest this o).streams = h.streams := by
  rw [sendCloseRequest_eq, if_pos h0]
  rfl

theorem sendCloseRequest_streams (this : P) {h : Handling P L} (o : SendOutcome)
    (h0 : h.sub.streamId ≠ 0) :
    (h.sendCloseRequest this o).streams = h.releaseStreamId.streams := by
  rw [sendCloseRequest_eq, if_neg h0]
  rfl

end Handling

namespace UPAConsumer

omit [DecidableEq P] in
@[simp] theorem handling_sub (c : UPAConsumer P L) (s : P) :
    (c.handling s).sub = c.subscriptions s := rfl

omit [DecidableEq P] in
@[simp] theorem handling_manager (c : UPAConsumer P L) (s : P) :
    (c.handling s).manager = c.streamManager := rfl

variable [DecidableEq L]

def requestSent (c : UPAConsumer P L) : Event P L → Option P
  | .dispatch o =>
    match c.requestQueue with
    | [] => none
    | r :: _ =>
      if (c.subscriptions r.sub).Wants r.kind ∧ r.kind ≠ .close ∧ o = .sent ∧
          ((c.handling r.sub).sendOpenRequest r.sub o).1 = true then some r.sub
      else none
  | _ => none

def closeProcessed (c : UPAConsumer P L) : Event P L → Option P
  | .dispatch _ =>
    match c.requestQueue with
    | [] => none
    | r :: _ => if r.kind = .close then some r.sub else none
  | _ => none

def Became (c c' : UPAConsumer P L) (s : P) (h : Handling P L) : Prop :=
  c'.subscriptions = Function.update c.subscriptions s h.sub ∧ c'.streamManager = h.manager

inductive Stepped (c c' : UPAConsumer P L) : Event P L → Option P → Option P → Prop
  | idle {e} (hs : c'.subscriptions = c.subscriptions) (hm : c'.streamManager = c.streamManager) :
    Stepped c c' e none none
  | quiet {e} (s : P) (sub : UPASubscription L) (closes : BitVec 64)
    (h : c.Became c' s ⟨{ c.streamManager with pendingCloses := closes }, sub, []⟩)
    (hid : sub.streamId = (c.subscriptions s).streamId)
    (hlive : sub.state = .live → (c.subscriptions s).state = .live) :
    Stepped c c' e none none
  | setLive (s : P) (h : c.Became c' s (c.handling s).setLive) :
    Stepped c c' (.setLive s) none none
  | close {o} (s : P) (h : c.Became c' s ((c.handling s).sendCloseRequest s o)) :
    Stepped c c' (.dispatch o) none (some s)
  | sent {o} (s : P) (hid : ((c.handling s).takeStreamId s).sub.streamId ≠ 0)
    (h : c.Became c' s (((c.handling s).takeStreamId s).addPendingItem s)) :
    Stepped c c' (.dispatch o) (some s) none
  | unsent {o} (s : P) (pending : Finset P)
    (hp : pending ⊆ ((c.handling s).takeStreamId s).manager.pendingItems)
    (h : c.Became c' s ⟨{ ((c.handling s).takeStreamId s).manager with pendingItems := pending },
      ((c.handling s).takeStreamId s).sub, []⟩) :
    Stepped c c' (.dispatch o) none none
  | respond {domain streamId msg} (s : P) (ht : c.target domain streamId = some s)
    (h : c.Became c' s (processResponse s (c.handling s) domain msg)) :
    Stepped c c' (.respond domain streamId msg) none none

theorem dispatch_stepped (c : UPAConsumer P L) (o : SendOutcome) :
    c.Stepped (c.dispatch o) (.dispatch o) (c.requestSent (.dispatch o))
      (c.closeProcessed (.dispatch o)) := by
  unfold dispatch requestSent closeProcessed
  cases hq : c.requestQueue with
  | nil => exact .idle rfl rfl
  | cons r rs =>
    dsimp only [sendRequest]
    by_cases hw : (c.subscriptions r.sub).Wants r.kind
    · rw [if_pos hw]
      by_cases hk : r.kind = .close
      · rw [if_pos hk, if_pos hk, if_neg fun h => h.2.1 hk]
        exact .close r.sub ⟨rfl, rfl⟩
      · rw [if_neg hk, if_neg hk]
        rcases (c.handling r.sub).sendOpenRequest_cases r.sub o with
          ⟨hsent, hid, heq⟩ | ⟨hsent, pending, hp, n, heq⟩
        · rw [if_pos ⟨hw, hk, hsent⟩]
          exact .sent r.sub hid ⟨by rw [← heq]; rfl, by rw [← heq]; rfl⟩
        · rw [if_neg fun h => hsent h.2.2]
          exact .unsent r.sub pending hp
            ⟨(congrArg (fun h => Function.update c.subscriptions r.sub h.sub) heq :),
              (congrArg Handling.manager heq :)⟩
    · rw [if_neg hw, if_neg fun h => hw h.1]
      have hk : r.kind ≠ .close := by
        intro hk
        rw [hk] at hw
        exact hw trivial
      rw [if_neg hk]
      exact .idle rfl rfl

omit [DecidableEq P] [DecidableEq L] in
theorem item_of_target {c : UPAConsumer P L} {domain : Domain} {streamId : ℕ} {s : P}
    (ht : c.target domain streamId = some s) : c.streamManager.getItem streamId = some s := by
  unfold target at ht
  split_ifs at ht
  exact ht

theorem respond_untargeted {c : UPAConsumer P L} {domain : Domain} {streamId : ℕ} (msg : RsslMsg)
    (ht : c.target domain streamId = none) : c.step (.respond domain streamId msg) = c := by
  change c.respond domain streamId msg = c
  unfold respond
  rw [ht]

theorem respond_became {c : UPAConsumer P L} {domain : Domain} {streamId : ℕ} {s : P}
    (msg : RsslMsg) (ht : c.target domain streamId = some s) :
    c.Became (c.step (.respond domain streamId msg)) s
      (processResponse s (c.handling s) domain msg) := by
  change c.Became (c.respond domain streamId msg) s _
  unfold respond
  rw [ht]
  exact ⟨rfl, rfl⟩

theorem stepped (c : UPAConsumer P L) (e : Event P L) :
    c.Stepped (c.step e) e (c.requestSent e) (c.closeProcessed e) := by
  have hopen (s : P) : c.Stepped (c.openSub s) e none none :=
    .quiet s _ c.streamManager.pendingCloses ⟨rfl, rfl⟩ rfl fun h => by cases h
  cases e with
  | setDomain s domain =>
    have hid : ((c.subscriptions s).setDomain domain).streamId = (c.subscriptions s).streamId ∧
        ((c.subscriptions s).setDomain domain).state = (c.subscriptions s).state := by
      unfold UPASubscription.setDomain
      repeat' split
      all_goals exact ⟨rfl, rfl⟩
    exact .quiet s _ c.streamManager.pendingCloses ⟨rfl, rfl⟩ hid.1 fun h => hid.2 ▸ h
  | addListener s l => exact .quiet s _ c.streamManager.pendingCloses ⟨rfl, rfl⟩ rfl id
  | removeListener s l => exact .quiet s _ c.streamManager.pendingCloses ⟨rfl, rfl⟩ rfl id
  | «open» s => exact hopen s
  | bridgeOpen s =>
    change c.Stepped (c.bridgeOpen s) _ none none
    unfold bridgeOpen
    split_ifs
    · exact hopen s
    · exact .idle rfl rfl
  | reSubscribe s => exact hopen s
  | snapshot s =>
    exact .quiet s _ c.streamManager.pendingCloses ⟨rfl, rfl⟩ rfl fun h => by cases h
  | requestImage s l => exact .quiet s _ c.streamManager.pendingCloses ⟨rfl, rfl⟩ rfl id
  | close s =>
    change c.Stepped (c.close s) _ none none
    unfold close queueCloseRequest
    split_ifs
    · exact .quiet s _ _ ⟨rfl, rfl⟩ rfl fun h => by cases h
    · exact .quiet s _ c.streamManager.pendingCloses ⟨rfl, rfl⟩ rfl fun h => by cases h
  | setStale s =>
    obtain ⟨st, n, k, he⟩ := (c.handling s).setStale_stateOnly
    have hk := (c.handling s).setStale_openItems
    have hst := (c.handling s).setStale_state
    rw [he] at hk hst
    dsimp only at hk hst
    subst hk
    refine .quiet s _ c.streamManager.pendingCloses
      ⟨(congrArg (fun h => Function.update c.subscriptions s h.sub) he :),
        (congrArg Handling.manager he :)⟩ rfl fun hl => ?_
    rw [hst] at hl
    split_ifs at hl
  | setLive s => exact .setLive s ⟨rfl, rfl⟩
  | dispatch o => exact c.dispatch_stepped o
  | respond domain streamId msg =>
    cases ht : c.target domain streamId with
    | none =>
      rw [respond_untargeted msg ht]
      exact .idle rfl rfl
    | some s => exact .respond s ht (respond_became msg ht)

end UPAConsumer

end RmdsBridge
