import RmdsBridge.SubscriberSteps

namespace RmdsBridge

variable {P L : Type}

def Notice.listener : Notice L → L
  | .message l _ | .status l | .error l _ | .quality l _ => l

namespace Handling

structure Calls (h h' : Handling P L) : Prop where
  listeners : h'.sub.listeners = h.sub.listeners
  consumer : h'.sub.consumer = h.sub.consumer
  notices : ∀ n ∈ h'.notices, n ∈ h.notices ∨ n.listener ∈ h.sub.listeners

variable {h h' h'' : Handling P L}

theorem Calls.none (hl : h'.sub.listeners = h.sub.listeners) (hc : h'.sub.consumer = h.sub.consumer)
    (hn : h'.notices = h.notices) : h.Calls h' :=
  ⟨hl, hc, fun _ hm => .inl (hn ▸ hm)⟩

theorem Calls.refl (h : Handling P L) : h.Calls h := .none rfl rfl rfl

theorem Calls.trans (a : h.Calls h') (b : h'.Calls h'') : h.Calls h'' where
  listeners := b.listeners.trans a.listeners
  consumer := b.consumer.trans a.consumer
  notices n hn := by
    rcases b.notices n hn with hn | hn
    · exact a.notices n hn
    · rw [a.listeners] at hn
      exact .inr hn

theorem notify_calls (h : Handling P L) {call : L → Notice L} (hcall : ∀ l, (call l).listener = l) :
    h.Calls (h.notify call) where
  listeners := rfl
  consumer := rfl
  notices n hn := by
    rcases List.mem_append.mp hn with hn | hn
    · exact .inl hn
    · obtain ⟨l, hl, rfl⟩ := List.mem_map.mp hn
      rw [hcall]
      exact .inr hl

theorem notifyState_calls (h : Handling P L) (ok : Bool) : h.Calls (h.notifyState ok) := by
  have hack : h.Calls (if h.sub.sendAckMessages then h.notifyListenersMessage .secStatus else h) := by
    split_ifs
    · exact h.notify_calls fun _ => rfl
    · exact .refl h
  unfold notifyState
  dsimp only
  refine hack.trans ?_
  split_ifs
  all_goals first
    | exact notify_calls _ fun _ => rfl
    | exact .refl _

theorem setState_calls (h : Handling P L) (s : SubscriptionState) : h.Calls (h.setState s) :=
  .none rfl rfl rfl

theorem setStale_calls (h : Handling P L) : h.Calls h.setStale := by
  unfold setStale
  split_ifs
  · exact .refl h
  · exact (h.setState_calls .stale).trans (notifyState_calls _ _)

theorem setLive_calls (h : Handling P L) : h.Calls h.setLive := by
  unfold setLive
  split_ifs
  · exact .refl h
  · exact (h.setState_calls .live).trans (notifyState_calls _ _)

theorem setRsslState_calls (h : Handling P L) (s : RsslState) : h.Calls (h.setRsslState s).2 := by
  apply setRsslState_induct
  · exact .refl h
  · exact fun e => h.notify_calls fun _ => rfl
  · exact (h.notify_calls fun _ => rfl).trans (setState_calls _ _)
  · exact h.setStale_calls
  · exact h.setLive_calls
  · exact .none rfl rfl rfl

theorem goLive_calls (h : Handling P L) (ds : RsslDataState) : h.Calls (h.goLive ds) := by
  unfold goLive
  split_ifs
  · exact h.setState_calls .live
  · exact .refl h

theorem completeSnapshot_calls (h : Handling P L) : h.Calls h.completeSnapshot := by
  unfold completeSnapshot
  split_ifs
  · exact .none rfl rfl rfl
  · exact .refl h

section

variable [DecidableEq L]

theorem refreshNotice_listener {sub : UPASubscription L} {bookMessage : Bool} {l : L} {n : Notice L}
    (hn : refreshNotice sub bookMessage l = some n) : n.listener = l := by
  unfold refreshNotice at hn
  split_ifs at hn <;> cases hn <;> rfl

theorem notifyListenersRefreshMessage_calls (h : Handling P L) (bookMessage : Bool) :
    h.Calls (h.notifyListenersRefreshMessage bookMessage) where
  listeners := rfl
  consumer := rfl
  notices n hn := by
    rcases List.mem_append.mp hn with hn | hn
    · exact .inl hn
    · obtain ⟨l, hl, hsome⟩ := List.mem_filterMap.mp hn
      rw [refreshNotice_listener hsome]
      exact .inr hl

theorem sendData_calls (h : Handling P L) (isRefreshMsg : Bool) (t : MamaMsgType) :
    h.Calls (h.sendData isRefreshMsg t) := by
  unfold sendData
  split_ifs
  · exact h.completeSnapshot_calls
  · exact (h.notifyListenersRefreshMessage_calls _).trans (.none rfl rfl rfl)
  · exact h.notify_calls fun _ => rfl

theorem deliver_calls (h : Handling P L) (bookMessage isRefreshMsg : Bool) (ds : RsslDataState)
    (u : UpdateType) (decodes : Bool) : h.Calls (h.deliver bookMessage isRefreshMsg ds u decodes) := by
  unfold deliver
  dsimp only
  split_ifs
  · exact (h.goLive_calls ds).trans (sendData_calls _ _ _)
  · exact h.goLive_calls ds

end

theorem takeStreamId_calls (this : P) (h : Handling P L) : h.Calls (h.takeStreamId this) := by
  unfold takeStreamId
  split_ifs
  · exact .none rfl rfl rfl
  · exact .refl h

section

variable [DecidableEq P]

theorem answerRefresh_calls (this : P) (h : Handling P L) : h.Calls (h.answerRefresh this) := by
  unfold answerRefresh
  split_ifs
  · exact .none rfl rfl rfl
  · exact .refl h

theorem respondInactive_calls (this : P) (h : Handling P L) : h.Calls (h.respondInactive this) := by
  unfold respondInactive
  split_ifs
  · exact .refl h
  · exact .none rfl rfl rfl

theorem sendOpenRequest_calls (this : P) (h : Handling P L) (o : SendOutcome) :
    h.Calls (h.sendOpenRequest this o).2 := by
  refine (h.takeStreamId_calls this).trans ?_
  unfold sendOpenRequest
  dsimp only
  split_ifs
  · exact notify_calls _ fun _ => rfl
  · exact .refl _
  · exact notify_calls _ fun _ => rfl
  · exact .none rfl rfl rfl
  · exact .none rfl rfl rfl

theorem sendCloseRequest_calls (this : P) (h : Handling P L) (o : SendOutcome) :
    h.Calls (h.sendCloseRequest this o) := by
  rw [sendCloseRequest_eq]
  split_ifs <;> exact .none rfl rfl rfl

end

variable [DecidableEq P] [DecidableEq L]

theorem processMarketPriceMsg_calls (this : P) (h : Handling P L) (msg : RsslMsg) :
    h.Calls (h.processMarketPriceMsg this msg) := by
  cases msg with
  | refresh s d =>
    have hs := (h.answerRefresh_calls this).trans ((h.answerRefresh this).setRsslState_calls s)
    dsimp only [processMarketPriceMsg]
    split_ifs
    · exact hs.trans (deliver_calls _ _ _ _ _ _)
    · exact hs
  | update u ds d => exact h.deliver_calls _ _ _ _ _
  | status s =>
    cases s with
    | none => exact .refl h
    | some s =>
      dsimp only [processMarketPriceMsg]
      split_ifs
      · exact h.completeSnapshot_calls
      · exact h.setRsslState_calls s
  | ack => exact .refl h
  | other => exact .refl h

theorem processBookMsg_calls (this : P) (h : Handling P L) (msg : RsslMsg) :
    h.Calls (h.processBookMsg this msg) := by
  cases msg with
  | refresh s d =>
    have hs := (h.setRsslState_calls s).trans ((h.setRsslState s).2.answerRefresh_calls this)
    exact hs.trans (deliver_calls _ _ _ _ _ _)
  | update u ds d => exact h.deliver_calls _ _ _ _ _
  | status s =>
    cases s with
    | none => exact .refl h
    | some s => exact h.setRsslState_calls s
  | ack => exact .refl h
  | other => exact .refl h

theorem processResponse_calls (this : P) (h : Handling P L) (domain : Domain) (msg : RsslMsg) :
    h.Calls (UPAConsumer.processResponse this h domain msg) := by
  have hgot : h.Calls (h.gotResponse this) := .none rfl rfl rfl
  have hbook : h.Calls (h.processBookResponse this msg) := by
    unfold processBookResponse
    split_ifs
    · exact h.respondInactive_calls this
    · exact hgot.trans (processBookMsg_calls _ _ _)
    · exact h.processBookMsg_calls this msg
  cases domain with
  | marketPrice =>
    change h.Calls (h.processMarketPriceResponse this msg)
    unfold processMarketPriceResponse
    split_ifs
    · exact h.respondInactive_calls this
    · exact hgot.trans (processMarketPriceMsg_calls _ _ _)
    · exact h.processMarketPriceMsg_calls this msg
  | marketByOrder => exact hbook
  | marketByPrice => exact hbook

end Handling

end RmdsBridge
