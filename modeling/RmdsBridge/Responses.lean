import RmdsBridge.Consumer

namespace RmdsBridge

def RsslState.Usable (s : RsslState) : Prop :=
  s.streamState = .open ∧ s.code ≠ .preempted ∧ s.dataState ≠ .suspect

instance (s : RsslState) : Decidable s.Usable := inferInstanceAs (Decidable (_ ∧ _))

namespace Handling

variable {P L : Type}

def StateOnly (h h' : Handling P L) : Prop :=
  ∃ st n k, h' = ⟨{ h.manager with openItems := k }, { h.sub with state := st }, n⟩

theorem StateOnly.refl (h : Handling P L) : h.StateOnly h := ⟨_, _, _, rfl⟩

theorem StateOnly.trans {h h' h'' : Handling P L} (a : h.StateOnly h') (b : h'.StateOnly h'') :
    h.StateOnly h'' := by
  obtain ⟨st, n, k, rfl⟩ := a
  obtain ⟨st', n', k', rfl⟩ := b
  exact ⟨st', n', k', rfl⟩

theorem setState_stateOnly (h : Handling P L) (st : SubscriptionState) :
    h.StateOnly (h.setState st) := ⟨st, _, _, rfl⟩

theorem notify_stateOnly (h : Handling P L) (call : L → Notice L) : h.StateOnly (h.notify call) :=
  ⟨_, _, _, rfl⟩

theorem notifyState_eq (h : Handling P L) (ok : Bool) :
    ∃ n, h.notifyState ok = { h with notices := n } := by
  unfold notifyState
  dsimp only
  split_ifs <;> exact ⟨_, rfl⟩

theorem notifyState_stateOnly (h : Handling P L) (ok : Bool) : h.StateOnly (h.notifyState ok) := by
  obtain ⟨n, hn⟩ := h.notifyState_eq ok
  exact hn ▸ ⟨_, n, _, rfl⟩

@[simp] theorem notifyState_state (h : Handling P L) (ok : Bool) :
    (h.notifyState ok).sub.state = h.sub.state := by
  obtain ⟨n, hn⟩ := h.notifyState_eq ok
  rw [hn]

@[simp] theorem notifyState_openItems (h : Handling P L) (ok : Bool) :
    (h.notifyState ok).manager.openItems = h.manager.openItems := by
  obtain ⟨n, hn⟩ := h.notifyState_eq ok
  rw [hn]

theorem setStale_stateOnly (h : Handling P L) : h.StateOnly h.setStale := by
  unfold setStale
  split_ifs
  · exact .refl h
  · exact (h.setState_stateOnly _).trans (notifyState_stateOnly _ _)

theorem setLive_stateOnly (h : Handling P L) : h.StateOnly h.setLive := by
  unfold setLive
  split_ifs
  · exact .refl h
  · exact (h.setState_stateOnly _).trans (notifyState_stateOnly _ _)

theorem setStale_state (h : Handling P L) :
    h.setStale.sub.state = if h.sub.state = .inactive then .inactive else .stale := by
  unfold setStale
  split_ifs with hi
  · exact hi
  · rw [notifyState_state]
    rfl

theorem setLive_state (h : Handling P L) :
    h.setLive.sub.state = if h.sub.state = .inactive then .inactive else .live := by
  unfold setLive
  split_ifs with hi
  · exact hi
  · rw [notifyState_state]
    rfl

@[simp] theorem setStale_openItems (h : Handling P L) :
    h.setStale.manager.openItems = h.manager.openItems := by
  unfold setStale
  split_ifs
  · rfl
  · rw [notifyState_openItems]
    rfl

@[simp] theorem setLive_openItems (h : Handling P L) :
    h.setLive.manager.openItems = h.manager.openItems := by
  unfold setLive
  split_ifs
  · rfl
  · rw [notifyState_openItems]
    rfl

theorem countLive_stateOnly (h : Handling P L) : h.StateOnly h.countLive := ⟨_, _, _, rfl⟩

theorem ite_snd {M : Handling P L → Prop} {p : Prop} [Decidable p] {x y : Bool × Handling P L}
    (hx : M x.2) (hy : M y.2) : M (if p then x else y).2 := by
  by_cases hp : p
  · rwa [if_pos hp]
  · rwa [if_neg hp]

theorem setRsslState_induct {M : Handling P L → Prop} {h : Handling P L} (hsame : M h)
    (herror : ∀ e, M (h.notifyListenersError e))
    (hstatus : M ((h.notify .status).setState .inactive)) (hstale : M h.setStale)
    (hlive : M h.setLive) (hcount : M h.countLive) (s : RsslState) : M (h.setRsslState s).2 := by
  have hs : M (if h.sub.snapShot then (h.notify .status).setState .inactive else h) := by
    split_ifs
    · exact hstatus
    · exact hsame
  have hc : M (if h.sub.state = .subscribing then h.countLive else h) := by
    split_ifs
    · exact hcount
    · exact hsame
  exact ite_snd (herror _) <| ite_snd (herror _) <| ite_snd (herror _) <| ite_snd (herror _) <|
    ite_snd hs <| ite_snd (herror _) <| ite_snd hstale <| ite_snd hlive <| ite_snd hc <|
    ite_snd hcount hsame

theorem setRsslState_stateOnly (h : Handling P L) (s : RsslState) :
    h.StateOnly (h.setRsslState s).2 :=
  setRsslState_induct (.refl h) (fun _ => h.notify_stateOnly _)
    ((h.notify_stateOnly _).trans (setState_stateOnly _ _)) h.setStale_stateOnly
    h.setLive_stateOnly h.countLive_stateOnly s

theorem goLive_stateOnly (h : Handling P L) (ds : RsslDataState) : h.StateOnly (h.goLive ds) := by
  unfold goLive
  split_ifs
  · exact h.setState_stateOnly _
  · exact .refl h

def streams (h : Handling P L) : (ℕ → Option P) × ℕ × List ℕ × ℕ × Bool × List L :=
  (h.manager.itemArray, h.manager.nextIndex, h.manager.freeStreamIds, h.sub.streamId,
    h.sub.snapShot, h.sub.listeners)

theorem StateOnly.streams_eq {h h' : Handling P L} (k : h.StateOnly h') : h'.streams = h.streams := by
  obtain ⟨st, n, o, rfl⟩ := k
  rfl

theorem StateOnly.listeners_eq {h h' : Handling P L} (k : h.StateOnly h') :
    h'.sub.listeners = h.sub.listeners := congrArg (fun v => v.2.2.2.2.2) k.streams_eq

theorem completeSnapshot_streams {h h' : Handling P L} (e : h'.streams = h.streams) :
    h'.completeSnapshot.streams = h.completeSnapshot.streams := by
  obtain ⟨⟨a, n, f, p, o, c⟩, sub, ns⟩ := h
  obtain ⟨⟨a', n', f', p', o', c'⟩, sub', ns'⟩ := h'
  simp only [streams, Prod.mk.injEq] at e
  obtain ⟨rfl, rfl, rfl, hid, hs, hl⟩ := e
  unfold completeSnapshot
  dsimp only
  rw [hs]
  split_ifs <;> simp [streams, UPAStreamManager.releaseStreamId, hid, hs, hl]

def KeepsStreams (h h' : Handling P L) : Prop :=
  h'.streams = h.streams ∨ h'.streams = h.completeSnapshot.streams

theorem KeepsStreams.listeners_eq {h h' : Handling P L} (k : h.KeepsStreams h') :
    h'.sub.listeners = h.sub.listeners := by
  have hc : h.completeSnapshot.sub.listeners = h.sub.listeners := by
    unfold completeSnapshot
    split_ifs <;> rfl
  rcases k with k | k
  · exact congrArg (fun v => v.2.2.2.2.2) k
  · exact (congrArg (fun v => v.2.2.2.2.2) k).trans hc

theorem KeepsStreams.of_eq {h g h' : Handling P L} (k : g.KeepsStreams h')
    (e : g.streams = h.streams) : h.KeepsStreams h' := by
  rcases k with k | k
  · exact .inl (k.trans e)
  · exact .inr (k.trans (completeSnapshot_streams e))

section

variable [DecidableEq P]

theorem answerRefresh_streams (this : P) (h : Handling P L) :
    (h.answerRefresh this).streams = h.streams := by
  unfold answerRefresh
  split_ifs <;> rfl

end

variable [DecidableEq L]

theorem sendData_keepsStreams (h : Handling P L) (r : Bool) (t : MamaMsgType) :
    h.KeepsStreams (h.sendData r t) := by
  unfold sendData
  split_ifs
  · exact .inr rfl
  · exact .inl rfl
  · exact .inl rfl

theorem deliver_keepsStreams (h : Handling P L) (b r : Bool) (ds : RsslDataState) (u : UpdateType)
    (d : Bool) : h.KeepsStreams (h.deliver b r ds u d) := by
  have hl := (h.goLive_stateOnly ds).streams_eq
  unfold deliver
  dsimp only
  split_ifs
  · rcases (h.goLive ds).sendData_keepsStreams r _ with hs | hs
    · exact .inl (hs.trans hl)
    · exact .inr (hs.trans (completeSnapshot_streams hl))
  · exact .inl hl

variable [DecidableEq P]

theorem processMarketPriceMsg_keepsStreams (this : P) (h : Handling P L) (msg : RsslMsg) :
    h.KeepsStreams (h.processMarketPriceMsg this msg) := by
  cases msg with
  | refresh s d =>
    have hs := (((h.answerRefresh this).setRsslState_stateOnly s).streams_eq).trans
      (h.answerRefresh_streams this)
    dsimp only [processMarketPriceMsg]
    split_ifs
    · exact (deliver_keepsStreams _ _ _ _ _ _).of_eq hs
    · exact .inl hs
  | update u ds d => exact h.deliver_keepsStreams _ _ _ _ _
  | status s =>
    cases s with
    | none => exact .inl rfl
    | some s =>
      dsimp only [processMarketPriceMsg]
      split_ifs
      · exact .inr rfl
      · exact .inl (h.setRsslState_stateOnly s).streams_eq
  | ack => exact .inl rfl
  | other => exact .inl rfl

theorem processBookMsg_keepsStreams (this : P) (h : Handling P L) (msg : RsslMsg) :
    h.KeepsStreams (h.processBookMsg this msg) := by
  cases msg with
  | refresh s d =>
    have hs := ((h.setRsslState s).2.answerRefresh_streams this).trans
      (h.setRsslState_stateOnly s).streams_eq
    exact (deliver_keepsStreams _ _ _ _ _ _).of_eq hs
  | update u ds d => exact h.deliver_keepsStreams _ _ _ _ _
  | status s =>
    cases s with
    | none => exact .inl rfl
    | some s => exact .inl (h.setRsslState_stateOnly s).streams_eq
  | ack => exact .inl rfl
  | other => exact .inl rfl

theorem processResponse_keepsStreams (this : P) (h : Handling P L) (domain : Domain)
    (msg : RsslMsg) : h.KeepsStreams (UPAConsumer.processResponse this h domain msg) := by
  have hg : (h.gotResponse this).streams = h.streams := rfl
  have hi : (h.respondInactive this).streams = h.streams := by
    unfold respondInactive
    split_ifs <;> rfl
  have hbook : h.KeepsStreams (h.processBookResponse this msg) := by
    unfold processBookResponse
    split_ifs
    · exact .inl hi
    · exact (processBookMsg_keepsStreams _ _ _).of_eq hg
    · exact processBookMsg_keepsStreams _ _ _
  cases domain with
  | marketPrice =>
    change h.KeepsStreams (h.processMarketPriceResponse this msg)
    unfold processMarketPriceResponse
    split_ifs
    · exact .inl hi
    · exact (processMarketPriceMsg_keepsStreams _ _ _).of_eq hg
    · exact processMarketPriceMsg_keepsStreams _ _ _
  | marketByOrder => exact hbook
  | marketByPrice => exact hbook

end Handling

end RmdsBridge
