import RmdsBridge.Dispatch

namespace RmdsBridge

variable {P L : Type}

namespace Handling

theorem takeStreamId_listeners (this : P) (h : Handling P L) :
    (h.takeStreamId this).sub.listeners = h.sub.listeners := by
  unfold takeStreamId
  split_ifs <;> rfl

variable [DecidableEq P]

theorem sendCloseRequest_listeners (this : P) (h : Handling P L) (o : SendOutcome) :
    (h.sendCloseRequest this o).sub.listeners = h.sub.listeners := by
  rw [sendCloseRequest_eq]
  split_ifs <;> rfl

theorem sendOpenRequest_listeners (this : P) (h : Handling P L) (o : SendOutcome) :
    (h.sendOpenRequest this o).2.sub.listeners = h.sub.listeners := by
  rw [← h.takeStreamId_listeners this]
  rcases h.sendOpenRequest_cases this o with ⟨-, -, heq⟩ | ⟨-, pending, -, n, heq⟩
  · rw [heq]
    rfl
  · rw [heq]

end Handling

theorem UPASubscription.setDomain_listeners (sub : UPASubscription L) (domain : SubscriptionType) :
    (sub.setDomain domain).listeners = sub.listeners := by
  unfold UPASubscription.setDomain
  repeat' split
  all_goals rfl

namespace UPAConsumer

def listeners (c : UPAConsumer P L) (s : P) : List L := (c.subscriptions s).listeners

variable [DecidableEq P] {c c' : UPAConsumer P L} {s : P}

theorem listeners_update (sub : UPASubscription L)
    (hs : c'.subscriptions = Function.update c.subscriptions s sub) :
    c'.listeners = Function.update c.listeners s sub.listeners := by
  funext t
  unfold listeners
  rw [hs]
  by_cases ht : t = s
  · rw [ht, Function.update_self, Function.update_self]
  · rw [Function.update_of_ne ht, Function.update_of_ne ht]

theorem listeners_same {sub : UPASubscription L}
    (hs : c'.subscriptions = Function.update c.subscriptions s sub)
    (hl : sub.listeners = (c.subscriptions s).listeners) : c'.listeners = c.listeners := by
  rw [listeners_update sub hs, hl]
  exact Function.update_eq_self s c.listeners

def Relists : Event P L → Prop
  | .addListener .. | .removeListener .. => True
  | _ => False

variable [DecidableEq L]

theorem addListener_listeners (c : UPAConsumer P L) (s : P) (l : L) :
    (c.step (.addListener s l)).listeners = Function.update c.listeners s (c.listeners s ++ [l]) :=
  listeners_update ((c.subscriptions s).addListener l) rfl

theorem removeListener_listeners (c : UPAConsumer P L) (s : P) (l : L) :
    (c.step (.removeListener s l)).listeners =
      Function.update c.listeners s ((c.listeners s).erase l) :=
  listeners_update ((c.subscriptions s).removeListener l) rfl

theorem step_listeners (c : UPAConsumer P L) {e : Event P L} (he : ¬ Relists e) :
    (c.step e).listeners = c.listeners := by
  cases e with
  | setDomain s domain => exact listeners_same rfl ((c.subscriptions s).setDomain_listeners domain)
  | addListener s l => exact absurd trivial he
  | removeListener s l => exact absurd trivial he
  | «open» s => exact listeners_same (s := s) rfl rfl
  | bridgeOpen s =>
    change (c.bridgeOpen s).listeners = _
    unfold bridgeOpen
    split_ifs
    · exact listeners_same (s := s) rfl rfl
    · rfl
  | reSubscribe s => exact listeners_same (s := s) rfl rfl
  | snapshot s => exact listeners_same (s := s) rfl rfl
  | requestImage s l => exact listeners_same (s := s) rfl rfl
  | close s =>
    change (c.close s).listeners = _
    unfold close queueCloseRequest
    split_ifs <;> exact listeners_same (s := s) rfl rfl
  | setStale s => exact listeners_same rfl (c.handling s).setStale_stateOnly.listeners_eq
  | setLive s => exact listeners_same rfl (c.handling s).setLive_stateOnly.listeners_eq
  | dispatch o =>
    change (c.dispatch o).listeners = _
    unfold dispatch
    cases c.requestQueue with
    | nil => rfl
    | cons r rs =>
      dsimp only [sendRequest]
      split_ifs
      · exact listeners_same (s := r.sub) rfl (Handling.sendCloseRequest_listeners _ _ o)
      · exact listeners_same (s := r.sub) rfl (Handling.sendOpenRequest_listeners _ _ o)
      · rfl
  | respond domain streamId msg =>
    cases ht : c.target domain streamId with
    | none => rw [respond_untargeted msg ht]
    | some s =>
      have hkeep := (c.handling s).processResponse_keepsStreams s domain msg
      exact listeners_same (respond_became msg ht).1 hkeep.listeners_eq

end UPAConsumer

end RmdsBridge
