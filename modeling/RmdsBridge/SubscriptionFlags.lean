import RmdsBridge.Listeners
import RmdsBridge.NumberedHandlers
import RmdsBridge.Runs

namespace RmdsBridge

open Delivery

variable {P L : Type}

namespace Handling

theorem takeStreamId_sub (this : P) (h : Handling P L) :
    ∃ streamId, (h.takeStreamId this).sub = { h.sub with streamId } := by
  unfold takeStreamId
  split_ifs
  · exact ⟨_, rfl⟩
  · exact ⟨_, rfl⟩

variable [DecidableEq P]

theorem sendCloseRequest_sub (this : P) (h : Handling P L) (o : SendOutcome) :
    (h.sendCloseRequest this o).sub = h.sub := by
  rw [sendCloseRequest_eq]
  split_ifs <;> rfl

theorem sendOpenRequest_sub (this : P) (h : Handling P L) (o : SendOutcome) :
    ∃ streamId, (h.sendOpenRequest this o).2.sub = { h.sub with streamId } := by
  obtain ⟨id, hid⟩ := h.takeStreamId_sub this
  rcases h.sendOpenRequest_cases this o with ⟨-, -, heq⟩ | ⟨-, pending, -, n, heq⟩
  · exact ⟨id, by rw [heq]; exact hid⟩
  · exact ⟨id, by rw [heq]; exact hid⟩

end Handling

def UPASubscription.flags (sub : UPASubscription L) : Bool × Bool := (sub.isSnapshot, sub.snapShot)

theorem UPASubscription.setDomain_sub (sub : UPASubscription L) (domain : SubscriptionType) :
    ∃ symbol subscriptionType, sub.setDomain domain = { sub with symbol, subscriptionType } := by
  unfold UPASubscription.setDomain
  repeat' split
  all_goals exact ⟨_, _, rfl⟩

namespace UPAConsumer

def flags (c : UPAConsumer P L) (s : P) : Bool × Bool := (c.subscriptions s).flags

def Recaps (c : UPAConsumer P L) : Prop :=
  c.config.sendRecapOnDuplicate = true ∧ ∀ s, (c.subscriptions s).sendRecap = true

variable [DecidableEq P] {c c' : UPAConsumer P L} {s : P}

def Plain : Event P L → Prop
  | .snapshot .. | .setStale .. | .setLive .. | .respond .. => False
  | _ => True

structure Alters (config : TransportConfig) (sub sub' : UPASubscription L) : Prop where
  flags : sub'.flags = sub.flags
  sendRecap : sub'.sendRecap = sub.sendRecap ∨ sub'.sendRecap = config.sendRecapOnDuplicate

theorem Alters.refl (config : TransportConfig) (sub : UPASubscription L) : Alters config sub sub :=
  ⟨rfl, .inl rfl⟩

theorem Alters.update {sub : UPASubscription L}
    (hs : c'.subscriptions = Function.update c.subscriptions s sub)
    (h : Alters c.config (c.subscriptions s) sub) (t : P) :
    Alters c.config (c.subscriptions t) (c'.subscriptions t) := by
  rw [hs]
  by_cases ht : t = s
  · rw [ht, Function.update_self]
    exact h
  · rw [Function.update_of_ne ht]
    exact .refl _ _

theorem Recaps.update (h : c.Recaps) {sub : UPASubscription L}
    (hs : c'.subscriptions = Function.update c.subscriptions s sub) (hc : c'.config = c.config)
    (hsub : sub.sendRecap = true) : c'.Recaps := by
  refine ⟨hc ▸ h.1, fun t => ?_⟩
  rw [hs]
  by_cases ht : t = s
  · rw [ht, Function.update_self]
    exact hsub
  · rw [Function.update_of_ne ht]
    exact h.2 t

theorem dispatch_alters (c : UPAConsumer P L) (o : SendOutcome) (t : P) :
    Alters c.config (c.subscriptions t) ((c.dispatch o).subscriptions t) := by
  unfold dispatch
  cases c.requestQueue with
  | nil => exact .refl _ _
  | cons r rs =>
    dsimp only [sendRequest]
    split_ifs
    · have he := Handling.sendCloseRequest_sub r.sub (c.handling r.sub) o
      exact Alters.update (s := r.sub) rfl (he.symm ▸ .refl _ _) t
    · obtain ⟨id, he⟩ := Handling.sendOpenRequest_sub r.sub (c.handling r.sub) o
      exact Alters.update (s := r.sub) rfl (he.symm ▸ ⟨rfl, .inl rfl⟩) t
    · exact .refl _ _

variable [DecidableEq L]

theorem step_alters (c : UPAConsumer P L) {e : Event P L} (he : Plain e) (t : P) :
    Alters c.config (c.subscriptions t) ((c.step e).subscriptions t) := by
  have hopened (s : P) :
      Alters c.config (c.subscriptions s) ((c.subscriptions s).opened c.config) := ⟨rfl, .inr rfl⟩
  have hopen (s : P) : Alters c.config (c.subscriptions t) ((c.openSub s).subscriptions t) :=
    Alters.update rfl (hopened s) t
  have hkeep {d : UPAConsumer P L} {s : P} {sub : UPASubscription L}
      (hd : d.subscriptions = Function.update c.subscriptions s sub)
      (hf : sub.flags = (c.subscriptions s).flags)
      (hr : sub.sendRecap = (c.subscriptions s).sendRecap) :
      Alters c.config (c.subscriptions t) (d.subscriptions t) :=
    Alters.update hd ⟨hf, .inl hr⟩ t
  cases e with
  | setDomain s domain =>
    obtain ⟨symbol, subscriptionType, hsub⟩ := (c.subscriptions s).setDomain_sub domain
    exact hkeep (s := s) rfl (by rw [hsub]; rfl) (by rw [hsub])
  | addListener s l => exact hkeep (s := s) rfl rfl rfl
  | removeListener s l => exact hkeep (s := s) rfl rfl rfl
  | «open» s => exact hopen s
  | bridgeOpen s =>
    change Alters _ _ ((c.bridgeOpen s).subscriptions t)
    unfold bridgeOpen
    split_ifs
    · exact hopen s
    · exact .refl _ _
  | reSubscribe s => exact hopen s
  | snapshot s => exact he.elim
  | requestImage s l => exact hkeep (s := s) rfl rfl rfl
  | close s =>
    change Alters _ _ ((c.close s).subscriptions t)
    unfold close queueCloseRequest
    split_ifs <;> exact hkeep (s := s) rfl rfl rfl
  | setStale s => exact he.elim
  | setLive s => exact he.elim
  | dispatch o => exact c.dispatch_alters o t
  | respond domain streamId msg => exact he.elim

theorem step_config (c : UPAConsumer P L) (e : Event P L) : (c.step e).config = c.config := by
  cases e with
  | bridgeOpen s =>
    change (c.bridgeOpen s).config = _
    unfold bridgeOpen
    split_ifs <;> rfl
  | close s =>
    change (c.close s).config = _
    unfold close queueCloseRequest
    split_ifs <;> rfl
  | dispatch o =>
    change (c.dispatch o).config = _
    unfold dispatch
    cases c.requestQueue with
    | nil => rfl
    | cons r rs =>
      dsimp only [sendRequest]
      split_ifs <;> rfl
  | respond domain streamId msg =>
    change (c.respond domain streamId msg).config = _
    unfold respond
    cases c.target domain streamId <;> rfl
  | _ => rfl

theorem step_flags (c : UPAConsumer P L) {e : Event P L} (he : Plain e) :
    (c.step e).flags = c.flags := funext fun t => (c.step_alters he t).flags

theorem step_recaps (h : c.Recaps) {e : Event P L} (he : Plain e) : (c.step e).Recaps := by
  refine ⟨(c.step_config e).symm ▸ h.1, fun t => ?_⟩
  rcases (c.step_alters he t).sendRecap with hr | hr
  · rw [hr]
    exact h.2 t
  · rw [hr]
    exact h.1

end UPAConsumer

end RmdsBridge
