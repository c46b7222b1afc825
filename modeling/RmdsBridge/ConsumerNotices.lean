import RmdsBridge.Notices

namespace RmdsBridge

variable {P L : Type}

namespace UPAConsumer

structure Calls (c c' : UPAConsumer P L) : Prop where
  notices : ∃ ns, c'.notices = c.notices ++ ns ∧ ∀ n ∈ ns, ∃ u, n.listener ∈ c.listeners u
  consumer : ∀ u, (c.subscriptions u).consumer = true → (c'.subscriptions u).consumer = true

variable {c c' c'' : UPAConsumer P L} {s : P}

theorem Calls.none (hs : c'.subscriptions = c.subscriptions) (hn : c'.notices = c.notices) :
    c.Calls c' where
  notices := ⟨[], by rw [hn, List.append_nil], fun n hm => absurd hm List.not_mem_nil⟩
  consumer u hu := by rwa [hs]

theorem Calls.trans (a : c.Calls c') (hl : c'.listeners = c.listeners) (b : c'.Calls c'') :
    c.Calls c'' where
  notices := by
    obtain ⟨ns, hns, hls⟩ := a.notices
    obtain ⟨ms, hms, hls'⟩ := b.notices
    refine ⟨ns ++ ms, by rw [hms, hns, List.append_assoc], fun n hn => ?_⟩
    rcases List.mem_append.mp hn with hn | hn
    · exact hls n hn
    · rw [← hl]
      exact hls' n hn
  consumer u hu := b.consumer u (a.consumer u hu)

variable [DecidableEq P]

theorem Calls.setSubscription {sub : UPASubscription L}
    (hs : c'.subscriptions = Function.update c.subscriptions s sub) (hn : c'.notices = c.notices)
    (hc : (c.subscriptions s).consumer = true → sub.consumer = true) : c.Calls c' where
  notices := ⟨[], by rw [hn, List.append_nil], fun n hm => absurd hm List.not_mem_nil⟩
  consumer u hu := by
    rw [hs]
    by_cases hus : u = s
    · subst hus
      rw [Function.update_self]
      exact hc hu
    · rw [Function.update_of_ne hus]
      exact hu

theorem handle_calls {h : Handling P L} (hcalls : (c.handling s).Calls h) : c.Calls (c.handle s h) where
  notices := by
    refine ⟨h.notices, rfl, fun n hn => ⟨s, ?_⟩⟩
    rcases hcalls.notices n hn with hn | hn
    · exact absurd hn List.not_mem_nil
    · exact hn
  consumer u hu := by
    change (Function.update c.subscriptions s h.sub u).consumer = true
    by_cases hus : u = s
    · subst hus
      rw [Function.update_self, hcalls.consumer]
      exact hu
    · rw [Function.update_of_ne hus]
      exact hu

theorem sendRequest_calls (c : UPAConsumer P L) (r : Request P) (o : SendOutcome) :
    c.Calls (c.sendRequest r o) := by
  unfold sendRequest
  split_ifs
  · exact handle_calls (Handling.sendCloseRequest_calls _ _ o)
  · exact handle_calls (Handling.sendOpenRequest_calls _ _ o)
  · exact .none rfl rfl

theorem dispatch_calls (c : UPAConsumer P L) (o : SendOutcome) : c.Calls (c.dispatch o) := by
  unfold dispatch
  cases c.requestQueue with
  | nil => exact .none rfl rfl
  | cons r rs =>
    have hpop : c.Calls { c with requestQueue := rs } := .none rfl rfl
    exact hpop.trans rfl (sendRequest_calls _ r o)

variable [DecidableEq L]

theorem step_calls (c : UPAConsumer P L) (e : Event P L) : c.Calls (c.step e) := by
  cases e with
  | setDomain s domain =>
    refine .setSubscription (s := s) rfl rfl fun hc => ?_
    rw [← hc]
    unfold UPASubscription.setDomain
    repeat' split
    all_goals rfl
  | addListener s l => exact .setSubscription (s := s) rfl rfl id
  | removeListener s l => exact .setSubscription (s := s) rfl rfl id
  | «open» s => exact .setSubscription (s := s) rfl rfl fun _ => rfl
  | bridgeOpen s =>
    change c.Calls (c.bridgeOpen s)
    unfold bridgeOpen
    split_ifs
    · exact .setSubscription (s := s) rfl rfl fun _ => rfl
    · exact .none rfl rfl
  | reSubscribe s => exact .setSubscription (s := s) rfl rfl fun _ => rfl
  | snapshot s => exact .setSubscription (s := s) rfl rfl fun _ => rfl
  | requestImage s l => exact .setSubscription (s := s) rfl rfl fun _ => rfl
  | close s =>
    change c.Calls (c.close s)
    unfold close queueCloseRequest
    split_ifs <;> exact .setSubscription (s := s) rfl rfl id
  | setStale s => exact handle_calls (c.handling s).setStale_calls
  | setLive s => exact handle_calls (c.handling s).setLive_calls
  | dispatch o => exact c.dispatch_calls o
  | respond domain streamId msg =>
    cases ht : c.target domain streamId with
    | none =>
      rw [respond_untargeted msg ht]
      exact .none rfl rfl
    | some s =>
      change c.Calls (c.respond domain streamId msg)
      unfold respond
      rw [ht]
      exact handle_calls ((c.handling s).processResponse_calls s domain msg)

theorem open_consumer (c : UPAConsumer P L) (s : P) :
    ((c.step (.open s)).subscriptions s).consumer = true := by
  change (Function.update c.subscriptions s ((c.subscriptions s).opened c.config) s).consumer = true
  rw [Function.update_self]
  rfl

theorem foldl_calls {es : List (Event P L)} (he : ∀ e ∈ es, ¬ Relists e) (c : UPAConsumer P L) :
    c.Calls (es.foldl step c) := by
  induction es generalizing c with
  | nil => exact .none rfl rfl
  | cons e es ih =>
    have hl := c.step_listeners (he e List.mem_cons_self)
    exact (c.step_calls e).trans hl (ih (fun e' hm => he e' (List.mem_cons_of_mem e hm)) _)

end UPAConsumer

end RmdsBridge
