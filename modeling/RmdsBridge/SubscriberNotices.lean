import RmdsBridge.ConsumerNotices

namespace RmdsBridge

namespace RMDSSubscriber

variable {r r' : RMDSSubscriber} {keyId u b : ℕ} {src : RMDSSource} {symbol : String}

def Opened (r : RMDSSubscriber) : Prop :=
  ∀ u, r.registry.listeners u ≠ [] → (r.consumer.subscriptions u).consumer = true

structure Notifies (r r' : RMDSSubscriber) : Prop where
  notices : ∃ ns, r'.consumer.notices = r.consumer.notices ++ ns ∧
    ∀ n ∈ ns, ∃ u, n.listener ∈ r.registry.listeners u
  opened : r.Opened → r'.Opened

theorem Notifies.silent (hn : r'.consumer.notices = r.consumer.notices) (ho : r.Opened → r'.Opened) :
    r.Notifies r' :=
  ⟨⟨[], by rw [hn, List.append_nil], fun n hm => absurd hm List.not_mem_nil⟩, ho⟩

theorem Notifies.same (hc : r'.consumer = r.consumer) : r.Notifies r' := by
  refine .silent (by rw [hc]) fun ho u hu => ?_
  change r'.consumer.listeners u ≠ [] at hu
  rw [hc] at hu ⊢
  exact ho u hu

theorem Notifies.congr {q : RMDSSubscriber} (hc : q.consumer = r.consumer) (h : q.Notifies r') :
    r.Notifies r' := by
  have hl : q.registry.listeners = r.registry.listeners := congrArg UPAConsumer.listeners hc
  constructor
  · rw [← hc, ← hl]
    exact h.notices
  · intro ho
    apply h.opened
    intro u hu
    rw [hl] at hu
    rw [hc]
    exact ho u hu

theorem Opened.keep (ho : r.Opened)
    (hc : ∀ u, (r.consumer.subscriptions u).consumer = true →
      (r'.consumer.subscriptions u).consumer = true)
    (hl : ∀ u, r'.registry.listeners u ≠ [] → r.registry.listeners u ≠ []) : r'.Opened :=
  fun u hu => hc u (ho u (hl u hu))

theorem Notifies.of_calls (hc : r.consumer.Calls r'.consumer)
    (hl : r'.registry.listeners = r.registry.listeners) : r.Notifies r' :=
  ⟨hc.notices, fun ho => ho.keep hc.consumer fun u hu => by rwa [hl] at hu⟩

theorem Notifies.of_events {es : List (Event ℕ ℕ)} (he : ∀ e ∈ es, ¬ UPAConsumer.Relists e)
    (hc : r'.consumer = es.foldl UPAConsumer.step r.consumer) (hs : r.Still r') : r.Notifies r' := by
  refine .of_calls ?_ (congrArg Registry.listeners hs.registry)
  rw [hc]
  exact UPAConsumer.foldl_calls he r.consumer

theorem callSources_consumer (r : RMDSSubscriber) (e : ℕ → Event ℕ ℕ) :
    ∃ us : List ℕ, (r.callSources e).consumer = (us.map e).foldl UPAConsumer.step r.consumer := by
  unfold callSources
  induction r.sources.servicesMap.entries generalizing r with
  | nil => exact ⟨[], rfl⟩
  | cons x xs ih =>
    obtain ⟨us, hus⟩ := ih (r.callAll x.2 e)
    refine ⟨x.2.subscriptions.values ++ us, ?_⟩
    rw [List.foldl_cons, hus, callAll_eq, List.map_append, List.foldl_append]

theorem not_relists_map {e : ℕ → Event ℕ ℕ} (he : ∀ u, ¬ UPAConsumer.Relists (e u)) (us : List ℕ) :
    ∀ e' ∈ us.map e, ¬ UPAConsumer.Relists e' := by
  intro e' hm
  obtain ⟨u, -, rfl⟩ := List.mem_map.mp hm
  exact he u

theorem callSources_notifies {e : ℕ → Event ℕ ℕ} (he : ∀ u, ¬ UPAConsumer.Relists (e u))
    (hc : r'.consumer = r.consumer) (hs : r.Still (r'.callSources e)) :
    r.Notifies (r'.callSources e) := by
  obtain ⟨us, hus⟩ := r'.callSources_consumer e
  rw [hc] at hus
  exact .of_events (not_relists_map he us) hus hs

theorem setSourceState_consumer (r : RMDSSubscriber) (keyId : ℕ) (newState acceptConnections : Bool) :
    ∃ es : List (Event ℕ ℕ), (∀ e ∈ es, ¬ UPAConsumer.Relists e) ∧
      (r.setSourceState keyId newState acceptConnections).consumer =
        es.foldl UPAConsumer.step r.consumer := by
  unfold setSourceState
  cases r.sources.servicesMap.find keyId with
  | none => exact ⟨[], fun e hm => absurd hm List.not_mem_nil, rfl⟩
  | some src =>
    dsimp only
    split_ifs
    · exact ⟨_, not_relists_map (fun _ => id) _, by rw [callAll_eq]⟩
    · exact ⟨_, not_relists_map (fun _ => id) _, by rw [callAll_eq]⟩
    · exact ⟨[], fun e hm => absurd hm List.not_mem_nil, rfl⟩

theorem updateOrCreate_notifies (r : RMDSSubscriber) (keyId : ℕ) (keyName : String)
    (state acceptConnections : Bool) :
    r.Notifies (r.updateOrCreate keyId keyName state acceptConnections) := by
  have hs := r.updateOrCreate_still keyId keyName state acceptConnections
  unfold updateOrCreate at hs ⊢
  dsimp only at hs ⊢
  split_ifs at hs ⊢
  all_goals
    obtain ⟨es, he, hes⟩ := setSourceState_consumer _ keyId state acceptConnections
    exact .of_events he hes hs

theorem connectionNotification_notifies (r : RMDSSubscriber) (connected requestLogin : Bool) :
    r.Notifies (r.connectionNotification connected requestLogin) := by
  have hs := r.connectionNotification_still connected requestLogin
  unfold connectionNotification at hs ⊢
  dsimp only at hs ⊢
  split_ifs at hs ⊢
  · exact .same rfl
  · exact .same rfl
  · exact callSources_notifies (fun _ => id) rfl hs
  · exact .same rfl

theorem dictionaryUpdate_notifies (r : RMDSSubscriber) (dictionaryComplete : Bool) :
    r.Notifies (r.dictionaryUpdate dictionaryComplete) := by
  have hs := r.dictionaryUpdate_still dictionaryComplete
  unfold dictionaryUpdate at hs ⊢
  dsimp only at hs ⊢
  split_ifs at hs ⊢
  · exact callSources_notifies (fun _ => id) rfl hs
  · exact .same rfl
  · exact .same rfl

theorem joinUpaSub_notifies (hu : r.registry.listeners u ≠ []) (b : ℕ) :
    r.Notifies (r.joinUpaSub u b) := by
  have hl : ∀ u', (r.joinUpaSub u b).registry.listeners u' ≠ [] → r.registry.listeners u' ≠ [] := by
    intro u' hu'
    rw [joinUpaSub_registry] at hu'
    by_cases huu : u' = u
    · rwa [huu]
    · rwa [Registry.setListeners_of_ne huu] at hu'
  have hadd := (r.consumer.step_calls (.addListener u b)).consumer
  unfold joinUpaSub at hl ⊢
  dsimp only at hl ⊢
  split_ifs at hl ⊢
  · have himage := ((r.call (.addListener u b)).consumer.step_calls (.requestImage u b)).consumer
    exact .silent rfl fun ho => ho.keep (fun u' hc => himage u' (hadd u' hc)) hl
  · exact .silent rfl fun ho => ho.keep hadd hl

theorem leaveUpaSub_notices (r : RMDSSubscriber) (keyId : ℕ) (src : RMDSSource) (u b : ℕ)
    (symbol : String) : (r.leaveUpaSub keyId src u b symbol).consumer.notices = r.consumer.notices := by
  unfold leaveUpaSub
  dsimp only
  split_ifs
  · change (UPAConsumer.close _ u).notices = _
    unfold UPAConsumer.close UPAConsumer.queueCloseRequest
    split_ifs <;> rfl
  · rfl

theorem leaveUpaSub_notifies (h : r.sources.servicesMap.find keyId = some src) (u b : ℕ)
    (symbol : String) : r.Notifies (r.leaveUpaSub keyId src u b symbol) := by
  have hl : ∀ u', (r.leaveUpaSub keyId src u b symbol).registry.listeners u' ≠ [] →
      r.registry.listeners u' ≠ [] := by
    intro u' hu' hnil
    rw [leaveUpaSub_registry h] at hu'
    split_ifs at hu' with he
    · by_cases huu : u' = u
      · rw [huu] at hu'
        exact hu' Registry.drop_listeners_self
      · rw [Registry.drop_listeners_of_ne huu] at hu'
        exact hu' hnil
    · by_cases huu : u' = u
      · rw [huu] at hnil
        rw [hnil] at he
        exact he rfl
      · rw [Registry.setListeners_of_ne huu] at hu'
        exact hu' hnil
  refine .silent (r.leaveUpaSub_notices keyId src u b symbol) fun ho => ho.keep ?_ hl
  intro u' hc
  have hremove := (r.consumer.step_calls (.removeListener u b)).consumer u' hc
  unfold leaveUpaSub
  dsimp only
  split_ifs
  · exact ((r.call (.removeListener u b)).consumer.step_calls (.close u)).consumer u' hremove
  · exact hremove

theorem createSubscription_subscriptions (r : RMDSSubscriber) (keyId : ℕ) (symbol : String)
    (hu : u ≠ r.upaSources.length) :
    (r.createSubscription keyId symbol).2.consumer.subscriptions u = r.consumer.subscriptions u :=
  Function.update_of_ne hu ..

theorem createUpaSub_notifies (ht : r.registry.Tidy)
    (h : r.sources.servicesMap.find keyId = some src) (b : ℕ) (symbol : String) :
    r.Notifies (r.createUpaSub keyId src b symbol) := by
  have hl := congrArg Registry.listeners (createUpaSub_registry ht h b symbol)
  refine .silent rfl fun ho u hu => ?_
  by_cases huu : u = r.upaSources.length
  · rw [huu]
    exact UPAConsumer.open_consumer _ r.upaSources.length
  · rw [hl, Registry.create_listeners_of_ne huu] at hu
    have hold := ho u hu
    rw [← r.createSubscription_subscriptions keyId symbol huu] at hold
    have hdomain := (UPAConsumer.step_calls _ (.setDomain r.upaSources.length src.sourceDomain)).consumer u hold
    have hadd := (UPAConsumer.step_calls _ (.addListener r.upaSources.length b)).consumer u hdomain
    exact (UPAConsumer.step_calls _ (.open r.upaSources.length)).consumer u hadd

theorem addSnapshotToSource_notifies (ht : r.registry.Tidy) (snap : RMDSBridgeSnapshot) :
    r.Notifies (r.addSnapshotToSource snap) := by
  have hl : (r.addSnapshotToSource snap).registry.listeners = r.registry.listeners := by
    rcases addSnapshotToSource_registry ht snap with he | ⟨keyId, he⟩
    · rw [he]
    · rw [he]
      rfl
  unfold addSnapshotToSource at hl ⊢
  cases hs : r.sources.find snap.sourceName with
  | none => exact .same rfl
  | some x =>
    rw [hs] at hl
    refine .silent rfl fun ho u hu => ?_
    dsimp only at hl
    rw [hl] at hu
    have huu : u ≠ r.upaSources.length := by
      rintro rfl
      exact hu (ht.listeners_of_new r.owner_length)
    have hold := ho u hu
    rw [← r.createSubscription_subscriptions x.1 snap.symbol huu] at hold
    have hdomain := (UPAConsumer.step_calls _
      (.setDomain r.upaSources.length x.2.sourceDomain)).consumer u hold
    exact (UPAConsumer.step_calls _ (.snapshot r.upaSources.length)).consumer u hdomain

theorem addSubscriptionToSource_notifies (ht : r.registry.Tidy) (b : ℕ)
    (sub : RMDSBridgeSubscription) : r.Notifies (r.addSubscriptionToSource b sub) := by
  unfold addSubscriptionToSource
  cases hs : r.sources.find sub.sourceName with
  | none => exact .same rfl
  | some x =>
    have hsrc := RMDSSources.find_eq_some hs
    dsimp only
    cases hf : x.2.subscriptions.find sub.symbol with
    | none => exact createUpaSub_notifies ht hsrc b sub.symbol
    | some u =>
      have hentry := (RMDSSources.entry_of_find hsrc sub.symbol).trans hf
      exact joinUpaSub_notifies (ht.listeners_ne hentry) b

theorem removeSubscription_notices (r : RMDSSubscriber) (b : ℕ) (sub : RMDSBridgeSubscription) :
    (r.removeSubscription b sub).consumer.notices = r.consumer.notices := by
  unfold removeSubscription
  cases r.sources.find sub.sourceName with
  | none => rfl
  | some x =>
    dsimp only
    cases x.2.subscriptions.find sub.symbol with
    | none => rfl
    | some u => exact r.leaveUpaSub_notices x.1 x.2 u b sub.symbol

theorem removeSubscription_notifies (r : RMDSSubscriber) (b : ℕ) (sub : RMDSBridgeSubscription) :
    r.Notifies (r.removeSubscription b sub) := by
  unfold removeSubscription
  cases hs : r.sources.find sub.sourceName with
  | none => exact .same rfl
  | some x =>
    dsimp only
    cases x.2.subscriptions.find sub.symbol with
    | none => exact .same rfl
    | some u => exact leaveUpaSub_notifies (RMDSSources.find_eq_some hs) u b sub.symbol

theorem processPending_notifies (ht : r.registry.Tidy) : r.Notifies r.processPending := by
  obtain ⟨_, _, _, _, _, bridges, _, _, _, subscriptions, snapshots, _, processing⟩ := r
  cases processing with
  | idle => exact .same rfl
  | subscriptions =>
    cases subscriptions with
    | nil => exact .same rfl
    | cons b bs =>
      unfold processPending
      dsimp only
      cases bridges[b]? with
      | none => exact .same rfl
      | some sub =>
        refine .congr ?_ (addSubscriptionToSource_notifies ?_ b sub)
        · rfl
        · exact ht
  | snapshots =>
    cases snapshots with
    | nil => exact .same rfl
    | cons snap snaps =>
      unfold processPending
      refine .congr ?_ (addSnapshotToSource_notifies ?_ snap)
      · rfl
      · exact ht

theorem step_notifies (ht : r.registry.Tidy) (e : SubscriberEvent) : r.Notifies (r.step e) := by
  cases e with
  | addSubscription source symbol subscription =>
    refine .same ?_
    change (r.addSubscription source symbol subscription).consumer = _
    unfold addSubscription
    split_ifs <;> rfl
  | removeSubscription b =>
    unfold step
    dsimp only
    cases r.bridges[b]? with
    | none => exact .same rfl
    | some sub => exact r.removeSubscription_notifies b sub
  | sendSnapshotRequest sourceName symbol => exact .same rfl
  | processPendingSubscriptions =>
    refine .same ?_
    change r.processPendingSubscriptions.consumer = _
    unfold processPendingSubscriptions
    split_ifs <;> rfl
  | processPending => exact processPending_notifies ht
  | connectionNotification connected requestLogin => exact r.connectionNotification_notifies _ _
  | loginResponse loginSucceeded => exact .same rfl
  | sourceDirectoryUpdate serviceId serviceName serviceState acceptingRequests =>
    exact r.updateOrCreate_notifies _ _ _ _
  | sourceDirectoryRefreshComplete succeeded => exact .same rfl
  | dictionaryUpdate dictionaryComplete => exact r.dictionaryUpdate_notifies dictionaryComplete
  | dispatch outcome =>
    exact .of_calls (r.consumer.step_calls (.dispatch outcome))
      (r.consumer.step_listeners id)
  | respond domain streamId msg =>
    exact .of_calls (r.consumer.step_calls (.respond domain streamId msg))
      (r.consumer.step_listeners id)

end RMDSSubscriber

end RmdsBridge
