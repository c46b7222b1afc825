import RmdsBridge.PendingItems
import RmdsBridge.SubscriberSteps

namespace RmdsBridge

namespace UPAConsumer

variable {P L : Type} [DecidableEq P] [DecidableEq L]

def Dispatches : Event P L → Prop
  | .dispatch _ => True
  | _ => False

theorem step_pendingItems_subset (c : UPAConsumer P L) {e : Event P L} (he : ¬ Dispatches e) :
    (c.step e).streamManager.pendingItems ⊆ c.streamManager.pendingItems := by
  have hst := c.stepped e
  generalize c.requestSent e = sent, c.closeProcessed e = closed at hst
  cases hst with
  | idle _ hm => rw [hm]
  | quiet s sub closes h => rw [h.2]
  | setLive s h => rw [h.2, (Handling.setLive_stateOnly _).pendingItems_eq.1, handling_manager]
  | close s => exact absurd trivial he
  | sent s => exact absurd trivial he
  | unsent s => exact absurd trivial he
  | respond s ht h =>
    rw [h.2, Handling.processResponse_pendingItems, handling_manager]
    split_ifs
    · exact Finset.erase_subset _ _
    · exact subset_rfl

theorem dispatch_pendingItems_subset (c : UPAConsumer P L) (o : SendOutcome) :
    (c.step (.dispatch o)).streamManager.pendingItems ⊆ c.streamManager.pendingItems ∨
      ∃ s, (c.step (.dispatch o)).streamManager.pendingItems =
        insert s c.streamManager.pendingItems := by
  have hst := c.stepped (.dispatch o)
  generalize c.requestSent (.dispatch o) = sent, c.closeProcessed (.dispatch o) = closed at hst
  cases hst with
  | idle _ hm => exact .inl (by rw [hm])
  | quiet s sub closes h => exact .inl (by rw [h.2])
  | close s h =>
    left
    rw [h.2, Handling.sendCloseRequest_pendingItems, handling_manager]
    split_ifs
    · exact Finset.erase_subset _ _
    · exact subset_rfl
  | sent s hid h =>
    refine .inr ⟨s, ?_⟩
    rw [h.2]
    change insert s ((c.handling s).takeStreamId s).manager.pendingItems = _
    rw [Handling.takeStreamId_pendingItems, handling_manager]
  | unsent s pending hp h =>
    left
    rw [Handling.takeStreamId_pendingItems] at hp
    rw [h.2]
    exact hp

theorem dispatch_countPendingItems (c : UPAConsumer P L) (o : SendOutcome) :
    (c.step (.dispatch o)).streamManager.countPendingItems ≤ c.streamManager.countPendingItems + 1 := by
  unfold UPAStreamManager.countPendingItems
  rcases c.dispatch_pendingItems_subset o with hsub | ⟨s, hs⟩
  · have hcard := Finset.card_le_card hsub
    omega
  · rw [hs]
    exact Finset.card_insert_le _ _

end UPAConsumer

namespace RMDSSubscriber

structure ConsumerKeeps (I : UPAConsumer ℕ ℕ → Prop) : Prop where
  step : ∀ (c : UPAConsumer ℕ ℕ) (e : Event ℕ ℕ), ¬ UPAConsumer.Dispatches e → I c → I (c.step e)
  setSubscription : ∀ (c : UPAConsumer ℕ ℕ) (u : ℕ) (sub : UPASubscription ℕ), I c →
    I (c.setSubscription u sub)

namespace ConsumerKeeps

variable {I : UPAConsumer ℕ ℕ → Prop} {r : RMDSSubscriber}

theorem call (hI : ConsumerKeeps I) {e : Event ℕ ℕ} (he : ¬ UPAConsumer.Dispatches e)
    (h : I r.consumer) : I (r.call e).consumer := hI.step r.consumer e he h

theorem callAll (hI : ConsumerKeeps I) {e : ℕ → Event ℕ ℕ} (he : ∀ u, ¬ UPAConsumer.Dispatches (e u))
    (src : RMDSSource) (h : I r.consumer) : I (r.callAll src e).consumer := by
  unfold RMDSSubscriber.callAll
  induction src.subscriptions.entries generalizing r with
  | nil => exact h
  | cons x xs ih => exact ih (hI.call (he x.2) h)

theorem callSources (hI : ConsumerKeeps I) {e : ℕ → Event ℕ ℕ}
    (he : ∀ u, ¬ UPAConsumer.Dispatches (e u)) (h : I r.consumer) :
    I (r.callSources e).consumer := by
  unfold RMDSSubscriber.callSources
  induction r.sources.servicesMap.entries generalizing r with
  | nil => exact h
  | cons x xs ih => exact ih (hI.callAll he x.2 h)

theorem updateOrCreate (hI : ConsumerKeeps I) (keyId : ℕ) (keyName : String)
    (state acceptConnections : Bool) (h : I r.consumer) :
    I (r.updateOrCreate keyId keyName state acceptConnections).consumer := by
  have hset (r : RMDSSubscriber) (h : I r.consumer) :
      I (r.setSourceState keyId state acceptConnections).consumer := by
    unfold setSourceState
    cases r.sources.servicesMap.find keyId with
    | none => exact h
    | some src =>
      dsimp only
      split_ifs
      · exact hI.callAll (fun _ => id) src h
      · exact hI.callAll (fun _ => id) src h
      · exact h
  apply hset
  split_ifs <;> exact h

theorem connectionNotification (hI : ConsumerKeeps I) (connected requestLogin : Bool)
    (h : I r.consumer) : I (r.connectionNotification connected requestLogin).consumer := by
  unfold RMDSSubscriber.connectionNotification
  dsimp only
  split_ifs
  · exact h
  · exact h
  · exact hI.callSources (fun _ => id) h
  · exact h

theorem dictionaryUpdate (hI : ConsumerKeeps I) (dictionaryComplete : Bool) (h : I r.consumer) :
    I (r.dictionaryUpdate dictionaryComplete).consumer := by
  unfold RMDSSubscriber.dictionaryUpdate
  dsimp only
  split_ifs
  · exact hI.callSources (fun _ => id) h
  · exact h
  · exact h

theorem createUpaSub (hI : ConsumerKeeps I) (keyId : ℕ) (src : RMDSSource) (b : ℕ) (symbol : String)
    (h : I r.consumer) : I (r.createUpaSub keyId src b symbol).consumer := by
  unfold RMDSSubscriber.createUpaSub
  apply hI.call id
  apply hI.call id
  apply hI.call id
  exact hI.setSubscription _ _ _ h

theorem joinUpaSub (hI : ConsumerKeeps I) (u b : ℕ) (h : I r.consumer) :
    I (r.joinUpaSub u b).consumer := by
  unfold RMDSSubscriber.joinUpaSub
  dsimp only
  split_ifs
  · apply hI.call id
    exact hI.call id h
  · exact hI.call id h

theorem addSubscriptionToSource (hI : ConsumerKeeps I) (b : ℕ) (sub : RMDSBridgeSubscription)
    (h : I r.consumer) : I (r.addSubscriptionToSource b sub).consumer := by
  unfold RMDSSubscriber.addSubscriptionToSource
  cases r.sources.find sub.sourceName with
  | none => exact h
  | some x =>
    dsimp only
    cases x.2.subscriptions.find sub.symbol with
    | none => exact hI.createUpaSub x.1 x.2 b sub.symbol h
    | some u => exact hI.joinUpaSub u b h

theorem addSnapshotToSource (hI : ConsumerKeeps I) (snap : RMDSBridgeSnapshot) (h : I r.consumer) :
    I (r.addSnapshotToSource snap).consumer := by
  unfold RMDSSubscriber.addSnapshotToSource
  cases r.sources.find snap.sourceName with
  | none => exact h
  | some x =>
    apply hI.call id
    apply hI.call id
    exact hI.setSubscription _ _ _ h

theorem processPending (hI : ConsumerKeeps I) (h : I r.consumer) : I r.processPending.consumer := by
  obtain ⟨_, _, _, _, _, bridges, _, _, _, subscriptions, snapshots, _, processing⟩ := r
  cases processing with
  | idle => exact h
  | subscriptions =>
    cases subscriptions with
    | nil => exact h
    | cons b bs =>
      unfold RMDSSubscriber.processPending
      dsimp only
      cases bridges[b]? with
      | none => exact h
      | some sub => exact hI.addSubscriptionToSource b sub h
  | snapshots =>
    cases snapshots with
    | nil => exact h
    | cons snap snaps => exact hI.addSnapshotToSource snap h

theorem removeSubscription (hI : ConsumerKeeps I) (b : ℕ) (sub : RMDSBridgeSubscription)
    (h : I r.consumer) : I (r.removeSubscription b sub).consumer := by
  unfold RMDSSubscriber.removeSubscription
  cases r.sources.find sub.sourceName with
  | none => exact h
  | some x =>
    dsimp only
    cases x.2.subscriptions.find sub.symbol with
    | none => exact h
    | some u =>
      dsimp only [leaveUpaSub]
      split_ifs
      · have hleave := hI.call (e := .removeListener u b) id h
        exact hI.call (e := .close u) id hleave
      · exact hI.call id h

theorem subscriberStep (hI : ConsumerKeeps I) {e : SubscriberEvent} (he : ∀ o, e ≠ .dispatch o)
    (h : I r.consumer) : I (r.step e).consumer := by
  cases e with
  | addSubscription source symbol subscription =>
    change I (r.addSubscription source symbol subscription).consumer
    unfold addSubscription
    split_ifs <;> exact h
  | removeSubscription b =>
    unfold RMDSSubscriber.step
    dsimp only
    cases r.bridges[b]? with
    | none => exact h
    | some sub => exact hI.removeSubscription b sub h
  | sendSnapshotRequest sourceName symbol => exact h
  | processPendingSubscriptions =>
    change I r.processPendingSubscriptions.consumer
    unfold processPendingSubscriptions
    split_ifs <;> exact h
  | processPending => exact hI.processPending h
  | connectionNotification connected requestLogin => exact hI.connectionNotification _ _ h
  | loginResponse loginSucceeded => exact h
  | sourceDirectoryUpdate serviceId serviceName serviceState acceptingRequests =>
    exact hI.updateOrCreate _ _ _ _ h
  | sourceDirectoryRefreshComplete succeeded => exact h
  | dictionaryUpdate dictionaryComplete => exact hI.dictionaryUpdate dictionaryComplete h
  | dispatch outcome => exact absurd rfl (he outcome)
  | respond domain streamId msg => exact hI.call id h

end ConsumerKeeps

theorem keeps_pendingItems (items : Finset ℕ) :
    ConsumerKeeps fun c => c.streamManager.pendingItems ⊆ items where
  step c _ he h := (c.step_pendingItems_subset he).trans h
  setSubscription _ _ _ h := h

theorem step_countPendingItems (r : RMDSSubscriber) {e : SubscriberEvent} (he : ∀ o, e ≠ .dispatch o) :
    (r.step e).consumer.streamManager.countPendingItems ≤
      r.consumer.streamManager.countPendingItems :=
  Finset.card_le_card ((keeps_pendingItems _).subscriberStep he subset_rfl)

end RMDSSubscriber

end RmdsBridge
