import RmdsBridge.Handshake

namespace RmdsBridge

theorem SubscriberEvent.isDirectoryUpdate_of_isTraffic {e : SubscriberEvent} (he : e.isTraffic) :
    e.isDirectoryUpdate = false := by
  cases e with
  | sourceDirectoryUpdate _ _ _ _ => cases he
  | _ => rfl

namespace RMDSSubscriber

def SameSession (r r' : RMDSSubscriber) : Prop :=
  r'.subscriberState = r.subscriberState ∧ r'.connected = r.connected

variable {r r' : RMDSSubscriber}

theorem addSubscriptionToSource_sameSession (r : RMDSSubscriber) (b : ℕ) (sub : RMDSBridgeSubscription) :
    r.SameSession (r.addSubscriptionToSource b sub) := by
  simp only [addSubscriptionToSource]
  cases r.sources.find sub.sourceName with
  | none => exact ⟨rfl, rfl⟩
  | some x =>
    dsimp only
    cases x.2.subscriptions.find sub.symbol with
    | none => exact ⟨rfl, rfl⟩
    | some upaSub =>
      simp only [joinUpaSub]
      split_ifs <;> exact ⟨rfl, rfl⟩

theorem removeSubscription_sameSession (r : RMDSSubscriber) (b : ℕ) (sub : RMDSBridgeSubscription) :
    r.SameSession (r.removeSubscription b sub) := by
  simp only [removeSubscription]
  cases r.sources.find sub.sourceName with
  | none => exact ⟨rfl, rfl⟩
  | some x =>
    dsimp only
    cases x.2.subscriptions.find sub.symbol with
    | none => exact ⟨rfl, rfl⟩
    | some upaSub =>
      simp only [leaveUpaSub]
      split_ifs <;> exact ⟨rfl, rfl⟩

theorem addSnapshotToSource_sameSession (r : RMDSSubscriber) (snap : RMDSBridgeSnapshot) :
    r.SameSession (r.addSnapshotToSource snap) := by
  simp only [addSnapshotToSource]
  cases r.sources.find snap.sourceName <;> exact ⟨rfl, rfl⟩

theorem step_sameSession (r : RMDSSubscriber) {e : SubscriberEvent} (he : e.isTraffic) :
    r.SameSession (r.step e) := by
  cases e with
  | addSubscription source symbol subscription =>
    simp only [step, addSubscription]
    split_ifs <;> exact ⟨rfl, rfl⟩
  | removeSubscription b =>
    simp only [step]
    cases r.bridges[b]? with
    | none => exact ⟨rfl, rfl⟩
    | some sub => exact r.removeSubscription_sameSession b sub
  | processPendingSubscriptions =>
    simp only [step, processPendingSubscriptions]
    split_ifs <;> exact ⟨rfl, rfl⟩
  | processPending =>
    simp only [step, processPending]
    cases r.processing with
    | idle => exact ⟨rfl, rfl⟩
    | subscriptions =>
      cases r.pendingSubscriptions with
      | nil => exact ⟨rfl, rfl⟩
      | cons b bs =>
        dsimp only
        cases r.bridges[b]? with
        | none => exact ⟨rfl, rfl⟩
        | some sub =>
          have h := addSubscriptionToSource_sameSession
            { r with processing := .subscriptions, pendingSubscriptions := bs } b sub
          exact ⟨h.1, h.2⟩
    | snapshots =>
      cases r.pendingSnapshots with
      | nil => exact ⟨rfl, rfl⟩
      | cons snap snaps =>
        have h := addSnapshotToSource_sameSession
          { r with processing := .snapshots, pendingSnapshots := snaps } snap
        exact ⟨h.1, h.2⟩
  | sendSnapshotRequest _ _ => exact ⟨rfl, rfl⟩
  | dispatch _ => exact ⟨rfl, rfl⟩
  | respond _ _ _ => exact ⟨rfl, rfl⟩
  | connectionNotification _ _ => cases he
  | loginResponse _ => cases he
  | sourceDirectoryUpdate _ _ _ _ => cases he
  | sourceDirectoryRefreshComplete _ => cases he
  | dictionaryUpdate _ => cases he

theorem resubscribeAll_sameSession (r : RMDSSubscriber) : r.SameSession r.resubscribeAll := by
  obtain ⟨c, hc⟩ := r.callSources_eq .reSubscribe
  rw [resubscribeAll, hc]
  exact ⟨rfl, rfl⟩

theorem dictionaryUpdate_live (r : RMDSSubscriber) :
    (r.dictionaryUpdate true).subscriberState = .live ∧ (r.dictionaryUpdate true).connected = r.connected := by
  simp only [dictionaryUpdate, if_true]
  split_ifs
  · exact resubscribeAll_sameSession { r.setLive with recovering := false }
  · exact ⟨rfl, rfl⟩

theorem sourceDirectoryInfo_connected (r : RMDSSubscriber) (info : RsslSourceDirectoryResponseInfo) :
    (r.sourceDirectoryInfo info).connected = r.connected := by
  simp only [sourceDirectoryInfo, sourceDirectoryUpdate]
  cases h : r.sources.servicesMap.find info.serviceId with
  | some src => rw [updateOrCreate_of_find h]
  | none => rw [updateOrCreate_of_none h]

end RMDSSubscriber

end RmdsBridge
