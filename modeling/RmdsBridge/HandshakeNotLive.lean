import RmdsBridge.HandshakeCompletes

namespace RmdsBridge

namespace Handshake

variable {Q S Raw Part : Type*} {b : BridgePair Q S Raw Part} {s : Handshake Raw}

structure NotLive (b : BridgePair Q S Raw Part) (s : Handshake Raw) : Prop where
  incomplete : s.upaDictionary.isComplete b.dictionaryApi = false
  notLive : s.subscriber.subscriberState ≠ .live

theorem NotLive.subscriber (h : s.NotLive b) {r : RMDSSubscriber} (hr : r.subscriberState ≠ .live) :
    { s with subscriber := r }.NotLive b :=
  ⟨h.incomplete, hr⟩

theorem NotLive.enqueue (h : s.NotLive b) (q : UpaRequest) (queued : Bool) :
    (s.enqueue q queued).NotLive b := by
  unfold Handshake.enqueue
  split_ifs
  · exact ⟨h.incomplete, h.notLive⟩
  · exact h

theorem NotLive.send (h : s.NotLive b) (msgs : List ConsumerMsg) : (s.send msgs).NotLive b := by
  unfold Handshake.send
  split_ifs
  · exact ⟨h.incomplete, h.notLive⟩
  · exact h

theorem connectionNotification_ne_live (r : RMDSSubscriber) (connected requestLogin : Bool) :
    (r.connectionNotification connected requestLogin).subscriberState ≠ .live :=
  (Session.onConnection_subscriber { subscriber := r } connected requestLogin).1

theorem loginResponse_ne_live (r : RMDSSubscriber) (loginSucceeded : Bool) :
    (r.loginResponse loginSucceeded).subscriberState ≠ .live := by
  unfold RMDSSubscriber.loginResponse
  dsimp only
  split_ifs <;> decide

theorem sourceDirectoryRefreshComplete_ne_live (r : RMDSSubscriber) (succeeded : Bool) :
    (r.sourceDirectoryRefreshComplete succeeded).subscriberState ≠ .live := by
  cases succeeded <;> simp [RMDSSubscriber.sourceDirectoryRefreshComplete]

theorem NotLive.recoverConnection (h : s.NotLive b) : s.recoverConnection.NotLive b :=
  ⟨h.incomplete, connectionNotification_ne_live s.subscriber false false⟩

theorem NotLive.connect (h : s.NotLive b) (queued : Bool) : (s.connect queued).NotLive b := by
  unfold Handshake.connect
  split_ifs
  · refine NotLive.enqueue ?_ .login queued
    exact ⟨h.incomplete, connectionNotification_ne_live s.subscriber true queued⟩
  · exact h

theorem NotLive.requestCb (h : s.NotLive b) (written : Bool) (sends : DictionaryKind → Bool)
    (q : UpaRequest) : (s.requestCb b written sends q).NotLive b := by
  cases q with
  | login =>
    simp only [Handshake.requestCb]
    split_ifs
    exacts [h.send _, h]
  | sourceDirectory =>
    simp only [Handshake.requestCb]
    split_ifs
    exacts [h.send _, h]
  | dictionary => exact h.send _
  | clientDictionary =>
    simp only [Handshake.requestCb, h.incomplete, Bool.false_eq_true, if_false]
    exact h

theorem processRequest_consumer (b : BridgePair Q S Raw Part) (s : Handshake Raw) (written : Bool)
    (r : RsslLoginRequestInfo) (m : ConsumerMsg) :
    (s.processRequest b written r m).subscriber = s.subscriber ∧
      (s.processRequest b written r m).upaDictionary = s.upaDictionary := by
  cases m with
  | login m =>
    simp only [Handshake.processRequest]
    cases b.api.processLoginRequest b.acceptsPosts r m <;> cases written <;> exact ⟨rfl, rfl⟩
  | sourceDirectory key =>
    simp only [Handshake.processRequest]
    cases b.api.processSourceDirectoryRequest b.source key <;> cases written <;> exact ⟨rfl, rfl⟩
  | dictionary _ => exact ⟨rfl, rfl⟩

theorem NotLive.loginResponse (h : s.NotLive b) (queued loginSucceeded : Bool) :
    (s.loginResponse queued loginSucceeded).NotLive b := by
  have hr := h.subscriber (loginResponse_ne_live s.subscriber loginSucceeded)
  simp only [Handshake.loginResponse]
  split_ifs
  · exact hr.enqueue _ queued
  · exact hr

theorem NotLive.receiveLogin (h : s.NotLive b) (queued : Bool) (m : LoginMsg) :
    (s.receiveLogin queued m).NotLive b := by
  have hl : { s with login := (s.login.processLoginResponse m).login }.NotLive b :=
    ⟨h.incomplete, h.notLive⟩
  have hn : ((s.login.processLoginResponse m).notified.elim
      { s with login := (s.login.processLoginResponse m).login }
      ({ s with login := (s.login.processLoginResponse m).login }.loginResponse queued)).NotLive b := by
    cases (s.login.processLoginResponse m).notified with
    | none => exact hl
    | some loginSucceeded => exact hl.loginResponse queued loginSucceeded
  unfold Handshake.receiveLogin LoginCase.processLogin Handshake.loginCase
  dsimp only
  split_ifs
  · exact hn
  · cases (s.login.processLoginResponse m).login.reaction with
    | recover => exact hn.recoverConnection
    | notEntitled | closed => exact ⟨hn.incomplete, hn.notLive⟩
    | suspect | nothing => exact hn

theorem NotLive.receiveSourceDirectory (h : s.NotLive b) (queued : Bool) (map : List ServiceEntry) :
    (s.receiveSourceDirectory b queued map).NotLive b := by
  simp only [Handshake.receiveSourceDirectory, requestDictionary, h.incomplete, Bool.false_eq_true, if_false]
  have hr := fun r ok => h.subscriber (sourceDirectoryRefreshComplete_ne_live r ok)
  split_ifs
  · exact (hr _ _).enqueue _ queued
  · exact ⟨h.incomplete, (hr _ _).notLive⟩

theorem NotLive.step (h : s.NotLive b) (e : HandshakeEvent) : (s.step b e).NotLive b := by
  cases e with
  | connect queued => exact h.connect queued
  | recoverConnection => exact h.recoverConnection
  | dispatch written sends =>
    simp only [Handshake.step, dispatch]
    split_ifs
    · cases s.upaRequestQueue with
      | nil => exact h
      | cons q rest =>
        exact NotLive.requestCb (s := { s with upaRequestQueue := rest }) ⟨h.incomplete, h.notLive⟩ written sends q
    · exact h
  | provide written r =>
    simp only [Handshake.step, provide]
    cases s.toProvider with
    | nil => exact h
    | cons m rest =>
      obtain ⟨hs, hd⟩ := processRequest_consumer b { s with toProvider := rest } written r m
      exact ⟨by rw [hd]; exact h.incomplete, by rw [hs]; exact h.notLive⟩
  | deliver queued =>
    simp only [Handshake.step, deliver]
    split_ifs
    · cases s.toConsumer with
      | nil => exact h
      | cons m rest =>
        have hp : { s with toConsumer := rest }.NotLive b := ⟨h.incomplete, h.notLive⟩
        cases m with
        | login a => exact hp.receiveLogin queued _
        | loginStatus state => exact hp.receiveLogin queued _
        | sourceDirectory map => exact hp.receiveSourceDirectory queued map
        | sourceDirectoryStatus => exact hp
    · exact h
  | setDictionaryReply queued => exact h.enqueue _ queued
  | traffic e =>
    obtain ⟨hst, -⟩ := s.subscriber.step_sameSession e.2
    exact h.subscriber (hst ▸ h.notLive)

/-- Dictionary requests are not answered, so that a subscriber without a complete dictionary of its own
never becomes live. -/
theorem not_live_without_dictionary (b : BridgePair Q S Raw Part)
    (hd : s.upaDictionary.isComplete b.dictionaryApi = false) (hl : s.subscriber.subscriberState ≠ .live)
    (es : List HandshakeEvent) :
    Runs.Always (step b) (fun s => s.subscriber.subscriberState ≠ .live) s es := by
  have hg : Runs.Guarded (step b) (fun _ _ => True) s es := Runs.Guarded.of_forall fun _ _ _ => trivial
  exact (hg.always (I := NotLive b) (fun _ e h _ => h.step e) ⟨hd, hl⟩).mono fun _ h => h.notLive

theorem not_live_without_dictionary_reconnecting :
    Runs.Always (step examplePair) (fun s => s.subscriber.subscriberState ≠ .live)
      { upaDictionary := { rsslDictionary := [] } }
      (.connect true :: reconnectingRun ++ .recoverConnection :: .connect true :: reconnectingRun) :=
  not_live_without_dictionary examplePair rfl (by decide) _

end Handshake

end RmdsBridge
