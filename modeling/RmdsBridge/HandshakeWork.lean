import RmdsBridge.Handshake

namespace RmdsBridge

def UpaRequest.weight : UpaRequest → ℕ
  | .login => 9
  | .sourceDirectory => 6
  | .dictionary => 3
  | .clientDictionary => 1

def ConsumerMsg.weight : ConsumerMsg → ℕ
  | .login _ => 8
  | .sourceDirectory _ => 5
  | .dictionary _ => 1

def ProviderMsg.weight : ProviderMsg → ℕ
  | .login _ | .loginStatus _ => 7
  | .sourceDirectory _ => 4
  | .sourceDirectoryStatus => 1

namespace Handshake

variable {Q S Raw Part : Type*} {b : BridgePair Q S Raw Part} {s : Handshake Raw}

def weight (s : Handshake Raw) : ℕ :=
  (s.upaRequestQueue.map UpaRequest.weight).sum + (s.toProvider.map ConsumerMsg.weight).sum +
    (s.toConsumer.map ProviderMsg.weight).sum

def work (s : Handshake Raw) : HandshakeEvent → ℕ
  | .dispatch _ _ => if s.runThread ∧ s.upaRequestQueue ≠ [] then 1 else 0
  | .provide _ _ => if s.toProvider ≠ [] then 1 else 0
  | .deliver _ => if s.runThread ∧ s.toConsumer ≠ [] then 1 else 0
  | .connect _ | .recoverConnection | .setDictionaryReply _ | .traffic _ => 0

def gain : HandshakeEvent → ℕ
  | .connect _ => UpaRequest.login.weight
  | .setDictionaryReply _ => UpaRequest.clientDictionary.weight
  | .recoverConnection | .dispatch _ _ | .provide _ _ | .deliver _ | .traffic _ => 0

theorem weight_enqueue (s : Handshake Raw) (request : UpaRequest) (queued : Bool) :
    (s.enqueue request queued).weight ≤ s.weight + request.weight := by
  unfold enqueue
  split_ifs
  · simp only [weight, List.map_append, List.sum_append, List.map_singleton, List.sum_singleton]
    omega
  · exact Nat.le_add_right _ _

theorem weight_send (s : Handshake Raw) (msgs : List ConsumerMsg) :
    (s.send msgs).weight ≤ s.weight + (msgs.map ConsumerMsg.weight).sum := by
  unfold send
  split_ifs
  · simp only [weight, List.map_append, List.sum_append]
    omega
  · exact Nat.le_add_right _ _

theorem weight_answer (s : Handshake Raw) (msg : ProviderMsg) :
    (s.answer msg).weight = s.weight + msg.weight := by
  simp only [answer, weight, List.map_append, List.sum_append, List.map_singleton, List.sum_singleton]
  omega

theorem weight_removeChannelConnection (s : Handshake Raw) :
    s.removeChannelConnection.weight ≤ s.weight := by
  simp only [removeChannelConnection, weight, List.map_nil, List.sum_nil]
  omega

theorem weight_recoverConnection (s : Handshake Raw) : s.recoverConnection.weight ≤ s.weight := by
  simp only [recoverConnection, weight, List.map_nil, List.sum_nil]
  omega

theorem weight_connect (s : Handshake Raw) (queued : Bool) :
    (s.connect queued).weight ≤ s.weight + UpaRequest.login.weight := by
  unfold connect
  split_ifs
  · refine (weight_enqueue _ _ queued).trans (Nat.add_le_add_right ?_ _)
    simp only [weight, List.map_nil, List.sum_nil]
    omega
  · exact Nat.le_add_right _ _

theorem weight_subscriber (s : Handshake Raw) (r : RMDSSubscriber) : { s with subscriber := r }.weight = s.weight :=
  rfl

theorem weight_sendRequest (d : UPADictionary Raw) (sends : DictionaryKind → Bool) :
    (((d.sendRequest sends).map ConsumerMsg.dictionary).map ConsumerMsg.weight).sum ≤ 2 := by
  unfold UPADictionary.sendRequest
  cases d.loaded .fields <;> cases d.loaded .enumTypes <;> cases hf : sends .fields <;>
    cases he : sends .enumTypes <;> simp [ConsumerMsg.weight, hf, he]

theorem weight_requestCb (b : BridgePair Q S Raw Part) (s : Handshake Raw) (written : Bool)
    (sends : DictionaryKind → Bool) (request : UpaRequest) :
    (s.requestCb b written sends request).weight + 1 ≤ s.weight + request.weight := by
  cases request with
  | login =>
    have h := s.weight_send [.login (b.api.encodeLoginRequest b.login.disableDataConversion b.login.loginReqInfo)]
    simp only [List.map_singleton, List.sum_singleton, ConsumerMsg.weight] at h
    simp only [requestCb, UpaRequest.weight]
    split_ifs <;> omega
  | sourceDirectory =>
    have h := s.weight_send [.sourceDirectory RsslDirectoryApi.encodeSourceDirectoryRequest]
    simp only [List.map_singleton, List.sum_singleton, ConsumerMsg.weight] at h
    simp only [requestCb, UpaRequest.weight]
    split_ifs <;> omega
  | dictionary =>
    have h := s.weight_send ((s.upaDictionary.sendRequest sends).map .dictionary)
    have h2 := weight_sendRequest s.upaDictionary sends
    simp only [requestCb, UpaRequest.weight]
    omega
  | clientDictionary =>
    simp only [requestCb, UpaRequest.weight]
    split_ifs
    · rw [weight_subscriber]
    · exact Nat.le_refl _

theorem weight_processRequest (b : BridgePair Q S Raw Part) (s : Handshake Raw) (written : Bool)
    (r : RsslLoginRequestInfo) (msg : ConsumerMsg) :
    (s.processRequest b written r msg).weight + 1 ≤ s.weight + msg.weight := by
  have hc := s.weight_removeChannelConnection
  -- Whether the answer is written, it weighs less than what it answers.
  have ha : ∀ m : ProviderMsg, m.weight + 1 ≤ msg.weight → ∀ t : Handshake Raw, t.weight ≤ s.weight →
      (if written then s.answer m else t).weight + 1 ≤ s.weight + msg.weight := by
    intro m hm t ht
    have h := s.weight_answer m
    split_ifs <;> omega
  cases msg with
  | login m =>
    simp only [processRequest]
    cases b.api.processLoginRequest b.acceptsPosts r m with
    | rejected _ state => exact ha _ (by simp [ProviderMsg.weight, ConsumerMsg.weight]) s (Nat.le_refl _)
    | failed => exact Nat.add_le_add hc (by simp [ConsumerMsg.weight])
    | accepted a => exact ha _ (by simp [ProviderMsg.weight, ConsumerMsg.weight]) _ hc
  | sourceDirectory key =>
    simp only [processRequest]
    cases b.api.processSourceDirectoryRequest b.source key with
    | rejected => exact ha _ (by simp [ProviderMsg.weight, ConsumerMsg.weight]) _ hc
    | nothing => exact Nat.add_le_add_left (by simp [ConsumerMsg.weight]) _
    | refresh map => exact ha _ (by simp [ProviderMsg.weight, ConsumerMsg.weight]) s (Nat.le_refl _)
  | dictionary _ => exact Nat.le_refl _

theorem weight_loginResponse (s : Handshake Raw) (queued loginSucceeded : Bool) :
    (s.loginResponse queued loginSucceeded).weight ≤ s.weight + UpaRequest.sourceDirectory.weight := by
  unfold loginResponse
  dsimp only
  split_ifs
  · exact weight_enqueue _ _ queued
  · exact Nat.le_add_right _ _

theorem weight_receiveLogin (s : Handshake Raw) (queued : Bool) (m : LoginMsg) :
    (s.receiveLogin queued m).weight ≤ s.weight + UpaRequest.sourceDirectory.weight := by
  have h : ((s.login.processLoginResponse m).notified.elim
      { s with login := (s.login.processLoginResponse m).login }
      ({ s with login := (s.login.processLoginResponse m).login }.loginResponse queued)).weight ≤
        s.weight + UpaRequest.sourceDirectory.weight := by
    cases (s.login.processLoginResponse m).notified with
    | none => exact Nat.le_add_right _ _
    | some loginSucceeded => exact weight_loginResponse _ queued loginSucceeded
  unfold receiveLogin LoginCase.processLogin loginCase
  dsimp only
  split_ifs
  · exact h
  · cases (s.login.processLoginResponse m).login.reaction with
    | recover => exact (weight_recoverConnection _).trans h
    | _ => exact h

theorem weight_requestDictionary (b : BridgePair Q S Raw Part) (s : Handshake Raw) (queued : Bool) :
    (s.requestDictionary b queued).weight ≤ s.weight + UpaRequest.dictionary.weight := by
  unfold requestDictionary
  split_ifs
  · rw [weight_subscriber]
    exact Nat.le_add_right _ _
  · exact weight_enqueue _ _ queued

theorem weight_processResponse (b : BridgePair Q S Raw Part) (s : Handshake Raw) (queued : Bool)
    (msg : ProviderMsg) : (s.processResponse b queued msg).weight + 1 ≤ s.weight + msg.weight := by
  cases msg with
  | login a => exact Nat.succ_le_succ (s.weight_receiveLogin queued (b.api.loginMsg a))
  | loginStatus state => exact Nat.succ_le_succ (s.weight_receiveLogin queued (.status (some state)))
  | sourceDirectory map =>
    simp only [processResponse, receiveSourceDirectory]
    split_ifs
    · exact Nat.succ_le_succ (weight_requestDictionary b _ queued)
    · exact Nat.succ_le_succ (Nat.le_add_right _ _)
  | sourceDirectoryStatus => exact Nat.le_refl _

theorem weight_step (b : BridgePair Q S Raw Part) (s : Handshake Raw) (e : HandshakeEvent) :
    s.work e + (s.step b e).weight ≤ s.weight + gain e := by
  cases e with
  | connect queued => exact (Nat.zero_add _).le.trans (s.weight_connect queued)
  | recoverConnection => exact (Nat.zero_add _).le.trans s.weight_recoverConnection
  | dispatch written sends =>
    simp only [work, step, dispatch, gain]
    cases hr : s.runThread with
    | false => simp
    | true =>
      cases hq : s.upaRequestQueue with
      | nil => simp
      | cons request rest =>
        have h := weight_requestCb b { s with upaRequestQueue := rest } written sends request
        have hs : s.weight = { s with upaRequestQueue := rest }.weight + request.weight := by
          simp only [weight, hq, List.map_cons, List.sum_cons]
          omega
        rw [hs]
        simpa [Nat.add_comm, hr] using h
  | provide written r =>
    simp only [work, step, provide, gain]
    cases hq : s.toProvider with
    | nil => simp
    | cons msg rest =>
      have h := weight_processRequest b { s with toProvider := rest } written r msg
      have hs : s.weight = { s with toProvider := rest }.weight + msg.weight := by
        simp only [weight, hq, List.map_cons, List.sum_cons]
        omega
      rw [hs]
      simpa [Nat.add_comm] using h
  | deliver queued =>
    simp only [work, step, deliver, gain]
    cases hr : s.runThread with
    | false => simp
    | true =>
      cases hq : s.toConsumer with
      | nil => simp
      | cons msg rest =>
        have h := weight_processResponse b { s with toConsumer := rest } queued msg
        have hs : s.weight = { s with toConsumer := rest }.weight + msg.weight := by
          simp only [weight, hq, List.map_cons, List.sum_cons]
          omega
        rw [hs]
        simpa [Nat.add_comm, hr] using h
  | setDictionaryReply queued => exact (Nat.zero_add _).le.trans (s.weight_enqueue _ queued)
  | traffic e => exact (Nat.zero_add _).le

end Handshake

end RmdsBridge
