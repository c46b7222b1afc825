import RmdsBridge.DirectoryRoundTrip
import RmdsBridge.HandshakeTraffic

namespace RmdsBridge

def UpaRequest.leads : UpaRequest → Bool
  | .login | .sourceDirectory => true
  | .dictionary | .clientDictionary => false

def ConsumerMsg.leads : ConsumerMsg → Bool
  | .login _ | .sourceDirectory _ => true
  | .dictionary _ => false

def ProviderMsg.leads : ProviderMsg → Bool
  | .login _ | .sourceDirectory _ => true
  | .loginStatus _ | .sourceDirectoryStatus => false

namespace BridgePair

variable {Q S Raw Part : Type*} (b : BridgePair Q S Raw Part)

def loginRequest : LoginRequestMsg :=
  b.api.encodeLoginRequest b.login.disableDataConversion b.login.loginReqInfo

def info : ServiceInfo Q S := b.source.toInfo b.api ⟨true, true, true, true, true, true⟩

def Sent : ConsumerMsg → Prop
  | .login m => m = b.loginRequest
  | .sourceDirectory key => key = RsslDirectoryApi.encodeSourceDirectoryRequest
  | .dictionary _ => True

def Answered : ProviderMsg → Prop
  | .login a => b.api.loginMsg a = .refresh true ⟨.open, .ok, false⟩ true
  | .sourceDirectory map => b.api.decodeSourceDirectoryResponse map = ([b.info], true)
  | .loginStatus _ | .sourceDirectoryStatus => False

structure Sound : Prop where
  faithful : b.api.Faithful
  capabilities : ∀ j, b.source.capabilities j < 256

variable {b}

theorem Sound.login (h : b.Sound) (r : RsslLoginRequestInfo) :
    ∃ a, b.api.processLoginRequest b.acceptsPosts r b.loginRequest = .accepted a ∧
      b.Answered (.login a) := by
  have hcarries := RsslUIntApi.carries_encodeLoginRequest b.api.toRsslUIntApi b.login.loginReqInfo
    b.login.disableDataConversion
  have hdec : b.api.decodeLoginRequest r b.loginRequest = (b.login.loginReqInfo, true) :=
    h.faithful.uint.decodeLoginRequest hcarries r
  have hnot : ¬ (b.loginRequest.name = none ∨ b.loginRequest.nameType = some .other) := by
    simp [loginRequest, RsslUIntApi.encodeLoginRequest]
  have haccepted : RsslUIntApi.CarriesResponse b.api.toRsslUIntApi (b.login.acceptedInfo b.acceptsPosts) _ :=
    RsslUIntApi.carries_encodeLoginResponse b.api.toRsslUIntApi rfl
  have hresp := h.faithful.uint.decodeLoginResponse haccepted
  refine ⟨b.api.encodeLoginResponse (b.login.acceptedInfo b.acceptsPosts), ?_, ?_⟩
  · rw [RsslUIntApi.processLoginRequest, if_neg hnot, hdec]
    simp only [LoginSettings.loginReqInfo, CharArray.copy_bytes]
    rfl
  · rw [Answered, RsslUIntApi.loginMsg, hresp]
    rfl

theorem Sound.sourceDirectory (h : b.Sound) :
    ∃ map, b.api.processSourceDirectoryRequest b.source RsslDirectoryApi.encodeSourceDirectoryRequest =
        .refresh map ∧ b.Answered (.sourceDirectory map) := by
  obtain ⟨items, hi⟩ := capabilityItems_isSome h.capabilities
  obtain ⟨e, he, hd⟩ := h.faithful.decodeService ⟨true, true, true, true, true, true⟩ hi
  refine ⟨[e], ?_, ?_⟩
  · simp [RsslDirectoryApi.processSourceDirectoryRequest, RsslDirectoryApi.encodeSourceDirectoryRequest,
      RsslDirectoryApi.encodeSourceDirectoryResponse, DirectoryKey.selects, he]
  · simp [Answered, RsslDirectoryApi.decodeSourceDirectoryResponse, hd, info]

end BridgePair

namespace Handshake

variable {Q S Raw Part : Type*} {b : BridgePair Q S Raw Part} {s : Handshake Raw}

def pending (s : Handshake Raw) : Prop :=
  (∃ q ∈ s.upaRequestQueue, q.leads) ∨ (∃ m ∈ s.toProvider, m.leads) ∨ ∃ m ∈ s.toConsumer, m.leads

def IsLive (b : BridgePair Q S Raw Part) (s : Handshake Raw) : Prop :=
  s.subscriber.subscriberState = .live ∧
    s.subscriber.sources.state b.source.serviceId =
      some (decide (b.source.serviceState ≠ 0), decide (b.source.acceptingRequests ≠ 0))

structure Connected (b : BridgePair Q S Raw Part) (s : Handshake Raw) : Prop where
  runThread : s.runThread = true
  upaChannel : s.upaChannel = true
  served : s.served = true
  connected : s.subscriber.connected = true
  complete : s.upaDictionary.isComplete b.dictionaryApi = true
  sent : ∀ m ∈ s.toProvider, b.Sent m
  answered : ∀ m ∈ s.toConsumer, b.Answered m

def OnTheWay (b : BridgePair Q S Raw Part) (led : Bool) (s : Handshake Raw) : Prop :=
  s.Connected b ∧ (led = true ∨ s.pending ∨ s.IsLive b)

@[simp] theorem send_nil (s : Handshake Raw) : s.send [] = s := by
  unfold send
  rw [List.append_nil]
  exact ite_self s

theorem Connected.send (h : s.Connected b) {m : ConsumerMsg} (hm : b.Sent m) (hl : m.leads = true) :
    (s.send [m]).OnTheWay b false := by
  have hs : s.send [m] = { s with toProvider := s.toProvider ++ [m] } := by
    simp [Handshake.send, h.upaChannel, h.served]
  rw [hs]
  refine ⟨⟨h.runThread, h.upaChannel, h.served, h.connected, h.complete, ?_, h.answered⟩, .inr (.inl ?_)⟩
  · intro m' hm'
    rcases List.mem_append.mp hm' with hm' | hm'
    · exact h.sent m' hm'
    · rwa [List.mem_singleton.mp hm']
  · exact .inr (.inl ⟨m, by simp, hl⟩)

theorem Connected.answer (h : s.Connected b) {m : ProviderMsg} (hm : b.Answered m) (hl : m.leads = true) :
    (s.answer m).OnTheWay b false := by
  refine ⟨⟨h.runThread, h.upaChannel, h.served, h.connected, h.complete, h.sent, ?_⟩, .inr (.inl ?_)⟩
  · intro m' hm'
    rcases List.mem_append.mp hm' with hm' | hm'
    · exact h.answered m' hm'
    · rwa [List.mem_singleton.mp hm']
  · exact .inr (.inr ⟨m, by simp [Handshake.answer], hl⟩)

theorem Connected.enqueue (h : s.Connected b) {q : UpaRequest} (hl : q.leads = true) :
    (s.enqueue q true).OnTheWay b false :=
  ⟨⟨h.runThread, h.upaChannel, h.served, h.connected, h.complete, h.sent, h.answered⟩,
    .inr (.inl (.inl ⟨q, by simp [Handshake.enqueue], hl⟩))⟩

theorem OnTheWay.subscriber {led : Bool} (h : s.OnTheWay b led) {r : RMDSSubscriber}
    (hc : r.connected = true) (hs : r.sources.state = s.subscriber.sources.state)
    (hl : s.subscriber.subscriberState = .live → r.subscriberState = .live) :
    { s with subscriber := r }.OnTheWay b led := by
  obtain ⟨h, hw⟩ := h
  refine ⟨⟨h.runThread, h.upaChannel, h.served, hc, h.complete, h.sent, h.answered⟩, ?_⟩
  rcases hw with hw | hw | ⟨hlive, hstate⟩
  · exact .inl hw
  · exact .inr (.inl hw)
  · refine .inr (.inr ⟨hl hlive, ?_⟩)
    rw [hs]
    exact hstate

theorem OnTheWay.dictionaryUpdate {led : Bool} (h : s.OnTheWay b led) :
    { s with subscriber := s.subscriber.dictionaryUpdate true }.OnTheWay b led := by
  refine h.subscriber ?_ ?_ fun _ => s.subscriber.dictionaryUpdate_live.1
  · rw [s.subscriber.dictionaryUpdate_live.2]
    exact h.1.connected
  · rw [RMDSSubscriber.dictionaryUpdate_sources]

theorem sendRequest_of_complete {api : RsslDictionaryApi Raw Part} {d : UPADictionary Raw}
    (h : d.isComplete api = true) (sends : DictionaryKind → Bool) : d.sendRequest sends = [] := by
  simp only [UPADictionary.isComplete, Bool.and_eq_true] at h
  simp [UPADictionary.sendRequest, h.1.2, h.2]

theorem OnTheWay.requestCb {request : UpaRequest} (h : s.OnTheWay b request.leads)
    (sends : DictionaryKind → Bool) : (s.requestCb b true sends request).OnTheWay b false := by
  cases request with
  | login => exact h.1.send rfl rfl
  | sourceDirectory => exact h.1.send rfl rfl
  | dictionary =>
    simp only [Handshake.requestCb, sendRequest_of_complete h.1.complete, List.map_nil, send_nil]
    exact h
  | clientDictionary =>
    simp only [Handshake.requestCb, h.1.complete, if_true]
    exact h.dictionaryUpdate

theorem OnTheWay.processRequest {msg : ConsumerMsg} (hb : b.Sound) (hm : b.Sent msg)
    (h : s.OnTheWay b msg.leads) (r : RsslLoginRequestInfo) :
    (s.processRequest b true r msg).OnTheWay b false := by
  cases msg with
  | login m =>
    obtain ⟨a, ha, hans⟩ := hb.login r
    have hr : s.processRequest b true r (.login m) = s.answer (.login a) := by
      simp only [Handshake.processRequest, show m = b.loginRequest from hm, ha, if_true]
    rw [hr]
    exact h.1.answer hans rfl
  | sourceDirectory key =>
    obtain ⟨map, hmap, hans⟩ := hb.sourceDirectory
    have hr : s.processRequest b true r (.sourceDirectory key) = s.answer (.sourceDirectory map) := by
      simp only [Handshake.processRequest,
        show key = RsslDirectoryApi.encodeSourceDirectoryRequest from hm, hmap, if_true]
    rw [hr]
    exact h.1.answer hans rfl
  | dictionary _ => exact h

theorem Connected.receiveLogin (h : s.Connected b) :
    (s.receiveLogin true (.refresh true ⟨.open, .ok, false⟩ true)).OnTheWay b false := by
  have hs : s.receiveLogin true (.refresh true ⟨.open, .ok, false⟩ true) =
      { s with
        login := { s.login with isClosed := false, isClosedRecoverable := false, isSuspect := false }
        subscriber := s.subscriber.loginResponse true }.enqueue .sourceDirectory true := by
    simp [Handshake.receiveLogin, LoginCase.processLogin, Handshake.loginCase, UPALogin.processLoginResponse, LoginState.OpenOk, Handshake.loginResponse,
      RMDSSubscriber.loginResponse, h.connected]
  rw [hs]
  refine Connected.enqueue ?_ rfl
  exact ⟨h.runThread, h.upaChannel, h.served, h.connected, h.complete, h.sent, h.answered⟩

theorem Connected.receiveSourceDirectory (h : s.Connected b) {map : List ServiceEntry}
    (hm : b.Answered (.sourceDirectory map)) :
    (s.receiveSourceDirectory b true map).OnTheWay b false := by
  have hs : s.receiveSourceDirectory b true map =
      { s with
        subscriber := ((s.subscriber.sourceDirectoryInfo b.info.responseInfo).sourceDirectoryRefreshComplete
          true).dictionaryUpdate true } := by
    simp only [Handshake.receiveSourceDirectory, show b.api.decodeSourceDirectoryResponse map = _ from hm,
      List.foldl_cons, List.foldl_nil, if_true, Handshake.requestDictionary, h.complete]
  rw [hs]
  generalize hr : (s.subscriber.sourceDirectoryInfo b.info.responseInfo).sourceDirectoryRefreshComplete true = r
  have hc : r.connected = true := by
    rw [← hr]
    exact (s.subscriber.sourceDirectoryInfo_connected _).trans h.connected
  have hstate : r.sources.state b.source.serviceId =
      some (decide (b.source.serviceState ≠ 0), decide (b.source.acceptingRequests ≠ 0)) := by
    rw [← hr]
    refine (s.subscriber.updateOrCreate_state b.source.serviceId _ _ _ b.source.serviceId).trans ?_
    simp [BridgePair.info, ServiceSource.toInfo, ServiceInfo.responseInfo, ← UInt64.toNat_inj]
  obtain ⟨hlive, hcon⟩ := r.dictionaryUpdate_live
  refine ⟨⟨h.runThread, h.upaChannel, h.served, hcon.trans hc, h.complete, h.sent, h.answered⟩,
    .inr (.inr ⟨hlive, ?_⟩)⟩
  rw [RMDSSubscriber.dictionaryUpdate_sources]
  exact hstate

theorem OnTheWay.processResponse {msg : ProviderMsg} (hm : b.Answered msg) (h : s.OnTheWay b msg.leads) :
    (s.processResponse b true msg).OnTheWay b false := by
  cases msg with
  | login a =>
    rw [Handshake.processResponse, show b.api.loginMsg a = _ from hm]
    exact h.1.receiveLogin
  | sourceDirectory map => exact h.1.receiveSourceDirectory hm
  | loginStatus _ => exact hm.elim
  | sourceDirectoryStatus => exact hm.elim

end Handshake

end RmdsBridge
