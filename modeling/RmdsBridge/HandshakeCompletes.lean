import RmdsBridge.HandshakeAnswers
import RmdsBridge.HandshakeWork
import RmdsBridge.RwfDirectory

namespace RmdsBridge

namespace Handshake

variable {Q S Raw Part : Type*} {b : BridgePair Q S Raw Part} {s : Handshake Raw}

theorem leads_cons {α : Type*} {leads : α → Bool} {x : α} {xs : List α} :
    (∃ y ∈ x :: xs, leads y = true) ↔ leads x = true ∨ ∃ y ∈ xs, leads y = true := by
  simp

theorem OnTheWay.pop_request {q : UpaRequest} {rest : List UpaRequest} (h : s.OnTheWay b false)
    (hq : s.upaRequestQueue = q :: rest) : { s with upaRequestQueue := rest }.OnTheWay b q.leads := by
  obtain ⟨h, hw⟩ := h
  refine ⟨⟨h.runThread, h.upaChannel, h.served, h.connected, h.complete, h.sent, h.answered⟩, ?_⟩
  simp only [Bool.false_eq_true, false_or, pending, hq, leads_cons] at hw
  simp only [pending, IsLive, or_assoc] at hw ⊢
  exact hw

theorem OnTheWay.pop_sent {m : ConsumerMsg} {rest : List ConsumerMsg} (h : s.OnTheWay b false)
    (hq : s.toProvider = m :: rest) : b.Sent m ∧ { s with toProvider := rest }.OnTheWay b m.leads := by
  obtain ⟨h, hw⟩ := h
  have hsent := h.sent
  rw [hq] at hsent
  refine ⟨hsent m List.mem_cons_self, ⟨h.runThread, h.upaChannel, h.served, h.connected, h.complete,
    fun m' hm => hsent m' (List.mem_cons_of_mem m hm), h.answered⟩, ?_⟩
  simp only [Bool.false_eq_true, false_or, pending, hq, leads_cons] at hw
  simp only [pending, IsLive, or_assoc] at hw ⊢
  rcases hw with hw | hw | hw
  exacts [.inr (.inl hw), .inl hw, .inr (.inr hw)]

theorem OnTheWay.pop_answered {m : ProviderMsg} {rest : List ProviderMsg} (h : s.OnTheWay b false)
    (hq : s.toConsumer = m :: rest) : b.Answered m ∧ { s with toConsumer := rest }.OnTheWay b m.leads := by
  obtain ⟨h, hw⟩ := h
  have hans := h.answered
  rw [hq] at hans
  refine ⟨hans m List.mem_cons_self, ⟨h.runThread, h.upaChannel, h.served, h.connected, h.complete, h.sent,
    fun m' hm => hans m' (List.mem_cons_of_mem m hm)⟩, ?_⟩
  simp only [Bool.false_eq_true, false_or, pending, hq, leads_cons] at hw
  simp only [pending, IsLive, or_assoc] at hw ⊢
  rcases hw with hw | hw | hw | hw
  exacts [.inr (.inl hw), .inr (.inr (.inl hw)), .inl hw, .inr (.inr (.inr hw))]

theorem OnTheWay.setDictionaryReply (h : s.OnTheWay b false) (queued : Bool) :
    (s.enqueue .clientDictionary queued).OnTheWay b false := by
  cases queued with
  | false => exact h
  | true =>
    obtain ⟨h, hw⟩ := h
    refine ⟨⟨h.runThread, h.upaChannel, h.served, h.connected, h.complete, h.sent, h.answered⟩, ?_⟩
    rcases hw with hw | (⟨q, hq, hl⟩ | hw) | hw
    · cases hw
    · exact .inr (.inl (.inl ⟨q, List.mem_append_left _ hq, hl⟩))
    · exact .inr (.inl (.inr hw))
    · exact .inr (.inr hw)

theorem OnTheWay.step (hb : b.Sound) (h : s.OnTheWay b false) {e : HandshakeEvent} (he : e.Undisturbed) :
    (s.step b e).OnTheWay b false := by
  cases e with
  | connect _ => exact he.elim
  | recoverConnection => exact he.elim
  | dispatch written sends =>
    obtain rfl : written = true := he
    simp only [Handshake.step, dispatch]
    rw [if_pos h.1.runThread]
    cases hq : s.upaRequestQueue with
    | nil => exact h
    | cons q rest => exact (h.pop_request hq).requestCb sends
  | provide written r =>
    obtain rfl : written = true := he
    simp only [Handshake.step, provide]
    cases hq : s.toProvider with
    | nil => exact h
    | cons m rest =>
      obtain ⟨hm, hp⟩ := h.pop_sent hq
      exact hp.processRequest hb hm r
  | deliver queued =>
    obtain rfl : queued = true := he
    simp only [Handshake.step, deliver]
    rw [if_pos h.1.runThread]
    cases hq : s.toConsumer with
    | nil => exact h
    | cons m rest =>
      obtain ⟨hm, hp⟩ := h.pop_answered hq
      exact hp.processResponse hm
  | setDictionaryReply queued => exact h.setDictionaryReply queued
  | traffic e =>
    obtain ⟨hst, hc⟩ := s.subscriber.step_sameSession e.2
    exact h.subscriber (hc.trans h.1.connected)
      (s.subscriber.step_sameServices (SubscriberEvent.isDirectoryUpdate_of_isTraffic e.2)).1
      fun hl => hst.trans hl

theorem connect_onTheWay (hr : s.runThread = true) (hd : s.upaDictionary.isComplete b.dictionaryApi = true) :
    (s.connect true).OnTheWay b false := by
  have hs : s.connect true = { s with
      subscriber := s.subscriber.connectionNotification true true
      upaChannel := true
      served := true
      toProvider := []
      toConsumer := [] }.enqueue .login true := by
    simp [connect, hr]
  rw [hs]
  refine Connected.enqueue ?_ rfl
  exact ⟨hr, rfl, rfl, rfl, hd, fun _ hm => absurd hm List.not_mem_nil, fun _ hm => absurd hm List.not_mem_nil⟩

def Settled (s : Handshake Raw) : Prop := s.upaRequestQueue = [] ∧ s.toProvider = [] ∧ s.toConsumer = []

theorem OnTheWay.isLive (h : s.OnTheWay b false) (hs : s.Settled) : s.IsLive b := by
  rcases h.2 with hw | hw | hw
  · cases hw
  · simp [pending, hs.1, hs.2.1, hs.2.2] at hw
  · exact hw

/-- From any state that a connection is made in, and whatever is still queued from the one before, the
handshake comes to rest after a bounded number of steps, and then the session is live. -/
theorem handshake_completes (hb : b.Sound) (hr : s.runThread = true)
    (hd : s.upaDictionary.isComplete b.dictionaryApi = true) (es : List HandshakeEvent)
    (hes : ∀ e ∈ es, e.Undisturbed) :
    ((Runs.run (step b) (s.connect true) es).Settled → (Runs.run (step b) (s.connect true) es).IsLive b) ∧
      Runs.total (step b) work (s.connect true) es + (Runs.run (step b) (s.connect true) es).weight ≤
        (s.connect true).weight + (es.map gain).sum := by
  have hg : Runs.Guarded (step b) (fun _ e => e.Undisturbed) (s.connect true) es :=
    Runs.Guarded.of_forall fun e he _ => hes e he
  have hway := hg.run_inv (I := OnTheWay b false) (fun _ _ h he => h.step hb he) (connect_onTheWay hr hd)
  exact ⟨hway.isLive, Runs.total_add_le (weight_step b) _ es⟩

def examplePair : BridgePair UInt64 UInt64 (List ℕ) (Option DictionaryKind × ℕ) where
  api := RsslDirectoryApi.rwfDirectory
  dictionaryApi := UPADictionary.numberedParts
  login := ⟨[117, 49], [50, 53, 54], [], [104, 47, 110, 101, 116], [112], [105], false, true, false⟩
  acceptsPosts := true
  source := RsslDirectoryApi.exampleSource

def reconnecting : Handshake (List ℕ) where
  subscriber := { recovering := true }
  upaDictionary := { rsslDictionary := [1, 2], loaded := fun _ => true }
  upaRequestQueue := [.sourceDirectory]

def reconnectingRun : List HandshakeEvent :=
  let sends : DictionaryKind → Bool := fun _ => true
  [.dispatch true sends, .provide true {}, .dispatch true sends, .deliver true, .setDictionaryReply true,
    .provide true {}, .deliver true, .dispatch true sends, .dispatch true sends, .provide true {},
    .deliver true]

theorem examplePair_sound : examplePair.Sound where
  faithful := RsslDirectoryApi.rwfDirectory_faithful
  capabilities := by decide

theorem handshake_completes_reconnecting :
    (Runs.run (step examplePair) (reconnecting.connect true) reconnectingRun).IsLive examplePair ∧
      Runs.total (step examplePair) work (reconnecting.connect true) reconnectingRun ≤ 16 := by
  have hes : ∀ e ∈ reconnectingRun, e.Undisturbed := by
    simp [reconnectingRun, HandshakeEvent.Undisturbed]
  obtain ⟨hlive, hwork⟩ := handshake_completes examplePair_sound (s := reconnecting) rfl (by decide)
    reconnectingRun hes
  refine ⟨hlive (by unfold Settled; decide +kernel), (Nat.le_add_right _ _).trans (hwork.trans ?_)⟩
  decide

end Handshake

end RmdsBridge
