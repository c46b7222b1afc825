import RmdsBridge.ProviderChannels

namespace RmdsBridge

def ReadCode.closes (state : ChannelState) : ReadCode → Bool
  | .failure => true
  | .congestionDetected | .slowReader | .packetGapDetected => state = .closed
  | .moreData | .success | .readFdChange | .readPing | .readWouldBlock | .otherError => false

def removesIn (hasSource : Bool) : List ClientRead → Bool
  | [] => false
  | .request r more :: rs => !(r.process hasSource).succeeded || (more && removesIn hasSource rs)
  | .nothing code state :: rs => code.closes state || (code = .moreData && removesIn hasSource rs)

def ChannelRead.removes (r : ChannelRead) (hasSource : Bool) (c : UPAClientConnection) : Bool :=
  match if r.closed then .closed else c.state with
  | .initializing =>
    match r.init with
    | .failed | .bad => true
    | .inProgress => false
    | .success => removesIn hasSource r.reads
  | .active => removesIn hasSource r.reads
  | .closed => true
  | .inactive => false

def UPAClientConnection.lost (c : UPAClientConnection) (checkReceived : Bool) : Bool :=
  c.pingsInitialized && checkReceived && !c.receivedClientMsg

namespace ProviderRun

variable {C : Type} [DecidableEq C]

def Connected (p : ProviderRun C) : Prop :=
  (p.publisher.connected = true ↔ p.hasActive = true) ∧
    p.publisher.reports.count .disconnect = p.departures

instance (p : ProviderRun C) : Decidable p.Connected := inferInstanceAs (Decidable (_ ∧ _))

def ActiveAt (p : ProviderRun C) (chnl : C) : Prop :=
  ∃ c, p.clientConnections.find chnl = some c ∧ c.state = .active

def NoOther (p : ProviderRun C) (chnl : C) : Prop := ∀ chnl', chnl' ≠ chnl → ¬ p.ActiveAt chnl'

def Counted (p : ProviderRun C) : ClientEvent C → Prop
  | .accept chnl => p.clientConnections.find chnl = none
  | .read chnl r => ∀ c, p.clientConnections.find chnl = some c →
      r.removes p.provider.source.isSome c = true → p.NoOther chnl
  | .afterRead chnl flush _ => p.ActiveAt chnl → flush = some false → p.NoOther chnl
  | .ping chnl _ checkReceived _ => ∀ c, p.clientConnections.find chnl = some c →
      c.lost checkReceived = true → ¬ p.NoOther chnl
  | .createPublisher _ | .publish _ _ _ => True

variable {p p' : ProviderRun C} {chnl chnl' : C} {c c' : UPAClientConnection}
  {walk : List (Σ _ : ℤ, String)}

theorem hasActive_iff : p.hasActive = true ↔ ∃ chnl, p.ActiveAt chnl := by
  simp only [hasActive, List.any_eq_true, UnorderedMap.mem_values, decide_eq_true_eq, ActiveAt]
  constructor
  · rintro ⟨c, ⟨chnl, hf⟩, hs⟩
    exact ⟨chnl, c, hf, hs⟩
  · rintro ⟨chnl, c, hf, hs⟩
    exact ⟨c, ⟨chnl, hf⟩, hs⟩

theorem hasActive_congr (h : ∀ chnl, p.ActiveAt chnl ↔ p'.ActiveAt chnl) :
    p.hasActive = p'.hasActive := by
  rw [Bool.eq_iff_iff, hasActive_iff, hasActive_iff]
  exact exists_congr h

theorem setConnection_activeAt (p : ProviderRun C) (c : UPAClientConnection) :
    (p.setConnection chnl c).ActiveAt chnl' ↔
      if chnl' = chnl then c.state = .active else p.ActiveAt chnl' := by
  simp only [ActiveAt, setConnection_find]
  split_ifs with h
  · simp
  · rfl

theorem setConnection_hasActive (hc : p.clientConnections.find chnl = some c) (hs : c'.state = c.state) :
    (p.setConnection chnl c').hasActive = p.hasActive := by
  apply hasActive_congr
  intro chnl'
  rw [setConnection_activeAt]
  split_ifs with h
  · simp [ActiveAt, h, hc, hs]
  · rfl

theorem shutdownClientConnection_activeAt (p : ProviderRun C) (chnl : C) (c : UPAClientConnection)
    (walk : List (Σ _ : ℤ, String)) :
    (p.shutdownClientConnection chnl c walk).ActiveAt chnl' ↔ chnl' ≠ chnl ∧ p.ActiveAt chnl' := by
  have hclosed : (p.shutdownChannel chnl c).ActiveAt chnl' ↔ chnl' ≠ chnl ∧ p.ActiveAt chnl' := by
    refine (setConnection_activeAt p _).trans ?_
    split_ifs with h <;> simp [h]
  simp only [shutdownClientConnection]
  split_ifs
  · exact hclosed
  · rw [← hclosed]
    simp only [ActiveAt, UnorderedMap.find_erase]
    by_cases h : chnl' = chnl
    · have hno := hclosed.not.mpr fun hn => hn.1 h
      exact iff_of_false (by simp [h]) hno
    · rw [if_neg h]

theorem shutdownClientConnection_publisher (p : ProviderRun C) (chnl : C) (c : UPAClientConnection)
    (walk : List (Σ _ : ℤ, String)) :
    (p.shutdownClientConnection chnl c walk).publisher = p.publisher := by
  simp only [shutdownClientConnection]
  split_ifs <;> rfl

theorem shutdownClientConnection_departures (p : ProviderRun C) (chnl : C) (c : UPAClientConnection)
    (walk : List (Σ _ : ℤ, String)) :
    (p.shutdownClientConnection chnl c walk).departures =
      if p.hasActive = true ∧ ¬ (p.shutdownClientConnection chnl c walk).hasActive = true
      then p.departures + 1 else p.departures := by
  have hactive : (p.shutdownClientConnection chnl c walk).hasActive =
      (p.setConnection chnl { c with state := .closed }).hasActive := by
    apply hasActive_congr
    intro chnl'
    rw [shutdownClientConnection_activeAt, setConnection_activeAt]
    split_ifs with h <;> simp [h]
  rw [hactive]
  simp only [shutdownClientConnection]
  by_cases hstuck : ((p.shutdownChannel chnl c).provider.shutdownClientConnection chnl walk).stuck = true
  · rw [if_pos hstuck]
    rfl
  · rw [if_neg hstuck]
    rfl

theorem connectionNotification_false (q : RMDSPublisher) :
    (q.connectionNotification false).connected = false ∧
      (q.connectionNotification false).reports.count .disconnect =
        q.reports.count .disconnect + if q.connected then 1 else 0 := by
  cases h : q.connected <;> simp [RMDSPublisher.connectionNotification, h, List.count_append]

theorem connectionNotification_true (q : RMDSPublisher) :
    (q.connectionNotification true).connected = true ∧
      (q.connectionNotification true).reports.count .disconnect = q.reports.count .disconnect := by
  cases h : q.connected <;> simp [RMDSPublisher.connectionNotification, h, List.count_append]

def Elsewhere (chnl : C) (p p' : ProviderRun C) : Prop :=
  ∀ chnl', chnl' ≠ chnl → (p'.ActiveAt chnl' ↔ p.ActiveAt chnl')

theorem Elsewhere.noOther (h : Elsewhere chnl p p') (hn : p.NoOther chnl) : p'.NoOther chnl :=
  fun chnl' hne ha => hn chnl' hne ((h chnl' hne).mp ha)

theorem NoOther.not_hasActive (h : p.NoOther chnl) (hc : ¬ p.ActiveAt chnl) : p.hasActive = false := by
  by_contra hn
  obtain ⟨chnl', ha⟩ := hasActive_iff.mp (by simpa using hn)
  by_cases he : chnl' = chnl
  · exact hc (he ▸ ha)
  · exact h chnl' he ha

theorem removeChannelConnection_elsewhere (p : ProviderRun C) (chnl : C) (walk : List (Σ _ : ℤ, String)) :
    Elsewhere chnl p (p.removeChannelConnection chnl walk) := by
  intro chnl' hne
  simp only [removeChannelConnection]
  cases (p.notifyListeners false).clientConnections.find chnl with
  | none => rfl
  | some c =>
    refine ((p.notifyListeners false).shutdownClientConnection_activeAt chnl c walk).trans ?_
    exact and_iff_right hne

namespace Connected

omit [DecidableEq C] in
theorem of_same (h : p.Connected) (ha : p'.hasActive = p.hasActive)
    (hp : p'.publisher.connected = p.publisher.connected)
    (hr : p'.publisher.reports = p.publisher.reports) (hd : p'.departures = p.departures) :
    p'.Connected := by
  simpa only [Connected, ha, hp, hr, hd] using h

theorem setConnection (h : p.Connected) (hc : p.clientConnections.find chnl = some c)
    (hs : c'.state = c.state) : (p.setConnection chnl c').Connected :=
  h.of_same (setConnection_hasActive hc hs) rfl rfl rfl

theorem setChannelReceivedClientMsg (h : p.Connected) (chnl : C) :
    (p.setChannelReceivedClientMsg chnl).Connected := by
  simp only [ProviderRun.setChannelReceivedClientMsg]
  cases hc : p.clientConnections.find chnl with
  | none => exact h
  | some c => exact h.setConnection hc rfl

theorem removeChannelConnection (h : p.Connected) (hn : p.NoOther chnl) (walk : List (Σ _ : ℤ, String)) :
    (p.removeChannelConnection chnl walk).Connected := by
  obtain ⟨hoff, hcount⟩ := connectionNotification_false p.publisher
  cases hc : p.clientConnections.find chnl with
  | none =>
    have hno : p.hasActive = false := hn.not_hasActive (by simp [ActiveAt, hc])
    have hconn : p.publisher.connected = false := by
      rw [Bool.eq_false_iff, ne_eq, h.1, hno]
      exact Bool.false_ne_true
    have he : p.removeChannelConnection chnl walk = p.notifyListeners false := by
      simp only [ProviderRun.removeChannelConnection, notifyListeners, hc]
    rw [he]
    refine ⟨iff_of_false (by simp [notifyListeners, hoff]) ?_, ?_⟩
    · simpa [notifyListeners, hasActive] using hno
    · simpa [notifyListeners, hcount, hconn] using h.2
  | some c =>
    have he : p.removeChannelConnection chnl walk =
        (p.notifyListeners false).shutdownClientConnection chnl c walk := by
      simp only [ProviderRun.removeChannelConnection, notifyListeners, hc]
    have hno : ((p.notifyListeners false).shutdownClientConnection chnl c walk).hasActive = false := by
      by_contra hne
      obtain ⟨chnl', ha⟩ := hasActive_iff.mp (by simpa using hne)
      obtain ⟨hchnl, ha⟩ := (shutdownClientConnection_activeAt _ _ _ _).mp ha
      exact hn chnl' hchnl ha
    have hsame : (p.notifyListeners false).hasActive = p.hasActive := rfl
    rw [he]
    constructor
    · rw [shutdownClientConnection_publisher, hno]
      exact iff_of_false (by simp [notifyListeners, hoff]) Bool.false_ne_true
    · rw [shutdownClientConnection_publisher, shutdownClientConnection_departures, hno, hsame]
      have hd : (p.notifyListeners false).departures = p.departures := rfl
      rw [hd]
      refine hcount.trans ?_
      rw [h.2]
      by_cases hp : p.hasActive = true
      · simp [hp, h.1.mpr hp]
      · simp [hp, h.1.not.mpr hp]

theorem shutdownClientConnection (h : p.Connected) (hn : ¬ p.NoOther chnl)
    (c : UPAClientConnection) (walk : List (Σ _ : ℤ, String)) :
    (p.shutdownClientConnection chnl c walk).Connected := by
  obtain ⟨chnl', hne, ha⟩ : ∃ chnl', chnl' ≠ chnl ∧ p.ActiveAt chnl' := by
    simpa [NoOther] using hn
  have hbefore : p.hasActive = true := hasActive_iff.mpr ⟨chnl', ha⟩
  have hafter : (p.shutdownClientConnection chnl c walk).hasActive = true :=
    hasActive_iff.mpr ⟨chnl', (shutdownClientConnection_activeAt _ _ _ _).mpr ⟨hne, ha⟩⟩
  refine h.of_same (hafter.trans hbefore.symm) ?_ ?_ ?_
  · rw [shutdownClientConnection_publisher]
  · rw [shutdownClientConnection_publisher]
  · rw [shutdownClientConnection_departures, hafter]
    simp

theorem handle (h : p.Connected) (chnl : C) (r : ClientRequest) : (p.handle chnl r).Connected := by
  simp only [ProviderRun.handle]
  split <;> exact h

omit [DecidableEq C] in
theorem sendUPAMessage (h : p.Connected) (chnl : C) (written : Bool) :
    (p.sendUPAMessage chnl written).Connected := by
  cases written <;> exact h

theorem processRequest {r : ClientRequest} (h : p.Connected)
    (hr : (r.process p.provider.source.isSome).succeeded = false → p.NoOther chnl)
    (walk : List (Σ _ : ℤ, String)) : (p.processRequest chnl walk r).Connected := by
  have hh := h.handle chnl r
  have hs := hh.sendUPAMessage chnl (r.process p.provider.source.isSome).written
  simp only [ProviderRun.processRequest]
  split_ifs with hstuck hsucc
  · exact hh
  · exact hs.setChannelReceivedClientMsg chnl
  · refine hs.removeChannelConnection ?_ walk
    intro chnl' hne ha
    apply hr (by simpa using hsucc) chnl' hne
    simpa only [ActiveAt, sendUPAMessage_clientConnections, handle_clientConnections] using ha

theorem processNothing {state : ChannelState} {code : ReadCode} (h : p.Connected)
    (hr : code.closes state = true → p.NoOther chnl) (walk : List (Σ _ : ℤ, String)) :
    (p.processNothing chnl walk state code).Connected := by
  cases code with
  | failure => exact h.removeChannelConnection (hr rfl) walk
  | congestionDetected | slowReader | packetGapDetected =>
    simp only [ProviderRun.processNothing]
    split_ifs with hs
    · exact h.removeChannelConnection (hr (by simp [ReadCode.closes, hs])) walk
    · exact h
  | readPing => exact h.setChannelReceivedClientMsg chnl
  | moreData | success | readFdChange | readWouldBlock | otherError => exact h

end Connected

theorem setChannelReceivedClientMsg_elsewhere (p : ProviderRun C) (chnl : C) :
    Elsewhere chnl p (p.setChannelReceivedClientMsg chnl) := by
  intro chnl' hne
  simp only [setChannelReceivedClientMsg]
  cases p.clientConnections.find chnl with
  | none => rfl
  | some c => exact (setConnection_activeAt p _).trans (by rw [if_neg hne])

theorem processRequest_elsewhere (p : ProviderRun C) (chnl : C) (walk : List (Σ _ : ℤ, String))
    (r : ClientRequest) : Elsewhere chnl p (p.processRequest chnl walk r) := by
  intro chnl' hne
  have hh : (p.handle chnl r).ActiveAt chnl' ↔ p.ActiveAt chnl' := by
    simp only [ActiveAt, handle_clientConnections]
  have hs (w : Bool) : ((p.handle chnl r).sendUPAMessage chnl w).ActiveAt chnl' ↔ p.ActiveAt chnl' := by
    simp only [ActiveAt, sendUPAMessage_clientConnections, handle_clientConnections]
  simp only [processRequest]
  split_ifs
  · exact hh
  · exact (setChannelReceivedClientMsg_elsewhere _ chnl chnl' hne).trans (hs _)
  · exact (removeChannelConnection_elsewhere _ chnl walk chnl' hne).trans (hs _)

namespace Connected

theorem readLoop {rs : List ClientRead} (h : p.Connected)
    (hr : removesIn p.provider.source.isSome rs = true → p.NoOther chnl)
    (walk : List (Σ _ : ℤ, String)) : (ProviderRun.readLoop chnl walk rs p).Connected := by
  induction rs generalizing p with
  | nil => exact h
  | cons r rs ih =>
    have hu : (p.use chnl).Connected := h
    cases r with
    | request r more =>
      have hk : ((p.use chnl).processRequest chnl walk r).Connected := by
        refine hu.processRequest (fun hf => hr ?_) walk
        simp only [removesIn, Bool.or_eq_true, Bool.not_eq_true']
        exact .inl hf
      simp only [ProviderRun.readLoop]
      split_ifs with hmore
      · refine ih hk fun hrest => ?_
        rw [processRequest_source] at hrest
        apply (processRequest_elsewhere (p.use chnl) chnl walk r).noOther
        exact hr (by simp only [removesIn, hmore.1, Bool.true_and, Bool.or_eq_true]; exact .inr hrest)
      · exact hk
    | nothing code state =>
      simp only [ProviderRun.readLoop]
      split_ifs with hmore
      · subst hmore
        exact ih hu fun hrest => hr (by simpa [removesIn] using .inr hrest)
      · exact hu.processNothing (fun hc => hr (by simp [removesIn, hc])) walk

theorem removeUninitialised (h : p.Connected) (hn : p.NoOther chnl) (r : ChannelRead) :
    (p.removeUninitialised chnl r).Connected := by
  have hk := h.removeChannelConnection hn r.walk
  simp only [ProviderRun.removeUninitialised]
  split_ifs
  · exact hk.removeChannelConnection ((removeChannelConnection_elsewhere p chnl r.walk).noOther hn) r.walk
  · exact hk

omit [DecidableEq C] in
theorem notify_false (h : p.Connected) (hn : p.hasActive = false) : (p.notifyListeners false).Connected := by
  obtain ⟨hoff, hcount⟩ := connectionNotification_false p.publisher
  have hconn : p.publisher.connected = false := by
    rw [Bool.eq_false_iff, ne_eq, h.1, hn]
    exact Bool.false_ne_true
  have hactive : (p.notifyListeners false).hasActive = false := hn
  constructor
  · rw [hactive]
    exact iff_of_false (by simp [notifyListeners, hoff]) Bool.false_ne_true
  · simpa [notifyListeners, hcount, hconn] using h.2

theorem activate (h : p.Connected) (hs : c.state = .active) :
    ((p.setConnection chnl c).notifyListeners true).Connected := by
  obtain ⟨hon, hcount⟩ := connectionNotification_true p.publisher
  have hactive : (p.setConnection chnl c).hasActive = true :=
    hasActive_iff.mpr ⟨chnl, (setConnection_activeAt p c).mpr (by rw [if_pos rfl]; exact hs)⟩
  exact ⟨iff_of_true hon hactive, hcount.trans h.2⟩

theorem initChannel {r : ChannelRead} (h : p.Connected) (hc : p.clientConnections.find chnl = some c)
    (hs : c.state = .initializing) (hclosed : r.closed = false)
    (hr : r.removes p.provider.source.isSome c = true → p.NoOther chnl) :
    (p.initChannel chnl c r).Connected := by
  simp only [ChannelRead.removes, hclosed, hs, Bool.false_eq_true, if_false] at hr
  cases hi : r.init with
  | failed =>
    simpa only [ProviderRun.initChannel, hi] using h.removeUninitialised (hr (by rw [hi])) r
  | inProgress => simpa only [ProviderRun.initChannel, hi] using h
  | success =>
    simp only [hi] at hr
    simp only [ProviderRun.initChannel, hi]
    apply Connected.readLoop
    · exact h.activate rfl
    · intro hrest chnl' hne ha
      apply hr hrest chnl' hne
      have ha := (setConnection_activeAt p _).mp ha
      rwa [if_neg hne] at ha
  | bad =>
    have hn := hr (by rw [hi])
    have hno : p.hasActive = false := hn.not_hasActive (by simp [ActiveAt, hc, hs])
    simpa only [ProviderRun.initChannel, hi] using (h.notify_false hno).removeUninitialised hn r

theorem readFromChannel {r : ChannelRead} (h : p.Connected)
    (hc : p.clientConnections.find chnl = some c)
    (hr : r.removes p.provider.source.isSome c = true → p.NoOther chnl) :
    (p.readFromChannel chnl c r).Connected := by
  cases hclosed : r.closed with
  | true =>
    simp only [ProviderRun.readFromChannel, hclosed, if_true]
    exact h.removeChannelConnection (hr (by simp [ChannelRead.removes, hclosed])) r.walk
  | false =>
    simp only [ProviderRun.readFromChannel, hclosed, Bool.false_eq_true, if_false]
    cases hs : c.state with
    | initializing => exact h.initChannel hc hs hclosed hr
    | active =>
      simp only [ChannelRead.removes, hclosed, hs, Bool.false_eq_true, if_false] at hr
      exact h.readLoop hr r.walk
    | closed => exact h.removeChannelConnection (hr (by simp [ChannelRead.removes, hclosed, hs])) r.walk
    | inactive => exact h

theorem afterRead {flush : Option Bool} (h : p.Connected) (hc : p.clientConnections.find chnl = some c)
    (hf : flush = some false → p.NoOther chnl) (walk : List (Σ _ : ℤ, String)) :
    (p.afterRead chnl c flush walk).Connected := by
  have hk : (p.setConnection chnl { c with pingsInitialized := true }).Connected := h.setConnection hc rfl
  cases flush with
  | none => exact hk
  | some flushed =>
    cases flushed with
    | true => exact hk
    | false =>
      refine Connected.removeChannelConnection (p := (p.setConnection chnl _).use chnl) hk ?_ walk
      intro chnl' hne ha
      apply hf rfl chnl' hne
      have ha := (setConnection_activeAt p _).mp ha
      rwa [if_neg hne] at ha

theorem handlePings {checkReceived : Bool} (h : p.Connected)
    (hc : p.clientConnections.find chnl = some c)
    (hl : c.lost checkReceived = true → ¬ p.NoOther chnl) (sendPing : Bool)
    (walk : List (Σ _ : ℤ, String)) : (p.handlePings chnl c sendPing checkReceived walk).Connected := by
  have hsent (q : ProviderRun C) (hq : q = if sendPing then p.use chnl else p) :
      q.Connected ∧ q.clientConnections = p.clientConnections := by
    rw [hq]
    split_ifs
    · exact ⟨h, rfl⟩
    · exact ⟨h, rfl⟩
  obtain ⟨hk, hconn⟩ := hsent _ rfl
  apply handlePings_cases
  · exact fun _ => h
  · exact fun _ => hk
  · exact fun _ => hk.setConnection (c := c) (by rw [hconn, hc]) rfl
  · intro hp hcheck hm
    refine hk.shutdownClientConnection (fun hn => ?_) c walk
    refine hl (by simp [UPAClientConnection.lost, hp, hcheck, hm]) fun chnl' hne ha => hn chnl' hne ?_
    simpa only [ActiveAt, hconn] using ha

theorem onConnection (h : p.Connected) {f : UPAClientConnection → ProviderRun C}
    (hf : ∀ c, p.clientConnections.find chnl = some c → (f c).Connected) :
    (p.onConnection chnl f).Connected := by
  simp only [ProviderRun.onConnection]
  cases hc : p.clientConnections.find chnl with
  | none => exact h
  | some c => exact hf c hc

theorem accept (h : p.Connected) (hc : p.clientConnections.find chnl = none) :
    (p.createNewClientConnection chnl).Connected := by
  simp only [createNewClientConnection]
  split_ifs
  · refine h.of_same (hasActive_congr fun chnl' => ?_) rfl rfl rfl
    refine (setConnection_activeAt p {}).trans ?_
    split_ifs with he
    · simp [ActiveAt, he, hc]
    · rfl
  · exact h

theorem step (h : p.Connected) {e : ClientEvent C} (ha : p.Counted e) : (p.step e).Connected := by
  simp only [ProviderRun.step]
  split_ifs
  · exact h
  · cases e with
    | accept chnl => exact h.accept ha
    | read chnl r => exact h.onConnection fun c hc => h.readFromChannel hc (ha c hc)
    | afterRead chnl flush walk =>
      refine h.onConnection fun c hc => ?_
      split_ifs with hs
      · exact h.afterRead hc (ha ⟨c, hc, hs⟩) walk
      · exact h
    | ping chnl sendPing checkReceived walk =>
      exact h.onConnection fun c hc => h.handlePings hc (ha c hc) sendPing walk
    | createPublisher symbol => exact h
    | publish symbol chnl written =>
      simp only [ProviderRun.handleEvent]
      split_ifs
      · exact h.sendUPAMessage chnl written
      · exact h

end Connected

theorem publisher_disconnected_with_active_client :
    ¬ Runs.Always step Connected (start (some "source") : ProviderRun ℕ)
      [.accept 0, .read 0 { init := .success }, .accept 1, .read 1 { init := .failed }] := by
  rintro ⟨-, -, -, -, h⟩
  exact absurd h.head (by decide)

theorem publisher_connected (sourceName : Option String) (es : List (ClientEvent C))
    (h : Runs.Guarded step Counted (start sourceName) es) :
    Runs.Always step Connected (start sourceName) es :=
  h.always (fun _ _ hk ha => hk.step ha) (by simp [Connected, start, hasActive, UnorderedMap.values])

theorem publisher_connected_with_client :
    Runs.Always step Connected (start (some "source") : ProviderRun ℕ)
      [.accept 0, .read 0 { init := .success }, .read 0 { reads := [.nothing .failure .closed] }] := by
  refine publisher_connected (some "source") _ ⟨rfl, fun c hc hr => ?_, fun _ _ _ chnl' hne => ?_, trivial⟩
  · obtain rfl := Option.some.inj hc
    exact absurd hr (by decide)
  · rintro ⟨c, hc, -⟩
    have hentries : (Runs.run step (start (some "source") : ProviderRun ℕ)
        [.accept 0, .read 0 { init := .success }]).clientConnections.entries =
          [⟨0, { state := .active }⟩] := rfl
    exact absurd ((UnorderedMap.find_of_entries_singleton_ne hentries hne).symm.trans hc) (by simp)

end ProviderRun

end RmdsBridge
