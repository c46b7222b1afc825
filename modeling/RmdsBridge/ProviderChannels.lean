import RmdsBridge.ConsumerChannels
import RmdsBridge.ProviderLoop

namespace RmdsBridge

open Handles

def ReadsStop (hasSource : Bool) : List ClientRead → Prop
  | [] => True
  | .request r more :: rs =>
    more = true → (r.process hasSource).succeeded = true ∧ ReadsStop hasSource rs
  | .nothing code _ :: rs => code = .moreData → ReadsStop hasSource rs

section

-- The source of a publisher is set once.

variable {C : Type} [DecidableEq C] (p : UPAProvider C)

namespace UPAProvider

omit [DecidableEq C] in
theorem setItem_source (symbol : String) (i : UPAPublisherItem C) :
    (p.setItem symbol i).source.isSome = p.source.isSome := Option.isSome_map

theorem removeStream_source (chnl : C) (streamId : ℤ) (symbol : String) :
    (p.removeStream chnl streamId symbol).source.isSome = p.source.isSome := by
  simp only [removeStream]
  split
  · rfl
  · split
    · rfl
    · exact p.setItem_source _ _
    · exact p.setItem_source _ _

theorem removeStreams_source (chnl : C) (walk : List (Σ _ : ℤ, String)) :
    (p.removeStreams chnl walk).source.isSome = p.source.isSome := by
  induction walk generalizing p with
  | nil => rfl
  | cons x xs ih =>
    simp only [removeStreams]
    split_ifs
    · exact p.removeStream_source chnl x.1 x.2
    · exact (ih _).trans (p.removeStream_source chnl x.1 x.2)

theorem shutdownClientConnection_source (chnl : C) (walk : List (Σ _ : ℤ, String)) :
    (p.shutdownClientConnection chnl walk).source.isSome = p.source.isSome := by
  simp only [shutdownClientConnection]
  split
  · rfl
  · split_ifs
    · exact p.removeStreams_source chnl walk
    · exact p.removeStreams_source chnl walk

theorem addItem_source {p p' : UPAProvider C} {chnl : Option C} {streamId : ℤ} {symbol : String} {b : Bool}
    (h : p.addItem chnl streamId symbol = some (b, p')) : p'.source.isSome = p.source.isSome := by
  obtain ⟨s, hs, he⟩ := Option.map_eq_some_iff.mp h
  cases he
  simp [hs]

theorem processItemRequest_source (chnl : C) (msg : ItemRequest) :
    (p.processItemRequest chnl msg).source.isSome = p.source.isSome := by
  cases msg with
  | request streamId symbol =>
    simp only [processItemRequest, processRequest]
    cases ha : p.addItem (some chnl) streamId symbol with
    | none => rfl
    | some x =>
      obtain ⟨b, p'⟩ := x
      have hp := addItem_source ha
      simp only
      split <;> exact hp
  | close streamId =>
    simp only [processItemRequest, processClose]
    split
    · rfl
    · split
      · rfl
      · exact removeStream_source _ chnl streamId _
  | post | other => rfl

end UPAProvider

end

namespace ProviderRun

variable {C : Type} [DecidableEq C]

def Admissible (p : ProviderRun C) : ClientEvent C → Prop
  | .read _ r => ReadsStop p.provider.source.isSome r.reads
  | .publish symbol chnl written => p.publishes symbol chnl → written = true →
      (p.clientConnections.find chnl).isSome = true
  | .accept _ | .afterRead _ _ _ | .ping _ _ _ _ | .createPublisher _ => True

structure Kept (p : ProviderRun C) : Prop where
  sound : Sound p.uses
  isOpen : p.provider.stuck = false →
    ∀ chnl c, p.clientConnections.find chnl = some c → ¬ Closed chnl p.uses

variable {p : ProviderRun C} {chnl chnl' : C} {c c' : UPAClientConnection}
  {walk : List (Σ _ : ℤ, String)}

@[simp] theorem setConnection_find (p : ProviderRun C) (c : UPAClientConnection) :
    (p.setConnection chnl c).clientConnections.find chnl' =
      if chnl' = chnl then some c else p.clientConnections.find chnl' :=
  UnorderedMap.find_insert _ _ _ _

theorem setConnection_isSome (p : ProviderRun C) (chnl : C) (c : UPAClientConnection) :
    ((p.setConnection chnl c).clientConnections.find chnl).isSome = true := by
  rw [setConnection_find, if_pos rfl]
  rfl

theorem shutdownClientConnection_uses (p : ProviderRun C) (chnl : C) (c : UPAClientConnection)
    (walk : List (Σ _ : ℤ, String)) :
    (p.shutdownClientConnection chnl c walk).uses = .closed chnl :: p.uses := by
  simp only [shutdownClientConnection]
  split_ifs <;> rfl

theorem shutdownClientConnection_find
    (h : (p.shutdownClientConnection chnl c walk).provider.stuck = false) (chnl' : C) :
    (p.shutdownClientConnection chnl c walk).clientConnections.find chnl' =
      if chnl' = chnl then none else p.clientConnections.find chnl' := by
  simp only [shutdownClientConnection] at h ⊢
  by_cases hstuck : ((p.shutdownChannel chnl c).provider.shutdownClientConnection chnl walk).stuck = true
  · rw [if_pos hstuck, hstuck] at h
    cases h
  · rw [if_neg hstuck, UnorderedMap.find_erase]
    by_cases he : chnl' = chnl
    · rw [if_pos he, if_pos he]
    · rw [if_neg he, if_neg he]
      exact (setConnection_find p _).trans (if_neg he)

namespace Kept

theorem use (h : p.Kept) (hs : p.provider.stuck = false) (hc : p.clientConnections.find chnl = some c) :
    (p.use chnl).Kept where
  sound := ⟨h.isOpen hs chnl c hc, h.sound⟩
  isOpen := h.isOpen

theorem setConnection (h : p.Kept) (hc : p.clientConnections.find chnl = some c) (c' : UPAClientConnection) :
    (p.setConnection chnl c').Kept where
  sound := h.sound
  isOpen hs chnl' c'' hf := by
    rw [setConnection_find] at hf
    split_ifs at hf with he
    · exact he ▸ h.isOpen hs chnl c hc
    · exact h.isOpen hs chnl' c'' hf

theorem notifyListeners (h : p.Kept) (connected : Bool) : (p.notifyListeners connected).Kept :=
  ⟨h.sound, h.isOpen⟩

theorem shutdownClientConnection (h : p.Kept) (hs : p.provider.stuck = false)
    (hc : p.clientConnections.find chnl = some c) (walk : List (Σ _ : ℤ, String)) :
    (p.shutdownClientConnection chnl c walk).Kept := by
  have hopen := h.isOpen hs
  constructor
  · rw [shutdownClientConnection_uses]
    exact ⟨hopen chnl c hc, h.sound⟩
  · intro hs' chnl' c' hf
    rw [shutdownClientConnection_find hs'] at hf
    split_ifs at hf with he
    rw [shutdownClientConnection_uses]
    rintro (hchnl | hclosed)
    · exact he hchnl.symm
    · exact hopen chnl' c' hf hclosed

theorem removeChannelConnection (h : p.Kept) (hs : p.provider.stuck = false) (chnl : C)
    (walk : List (Σ _ : ℤ, String)) : (p.removeChannelConnection chnl walk).Kept := by
  have hn := h.notifyListeners false
  simp only [ProviderRun.removeChannelConnection]
  cases hc : (p.notifyListeners false).clientConnections.find chnl with
  | none => exact hn
  | some c => exact hn.shutdownClientConnection hs hc walk

theorem setChannelReceivedClientMsg (h : p.Kept) (chnl : C) :
    (p.setChannelReceivedClientMsg chnl).Kept := by
  simp only [ProviderRun.setChannelReceivedClientMsg]
  cases hc : p.clientConnections.find chnl with
  | none => exact h
  | some c => exact h.setConnection hc _

theorem handle (h : p.Kept) (hs : p.provider.stuck = false) (chnl : C) (r : ClientRequest) :
    (p.handle chnl r).Kept := by
  have hopen := h.isOpen hs
  simp only [ProviderRun.handle]
  split
  · exact ⟨h.sound, h.isOpen⟩
  · exact ⟨h.sound, fun _ => hopen⟩
  · exact h

end Kept

theorem handle_clientConnections (p : ProviderRun C) (chnl : C) (r : ClientRequest) :
    (p.handle chnl r).clientConnections = p.clientConnections := by
  simp only [handle]
  split <;> rfl

theorem setChannelReceivedClientMsg_isSome (p : ProviderRun C) (chnl chnl' : C) :
    ((p.setChannelReceivedClientMsg chnl).clientConnections.find chnl').isSome =
      (p.clientConnections.find chnl').isSome := by
  simp only [setChannelReceivedClientMsg]
  cases hc : p.clientConnections.find chnl with
  | none => rfl
  | some c =>
    simp only [setConnection_find]
    split_ifs with he
    · simp [he, hc]
    · rfl

omit [DecidableEq C] in
theorem sendUPAMessage_clientConnections (p : ProviderRun C) (chnl : C) (written : Bool) :
    (p.sendUPAMessage chnl written).clientConnections = p.clientConnections := by
  cases written <;> rfl

omit [DecidableEq C] in
theorem sendUPAMessage_provider (p : ProviderRun C) (chnl : C) (written : Bool) :
    (p.sendUPAMessage chnl written).provider = p.provider := by
  cases written <;> rfl

namespace Kept

theorem sendUPAMessage (h : p.Kept) (hs : p.provider.stuck = false)
    (hc : p.clientConnections.find chnl = some c) (written : Bool) :
    (p.sendUPAMessage chnl written).Kept := by
  cases written with
  | true => exact h.use hs hc
  | false => exact h

theorem processRequest (h : p.Kept) (hs : p.provider.stuck = false)
    (hc : p.clientConnections.find chnl = some c) (walk : List (Σ _ : ℤ, String)) (r : ClientRequest) :
    (p.processRequest chnl walk r).Kept ∧
      ((r.process p.provider.source.isSome).succeeded = true →
        ((p.processRequest chnl walk r).clientConnections.find chnl).isSome = true) := by
  have hh := h.handle hs chnl r
  have hconn := p.handle_clientConnections chnl r
  simp only [ProviderRun.processRequest]
  by_cases hstuck : (p.handle chnl r).provider.stuck = true
  · rw [if_pos hstuck, hconn, hc]
    exact ⟨hh, fun _ => rfl⟩
  · rw [if_neg hstuck]
    have hstuck : (p.handle chnl r).provider.stuck = false := by simpa using hstuck
    have hsent := hh.sendUPAMessage hstuck (hconn ▸ hc) (r.process p.provider.source.isSome).written
    cases hsucc : (r.process p.provider.source.isSome).succeeded with
    | true =>
      rw [if_pos rfl]
      refine ⟨hsent.setChannelReceivedClientMsg chnl, fun _ => ?_⟩
      rw [setChannelReceivedClientMsg_isSome, sendUPAMessage_clientConnections, hconn, hc]
      rfl
    | false =>
      refine ⟨hsent.removeChannelConnection ?_ chnl walk, by simp⟩
      rw [sendUPAMessage_provider]
      exact hstuck

theorem processNothing (h : p.Kept) (hs : p.provider.stuck = false) (chnl : C)
    (walk : List (Σ _ : ℤ, String)) (state : ChannelState) (code : ReadCode) :
    (p.processNothing chnl walk state code).Kept := by
  cases code with
  | failure => exact h.removeChannelConnection hs chnl walk
  | congestionDetected | slowReader | packetGapDetected =>
    simp only [ProviderRun.processNothing]
    split_ifs
    · exact h.removeChannelConnection hs chnl walk
    · exact h
  | readPing => exact h.setChannelReceivedClientMsg chnl
  | moreData | success | readFdChange | readWouldBlock | otherError => exact h

end Kept

theorem shutdownClientConnection_source (p : ProviderRun C) (chnl : C) (c : UPAClientConnection)
    (walk : List (Σ _ : ℤ, String)) :
    (p.shutdownClientConnection chnl c walk).provider.source.isSome = p.provider.source.isSome := by
  simp only [shutdownClientConnection]
  split_ifs <;> exact p.provider.shutdownClientConnection_source chnl walk

theorem removeChannelConnection_source (p : ProviderRun C) (chnl : C)
    (walk : List (Σ _ : ℤ, String)) :
    (p.removeChannelConnection chnl walk).provider.source.isSome = p.provider.source.isSome := by
  simp only [removeChannelConnection]
  cases (p.notifyListeners false).clientConnections.find chnl with
  | none => rfl
  | some c => exact (p.notifyListeners false).shutdownClientConnection_source chnl c walk

theorem setChannelReceivedClientMsg_provider (p : ProviderRun C) (chnl : C) :
    (p.setChannelReceivedClientMsg chnl).provider = p.provider := by
  simp only [setChannelReceivedClientMsg]
  cases p.clientConnections.find chnl <;> rfl

theorem handle_source (p : ProviderRun C) (chnl : C) (r : ClientRequest) :
    (p.handle chnl r).provider.source.isSome = p.provider.source.isSome := by
  simp only [handle]
  split
  · rfl
  · exact p.provider.processItemRequest_source chnl _
  · rfl

theorem processRequest_source (p : ProviderRun C) (chnl : C) (walk : List (Σ _ : ℤ, String))
    (r : ClientRequest) :
    (p.processRequest chnl walk r).provider.source.isSome = p.provider.source.isSome := by
  simp only [processRequest]
  split_ifs
  · exact p.handle_source chnl r
  · rw [setChannelReceivedClientMsg_provider, sendUPAMessage_provider]
    exact p.handle_source chnl r
  · rw [removeChannelConnection_source, sendUPAMessage_provider]
    exact p.handle_source chnl r

theorem Kept.readLoop {rs : List ClientRead} (h : p.Kept) (hs : p.provider.stuck = false)
    (hc : (p.clientConnections.find chnl).isSome = true)
    (hr : ReadsStop p.provider.source.isSome rs) (walk : List (Σ _ : ℤ, String)) :
    (ProviderRun.readLoop chnl walk rs p).Kept := by
  induction rs generalizing p with
  | nil => exact h
  | cons r rs ih =>
    obtain ⟨c, hc⟩ := Option.isSome_iff_exists.mp hc
    have hu := h.use hs hc
    cases r with
    | request r more =>
      obtain ⟨hk, hopen⟩ := hu.processRequest hs hc walk r
      simp only [ProviderRun.readLoop]
      split_ifs with hmore
      · obtain ⟨hsucc, hrest⟩ := hr hmore.1
        apply ih hk (by simpa using hmore.2) (hopen hsucc)
        rw [processRequest_source]
        exact hrest
      · exact hk
    | nothing code state =>
      simp only [ProviderRun.readLoop]
      split_ifs with hmore
      · subst hmore
        exact ih hu hs (Option.isSome_iff_exists.mpr ⟨c, hc⟩) (hr rfl)
      · exact hu.processNothing hs chnl walk state code

namespace Kept

theorem removeUninitialised (h : p.Kept) (hs : p.provider.stuck = false) (chnl : C) (r : ChannelRead) :
    (p.removeUninitialised chnl r).Kept := by
  have hk := h.removeChannelConnection hs chnl r.walk
  simp only [ProviderRun.removeUninitialised]
  split_ifs with hleft
  · exact hk.removeChannelConnection (by simpa using hleft.2) chnl r.walk
  · exact hk

theorem initChannel {r : ChannelRead} (h : p.Kept) (hs : p.provider.stuck = false)
    (hc : p.clientConnections.find chnl = some c) (hr : ReadsStop p.provider.source.isSome r.reads) :
    (p.initChannel chnl c r).Kept := by
  cases hi : r.init with
  | failed => simpa only [ProviderRun.initChannel, hi] using h.removeUninitialised hs chnl r
  | inProgress => simpa only [ProviderRun.initChannel, hi] using h
  | success =>
    have hactive := (h.setConnection hc { c with state := .active }).notifyListeners true
    simpa only [ProviderRun.initChannel, hi] using
      hactive.readLoop hs (p.setConnection_isSome chnl { c with state := .active }) hr r.walk
  | bad =>
    simpa only [ProviderRun.initChannel, hi] using (h.notifyListeners false).removeUninitialised hs chnl r

theorem readFromChannel {r : ChannelRead} (h : p.Kept) (hs : p.provider.stuck = false)
    (hc : p.clientConnections.find chnl = some c) (hr : ReadsStop p.provider.source.isSome r.reads) :
    (p.readFromChannel chnl c r).Kept := by
  simp only [ProviderRun.readFromChannel]
  cases if r.closed then ChannelState.closed else c.state with
  | initializing => exact h.initChannel hs hc hr
  | active => exact h.readLoop hs (Option.isSome_iff_exists.mpr ⟨c, hc⟩) hr r.walk
  | closed => exact h.removeChannelConnection hs chnl r.walk
  | inactive => exact h

theorem afterRead (h : p.Kept) (hs : p.provider.stuck = false)
    (hc : p.clientConnections.find chnl = some c) (flush : Option Bool)
    (walk : List (Σ _ : ℤ, String)) : (p.afterRead chnl c flush walk).Kept := by
  have hk := h.setConnection hc { c with pingsInitialized := true }
  have hu := hk.use hs ((setConnection_find p _).trans (if_pos rfl))
  cases flush with
  | none => exact hk
  | some flushed =>
    cases flushed with
    | true => exact hu
    | false => exact hu.removeChannelConnection hs chnl walk

theorem handlePings (h : p.Kept) (hs : p.provider.stuck = false)
    (hc : p.clientConnections.find chnl = some c) (sendPing checkReceived : Bool)
    (walk : List (Σ _ : ℤ, String)) : (p.handlePings chnl c sendPing checkReceived walk).Kept := by
  have hsent : (if sendPing then p.use chnl else p).Kept := by
    split_ifs
    · exact h.use hs hc
    · exact h
  have hs' : (if sendPing then p.use chnl else p).provider.stuck = false := by
    split_ifs <;> exact hs
  have hc' : (if sendPing then p.use chnl else p).clientConnections.find chnl = some c := by
    split_ifs <;> exact hc
  apply handlePings_cases
  · exact fun _ => h
  · exact fun _ => hsent
  · exact fun _ => hsent.setConnection hc' _
  · exact fun _ _ _ => hsent.shutdownClientConnection hs' hc' walk

theorem onConnection (h : p.Kept) {f : UPAClientConnection → ProviderRun C}
    (hf : ∀ c, p.clientConnections.find chnl = some c → (f c).Kept) : (p.onConnection chnl f).Kept := by
  simp only [ProviderRun.onConnection]
  cases hc : p.clientConnections.find chnl with
  | none => exact h
  | some c => exact hf c hc

theorem accept (h : p.Kept) (hs : p.provider.stuck = false) (chnl : C) :
    (p.createNewClientConnection chnl).Kept := by
  simp only [createNewClientConnection]
  split_ifs
  · refine ⟨h.sound, fun _ chnl' c' hf => ?_⟩
    rintro ⟨hne, hclosed⟩
    have hf := (setConnection_find p _).symm.trans hf
    rw [if_neg (Ne.symm hne)] at hf
    exact h.isOpen hs chnl' c' hf hclosed
  · exact h

theorem step (h : p.Kept) {e : ClientEvent C} (ha : p.Admissible e) : (p.step e).Kept := by
  simp only [ProviderRun.step]
  by_cases hstuck : p.provider.stuck = true
  · rwa [if_pos hstuck]
  · rw [if_neg hstuck]
    have hs : p.provider.stuck = false := by simpa using hstuck
    cases e with
    | accept chnl => exact h.accept hs chnl
    | read chnl r => exact h.onConnection fun c hc => h.readFromChannel hs hc ha
    | afterRead chnl flush walk =>
      refine h.onConnection fun c hc => ?_
      split_ifs
      · exact h.afterRead hs hc flush walk
      · exact h
    | ping chnl sendPing checkReceived walk =>
      exact h.onConnection fun c hc => h.handlePings hs hc sendPing checkReceived walk
    | createPublisher symbol => exact ⟨h.sound, fun _ => h.isOpen hs⟩
    | publish symbol chnl written =>
      simp only [ProviderRun.handleEvent]
      split_ifs with hp
      · cases written with
        | true =>
          obtain ⟨c, hc⟩ := Option.isSome_iff_exists.mp (ha hp rfl)
          exact h.use hs hc
        | false => exact h
      · exact h

end Kept

def start (sourceName : Option String) : ProviderRun C :=
  { provider := { source := sourceName.map fun name => { name } } }

theorem start_kept (sourceName : Option String) : (start sourceName : ProviderRun C).Kept :=
  ⟨trivial, fun _ chnl c hc => by simp [start] at hc⟩

end ProviderRun

/-- The consumer reads on after a login that closes recoverably, the provider after a request that it cannot
decode: both on the channel that they have closed. -/
theorem closed_channels_are_read :
    ¬ Runs.Always ConsumerRun.step (fun s => Sound s.uses) (.start true : ConsumerRun ℕ)
      [.connect (some 0) false, .initialise .success,
        .iterate { select := .ready true false,
                   reads := [.message (.login (.status (some ⟨.closedRecover, .suspect, false⟩))) true,
                     .nothing .failure .closed] }] ∧
    ¬ Runs.Always ProviderRun.step (fun p => Sound p.uses) (.start (some "source") : ProviderRun ℕ)
      [.accept 0, .read 0 { init := .success,
                            reads := [.request .undecodable true, .nothing .failure .closed] }] := by
  constructor
  · rintro ⟨-, -, -, h⟩
    exact absurd h.head (by decide)
  · rintro ⟨-, -, h⟩
    exact absurd h.head (by decide)

theorem closed_channels_unused {C : Type} [DecidableEq C] :
    (∀ (hosts : Bool) (es : List (RunEvent C)),
      Runs.Guarded ConsumerRun.step ConsumerRun.Admissible (.start hosts) es →
        Runs.Always ConsumerRun.step (fun s => Sound s.uses) (.start hosts) es) ∧
    ∀ (sourceName : Option String) (es : List (ClientEvent C)),
      Runs.Guarded ProviderRun.step ProviderRun.Admissible (.start sourceName) es →
        Runs.Always ProviderRun.step (fun p => Sound p.uses) (.start sourceName) es := by
  refine ⟨fun hosts es h => ConsumerRun.channels_sound h, fun sourceName es h => ?_⟩
  exact (h.always (fun _ _ hk ha => hk.step ha) (ProviderRun.start_kept sourceName)).mono
    fun _ hk => hk.sound

theorem recovered_channels_unused :
    Runs.Always ConsumerRun.step (fun s => Sound s.uses) (.start true : ConsumerRun ℕ)
      [.connect (some 0) false, .initialise .success,
        .iterate { select := .ready true false, reads := [.nothing .failure .closed] }] ∧
    Runs.Always ProviderRun.step (fun p => Sound p.uses) (.start (some "source") : ProviderRun ℕ)
      [.accept 0, .read 0 { init := .success, reads := [.request .undecodable false] }] := by
  constructor
  · refine closed_channels_unused.1 true _ ⟨trivial, trivial, fun _ _ => ⟨by simp, ?_⟩, trivial⟩
    exact fun _ _ _ _ => ⟨rfl, by simp [ReadGate.next]⟩
  · exact closed_channels_unused.2 (some "source") _ ⟨trivial, by simp [ProviderRun.Admissible, ReadsStop],
      trivial⟩

end RmdsBridge
