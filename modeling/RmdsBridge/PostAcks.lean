import RmdsBridge.PostStatus

namespace RmdsBridge

inductive RsslNakCode
  | none
  | accessDenied
  | deniedBySrc
  | sourceDown
  | gatewayDown
  | sourceUnknown
  | symbolUnknown
  | notOpen
  | noResources
  | noResponse
  | invalidContent
  | other (code : ℕ)
  deriving DecidableEq, Repr

inductive NakStatus
  | ok
  | notEntitled
  | notPermissioned
  | ioError
  | badSymbol
  | noSubscribers
  | platform
  deriving DecidableEq, Repr

def rsslNakCode2MamaMsgStatus : RsslNakCode → MamaMsgStatus
  | .none => .ok
  | .accessDenied => .notEntitled
  | .deniedBySrc => .notPermissioned
  | .sourceDown | .gatewayDown => .lineDown
  | .sourceUnknown | .symbolUnknown => .badSymbol
  | .notOpen => .noSubscribers
  | .noResources | .noResponse | .invalidContent => .platformStatus
  | .other _ => .unknown

def rsslNakCode2MamaStatus : RsslNakCode → NakStatus
  | .none => .ok
  | .accessDenied => .notEntitled
  | .deniedBySrc => .notPermissioned
  | .sourceDown | .gatewayDown => .ioError
  | .sourceUnknown | .symbolUnknown => .badSymbol
  | .notOpen => .noSubscribers
  | .noResources | .noResponse | .invalidContent => .platform
  | .other _ => .ok

structure RsslAckMsg where
  ackId : ℕ
  nakCode : Option RsslNakCode
  text : Option String
  deriving DecidableEq, Repr

structure InboxMessage where
  inbox : ℕ
  msgStatus : MamaMsgStatus
  symbol : String
  deriving DecidableEq, Repr

/-- What `ProcessAck` does with a post it knows: the message to the reply's inbox, the call of `onError`
and whether it is logged as a nak. -/
structure AckReport where
  ackId : ℕ
  inboxMessage : Option InboxMessage
  onError : Option (NakStatus × String)
  nak : Bool
  deriving DecidableEq, Repr

namespace RsslAckMsg

def isNak (ack : RsslAckMsg) : Bool := ack.nakCode.getD .none ≠ .none

def report (cfg : PosterConfig) (ack : RsslAckMsg) (reply : Option PublisherPostMessageReply) : AckReport where
  ackId := ack.ackId
  inboxMessage :=
    match reply with
    | some r =>
      if r.inbox ≠ 0 ∧ cfg.sendAckMessages then
        some ⟨r.inbox, rsslNakCode2MamaMsgStatus (ack.nakCode.getD .none), cfg.symbol⟩
      else none
    | none => none
  onError :=
    if ack.isNak ∧ cfg.useCallbacks then
      some (rsslNakCode2MamaStatus (ack.nakCode.getD .none), ack.text.getD "")
    else none
  nak := ack.isNak

end RsslAckMsg

/-- What a response meets on its way to its handler: the suspect login and, for a post on the stream of a
subscription, the state of that subscription, `none` once its item is released. -/
structure Arrival where
  isInLoginSuspectState : Bool
  item : Option SubscriptionState
  deriving DecidableEq, Repr

namespace Posting

def processAck (cfg : PosterConfig) (s : Posting) (ack : RsslAckMsg)
    (reply : Option PublisherPostMessageReply) : Option AckReport × Posting :=
  if ack.ackId ∈ s.inFlightPosts then
    (some (ack.report cfg reply), { s with inFlightPosts := s.inFlightPosts.erase ack.ackId })
  else (none, s)

/-- An unknown id is only logged. -/
def processOffStreamResponse (cfg : PosterConfig) (s : Posting) (ack : RsslAckMsg) :
    Option AckReport × Posting :=
  match s.manager.removePost ack.ackId with
  | (some (_, reply), manager) => ({ s with manager := manager } : Posting).processAck cfg ack reply
  | (none, _) => (none, s)

/-- The subscription hands the ack of an on-stream post to the poster as the consumer does. -/
def processMarketPriceResponse (cfg : PosterConfig) (s : Posting) (item : SubscriptionState)
    (ack : RsslAckMsg) : Option AckReport × Posting :=
  if item = .inactive then (none, s) else s.processOffStreamResponse cfg ack

def processResponse (cfg : PosterConfig) (s : Posting) (arrival : Arrival) (ack : RsslAckMsg) :
    Option AckReport × Posting :=
  if arrival.isInLoginSuspectState then (none, s)
  else if cfg.postOnStream then
    match arrival.item with
    | some item => s.processMarketPriceResponse cfg item ack
    | none => (none, s)
  else s.processOffStreamResponse cfg ack

end Posting

structure PostRun where
  posting : Posting := {}
  answered : List (PosterRecord × RsslAckMsg) := []
  reports : List AckReport := []
  deriving DecidableEq, Repr

inductive PostEvent
  | post (c : PostCall)
  | answer (index : ℕ) (nakCode : Option RsslNakCode) (text : Option String) (arrival : Arrival)
  deriving DecidableEq, Repr

namespace PostRun

def answer (cfg : PosterConfig) (s : PostRun) (index : ℕ) (nakCode : Option RsslNakCode)
    (text : Option String) (arrival : Arrival) : PostRun :=
  match s.posting.unanswered[index]? with
  | none => s
  | some record =>
    let ack : RsslAckMsg := ⟨record.id, nakCode, text⟩
    let received : Posting := { s.posting with unanswered := s.posting.unanswered.eraseIdx index }
    let handled := received.processResponse cfg arrival ack
    ⟨handled.2, s.answered ++ [(record, ack)], s.reports ++ handled.1.toList⟩

def step (cfg : PosterConfig) (s : PostRun) : PostEvent → PostRun
  | .post c => { s with posting := c.step cfg s.posting }
  | .answer index nakCode text arrival => s.answer cfg index nakCode text arrival

structure Booked (cfg : PosterConfig) (s : PostRun) : Prop where
  listed : ∀ r ∈ s.posting.unanswered, r ∈ s.posting.manager.postList ∧ r.id ∈ s.posting.inFlightPosts
  managed : ∀ r ∈ s.posting.manager.postList, r ∈ s.posting.unanswered
  inFlight : ∀ id ∈ s.posting.inFlightPosts, ∃ r ∈ s.posting.unanswered, r.id = id
  reported : s.reports = s.answered.map fun a => a.2.report cfg a.1.reply

def Admissible (cfg : PosterConfig) (s : PostRun) : PostEvent → Prop
  | .post c => c.msgStatus = s.posting.lastMsgStatus ∧
      (c.build.getBuffer = true → c.build.Built ∧ c.build.written = true ∧
        ∀ r ∈ s.posting.unanswered, r.id ≠ s.posting.manager.getNextPostId.1)
  | .answer _ _ _ arrival => arrival.isInLoginSuspectState = false ∧
      (cfg.postOnStream = true → arrival.item ≠ none ∧ arrival.item ≠ some .inactive)

instance (cfg : PosterConfig) (s : PostRun) (e : PostEvent) : Decidable (Admissible cfg s e) := by
  unfold Admissible; split <;> infer_instance

theorem find_of_nodup {α β : Type} [DecidableEq β] {f : α → β} {l : List α} {i : ℕ} {r : α}
    (hn : (l.map f).Nodup) (hi : l[i]? = some r) :
    l.find? (f · == f r) = some r ∧ l.eraseP (f · == f r) = l.eraseIdx i := by
  induction l generalizing i with
  | nil => simp at hi
  | cons x l ih =>
    rw [List.map_cons, List.nodup_cons] at hn
    cases i with
    | zero =>
      obtain rfl : x = r := by simpa using hi
      simp
    | succ i =>
      have hmem : r ∈ l := List.mem_of_getElem? hi
      have hne : f x ≠ f r := fun h => hn.1 (h ▸ List.mem_map_of_mem hmem)
      obtain ⟨hfind, herase⟩ := ih hn.2 hi
      constructor
      · rw [List.find?_cons_of_neg (by simpa using hne), hfind]
      · rw [List.eraseP_cons_of_neg (by simpa using hne), herase]
        rfl

structure Kept (cfg : PosterConfig) (s : PostRun) : Prop where
  managed : s.posting.manager.postList = s.posting.unanswered
  inFlight : s.posting.inFlightPosts = s.posting.unanswered.map (·.id)
  nodup : (s.posting.unanswered.map (·.id)).Nodup
  reported : s.reports = s.answered.map fun a => a.2.report cfg a.1.reply

variable {cfg : PosterConfig} {s : PostRun}

theorem Kept.booked (h : Kept cfg s) : Booked cfg s where
  listed r hr := by
    rw [h.managed, h.inFlight]
    exact ⟨hr, List.mem_map_of_mem hr⟩
  managed r hr := h.managed ▸ hr
  inFlight id hid := by
    rw [h.inFlight] at hid
    exact List.mem_map.mp hid
  reported := h.reported

theorem Kept.post {c : PostCall} (h : Kept cfg s) (ha : Admissible cfg s (.post c)) :
    Kept cfg (s.step cfg (.post c)) := by
  obtain ⟨hsame, hbuilt⟩ := ha
  have hpost := PostCall.post_of_same cfg hsame
  cases hbuf : c.build.getBuffer with
  | false =>
    rw [Posting.postData_of_no_buffer hbuf] at hpost
    have hstep : s.step cfg (.post c) = s := by
      simp only [step, PostCall.step, hpost]
    rw [hstep]
    exact h
  | true =>
    obtain ⟨hb, hw, hfresh⟩ := hbuilt hbuf
    rw [Posting.postData_of_built hb, hw] at hpost
    have hstep : (s.step cfg (.post c)).posting = (c.post cfg s.posting).2 := rfl
    rw [hpost] at hstep
    refine ⟨?_, ?_, ?_, h.reported⟩
    · rw [hstep]
      show (s.posting.manager.addPost () c.reply).2.postList = s.posting.unanswered ++ _
      rw [UPAPostManager.addPost_postList, h.managed]
      rfl
    · rw [hstep]
      show s.posting.inFlightPosts ++ _ = (s.posting.unanswered ++ _).map _
      rw [h.inFlight, List.map_append]
      rfl
    · rw [hstep]
      show ((s.posting.unanswered ++ _).map _).Nodup
      rw [List.map_append, List.nodup_append]
      refine ⟨h.nodup, by simp, ?_⟩
      intro a hmem b hb'
      obtain ⟨r, hr, rfl⟩ := List.mem_map.mp hmem
      obtain rfl : b = (s.posting.addPost c.reply).1 := by simpa using hb'
      exact hfresh r hr

theorem Posting.processResponse_of_admissible {p : Posting} {arrival : Arrival}
    (ha : arrival.isInLoginSuspectState = false ∧
      (cfg.postOnStream = true → arrival.item ≠ none ∧ arrival.item ≠ some .inactive)) (ack : RsslAckMsg) :
    p.processResponse cfg arrival ack = p.processOffStreamResponse cfg ack := by
  unfold Posting.processResponse
  rw [ha.1, if_neg (by simp)]
  cases hon : cfg.postOnStream with
  | false => rw [if_neg (by simp)]
  | true =>
    obtain ⟨hsome, hactive⟩ := ha.2 hon
    rw [if_pos rfl]
    cases hitem : arrival.item with
    | none => exact absurd hitem hsome
    | some item =>
      have hne : item ≠ .inactive := fun h => hactive (h ▸ hitem)
      exact if_neg hne

variable (cfg) in
theorem Posting.processOffStreamResponse_of_listed {p : Posting} (ack : RsslAckMsg) {r : PosterRecord}
    (hfind : p.manager.postList.find? (·.id == ack.ackId) = some r) (hin : ack.ackId ∈ p.inFlightPosts) :
    p.processOffStreamResponse cfg ack =
      (some (ack.report cfg r.reply),
        { p with
          manager := { p.manager with postList := p.manager.postList.eraseP (·.id == ack.ackId) }
          inFlightPosts := p.inFlightPosts.erase ack.ackId }) := by
  have hremove : p.manager.removePost ack.ackId =
      (some (r.poster, r.reply), { p.manager with postList := p.manager.postList.eraseP (·.id == ack.ackId) }) := by
    rw [UPAPostManager.removePost_eq, hfind]
    rfl
  rw [Posting.processOffStreamResponse, hremove]
  exact if_pos hin

theorem Kept.answer {index : ℕ} {nakCode : Option RsslNakCode} {text : Option String} {arrival : Arrival}
    (h : Kept cfg s) (ha : Admissible cfg s (.answer index nakCode text arrival)) :
    Kept cfg (s.step cfg (.answer index nakCode text arrival)) := by
  cases hrecord : s.posting.unanswered[index]? with
  | none =>
    have hstep : s.step cfg (.answer index nakCode text arrival) = s := by
      simp only [step, PostRun.answer, hrecord]
    rw [hstep]
    exact h
  | some r =>
    obtain ⟨hfind, herase⟩ := find_of_nodup h.nodup hrecord
    have hids : s.posting.inFlightPosts.erase r.id = (s.posting.unanswered.eraseIdx index).map (·.id) := by
      rw [h.inFlight, List.erase_eq_eraseP', List.eraseP_map, ← herase]
      rfl
    have hhandled := Posting.processOffStreamResponse_of_listed cfg ⟨r.id, nakCode, text⟩
      (p := { s.posting with unanswered := s.posting.unanswered.eraseIdx index }) (r := r)
      (by rw [h.managed]; exact hfind)
      (by rw [h.inFlight]; exact List.mem_map_of_mem (List.mem_of_getElem? hrecord))
    rw [← Posting.processResponse_of_admissible ha] at hhandled
    have hstep : s.step cfg (.answer index nakCode text arrival) =
        s.answer cfg index nakCode text arrival := rfl
    simp only [PostRun.answer, hrecord, hhandled, h.managed, herase, hids] at hstep
    rw [hstep]
    refine ⟨rfl, rfl, ?_, ?_⟩
    · exact h.nodup.sublist ((List.eraseIdx_sublist _ _).map _)
    · simp [h.reported]

theorem Kept.step {e : PostEvent} (h : Kept cfg s) (ha : Admissible cfg s e) : Kept cfg (s.step cfg e) := by
  cases e with
  | post c => exact h.post ha
  | answer index nakCode text arrival => exact h.answer ha

/-- A status post is in the post manager's list only, so the list in flight lacks a post on the channel. -/
theorem status_post_unbooked :
    ¬ Runs.Always (step PostCall.exampleConfig) (Booked PostCall.exampleConfig) {}
      [.post (PostCall.staleCall ⟨0, true, 0, 0, 0, 0, 0, true⟩)] := by
  intro h
  have hlisted := h.2.listed ⟨0, (), none⟩ (by decide)
  exact absurd hlisted.2 (by decide)

theorem posts_booked (cfg : PosterConfig) (n : ℕ) (es : List PostEvent)
    (h : Runs.Guarded (step cfg) (Admissible cfg) { posting := { manager := { nextPostId := n } } } es) :
    Runs.Always (step cfg) (Booked cfg) { posting := { manager := { nextPostId := n } } } es :=
  (h.always (I := Kept cfg) (fun _ _ hk ha => hk.step ha) ⟨rfl, rfl, by simp, rfl⟩).mono
    fun _ hk => hk.booked

def freshCall (inbox : ℕ) (b : BuildOutcome) : PostCall :=
  ⟨⟨none, some .ok, none⟩, some ⟨"reply", inbox⟩, b, ⟨0, true, 0, 0, 0, 0, 0, true⟩⟩

theorem posts_booked_example :
    Runs.Always (step PostCall.exampleConfig) (Booked PostCall.exampleConfig) {}
      [.post (freshCall 5 PostCall.built), .post (freshCall 6 PostCall.built),
        .answer 1 (some .notOpen) none ⟨false, none⟩, .post (freshCall 7 { PostCall.built with getBuffer := false }),
        .answer 0 none none ⟨false, none⟩] :=
  posts_booked PostCall.exampleConfig 0 _ (by decide)

end PostRun

end RmdsBridge
