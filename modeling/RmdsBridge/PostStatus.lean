import RmdsBridge.BridgePoster
import RmdsBridge.Runs

namespace RmdsBridge

def PostPayload.status? : PostPayload → Option MamaMsgStatus
  | .refresh _ | .update => none
  | .status m _ _ => some m

def sentStatus (posts : List RsslPostMsg) : MamaMsgStatus :=
  posts.foldl (fun m p => p.payload.status?.getD m) .ok

theorem sentStatus_data {ds : List RsslPostMsg} (hd : ∀ d ∈ ds, d.payload.status? = none)
    (posts : List RsslPostMsg) : sentStatus (posts ++ ds) = sentStatus posts := by
  unfold sentStatus
  induction ds generalizing posts with
  | nil => simp
  | cons d ds ih =>
    have hhead : d.payload.status? = none := hd d (by simp)
    rw [List.append_cons, ih fun d' h => hd d' (List.mem_cons_of_mem _ h)]
    simp [hhead]

theorem sentStatus_status {p : RsslPostMsg} {m : MamaMsgStatus} (hp : p.payload.status? = some m)
    (posts : List RsslPostMsg) : sentStatus (posts ++ [p]) = m := by
  simp [sentStatus, hp]

namespace BuildOutcome

def Built (o : BuildOutcome) : Prop :=
  o.getBuffer = true ∧ .success ≤ o.hostByName ∧ .success ≤ o.setIteratorBuffer ∧
    .success ≤ o.encodeMsgInit ∧ o.encodeNonRWFInit = .success ∧ o.encodeFields = true ∧
    o.encodeNonRWFComplete = .success ∧ .success ≤ o.encodeMsgComplete

instance (o : BuildOutcome) : Decidable o.Built := by
  unfold Built; infer_instance

end BuildOutcome

namespace StatusOutcome

def Reliable (o : StatusOutcome) : Prop :=
  .success ≤ o.hostByName →
    o.getBuffer = true ∧ .success ≤ o.setIteratorBuffer ∧
      (.success ≤ o.encodeMsgInit →
        .success ≤ o.encodeStatusInit ∧ .success ≤ o.encodeStatusComplete ∧
          .success ≤ o.encodeMsgComplete ∧ o.written = true)

instance (o : StatusOutcome) : Decidable o.Reliable := by
  unfold Reliable; infer_instance

end StatusOutcome

namespace Posting

variable {cfg : PosterConfig} {s : Posting}

theorem buildPostMessage_of_built {o : BuildOutcome} (ho : o.Built) (msg : MamaMsg)
    (reply : Option PublisherPostMessageReply) :
    s.buildPostMessage cfg o msg reply =
      (some ⟨(s.addPost reply).1, !cfg.postOnStream, if cfg.useSeqNum then msg.seqNum else none,
        encodeMessageData msg⟩,
        { (s.addPost reply).2 with inFlightPosts := s.inFlightPosts ++ [(s.addPost reply).1] }) := by
  obtain ⟨-, h1, h2, h3, h4, h5, h6, h7⟩ := ho
  simp only [buildPostMessage]
  rw [if_neg (not_lt.mpr h1), if_neg (not_lt.mpr h2), if_neg (not_lt.mpr h3), if_neg (not_not.mpr h4),
    if_neg (not_not.mpr h5), if_neg (not_not.mpr h6), if_neg (not_lt.mpr h7)]
  rfl

theorem buildPostMessage_of_not_built {o : BuildOutcome} (hb : o.getBuffer = true) (ho : ¬ o.Built)
    (msg : MamaMsg) (reply : Option PublisherPostMessageReply) :
    s.buildPostMessage cfg o msg reply = (none, (s.addPost reply).2) := by
  simp only [buildPostMessage, ite_eq_left_iff]
  intro h1 h2 h3 h4 h5 h6 h7
  have hbuilt : o.Built :=
    ⟨hb, not_lt.mp h1, not_lt.mp h2, not_lt.mp h3, not_not.mp h4, not_not.mp h5, not_not.mp h6, not_lt.mp h7⟩
  exact absurd hbuilt ho

theorem postData_of_no_buffer {o : BuildOutcome} (hb : o.getBuffer = false) (msg : MamaMsg)
    (reply : Option PublisherPostMessageReply) : s.postData cfg o msg reply = (false, s) := by
  simp [postData, hb]

theorem postData_of_not_built {o : BuildOutcome} (hb : o.getBuffer = true) (ho : ¬ o.Built)
    (msg : MamaMsg) (reply : Option PublisherPostMessageReply) :
    s.postData cfg o msg reply = (false, (s.addPost reply).2) := by
  simp [postData, hb, buildPostMessage_of_not_built hb ho]

theorem postData_of_built {o : BuildOutcome} (ho : o.Built) (msg : MamaMsg)
    (reply : Option PublisherPostMessageReply) :
    s.postData cfg o msg reply =
      (true, ({ (s.addPost reply).2 with inFlightPosts := s.inFlightPosts ++ [(s.addPost reply).1] } :
        Posting).sendUPAMessage o.written ⟨(s.addPost reply).1, !cfg.postOnStream,
          if cfg.useSeqNum then msg.seqNum else none, encodeMessageData msg⟩ reply) := by
  simp [postData, ho.1, buildPostMessage_of_built ho]

theorem encodeMessageData_status? (msg : MamaMsg) : (encodeMessageData msg).status? = none := by
  unfold encodeMessageData
  split <;> rfl

theorem sendUPAMessage_channel (w : Bool) (post : RsslPostMsg) (reply : Option PublisherPostMessageReply) :
    (s.sendUPAMessage w post reply).channel = s.channel ++ if w then [post] else [] := by
  cases w <;> simp [sendUPAMessage]

@[simp] theorem sendUPAMessage_lastMsgStatus (w : Bool) (post : RsslPostMsg)
    (reply : Option PublisherPostMessageReply) :
    (s.sendUPAMessage w post reply).lastMsgStatus = s.lastMsgStatus := by
  cases w <;> rfl

variable (cfg) in
theorem postData_spec (o : BuildOutcome) (msg : MamaMsg) (reply : Option PublisherPostMessageReply) :
    ((s.postData cfg o msg reply).1 = true → o.Built) ∧
      (s.postData cfg o msg reply).2.lastMsgStatus = s.lastMsgStatus ∧
      ∃ ds : List RsslPostMsg, (∀ d ∈ ds, d.payload.status? = none) ∧
        (s.postData cfg o msg reply).2.channel = s.channel ++ ds := by
  by_cases ho : o.Built
  · rw [postData_of_built ho]
    refine ⟨fun _ => ho, ?_, _, ?_, sendUPAMessage_channel _ _ _⟩
    · rw [sendUPAMessage_lastMsgStatus]
      rfl
    · intro d hd
      cases hw : o.written with
      | false => simp [hw] at hd
      | true =>
        simp only [hw, if_true, List.mem_singleton] at hd
        rw [hd]
        exact encodeMessageData_status? msg
  · cases hb : o.getBuffer with
    | false =>
      rw [postData_of_no_buffer hb]
      exact ⟨by simp, rfl, [], by simp, by simp⟩
    | true =>
      rw [postData_of_not_built hb ho]
      exact ⟨by simp, rfl, [], by simp, by simp [addPost]⟩

variable (cfg) in
theorem postStatusMessage_reliable {o : StatusOutcome} (ho : o.Reliable) (m : MamaMsgStatus)
    (msg : MamaMsg) :
    ((s.postStatusMessage cfg o m msg).1 ≠ .success ∧
      (s.postStatusMessage cfg o m msg).2.lastMsgStatus = s.lastMsgStatus ∧
      (s.postStatusMessage cfg o m msg).2.channel = s.channel) ∨
    ((s.postStatusMessage cfg o m msg).1 = .success ∧
      (s.postStatusMessage cfg o m msg).2.lastMsgStatus = m ∧
      ∃ p : RsslPostMsg, p.payload.status? = some m ∧
        (s.postStatusMessage cfg o m msg).2.channel = s.channel ++ [p]) := by
  by_cases hhost : o.hostByName < .success
  · left
    have hret : setPostUserInfo o.hostByName ≠ .success := by
      rw [setPostUserInfo, if_pos hhost]
      exact hhost.ne
    simp only [postStatusMessage]
    rw [if_pos hret]
    exact ⟨hret, rfl, rfl⟩
  · obtain ⟨hbuf, hiter, hrest⟩ := ho (not_lt.mp hhost)
    have hret : ¬ setPostUserInfo o.hostByName ≠ .success := by
      rw [setPostUserInfo, if_neg hhost]
      simp
    have halloc : ¬¬ allocateEncoder o = true := by
      rw [allocateEncoder, if_neg (by simp [hbuf]), if_neg (not_lt.mpr hiter)]
      simp
    by_cases hinit : o.encodeMsgInit < .success
    · left
      have hstart : startEncoding o.encodeMsgInit ≠ .success := by
        rw [startEncoding, if_pos hinit]
        exact hinit.ne
      simp only [postStatusMessage]
      rw [if_neg hret, if_neg halloc, if_pos hstart]
      exact ⟨hstart, rfl, rfl⟩
    · right
      obtain ⟨h1, h2, h3, hw⟩ := hrest (not_lt.mp hinit)
      have hstart : ∀ r : RsslRet, .success ≤ r → startEncoding r = .success := fun r hr =>
        if_neg (not_lt.mpr hr)
      have hfinish : ∀ r : RsslRet, .success ≤ r → finishEncoding r = .success := fun r hr =>
        if_neg (not_lt.mpr hr)
      have hencode : ((s.addPost none).2.encodeStatusMessage o m msg).1 = .success := by
        simp only [encodeStatusMessage]
        rw [if_pos (hstart _ h1), hfinish _ h2]
      simp only [postStatusMessage]
      rw [if_neg hret, if_neg halloc, if_neg (not_not.mpr (hstart _ (not_lt.mp hinit))),
        if_neg (not_not.mpr hencode), if_neg (not_not.mpr (hfinish _ h3))]
      let post : RsslPostMsg := ⟨(s.addPost none).1, !cfg.postOnStream, msg.seqNum,
        ((s.addPost none).2.encodeStatusMessage o m msg).2.1⟩
      refine ⟨rfl, ?_, post, rfl, ?_⟩
      · rw [sendUPAMessage_lastMsgStatus]
        rfl
      · rw [sendUPAMessage_channel, if_pos hw]
        rfl

end Posting

structure PostCall where
  msg : MamaMsg
  reply : Option PublisherPostMessageReply
  build : BuildOutcome
  status : StatusOutcome
  deriving DecidableEq, Repr

namespace PostCall

def msgStatus (c : PostCall) : MamaMsgStatus := c.msg.msgStatus.getD .ok

def post (cfg : PosterConfig) (s : Posting) (c : PostCall) : Bool × Posting :=
  s.doPostMessage cfg c.build c.status c.msg c.reply

def step (cfg : PosterConfig) (s : Posting) (c : PostCall) : Posting := (c.post cfg s).2

def sent (cfg : PosterConfig) (s : Posting) (c : PostCall) : List RsslPostMsg :=
  (c.step cfg s).channel.drop s.channel.length

structure Tracked (cfg : PosterConfig) (s : Posting) (c : PostCall) : Prop where
  carried : (c.post cfg s).1 = true → sentStatus (c.step cfg s).channel = c.msgStatus
  before : sentStatus s.channel = .ok → c.msgStatus ≠ .ok → ∀ l d r, c.sent cfg s = l ++ d :: r →
    d.payload.status? = none → ∃ p ∈ l, p.payload.status? = some c.msgStatus
  after : sentStatus s.channel ≠ .ok → c.msgStatus = .ok → ∀ l p r, c.sent cfg s = l ++ p :: r →
    p.payload.status? = some .ok → ∀ d ∈ r, d.payload.status? ≠ none

def Admissible (s : Posting) (c : PostCall) : Prop :=
  c.msgStatus ≠ s.lastMsgStatus → s.lastMsgStatus = .ok ∨ c.build.Built → c.status.Reliable

instance (s : Posting) (c : PostCall) : Decidable (Admissible s c) := by
  unfold Admissible; infer_instance

variable {cfg : PosterConfig} {s : Posting} {c : PostCall}

theorem sent_eq {posts : List RsslPostMsg} (h : (c.step cfg s).channel = s.channel ++ posts) :
    c.sent cfg s = posts := by
  simp [sent, h]

variable (cfg) in
theorem post_of_same (hm : c.msgStatus = s.lastMsgStatus) :
    c.post cfg s = s.postData cfg c.build c.msg c.reply := by
  unfold post Posting.doPostMessage
  rw [if_neg (fun h => h.1 hm)]
  cases hdata : s.postData cfg c.build c.msg c.reply with
  | mk b t =>
    cases b with
    | false => rfl
    | true =>
      show (if ¬ true = true then (false, t)
        else if c.msgStatus ≠ s.lastMsgStatus ∧ t.lastMsgStatus ≠ .ok then _ else (true, t)) = (true, t)
      rw [if_neg (by simp), if_neg (fun h => h.1 hm)]

variable (cfg) in
theorem post_of_stale (hm : c.msgStatus ≠ s.lastMsgStatus) (hl : s.lastMsgStatus = .ok) :
    c.post cfg s =
      if (s.postStatusMessage cfg c.status c.msgStatus c.msg).1 ≠ .success then
        (false, (s.postStatusMessage cfg c.status c.msgStatus c.msg).2)
      else (s.postStatusMessage cfg c.status c.msgStatus c.msg).2.postData cfg c.build c.msg c.reply :=
  if_pos ⟨hm, hl⟩

variable (cfg) in
theorem post_of_changed (hm : c.msgStatus ≠ s.lastMsgStatus) (hl : s.lastMsgStatus ≠ .ok) :
    c.post cfg s =
      if ¬ (s.postData cfg c.build c.msg c.reply).1 then (false, (s.postData cfg c.build c.msg c.reply).2)
      else
        let s' := (s.postData cfg c.build c.msg c.reply).2
        if (s'.postStatusMessage cfg c.status c.msgStatus c.msg).1 ≠ .success then
          (false, (s'.postStatusMessage cfg c.status c.msgStatus c.msg).2)
        else (true, (s'.postStatusMessage cfg c.status c.msgStatus c.msg).2) := by
  have hlast : (s.postData cfg c.build c.msg c.reply).2.lastMsgStatus ≠ .ok := by
    rw [(Posting.postData_spec cfg c.build c.msg c.reply).2.1]
    exact hl
  unfold post Posting.doPostMessage
  rw [if_neg (fun h => hl h.2)]
  dsimp only
  congr 1
  exact if_pos ⟨hm, hlast⟩

def Kept (s : Posting) : Prop := s.lastMsgStatus = sentStatus s.channel

theorem step_same (hm : c.msgStatus = s.lastMsgStatus) (hk : Kept s) :
    Kept (c.step cfg s) ∧ c.Tracked cfg s := by
  obtain ⟨-, hlast, ds, hds, hch⟩ := Posting.postData_spec (s := s) cfg c.build c.msg c.reply
  rw [← post_of_same cfg hm] at hlast hch
  have hsent : sentStatus (c.step cfg s).channel = sentStatus s.channel := by
    rw [step, hch, sentStatus_data hds]
  have hcarried : sentStatus (c.step cfg s).channel = c.msgStatus := by
    rw [hsent, hm, hk]
  refine ⟨hlast.trans (hk.trans hsent.symm), fun _ => hcarried, ?_, ?_⟩
  · intro hok hne
    exact absurd (hcarried.symm.trans (hsent.trans hok)) hne
  · intro hne hok
    exact absurd (hsent.symm.trans (hcarried.trans hok)) hne

theorem step_stale (hm : c.msgStatus ≠ s.lastMsgStatus) (hl : s.lastMsgStatus = .ok) (hk : Kept s)
    (ho : c.status.Reliable) : Kept (c.step cfg s) ∧ c.Tracked cfg s := by
  have hpost := post_of_stale cfg hm hl
  have hwas : sentStatus s.channel = .ok := hk.symm.trans hl
  obtain ⟨hret, hlast, hch⟩ | ⟨hret, hlast, p, hp, hch⟩ :=
    Posting.postStatusMessage_reliable (s := s) cfg ho c.msgStatus c.msg
  · rw [if_pos hret] at hpost
    have hstep : (c.step cfg s).channel = s.channel ++ [] := by
      rw [step, hpost, hch, List.append_nil]
    refine ⟨?_, ?_, ?_, fun hne => absurd hwas hne⟩
    · rw [Kept, hstep, List.append_nil, ← hk, step, hpost]
      exact hlast
    · intro htrue
      rw [hpost] at htrue
      cases htrue
    · intro _ _ l d r hsent
      rw [sent_eq hstep] at hsent
      simp at hsent
  · rw [if_neg (not_not.mpr hret)] at hpost
    obtain ⟨-, hlast', ds, hds, hch'⟩ := Posting.postData_spec
      (s := (s.postStatusMessage cfg c.status c.msgStatus c.msg).2) cfg c.build c.msg c.reply
    rw [← hpost] at hlast' hch'
    have hstep : (c.step cfg s).channel = s.channel ++ (p :: ds) := by
      rw [step, hch', hch, List.append_assoc]
      rfl
    have hcarried : sentStatus (c.step cfg s).channel = c.msgStatus := by
      rw [step, hch', sentStatus_data hds, hch, sentStatus_status hp]
    refine ⟨hlast'.trans (hlast.trans hcarried.symm), fun _ => hcarried, ?_, fun hne => absurd hwas hne⟩
    intro _ _ l d r hsent hd
    rw [sent_eq hstep] at hsent
    cases l with
    | nil =>
      obtain ⟨rfl, -⟩ := List.cons_eq_cons.mp hsent
      rw [hp] at hd
      cases hd
    | cons q l =>
      obtain ⟨rfl, -⟩ := List.cons_eq_cons.mp hsent
      exact ⟨p, by simp, hp⟩

theorem last_or_mem {α : Type} {l r ds : List α} {p q : α} (h : l ++ q :: r = ds ++ [p]) :
    r = [] ∨ q ∈ ds := by
  induction r using List.reverseRecOn with
  | nil => exact Or.inl rfl
  | append_singleton r x _ =>
    right
    have hsplit : (l ++ q :: r) ++ [x] = ds ++ [p] := by
      rw [← h, List.append_assoc, List.cons_append]
    rw [← (List.append_inj' hsplit rfl).1]
    simp

theorem step_changed (hm : c.msgStatus ≠ s.lastMsgStatus) (hl : s.lastMsgStatus ≠ .ok) (hk : Kept s)
    (ho : c.build.Built → c.status.Reliable) : Kept (c.step cfg s) ∧ c.Tracked cfg s := by
  have hpost := post_of_changed cfg hm hl
  have hwas : sentStatus s.channel ≠ .ok := fun h => hl (hk.trans h)
  obtain ⟨hbuilt, hlast, ds, hds, hch⟩ :=
    Posting.postData_spec (s := s) cfg c.build c.msg c.reply
  have hsame : sentStatus (s.channel ++ ds) = s.lastMsgStatus := by
    rw [sentStatus_data hds, hk]
  -- as long as only data is sent, nothing is owed when the call fails
  have hfailed : ∀ t : Posting, c.post cfg s = (false, t) → t.lastMsgStatus = s.lastMsgStatus →
      t.channel = s.channel ++ ds → Kept (c.step cfg s) ∧ c.Tracked cfg s := by
    intro t hfalse htl htc
    have hstep : (c.step cfg s).channel = s.channel ++ ds := by
      rw [step, hfalse, htc]
    refine ⟨?_, ?_, fun h => absurd h hwas, ?_⟩
    · rw [Kept, hstep, hsame, step, hfalse, htl]
    · intro htrue
      rw [hfalse] at htrue
      cases htrue
    · intro _ _ l p r hsent hp
      rw [sent_eq hstep] at hsent
      have hmem : p ∈ ds := by
        rw [hsent]
        simp
      rw [hds p hmem] at hp
      cases hp
  cases hdata : (s.postData cfg c.build c.msg c.reply).1 with
  | false =>
    rw [if_pos (by simp [hdata])] at hpost
    exact hfailed _ hpost hlast hch
  | true =>
    rw [if_neg (by simp [hdata])] at hpost
    dsimp only at hpost
    obtain ⟨hret, hlast', hch'⟩ | ⟨hret, hlast', p, hp, hch'⟩ :=
      Posting.postStatusMessage_reliable
        (s := (s.postData cfg c.build c.msg c.reply).2) cfg (ho (hbuilt hdata)) c.msgStatus c.msg
    · rw [if_pos hret] at hpost
      exact hfailed _ hpost (hlast'.trans hlast) (hch'.trans hch)
    · rw [if_neg (not_not.mpr hret)] at hpost
      have hstep : (c.step cfg s).channel = s.channel ++ (ds ++ [p]) := by
        rw [step, hpost, hch', hch, List.append_assoc]
      have hcarried : sentStatus (c.step cfg s).channel = c.msgStatus := by
        rw [hstep, ← List.append_assoc, sentStatus_status hp]
      refine ⟨?_, fun _ => hcarried, fun h => absurd h hwas, ?_⟩
      · rw [Kept, hcarried, step, hpost]
        exact hlast'
      · intro _ _ l q r hsent hq d hd
        rw [sent_eq hstep] at hsent
        obtain rfl | hmem := last_or_mem hsent.symm
        · cases hd
        · rw [hds q hmem] at hq
          cases hq

theorem Admissible.step (hk : Kept s) (ha : Admissible s c) :
    Kept (c.step cfg s) ∧ c.Tracked cfg s := by
  by_cases hm : c.msgStatus = s.lastMsgStatus
  · exact step_same hm hk
  · by_cases hl : s.lastMsgStatus = .ok
    · exact step_stale hm hl hk (ha hm (Or.inl hl))
    · exact step_changed hm hl hk fun hb => ha hm (Or.inr hb)

def exampleConfig : PosterConfig := ⟨"VOD.L", false, false, true, true⟩

def built : BuildOutcome := ⟨true, 0, 0, 0, 0, true, 0, 0, true⟩

def staleCall (o : StatusOutcome) : PostCall := ⟨⟨none, some .lineDown, none⟩, none, built, o⟩

/-- No buffer for the status post: `PostStatusMessage` returns the success of the step before it, the data
goes out and the call returns true, though no status was sent. -/
theorem status_without_buffer_untracked :
    ¬ Runs.Guarded (PostCall.step exampleConfig) (PostCall.Tracked exampleConfig) {}
      [staleCall ⟨0, false, 0, 0, 0, 0, 0, true⟩] := by
  intro h
  have hsame : sentStatus ((staleCall ⟨0, false, 0, 0, 0, 0, 0, true⟩).step exampleConfig {}).channel =
    .lineDown := h.1.carried (by decide)
  exact absurd hsame (by decide)

theorem status_tracked (cfg : PosterConfig) (m : PosterManager) (calls : List PostCall)
    (h : Runs.Guarded (PostCall.step cfg) Admissible { manager := m } calls) :
    Runs.Guarded (PostCall.step cfg) (PostCall.Tracked cfg) { manager := m } calls :=
  h.imp (I := Kept) (fun _ _ hk ha => (ha.step hk).1) (fun _ _ hk ha => (ha.step hk).2) rfl

theorem status_tracked_example :
    Runs.Guarded (PostCall.step exampleConfig) (PostCall.Tracked exampleConfig) {}
      [staleCall ⟨0, true, 0, 0, 0, 0, 0, true⟩, ⟨⟨some .refresh, none, some 7⟩, none, built,
        ⟨0, true, 0, 0, 0, 0, 0, true⟩⟩] :=
  status_tracked exampleConfig {} _ (by decide)

end PostCall

end RmdsBridge
