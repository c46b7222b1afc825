import RmdsBridge.FieldRefusals
import RmdsBridge.PublishMessage

namespace RmdsBridge

section

variable {W D T M C : Type} [DecidableEq C] {c : FieldConversions D T} {api : RsslFieldApi W D}
  {settings : ItemSettings} {s : PublishingProvider C W} {symbol : String} {walk : List (Σ _ : C, List ℤ)}
  {msg : MessageToPublish D T M} {buffer written : Bool}

namespace PublishingProvider

open UPAProvider

theorem Kept.first_open (h : s.Kept) (hs : s.CanSend symbol walk) {chnl : C} {streams : List ℤ}
    {rest : List (Σ _ : C, List ℤ)} (hw : walk = ⟨chnl, streams⟩ :: rest) :
    ∃ streamId, streams.head? = some streamId ∧ s.IsOpen symbol chnl streamId ∧
      s.watched.provider.streams symbol chnl = streams := by
  obtain ⟨-, i, hi, hperm⟩ := hs
  have hfind : i.channelMap.find chnl = some streams := by
    apply UnorderedMap.mem_entries_iff.mp
    rw [← hperm.mem_iff, hw]
    exact List.mem_cons_self
  have hstreams : s.watched.provider.streams symbol chnl = streams := by
    simp [UPAProvider.streams, hi, UPAPublisherItem.streams, hfind]
  obtain ⟨streamId, tail, rfl⟩ := List.exists_cons_of_ne_nil fun hnil =>
    h.watched.full symbol i hi chnl (hnil ▸ hfind)
  refine ⟨streamId, rfl, ?_, hstreams⟩
  have hcount := h.watched.linked chnl streamId symbol
  rw [hstreams, List.count_cons_self] at hcount
  by_contra hno
  unfold IsOpen at hno
  rw [if_neg hno] at hcount
  omega

theorem Kept.walk_eq_nil_iff (h : s.Kept) (hs : s.CanSend symbol walk) :
    walk = [] ↔ ∀ chnl streamId, ¬ s.IsOpen symbol chnl streamId := by
  constructor
  · rintro rfl chnl streamId hopen
    obtain ⟨-, i, hi, hperm⟩ := hs
    obtain ⟨t, rest, hstreams⟩ := h.watched.linked.streams_eq_cons hopen
    obtain ⟨j, hj, hfind⟩ := find_of_streams hstreams
    obtain rfl := Option.some.inj (hi.symm.trans hj)
    have hmem := hperm.mem_iff.mpr (UnorderedMap.mem_entries_iff.mpr hfind)
    cases hmem
  · intro hno
    cases walk with
    | nil => rfl
    | cons x rest =>
      obtain ⟨streamId, -, hopen, -⟩ := h.first_open hs rfl
      exact absurd hopen (hno x.1 streamId)

theorem Kept.publishMessage_cases (c : FieldConversions D T) (api : RsslFieldApi W D) (settings : ItemSettings)
    (msg : MessageToPublish D T M) (buffer written : Bool) (h : s.Kept) (hs : s.CanSend symbol walk) :
    (∃ status, status ≠ .ok ∧
        UPAPublisherItem.publishMessage c api settings symbol walk msg buffer written = some (status, none)) ∨
      ∃ chnl streamId fields, s.IsOpen symbol chnl streamId ∧
        UPAPublisherItem.publishMessage c api settings symbol walk msg buffer written = some (.ok, some (chnl,
          UPAPublisherItem.buildPublishMessage settings symbol msg.msgType streamId fields)) := by
  unfold UPAPublisherItem.publishMessage
  cases walk with
  | nil => exact .inl ⟨.notInitialised, nofun, rfl⟩
  | cons x rest =>
    obtain ⟨chnl, streams⟩ := x
    obtain ⟨streamId, hhead, hopen, -⟩ := h.first_open hs rfl
    dsimp only
    cases buffer with
    | false => exact .inl ⟨.noMem, nofun, rfl⟩
    | true =>
      rw [if_pos rfl, hhead, Option.map_some]
      cases settings.encoder.encode c api msg.fields with
      | none => exact .inl ⟨.notInitialised, nofun, rfl⟩
      | some fields =>
        cases written with
        | false => exact .inl ⟨.platform, nofun, rfl⟩
        | true => exact .inr ⟨chnl, streamId, fields, hopen, rfl⟩

theorem Kept.step {e : PublishingEvent C D T M} (h : s.Kept) (he : s.Admissible e) :
    (s.step c api settings e).Kept := by
  cases e with
  | provider e => exact ⟨h.watched.step he, h.defined⟩
  | send symbol walk msg buffer written =>
    unfold PublishingProvider.step
    dsimp only
    split_ifs
    · rcases h.publishMessage_cases c api settings msg buffer written he with
        ⟨status, hne, hr⟩ | ⟨chnl, streamId, fields, -, hr⟩
      · rw [hr]
        cases status <;> exact ⟨h.watched, h.defined⟩
      · rw [hr]
        exact ⟨h.watched, h.defined⟩
    · exact h

theorem Kept.run {es : List (PublishingEvent C D T M)} (sourceName : Option String)
    (h : Runs.Guarded (PublishingProvider.step c api settings) Admissible (start sourceName) es) :
    (Runs.run (PublishingProvider.step c api settings) (start sourceName) es).Kept :=
  h.run_inv (I := Kept) (fun _ _ hs he => hs.step he) ⟨WatchedProvider.start_kept sourceName, rfl⟩

theorem Kept.send_open (h : s.Kept) (hs : s.CanSend symbol walk) (hsubsc : msg.subscType.getD (-1) ≤ 0)
    (hopen : ∃ chnl streamId, s.IsOpen symbol chnl streamId) {fields : List (WireField W)}
    (hfields : settings.encoder.encode c api msg.fields = some fields) :
    ∃ chnl streamId, s.IsOpen symbol chnl streamId ∧
      (s.watched.provider.streams symbol chnl).head? = some streamId ∧
      s.step c api settings (.send symbol walk msg true true) = { s with
        sent := s.sent ++
          [(chnl, UPAPublisherItem.buildPublishMessage settings symbol msg.msgType streamId fields)] } := by
  cases walk with
  | nil =>
    obtain ⟨chnl, streamId, hopen⟩ := hopen
    exact absurd hopen ((h.walk_eq_nil_iff hs).mp rfl chnl streamId)
  | cons x rest =>
    obtain ⟨chnl, streams⟩ := x
    obtain ⟨streamId, hhead, hfirst, hstreams⟩ := h.first_open hs rfl
    refine ⟨chnl, streamId, hfirst, hstreams.symm ▸ hhead, ?_⟩
    simp [PublishingProvider.step, hsubsc, UPAPublisherItem.publishMessage, hhead, hfields, doPublishMessage]

theorem Kept.send_none (h : s.Kept) (hs : s.CanSend symbol walk) (hsubsc : msg.subscType.getD (-1) ≤ 0)
    (hno : ∀ chnl streamId, ¬ s.IsOpen symbol chnl streamId) :
    s.step c api settings (.send symbol walk msg buffer written) =
      { s with errors := s.errors ++ [.notInitialised] } := by
  obtain rfl := (h.walk_eq_nil_iff hs).mpr hno
  simp [PublishingProvider.step, hsubsc, UPAPublisherItem.publishMessage, doPublishMessage]

theorem Kept.step_sent {e : PublishingEvent C D T M} (h : s.Kept) (he : s.Admissible e) :
    (s.step c api settings e).sent = s.sent ∨ ∃ chnl msg symbol, s.IsOpen symbol chnl msg.streamId ∧
      (s.step c api settings e).sent = s.sent ++ [(chnl, msg)] := by
  cases e with
  | provider e => exact .inl rfl
  | send symbol walk msg buffer written =>
    unfold PublishingProvider.step
    dsimp only
    split_ifs
    · rcases h.publishMessage_cases c api settings msg buffer written he with
        ⟨status, hne, hr⟩ | ⟨chnl, streamId, fields, hopen, hr⟩
      · rw [hr]
        left
        cases status with
        | ok => exact absurd rfl hne
        | notInitialised | noMem | platform => exact List.append_nil _
      · rw [hr]
        refine .inr ⟨chnl, _, symbol, ?_, rfl⟩
        have hid : (UPAPublisherItem.buildPublishMessage settings symbol msg.msgType streamId fields).streamId =
            streamId := by
          unfold UPAPublisherItem.buildPublishMessage
          split <;> rfl
        rw [hid]
        exact hopen
    · exact .inl rfl

end PublishingProvider

namespace UPAProvider

variable {p : UPAProvider C} {chnl : C} {streamId : ℤ}

theorem removeStream_channelDictionary (p : UPAProvider C) (chnl : C) (streamId : ℤ) (symbol : String) :
    (p.removeStream chnl streamId symbol).channelDictionary = p.channelDictionary := by
  unfold removeStream
  split
  · rfl
  · split <;> rfl

theorem removeStreams_channelDictionary (p : UPAProvider C) (chnl : C) (walk : List (Σ _ : ℤ, String)) :
    (p.removeStreams chnl walk).channelDictionary = p.channelDictionary := by
  induction walk generalizing p with
  | nil => rfl
  | cons x walk ih =>
    unfold removeStreams
    dsimp only
    split_ifs
    · exact removeStream_channelDictionary p chnl x.1 x.2
    · exact (ih _).trans (removeStream_channelDictionary p chnl x.1 x.2)

theorem shutdown_channelDictionary (p : UPAProvider C) (chnl : C) (walk : List (Σ _ : ℤ, String)) :
    (p.shutdownClientConnection chnl walk).channelDictionary = p.channelDictionary ∨
      (p.shutdownClientConnection chnl walk).channelDictionary = p.channelDictionary.erase chnl := by
  have hdict := removeStreams_channelDictionary p chnl walk
  unfold shutdownClientConnection
  split
  · exact .inl rfl
  · dsimp only
    split_ifs
    · exact .inl hdict
    · exact .inr (congrArg (AList.erase chnl) hdict)

theorem processClose_streamItem (p : UPAProvider C) (c : C) (t : ℤ) : (p.processClose c t).streamItem =
    fun c' t' => if c' = c ∧ t' = t then none else p.streamItem c' t' := by
  cases h : p.streamItem c t with
  | none =>
    rw [processClose_of_none h]
    funext c' t'
    split_ifs with hct
    · rw [hct.1, hct.2, h]
    · rfl
  | some symbol =>
    obtain ⟨p₀, he, -, -, -, -, hitem⟩ := processClose_of_some h
    rw [he, ← hitem]
    funext c' t'
    simp only [streamItem, streamIdMap, removeStream_channelDictionary]

theorem streamItem_handle {e : ProviderEvent C} (h : p.streamItem chnl streamId = none)
    (he : ∀ symbol, e ≠ .item chnl (.request streamId symbol)) :
    (p.handle e).streamItem chnl streamId = none := by
  cases e with
  | connected c =>
    refine (streamItem_of_insert (p := p) rfl chnl streamId).trans ?_
    split_ifs
    · rfl
    · exact h
  | disconnected c walk =>
    simp only [handle, streamItem, streamIdMap] at h ⊢
    rcases shutdown_channelDictionary p c walk with hdict | hdict
    · rw [hdict]
      exact h
    · rw [hdict, UnorderedMap.find_erase]
      split_ifs
      · rfl
      · exact h
  | createPublisher symbol =>
    obtain ⟨-, hdict, -, -⟩ := p.createPublisher_spec symbol
    simpa only [handle, streamItem, streamIdMap, hdict] using h
  | item c r =>
    cases r with
    | request t symbol =>
      cases hs : p.source with
      | none =>
        have hsame : p.processRequest c t symbol = p := by
          simp only [processRequest, addItem, hs, Option.map_none]
        simpa only [handle, processItemRequest, hsame] using h
      | some src =>
        obtain ⟨-, -, -, hitem, -⟩ := processRequest_spec hs c t symbol
        simp only [handle, processItemRequest, hitem]
        split_ifs with hct
        · obtain ⟨-, rfl, rfl⟩ := hct
          exact absurd rfl (he symbol)
        · exact h
    | close t =>
      simp only [handle, processItemRequest, processClose_streamItem, h, ite_self]
    | post | other => exact h

end UPAProvider

namespace PublishingProvider

def sentOn (s : PublishingProvider C W) (chnl : C) (streamId : ℤ) : List (PublishedMsg W) :=
  (s.sent.filter fun m => m.1 = chnl ∧ m.2.streamId = streamId).map Prod.snd

theorem step_streamItem {e : PublishingEvent C D T M} {chnl : C} {streamId : ℤ}
    (h : s.watched.provider.streamItem chnl streamId = none)
    (he : ∀ symbol, e ≠ .provider (.item chnl (.request streamId symbol))) :
    (s.step c api settings e).watched.provider.streamItem chnl streamId = none := by
  cases e with
  | provider e =>
    change (s.watched.step e).provider.streamItem chnl streamId = none
    by_cases hp : s.watched.provider.Possible e
    · rw [(WatchedProvider.step_eq hp).1]
      exact UPAProvider.streamItem_handle h fun symbol heq => he symbol (congrArg _ heq)
    · simpa only [WatchedProvider.step, if_neg hp] using h
  | send symbol walk msg buffer written =>
    have hwatched : (s.step c api settings (.send symbol walk msg buffer written)).watched = s.watched := by
      unfold PublishingProvider.step
      dsimp only
      split_ifs
      · unfold doPublishMessage
        split <;> rfl
      · rfl
    rw [hwatched]
    exact h

theorem Kept.sentOn_run {es : List (PublishingEvent C D T M)} {chnl : C} {streamId : ℤ} (hk : s.Kept)
    (h : Runs.Guarded (PublishingProvider.step c api settings) Admissible s es)
    (hclosed : s.watched.provider.streamItem chnl streamId = none)
    (hes : ∀ symbol, .provider (.item chnl (.request streamId symbol)) ∉ es) :
    (Runs.run (PublishingProvider.step c api settings) s es).sentOn chnl streamId = s.sentOn chnl streamId := by
  induction es generalizing s with
  | nil => rfl
  | cons e es ih =>
    obtain ⟨he, hrest⟩ := h
    have hnext : (s.step c api settings e).watched.provider.streamItem chnl streamId = none :=
      step_streamItem hclosed fun symbol heq => hes symbol (heq ▸ List.mem_cons_self)
    rw [Runs.run_cons, ih (hk.step he) hrest hnext fun symbol hmem => hes symbol (List.mem_cons_of_mem _ hmem)]
    unfold sentOn
    rcases hk.step_sent he with hsent | ⟨chnl', msg, symbol, hopen, hsent⟩
    · rw [hsent]
    · have hne : ¬ (chnl' = chnl ∧ msg.streamId = streamId) := by
        rintro ⟨rfl, rfl⟩
        unfold IsOpen at hopen
        rw [hclosed] at hopen
        cases hopen
      rw [hsent, List.filter_append, List.filter_singleton, decide_eq_false hne, cond_false, List.append_nil]

theorem Kept.closed {e : ProviderEvent C} {chnl : C} {streamId : ℤ} (hk : s.Kept)
    (he : e = .item chnl (.close streamId) ∨ ∃ walk, e = .disconnected chnl walk)
    (hp : s.watched.provider.Possible e) (ha : s.watched.Admissible e) :
    (s.watched.step e).provider.streamItem chnl streamId = none := by
  obtain rfl | ⟨walk, rfl⟩ := he
  · rw [(WatchedProvider.step_eq hp).1]
    simp only [UPAProvider.handle, UPAProvider.processItemRequest, UPAProvider.processClose_streamItem, and_self,
      if_true]
  · have hgone := (hk.watched.step ha).apart chnl
      (by rw [WatchedProvider.shutDown_disconnected hp]; exact Finset.mem_insert_self chnl _)
    simp only [UPAProvider.streamItem, UPAProvider.streamIdMap, hgone, Option.getD_none, UnorderedMap.find_empty]

end PublishingProvider

open PublishingProvider

/-- In every run a message that is published goes to one open stream of its item, of however many there are,
and raises an error when there is none. -/
theorem published_to_one_stream (c : FieldConversions D T) (api : RsslFieldApi W D) (settings : ItemSettings)
    (sourceName : Option String) (es : List (PublishingEvent C D T M))
    (h : Runs.Guarded (PublishingProvider.step c api settings) PublishingProvider.Admissible (start sourceName) es)
    (symbol : String) (walk : List (Σ _ : C, List ℤ)) (msg : MessageToPublish D T M)
    (hs : (Runs.run (PublishingProvider.step c api settings) (start sourceName) es).CanSend symbol walk)
    (hsubsc : msg.subscType.getD (-1) ≤ 0) (fields : List (WireField W))
    (hfields : settings.encoder.encode c api msg.fields = some fields) :
    let s := Runs.run (PublishingProvider.step c api settings) (start sourceName) es
    let s' := s.step c api settings (.send symbol walk msg true true)
    s'.undefined = false ∧
      ((∃ chnl streamId, s.IsOpen symbol chnl streamId) → ∃ chnl streamId, s.IsOpen symbol chnl streamId ∧
        (s.watched.provider.streams symbol chnl).head? = some streamId ∧ s'.errors = s.errors ∧
        s'.sent = s.sent ++
          [(chnl, UPAPublisherItem.buildPublishMessage settings symbol msg.msgType streamId fields)]) ∧
      ((∀ chnl streamId, ¬ s.IsOpen symbol chnl streamId) →
        s'.sent = s.sent ∧ s'.errors = s.errors ++ [.notInitialised]) := by
  have hk := Kept.run sourceName h
  dsimp only
  refine ⟨(hk.step (e := .send symbol walk msg true true) hs).defined, fun hopen => ?_, fun hno => ?_⟩
  · obtain ⟨chnl, streamId, hfirst, hhead, hstep⟩ := hk.send_open hs hsubsc hopen hfields
    rw [hstep]
    exact ⟨chnl, streamId, hfirst, hhead, rfl, rfl⟩
  · rw [hk.send_none hs hsubsc hno]
    exact ⟨rfl, rfl⟩

def vodSettings : ItemSettings := ⟨1, true, plainEncoder⟩

def vodStep (s : PublishingProvider ℕ (PlainData ℤ)) (e : PublishingEvent ℕ ℤ PlainDateTime Unit) :
    PublishingProvider ℕ (PlainData ℤ) :=
  s.step plainFieldConversions (plainFieldApi ℤ) vodSettings e

def bidMessage : MessageToPublish ℤ PlainDateTime Unit := ⟨some .initial, none, [bidField]⟩

theorem image_to_one_client :
    let s := Runs.run vodStep (start (some "IDN"))
      [.provider (.connected 1), .provider (.item 1 (.request 7 "VOD")), .provider (.connected 2),
        .provider (.item 2 (.request 9 "VOD"))]
    ∃ chnl streamId, s.IsOpen "VOD" chnl streamId ∧
      (vodStep s (.send "VOD" [⟨2, [9]⟩, ⟨1, [7]⟩] bidMessage true true)).sent =
        [(chnl, ⟨true, true, some (1, "VOD"), streamId, [(22, .real (some ⟨101, .exponent0⟩))]⟩)] := by
  obtain ⟨-, hopen, -⟩ := published_to_one_stream plainFieldConversions (plainFieldApi ℤ) vodSettings (some "IDN")
    [.provider (.connected 1), .provider (.item 1 (.request 7 "VOD")), .provider (.connected 2),
      .provider (.item 2 (.request 9 "VOD"))]
    ⟨fun _ => trivial, fun _ _ => ⟨by decide, by decide⟩, fun _ => trivial, fun _ _ => ⟨by decide, by decide⟩, trivial⟩
    "VOD" [⟨2, [9]⟩, ⟨1, [7]⟩] bidMessage ⟨rfl, ⟨_, rfl, List.Perm.refl _⟩⟩ (by decide)
    [(22, .real (some ⟨101, .exponent0⟩))] rfl
  obtain ⟨chnl, streamId, hfirst, -, -, hsent⟩ := hopen ⟨1, 7, rfl⟩
  exact ⟨chnl, streamId, hfirst, hsent⟩

theorem closed_stream_silent (c : FieldConversions D T) (api : RsslFieldApi W D) (settings : ItemSettings)
    (sourceName : Option String) (es es' : List (PublishingEvent C D T M)) (chnl : C) (streamId : ℤ)
    (e : ProviderEvent C)
    (he : e = .item chnl (.close streamId) ∨ ∃ walk, e = .disconnected chnl walk)
    (h : Runs.Guarded (PublishingProvider.step c api settings) PublishingProvider.Admissible (start sourceName)
      (es ++ .provider e :: es'))
    (hp : (Runs.run (PublishingProvider.step c api settings) (start sourceName) es).watched.provider.Possible e)
    (hes : ∀ symbol, .provider (.item chnl (.request streamId symbol)) ∉ es') :
    (Runs.run (PublishingProvider.step c api settings) (start sourceName)
        (es ++ .provider e :: es')).sentOn chnl streamId =
      (Runs.run (PublishingProvider.step c api settings) (start sourceName) es).sentOn chnl streamId := by
  obtain ⟨hbefore, ha, hafter⟩ := h.append
  have hk := Kept.run sourceName hbefore
  rw [Runs.run_append, Runs.run_cons]
  exact (hk.step ha).sentOn_run hafter (hk.closed he hp ha) hes

/-- Two clients have the item; the first has had an image, and the one after its close goes to the other. -/
theorem closed_client_silent :
    (Runs.run vodStep (start (some "IDN"))
      [.provider (.connected 1), .provider (.item 1 (.request 7 "VOD")), .provider (.connected 2),
        .provider (.item 2 (.request 9 "VOD")), .send "VOD" [⟨1, [7]⟩, ⟨2, [9]⟩] bidMessage true true,
        .provider (.item 1 (.close 7)), .send "VOD" [⟨2, [9]⟩] bidMessage true true]).sentOn 1 7 =
      [⟨true, true, some (1, "VOD"), 7, [(22, .real (some ⟨101, .exponent0⟩))]⟩] :=
  (closed_stream_silent plainFieldConversions (plainFieldApi ℤ) vodSettings (some "IDN")
    [.provider (.connected 1), .provider (.item 1 (.request 7 "VOD")), .provider (.connected 2),
      .provider (.item 2 (.request 9 "VOD")), .send "VOD" [⟨1, [7]⟩, ⟨2, [9]⟩] bidMessage true true]
    [.send "VOD" [⟨2, [9]⟩] bidMessage true true] 1 7 (.item 1 (.close 7)) (.inl rfl)
    ⟨fun _ => trivial, fun _ _ => ⟨by decide, by decide⟩, fun _ => trivial, fun _ _ => ⟨by decide, by decide⟩,
      ⟨rfl, ⟨_, rfl, List.Perm.swap ..⟩⟩, fun _ symbol h => by cases h; rfl, ⟨rfl, ⟨_, rfl, List.Perm.refl _⟩⟩,
      trivial⟩ (by change _ = false; rfl) (by simp)).trans rfl

end

end RmdsBridge
