import RmdsBridge.DictionaryLoaded
import RmdsBridge.DictionaryRequests

namespace RmdsBridge

def lastReply {Part : Type*} (es : List (DictionaryEvent Part)) : Option ℕ :=
  (es.filterMap fun e =>
    match e with
    | .setDictionaryReply i _ => some i
    | .requestDictionary _ | .dispatch _ | .respond _ => none).getLast?

/-- A dictionary that a part or a file was decoded into is initialised, and stays so. -/
structure RsslDictionaryApi.Initializes {Raw Part : Type*} (api : RsslDictionaryApi Raw Part) : Prop where
  decoded : ∀ kind raw p, (api.decode kind raw p).2 = true → api.isInitialized (api.decode kind raw p).1 = true
  kept : ∀ kind raw p, api.isInitialized raw = true → api.isInitialized (api.decode kind raw p).1 = true

namespace UPADictionary

variable {Raw Part : Type*} {api : RsslDictionaryApi Raw Part} {d : UPADictionary Raw}

theorem decodeStream_cases (api : RsslDictionaryApi Raw Part) (d : UPADictionary Raw) (i : ℤ) (c : Bool)
    (p : Part) :
    d.decodeStream api i c p = (d, some false) ∨
      ∃ kind, d.decodeStream api i c p = d.decodePart api kind c p := by
  unfold decodeStream
  split_ifs
  · exact .inr ⟨.fields, rfl⟩
  · exact .inr ⟨.enumTypes, rfl⟩
  · exact .inl rfl

theorem processDictionaryResponse_cases (api : RsslDictionaryApi Raw Part) (d : UPADictionary Raw)
    (m : DictionaryMsg Part) :
    ∃ streams, (d.processDictionaryResponse api m).1 = { d with streamId := streams } ∧
        (d.processDictionaryResponse api m).2 ≠ some true ∨
      ∃ kind c p, d.processDictionaryResponse api m =
        { d with streamId := streams }.decodePart api kind c p := by
  cases m with
  | refresh i c p =>
    simp only [processDictionaryResponse]
    split_ifs
    · cases api.extractDictionaryType p with
      | none => exact ⟨d.streamId, .inl ⟨rfl, by simp⟩⟩
      | some kind =>
        refine ⟨Function.update d.streamId kind i, ?_⟩
        rcases decodeStream_cases api { d with streamId := Function.update d.streamId kind i } i c p with
          h | ⟨k, h⟩
        · exact .inl (by simp [h])
        · exact .inr ⟨k, c, p, h⟩
    · refine ⟨d.streamId, ?_⟩
      rcases decodeStream_cases api d i c p with h | ⟨k, h⟩
      · exact .inl (by simp [h])
      · exact .inr ⟨k, c, p, h⟩
  | status => exact ⟨d.streamId, .inl ⟨rfl, by simp [processDictionaryResponse]⟩⟩
  | other => exact ⟨d.streamId, .inl ⟨rfl, by simp [processDictionaryResponse]⟩⟩

theorem isComplete_of_told {m : DictionaryMsg Part} (h : (d.processDictionaryResponse api m).2 = some true) :
    (d.processDictionaryResponse api m).1.isComplete api = true := by
  obtain ⟨streams, ⟨-, hne⟩ | ⟨kind, c, p, hr⟩⟩ := processDictionaryResponse_cases api d m
  · exact absurd h hne
  · rw [hr, decodePart_told] at h
    rw [hr]
    split_ifs at h with h1 h2
    · exact h2
    · simp at h

def LoadedInitialized (api : RsslDictionaryApi Raw Part) (d : UPADictionary Raw) : Prop :=
  ∀ kind, d.loaded kind = true → api.isInitialized d.rsslDictionary = true

theorem LoadedInitialized.process (hapi : api.Initializes) (h : d.LoadedInitialized api)
    (m : DictionaryMsg Part) : LoadedInitialized api (d.processDictionaryResponse api m).1 := by
  obtain ⟨streams, ⟨hr, -⟩ | ⟨kind, c, p, hr⟩⟩ := processDictionaryResponse_cases api d m
  · rw [hr]
    exact h
  · intro k hk
    rw [hr, decodePart_loaded, Bool.or_eq_true] at hk
    rw [hr, decodePart_rsslDictionary]
    rcases hk with hk | hk
    · exact hapi.kept kind _ p (h k hk)
    · simp only [PartOutcome.loads, Bool.and_eq_true] at hk
      exact hapi.decoded kind _ p hk.2

theorem LoadedInitialized.told (h : d.LoadedInitialized api) {m : DictionaryMsg Part}
    (hc : (d.processDictionaryResponse api m).1.isComplete api = true)
    (hnot : (d.processDictionaryResponse api m).2 ≠ some true) : d.isComplete api = true := by
  obtain ⟨streams, ⟨hr, -⟩ | ⟨kind, c, p, hr⟩⟩ := processDictionaryResponse_cases api d m
  · rw [hr] at hc
    exact hc
  · rw [hr] at hc hnot
    have hfail : (api.decode kind d.rsslDictionary p).2 = false := by
      by_contra hok
      rw [decodePart_told, if_pos (by simpa using hok), if_pos hc] at hnot
      exact hnot rfl
    have hl : ∀ k, d.loaded k = true := by
      intro k
      have hk : ({ d with streamId := streams }.decodePart api kind c p).1.loaded k = true := by
        simp only [isComplete, Bool.and_eq_true] at hc
        cases k
        exacts [hc.1.2, hc.2]
      rw [decodePart_loaded] at hk
      simpa [PartOutcome.loads, hfail] using hk
    simp [isComplete, hl, h .fields (hl .fields)]

end UPADictionary

namespace DictionarySession

variable {Raw Part : Type*} {api : RsslDictionaryApi Raw Part} {s : DictionarySession Raw}

theorem dictionaryUpdate_cases (s : DictionarySession Raw) (b : Bool) :
    s.dictionaryUpdate b = s ∨
      b = true ∧ s.sentDictionary = false ∧ ∃ i, s.dictionaryReply = some i ∧
        s.dictionaryUpdate b = { s with sentDictionary := true, sent := s.sent ++ [i] } := by
  unfold dictionaryUpdate
  cases hr : s.dictionaryReply with
  | none => exact .inl rfl
  | some i =>
    by_cases h : b = true ∧ ¬ s.sentDictionary = true
    · exact .inr ⟨h.1, by simpa using h.2, i, rfl, by simp [h]⟩
    · exact .inl (by simp only [h, if_false])

def Replies (api : RsslDictionaryApi Raw Part) (s t : DictionarySession Raw) : Prop :=
  (t.sentDictionary = s.sentDictionary ∧ t.sent = s.sent) ∨
    (s.sentDictionary = false ∧ t.sentDictionary = true ∧ t.isComplete api = true ∧
      t.dictionaryReply = s.dictionaryReply ∧ ∃ i, s.dictionaryReply = some i ∧ t.sent = s.sent ++ [i])

theorem Replies.dictionaryUpdate {t : DictionarySession Raw} (h1 : t.sentDictionary = s.sentDictionary)
    (h2 : t.sent = s.sent) (h3 : t.dictionaryReply = s.dictionaryReply) {b : Bool}
    (hb : b = true → t.isComplete api = true) : Replies api s (t.dictionaryUpdate b) := by
  rcases t.dictionaryUpdate_cases b with h | ⟨hbt, hs, i, hi, h⟩
  · exact .inl ⟨by rw [h, h1], by rw [h, h2]⟩
  · rw [h]
    exact .inr ⟨h1 ▸ hs, rfl, hb hbt, h3, i, h3 ▸ hi, by rw [h2]⟩

theorem replies_enqueue (s : DictionarySession Raw) (request : DictionaryRequest) (queued : Bool) :
    Replies api s (s.enqueue request queued) := by
  unfold enqueue
  split_ifs <;> exact .inl ⟨rfl, rfl⟩

theorem replies_step (api : RsslDictionaryApi Raw Part) (s : DictionarySession Raw)
    (e : DictionaryEvent Part) : Replies api s (s.step api e) := by
  cases e with
  | setDictionaryReply i queued =>
    exact .inl (by simp only [step, setDictionaryReply, enqueue]; split_ifs <;> exact ⟨rfl, rfl⟩)
  | requestDictionary queued =>
    simp only [step, requestDictionary]
    split_ifs with hc
    · exact .dictionaryUpdate rfl rfl rfl fun _ => hc
    · exact s.replies_enqueue _ _
  | dispatch sends =>
    simp only [step, dispatch]
    split
    · exact .inl ⟨rfl, rfl⟩
    · exact .inl ⟨rfl, rfl⟩
    · simp only [clientDictionaryRequest]
      split_ifs with hc
      · exact .dictionaryUpdate rfl rfl rfl fun _ => hc
      · exact .inl ⟨rfl, rfl⟩
  | respond m =>
    simp only [step, respond]
    cases ht : (s.upaDictionary.processDictionaryResponse api m).2 with
    | none => exact .inl ⟨rfl, rfl⟩
    | some b =>
      refine .dictionaryUpdate rfl rfl rfl fun hb => ?_
      exact UPADictionary.isComplete_of_told (by rw [ht, hb])

@[simp] theorem dictionaryUpdate_upaDictionary (s : DictionarySession Raw) (b : Bool) :
    (s.dictionaryUpdate b).upaDictionary = s.upaDictionary := by
  rcases s.dictionaryUpdate_cases b with h | ⟨-, -, i, -, h⟩ <;> rw [h]

@[simp] theorem dictionaryUpdate_dictionaryReply (s : DictionarySession Raw) (b : Bool) :
    (s.dictionaryUpdate b).dictionaryReply = s.dictionaryReply := by
  rcases s.dictionaryUpdate_cases b with h | ⟨-, -, i, -, h⟩ <;> rw [h]

theorem step_dictionaryReply (s : DictionarySession Raw) (e : DictionaryEvent Part) :
    (s.step api e).dictionaryReply =
      match e with
      | .setDictionaryReply i _ => some i
      | .requestDictionary _ | .dispatch _ | .respond _ => s.dictionaryReply := by
  cases e with
  | setDictionaryReply i queued => simp only [step, setDictionaryReply, enqueue]; split_ifs <;> rfl
  | requestDictionary queued =>
    simp only [step, requestDictionary, enqueue]
    split_ifs <;> simp
  | dispatch sends =>
    simp only [step, dispatch]
    split
    · rfl
    · rfl
    · simp only [clientDictionaryRequest]
      split_ifs <;> simp
  | respond m =>
    simp only [step, respond]
    cases (s.upaDictionary.processDictionaryResponse api m).2 with
    | none => rfl
    | some b => simp

def Owed (api : RsslDictionaryApi Raw Part) (s : DictionarySession Raw) : Prop :=
  s.dictionaryReply ≠ none → s.sentDictionary = false → s.isComplete api = true → .client ∈ s.requestQueue

theorem owed_dictionaryUpdate (t : DictionarySession Raw) : Owed api (t.dictionaryUpdate true) := by
  intro hr hs
  exfalso
  rw [dictionaryUpdate_dictionaryReply] at hr
  obtain ⟨i, hi⟩ := Option.ne_none_iff_exists'.mp hr
  unfold dictionaryUpdate at hs
  simp only [hi, true_and] at hs
  split_ifs at hs with h
  simp [hs] at h

theorem Owed.step (hinit : s.upaDictionary.LoadedInitialized api) (h : Owed api s)
    (e : DictionaryEvent Part) (he : ∀ i, e ≠ .setDictionaryReply i false) : Owed api (s.step api e) := by
  cases e with
  | setDictionaryReply i queued =>
    cases queued with
    | false => exact absurd rfl (he i)
    | true =>
      intro _ _ _
      simp [DictionarySession.step, setDictionaryReply, enqueue]
  | requestDictionary queued =>
    simp only [DictionarySession.step, requestDictionary]
    split_ifs with hc
    · exact owed_dictionaryUpdate s
    · intro _ _ hc'
      refine absurd ?_ hc
      rw [← hc', enqueue]
      split_ifs <;> rfl
  | dispatch sends =>
    simp only [DictionarySession.step, dispatch]
    split
    · exact h
    · rename_i rest hq
      intro hr hs hc
      simpa [hq] using h hr hs hc
    · simp only [clientDictionaryRequest]
      split_ifs with hc
      · exact owed_dictionaryUpdate _
      · exact fun _ _ hc' => absurd hc' hc
  | respond m =>
    simp only [DictionarySession.step, respond]
    by_cases ht : (s.upaDictionary.processDictionaryResponse api m).2 = some true
    · rw [ht]
      exact owed_dictionaryUpdate _
    · have hsame : Owed api { s with upaDictionary := (s.upaDictionary.processDictionaryResponse api m).1 } :=
        fun hr hs hc => h hr hs (hinit.told hc ht)
      cases hm : (s.upaDictionary.processDictionaryResponse api m).2 with
      | none => exact hsame
      | some b =>
        have hb : b = false := by
          cases b with
          | false => rfl
          | true => exact absurd hm ht
        rcases dictionaryUpdate_cases
          { s with upaDictionary := (s.upaDictionary.processDictionaryResponse api m).1 } b with hu | ⟨hbt, -⟩
        · simp only [Option.elim_some]
          rw [hu]
          exact hsame
        · rw [hb] at hbt
          exact absurd hbt (by decide)

theorem step_loadedInitialized (hapi : api.Initializes) (h : s.upaDictionary.LoadedInitialized api)
    (e : DictionaryEvent Part) : (s.step api e).upaDictionary.LoadedInitialized api := by
  cases e with
  | setDictionaryReply i queued =>
    simp only [step, setDictionaryReply, enqueue]
    split_ifs <;> exact h
  | requestDictionary queued =>
    simp only [step, requestDictionary, enqueue]
    split_ifs <;> simpa using h
  | dispatch sends =>
    simp only [step, dispatch]
    split
    · exact h
    · exact h
    · simp only [clientDictionaryRequest]
      split_ifs <;> simpa using h
  | respond m =>
    simp only [step, respond]
    cases (s.upaDictionary.processDictionaryResponse api m).2 with
    | none => exact h.process hapi m
    | some b =>
      simpa using h.process hapi m

theorem lastReply_concat (es : List (DictionaryEvent Part)) (e : DictionaryEvent Part) :
    lastReply (es ++ [e]) =
      match e with
      | .setDictionaryReply i _ => some i
      | .requestDictionary _ | .dispatch _ | .respond _ => lastReply es := by
  cases e <;> simp [lastReply]

structure Answering (api : RsslDictionaryApi Raw Part) (d : UPADictionary Raw)
    (es : List (DictionaryEvent Part)) (s : DictionarySession Raw) : Prop where
  reply : s.dictionaryReply = lastReply es
  unsent : s.sentDictionary = false → s.sent = []
  sent : s.sentDictionary = true → ∃ i pre, pre <+: es ∧ s.sent = [i] ∧ lastReply pre = some i ∧
    (Runs.run (step api) { upaDictionary := d } pre).isComplete api = true

theorem answering_run (api : RsslDictionaryApi Raw Part) (d : UPADictionary Raw)
    (es : List (DictionaryEvent Part)) :
    Answering api d es (Runs.run (step api) { upaDictionary := d } es) := by
  induction es using List.reverseRecOn with
  | nil => exact ⟨rfl, fun _ => rfl, fun h => absurd h (by simp)⟩
  | append_singleton es e ih =>
    have hrun : Runs.run (step api) { upaDictionary := d } (es ++ [e]) =
        (Runs.run (step api) { upaDictionary := d } es).step api e := Runs.run_append [e]
    have hreply : (Runs.run (step api) { upaDictionary := d } (es ++ [e])).dictionaryReply =
        lastReply (es ++ [e]) := by
      rw [hrun, step_dictionaryReply, lastReply_concat, ih.reply]
    rcases replies_step api (Runs.run (step api) { upaDictionary := d } es) e with
      ⟨h1, h2⟩ | ⟨h1, h2, hc, hr, i, hi, hsent⟩
    · rw [← hrun] at h1 h2
      refine ⟨hreply, fun h => h2.trans (ih.unsent (h1 ▸ h)), fun h => ?_⟩
      obtain ⟨i, pre, hpre, hs, hl, hcomp⟩ := ih.sent (h1 ▸ h)
      exact ⟨i, pre, hpre.trans (List.prefix_append es [e]), h2.trans hs, hl, hcomp⟩
    · rw [← hrun] at h2 hc hr hsent
      refine ⟨hreply, fun h => absurd (h2.symm.trans h) (by decide), fun _ => ?_⟩
      refine ⟨i, es ++ [e], List.prefix_refl _, ?_, ?_, hc⟩
      · rw [hsent, ih.unsent h1]
        rfl
      · rw [← hreply, hr, hi]

/-- One client at most ever gets the dictionary: the one whose reply was set last when it became known
to be complete. Nobody is forgotten while a reply can still go out. -/
theorem dictionary_reply_once (hapi : api.Initializes) {d : UPADictionary Raw} (hd : d.LoadedInitialized api)
    (es es' : List (DictionaryEvent Part)) :
    let s := Runs.run (step api) { upaDictionary := d } es
    s.sent.length ≤ 1 ∧ (s.sent ≠ [] → (Runs.run (step api) s es').sent = s.sent) ∧
      (∀ i ∈ s.sent, ∃ pre, pre <+: es ∧ lastReply pre = some i ∧
        (Runs.run (step api) { upaDictionary := d } pre).isComplete api = true) ∧
      ((∀ i, DictionaryEvent.setDictionaryReply i false ∉ es) → lastReply es ≠ none →
        s.isComplete api = true → .client ∉ s.requestQueue → s.sent.length = 1) := by
  intro s
  have h : Answering api d es s := answering_run api d es
  have hcases : s.sentDictionary = false ∧ s.sent = [] ∨ s.sentDictionary = true := by
    cases hs : s.sentDictionary with
    | false => exact .inl ⟨rfl, h.unsent hs⟩
    | true => exact .inr rfl
  refine ⟨?_, ?_, ?_, ?_⟩
  · rcases hcases with ⟨-, hs⟩ | hs
    · simp [hs]
    · obtain ⟨i, -, -, hi, -⟩ := h.sent hs
      simp [hi]
  · intro hne
    have hs : s.sentDictionary = true := by
      rcases hcases with ⟨-, hs⟩ | hs
      · exact absurd hs hne
      · exact hs
    have hkeep : ∀ (t : DictionarySession Raw) (e : DictionaryEvent Part),
        t.sentDictionary = true ∧ t.sent = s.sent →
          (t.step api e).sentDictionary = true ∧ (t.step api e).sent = s.sent := by
      intro t e ⟨ht, hts⟩
      rcases replies_step api t e with ⟨h1, h2⟩ | ⟨h1, -⟩
      · exact ⟨h1.trans ht, h2.trans hts⟩
      · rw [ht] at h1
        exact absurd h1 (by decide)
    exact (Runs.run_inv hkeep ⟨hs, rfl⟩).2
  · intro i hi
    rcases hcases with ⟨-, hs⟩ | hs
    · simp [hs] at hi
    · obtain ⟨j, pre, hpre, hj, hl, hc⟩ := h.sent hs
      obtain rfl : i = j := by simpa [hj] using hi
      exact ⟨pre, hpre, hl, hc⟩
  · intro hes hl hc hq
    have hguard : Runs.Guarded (step api) (fun _ e => ∀ i, e ≠ DictionaryEvent.setDictionaryReply i false)
        { upaDictionary := d } es :=
      Runs.Guarded.of_forall fun e he _ i hi => hes i (hi ▸ he)
    have howed : s.upaDictionary.LoadedInitialized api ∧ Owed api s := by
      refine hguard.run_inv (I := fun t => t.upaDictionary.LoadedInitialized api ∧ Owed api t)
        (fun t e ht he => ?_) ⟨hd, fun hne => absurd rfl hne⟩
      exact ⟨step_loadedInitialized hapi ht.1 e, ht.2.step ht.1 e he⟩
    rcases hcases with ⟨hs, -⟩ | hs
    · exact absurd (howed.2 (h.reply ▸ hl) hs hc) hq
    · obtain ⟨i, -, -, hi, -⟩ := h.sent hs
      simp [hi]

theorem numberedParts_initializes : UPADictionary.numberedParts.Initializes := by
  constructor <;> intro kind raw p _ <;> simp [UPADictionary.numberedParts]

def twoClients : List (DictionaryEvent (Option DictionaryKind × ℕ)) :=
  [.requestDictionary true, .setDictionaryReply 7 true, .dispatch fun _ => true, .dispatch fun _ => true,
    .setDictionaryReply 8 true, .respond (.refresh 3 true (some .fields, 1)),
    .respond (.refresh 4 true (some .enumTypes, 1))]

theorem dictionary_reply_once_late_client :
    (Runs.run (step UPADictionary.numberedParts)
      (Runs.run (step UPADictionary.numberedParts) { upaDictionary := { rsslDictionary := [] } } twoClients)
      [.dispatch fun _ => true, .setDictionaryReply 9 true, .dispatch fun _ => true]).sent = [8] := by
  have h := dictionary_reply_once (d := { rsslDictionary := [] }) numberedParts_initializes
    (fun _ h => absurd h (by simp)) twoClients
    [.dispatch fun _ => true, .setDictionaryReply 9 true, .dispatch fun _ => true]
  exact (h.2.1 (by decide)).trans (by decide)

end DictionarySession

end RmdsBridge
