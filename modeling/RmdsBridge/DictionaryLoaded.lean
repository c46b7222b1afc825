import RmdsBridge.DictionaryDownload

namespace RmdsBridge

variable {Raw Part : Type*} {api : RsslDictionaryApi Raw Part} {kind : DictionaryKind} {i : ℤ} {c : Bool} {p : Part}
  {ms : List (DictionaryMsg Part)}

theorem partsOn_refresh (streamId : ℤ) :
    partsOn streamId (.refresh i c p :: ms) =
      if i = streamId then (c, p) :: partsOn streamId ms else partsOn streamId ms := by
  by_cases h : i = streamId <;> simp [partsOn, h]

@[simp] theorem partsOn_status (streamId : ℤ) :
    partsOn streamId (.status :: ms) = partsOn streamId ms := by
  simp [partsOn]

@[simp] theorem partsOn_other (streamId : ℤ) :
    partsOn streamId (.other :: ms) = partsOn streamId ms := by
  simp [partsOn]

namespace UPADictionary

variable {d : UPADictionary Raw}

def Steady (d : UPADictionary Raw) : Prop :=
  ∀ kind : DictionaryKind, d.streamId kind = 0 ∨ d.streamId kind = kind.requestStreamId

structure Expects (api : RsslDictionaryApi Raw Part) (d : UPADictionary Raw) (kind : DictionaryKind)
    (parts : List (Bool × Part)) : Prop where
  typed : d.streamId kind = 0 → ∀ p ∈ parts.head?, api.extractDictionaryType p.2 = some kind
  open_ : ∀ p ∈ parts.dropLast, p.1 = false
  unloaded : parts ≠ [] → d.loaded kind = false

theorem not_isComplete_of_unloaded (h : d.loaded kind = false) : d.isComplete api = false := by
  cases kind <;> simp [isComplete, h]

theorem decodeStream_request (hs : d.Steady) (hk : d.streamId kind = kind.requestStreamId) :
    d.decodeStream api kind.requestStreamId c p = d.decodePart api kind c p := by
  have hf := hs .fields
  cases kind with
  | fields => simp [decodeStream, hk]
  | enumTypes =>
    have hne : (DictionaryKind.enumTypes.requestStreamId : ℤ) ≠ d.streamId .fields := by
      rcases hf with hf | hf <;> rw [hf] <;> decide
    simp [decodeStream, hk, hne]

theorem Steady.ne_request (hs : d.Steady) (h0 : d.streamId kind = 0) (k : DictionaryKind) :
    kind.requestStreamId ≠ d.streamId k := by
  rcases hs k with hk | hk
  · rw [hk]
    exact kind.requestStreamId_ne_zero
  · intro h
    obtain rfl : kind = k := DictionaryKind.requestStreamId_inj.mp (h.trans hk)
    exact kind.requestStreamId_ne_zero (h.trans h0)

theorem Steady.update (hs : d.Steady) {v : ℤ} (hv : v = 0 ∨ v = kind.requestStreamId) :
    Steady { d with streamId := Function.update d.streamId kind v } := by
  intro k
  by_cases hk : k = kind
  · subst hk
    simpa using hv
  · simpa [Function.update_of_ne hk] using hs k

theorem processDictionaryResponse_request (hs : d.Steady)
    (ht : d.streamId kind = 0 → api.extractDictionaryType p = some kind) :
    d.processDictionaryResponse api (.refresh kind.requestStreamId c p) =
      { d with streamId := Function.update d.streamId kind kind.requestStreamId }.decodePart api kind c
        p := by
  rcases hs kind with h0 | hk
  · have hne := And.intro (hs.ne_request h0 .fields) (hs.ne_request h0 .enumTypes)
    simp only [processDictionaryResponse, hne, ne_eq, not_false_eq_true, and_self, if_true, ht h0]
    exact decodeStream_request (hs.update (.inr rfl)) (by simp)
  · have hsame : Function.update d.streamId kind kind.requestStreamId = d.streamId := by
      rw [← hk, Function.update_eq_self]
    have hnot : ¬ (kind.requestStreamId ≠ d.streamId .fields ∧
        kind.requestStreamId ≠ d.streamId .enumTypes) := by
      cases kind <;> simp [hk]
    rw [hsame, processDictionaryResponse, if_neg hnot]
    exact decodeStream_request hs hk

theorem decodePart_rsslDictionary :
    (d.decodePart api kind c p).1.rsslDictionary = (api.decode kind d.rsslDictionary p).1 := by
  simp only [decodePart]
  split_ifs <;> rfl

theorem decodePart_loaded (k : DictionaryKind) :
    (d.decodePart api kind c p).1.loaded k =
      (d.loaded k || PartOutcome.loads ⟨kind, c, (api.decode kind d.rsslDictionary p).2⟩ k) := by
  simp only [decodePart, PartOutcome.loads]
  by_cases hk : k = kind
  · subst hk
    split_ifs <;> simp_all
  · split_ifs <;> simp_all [Ne.symm hk]

theorem decodePart_streamId (k : DictionaryKind) :
    (d.decodePart api kind c p).1.streamId k =
      if PartOutcome.loads ⟨kind, c, (api.decode kind d.rsslDictionary p).2⟩ k then 0 else d.streamId k := by
  simp only [decodePart, PartOutcome.loads]
  by_cases hk : k = kind
  · subst hk
    split_ifs <;> simp_all
  · split_ifs <;> simp_all [Ne.symm hk]

theorem decodePart_told :
    (d.decodePart api kind c p).2 =
      if (api.decode kind d.rsslDictionary p).2 then
        if (d.decodePart api kind c p).1.isComplete api then some true else none
      else some false := by
  simp only [decodePart]
  split_ifs <;> simp_all

structure Awaits (api : RsslDictionaryApi Raw Part) (d : UPADictionary Raw)
    (ms : List (DictionaryMsg Part)) : Prop where
  steady : d.Steady
  onRequests : ∀ i c p, DictionaryMsg.refresh i c p ∈ ms → ∃ kind, i = DictionaryKind.requestStreamId kind
  expects : ∀ kind : DictionaryKind, Expects api d kind (partsOn kind.requestStreamId ms)

theorem Expects.next {parts : List (Bool × Part)} {d' : UPADictionary Raw}
    (h : Expects api d kind ((c, p) :: parts)) (hne : d'.streamId kind = 0 → c = true)
    (hl : c = false → d'.loaded kind = d.loaded kind) : Expects api d' kind parts := by
  cases hp : parts with
  | nil => exact ⟨by simp, by simp, by simp⟩
  | cons q qs =>
    have hc : c = false := h.open_ (c, p) (by simp [hp])
    refine ⟨fun h0 => ?_, fun r hr => ?_, fun _ => ?_⟩
    · rw [hc] at hne
      exact absurd (hne h0) (by decide)
    · exact h.open_ r (by simp [hp, hr])
    · rw [hl hc]
      exact h.unloaded (by simp)

theorem Expects.congr {parts : List (Bool × Part)} {d' : UPADictionary Raw} (h : Expects api d kind parts)
    (hs : d'.streamId kind = d.streamId kind) (hl : d'.loaded kind = d.loaded kind) :
    Expects api d' kind parts :=
  ⟨fun h0 => h.typed (hs ▸ h0), h.open_, fun hne => hl.trans (h.unloaded hne)⟩

theorem Awaits.process (h : Awaits api d (.refresh kind.requestStreamId c p :: ms)) :
    let r := d.processDictionaryResponse api (.refresh kind.requestStreamId c p)
    let out := api.decode kind d.rsslDictionary p
    Awaits api r.1 ms ∧ d.loaded kind = false ∧ r.1.rsslDictionary = out.1 ∧
      (∀ k, r.1.loaded k = (d.loaded k || PartOutcome.loads ⟨kind, c, out.2⟩ k)) ∧
      r.2 = if out.2 then if r.1.isComplete api then some true else none else some false := by
  intro r out
  have hhead := h.expects kind
  rw [partsOn_refresh, if_pos rfl] at hhead
  have hr : r = _ := processDictionaryResponse_request h.steady fun h0 => hhead.typed h0 (c, p) rfl
  have hstream : ∀ k, r.1.streamId k = if PartOutcome.loads ⟨kind, c, out.2⟩ k then 0
      else Function.update d.streamId kind kind.requestStreamId k := by
    intro k
    rw [hr]
    exact decodePart_streamId k
  have hloaded : ∀ k, r.1.loaded k = (d.loaded k || PartOutcome.loads ⟨kind, c, out.2⟩ k) := by
    intro k
    rw [hr]
    exact decodePart_loaded k
  refine ⟨⟨fun k => ?_, fun i c' p' hm => h.onRequests i c' p' (List.mem_cons_of_mem _ hm), fun k => ?_⟩,
    hhead.unloaded (by simp), ?_, hloaded, ?_⟩
  · rw [hstream k]
    split_ifs
    · exact .inl rfl
    · exact h.steady.update (.inr rfl) k
  · by_cases hk : k = kind
    · subst hk
      refine hhead.next (fun h0 => ?_) (fun hc => ?_)
      · rw [hstream k] at h0
        by_contra hc
        simp [PartOutcome.loads, hc] at h0
      · simp [hloaded, PartOutcome.loads, hc]
    · have hparts := h.expects k
      rw [partsOn_refresh, if_neg (fun he => hk (DictionaryKind.requestStreamId_inj.mp he).symm)] at hparts
      refine hparts.congr ?_ ?_
      · simp [hstream, PartOutcome.loads, Ne.symm hk, Function.update_of_ne hk]
      · simp [hloaded, PartOutcome.loads, Ne.symm hk]
  · rw [hr]
    exact decodePart_rsslDictionary
  · rw [hr]
    exact decodePart_told

theorem Awaits.tail {m : DictionaryMsg Part} (h : Awaits api d (m :: ms))
    (hm : ∀ i, partsOn i (m :: ms) = partsOn i ms) : Awaits api d ms :=
  ⟨h.steady, fun i c p hmem => h.onRequests i c p (List.mem_cons_of_mem _ hmem),
    fun k => hm k.requestStreamId ▸ h.expects k⟩

theorem Awaits.nothing_left (h : Awaits api d ms) (hc : d.isComplete api = true) :
    d.processResponses api ms = (d, []) ∧ receivedParts api d.rsslDictionary ms = (d.rsslDictionary, []) := by
  induction ms with
  | nil => exact ⟨rfl, rfl⟩
  | cons m ms ih =>
    cases m with
    | refresh i c p =>
      obtain ⟨kind, rfl⟩ := h.onRequests i c p (by simp)
      have hl := h.process.2.1
      rw [not_isComplete_of_unloaded hl] at hc
      exact absurd hc (by decide)
    | status =>
      obtain ⟨h1, h2⟩ := ih (h.tail fun i => partsOn_status i)
      simp [processResponses, processDictionaryResponse, receivedParts, h1, h2]
    | other =>
      obtain ⟨h1, h2⟩ := ih (h.tail fun i => partsOn_other i)
      simp [processResponses, processDictionaryResponse, receivedParts, h1, h2]

theorem Awaits.processResponses (h : Awaits api d ms) :
    let r := d.processResponses api ms
    let o := receivedParts api d.rsslDictionary ms
    r.1.Steady ∧ r.1.rsslDictionary = o.1 ∧
      (∀ k, r.1.loaded k = (d.loaded k || o.2.any fun o => o.loads k)) ∧
      (if d.isComplete api then [true] else []) ++ r.2 =
        failures o.2 ++ if r.1.isComplete api then [true] else [] := by
  induction ms generalizing d with
  | nil => exact ⟨h.steady, rfl, by simp [UPADictionary.processResponses, receivedParts], List.append_nil _⟩
  | cons m ms ih =>
    cases m with
    | refresh i c p =>
      obtain ⟨kind, rfl⟩ := h.onRequests i c p (by simp)
      obtain ⟨hnext, hun, hraw, hload, htold⟩ := h.process
      obtain ⟨ih1, ih2, ih3, ih4⟩ := ih hnext
      have hkind : (if kind.requestStreamId = 3 then DictionaryKind.fields else .enumTypes) = kind := by
        cases kind <;> rfl
      have hnot : d.isComplete api = false := not_isComplete_of_unloaded hun
      simp only [UPADictionary.processResponses, receivedParts, hkind, ← hraw, hnot]
      refine ⟨ih1, ih2, fun k => ?_, ?_⟩
      · rw [ih3 k, hload k, List.any_cons, Bool.or_assoc]
      · rw [htold]
        cases hout : (api.decode kind d.rsslDictionary p).2 with
        | false =>
          have hstill : (d.processDictionaryResponse api
              (.refresh kind.requestStreamId c p)).1.isComplete api = false := by
            refine not_isComplete_of_unloaded ((hload kind).trans ?_)
            simp [hun, PartOutcome.loads, hout]
          rw [if_neg (by simp [hstill]), List.nil_append] at ih4
          simp only [failures]
          exact congrArg (false :: ·) ih4
        | true =>
          by_cases hc : (d.processDictionaryResponse api
              (.refresh kind.requestStreamId c p)).1.isComplete api = true
          · obtain ⟨hr, ho⟩ := hnext.nothing_left hc
            simp [hr, ho, hc, failures]
          · rw [if_neg hc, List.nil_append] at ih4
            simp only [hc, Bool.false_eq_true, if_false, if_true]
            exact ih4
    | status => exact ih (h.tail fun i => partsOn_status i)
    | other => exact ih (h.tail fun i => partsOn_other i)

theorem loaded_of_mem_sendRequest {sends : DictionaryKind → Bool} (h : kind ∈ d.sendRequest sends) :
    d.loaded kind = false := by
  have hmem := (List.takeWhile_sublist _).mem h
  rcases List.mem_append.mp hmem with hk | hk <;> split_ifs at hk with hl <;>
    simp only [List.mem_singleton, List.not_mem_nil] at hk <;> subst hk <;> simpa using hl

theorem awaits_of_answers {sends : DictionaryKind → Bool} (hs : d.Steady)
    (h : Answers api (d.sendRequest sends) ms) : Awaits api d ms :=
  ⟨hs, h.onRequests, fun k => ⟨fun _ => (h.sends k).typed, (h.sends k).open_,
    fun hne => loaded_of_mem_sendRequest (h.requested k hne)⟩⟩

theorem receivedParts_append (raw : Raw) (ms ms' : List (DictionaryMsg Part)) :
    receivedParts api raw (ms ++ ms') =
      ((receivedParts api (receivedParts api raw ms).1 ms').1,
        (receivedParts api raw ms).2 ++ (receivedParts api (receivedParts api raw ms).1 ms').2) := by
  induction ms generalizing raw with
  | nil => rfl
  | cons m ms ih =>
    cases m with
    | refresh i c p => simp only [List.cons_append, receivedParts, ih]
    | status => simp only [List.cons_append, receivedParts, ih]
    | other => simp only [List.cons_append, receivedParts, ih]

def Answered (api : RsslDictionaryApi Raw Part) (d : UPADictionary Raw)
    (ms : List (DictionaryMsg Part)) : Prop :=
  ∃ sends, Answers api (d.sendRequest sends) ms

def afterConnection (api : RsslDictionaryApi Raw Part) (d : UPADictionary Raw)
    (ms : List (DictionaryMsg Part)) : UPADictionary Raw := (d.connection api ms).1

theorem Answered.connection (hs : d.Steady) (h : Answered api d ms) :
    let r := d.connection api ms
    let o := receivedParts api d.rsslDictionary ms
    r.1.Steady ∧ r.1.rsslDictionary = o.1 ∧ (∀ k, r.1.loaded k = (d.loaded k || o.2.any fun o => o.loads k)) ∧
      r.2 = failures o.2 ++ if r.1.isComplete api then [true] else [] := by
  obtain ⟨sends, h⟩ := h
  exact (awaits_of_answers hs h).processResponses

theorem run_connections {cs : List (List (DictionaryMsg Part))} (hs : d.Steady)
    (h : Runs.Guarded (afterConnection api) (Answered api) d cs) :
    let r := Runs.run (afterConnection api) d cs
    let o := receivedParts api d.rsslDictionary cs.flatten
    r.Steady ∧ r.rsslDictionary = o.1 ∧ ∀ k, r.loaded k = (d.loaded k || o.2.any fun o => o.loads k) := by
  induction cs generalizing d with
  | nil => exact ⟨hs, rfl, by simp [receivedParts]⟩
  | cons ms cs ih =>
    obtain ⟨hs', hraw, hload, -⟩ := h.1.connection hs
    obtain ⟨ih1, ih2, ih3⟩ := ih hs' h.2
    rw [List.flatten_cons, receivedParts_append, ← hraw]
    refine ⟨ih1, ih2, fun k => ?_⟩
    rw [List.any_append, ← Bool.or_assoc, ← hload k]
    exact ih3 k

theorem dictionary_downloads {cs : List (List (DictionaryMsg Part))} (hd : ∀ kind, d.streamId kind = 0)
    (h : Runs.Guarded (afterConnection api) (Answered api) d (cs ++ [ms])) :
    let d' := Runs.run (afterConnection api) d cs
    let r := d'.connection api ms
    let all := receivedParts api d.rsslDictionary (cs.flatten ++ ms)
    r.1.rsslDictionary = all.1 ∧ (∀ kind, r.1.loaded kind = (d.loaded kind || all.2.any fun o => o.loads kind)) ∧
      r.2 = failures (receivedParts api d'.rsslDictionary ms).2 ++
        if r.1.isComplete api then [true] else [] := by
  intro d' r all
  obtain ⟨hcs, hms, -⟩ := h.append
  obtain ⟨hs, hraw, hload⟩ := run_connections (fun kind => .inl (hd kind)) hcs
  obtain ⟨-, hr, hl, ht⟩ := hms.connection hs
  have hall : all = _ := receivedParts_append d.rsslDictionary cs.flatten ms
  rw [hraw] at hr hl
  refine ⟨hr.trans (by rw [hall]), fun kind => ?_, ht⟩
  rw [hall, List.any_append, ← Bool.or_assoc, ← hload kind]
  exact hl kind

def numberedParts : RsslDictionaryApi (List ℕ) (Option DictionaryKind × ℕ) where
  extractDictionaryType := Prod.fst
  decode _ raw p := (raw ++ [p.2], p.2 ≠ 0)
  isInitialized raw := !raw.isEmpty

def brokenOff : List (DictionaryMsg (Option DictionaryKind × ℕ)) := [.refresh 3 false (some .fields, 1)]

def interleaved : List (DictionaryMsg (Option DictionaryKind × ℕ)) :=
  [.refresh 4 false (some .enumTypes, 5), .refresh 3 false (some .fields, 1), .status,
    .refresh 3 false (none, 0), .refresh 4 true (none, 6), .refresh 3 true (none, 2)]

theorem answered_brokenOff : Answered numberedParts { rsslDictionary := [] } brokenOff := by
  refine ⟨fun _ => true, ⟨fun i c p h => ?_, fun kind => ?_, fun kind => ?_⟩⟩
  · simp only [brokenOff, List.mem_singleton, DictionaryMsg.refresh.injEq] at h
    exact ⟨.fields, h.1⟩
  · cases kind <;> constructor <;> decide
  · cases kind <;> decide

theorem answered_interleaved :
    Answered numberedParts (afterConnection numberedParts { rsslDictionary := [] } brokenOff)
      interleaved := by
  refine ⟨fun _ => true, ⟨fun i c p h => ?_, fun kind => ?_, fun kind => ?_⟩⟩
  · simp only [interleaved, List.mem_cons, DictionaryMsg.refresh.injEq, reduceCtorEq, List.not_mem_nil,
      or_false, false_or] at h
    rcases h with h | h | h | h | h
    exacts [⟨.enumTypes, h.1⟩, ⟨.fields, h.1⟩, ⟨.fields, h.1⟩, ⟨.enumTypes, h.1⟩, ⟨.fields, h.1⟩]
  · cases kind <;> constructor <;> decide
  · cases kind <;> decide

theorem dictionary_downloads_resumed :
    (connection numberedParts (Runs.run (afterConnection numberedParts) { rsslDictionary := [] } [brokenOff])
        interleaved).1.rsslDictionary = [1, 5, 1, 0, 6, 2] ∧
      (connection numberedParts (Runs.run (afterConnection numberedParts) { rsslDictionary := [] }
        [brokenOff]) interleaved).2 = [false, true] := by
  obtain ⟨hraw, -, htold⟩ := @dictionary_downloads _ _ numberedParts interleaved { rsslDictionary := [] }
    [brokenOff] (fun _ => rfl) ⟨answered_brokenOff, answered_interleaved, trivial⟩
  exact ⟨hraw.trans (by decide), htold.trans (by decide)⟩

end UPADictionary

end RmdsBridge
