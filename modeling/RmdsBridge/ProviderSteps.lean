import RmdsBridge.ProviderRemovals

namespace RmdsBridge

namespace UPAProvider

variable {C : Type} [DecidableEq C] {p : UPAProvider C} {want : C → ℤ → Option String} {chnl : C}
  {streamId : ℤ} {symbol : String} {i : UPAPublisherItem C}

theorem addItem_item {src : RMDSPublisherSource C} (h : p.source = some src) (chnl : C) (streamId : ℤ)
    (symbol : String) :
    ∃ isNew p', p.addItem (some chnl) streamId symbol = some (isNew, p') ∧
      p'.stuck = p.stuck ∧ p'.channelDictionary = p.channelDictionary ∧ p'.closed = p.closed ∧
      ∀ symbol', p'.item symbol' =
        if symbol' = symbol then
          some (((p.item symbol).getD {}).addChannel chnl streamId)
        else p.item symbol' := by
  have hitem : p.item symbol = src.getItem symbol := by simp [item, h]
  simp only [addItem, h, Option.map_some, hitem]
  refine ⟨_, _, rfl, rfl, rfl, rfl, fun symbol' => ?_⟩
  simp only [item, h, Option.bind_some, RMDSPublisherSource.addItem]
  cases hi : src.getItem symbol with
  | none =>
    simp only [RMDSPublisherSource.setItem, RMDSPublisherSource.getItem, UnorderedMap.find_insert]
    rfl
  | some i =>
    simp only [RMDSPublisherSource.setItem, RMDSPublisherSource.getItem, UnorderedMap.find_insert,
      Option.elim_some, Option.getD_some]

theorem addItem_spec {src : RMDSPublisherSource C} (h : p.source = some src) (chnl : C) (streamId : ℤ)
    (symbol : String) :
    ∃ isNew p', p.addItem (some chnl) streamId symbol = some (isNew, p') ∧
      p'.stuck = p.stuck ∧ p'.channelDictionary = p.channelDictionary ∧ p'.closed = p.closed ∧
      (∀ symbol', p.hasChannels symbol' = true → p'.hasChannels symbol' = true) ∧
      (p.Full → p'.Full) ∧
      ∀ symbol' c, p'.streams symbol' c =
        if symbol' = symbol ∧ c = chnl then p.streams symbol chnl ++ [streamId]
        else p.streams symbol' c := by
  obtain ⟨isNew, p', ha, hstuck, hdict, hclosed, hitem⟩ := addItem_item h chnl streamId symbol
  refine ⟨isNew, p', ha, hstuck, hdict, hclosed, ?_, ?_, ?_⟩
  · intro symbol' hs
    simp only [hasChannels, hitem] at hs ⊢
    split_ifs
    · exact UPAPublisherItem.hasChannels_of_find (UnorderedMap.find_insert_self _ _ _)
    · exact hs
  · intro hfull symbol' i hi c
    rw [hitem] at hi
    split_ifs at hi with hsym
    · cases hi
      simp only [UPAPublisherItem.addChannel, UnorderedMap.find_insert]
      split_ifs
      · simp
      · cases hp : p.item symbol with
        | none => simp
        | some i => exact hfull symbol i hp c
    · exact hfull symbol' i hi c
  · intro symbol' c
    simp only [streams, hitem]
    by_cases hsym : symbol' = symbol
    · subst hsym
      simp only [if_true, Option.map_some, Option.getD_some, UPAPublisherItem.streams,
        UPAPublisherItem.addChannel, UnorderedMap.find_insert, true_and]
      by_cases hc : c = chnl
      · subst hc
        cases p.item symbol' <;> simp
      · cases p.item symbol' <;> simp [hc]
    · simp [hsym]

theorem createPublisher_spec (p : UPAProvider C) (symbol : String) :
    (p.createPublisher symbol).stuck = p.stuck ∧
      (p.createPublisher symbol).channelDictionary = p.channelDictionary ∧
      (p.createPublisher symbol).closed = p.closed ∧
      ∀ symbol', (p.createPublisher symbol).item symbol' = p.item symbol' ∨
        (p.item symbol' = none ∧ (p.createPublisher symbol).item symbol' = some {}) := by
  cases hi : p.item symbol with
  | some i =>
    have he : p.createPublisher symbol = p := by simp only [createPublisher, hi]
    rw [he]
    exact ⟨rfl, rfl, rfl, fun _ => .inl rfl⟩
  | none =>
    cases hs : p.source with
    | none =>
      have he : p.createPublisher symbol = p := by
        simp only [createPublisher, hi, addItem, hs, Option.map_none, Option.elim_none]
      rw [he]
      exact ⟨rfl, rfl, rfl, fun _ => .inl rfl⟩
    | some src =>
      have hg : src.getItem symbol = none := by simpa [item, hs] using hi
      have he : p.createPublisher symbol = { p with source := some (src.setItem symbol {}) } := by
        simp only [createPublisher, hi, addItem, hs, Option.map_some, Option.elim_some,
          RMDSPublisherSource.addItem, hg]
        rfl
      rw [he]
      refine ⟨rfl, rfl, rfl, fun symbol' => ?_⟩
      simp only [item, hs, Option.bind_some, RMDSPublisherSource.setItem, RMDSPublisherSource.getItem,
        UnorderedMap.find_insert]
      split_ifs with hsym
      · subst hsym
        exact .inr ⟨hg, rfl⟩
      · exact .inl rfl

def Grows (p p' : UPAProvider C) : Prop :=
  p'.closed = p.closed ∧ ∀ symbol, p.hasChannels symbol = true → p'.hasChannels symbol = true

omit [DecidableEq C] in
theorem Grows.refl (p : UPAProvider C) : p.Grows p := ⟨rfl, fun _ => id⟩

omit [DecidableEq C] in
theorem Grows.count {p' : UPAProvider C} (h : p.Grows p') (symbol : String) :
    p'.closed.count symbol =
      p.closed.count symbol + if p.hasChannels symbol && !p'.hasChannels symbol then 1 else 0 := by
  rw [h.1]
  cases hp : p.hasChannels symbol with
  | false => simp
  | true => simp [h.2 symbol hp]

theorem createPublisher_grows (p : UPAProvider C) (symbol : String) :
    p.Grows (p.createPublisher symbol) := by
  obtain ⟨-, -, hclosed, hitem⟩ := p.createPublisher_spec symbol
  refine ⟨hclosed, fun symbol' hs => ?_⟩
  rcases hitem symbol' with he | ⟨hn, -⟩
  · simpa [hasChannels, he] using hs
  · simp [hasChannels, hn] at hs

theorem processRequest_grows (p : UPAProvider C) (chnl : C) (streamId : ℤ) (symbol : String) :
    p.Grows (p.processRequest chnl streamId symbol) := by
  cases hs : p.source with
  | none =>
    simp only [processRequest, addItem, hs, Option.map_none]
    exact .refl p
  | some src =>
    obtain ⟨isNew, p', ha, -, -, hclosed, hgrows, -⟩ := addItem_spec hs chnl streamId symbol
    simp only [processRequest, ha]
    cases p'.channelDictionary.find chnl with
    | none => exact ⟨hclosed, hgrows⟩
    | some m => exact ⟨hclosed, hgrows⟩

theorem processClose_closes (p : UPAProvider C) (chnl : C) (streamId : ℤ) :
    p.Closes (p.processClose chnl streamId) := by
  simp only [processClose]
  cases p.channelDictionary.find chnl with
  | none => exact .refl p
  | some m =>
    dsimp only
    cases m.find streamId with
    | none => exact .refl p
    | some symbol => exact removeStream_closes { p with channelDictionary := _ } chnl streamId symbol

theorem shutdownClientConnection_closes (p : UPAProvider C) (chnl : C)
    (walk : List (Σ _ : ℤ, String)) : p.Closes (p.shutdownClientConnection chnl walk) := by
  have hw := p.removeStreams_closes chnl walk
  simp only [shutdownClientConnection]
  cases p.channelDictionary.find chnl with
  | none => exact .refl p
  | some m =>
    dsimp only
    split_ifs
    · exact hw
    · exact hw

theorem handle_closed (p : UPAProvider C) (e : ProviderEvent C) (symbol : String) :
    (p.handle e).closed.count symbol =
      p.closed.count symbol + if p.hasChannels symbol && !(p.handle e).hasChannels symbol then 1 else 0 := by
  cases e with
  | connected chnl => exact Grows.count ⟨rfl, fun _ => id⟩ symbol
  | disconnected chnl walk => exact (p.shutdownClientConnection_closes chnl walk symbol).2
  | item chnl msg =>
    cases msg with
    | request streamId symbol' => exact (p.processRequest_grows chnl streamId symbol').count symbol
    | close streamId => exact (p.processClose_closes chnl streamId symbol).2
    | post => exact (Closes.refl p symbol).2
    | other => exact (Closes.refl p symbol).2
  | createPublisher symbol' => exact (p.createPublisher_grows symbol').count symbol

theorem streamItem_of_insert {p' : UPAProvider C} {m : UnorderedMap ℤ String}
    (h : p'.channelDictionary = p.channelDictionary.insert chnl m) (c : C) (t : ℤ) :
    p'.streamItem c t = if c = chnl then m.find t else p.streamItem c t := by
  simp only [streamItem, streamIdMap, h, UnorderedMap.find_insert]
  split_ifs <;> rfl

theorem streamItem_of_find {m : UnorderedMap ℤ String} (h : p.channelDictionary.find chnl = some m)
    (t : ℤ) : p.streamItem chnl t = m.find t := by
  simp [streamItem, streamIdMap, h]

theorem processRequest_spec {src : RMDSPublisherSource C} (h : p.source = some src) (chnl : C)
    (streamId : ℤ) (symbol : String) :
    (p.processRequest chnl streamId symbol).stuck = p.stuck ∧
      (p.Full → (p.processRequest chnl streamId symbol).Full) ∧
      (∀ c, p.channelDictionary.find c = none →
        (p.processRequest chnl streamId symbol).channelDictionary.find c = none) ∧
      (∀ c t, (p.processRequest chnl streamId symbol).streamItem c t =
        if p.channelDictionary.find chnl ≠ none ∧ c = chnl ∧ t = streamId then some symbol
        else p.streamItem c t) ∧
      ∀ symbol' c, (p.processRequest chnl streamId symbol).streams symbol' c =
        if symbol' = symbol ∧ c = chnl then p.streams symbol chnl ++ [streamId]
        else p.streams symbol' c := by
  obtain ⟨isNew, p', ha, hstuck, hdict, -, -, hfull, hstreams⟩ := addItem_spec h chnl streamId symbol
  cases hm : p.channelDictionary.find chnl with
  | none =>
    have he : p.processRequest chnl streamId symbol = p' := by
      simp only [processRequest, ha, hdict, hm]
    rw [he, hdict]
    refine ⟨hstuck, hfull, fun _ => id, fun c t => ?_, hstreams⟩
    simp [streamItem, streamIdMap, hdict]
  | some m =>
    have he : p.processRequest chnl streamId symbol = requestItem { p' with
        channelDictionary := p.channelDictionary.insert chnl (m.insert streamId symbol) } symbol (!isNew) := by
      simp only [processRequest, ha, hdict, hm]
    rw [he]
    refine ⟨hstuck, hfull, fun c hc => ?_, fun c t => ?_, hstreams⟩
    · simp only [requestItem, UnorderedMap.find_insert]
      split_ifs with hcc
      · rw [hcc, hm] at hc
        cases hc
      · exact hc
    · rw [streamItem_of_insert (p := p) rfl, UnorderedMap.find_insert, ← streamItem_of_find hm]
      by_cases hc : c = chnl
      · subst hc
        simp
      · simp [hc]

theorem request_linked_iff {src : RMDSPublisherSource C} (h : p.source = some src)
    (hl : p.Linked p.streamItem) :
    (p.processRequest chnl streamId symbol).Linked (p.processRequest chnl streamId symbol).streamItem ↔
      p.channelDictionary.find chnl ≠ none ∧ p.streamItem chnl streamId = none := by
  obtain ⟨-, -, -, hitem, hstreams⟩ := processRequest_spec h chnl streamId symbol
  constructor
  · intro hl'
    have hold := hl chnl streamId
    have hnew := hl' chnl streamId
    simp only [hitem, hstreams] at hnew
    by_cases hk : p.channelDictionary.find chnl = none
    · have hs := hnew symbol
      have hnone : p.streamItem chnl streamId = none := by simp [streamItem, streamIdMap, hk]
      simp [hk, hnone] at hs
    · refine ⟨hk, ?_⟩
      cases hi : p.streamItem chnl streamId with
      | none => rfl
      | some symbol' =>
        have hs := hnew symbol'
        have hs' := hold symbol'
        rw [hi, if_pos rfl] at hs'
        by_cases hsym : symbol' = symbol
        · subst hsym
          simp [hk, hs'] at hs
        · simp [hk, hs', hsym, Ne.symm hsym] at hs
  · rintro ⟨hk, hnone⟩ c t symbol'
    have hold := hl c t symbol'
    simp only [hitem, hstreams, hk, ne_eq, not_false_eq_true, true_and]
    by_cases hc : c = chnl
    · subst hc
      by_cases ht : t = streamId
      · subst ht
        rw [hnone] at hold
        by_cases hsym : symbol' = symbol
        · subst hsym
          simpa using hold
        · simpa [hsym, Ne.symm hsym] using hold
      · by_cases hsym : symbol' = symbol
        · subst hsym
          simpa [ht, Ne.symm ht] using hold
        · simpa [ht, hsym] using hold
    · simpa [hc] using hold

theorem processClose_of_none (h : p.streamItem chnl streamId = none) : p.processClose chnl streamId = p := by
  cases hm : p.channelDictionary.find chnl with
  | none => simp only [processClose, hm]
  | some m => simp only [processClose, hm, (streamItem_of_find hm streamId).symm.trans h]

theorem processClose_of_some (h : p.streamItem chnl streamId = some symbol) :
    ∃ p₀ : UPAProvider C, p.processClose chnl streamId = p₀.removeStream chnl streamId symbol ∧
      p₀.streams = p.streams ∧ p₀.stuck = p.stuck ∧ (p.Full → p₀.Full) ∧
      (∀ c, p.channelDictionary.find c = none → p₀.channelDictionary.find c = none) ∧
      p₀.streamItem = fun c t => if c = chnl ∧ t = streamId then none else p.streamItem c t := by
  cases hm : p.channelDictionary.find chnl with
  | none => simp [streamItem, streamIdMap, hm] at h
  | some m =>
    refine ⟨{ p with channelDictionary := p.channelDictionary.insert chnl (m.erase streamId) },
      ?_, rfl, rfl, id, fun c hc => ?_, ?_⟩
    · simp only [processClose, hm, (streamItem_of_find hm streamId).symm.trans h]
    · simp only [UnorderedMap.find_insert]
      split_ifs with hcc
      · rw [hcc, hm] at hc
        cases hc
      · exact hc
    · funext c t
      rw [streamItem_of_insert (p := p) rfl, UnorderedMap.find_erase, ← streamItem_of_find hm]
      by_cases hc : c = chnl
      · subst hc
        simp
      · simp [hc]

theorem close_spec (hl : p.Linked p.streamItem) (h : p.streamItem chnl streamId = some symbol) :
    (∀ c, p.channelDictionary.find c = none →
        (p.processClose chnl streamId).channelDictionary.find c = none) ∧
      (((p.streams symbol chnl).head? = some streamId ∧ (p.processClose chnl streamId).stuck = p.stuck ∧
          (p.Full → (p.processClose chnl streamId).Full) ∧
          (p.processClose chnl streamId).Linked (p.processClose chnl streamId).streamItem) ∨
        ((p.streams symbol chnl).head? ≠ some streamId ∧
          ¬ (p.processClose chnl streamId).Linked (p.processClose chnl streamId).streamItem)) := by
  obtain ⟨p₀, he, hstreams, hstuck, hfull, hnone, hitem⟩ := processClose_of_some h
  have hcount := hl chnl streamId symbol
  rw [h, if_pos rfl] at hcount
  obtain ⟨s, rest, hs⟩ := hl.streams_eq_cons h
  have hs₀ : p₀.streams symbol chnl = s :: rest := by rw [hstreams, hs]
  rw [he, hs]
  by_cases hst : s = streamId
  · subst hst
    obtain ⟨-, hstuck', hdict, hfull'⟩ := removeStream_head hs₀
    have hl₀ : p₀.Linked p.streamItem := fun c t symbol' => by rw [hstreams]; exact hl c t symbol'
    have hlinked := hl₀.removeStream hs₀ h
    have hitem' : (p₀.removeStream chnl s symbol).streamItem = p₀.streamItem := by
      funext c t
      simp only [streamItem, streamIdMap, hdict]
    refine ⟨fun c hc => by rw [hdict]; exact hnone c hc, .inl ⟨rfl, hstuck'.trans hstuck,
      fun hf => hfull' (hfull hf), ?_⟩⟩
    rw [hitem', hitem]
    exact hlinked
  · rw [removeStream_stuck hs₀ hst]
    refine ⟨hnone, .inr ⟨by simpa using hst, fun hl' => ?_⟩⟩
    have hc := hl' chnl streamId symbol
    have hi : p₀.streamItem chnl streamId = none := by simp [hitem]
    change (p₀.streams symbol chnl).count streamId =
      if p₀.streamItem chnl streamId = some symbol then 1 else 0 at hc
    rw [hstreams, hcount, hi] at hc
    simp at hc

theorem shutdown_spec {m : UnorderedMap ℤ String} {walk : List (Σ _ : ℤ, String)}
    (hm : p.channelDictionary.find chnl = some m) (hl : p.Linked p.streamItem) (hfull : p.Full)
    (hstuck : p.stuck = false) (hw : walk.Perm m.entries) :
    ((∀ symbol, walkOf walk symbol = p.streams symbol chnl) ∧
        (p.shutdownClientConnection chnl walk).stuck = false ∧
        (p.shutdownClientConnection chnl walk).Full ∧
        (p.shutdownClientConnection chnl walk).channelDictionary = p.channelDictionary.erase chnl ∧
        (p.shutdownClientConnection chnl walk).Linked (p.shutdownClientConnection chnl walk).streamItem) ∨
      ((¬ ∀ symbol, walkOf walk symbol = p.streams symbol chnl) ∧
        ∃ symbol, (p.shutdownClientConnection chnl walk).streams symbol chnl ≠ []) := by
  have hkeys : walk.NodupKeys := (List.perm_nodupKeys hw).mpr m.nodupKeys
  have hwant : ∀ t, p.streamItem chnl t = walk.dlookup t := by
    intro t
    rw [streamItem_of_find hm]
    exact List.perm_dlookup t m.nodupKeys hw.symm
  have hrun : p.shutdownClientConnection chnl walk =
      if (p.removeStreams chnl walk).stuck then p.removeStreams chnl walk
      else { p.removeStreams chnl walk with
        channelDictionary := (p.removeStreams chnl walk).channelDictionary.erase chnl } := by
    simp only [shutdownClientConnection, hm]
  rcases removeStreams_spec walk hl hfull hstuck hkeys hwant with
    ⟨hall, hstuck', hfull', hdict, hlinked⟩ | ⟨hall, hstuck', hsome⟩
  · rw [hrun, hstuck', if_neg Bool.false_ne_true]
    refine .inl ⟨hall, hstuck', hfull', by rw [hdict], ?_⟩
    have hitem : streamItem { p.removeStreams chnl walk with
        channelDictionary := (p.removeStreams chnl walk).channelDictionary.erase chnl } =
        fun c t => if c = chnl then none else p.streamItem c t := by
      funext c t
      simp only [streamItem, streamIdMap, UnorderedMap.find_erase, hdict]
      split_ifs <;> rfl
    rw [hitem]
    exact hlinked
  · rw [hrun, hstuck', if_pos rfl]
    exact .inr ⟨hall, hsome⟩

end UPAProvider

end RmdsBridge
