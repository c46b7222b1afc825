import RmdsBridge.Listeners
import RmdsBridge.Registry
import RmdsBridge.Subscriber

namespace RmdsBridge

namespace RMDSSources

def entry (s : RMDSSources) (keyId : ℕ) (symbol : String) : Option ℕ :=
  (s.servicesMap.find keyId).bind fun src => src.subscriptions.find symbol

theorem entry_of_find {s : RMDSSources} {keyId : ℕ} {src : RMDSSource}
    (h : s.servicesMap.find keyId = some src) (symbol : String) :
    s.entry keyId symbol = src.subscriptions.find symbol := by
  unfold entry
  rw [h]
  rfl

theorem set_entry (s : RMDSSources) (keyId : ℕ) (src : RMDSSource) (keyId' : ℕ) (symbol : String) :
    (s.set keyId src).entry keyId' symbol =
      if keyId' = keyId then src.subscriptions.find symbol else s.entry keyId' symbol := by
  unfold entry set
  dsimp only
  rw [UnorderedMap.find_insert]
  split_ifs <;> rfl

theorem set_entry_same {s : RMDSSources} {keyId : ℕ} {src src' : RMDSSource}
    (h : s.servicesMap.find keyId = some src) (hs : src'.subscriptions = src.subscriptions) :
    (s.set keyId src').entry = s.entry := by
  funext keyId' symbol
  rw [set_entry]
  split_ifs with hk
  · rw [hk, hs, entry_of_find h]
  · rfl

theorem create_entry {s : RMDSSources} {keyId : ℕ} (h : s.servicesMap.find keyId = none)
    (keyName configDomain : String) : (s.create keyId keyName configDomain).entry = s.entry := by
  funext keyId' symbol
  unfold entry create
  dsimp only
  rw [UnorderedMap.find_insert]
  split_ifs with hk
  · rw [hk, h]
    exact UnorderedMap.find_empty symbol
  · rfl

theorem find_eq_some {s : RMDSSources} {keyName : String} {keyId : ℕ} {src : RMDSSource}
    (h : s.find keyName = some (keyId, src)) : s.servicesMap.find keyId = some src := by
  obtain ⟨keyId', -, h⟩ := Option.bind_eq_some_iff.mp h
  obtain ⟨src', hs, he⟩ := Option.map_eq_some_iff.mp h
  cases he
  exact hs

end RMDSSources

namespace RMDSSubscriber

variable {r r' r'' : RMDSSubscriber} {keyId u b : ℕ} {src : RMDSSource} {symbol : String}

def registry (r : RMDSSubscriber) : Registry ℕ String ℕ ℕ where
  entry := r.sources.entry
  owner u := r.upaSources[u]?
  listeners := r.consumer.listeners

theorem owner_length (r : RMDSSubscriber) : r.registry.owner r.upaSources.length = none :=
  List.getElem?_eq_none (le_refl _)

structure Still (r r' : RMDSSubscriber) : Prop where
  registry : r'.registry = r.registry
  bridges : r'.bridges = r.bridges
  pending : r'.pendingSubscriptions = r.pendingSubscriptions

theorem Still.refl (r : RMDSSubscriber) : r.Still r := ⟨rfl, rfl, rfl⟩

theorem Still.trans (h : r.Still r') (h' : r'.Still r'') : r.Still r'' :=
  ⟨h'.registry.trans h.registry, h'.bridges.trans h.bridges, h'.pending.trans h.pending⟩

theorem Still.of_sources {s : RMDSSources} (h : s.entry = r.sources.entry) :
    r.Still { r with sources := s } := ⟨Registry.ext h rfl rfl, rfl, rfl⟩

theorem call_still (r : RMDSSubscriber) {e : Event ℕ ℕ} (he : ¬ UPAConsumer.Relists e) :
    r.Still (r.call e) := ⟨Registry.ext rfl rfl (r.consumer.step_listeners he), rfl, rfl⟩

theorem foldl_still {α : Type} {f : RMDSSubscriber → α → RMDSSubscriber}
    (hf : ∀ (r : RMDSSubscriber) (a : α), r.Still (f r a)) (r : RMDSSubscriber) (as : List α) :
    r.Still (as.foldl f r) := by
  induction as generalizing r with
  | nil => exact .refl r
  | cons a as ih => exact (hf r a).trans (ih (f r a))

theorem callAll_still {e : ℕ → Event ℕ ℕ} (he : ∀ u, ¬ UPAConsumer.Relists (e u))
    (r : RMDSSubscriber) (src : RMDSSource) : r.Still (r.callAll src e) := by
  refine foldl_still (fun q x => ?_) r _
  exact call_still q (he x.2)

theorem callSources_still {e : ℕ → Event ℕ ℕ} (he : ∀ u, ¬ UPAConsumer.Relists (e u))
    (r : RMDSSubscriber) : r.Still (r.callSources e) := by
  refine foldl_still (fun q x => ?_) r _
  exact callAll_still he q x.2

theorem setAllStale_still (r : RMDSSubscriber) : r.Still r.setAllStale :=
  callSources_still (fun _ => id) r

theorem resubscribeAll_still (r : RMDSSubscriber) : r.Still r.resubscribeAll :=
  callSources_still (fun _ => id) r

theorem foldl_call {α : Type} {f : RMDSSubscriber → α → RMDSSubscriber}
    (hf : ∀ r a, ∃ c, f r a = { r with consumer := c }) (r : RMDSSubscriber) (as : List α) :
    ∃ c, as.foldl f r = { r with consumer := c } := by
  induction as generalizing r with
  | nil => exact ⟨r.consumer, rfl⟩
  | cons a as ih =>
    obtain ⟨c, hc⟩ := hf r a
    obtain ⟨c', hc'⟩ := ih { r with consumer := c }
    exact ⟨c', by rw [List.foldl_cons, hc, hc']⟩

theorem callAll_eq (r : RMDSSubscriber) (src : RMDSSource) (e : ℕ → Event ℕ ℕ) :
    r.callAll src e =
      { r with consumer := (src.subscriptions.values.map e).foldl UPAConsumer.step r.consumer } := by
  simp only [callAll, UnorderedMap.values]
  induction src.subscriptions.entries generalizing r with
  | nil => rfl
  | cons x xs ih => exact ih (r.call (e x.2))

theorem callSources_eq (r : RMDSSubscriber) (e : ℕ → Event ℕ ℕ) :
    ∃ c, r.callSources e = { r with consumer := c } := by
  apply foldl_call
  exact fun q x => ⟨_, q.callAll_eq x.2 e⟩

@[simp] theorem callSources_sources (r : RMDSSubscriber) (e : ℕ → Event ℕ ℕ) :
    (r.callSources e).sources = r.sources := by
  obtain ⟨c, hc⟩ := r.callSources_eq e
  rw [hc]

theorem connectionNotification_sources (r : RMDSSubscriber) (connected requestLogin : Bool) :
    (r.connectionNotification connected requestLogin).sources = r.sources := by
  cases connected with
  | true => rfl
  | false => cases hw : r.connected <;> simp [connectionNotification, setAllStale, hw]

theorem dictionaryUpdate_sources (r : RMDSSubscriber) (dictionaryComplete : Bool) :
    (r.dictionaryUpdate dictionaryComplete).sources = r.sources := by
  cases dictionaryComplete with
  | false => rfl
  | true => cases hr : r.recovering <;> simp [dictionaryUpdate, setLive, resubscribeAll, hr]

theorem setSourceState_still (r : RMDSSubscriber) (keyId : ℕ) (newState acceptConnections : Bool) :
    r.Still (r.setSourceState keyId newState acceptConnections) := by
  unfold setSourceState
  cases h : r.sources.servicesMap.find keyId with
  | none => exact .refl r
  | some src =>
    dsimp only
    set src' := { src with state := newState, acceptConnections := acceptConnections }
    have hset : r.Still { r with sources := r.sources.set keyId src' } :=
      .of_sources (RMDSSources.set_entry_same h rfl)
    split_ifs
    · exact hset.trans (callAll_still (fun _ => id) _ _)
    · exact hset.trans (callAll_still (fun _ => id) _ _)
    · exact hset

theorem updateOrCreate_still (r : RMDSSubscriber) (keyId : ℕ) (keyName : String)
    (state acceptConnections : Bool) :
    r.Still (r.updateOrCreate keyId keyName state acceptConnections) := by
  refine .trans ?_ (setSourceState_still _ keyId state acceptConnections)
  split_ifs with hk
  · exact .refl r
  · exact .of_sources (RMDSSources.create_entry (Option.not_isSome_iff_eq_none.mp hk) _ _)

theorem connectionNotification_still (r : RMDSSubscriber) (connected requestLogin : Bool) :
    r.Still (r.connectionNotification connected requestLogin) := by
  unfold connectionNotification
  dsimp only
  split_ifs
  · exact ⟨rfl, rfl, rfl⟩
  · exact ⟨rfl, rfl, rfl⟩
  · refine .trans ?_ (setAllStale_still _)
    exact ⟨rfl, rfl, rfl⟩
  · exact ⟨rfl, rfl, rfl⟩

theorem dictionaryUpdate_still (r : RMDSSubscriber) (dictionaryComplete : Bool) :
    r.Still (r.dictionaryUpdate dictionaryComplete) := by
  unfold dictionaryUpdate
  dsimp only
  split_ifs
  · refine .trans ?_ (resubscribeAll_still _)
    exact ⟨rfl, rfl, rfl⟩
  · exact ⟨rfl, rfl, rfl⟩
  · exact ⟨rfl, rfl, rfl⟩

theorem call_addListener (r : RMDSSubscriber) (u b : ℕ) :
    (r.call (.addListener u b)).registry =
      r.registry.setListeners u (r.registry.listeners u ++ [b]) :=
  Registry.ext rfl rfl (r.consumer.addListener_listeners u b)

theorem call_removeListener (r : RMDSSubscriber) (u b : ℕ) :
    (r.call (.removeListener u b)).registry =
      r.registry.setListeners u ((r.registry.listeners u).erase b) :=
  Registry.ext rfl rfl (r.consumer.removeListener_listeners u b)

theorem getElem?_concat_eq_update (ids : List ℕ) (keyId : ℕ) :
    (fun u => (ids ++ [keyId])[u]?) = Function.update (fun u => ids[u]?) ids.length (some keyId) := by
  funext u
  by_cases hu : u = ids.length
  · rw [hu, Function.update_self, List.getElem?_concat_length]
  · rw [Function.update_of_ne hu]
    rcases Nat.lt_or_gt_of_ne hu with hlt | hgt
    · rw [List.getElem?_append_left hlt]
    · rw [List.getElem?_eq_none (by simp; omega), List.getElem?_eq_none (by omega)]

theorem createSubscription_registry (ht : r.registry.Tidy) (keyId : ℕ) (symbol : String) :
    (r.createSubscription keyId symbol).2.registry =
      r.registry.own keyId r.upaSources.length := by
  have hnew : r.consumer.listeners r.upaSources.length = [] := ht.listeners_of_new r.owner_length
  refine Registry.ext rfl (getElem?_concat_eq_update _ _) ?_
  change (r.consumer.setSubscription _ _).listeners = r.consumer.listeners
  rw [UPAConsumer.listeners_update { symbol := symbol } rfl, ← hnew]
  exact Function.update_eq_self _ r.consumer.listeners

theorem set_setEntry (h : r.sources.servicesMap.find keyId = some src)
    {subs : UnorderedMap String ℕ} {o : Option ℕ}
    (hs : ∀ k, subs.find k = if k = symbol then o else src.subscriptions.find k) :
    (r.sources.set keyId { src with subscriptions := subs }).entry =
      r.registry.setEntry keyId symbol o := by
  funext keyId' k
  rw [RMDSSources.set_entry]
  change (if keyId' = keyId then subs.find k else _) = if keyId' = keyId ∧ k = symbol then o else _
  rw [hs]
  by_cases hk : keyId' = keyId
  · subst hk
    simp only [true_and, if_true]
    split_ifs
    · rfl
    · exact (RMDSSources.entry_of_find h k).symm
  · simp only [hk, false_and, if_false]
    rfl

theorem createUpaSub_registry (ht : r.registry.Tidy)
    (h : r.sources.servicesMap.find keyId = some src) (b : ℕ) (symbol : String) :
    (r.createUpaSub keyId src b symbol).registry =
      r.registry.create keyId symbol r.upaSources.length b := by
  set r₁ := (r.createSubscription keyId symbol).2
  set src' := { src with subscriptions := src.subscriptions.insert symbol r.upaSources.length }
  set r₂ := { r₁ with sources := r₁.sources.set keyId src' }
  set r₃ := r₂.call (.setDomain r.upaSources.length src.sourceDomain)
  set r₄ := r₃.call (.addListener r.upaSources.length b) with hr₄
  have hown : r₁.registry = r.registry.own keyId r.upaSources.length :=
    createSubscription_registry ht keyId symbol
  have hopen : (r.createUpaSub keyId src b symbol).registry = r₄.registry :=
    (r₄.call_still (e := .«open» r.upaSources.length) id).registry
  have hdomain : r₃.registry = r₂.registry := (r₂.call_still id).registry
  have hlisteners : r₂.registry.listeners = r.registry.listeners :=
    (congrArg Registry.listeners hown :)
  have hnew := ht.listeners_of_new r.owner_length
  rw [hopen, hr₄, call_addListener, hdomain]
  refine Registry.ext ?_ ?_ ?_
  · exact set_setEntry h fun k => UnorderedMap.find_insert ..
  · exact (congrArg Registry.owner hown :)
  · change Function.update r₂.registry.listeners _ (r₂.registry.listeners _ ++ [b]) = _
    rw [hlisteners, hnew]
    rfl

theorem joinUpaSub_registry (r : RMDSSubscriber) (u b : ℕ) :
    (r.joinUpaSub u b).registry =
      r.registry.setListeners u (r.registry.listeners u ++ [b]) := by
  rw [← call_addListener]
  unfold joinUpaSub
  dsimp only
  split_ifs
  · exact (call_still _ id).registry
  · rfl

theorem joinUpaSub_frame (r : RMDSSubscriber) (u b : ℕ) :
    (r.joinUpaSub u b).bridges = r.bridges ∧
      (r.joinUpaSub u b).pendingSubscriptions = r.pendingSubscriptions := by
  unfold joinUpaSub
  dsimp only
  split_ifs <;> exact ⟨rfl, rfl⟩

theorem leaveUpaSub_registry (h : r.sources.servicesMap.find keyId = some src) (u b : ℕ)
    (symbol : String) :
    (r.leaveUpaSub keyId src u b symbol).registry =
      if (r.registry.listeners u).erase b = [] then r.registry.drop keyId symbol u
      else r.registry.setListeners u ((r.registry.listeners u).erase b) := by
  have hr := r.call_removeListener u b
  have hl : ((r.call (.removeListener u b)).consumer.subscriptions u).listeners =
      (r.registry.listeners u).erase b :=
    (congrArg (fun q => Registry.listeners q u) hr).trans (Registry.setListeners_self _)
  unfold leaveUpaSub
  dsimp only
  rw [hl]
  split_ifs with he
  · have hclose := congrArg Registry.listeners
      ((r.call (.removeListener u b)).call_still (e := .close u) id).registry
    refine Registry.ext ?_ rfl ?_
    · exact set_setEntry (r := r) h fun k => UnorderedMap.find_erase ..
    · refine hclose.trans ((congrArg Registry.listeners hr).trans ?_)
      rw [he]
      rfl
  · exact hr

theorem leaveUpaSub_frame (r : RMDSSubscriber) (keyId : ℕ) (src : RMDSSource) (u b : ℕ)
    (symbol : String) :
    (r.leaveUpaSub keyId src u b symbol).bridges = r.bridges ∧
      (r.leaveUpaSub keyId src u b symbol).pendingSubscriptions = r.pendingSubscriptions := by
  unfold leaveUpaSub
  dsimp only
  split_ifs <;> exact ⟨rfl, rfl⟩

theorem addSubscriptionToSource_cases (r : RMDSSubscriber) (b : ℕ) (sub : RMDSBridgeSubscription) :
    (r.sources.find sub.sourceName = none ∧ r.Still (r.addSubscriptionToSource b sub)) ∨
      ∃ keyId src, r.sources.find sub.sourceName = some (keyId, src) ∧
        ((∃ u, src.subscriptions.find sub.symbol = some u ∧
            r.addSubscriptionToSource b sub = r.joinUpaSub u b) ∨
          (src.subscriptions.find sub.symbol = none ∧
            r.addSubscriptionToSource b sub = r.createUpaSub keyId src b sub.symbol)) := by
  unfold addSubscriptionToSource
  cases hs : r.sources.find sub.sourceName with
  | none => exact .inl ⟨rfl, ⟨rfl, rfl, rfl⟩⟩
  | some x =>
    refine .inr ⟨x.1, x.2, rfl, ?_⟩
    dsimp only
    cases hf : x.2.subscriptions.find sub.symbol with
    | none => exact .inr ⟨rfl, rfl⟩
    | some u => exact .inl ⟨u, rfl, rfl⟩

theorem removeSubscription_cases (r : RMDSSubscriber) (b : ℕ) (sub : RMDSBridgeSubscription) :
    (r.findSubscription sub.sourceName sub.symbol = none ∧ r.Still (r.removeSubscription b sub)) ∨
      ∃ keyId src u, r.findSubscription sub.sourceName sub.symbol = some u ∧
        r.sources.servicesMap.find keyId = some src ∧
        src.subscriptions.find sub.symbol = some u ∧
        r.removeSubscription b sub = r.leaveUpaSub keyId src u b sub.symbol := by
  unfold removeSubscription findSubscription
  cases hs : r.sources.find sub.sourceName with
  | none => exact .inl ⟨rfl, ⟨rfl, rfl, rfl⟩⟩
  | some x =>
    rw [Option.bind_some]
    dsimp only
    cases hf : x.2.subscriptions.find sub.symbol with
    | none => exact .inl ⟨rfl, .refl r⟩
    | some u => exact .inr ⟨x.1, x.2, u, rfl, RMDSSources.find_eq_some hs, hf, rfl⟩

theorem addSubscriptionToSource_frame (r : RMDSSubscriber) (b : ℕ) (sub : RMDSBridgeSubscription) :
    (r.addSubscriptionToSource b sub).bridges = r.bridges ∧
      (r.addSubscriptionToSource b sub).pendingSubscriptions = r.pendingSubscriptions := by
  rcases r.addSubscriptionToSource_cases b sub with ⟨-, hst⟩ | ⟨keyId, src, -, ⟨u, -, he⟩ | ⟨-, he⟩⟩
  · exact ⟨hst.bridges, hst.pending⟩
  · rw [he]
    exact r.joinUpaSub_frame u b
  · rw [he]
    exact ⟨rfl, rfl⟩

theorem removeSubscription_frame (r : RMDSSubscriber) (b : ℕ) (sub : RMDSBridgeSubscription) :
    (r.removeSubscription b sub).bridges = r.bridges ∧
      (r.removeSubscription b sub).pendingSubscriptions = r.pendingSubscriptions := by
  rcases r.removeSubscription_cases b sub with ⟨-, hst⟩ | ⟨keyId, src, u, -, -, -, he⟩
  · exact ⟨hst.bridges, hst.pending⟩
  · rw [he]
    exact r.leaveUpaSub_frame keyId src u b sub.symbol

theorem addSnapshotToSource_registry (ht : r.registry.Tidy) (snap : RMDSBridgeSnapshot) :
    (r.addSnapshotToSource snap).registry = r.registry ∨
      ∃ keyId, (r.addSnapshotToSource snap).registry = r.registry.own keyId r.upaSources.length := by
  unfold addSnapshotToSource
  cases r.sources.find snap.sourceName with
  | none => exact .inl rfl
  | some x =>
    set r' := (r.createSubscription x.1 snap.symbol).2
    have hset : (r'.call (.setDomain r.upaSources.length x.2.sourceDomain)).registry = r'.registry :=
      (r'.call_still id).registry
    have hsnap := ((r'.call (.setDomain r.upaSources.length x.2.sourceDomain)).call_still
      (e := .snapshot r.upaSources.length) id).registry
    exact .inr ⟨x.1, hsnap.trans (hset.trans (createSubscription_registry ht x.1 snap.symbol))⟩

theorem addSnapshotToSource_frame (r : RMDSSubscriber) (snap : RMDSBridgeSnapshot) :
    (r.addSnapshotToSource snap).bridges = r.bridges ∧
      (r.addSnapshotToSource snap).pendingSubscriptions = r.pendingSubscriptions := by
  unfold addSnapshotToSource
  cases r.sources.find snap.sourceName with
  | none => exact ⟨rfl, rfl⟩
  | some x => exact ⟨rfl, rfl⟩

theorem processPending_subscription {bs : List ℕ} {sub : RMDSBridgeSubscription}
    (hp : r.processing = .subscriptions) (hq : r.pendingSubscriptions = b :: bs)
    (hb : r.bridges[b]? = some sub) :
    r.processPending = addSubscriptionToSource { r with pendingSubscriptions := bs } b sub := by
  obtain ⟨_, _, _, _, _, bridges, _, _, _, _, _, _, _⟩ := r
  dsimp only at hp hq hb
  subst hp hq
  unfold processPending
  dsimp only
  rw [hb]

theorem processPending_cases (r : RMDSSubscriber) :
    r.Still r.processPending ∨
      (∃ b bs, r.processing = .subscriptions ∧ r.pendingSubscriptions = b :: bs ∧
        ((r.bridges[b]? = none ∧ r.processPending = { r with pendingSubscriptions := bs }) ∨
          ∃ sub, r.bridges[b]? = some sub ∧ r.processPending =
            addSubscriptionToSource { r with pendingSubscriptions := bs } b sub)) ∨
      ∃ snap snaps, r.processPending =
        addSnapshotToSource { r with pendingSnapshots := snaps } snap := by
  obtain ⟨_, _, _, _, _, bridges, _, _, _, subscriptions, snapshots, _, processing⟩ := r
  cases processing with
  | idle => exact .inl ⟨rfl, rfl, rfl⟩
  | subscriptions =>
    cases subscriptions with
    | nil => exact .inl ⟨rfl, rfl, rfl⟩
    | cons b bs =>
      refine .inr (.inl ⟨b, bs, rfl, rfl, ?_⟩)
      unfold processPending
      dsimp only
      cases bridges[b]? with
      | none => exact .inl ⟨rfl, rfl⟩
      | some sub => exact .inr ⟨sub, rfl, rfl⟩
  | snapshots =>
    cases snapshots with
    | nil => exact .inl ⟨rfl, rfl, rfl⟩
    | cons snap snaps => exact .inr (.inr ⟨snap, snaps, rfl⟩)

theorem addSubscriptionToSource_listeners (ht : r.registry.Tidy)
    (hb : ∀ u, b ∉ r.registry.listeners u) (sub : RMDSBridgeSubscription)
    (hs : r.sources.find sub.sourceName ≠ none) :
    (r.addSubscriptionToSource b sub).registry.Tidy ∧
      (∀ u, ∀ c ∈ (r.addSubscriptionToSource b sub).registry.listeners u,
        c = b ∨ c ∈ r.registry.listeners u) ∧
      ∃ u, b ∈ (r.addSubscriptionToSource b sub).registry.listeners u := by
  rcases r.addSubscriptionToSource_cases b sub with
    ⟨hn, -⟩ | ⟨keyId, src, hf, ⟨u, hu, he⟩ | ⟨hn, he⟩⟩
  · exact absurd hn hs
  · have hentry : r.registry.entry keyId sub.symbol = some u :=
      (RMDSSources.entry_of_find (RMDSSources.find_eq_some hf) sub.symbol).trans hu
    rw [he, joinUpaSub_registry]
    refine ⟨ht.setListeners (by simp) (ht.listeners_ne hentry) ?_, fun u' c hc => ?_, u, ?_⟩
    · refine List.nodup_append.mpr ⟨ht.once u, List.nodup_singleton b, fun c hc d hd hcd => ?_⟩
      rw [hcd, List.mem_singleton.mp hd] at hc
      exact hb u hc
    · by_cases hu' : u' = u
      · subst hu'
        rw [Registry.setListeners_self] at hc
        rcases List.mem_append.mp hc with hc | hc
        · exact .inr hc
        · exact .inl (List.mem_singleton.mp hc)
      · rw [Registry.setListeners_of_ne hu'] at hc
        exact .inr hc
    · rw [Registry.setListeners_self]
      exact List.mem_append_right _ (List.mem_singleton_self b)
  · have hsrc := RMDSSources.find_eq_some hf
    have hentry : r.registry.entry keyId sub.symbol = none :=
      (RMDSSources.entry_of_find hsrc sub.symbol).trans hn
    rw [he, createUpaSub_registry ht hsrc]
    refine ⟨ht.create hentry r.owner_length, fun u' c hc => ?_, r.upaSources.length, ?_⟩
    · by_cases hu' : u' = r.upaSources.length
      · subst hu'
        rw [Registry.create_listeners_self] at hc
        exact .inl (List.mem_singleton.mp hc)
      · rw [Registry.create_listeners_of_ne hu'] at hc
        exact .inr hc
    · rw [Registry.create_listeners_self]
      exact List.mem_singleton_self b

theorem removeSubscription_listeners (ht : r.registry.Tidy) (b : ℕ)
    (sub : RMDSBridgeSubscription) :
    (r.removeSubscription b sub).registry.Tidy ∧
      ∀ u, (r.removeSubscription b sub).registry.listeners u =
        if r.findSubscription sub.sourceName sub.symbol = some u then
          (r.registry.listeners u).erase b
        else r.registry.listeners u := by
  rcases r.removeSubscription_cases b sub with ⟨hn, hst⟩ | ⟨keyId, src, u, hf, hsrc, hu, he⟩
  · rw [hst.registry]
    refine ⟨ht, fun u => ?_⟩
    rw [hn, if_neg (by simp)]
  · have hentry : r.registry.entry keyId sub.symbol = some u :=
      (RMDSSources.entry_of_find hsrc sub.symbol).trans hu
    rw [he, hf, leaveUpaSub_registry hsrc]
    split_ifs with hl
    · refine ⟨ht.drop hentry, fun u' => ?_⟩
      split_ifs with hu'
      · rw [← Option.some.inj hu', hl]
        exact Registry.drop_listeners_self
      · exact Registry.drop_listeners_of_ne fun h => hu' (congrArg some h.symm)
    · refine ⟨ht.setListeners hl (ht.listeners_ne hentry) ((ht.once u).erase b), fun u' => ?_⟩
      split_ifs with hu'
      · rw [← Option.some.inj hu']
        exact Registry.setListeners_self _
      · exact Registry.setListeners_of_ne fun h => hu' (congrArg some h.symm)

end RMDSSubscriber

end RmdsBridge
