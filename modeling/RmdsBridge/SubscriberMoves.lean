import Mathlib.Logic.Relation
import RmdsBridge.SubscriptionLeases
import RmdsBridge.Zombies

namespace RmdsBridge

namespace Registry

variable {S K U B : Type*} [DecidableEq S] [DecidableEq K] [DecidableEq U] {r : Registry S K U B}
  {s : S} {k : K} {u v : U}

omit [DecidableEq S] [DecidableEq K] in
theorem Tidy.listed_own (h : r.Tidy) (hu : r.owner u = none) (s : S) :
    (r.own s u).Listed v ↔ r.Listed v := ((h.own hu s).listed v).trans (h.listed v).symm

theorem Tidy.listed_create (h : r.Tidy) (he : r.entry s k = none) (hu : r.owner u = none) (b : B) :
    (r.create s k u b).Listed v ↔ v = u ∨ r.Listed v := by
  rw [(h.create he hu).listed, h.listed]
  by_cases hv : v = u
  · subst hv
    rw [create_listeners_self]
    simp
  · rw [create_listeners_of_ne hv]
    simp [hv]

theorem Tidy.listed_drop (h : r.Tidy) (he : r.entry s k = some u) :
    (r.drop s k u).Listed v ↔ v ≠ u ∧ r.Listed v := by
  rw [(h.drop he).listed, h.listed]
  by_cases hv : v = u
  · subst hv
    rw [drop_listeners_self]
    simp
  · rw [drop_listeners_of_ne hv]
    simp [hv]

end Registry

namespace RMDSSubscriber

variable {r r' r'' : RMDSSubscriber} {u keyId b : ℕ} {src : RMDSSource}

def newSubscription (c : UPAConsumer ℕ ℕ) (u : ℕ) (symbol : String) (domain : SubscriptionType) :
    UPAConsumer ℕ ℕ := (c.setSubscription u { symbol := symbol }).step (.setDomain u domain)

inductive Move (r r' : RMDSSubscriber) : Prop
  | quiet (hc : r'.consumer = r.consumer) (hn : r'.upaSources.length = r.upaSources.length)
    (hl : ∀ v, r'.registry.Listed v ↔ r.registry.Listed v)
  | asked {e ks} (u : ℕ) (hu : r.registry.Listed u) (he : UPAConsumer.asked e = some (u, ks))
    (hc : r'.consumer = r.consumer.step e) (hn : r'.upaSources.length = r.upaSources.length)
    (hl : ∀ v, r'.registry.Listed v ↔ r.registry.Listed v)
  | create (symbol domain b)
    (hc : r'.consumer = ((newSubscription r.consumer r.upaSources.length symbol domain).step
      (.addListener r.upaSources.length b)).step (.open r.upaSources.length))
    (hn : r'.upaSources.length = r.upaSources.length + 1)
    (hl : ∀ v, r'.registry.Listed v ↔ v = r.upaSources.length ∨ r.registry.Listed v)
  | snapshot (symbol domain)
    (hc : r'.consumer = (newSubscription r.consumer r.upaSources.length symbol domain).step
      (.snapshot r.upaSources.length))
    (hn : r'.upaSources.length = r.upaSources.length + 1)
    (hl : ∀ v, r'.registry.Listed v ↔ r.registry.Listed v)
  | close (u : ℕ) (hu : r.registry.Listed u) (hc : r'.consumer = r.consumer.step (.close u))
    (hn : r'.upaSources.length = r.upaSources.length)
    (hl : ∀ v, r'.registry.Listed v ↔ v ≠ u ∧ r.registry.Listed v)

def Moves : RMDSSubscriber → RMDSSubscriber → Prop := Relation.ReflTransGen Move

theorem Move.call {e : Event ℕ ℕ} {ks : List RequestKind} (hu : r.registry.Listed u)
    (he : UPAConsumer.asked e = some (u, ks)) : r.Move (r.call e) :=
  .asked u hu he rfl rfl fun _ => Iff.rfl

theorem Move.moves (h : r.Move r') : r.Moves r' := .single h

theorem moves_quiet (hreg : r'.registry = r.registry) (hc : r'.consumer = r.consumer)
    (hu : r'.upaSources = r.upaSources) : r.Moves r' :=
  (Move.quiet hc (by rw [hu]) fun v => by rw [hreg]).moves

theorem lt_of_listed (hu : r.registry.Listed u) : u < r.upaSources.length := by
  obtain ⟨s, k, ho, -⟩ := hu
  exact (List.getElem?_eq_some_iff.mp ho).1

theorem listed_of_find (ht : r.registry.Tidy) (h : r.sources.servicesMap.find keyId = some src)
    {symbol : String} (hu : src.subscriptions.find symbol = some u) : r.registry.Listed u := by
  have he : r.registry.entry keyId symbol = some u := (RMDSSources.entry_of_find h symbol).trans hu
  exact ⟨keyId, symbol, ht.owned keyId symbol u he, he⟩

theorem listed_of_values (ht : r.registry.Tidy) (h : r.sources.servicesMap.find keyId = some src) :
    ∀ u ∈ src.subscriptions.values, r.registry.Listed u := by
  intro u hu
  obtain ⟨k, hk⟩ := UnorderedMap.mem_values.mp hu
  exact listed_of_find ht h hk

theorem foldl_moves {α : Type} {f : RMDSSubscriber → α → RMDSSubscriber} (us : α → List ℕ)
    (hf : ∀ (r : RMDSSubscriber) (a : α), (∀ u ∈ us a, r.registry.Listed u) →
      r.Moves (f r a) ∧ ∀ u, (f r a).registry.Listed u ↔ r.registry.Listed u)
    {as : List α} (hus : ∀ a ∈ as, ∀ u ∈ us a, r.registry.Listed u) :
    r.Moves (as.foldl f r) ∧ ∀ u, (as.foldl f r).registry.Listed u ↔ r.registry.Listed u := by
  induction as generalizing r with
  | nil => exact ⟨.refl, fun _ => Iff.rfl⟩
  | cons a as ih =>
    obtain ⟨hm, hiff⟩ := hf r a (hus a List.mem_cons_self)
    obtain ⟨hm', hiff'⟩ := ih fun b hb u hu => (hiff u).mpr (hus b (List.mem_cons_of_mem a hb) u hu)
    exact ⟨hm.trans hm', fun u => (hiff' u).trans (hiff u)⟩

theorem callAll_moves {e : ℕ → Event ℕ ℕ} (ks : List RequestKind)
    (he : ∀ u, UPAConsumer.asked (e u) = some (u, ks))
    (hsrc : ∀ u ∈ src.subscriptions.values, r.registry.Listed u) :
    r.Moves (r.callAll src e) ∧ ∀ u, (r.callAll src e).registry.Listed u ↔ r.registry.Listed u := by
  apply foldl_moves (fun x : Σ _ : String, ℕ => [x.2])
  · intro q x hx
    have hl := hx x.2 (List.mem_singleton_self _)
    exact ⟨(Move.call hl (he x.2)).moves, fun _ => Iff.rfl⟩
  · intro x hx u hu
    rw [List.mem_singleton.mp hu]
    exact hsrc x.2 (List.mem_map_of_mem hx)

theorem callSources_moves {e : ℕ → Event ℕ ℕ} (ks : List RequestKind)
    (he : ∀ u, UPAConsumer.asked (e u) = some (u, ks)) (ht : r.registry.Tidy) :
    r.Moves (r.callSources e) := by
  refine (foldl_moves (fun x : Σ _ : ℕ, RMDSSource => x.2.subscriptions.values) ?_ ?_).1
  · intro q x hx
    exact callAll_moves ks he hx
  · intro x hx
    exact listed_of_values ht (UnorderedMap.mem_entries_iff.mp hx)

theorem setAllStale_moves (ht : r.registry.Tidy) : r.Moves r.setAllStale :=
  callSources_moves [] (fun _ => rfl) ht

theorem resubscribeAll_moves (ht : r.registry.Tidy) : r.Moves r.resubscribeAll :=
  callSources_moves [.open] (fun _ => rfl) ht

theorem setSourceState_moves (ht : r.registry.Tidy) (keyId : ℕ) (newState acceptConnections : Bool) :
    r.Moves (r.setSourceState keyId newState acceptConnections) := by
  unfold setSourceState
  cases hsrc : r.sources.servicesMap.find keyId with
  | none => exact .refl
  | some src =>
    dsimp only
    set src' := { src with state := newState, acceptConnections := acceptConnections }
    have hset : r.Still { r with sources := r.sources.set keyId src' } :=
      .of_sources (RMDSSources.set_entry_same hsrc rfl)
    have hm := moves_quiet hset.registry rfl rfl
    have hlisted : ∀ u ∈ src.subscriptions.values,
        { r with sources := r.sources.set keyId src' }.registry.Listed u := by
      rw [hset.registry]
      exact listed_of_values ht hsrc
    split_ifs
    · exact hm.trans (callAll_moves [] (fun _ => rfl) hlisted).1
    · exact hm.trans (callAll_moves [] (fun _ => rfl) hlisted).1
    · exact hm

theorem updateOrCreate_moves (ht : r.registry.Tidy) (keyId : ℕ) (keyName : String)
    (state acceptConnections : Bool) :
    r.Moves (r.updateOrCreate keyId keyName state acceptConnections) := by
  unfold updateOrCreate
  dsimp only
  split_ifs with hk
  · exact setSourceState_moves ht keyId state acceptConnections
  · have hs : r.Still { r with sources := r.sources.create keyId keyName (r.configDomain keyName) } :=
      .of_sources (RMDSSources.create_entry (Option.not_isSome_iff_eq_none.mp hk) _ _)
    refine (moves_quiet hs.registry rfl rfl).trans (setSourceState_moves ?_ keyId state acceptConnections)
    rw [hs.registry]
    exact ht

theorem createUpaSub_move (ht : r.registry.Tidy) (hsrc : r.sources.servicesMap.find keyId = some src)
    (b : ℕ) {symbol : String} (hn : src.subscriptions.find symbol = none) :
    r.Move (r.createUpaSub keyId src b symbol) := by
  refine .create symbol src.sourceDomain b rfl ?_ fun v => ?_
  · exact List.length_append
  · rw [createUpaSub_registry ht hsrc]
    exact ht.listed_create ((RMDSSources.entry_of_find hsrc symbol).trans hn) r.owner_length b

theorem joinUpaSub_moves (hu : r.registry.Listed u) (b : ℕ) : r.Moves (r.joinUpaSub u b) := by
  have hm : r.Moves (r.call (.addListener u b)) := (Move.call hu rfl).moves
  unfold joinUpaSub
  dsimp only
  split_ifs
  · exact hm.tail (Move.call (e := .requestImage u b) hu rfl)
  · exact hm

theorem leaveUpaSub_moves (ht : r.registry.Tidy) (hsrc : r.sources.servicesMap.find keyId = some src)
    (b : ℕ) {symbol : String} (hu : src.subscriptions.find symbol = some u) :
    r.Moves (r.leaveUpaSub keyId src u b symbol) := by
  have hl : r.registry.Listed u := listed_of_find ht hsrc hu
  have hm : r.Moves (r.call (.removeListener u b)) := (Move.call hl rfl).moves
  have hreg := leaveUpaSub_registry hsrc u b symbol
  have hlisteners : ((r.call (.removeListener u b)).consumer.subscriptions u).listeners =
      (r.registry.listeners u).erase b :=
    (congrArg (fun q => Registry.listeners q u) (r.call_removeListener u b)).trans
      (Registry.setListeners_self _)
  unfold leaveUpaSub at hreg ⊢
  dsimp only at hreg ⊢
  rw [hlisteners] at hreg ⊢
  split_ifs at hreg ⊢
  · refine hm.tail (.close u hl rfl rfl fun v => ?_)
    rw [hreg]
    exact ht.listed_drop ((RMDSSources.entry_of_find hsrc symbol).trans hu)
  · exact hm

theorem addSnapshotToSource_move (ht : r.registry.Tidy) {snap : RMDSBridgeSnapshot}
    (hf : r.sources.find snap.sourceName = some (keyId, src)) :
    r.Move (r.addSnapshotToSource snap) := by
  unfold addSnapshotToSource
  rw [hf]
  refine .snapshot snap.symbol src.sourceDomain rfl List.length_append fun v => ?_
  change ((r.createSubscription keyId snap.symbol).2.registry.Listed v) ↔ _
  rw [createSubscription_registry ht]
  exact ht.listed_own r.owner_length keyId

theorem processPending_moves (ht : r.registry.Tidy) : r.Moves r.processPending := by
  unfold processPending
  split
  · exact .refl
  · split
    · exact moves_quiet rfl rfl rfl
    · dsimp only
      split
      · rename_i b bs _ _ sub _
        set r' : RMDSSubscriber := { r with pendingSubscriptions := bs }
        have hm : r.Moves r' := moves_quiet rfl rfl rfl
        unfold addSubscriptionToSource
        split
        · exact moves_quiet rfl rfl rfl
        · rename_i hf
          have hsrc := RMDSSources.find_eq_some hf
          split
          · rename_i hu
            exact hm.trans (joinUpaSub_moves (listed_of_find (r := r') ht hsrc hu) b)
          · rename_i hn
            exact hm.tail (createUpaSub_move (r := r') ht hsrc b hn)
      · exact moves_quiet rfl rfl rfl
  · split
    · exact moves_quiet rfl rfl rfl
    · rename_i snap snaps _
      have hm : r.Moves { r with pendingSnapshots := snaps } := moves_quiet rfl rfl rfl
      cases hf : r.sources.find snap.sourceName with
      | none =>
        unfold addSnapshotToSource
        dsimp only
        rw [hf]
        exact hm
      | some x => exact hm.tail (addSnapshotToSource_move (r := { r with pendingSnapshots := snaps }) ht hf)

end RMDSSubscriber

def SubscriberEvent.toConsumer : SubscriberEvent → Option (Event ℕ ℕ)
  | .dispatch outcome => some (.dispatch outcome)
  | .respond domain streamId msg => some (.respond domain streamId msg)
  | _ => none

namespace RMDSSubscriber

variable {r : RMDSSubscriber} {e : SubscriberEvent}

theorem step_toConsumer {e' : Event ℕ ℕ} (he : e.toConsumer = some e') : r.step e = r.call e' := by
  cases e with
  | dispatch o =>
    obtain rfl := Option.some.inj he
    rfl
  | respond domain streamId msg =>
    obtain rfl := Option.some.inj he
    rfl
  | _ => cases he

theorem step_moves (ht : r.registry.Tidy) (he : e.toConsumer = none) : r.Moves (r.step e) := by
  cases e with
  | addSubscription source symbol subscription =>
    change r.Moves (r.addSubscription source symbol subscription)
    unfold addSubscription
    split_ifs
    · exact .refl
    · exact moves_quiet rfl rfl rfl
    · exact moves_quiet rfl rfl rfl
  | removeSubscription b =>
    unfold step
    dsimp only
    split
    · rename_i sub _
      unfold removeSubscription
      split
      · exact moves_quiet rfl rfl rfl
      · rename_i hf
        split
        · exact .refl
        · rename_i hu
          exact leaveUpaSub_moves ht (RMDSSources.find_eq_some hf) b hu
    · exact .refl
  | sendSnapshotRequest sourceName symbol => exact moves_quiet rfl rfl rfl
  | processPendingSubscriptions =>
    change r.Moves r.processPendingSubscriptions
    unfold processPendingSubscriptions
    split_ifs
    · exact moves_quiet rfl rfl rfl
    · exact .refl
  | processPending => exact processPending_moves ht
  | connectionNotification connected requestLogin =>
    change r.Moves (r.connectionNotification connected requestLogin)
    unfold connectionNotification
    dsimp only
    split_ifs
    · exact moves_quiet rfl rfl rfl
    · exact moves_quiet rfl rfl rfl
    · refine .trans ?_ (setAllStale_moves ?_)
      · exact moves_quiet rfl rfl rfl
      · exact ht
    · exact moves_quiet rfl rfl rfl
  | loginResponse loginSucceeded => exact moves_quiet rfl rfl rfl
  | sourceDirectoryUpdate serviceId serviceName serviceState acceptingRequests =>
    exact updateOrCreate_moves ht serviceId serviceName serviceState acceptingRequests
  | sourceDirectoryRefreshComplete succeeded => exact moves_quiet rfl rfl rfl
  | dictionaryUpdate dictionaryComplete =>
    change r.Moves (r.dictionaryUpdate dictionaryComplete)
    unfold dictionaryUpdate
    dsimp only
    split_ifs
    · refine .trans ?_ (resubscribeAll_moves ?_)
      · exact moves_quiet rfl rfl rfl
      · exact ht
    · exact moves_quiet rfl rfl rfl
    · exact moves_quiet rfl rfl rfl
  | dispatch outcome => cases he
  | respond domain streamId msg => cases he

end RMDSSubscriber

end RmdsBridge
