import RmdsBridge.Runs
import RmdsBridge.SubscriberSteps

namespace RmdsBridge

namespace Registry

variable {S K U : Type*} {r r' : Registry S K U ℕ} {n b : ℕ} {bs : List ℕ} {removed : Finset ℕ}

structure Kept (r : Registry S K U ℕ) (n : ℕ) (waiting : List ℕ) (removed : Finset ℕ) : Prop where
  tidy : r.Tidy
  gone : ∀ b ∈ removed, ∀ u, b ∉ r.listeners u
  once : waiting.Nodup
  idle : ∀ b ∈ waiting, ∀ u, b ∉ r.listeners u
  waiting_lt : ∀ b ∈ waiting, b < n
  listeners_lt : ∀ u, ∀ b ∈ r.listeners u, b < n
  removed_lt : ∀ b ∈ removed, b < n

theorem Kept.arrive (h : r.Kept n bs removed) : r.Kept (n + 1) (bs ++ [n]) removed where
  tidy := h.tidy
  gone := h.gone
  once := by
    refine List.nodup_append.mpr ⟨h.once, List.nodup_singleton n, fun b hb c hc => ?_⟩
    rw [List.mem_singleton.mp hc]
    exact (h.waiting_lt b hb).ne
  idle b hb u hu := by
    rcases List.mem_append.mp hb with hb | hb
    · exact h.idle b hb u hu
    · rw [List.mem_singleton.mp hb] at hu
      exact (h.listeners_lt u n hu).false
  waiting_lt b hb := by
    rcases List.mem_append.mp hb with hb | hb
    · exact (h.waiting_lt b hb).trans (Nat.lt_succ_self n)
    · rw [List.mem_singleton.mp hb]
      exact Nat.lt_succ_self n
  listeners_lt u b hb := (h.listeners_lt u b hb).trans (Nat.lt_succ_self n)
  removed_lt b hb := (h.removed_lt b hb).trans (Nat.lt_succ_self n)

theorem Kept.fail (h : r.Kept n (b :: bs) removed) : r.Kept n bs removed :=
  { h with
    once := h.once.of_cons
    idle := fun c hc => h.idle c (List.mem_cons_of_mem b hc)
    waiting_lt := fun c hc => h.waiting_lt c (List.mem_cons_of_mem b hc) }

theorem Kept.join (h : r.Kept n (b :: bs) removed) (ht : r'.Tidy) (hb : b ∉ removed)
    (hl : ∀ u, ∀ c ∈ r'.listeners u, c = b ∨ c ∈ r.listeners u) : r'.Kept n bs removed :=
  { h.fail with
    tidy := ht
    gone := fun c hc u hu => by
      rcases hl u c hu with rfl | hu
      · exact hb hc
      · exact h.gone c hc u hu
    idle := fun c hc u hu => by
      rcases hl u c hu with rfl | hu
      · exact (List.nodup_cons.mp h.once).1 hc
      · exact h.idle c (List.mem_cons_of_mem b hc) u hu
    listeners_lt := fun u c hc => by
      rcases hl u c hc with rfl | hc
      · exact h.waiting_lt c List.mem_cons_self
      · exact h.listeners_lt u c hc }

theorem Kept.leave (h : r.Kept n bs removed) (ht : r'.Tidy) (hb : b < n)
    (hl : ∀ u, r'.listeners u ⊆ r.listeners u) (hgone : ∀ u, b ∉ r'.listeners u) :
    r'.Kept n bs (insert b removed) where
  tidy := ht
  gone c hc u hu := by
    rcases Finset.mem_insert.mp hc with rfl | hc
    · exact hgone u hu
    · exact h.gone c hc u (hl u hu)
  once := h.once
  idle c hc u hu := h.idle c hc u (hl u hu)
  waiting_lt := h.waiting_lt
  listeners_lt u c hc := h.listeners_lt u c (hl u hc)
  removed_lt c hc := by
    rcases Finset.mem_insert.mp hc with rfl | hc
    · exact hb
    · exact h.removed_lt c hc

end Registry

structure Removals where
  subscriber : RMDSSubscriber
  removed : Finset ℕ := ∅

namespace Removals

def step (q : Removals) (e : SubscriberEvent) : Removals where
  subscriber := q.subscriber.step e
  removed :=
    match e with
    | .removeSubscription b =>
      if b < q.subscriber.bridges.length then insert b q.removed else q.removed
    | _ => q.removed

def start (configDomain : String → String) (config : TransportConfig) : Removals where
  subscriber := { configDomain, consumer := { config } }

structure NoZombies (q : Removals) : Prop where
  gone : ∀ b ∈ q.removed, ∀ u, b ∉ q.subscriber.registry.listeners u
  listed : ∀ u, q.subscriber.registry.Listed u ↔ q.subscriber.registry.listeners u ≠ []

def Ok (q : Removals) : SubscriberEvent → Prop
  | .removeSubscription b =>
    ∀ sub, q.subscriber.bridges[b]? = some sub → ∀ u, b ∈ q.subscriber.registry.listeners u →
      q.subscriber.findSubscription sub.sourceName sub.symbol = some u
  | .processPending =>
    q.subscriber.processing = .subscriptions → ∀ b ∈ q.subscriber.pendingSubscriptions.head?,
      b ∈ q.removed → ∀ sub, q.subscriber.bridges[b]? = some sub →
        q.subscriber.sources.find sub.sourceName = none
  | _ => True

variable {q : Removals}

def Kept (q : Removals) : Prop :=
  q.subscriber.registry.Kept q.subscriber.bridges.length q.subscriber.pendingSubscriptions q.removed

theorem Kept.noZombies (h : q.Kept) : q.NoZombies := ⟨h.gone, h.tidy.listed⟩

theorem Kept.still (h : q.Kept) {r : RMDSSubscriber} (hs : q.subscriber.Still r) :
    Kept ⟨r, q.removed⟩ := by
  unfold Kept
  dsimp only
  rw [hs.registry, hs.bridges, hs.pending]
  exact h

theorem addSubscription_kept (h : q.Kept) (source symbol : String) (subscription : ℕ) :
    Kept ⟨q.subscriber.addSubscription source symbol subscription, q.removed⟩ := by
  unfold RMDSSubscriber.addSubscription
  split_ifs
  · exact h
  · exact h.still ⟨rfl, rfl, rfl⟩
  · unfold Kept
    rw [List.length_append]
    exact Registry.Kept.arrive h

theorem removeSubscription_kept (h : q.Kept) {b : ℕ} {sub : RMDSBridgeSubscription}
    (hb : q.subscriber.bridges[b]? = some sub)
    (ho : ∀ u, b ∈ q.subscriber.registry.listeners u →
      q.subscriber.findSubscription sub.sourceName sub.symbol = some u) :
    Kept ⟨q.subscriber.removeSubscription b sub, insert b q.removed⟩ := by
  obtain ⟨ht, hl⟩ := RMDSSubscriber.removeSubscription_listeners h.tidy b sub
  obtain ⟨hbridges, hpending⟩ := q.subscriber.removeSubscription_frame b sub
  have hlt : b < q.subscriber.bridges.length := (List.getElem?_eq_some_iff.mp hb).1
  unfold Kept
  dsimp only
  rw [hbridges, hpending]
  refine Registry.Kept.leave h ht hlt (fun u => ?_) fun u hu => ?_
  · rw [hl u]
    split_ifs
    · exact List.erase_subset
    · exact List.Subset.refl _
  · rw [hl u] at hu
    split_ifs at hu with hf
    · exact (h.tidy.once u).not_mem_erase hu
    · exact hf (ho u hu)

theorem processPending_kept (h : q.Kept) (ho : q.Ok .processPending) :
    Kept ⟨q.subscriber.processPending, q.removed⟩ := by
  rcases q.subscriber.processPending_cases with
    hst | ⟨b, bs, hp, hq, ⟨-, he⟩ | ⟨sub, hb, he⟩⟩ | ⟨snap, snaps, he⟩
  · exact h.still hst
  · have hk : q.subscriber.registry.Kept q.subscriber.bridges.length (b :: bs) q.removed := hq ▸ h
    rw [he]
    exact hk.fail
  · have hk : q.subscriber.registry.Kept q.subscriber.bridges.length (b :: bs) q.removed := hq ▸ h
    set r : RMDSSubscriber := { q.subscriber with pendingSubscriptions := bs }
    obtain ⟨hbridges, hpending⟩ := r.addSubscriptionToSource_frame b sub
    unfold Kept
    rw [he, hbridges, hpending]
    by_cases hs : q.subscriber.sources.find sub.sourceName = none
    · rcases r.addSubscriptionToSource_cases b sub with ⟨-, hst⟩ | ⟨keyId, src, hf, -⟩
      · rw [hst.registry]
        exact hk.fail
      · cases hs.symm.trans hf
    · have hnew : b ∉ q.removed := fun hmem => hs (ho hp b (by rw [hq]; rfl) hmem sub hb)
      obtain ⟨ht, hl, -⟩ := RMDSSubscriber.addSubscriptionToSource_listeners (r := r) hk.tidy
        (hk.idle b List.mem_cons_self) sub hs
      exact hk.join ht hnew hl
  · set r : RMDSSubscriber := { q.subscriber with pendingSnapshots := snaps }
    obtain ⟨hbridges, hpending⟩ := r.addSnapshotToSource_frame snap
    unfold Kept
    rw [he, hbridges, hpending]
    rcases RMDSSubscriber.addSnapshotToSource_registry (r := r) h.tidy snap with he | ⟨keyId, he⟩
    · rw [he]
      exact h
    · rw [he]
      exact { h with tidy := h.tidy.own r.owner_length keyId }

theorem step_kept (h : q.Kept) {e : SubscriberEvent} (ho : q.Ok e) : (q.step e).Kept := by
  cases e with
  | addSubscription source symbol subscription => exact addSubscription_kept h source symbol subscription
  | removeSubscription b =>
    unfold step RMDSSubscriber.step
    dsimp only
    cases hb : q.subscriber.bridges[b]? with
    | none =>
      rw [if_neg (Nat.not_lt.mpr (List.getElem?_eq_none_iff.mp hb))]
      exact h
    | some sub =>
      rw [if_pos (List.getElem?_eq_some_iff.mp hb).1]
      exact removeSubscription_kept h hb (ho sub hb)
  | sendSnapshotRequest sourceName symbol => exact h.still ⟨rfl, rfl, rfl⟩
  | processPendingSubscriptions =>
    change Kept ⟨q.subscriber.processPendingSubscriptions, q.removed⟩
    unfold RMDSSubscriber.processPendingSubscriptions
    split_ifs
    · exact h.still ⟨rfl, rfl, rfl⟩
    · exact h
  | processPending => exact processPending_kept h ho
  | connectionNotification connected requestLogin =>
    exact h.still (q.subscriber.connectionNotification_still connected requestLogin)
  | loginResponse loginSucceeded => exact h.still ⟨rfl, rfl, rfl⟩
  | sourceDirectoryUpdate serviceId serviceName serviceState acceptingRequests =>
    exact h.still (q.subscriber.updateOrCreate_still serviceId serviceName serviceState acceptingRequests)
  | sourceDirectoryRefreshComplete succeeded => exact h.still ⟨rfl, rfl, rfl⟩
  | dictionaryUpdate dictionaryComplete =>
    exact h.still (q.subscriber.dictionaryUpdate_still dictionaryComplete)
  | dispatch outcome => exact h.still (q.subscriber.call_still id)
  | respond domain streamId msg => exact h.still (q.subscriber.call_still id)

theorem step_zombie (h : q.Kept) {e : SubscriberEvent} (ho : ¬ q.Ok e) :
    ¬ (q.step e).NoZombies := by
  intro hz
  cases e with
  | removeSubscription b =>
    refine ho fun sub hb u hu => ?_
    by_contra hf
    have hlt : b < q.subscriber.bridges.length := (List.getElem?_eq_some_iff.mp hb).1
    have hgone := hz.gone b
    unfold step RMDSSubscriber.step at hgone
    dsimp only at hgone
    rw [hb, if_pos hlt] at hgone
    apply hgone (Finset.mem_insert_self b _) u
    rw [(RMDSSubscriber.removeSubscription_listeners h.tidy b sub).2 u, if_neg hf]
    exact hu
  | processPending =>
    refine ho fun hp b hb hmem sub hsub => ?_
    by_contra hs
    obtain ⟨bs, hq⟩ : ∃ bs, q.subscriber.pendingSubscriptions = b :: bs :=
      List.head?_eq_some_iff.mp hb
    have hk : q.subscriber.registry.Kept q.subscriber.bridges.length (b :: bs) q.removed := hq ▸ h
    set r : RMDSSubscriber := { q.subscriber with pendingSubscriptions := bs }
    obtain ⟨-, -, u, hu⟩ := RMDSSubscriber.addSubscriptionToSource_listeners (r := r) hk.tidy
      (hk.idle b List.mem_cons_self) sub hs
    apply hz.gone b hmem u
    change b ∈ q.subscriber.processPending.registry.listeners u
    rw [RMDSSubscriber.processPending_subscription hp hq hsub]
    exact hu
  | _ => exact ho trivial

theorem start_kept (configDomain : String → String) (config : TransportConfig) :
    (start configDomain config).Kept where
  tidy := by
    refine ⟨fun keyId symbol u he => ?_, fun keyId symbol symbol' u he => ?_, fun u => ?_, fun u => ?_⟩
    · cases he
    · cases he
    · refine iff_of_false ?_ fun hl => hl rfl
      rintro ⟨keyId, symbol, -, he⟩
      cases he
    · exact List.nodup_nil
  gone b hb := absurd hb (Finset.notMem_empty b)
  once := List.nodup_nil
  idle b hb := absurd hb List.not_mem_nil
  waiting_lt b hb := absurd hb List.not_mem_nil
  listeners_lt u b hb := absurd hb List.not_mem_nil
  removed_lt b hb := absurd hb (Finset.notMem_empty b)

theorem no_zombies_iff (configDomain : String → String) (config : TransportConfig)
    (events : List SubscriberEvent) :
    Runs.Always step NoZombies (start configDomain config) events ↔
      Runs.Guarded step Ok (start configDomain config) events :=
  Runs.always_iff_guarded (fun _ hq => Kept.noZombies hq) (fun _ _ hq ho => step_kept hq ho)
    (fun _ _ hq ho => step_zombie hq ho) (start_kept configDomain config)

def removedEarly : List SubscriberEvent :=
  [.connectionNotification true true, .loginResponse true, .sourceDirectoryUpdate 1 "S" true,
    .sourceDirectoryRefreshComplete true, .dictionaryUpdate true, .addSubscription "S" "A" 0,
    .removeSubscription 0, .processPendingSubscriptions, .processPending]

theorem removed_early_is_zombie :
    ¬ ∀ (configDomain : String → String) (config : TransportConfig) (events : List SubscriberEvent),
      Runs.Always step NoZombies (start configDomain config) events := by
  intro h
  have hlast := Runs.always_iff_run.mp (h (fun _ => "any") {} removedEarly) removedEarly
    (List.prefix_refl _)
  have hgone := hlast.gone 0 (by decide) 0
  exact absurd hgone (by decide +kernel)

end Removals

end RmdsBridge
