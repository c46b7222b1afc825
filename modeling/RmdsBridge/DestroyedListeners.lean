import RmdsBridge.BridgeCallbacks
import RmdsBridge.SubscriberNotices
import RmdsBridge.Zombies

namespace RmdsBridge

namespace RMDSSubscriber

variable {r r' : RMDSSubscriber} {b : ℕ}

theorem isShutdown_of_prefix (h : r.bridges <+: r'.bridges) (hb : r.isShutdown b = true) :
    r'.isShutdown b = true := by
  obtain ⟨bs, hbs⟩ := h
  unfold isShutdown at hb ⊢
  rw [← hbs]
  cases hsub : r.bridges[b]? with
  | none => simp [hsub] at hb
  | some sub =>
    have hlt : b < r.bridges.length := (List.getElem?_eq_some_iff.mp hsub).1
    rw [List.getElem?_append_left hlt]
    exact hb

theorem addSubscription_bridges (r : RMDSSubscriber) (source symbol : String) (subscription : ℕ) :
    r.bridges <+: (r.addSubscription source symbol subscription).bridges := by
  unfold addSubscription
  split_ifs
  · exact List.prefix_refl _
  · exact List.prefix_refl _
  · exact List.prefix_append _ _

theorem processPending_bridges (r : RMDSSubscriber) : r.processPending.bridges = r.bridges := by
  rcases r.processPending_cases with
    hst | ⟨b, bs, -, -, ⟨-, he⟩ | ⟨sub, -, he⟩⟩ | ⟨snap, snaps, he⟩
  · exact hst.bridges
  · rw [he]
  · rw [he]
    exact (addSubscriptionToSource_frame _ b sub).1
  · rw [he]
    exact (addSnapshotToSource_frame _ snap).1

def Keeps : SubscriberEvent → Prop
  | .removeSubscription _ | .processPending => False
  | _ => True

theorem step_registry {e : SubscriberEvent} (he : Keeps e) : (r.step e).registry = r.registry := by
  cases e with
  | addSubscription source symbol subscription =>
    change (r.addSubscription source symbol subscription).registry = _
    unfold addSubscription
    split_ifs <;> rfl
  | removeSubscription b => exact absurd he id
  | processPending => exact absurd he id
  | sendSnapshotRequest sourceName symbol => rfl
  | processPendingSubscriptions =>
    change r.processPendingSubscriptions.registry = _
    unfold processPendingSubscriptions
    split_ifs <;> rfl
  | connectionNotification connected requestLogin => exact (r.connectionNotification_still _ _).registry
  | loginResponse loginSucceeded => rfl
  | sourceDirectoryUpdate serviceId serviceName serviceState acceptingRequests =>
    exact (r.updateOrCreate_still _ _ _ _).registry
  | sourceDirectoryRefreshComplete succeeded => rfl
  | dictionaryUpdate dictionaryComplete => exact (r.dictionaryUpdate_still _).registry
  | dispatch outcome => exact (r.call_still id).registry
  | respond domain streamId msg => exact (r.call_still id).registry

theorem step_bridges (r : RMDSSubscriber) (e : SubscriberEvent) : r.bridges <+: (r.step e).bridges := by
  have hsame {r' : RMDSSubscriber} (h : r'.bridges = r.bridges) : r.bridges <+: r'.bridges := by
    rw [h]
  cases e with
  | addSubscription source symbol subscription => exact r.addSubscription_bridges _ _ _
  | removeSubscription b =>
    unfold step
    dsimp only
    cases r.bridges[b]? with
    | none => exact List.prefix_refl _
    | some sub => exact hsame (r.removeSubscription_frame b sub).1
  | processPending => exact hsame r.processPending_bridges
  | sendSnapshotRequest sourceName symbol => exact List.prefix_refl _
  | processPendingSubscriptions =>
    refine hsame ?_
    change r.processPendingSubscriptions.bridges = _
    unfold processPendingSubscriptions
    split_ifs <;> rfl
  | connectionNotification connected requestLogin => exact hsame (r.connectionNotification_still _ _).bridges
  | loginResponse loginSucceeded => exact List.prefix_refl _
  | sourceDirectoryUpdate serviceId serviceName serviceState acceptingRequests =>
    exact hsame (r.updateOrCreate_still _ _ _ _).bridges
  | sourceDirectoryRefreshComplete succeeded => exact List.prefix_refl _
  | dictionaryUpdate dictionaryComplete => exact hsame (r.dictionaryUpdate_still _).bridges
  | dispatch outcome => exact List.prefix_refl _
  | respond domain streamId msg => exact List.prefix_refl _

theorem addSubscriptionToSource_joins (ht : r.registry.Tidy) (b : ℕ) (sub : RMDSBridgeSubscription) :
    (r.addSubscriptionToSource b sub).registry.listeners = r.registry.listeners ∨
      r.sources.find sub.sourceName ≠ none ∧ ∃ u, (r.addSubscriptionToSource b sub).registry.listeners =
        Function.update r.registry.listeners u (r.registry.listeners u ++ [b]) := by
  rcases r.addSubscriptionToSource_cases b sub with ⟨-, hst⟩ | ⟨keyId, src, hf, ⟨u, -, he⟩ | ⟨-, he⟩⟩
  · exact .inl (by rw [hst.registry])
  · refine .inr ⟨by simp [hf], u, ?_⟩
    rw [he, joinUpaSub_registry]
    rfl
  · refine .inr ⟨by simp [hf], r.upaSources.length, ?_⟩
    rw [he, createUpaSub_registry ht (RMDSSources.find_eq_some hf), ht.listeners_of_new r.owner_length]
    rfl

theorem processPending_joins (ht : r.registry.Tidy) :
    r.processPending.registry.listeners = r.registry.listeners ∨
      ∃ b bs sub, r.processing = .subscriptions ∧ r.pendingSubscriptions = b :: bs ∧
        r.bridges[b]? = some sub ∧ r.sources.find sub.sourceName ≠ none ∧
        ∃ u, r.processPending.registry.listeners =
          Function.update r.registry.listeners u (r.registry.listeners u ++ [b]) := by
  rcases r.processPending_cases with
    hst | ⟨b, bs, hp, hq, ⟨-, he⟩ | ⟨sub, hb, he⟩⟩ | ⟨snap, snaps, he⟩
  · exact .inl (by rw [hst.registry])
  · exact .inl (by rw [he]; rfl)
  · rw [he]
    rcases addSubscriptionToSource_joins (r := { r with pendingSubscriptions := bs }) ht b sub with
      hsame | ⟨hsrc, u, hu⟩
    · exact .inl hsame
    · exact .inr ⟨b, bs, sub, hp, hq, hb, hsrc, u, hu⟩
  · rw [he]
    rcases addSnapshotToSource_registry (r := { r with pendingSnapshots := snaps }) ht snap with
      he | ⟨keyId, he⟩
    · exact .inl (by rw [he]; rfl)
    · exact .inl (by rw [he]; rfl)

structure Subscribed (r : RMDSSubscriber) (destroyed : Finset ℕ) : Prop where
  kept : r.registry.Kept r.bridges.length r.pendingSubscriptions ∅
  opened : r.Opened
  single : ∀ b u u', b ∈ r.registry.listeners u → b ∈ r.registry.listeners u' → u = u'
  shut : ∀ b ∈ destroyed, ∀ u, b ∈ r.registry.listeners u → r.isShutdown b = true

variable {destroyed : Finset ℕ}

theorem step_kept {e : SubscriberEvent} (he : ∀ b, e ≠ .removeSubscription b)
    (h : r.registry.Kept r.bridges.length r.pendingSubscriptions ∅) :
    (r.step e).registry.Kept (r.step e).bridges.length (r.step e).pendingSubscriptions ∅ := by
  have hok : Removals.Ok ⟨r, ∅⟩ e := by
    cases e with
    | removeSubscription b => exact absurd rfl (he b)
    | processPending => exact fun _ b _ hb => absurd hb (Finset.notMem_empty b)
    | _ => trivial
  have hk := Removals.step_kept (q := ⟨r, ∅⟩) h hok
  cases e with
  | removeSubscription b => exact absurd rfl (he b)
  | _ => exact hk

theorem Subscribed.keep (h : r.Subscribed destroyed) {e : SubscriberEvent} (he : Keeps e) :
    (r.step e).Subscribed destroyed where
  kept := by
    refine step_kept (fun b heq => ?_) h.kept
    rw [heq] at he
    exact he
  opened := (step_notifies h.kept.tidy e).opened h.opened
  single b u u' := by
    rw [step_registry he]
    exact h.single b u u'
  shut b hb u hu := by
    rw [step_registry he] at hu
    exact isShutdown_of_prefix (r.step_bridges e) (h.shut b hb u hu)

def PendingOk (r : RMDSSubscriber) (destroyed : Finset ℕ) : Prop :=
  r.processing = .subscriptions → ∀ b ∈ r.pendingSubscriptions.head?, b ∈ destroyed →
    r.badSource = none ∧ r.isShutdown b = true

instance (r : RMDSSubscriber) (destroyed : Finset ℕ) : Decidable (r.PendingOk destroyed) := by
  unfold PendingOk; infer_instance

theorem Subscribed.processPending (h : r.Subscribed destroyed) (ho : r.PendingOk destroyed) :
    r.processPending.Subscribed destroyed := by
  have hkept := step_kept (e := .processPending) (fun b heq => by cases heq) h.kept
  have hopened := (step_notifies h.kept.tidy .processPending).opened h.opened
  have hshut (b : ℕ) (hb : r.isShutdown b = true) : r.processPending.isShutdown b = true :=
    isShutdown_of_prefix (r.step_bridges .processPending) hb
  rcases processPending_joins h.kept.tidy with hsame | ⟨b, bs, sub, hp, hq, hb, hsrc, u, hl⟩
  · refine ⟨hkept, hopened, fun c v v' => ?_, fun c hc v hv => ?_⟩
    · rw [hsame]
      exact h.single c v v'
    · rw [hsame] at hv
      exact hshut c (h.shut c hc v hv)
  · have hidle : ∀ v, b ∉ r.registry.listeners v := h.kept.idle b (by rw [hq]; exact List.mem_cons_self)
    have hmem (c v : ℕ) : c ∈ r.processPending.registry.listeners v ↔
        c ∈ r.registry.listeners v ∨ c = b ∧ v = u := by
      rw [hl]
      by_cases hv : v = u
      · rw [hv, Function.update_self]
        simp
      · rw [Function.update_of_ne hv]
        simp [hv]
    refine ⟨hkept, hopened, fun c v v' hc hc' => ?_, fun c hc v hv => ?_⟩
    · rcases (hmem c v).mp hc with hc | ⟨rfl, rfl⟩
      · rcases (hmem c v').mp hc' with hc' | ⟨rfl, rfl⟩
        · exact h.single c v v' hc hc'
        · exact absurd hc (hidle v)
      · rcases (hmem c v').mp hc' with hc' | ⟨-, rfl⟩
        · exact absurd hc' (hidle v')
        · rfl
    · rcases (hmem c v).mp hv with hv | ⟨rfl, rfl⟩
      · exact hshut c (h.shut c hc v hv)
      · exact hshut c (ho hp c (by rw [hq]; rfl) hc).2

theorem not_listens {n : ℕ} {waiting : List ℕ} (h : r.registry.Kept n waiting ∅)
    (hb : ∀ u < r.upaSources.length, b ∉ r.registry.listeners u) (u : ℕ) : b ∉ r.registry.listeners u := by
  by_cases hu : u < r.upaSources.length
  · exact hb u hu
  · have hnew : r.registry.owner u = none := List.getElem?_eq_none (Nat.not_lt.mp hu)
    rw [h.tidy.listeners_of_new hnew]
    exact List.not_mem_nil

theorem Subscribed.removeSubscription (h : r.Subscribed destroyed) {sub : RMDSBridgeSubscription}
    (hb : r.bridges[b]? = some sub)
    (hfound : ∀ u, r.findSubscription sub.sourceName sub.symbol = some u → b ∈ r.registry.listeners u)
    (hnone : r.findSubscription sub.sourceName sub.symbol = none →
      r.isShutdown b = true ∨ ∀ u, b ∉ r.registry.listeners u) :
    (r.removeSubscription b sub).Subscribed (insert b destroyed) := by
  obtain ⟨ht, hl⟩ := removeSubscription_listeners h.kept.tidy b sub
  obtain ⟨hbridges, hpending⟩ := r.removeSubscription_frame b sub
  have hlt : b < r.bridges.length := (List.getElem?_eq_some_iff.mp hb).1
  have hopened := (r.removeSubscription_notifies b sub).opened h.opened
  have hsub (c u : ℕ) (hc : c ∈ (r.removeSubscription b sub).registry.listeners u) :
      c ∈ r.registry.listeners u := by
    rw [hl u] at hc
    split_ifs at hc
    · exact List.mem_of_mem_erase hc
    · exact hc
  have hshutdown (c : ℕ) : (r.removeSubscription b sub).isShutdown c = r.isShutdown c := by
    unfold isShutdown
    rw [hbridges]
  have hgone (u : ℕ) (hu : b ∈ (r.removeSubscription b sub).registry.listeners u) :
      r.isShutdown b = true := by
    have hu' := hsub b u hu
    cases hf : r.findSubscription sub.sourceName sub.symbol with
    | none =>
      rcases hnone hf with hs | hn
      · exact hs
      · exact absurd hu' (hn u)
    | some v =>
      obtain rfl := h.single b v u (hfound v hf) hu'
      rw [hl v, if_pos hf] at hu
      exact absurd hu (h.kept.tidy.once v).not_mem_erase
  refine ⟨?_, hopened, fun c u u' hc hc' => ?_, fun c hc u hu => ?_⟩
  · rw [hbridges, hpending]
    exact { h.kept with
      tidy := ht
      gone := fun c hc => absurd hc (Finset.notMem_empty c)
      idle := fun c hc u hu => h.kept.idle c hc u (hsub c u hu)
      listeners_lt := fun u c hc => h.kept.listeners_lt u c (hsub c u hc) }
  · exact h.single c u u' (hsub c u hc) (hsub c u' hc')
  · rw [hshutdown]
    rcases Finset.mem_insert.mp hc with rfl | hc
    · exact hgone u hu
    · exact h.shut c hc u (hsub c u hu)

end RMDSSubscriber

end RmdsBridge
