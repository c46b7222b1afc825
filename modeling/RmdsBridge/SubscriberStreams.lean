import RmdsBridge.SubscriberMoves

namespace RmdsBridge

namespace RMDSSubscriber

variable {r r' : RMDSSubscriber} {opened : Finset ℕ} {u : ℕ}

structure Leases (r : RMDSSubscriber) (opened : Finset ℕ) : Prop where
  leased : r.consumer.Leased opened r.registry.Listed
  fresh : ∀ u, r.upaSources.length ≤ u → r.consumer.ids u = 0 ∧ r.consumer.requestsOf u = []

theorem Leases.called {sub : UPASubscription ℕ} {ks : List RequestKind} (h : r.Leases opened)
    (hu : u < r'.upaSources.length) (hn : r.upaSources.length ≤ r'.upaSources.length)
    (hc : r.consumer.Called r'.consumer u sub ks) (ho : r'.consumer.Orderly (r'.registry.Listed u) u)
    (hl : ∀ v ≠ u, r'.registry.Listed v → r.registry.Listed v) : r'.Leases opened where
  leased := h.leased.called hc ho hl
  fresh v hv := by
    obtain ⟨hid, hr⟩ := h.fresh v (hn.trans hv)
    have hne : v ≠ u := by omega
    exact ⟨(congrFun hc.ids_eq v).trans hid, (hc.requestsOf_of_ne hne).trans hr⟩

theorem newSubscription_called (h : r.Leases opened) (symbol : String) (domain : SubscriptionType) :
    ∃ sub, r.consumer.Called (newSubscription r.consumer r.upaSources.length symbol domain)
        r.upaSources.length sub [] ∧ sub.snapShot = false := by
  obtain ⟨hid, -⟩ := h.fresh _ le_rfl
  set u := r.upaSources.length
  have hnew : r.consumer.Called (r.consumer.setSubscription u { symbol := symbol }) u
      { symbol := symbol } [] := ⟨rfl, hid.symm, ⟨_, _, rfl⟩, (List.append_nil _).symm⟩
  obtain ⟨sub, hset, hsnap, -⟩ := (r.consumer.setSubscription u { symbol := symbol }).called_of_asked
    (e := .setDomain u domain) rfl
  exact ⟨sub, hnew.append hset, by rw [hsnap, hnew.subscription_self]⟩

theorem Leases.move (h : r.Leases opened) (m : r.Move r') : r'.Leases opened := by
  cases m with
  | quiet hc hn hl =>
    refine ⟨?_, ?_⟩
    · rw [hc]
      exact h.leased.mono fun v => (hl v).mp
    · rw [hc, hn]
      exact h.fresh
  | asked u hu he hc hn hl =>
    obtain ⟨sub, hcall, hsnap, hks⟩ := r.consumer.called_of_asked he
    rw [← hc] at hcall
    apply h.called (hn ▸ lt_of_listed hu) hn.ge hcall
    · rw [hl]
      exact hcall.asks hsnap hks (fun _ => hu) (h.leased.orderly u)
    · exact fun v _ => (hl v).mp
  | create symbol domain b hc hn hl =>
    obtain ⟨hid, hr⟩ := h.fresh _ le_rfl
    obtain ⟨sub, hnew, hsnap⟩ := newSubscription_called h symbol domain
    set u := r.upaSources.length
    set c := newSubscription r.consumer u symbol domain
    obtain ⟨sub₁, hadd, hsnap₁, -⟩ := c.called_of_asked (e := .addListener u b) rfl
    obtain ⟨sub₂, hopen, hsnap₂, -⟩ := (c.step (.addListener u b)).called_of_asked (e := .open u) rfl
    have hcall := (hnew.append hadd).append hopen
    rw [← hc] at hcall hopen
    apply h.called (by omega) (by omega) hcall
    · apply UPAConsumer.Orderly.of_unopened
      · exact (congrFun hcall.ids_eq u).trans hid
      · rw [hcall.requestsOf_self, hr]
        simp
      · rw [hopen.subscription_self, hsnap₂, hadd.subscription_self, hsnap₁, hnew.subscription_self, hsnap]
    · exact fun v hv hlv => ((hl v).mp hlv).resolve_left hv
  | snapshot symbol domain hc hn hl =>
    obtain ⟨hid, hr⟩ := h.fresh _ le_rfl
    obtain ⟨sub, hnew, -⟩ := newSubscription_called h symbol domain
    set u := r.upaSources.length with hu
    obtain ⟨sub₁, hsnap⟩ := (newSubscription r.consumer u symbol domain).called_of_snapshot u
    have hcall := hnew.append hsnap
    rw [← hc] at hcall
    apply h.called (by omega) (by omega) hcall
    · refine (hcall.takes_snapshot hid hr).mono fun hlu => ?_
      exact lt_irrefl _ (lt_of_listed ((hl u).mp hlu))
    · exact fun v _ => (hl v).mp
  | close u hu hc hn hl =>
    obtain ⟨sub, ks, hcall, hks, hsnap⟩ := r.consumer.called_of_close u
    rw [← hc] at hcall
    apply h.called (hn ▸ lt_of_listed hu) hn.ge hcall
    · exact (hcall.gives_up hsnap hks hu (h.leased.orderly u)).mono fun hv => ((hl u).mp hv).1 rfl
    · exact fun v _ hv => ((hl v).mp hv).2

theorem Leases.moves (h : r.Leases opened) (m : r.Moves r') : r'.Leases opened := by
  induction m with
  | refl => exact h
  | tail _ m ih => exact ih.move m

end RMDSSubscriber

structure SubscriberStreams where
  subscriber : RMDSSubscriber
  opened : Finset ℕ := ∅

namespace SubscriberStreams

def streams (q : SubscriberStreams) : OpenStreams ℕ ℕ := ⟨q.subscriber.consumer, q.opened⟩

def step (q : SubscriberStreams) (e : SubscriberEvent) : SubscriberStreams where
  subscriber := q.subscriber.step e
  opened :=
    match e.toConsumer with
    | some e => (q.streams.step e).opened
    | none => q.opened

def start (configDomain : String → String) (config : TransportConfig) : SubscriberStreams where
  subscriber := { configDomain, consumer := { config } }

structure Kept (q : SubscriberStreams) : Prop where
  waiting : Removals.Kept ⟨q.subscriber, ∅⟩
  leases : q.subscriber.Leases q.opened

variable {q : SubscriberStreams}

theorem start_kept (configDomain : String → String) (config : TransportConfig) :
    (start configDomain config).Kept where
  waiting := Removals.start_kept configDomain config
  leases := {
    leased := ⟨OpenStreams.start_held (fun _ => "") config, fun _ => .of_unopened rfl List.not_mem_nil rfl⟩
    fresh := fun _ _ => ⟨rfl, rfl⟩ }

theorem step_waiting (h : Removals.Kept ⟨q.subscriber, ∅⟩) (e : SubscriberEvent) :
    Removals.Kept ⟨q.subscriber.step e, ∅⟩ := by
  cases e with
  | removeSubscription b =>
    unfold RMDSSubscriber.step
    dsimp only
    cases hb : q.subscriber.bridges[b]? with
    | none => exact h
    | some sub =>
      obtain ⟨ht, hl⟩ := RMDSSubscriber.removeSubscription_listeners h.tidy b sub
      obtain ⟨hbridges, hpending⟩ := q.subscriber.removeSubscription_frame b sub
      have hsub (u : ℕ) : (q.subscriber.removeSubscription b sub).registry.listeners u ⊆
          q.subscriber.registry.listeners u := by
        rw [hl u]
        split_ifs
        · exact List.erase_subset
        · exact List.Subset.refl _
      unfold Removals.Kept
      dsimp only
      rw [hbridges, hpending]
      exact { h with
        tidy := ht
        gone := fun c hc => absurd hc (Finset.notMem_empty c)
        idle := fun c hc u hu => h.idle c hc u (hsub u hu)
        listeners_lt := fun u c hc => h.listeners_lt u c (hsub u hc) }
  | _ => exact Removals.step_kept (q := ⟨q.subscriber, ∅⟩) h (by first | trivial | simp [Removals.Ok])

theorem step_kept (h : q.Kept) (e : SubscriberEvent) : (q.step e).Kept := by
  refine ⟨step_waiting h.waiting e, ?_⟩
  have hl := h.leases
  change (q.subscriber.step e).Leases (match e.toConsumer with
    | some e => (q.streams.step e).opened
    | none => q.opened)
  cases he : e.toConsumer with
  | none => exact hl.moves (RMDSSubscriber.step_moves h.waiting.tidy he)
  | some e' =>
    have hheld := OpenStreams.step_held (q := q.streams) hl.leased.held (hl.leased.ok e')
    rw [RMDSSubscriber.step_toConsumer he]
    cases e with
    | dispatch outcome =>
      obtain rfl := Option.some.inj he
      refine ⟨⟨hheld, hl.leased.dispatch outcome⟩, fun u hu => ?_⟩
      obtain ⟨hid, hr⟩ := hl.fresh u hu
      exact UPAConsumer.dispatch_unused hid hr outcome
    | respond domain streamId msg =>
      obtain rfl := Option.some.inj he
      refine ⟨⟨hheld, hl.leased.respond domain streamId msg⟩, fun u hu => ?_⟩
      obtain ⟨hid, hr⟩ := hl.fresh u hu
      exact UPAConsumer.respond_unused hl.leased.held hid hr domain streamId msg
    | _ => cases he

def Exclusive (q : SubscriberStreams) : Prop := q.streams.Exclusive

theorem subscriber_streams_exclusive (configDomain : String → String) (config : TransportConfig)
    (events : List SubscriberEvent) :
    Runs.Always step Exclusive (start configDomain config) events := by
  apply Runs.always_iff_run.mpr
  intro es _
  have hk : (Runs.run step (start configDomain config) es).Kept :=
    Runs.run_inv (fun _ e h => step_kept h e) (start_kept configDomain config)
  exact UPAStreamManager.Assigned.exclusive hk.leases.leased.held

end SubscriberStreams

end RmdsBridge
