import RmdsBridge.SnapshotSession

namespace RmdsBridge

namespace SnapshotSession

variable {q : SnapshotSession} {opened : Finset ℕ} {u k : ℕ}

theorem Tracked.same {q' : SnapshotSession} (h : q.Tracked u k) (hspare : q'.subscriber.Spare u)
    (hsub : q'.subscriber.consumer.subscriptions u = q.subscriber.consumer.subscriptions u)
    (hreq : q'.subscriber.consumer.requestsOf u = q.subscriber.consumer.requestsOf u)
    (ht : q.taken ≤ q'.taken) (hstreams : q'.streams k = q.streams k)
    (hrequests : q'.requests k = q.requests k) (hheard : q'.heard k = q.heard k)
    (hinbox : q'.inbox k = q.inbox k) : q'.Tracked u k := by
  have hids : q'.subscriber.consumer.ids u = q.subscriber.consumer.ids u := by
    unfold UPAConsumer.ids
    rw [hsub]
  refine ⟨hspare, h.number_lt.trans_le ht, ?_, ?_, ?_, ?_, ?_, ?_⟩
  · rw [hstreams, hids]
    exact h.streams
  · rw [hstreams, hrequests]
    exact h.requests
  · rw [hreq, hids]
    exact h.queue
  · rw [hids, hheard]
    exact h.unheard
  · rw [hsub, hheard]
    exact h.course
  · rw [hinbox, hheard]
    exact h.inbox

theorem Kept.moved {q' : SnapshotSession} {e : SubscriberEvent} (h : q.Kept opened)
    (he : e.toConsumer = none) (hq : q' = { q with subscriber := q.subscriber.step e }) :
    q'.Kept opened := by
  have hm := RMDSSubscriber.step_moves h.session.waiting.tidy he
  have hsession : SubscriberStreams.Kept ⟨q.subscriber.step e, opened⟩ :=
    ⟨SubscriberStreams.step_waiting h.session.waiting e, h.session.leases.moves hm⟩
  subst hq
  refine ⟨hsession, fun u k hk => ?_, h.single, h.untracked, h.refused⟩
  have htracked := h.tracked u k hk
  obtain ⟨hspare, hsub, hreq⟩ := h.session.leases.spares hm htracked.spare
  exact htracked.same hspare hsub hreq le_rfl rfl rfl rfl rfl

theorem processPending_eq {r : RMDSSubscriber} {snap : RMDSBridgeSnapshot} {snaps : List RMDSBridgeSnapshot}
    (hp : r.processing = .snapshots) (hq : r.pendingSnapshots = snap :: snaps) :
    r.processPending = RMDSSubscriber.addSnapshotToSource { r with pendingSnapshots := snaps } snap := by
  obtain ⟨_, _, _, _, _, _, _, _, _, _, _, _, _⟩ := r
  dsimp only at hp hq
  subst hp hq
  rfl

theorem processPending_snapshot {r : RMDSSubscriber} {snap : RMDSBridgeSnapshot} {keyId : ℕ}
    {src : RMDSSource} (ht : r.registry.Tidy) (hn : nextSnapshot r = some snap)
    (hf : r.sources.find snap.sourceName = some (keyId, src)) :
    r.processPending.Spare r.upaSources.length ∧
      r.processPending.consumer =
        (RMDSSubscriber.newSubscription r.consumer r.upaSources.length snap.symbol src.sourceDomain).step
          (.snapshot r.upaSources.length) := by
  unfold nextSnapshot at hn
  split_ifs at hn with hp
  obtain ⟨snaps, hq⟩ : ∃ snaps, r.pendingSnapshots = snap :: snaps := List.head?_eq_some_iff.mp hn
  set r' : RMDSSubscriber := { r with pendingSnapshots := snaps }
  have hstep : r.processPending = r'.addSnapshotToSource snap := processPending_eq hp hq
  have hm : r'.Move (r'.addSnapshotToSource snap) :=
    RMDSSubscriber.addSnapshotToSource_move (r := r') ht hf
  have hadd : r'.addSnapshotToSource snap =
      ((r'.createSubscription keyId snap.symbol).2.call (.setDomain r.upaSources.length src.sourceDomain)).call
        (.snapshot r.upaSources.length) := by
    unfold RMDSSubscriber.addSnapshotToSource
    rw [show r'.sources.find snap.sourceName = some (keyId, src) from hf]
    rfl
  rw [hstep]
  refine ⟨⟨?_, fun hl => ?_⟩, by rw [hadd]; rfl⟩
  · rw [hadd]
    change r.upaSources.length < (r.upaSources ++ [keyId]).length
    simp
  · rw [hadd] at hl
    change (r'.createSubscription keyId snap.symbol).2.registry.Listed _ at hl
    rw [RMDSSubscriber.createSubscription_registry (r := r') ht] at hl
    exact lt_irrefl _ (RMDSSubscriber.lt_of_listed ((Registry.Tidy.listed_own ht r.owner_length keyId).mp hl))

theorem snapshot_subscription (c : UPAConsumer ℕ ℕ) (u : ℕ) :
    SnapshotCourse.waiting.Fits ((c.step (.snapshot u)).subscriptions u) := by
  have hs : (c.step (.snapshot u)).subscriptions u = { c.subscriptions u with
      state := .subscribing
      consumer := true
      isSnapshot := true
      snapShot := true } := Function.update_self ..
  rw [hs]
  exact ⟨rfl, rfl, by simp⟩

theorem processPending_kept (h : q.Kept opened) : (q.step .processPending).Kept opened := by
  cases hn : nextSnapshot q.subscriber with
  | none =>
    apply h.moved (e := .processPending) rfl
    unfold step take
    dsimp only
    rw [hn]
  | some snap =>
    cases hf : q.subscriber.sources.find snap.sourceName with
    | none =>
      have hk := h.moved (e := .processPending) rfl rfl
      have hq : q.step .processPending =
          { q with
            subscriber := q.subscriber.processPending
            taken := q.taken + 1
            refused := q.refused ++ [q.taken] } := by
        unfold step take
        dsimp only
        rw [hn]
        dsimp only
        rw [hf]
        rfl
      rw [hq]
      refine ⟨hk.session, fun u k hu => ?_, h.single, h.untracked, fun k hk' => ?_⟩
      · have ht := hk.tracked u k hu
        exact ht.same ht.spare rfl rfl (Nat.le_succ _) rfl rfl rfl rfl
      · rcases List.mem_append.mp hk' with hk' | hk'
        · exact ⟨(h.refused k hk').1.trans (Nat.lt_succ_self _), (h.refused k hk').2⟩
        · rw [List.mem_singleton.mp hk']
          exact ⟨Nat.lt_succ_self _, fun u hu => lt_irrefl _ (h.tracked u q.taken hu).number_lt⟩
    | some x =>
      have ht := h.session.waiting.tidy
      have hk := h.moved (e := .processPending) rfl rfl
      have hq : q.step .processPending =
          { q with
            subscriber := q.subscriber.processPending
            taken := q.taken + 1
            snapshots := Function.update q.snapshots q.subscriber.upaSources.length (some q.taken) } := by
        unfold step take
        dsimp only
        rw [hn]
        dsimp only
        rw [hf]
        rfl
      obtain ⟨hspare, hc⟩ := processPending_snapshot ht hn hf
      obtain ⟨hid, hr⟩ := h.session.leases.fresh _ le_rfl
      obtain ⟨sub, hnew, -⟩ :=
        RMDSSubscriber.newSubscription_called h.session.leases snap.symbol x.2.sourceDomain
      set n := q.subscriber.upaSources.length
      obtain ⟨sub', hsnap⟩ := (RMDSSubscriber.newSubscription q.subscriber.consumer n snap.symbol
        x.2.sourceDomain).called_of_snapshot n
      have hcall := hnew.append hsnap
      rw [← hc] at hcall
      have hnone (v k : ℕ) (hv : q.snapshots v = some k) : v ≠ n ∧ k ≠ q.taken :=
        ⟨ne_of_lt (h.tracked v k hv).spare.1, ne_of_lt (h.tracked v k hv).number_lt⟩
      obtain ⟨hstreams, hrequests, hheard, hinbox⟩ := h.untracked q.taken fun v hv => (hnone v _ hv).2 rfl
      rw [hq]
      refine ⟨hk.session, fun v k hv => ?_, fun v w k hv hw => ?_, fun k hno => ?_, fun k hk' => ?_⟩
      · by_cases hvn : v = n
        · subst hvn
          simp only [Function.update_self, Option.some.injEq] at hv
          subst hv
          have hid' : q.subscriber.processPending.consumer.ids n = 0 := (congrFun hcall.ids_eq n).trans hid
          refine ⟨hspare, Nat.lt_succ_self _, ?_, ?_, .inr ⟨?_, hid'⟩, fun _ => hheard, ?_, ?_⟩
          · dsimp only
            rw [if_pos hid', hstreams]
          · dsimp only
            rw [hrequests]
            exact List.nil_sublist _
          · exact hcall.requestsOf_self.trans (by rw [hr]; rfl)
          · dsimp only
            rw [hheard, hc]
            exact snapshot_subscription _ n
          · dsimp only
            rw [hheard, hinbox]
            rfl
        · have htracked := hk.tracked v k ((Function.update_of_ne hvn ..).symm.trans hv)
          exact htracked.same htracked.spare rfl rfl (Nat.le_succ _) rfl rfl rfl rfl
      · have hnew {v : ℕ} (hv : Function.update q.snapshots n (some q.taken) v = some k) :
            v = n ∧ k = q.taken ∨ q.snapshots v = some k := by
          by_cases hvn : v = n
          · subst hvn
            rw [Function.update_self] at hv
            exact .inl ⟨rfl, (Option.some.inj hv).symm⟩
          · exact .inr ((Function.update_of_ne hvn ..).symm.trans hv)
        rcases hnew hv with ⟨rfl, hkv⟩ | hv' <;> rcases hnew hw with ⟨rfl, hkw⟩ | hw'
        · rfl
        · exact absurd hkv (hnone w k hw').2
        · exact absurd hkw (hnone v k hv').2
        · exact h.single v w k hv' hw'
      · apply h.untracked k
        intro v hv
        exact hno v ((Function.update_of_ne (hnone v k hv).1 ..).trans hv)
      · refine ⟨(h.refused k hk').1.trans (Nat.lt_succ_self _), fun v hv => ?_⟩
        by_cases hvn : v = n
        · subst hvn
          simp only [Function.update_self, Option.some.injEq] at hv
          exact ne_of_lt (h.refused k hk').1 hv.symm
        · exact (h.refused k hk').2 v ((Function.update_of_ne hvn ..).symm.trans hv)

end SnapshotSession

end RmdsBridge
