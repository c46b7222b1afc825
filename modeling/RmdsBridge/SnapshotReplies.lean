import RmdsBridge.SnapshotTurns

namespace RmdsBridge

namespace SnapshotSession

variable {q : SnapshotSession} {opened : Finset ℕ} {u k : ℕ}

theorem step_dispatch_streams (q : SnapshotSession) (o : SendOutcome) :
    (q.step (.dispatch o)).streams =
      match q.subscriber.consumer.streamTaken o with
      | some u => log q.streams (q.snapshots u) ((q.subscriber.consumer.dispatch o).ids u)
      | none => q.streams := rfl

theorem step_dispatch_requests (q : SnapshotSession) (o : SendOutcome) :
    (q.step (.dispatch o)).requests =
      match q.subscriber.consumer.requestSent (.dispatch o) with
      | some u => log q.requests (q.snapshots u) ((q.subscriber.consumer.dispatch o).ids u)
      | none => q.requests := rfl

theorem dispatch_logs {r : Request ℕ} {rs : List (Request ℕ)} (o : SendOutcome)
    (hq : q.subscriber.consumer.requestQueue = r :: rs) (hk : q.snapshots r.sub ≠ some k) :
    (q.step (.dispatch o)).streams k = q.streams k ∧ (q.step (.dispatch o)).requests k = q.requests k := by
  rw [step_dispatch_streams, step_dispatch_requests]
  constructor
  · rw [UPAConsumer.streamTaken_cons hq]
    split_ifs
    · exact log_of_ne hk _
    · rfl
  · cases hsent : q.subscriber.consumer.requestSent (.dispatch o) with
    | none => rfl
    | some s =>
      rw [(UPAConsumer.requestSent_cons hq hsent).1]
      exact log_of_ne hk _

theorem dispatch_own {r : Request ℕ} {rs : List (Request ℕ)} (o : SendOutcome)
    (hq : q.subscriber.consumer.requestQueue = r :: rs) (hu : q.snapshots r.sub = some k)
    (ht : q.Tracked r.sub k) : (q.step (.dispatch o)).Tracked r.sub k := by
  set c := q.subscriber.consumer
  obtain ⟨hself, -⟩ := UPAConsumer.requestsOf_cons hq (UPAConsumer.dispatch_requestQueue hq o)
  obtain hnil | ⟨hone, hid⟩ := ht.queue
  · rw [hself] at hnil
    cases hnil
  · rw [hself] at hone
    obtain ⟨hkind, hrest⟩ := List.cons.inj hone
    have hclose : r.kind ≠ .close := by
      rw [hkind]
      exact RequestKind.noConfusion
    obtain ⟨id, hsub⟩ := UPAConsumer.dispatch_opens hq hclose o
    have hids : (c.dispatch o).ids r.sub = id := by
      unfold UPAConsumer.ids
      rw [hsub]
    have hunheard := ht.unheard hid
    have hstreams : q.streams k = [] := ht.streams.trans (if_pos hid)
    have hrequests : q.requests k = [] := by
      have hsublist := ht.requests
      rw [hstreams] at hsublist
      exact List.sublist_nil.mp hsublist
    have hstreams' : (q.step (.dispatch o)).streams k = if id = 0 then [] else [id] := by
      rw [step_dispatch_streams, UPAConsumer.streamTaken_cons hq, hids]
      by_cases h0 : id = 0
      · rw [if_neg fun h => h.2 h0, if_pos h0]
        exact hstreams
      · rw [if_pos ⟨hid, h0⟩, if_neg h0]
        dsimp only
        rw [hu, log_self, hstreams, hids]
        rfl
    refine ⟨ht.spare, ht.number_lt, ?_, ?_, .inl hrest, fun _ => hunheard, ?_, ht.inbox⟩
    · rw [hstreams']
      exact (if_congr (by rw [← hids]; rfl) rfl (by rw [← hids]; rfl))
    · rw [hstreams', step_dispatch_requests]
      cases hsent : c.requestSent (.dispatch o) with
      | none =>
        dsimp only
        rw [hrequests]
        exact List.nil_sublist _
      | some s =>
        obtain ⟨rfl, h0⟩ := UPAConsumer.requestSent_cons hq hsent
        dsimp only
        rw [hu, log_self, hrequests, if_neg (hids ▸ h0)]
        rw [← hids]
        exact List.Sublist.refl _
    · change (SnapshotCourse.of (q.heard k)).Fits ((c.dispatch o).subscriptions r.sub)
      have hc := ht.course
      rw [hsub]
      rw [hunheard] at hc ⊢
      exact hc

theorem dispatch_tracked (h : q.Kept opened) (o : SendOutcome) (ht : q.Tracked u k)
    (hu : q.snapshots u = some k) : (q.step (.dispatch o)).Tracked u k := by
  set c := q.subscriber.consumer
  have hspare : (q.step (.dispatch o)).subscriber.Spare u := ht.spare
  cases hq : c.requestQueue with
  | nil =>
    have hd : c.dispatch o = c := UPAConsumer.dispatch_nil hq o
    apply ht.same hspare
    · exact congrArg (fun c => UPAConsumer.subscriptions c u) hd
    · exact congrArg (fun c => UPAConsumer.requestsOf c u) hd
    · exact le_rfl
    · rw [step_dispatch_streams, UPAConsumer.streamTaken, hq]
      rfl
    · have hsent : q.subscriber.consumer.requestSent (.dispatch o) = none := by
        simp only [UPAConsumer.requestSent, show q.subscriber.consumer.requestQueue = [] from hq]
      rw [step_dispatch_requests, hsent]
    · rfl
    · rfl
  | cons r rs =>
    by_cases hv : r.sub = u
    · subst hv
      exact dispatch_own o hq hu ht
    · obtain ⟨hstreams, hrequests⟩ := dispatch_logs (k := k) o hq fun hk => hv (h.single _ u k hk hu)
      obtain ⟨-, hother⟩ := UPAConsumer.requestsOf_cons hq (UPAConsumer.dispatch_requestQueue hq o)
      have hne : u ≠ r.sub := Ne.symm hv
      exact ht.same hspare (UPAConsumer.dispatch_of_ne hq hne o) (hother u hne).symm le_rfl hstreams
        hrequests rfl rfl

theorem step_respond_heard (q : SnapshotSession) (domain : Domain) (streamId : ℕ) (msg : RsslMsg) (k : ℕ) :
    (q.step (.respond domain streamId msg)).heard k =
      if streamId % 2 ^ 32 ∈ q.streams k then q.heard k ++ [(domain, msg)] else q.heard k := rfl

theorem step_respond_inbox (q : SnapshotSession) (domain : Domain) (streamId : ℕ) (msg : RsslMsg) :
    (q.step (.respond domain streamId msg)).inbox =
      match q.subscriber.consumer.snapshotCompleted (.respond domain streamId msg) with
      | some u => log q.inbox (q.snapshots u) (snapshotStatus msg)
      | none => q.inbox := rfl

theorem next_waiting_answered {domain : Domain} {msg : RsslMsg} {status : SnapshotStatus}
    (h : SnapshotCourse.waiting.next domain msg = .answered status) : status = snapshotStatus msg := by
  cases msg with
  | refresh s d =>
    dsimp only [SnapshotCourse.next] at h
    split_ifs at h
    exact (SnapshotCourse.answered.inj h).symm
  | update u ds d =>
    dsimp only [SnapshotCourse.next] at h
    split_ifs at h
    exact (SnapshotCourse.answered.inj h).symm
  | status s =>
    cases s with
    | none => cases h
    | some s =>
      dsimp only [SnapshotCourse.next] at h
      split_ifs at h
      exact (SnapshotCourse.answered.inj h).symm
  | ack => cases h
  | other => cases h

theorem respond_tracked (h : q.Kept opened) (domain : Domain) (streamId : ℕ) (msg : RsslMsg)
    (ht : q.Tracked u k) (hu : q.snapshots u = some k) :
    (q.step (.respond domain streamId msg)).Tracked u k := by
  set c := q.subscriber.consumer with hc
  set q' := q.step (.respond domain streamId msg)
  have hheld := h.session.leases.leased.held
  have hids : q'.subscriber.consumer.ids u = c.ids u :=
    congrFun (c.respond_ids domain streamId msg) u
  have hreq : q'.subscriber.consumer.requestsOf u = c.requestsOf u :=
    c.respond_requestsOf domain streamId msg u
  have hcourse : (SnapshotCourse.of (q'.heard k)).Fits (q'.subscriber.consumer.subscriptions u) ∧
      q'.inbox k = (SnapshotCourse.of (q'.heard k)).reply.toList := by
    by_cases htar : c.target domain streamId = some u
    · obtain ⟨hid, hitem⟩ := hheld.target htar
      have hmem : streamId % 2 ^ 32 ∈ q.streams k := by
        rw [ht.streams, if_neg hid]
        exact List.mem_singleton.mpr
          ((UPAConsumer.target_of_item hheld hid hitem domain streamId).mp htar)
      obtain ⟨hsub, hdone⟩ := UPAConsumer.respond_self msg htar
      have hfits := (c.handling u).processResponse_course u ht.course domain msg
      rw [step_respond_heard, if_pos hmem, SnapshotCourse.of_concat]
      refine ⟨hsub ▸ hfits, ?_⟩
      have hinbox := ht.inbox
      have hcourse := ht.course
      rw [step_respond_inbox, hdone]
      cases hold : SnapshotCourse.of (q.heard k) with
      | waiting =>
        rw [hold] at hinbox hcourse hfits
        cases hnext : SnapshotCourse.waiting.next domain msg with
        | waiting =>
          rw [hnext] at hfits
          rw [if_neg fun hdone => Bool.false_ne_true (hdone.2.symm.trans hfits.2.1)]
          exact hinbox
        | answered status =>
          rw [hnext] at hfits
          rw [if_pos ⟨hcourse.2.1, hfits⟩]
          dsimp only
          rw [hu, log_self, hinbox, next_waiting_answered hnext]
          rfl
        | lost =>
          rw [hnext] at hfits
          rw [if_neg fun hdone => Bool.false_ne_true (hdone.2.symm.trans hfits.1)]
          exact hinbox
      | answered status =>
        rw [hold] at hinbox hcourse
        rw [if_neg fun hdone => Bool.false_ne_true (hcourse.symm.trans hdone.1)]
        exact hinbox
      | lost =>
        rw [hold] at hinbox hfits
        rw [if_neg fun hdone => Bool.false_ne_true (hdone.2.symm.trans hfits.1)]
        exact hinbox
    · obtain ⟨hsub, hdone⟩ := UPAConsumer.respond_of_ne msg htar
      have hinbox : q'.inbox k = q.inbox k := by
        rw [step_respond_inbox]
        cases hv : q.subscriber.consumer.snapshotCompleted (.respond domain streamId msg) with
        | none => rfl
        | some v =>
          apply log_of_ne
          intro hk
          exact hdone (hv.trans (congrArg some (h.single v u k hk hu)))
      have hsame : SnapshotCourse.of (q'.heard k) = SnapshotCourse.of (q.heard k) := by
        rw [step_respond_heard]
        split_ifs with hmem
        · -- the message is on the stream of an answered snapshot
          rw [SnapshotCourse.of_concat]
          have hcourse := ht.course
          have hsnap : (c.subscriptions u).snapShot ≠ true := by
            intro hsnap
            rw [ht.streams] at hmem
            split_ifs at hmem with h0
            · cases hmem
            · have hitem := (h.session.leases.leased.orderly u).item h0 (.inr (.inr hsnap))
              apply htar
              exact (UPAConsumer.target_of_item hheld h0 hitem domain streamId).mpr
                (List.mem_singleton.mp hmem)
          cases hold : SnapshotCourse.of (q.heard k) with
          | waiting =>
            rw [hold] at hcourse
            exact absurd hcourse.2.1 hsnap
          | answered status => rfl
          | lost =>
            rw [hold] at hcourse
            exact absurd hcourse.1 hsnap
        · rfl
      rw [hsame, hinbox]
      refine ⟨?_, ht.inbox⟩
      exact (congrArg (fun sub => (SnapshotCourse.of (q.heard k)).Fits sub) hsub).mpr ht.course
  refine ⟨ht.spare, ht.number_lt, ?_, ht.requests, ?_, ?_, hcourse.1, hcourse.2⟩
  · rw [hids]
    exact ht.streams
  · rw [hreq, hids]
    exact ht.queue
  · intro h0
    rw [hids] at h0
    rw [step_respond_heard, ht.streams, if_pos h0, if_neg List.not_mem_nil]
    exact ht.unheard h0

theorem step_kept (h : ∃ opened, q.Kept opened) (e : SubscriberEvent) :
    ∃ opened, (q.step e).Kept opened := by
  obtain ⟨opened, h⟩ := h
  have hsession := SubscriberStreams.step_kept h.session e
  have hother {q' : SnapshotSession} (he : e.toConsumer = none)
      (hq : q' = { q with subscriber := q.subscriber.step e }) : ∃ opened, q'.Kept opened :=
    ⟨opened, h.moved he hq⟩
  cases e with
  | processPending => exact ⟨opened, processPending_kept h⟩
  | dispatch o =>
    refine ⟨_, hsession, fun u k hu => dispatch_tracked h o (h.tracked u k hu) hu, h.single,
      fun k hno => ?_, h.refused⟩
    obtain ⟨hstreams, hrequests, hheard, hinbox⟩ := h.untracked k hno
    refine ⟨?_, ?_, hheard, hinbox⟩
    · rw [step_dispatch_streams]
      cases q.subscriber.consumer.streamTaken o with
      | none => exact hstreams
      | some v => exact (log_of_ne (hno v) _).trans hstreams
    · rw [step_dispatch_requests]
      cases q.subscriber.consumer.requestSent (.dispatch o) with
      | none => exact hrequests
      | some v => exact (log_of_ne (hno v) _).trans hrequests
  | respond domain streamId msg =>
    refine ⟨_, hsession, fun u k hu => respond_tracked h domain streamId msg (h.tracked u k hu) hu,
      h.single, fun k hno => ?_, h.refused⟩
    obtain ⟨hstreams, hrequests, hheard, hinbox⟩ := h.untracked k hno
    refine ⟨hstreams, hrequests, ?_, ?_⟩
    · rw [step_respond_heard, hstreams, if_neg List.not_mem_nil]
      exact hheard
    · rw [step_respond_inbox]
      cases q.subscriber.consumer.snapshotCompleted (.respond domain streamId msg) with
      | none => exact hinbox
      | some v => exact (log_of_ne (hno v) _).trans hinbox
  | _ => exact hother rfl rfl

theorem start_kept (configDomain : String → String) (config : TransportConfig) :
    (start configDomain config).Kept ∅ where
  session := SubscriberStreams.start_kept configDomain config
  tracked u k hu := by cases hu
  single u v k hu := by cases hu
  untracked k _ := ⟨rfl, rfl, rfl, rfl⟩
  refused k hk := by cases hk

/-- Whatever else goes on, a snapshot takes one stream id and sends one request at most, and what comes to
its inbox is what the first message on its stream that decides asks for. -/
theorem snapshot_replies (configDomain : String → String) (config : TransportConfig)
    (events : List SubscriberEvent) (k : ℕ) :
    let q := Runs.run step (start configDomain config) events
    q.inbox k = (SnapshotCourse.of (q.heard k)).reply.toList ∧
      (q.requests k).Sublist (q.streams k) ∧ (q.streams k).length ≤ 1 ∧
      (k ∈ q.refused ∨ q.taken ≤ k → q.streams k = [] ∧ q.inbox k = []) := by
  intro q
  obtain ⟨opened, h⟩ : ∃ opened, q.Kept opened :=
    Runs.run_inv (I := fun q : SnapshotSession => ∃ opened, q.Kept opened) (fun _ e hq => step_kept hq e)
      ⟨∅, start_kept configDomain config⟩
  by_cases hk : ∃ u, q.snapshots u = some k
  · obtain ⟨u, hu⟩ := hk
    have ht := h.tracked u k hu
    refine ⟨ht.inbox, ht.requests, ?_, fun hno => ?_⟩
    · rw [ht.streams]
      split_ifs <;> simp
    · rcases hno with hno | hno
      · exact absurd hu ((h.refused k hno).2 u)
      · exact absurd ht.number_lt (not_lt.mpr hno)
  · obtain ⟨hstreams, hrequests, hheard, hinbox⟩ := h.untracked k fun u hu => hk ⟨u, hu⟩
    rw [hstreams, hrequests, hheard, hinbox]
    exact ⟨rfl, List.nil_sublist _, Nat.zero_le _, fun _ => ⟨rfl, rfl⟩⟩

end SnapshotSession

end RmdsBridge
