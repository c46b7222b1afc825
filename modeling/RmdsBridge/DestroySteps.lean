import RmdsBridge.DestroyTimeline

namespace RmdsBridge

namespace BridgeCallbacks

variable {s : BridgeCallbacks} {b : ℕ} {c : BridgeCallback}

def DestroyOk (s : BridgeCallbacks) (b : ℕ) (sub : RMDSBridgeSubscription) : Prop :=
  match s.subscriber.findSubscription sub.sourceName sub.symbol with
  | some upaSub => b ∈ s.subscriber.registry.listeners upaSub
  | none => (∀ c ∈ s.queues (s.queueOf b), c.bridge ≠ b) ∧
      (s.subscriber.isShutdown b = true ∨
        ∀ u < s.subscriber.upaSources.length, b ∉ s.subscriber.registry.listeners u)

instance (s : BridgeCallbacks) (b : ℕ) (sub : RMDSBridgeSubscription) : Decidable (s.DestroyOk b sub) := by
  unfold DestroyOk; split <;> infer_instance

def Admissible (s : BridgeCallbacks) : BridgeEvent → Prop
  | .subscriber (.removeSubscription b) =>
    ∀ sub ∈ s.subscriber.bridges[b]?, b ∉ s.destroyed ∧ s.DestroyOk b sub
  | .subscriber .processPending => s.subscriber.PendingOk s.destroyed
  | _ => True

instance (s : BridgeCallbacks) (e : BridgeEvent) : Decidable (s.Admissible e) := by
  unfold Admissible; split <;> infer_instance

theorem destroy_found (h : s.Kept) {sub : RMDSBridgeSubscription} {u : ℕ}
    (hsub : s.subscriber.bridges[b]? = some sub)
    (hf : s.subscriber.findSubscription sub.sourceName sub.symbol = some u)
    (hu : b ∈ s.subscriber.registry.listeners u) :
    s.destroy b = { s with
      subscriber := s.subscriber.removeSubscription b sub
      destroyRequests := s.destroyRequests ++ [(s.subscriber.consumer.requestQueue.length, b)]
      destroyed := insert b s.destroyed } := by
  have hlistens : s.findListener u b = true := decide_eq_true hu
  have hopened : (s.subscriber.consumer.subscriptions u).consumer = true :=
    h.subscribed.opened u (List.ne_nil_of_mem hu)
  unfold destroy
  rw [hsub]
  dsimp only
  rw [hf]
  dsimp only
  rw [if_pos hlistens, queueSubscriptionDestroy, if_pos hopened]
  rw [subscriberStep_remove (s := { s with destroyRequests := s.destroyRequests ++ [(_, b)] }) hsub]

theorem destroy_unknown {sub : RMDSBridgeSubscription} (hsub : s.subscriber.bridges[b]? = some sub)
    (hf : s.subscriber.findSubscription sub.sourceName sub.symbol = none) :
    s.destroy b = { s.call (.onDestroy b) with
      subscriber := s.subscriber.removeSubscription b sub
      destroyed := insert b s.destroyed } := by
  unfold destroy
  rw [hsub]
  dsimp only
  rw [hf]
  dsimp only
  rw [subscriberStep_remove (s := s.call (.onDestroy b)) hsub]
  rfl

theorem destroy_kept (h : s.Kept) (ho : s.Admissible (.subscriber (.removeSubscription b))) :
    (s.destroy b).Kept := by
  cases hsub : s.subscriber.bridges[b]? with
  | none =>
    unfold destroy
    rw [hsub]
    exact h
  | some sub =>
    obtain ⟨hb, hok⟩ := ho sub hsub
    unfold DestroyOk at hok
    cases hf : s.subscriber.findSubscription sub.sourceName sub.symbol with
    | some u =>
      rw [hf] at hok
      have hr := h.subscribed.removeSubscription hsub
        (fun u' hu' => by rw [← Option.some.inj (hf.symm.trans hu')]; exact hok)
        (fun hn => by rw [hf] at hn; cases hn)
      rw [destroy_found h hsub hf hok]
      refine h.destroyed hb hr rfl rfl rfl ?_ fun a ha => ?_
      · simp [timeline, destroyEvents, BridgeCallback.bridge]
      · simp [timeline, destroyEvents, BridgeCallback.bridge, ha.symm]
    | none =>
      rw [hf] at hok
      have hr := h.subscribed.removeSubscription hsub (fun u hu => by rw [hf] at hu; cases hu)
        fun _ => hok.2.imp_right (RMDSSubscriber.not_listens h.subscribed.kept)
      have hqueue : (s.queues (s.queueOf b)).filter (fun c => c.bridge = b) = [] := by
        rw [List.filter_eq_nil_iff]
        exact fun c hc => by simpa using hok.1 c hc
      have hevents : s.destroyEvents.filter (fun c => c.bridge = b) = [] := by
        rw [List.filter_eq_nil_iff]
        intro c hc hcb
        obtain ⟨d, hd, rfl⟩ := List.mem_map.mp hc
        obtain rfl : d.2 = b := of_decide_eq_true hcb
        exact h.live d.2 hb (mem_timeline.mpr ⟨.inr (.inr hc), rfl⟩)
      rw [destroy_unknown hsub hf]
      refine h.destroyed hb hr rfl rfl rfl ?_ fun a ha => ?_
      · simp only [timeline, destroyEvents, call, List.filter_append] at hqueue hevents ⊢
        rw [hqueue, hevents]
        simp [BridgeCallback.bridge]
      · exact s.timeline_call ha.symm

theorem Kept.of_timeline (h : s.Kept) {s' : BridgeCallbacks} (hr : s'.subscriber = s.subscriber)
    (hd : s'.destroyed = s.destroyed) (hq : ∀ q, ∀ c ∈ s'.queues q, s'.queueOf c.bridge = q)
    (ht : ∀ b, s'.timeline b = s.timeline b) : s'.Kept where
  subscribed := by
    rw [hr, hd]
    exact h.subscribed
  queued := hq
  live b hb := by
    rw [hd] at hb
    rw [ht]
    exact h.live b hb
  ended b hb := by
    rw [hd] at hb
    rw [ht]
    exact h.ended b hb

theorem dispatchQueue_kept (h : s.Kept) (q : ℕ) : (s.dispatchQueue q).Kept := by
  unfold dispatchQueue
  cases hq : s.queues q with
  | nil => exact h
  | cons c cs =>
    have hc : s.queueOf c.bridge = q := h.queued q c (by rw [hq]; exact List.mem_cons_self)
    refine h.of_timeline rfl rfl (fun q' d hd => ?_) fun b => ?_
    · change d ∈ Function.update s.queues q cs q' at hd
      by_cases hqq : q' = q
      · rw [hqq, Function.update_self] at hd
        rw [hqq]
        exact h.queued q d (by rw [hq]; exact List.mem_cons_of_mem c hd)
      · rw [Function.update_of_ne hqq] at hd
        exact h.queued q' d hd
    · unfold timeline call destroyEvents
      dsimp only
      by_cases hqb : s.queueOf b = q
      · rw [hqb, Function.update_self, hq, List.append_assoc s.calls, List.singleton_append]
      · have hcb : c.bridge ≠ b := by
          rintro rfl
          exact hqb hc
        rw [Function.update_of_ne hqb]
        simp [hcb]

theorem dispatch_kept (h : s.Kept) (o : SendOutcome) :
    (s.dispatch o).Kept ∧ (s.dispatch o).queueOf = s.queueOf ∧ (s.dispatch o).destroyed = s.destroyed := by
  unfold dispatch
  split
  case h_1 b requests heq =>
    refine ⟨h.of_timeline rfl rfl ?_ fun a => ?_, rfl, rfl⟩
    · exact queued_enqueueEvent h (.onDestroy b)
    · unfold timeline enqueueEvent destroyEvents
      dsimp only [BridgeCallback.bridge]
      rw [heq]
      by_cases hq : s.queueOf a = s.queueOf b
      · rw [hq, Function.update_self]
        simp
      · have hba : b ≠ a := by
          rintro rfl
          exact hq rfl
        rw [Function.update_of_ne hq]
        simp [hba]
  case h_2 =>
    have hr := h.subscribed.keep (e := .dispatch o) trivial
    obtain ⟨hkept, hqueueOf, hrequests, hdestroyed⟩ :=
      subscriberStep_kept h (e := .dispatch o) hr fun he => by cases he
    refine ⟨hkept.of_timeline rfl rfl hkept.queued fun a => ?_, hqueueOf, hdestroyed⟩
    unfold timeline destroyEvents
    rw [hrequests, List.map_map]
    rfl

theorem step_kept (h : s.Kept) {e : BridgeEvent} (ho : s.Admissible e) : (s.step e).Kept := by
  cases e with
  | subscriber e =>
    have hkeep (he : RMDSSubscriber.Keeps e) : (s.subscriberStep e).Kept := by
      refine (subscriberStep_kept h (h.subscribed.keep he) fun heq => ?_).1
      rw [heq] at he
      exact absurd he id
    cases e with
    | removeSubscription b => exact destroy_kept h ho
    | dispatch outcome => exact (dispatch_kept h outcome).1
    | processPending =>
      refine (subscriberStep_kept (e := .processPending) h (h.subscribed.processPending ho)
        fun _ b hb hd => ?_).1
      have hbad := hb
      unfold RMDSSubscriber.badSource at hbad
      split_ifs at hbad with hp
      · have hhead := (Option.filter_eq_some_iff.mp hbad).1
        have hnone := (ho hp b hhead hd).1
        rw [hb] at hnone
        cases hnone
    | _ => exact hkeep trivial
  | mute b => exact h.setBridge fun sub _ _ => rfl
  | pauseUpdates b paused => exact h.setBridge fun sub _ hs => hs
  | dispatchQueue q => exact dispatchQueue_kept h q

end BridgeCallbacks

end RmdsBridge
