import RmdsBridge.DestroyedListeners

namespace RmdsBridge

section EndsWith

variable {α : Type*} {x : α} {l l' : List α}

def EndsWith (x : α) (l : List α) : Prop := ∃ l₀, l = l₀ ++ [x] ∧ x ∉ l₀

theorem EndsWith.concat (h : x ∉ l) : EndsWith x (l ++ [x]) := ⟨l, rfl, h⟩

theorem EndsWith.count [DecidableEq α] (h : EndsWith x l) : l.count x = 1 := by
  obtain ⟨l₀, rfl, h0⟩ := h
  rw [List.count_append, List.count_eq_zero_of_not_mem h0]
  simp

theorem EndsWith.rest_eq_nil (h : EndsWith x (l ++ x :: l')) : l' = [] := by
  obtain ⟨l₀, heq, h0⟩ := h
  rcases List.eq_nil_or_concat' l' with rfl | ⟨l₁, y, rfl⟩
  · rfl
  · have heq' : (l ++ x :: l₁) ++ [y] = l₀ ++ [x] := by simpa using heq
    have hinit := (List.append_inj' heq' rfl).1
    rw [← hinit] at h0
    simp at h0

end EndsWith

theorem isShutdown_onMessage (b : RMDSBridgeSubscription) (t : MamaMsgType) :
    (b.onMessage t).2.isShutdown = b.isShutdown := by
  unfold RMDSBridgeSubscription.onMessage
  split_ifs <;> rfl

theorem onMessage_shutdown {b : RMDSBridgeSubscription} (h : b.isShutdown = true) (t : MamaMsgType) :
    (b.onMessage t).1 = false := by
  unfold RMDSBridgeSubscription.onMessage
  rw [h]
  rfl

namespace BridgeCallbacks

variable {s : BridgeCallbacks} {b : ℕ} {c : BridgeCallback}

def destroyEvents (s : BridgeCallbacks) : List BridgeCallback :=
  s.destroyRequests.map fun d => .onDestroy d.2

def timeline (s : BridgeCallbacks) (b : ℕ) : List BridgeCallback :=
  (s.calls ++ s.queues (s.queueOf b) ++ s.destroyEvents).filter fun c => c.bridge = b

theorem mem_timeline : c ∈ s.timeline b ↔
    (c ∈ s.calls ∨ c ∈ s.queues (s.queueOf b) ∨ c ∈ s.destroyEvents) ∧ c.bridge = b := by
  simp [timeline, or_and_right]

structure Kept (s : BridgeCallbacks) : Prop where
  subscribed : s.subscriber.Subscribed s.destroyed
  queued : ∀ q, ∀ c ∈ s.queues q, s.queueOf c.bridge = q
  live : ∀ b ∉ s.destroyed, .onDestroy b ∉ s.timeline b
  ended : ∀ b ∈ s.destroyed, EndsWith (.onDestroy b) (s.timeline b)

theorem timeline_call (s : BridgeCallbacks) (hb : c.bridge ≠ b) : (s.call c).timeline b = s.timeline b := by
  simp [timeline, destroyEvents, call, hb]

theorem timeline_enqueueEvent (s : BridgeCallbacks) (hb : c.bridge ≠ b) :
    (s.enqueueEvent c).timeline b = s.timeline b := by
  unfold timeline destroyEvents enqueueEvent
  dsimp only
  by_cases hq : s.queueOf b = s.queueOf c.bridge
  · rw [hq, Function.update_self]
    simp [hb]
  · rw [Function.update_of_ne hq]

theorem Kept.call (h : s.Kept) (hc : c.bridge ∉ s.destroyed) (hd : ∀ b, c ≠ .onDestroy b) :
    (s.call c).Kept where
  subscribed := h.subscribed
  queued := h.queued
  live b hb hm := by
    rcases mem_timeline.mp hm with ⟨hm | hm, hbridge⟩
    · rcases List.mem_append.mp hm with hm | hm
      · exact h.live b hb (mem_timeline.mpr ⟨.inl hm, hbridge⟩)
      · exact hd b (List.mem_singleton.mp hm).symm
    · exact h.live b hb (mem_timeline.mpr ⟨.inr hm, hbridge⟩)
  ended b hb := by
    rw [s.timeline_call fun heq => hc (heq ▸ hb)]
    exact h.ended b hb

theorem queued_enqueueEvent (h : s.Kept) (c : BridgeCallback) (q : ℕ) :
    ∀ d ∈ (s.enqueueEvent c).queues q, s.queueOf d.bridge = q := by
  intro d hd
  change d ∈ Function.update s.queues (s.queueOf c.bridge) _ q at hd
  by_cases hq : q = s.queueOf c.bridge
  · rw [hq, Function.update_self] at hd
    rcases List.mem_append.mp hd with hd | hd
    · rw [hq]
      exact h.queued _ d hd
    · rw [hq, List.mem_singleton.mp hd]
  · rw [Function.update_of_ne hq] at hd
    exact h.queued q d hd

theorem Kept.enqueueEvent (h : s.Kept) (hc : c.bridge ∉ s.destroyed) (hd : ∀ b, c ≠ .onDestroy b) :
    (s.enqueueEvent c).Kept where
  subscribed := h.subscribed
  queued := queued_enqueueEvent h c
  live b hb hm := by
    by_cases hcb : c.bridge = b
    · have hqueues : (s.enqueueEvent c).queues (s.queueOf b) = s.queues (s.queueOf b) ++ [c] := by
        rw [← hcb]
        exact Function.update_self ..
      rcases mem_timeline.mp hm with ⟨hm | hm | hm, hbridge⟩
      · exact h.live b hb (mem_timeline.mpr ⟨.inl hm, hbridge⟩)
      · change _ ∈ (s.enqueueEvent c).queues (s.queueOf b) at hm
        rw [hqueues] at hm
        rcases List.mem_append.mp hm with hm | hm
        · exact h.live b hb (mem_timeline.mpr ⟨.inr (.inl hm), hbridge⟩)
        · exact hd b (List.mem_singleton.mp hm).symm
      · exact h.live b hb (mem_timeline.mpr ⟨.inr (.inr hm), hbridge⟩)
    · rw [s.timeline_enqueueEvent hcb] at hm
      exact h.live b hb hm
  ended b hb := by
    rw [s.timeline_enqueueEvent fun heq => hc (heq ▸ hb)]
    exact h.ended b hb

theorem Kept.subscriber (h : s.Kept) {r : RMDSSubscriber} (hr : r.Subscribed s.destroyed) :
    Kept { s with subscriber := r } := ⟨hr, h.queued, h.live, h.ended⟩

theorem isShutdown_setBridge {f : RMDSBridgeSubscription → RMDSBridgeSubscription}
    (hf : ∀ sub, s.subscriber.bridges[b]? = some sub → sub.isShutdown = true → (f sub).isShutdown = true)
    {a : ℕ} (ha : s.subscriber.isShutdown a = true) :
    (s.setBridge b f).subscriber.isShutdown a = true := by
  unfold RMDSSubscriber.isShutdown setBridge at *
  dsimp only
  rw [List.getElem?_modify]
  cases hsub : s.subscriber.bridges[a]? with
  | none => simp [hsub] at ha
  | some sub =>
    rw [hsub] at ha
    split_ifs with hab
    · rw [hab] at hf
      exact hf sub hsub ha
    · exact ha

theorem Kept.setBridge (h : s.Kept) {f : RMDSBridgeSubscription → RMDSBridgeSubscription}
    (hf : ∀ sub, s.subscriber.bridges[b]? = some sub → sub.isShutdown = true → (f sub).isShutdown = true) :
    (s.setBridge b f).Kept := by
  refine h.subscriber ⟨?_, h.subscribed.opened, h.subscribed.single, fun a ha u hu => ?_⟩
  · rw [List.length_modify]
    exact h.subscribed.kept
  · exact isShutdown_setBridge hf (h.subscribed.shut a ha u hu)

structure Tells (s s' : BridgeCallbacks) : Prop where
  queueOf : s'.queueOf = s.queueOf
  destroyRequests : s'.destroyRequests = s.destroyRequests
  destroyed : s'.destroyed = s.destroyed
  shutdown : ∀ a, s.subscriber.isShutdown a = true → s'.subscriber.isShutdown a = true

theorem Tells.refl (s : BridgeCallbacks) : s.Tells s := ⟨rfl, rfl, rfl, fun _ ha => ha⟩

theorem Tells.trans {s' s'' : BridgeCallbacks} (a : s.Tells s') (b : s'.Tells s'') : s.Tells s'' where
  queueOf := b.queueOf.trans a.queueOf
  destroyRequests := b.destroyRequests.trans a.destroyRequests
  destroyed := b.destroyed.trans a.destroyed
  shutdown c hc := b.shutdown c (a.shutdown c hc)

theorem onMessage_kept (h : s.Kept) (async : Bool) (t : MamaMsgType)
    (hb : b ∈ s.destroyed → s.subscriber.isShutdown b = true) :
    (s.onMessage async b t).Kept ∧ s.Tells (s.onMessage async b t) := by
  unfold onMessage
  cases hsub : s.subscriber.bridges[b]? with
  | none => exact ⟨h, .refl s⟩
  | some sub =>
    have hf : ∀ sub', s.subscriber.bridges[b]? = some sub' → sub'.isShutdown = true →
        (sub.onMessage t).2.isShutdown = true := by
      intro sub' hsub' hshut
      rw [hsub] at hsub'
      cases hsub'
      rwa [isShutdown_onMessage]
    have hset : (s.setBridge b fun _ => (sub.onMessage t).2).Kept := h.setBridge hf
    have htells : s.Tells (s.setBridge b fun _ => (sub.onMessage t).2) :=
      ⟨rfl, rfl, rfl, fun a ha => isShutdown_setBridge hf ha⟩
    have hlive (hpass : (sub.onMessage t).1 = true) : b ∉ s.destroyed := by
      intro hd
      have hshut := hb hd
      unfold RMDSSubscriber.isShutdown at hshut
      rw [hsub] at hshut
      rw [onMessage_shutdown hshut] at hpass
      cases hpass
    dsimp only
    split_ifs with hpass
    · exact ⟨hset.enqueueEvent (hlive hpass) fun _ => nofun, htells.trans ⟨rfl, rfl, rfl, fun _ ha => ha⟩⟩
    · exact ⟨hset.call (hlive hpass) fun _ => nofun, htells.trans ⟨rfl, rfl, rfl, fun _ ha => ha⟩⟩
    · exact ⟨hset, htells⟩

theorem callOpen_kept (h : s.Kept) (hb : c.bridge ∈ s.destroyed → s.subscriber.isShutdown c.bridge = true)
    (hd : ∀ b, c ≠ .onDestroy b) : (s.callOpen c).Kept ∧ s.Tells (s.callOpen c) := by
  unfold callOpen
  split_ifs with hshut
  · exact ⟨h, .refl s⟩
  · exact ⟨h.call (fun hm => hshut (hb hm)) hd, rfl, rfl, rfl, fun _ ha => ha⟩

theorem notice_kept (h : s.Kept) (async : MamaMsgType → Bool) (n : Notice ℕ)
    (hn : n.listener ∈ s.destroyed → s.subscriber.isShutdown n.listener = true) :
    (notice async s n).Kept ∧ s.Tells (notice async s n) := by
  cases n with
  | message b t => exact onMessage_kept h (async t) t hn
  | status b => exact callOpen_kept (c := .onMsg b) h hn fun _ => nofun
  | error b st => exact callOpen_kept (c := .onError b) h hn fun _ => nofun
  | quality b ok => exact callOpen_kept (c := .onQuality b) h hn fun _ => nofun

theorem notices_kept (h : s.Kept) (async : MamaMsgType → Bool) (ns : List (Notice ℕ))
    (hn : ∀ n ∈ ns, n.listener ∈ s.destroyed → s.subscriber.isShutdown n.listener = true) :
    (ns.foldl (notice async) s).Kept ∧ s.Tells (ns.foldl (notice async) s) := by
  induction ns generalizing s with
  | nil => exact ⟨h, .refl s⟩
  | cons n ns ih =>
    obtain ⟨hkept, htells⟩ := notice_kept h async n (hn n List.mem_cons_self)
    have hns : ∀ m ∈ ns, m.listener ∈ (notice async s n).destroyed →
        (notice async s n).subscriber.isShutdown m.listener = true := by
      intro m hm hd
      rw [htells.destroyed] at hd
      exact htells.shutdown _ (hn m (List.mem_cons_of_mem n hm) hd)
    obtain ⟨hkept', htells'⟩ := ih hkept hns
    exact ⟨hkept', htells.trans htells'⟩

theorem reject_eq (s : BridgeCallbacks) (e : SubscriberEvent) :
    s.reject e = { s with calls := (s.reject e).calls } := by
  cases e with
  | processPending =>
    unfold reject
    dsimp only
    cases s.subscriber.badSource <;> rfl
  | _ => rfl

theorem reject_kept (h : s.Kept) {e : SubscriberEvent}
    (he : e = .processPending → ∀ b, s.subscriber.badSource = some b → b ∉ s.destroyed) :
    (s.reject e).Kept := by
  cases e with
  | processPending =>
    unfold reject
    dsimp only
    cases hb : s.subscriber.badSource with
    | none => exact h
    | some b => exact h.call (c := .onError b) (he rfl b hb) fun _ => nofun
  | _ => exact h

theorem subscriberStep_kept (h : s.Kept) {e : SubscriberEvent}
    (hr : (s.subscriber.step e).Subscribed s.destroyed)
    (he : e = .processPending → ∀ b, s.subscriber.badSource = some b → b ∉ s.destroyed) :
    (s.subscriberStep e).Kept ∧ (s.subscriberStep e).queueOf = s.queueOf ∧
      (s.subscriberStep e).destroyRequests = s.destroyRequests ∧
      (s.subscriberStep e).destroyed = s.destroyed := by
  obtain ⟨ns, hns, hl⟩ := (RMDSSubscriber.step_notifies h.subscribed.kept.tidy e).notices
  have hreject := reject_kept h he
  unfold subscriberStep
  dsimp only
  rw [hns, List.drop_left]
  rw [s.reject_eq e] at hreject ⊢
  have hbase := hreject.subscriber hr
  obtain ⟨hkept, htells⟩ := notices_kept hbase (s.async e) ns fun n hn hd => by
    obtain ⟨u, hu⟩ := hl n hn
    exact RMDSSubscriber.isShutdown_of_prefix (s.subscriber.step_bridges e)
      (h.subscribed.shut n.listener hd u hu)
  exact ⟨hkept, htells.queueOf, htells.destroyRequests, htells.destroyed⟩

theorem subscriberStep_remove {sub : RMDSBridgeSubscription} (hb : s.subscriber.bridges[b]? = some sub) :
    s.subscriberStep (.removeSubscription b) =
      { s with subscriber := s.subscriber.removeSubscription b sub } := by
  have hstep : s.subscriber.step (.removeSubscription b) = s.subscriber.removeSubscription b sub := by
    unfold RMDSSubscriber.step
    dsimp only
    rw [hb]
  unfold subscriberStep
  dsimp only
  rw [hstep, RMDSSubscriber.removeSubscription_notices, List.drop_length]
  rfl

theorem Kept.destroyed (h : s.Kept) {s' : BridgeCallbacks} (hb : b ∉ s.destroyed)
    (hr : s'.subscriber.Subscribed (insert b s.destroyed)) (hd : s'.destroyed = insert b s.destroyed)
    (hqueueOf : s'.queueOf = s.queueOf) (hqueues : s'.queues = s.queues)
    (hself : s'.timeline b = s.timeline b ++ [.onDestroy b])
    (hother : ∀ a, a ≠ b → s'.timeline a = s.timeline a) : s'.Kept where
  subscribed := by rwa [hd]
  queued := by
    rw [hqueueOf, hqueues]
    exact h.queued
  live a ha := by
    rw [hd, Finset.mem_insert, not_or] at ha
    rw [hother a ha.1]
    exact h.live a ha.2
  ended a ha := by
    by_cases hab : a = b
    · rw [hab, hself]
      exact .concat (h.live b hb)
    · rw [hother a hab]
      rw [hd] at ha
      exact h.ended a (Finset.mem_of_mem_insert_of_ne ha hab)

end BridgeCallbacks

end RmdsBridge
