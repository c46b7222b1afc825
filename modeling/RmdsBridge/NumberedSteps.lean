import RmdsBridge.NumberedListeners

namespace RmdsBridge

open Delivery

variable {P L : Type}

namespace NumberedConsumer

variable {c : NumberedConsumer P L} {s : P} [DecidableEq P] [DecidableEq L]

theorem respond_heard (hc : c.Inv) {domain : Domain} {streamId : ℕ} {msg : RsslMsg}
    (hok : c.InOrder (.consumer (.respond domain streamId msg)))
    (hs : c.consumer.target domain streamId = some s) :
    (c.numbering s).Heard ((c.numbering s).processResponse s domain msg) :=
  Numbering.processResponse_heard s (hc.sound s) domain msg (hok s hs)

theorem stepConsumer_plain {e : Event P L} (he : UPAConsumer.Plain e) :
    c.stepConsumer e = { c with consumer := c.consumer.step e } := by
  cases e with
  | setStale s => exact he.elim
  | setLive s => exact he.elim
  | respond domain streamId msg => exact he.elim
  | _ => rfl

theorem mem_addListener {t : P} {l m : L} :
    m ∈ (c.consumer.step (.addListener s l)).listeners t ↔
      m ∈ c.consumer.listeners t ∨ t = s ∧ m = l := by
  rw [c.consumer.addListener_listeners s l]
  by_cases ht : t = s
  · subst ht
    rw [Function.update_self, List.mem_append, List.mem_singleton, eq_self, true_and]
  · rw [Function.update_of_ne ht]
    exact ⟨.inl, fun h => h.resolve_right fun hm => ht hm.1⟩

theorem addListener_inv (hc : c.Inv) {l : L} (hp : c.Promised (.consumer (.addListener s l))) :
    (c.step (.consumer (.addListener s l))).Inv := by
  obtain ⟨hnew, hsnap, hqueue⟩ := hp
  have hl := c.consumer.addListener_listeners s l
  have hf : (c.step (.consumer (.addListener s l))).consumer.flags = c.consumer.flags :=
    c.consumer.step_flags (e := .addListener s l) trivial
  refine ⟨?_, ?_, ?_, hf ▸ hc.snapShot, hc.sync, hc.statusZero, ?_⟩
  · intro t
    change ((c.consumer.step (.addListener s l)).listeners t).Nodup
    rw [hl]
    by_cases ht : t = s
    · subst ht
      rw [Function.update_self]
      exact (hc.nodup t).append (List.nodup_singleton l) (by simpa using hnew t)
    · rw [Function.update_of_ne ht]
      exact hc.nodup t
  · intro t v m ht hv
    rcases mem_addListener.mp ht with ht | ⟨hts, hm⟩
    · rcases mem_addListener.mp hv with hv | ⟨-, hm⟩
      · exact hc.apart t v m ht hv
      · exact absurd (hm ▸ ht) (hnew t)
    · rcases mem_addListener.mp hv with hv | ⟨hvs, -⟩
      · exact absurd (hm ▸ hv) (hnew v)
      · exact hts.trans hvs.symm
  · intro t ht
    change (c.consumer.step (.addListener s l)).listeners t = []
    rw [hf] at ht
    have hts : t ≠ s := by
      rintro rfl
      exact absurd (hsnap.symm.trans ht) (by decide)
    rw [hl, Function.update_of_ne hts]
    exact hc.isSnapshot t ht
  · intro t m ha
    rcases mem_addListener.mp ha.1 with hm | ⟨rfl, rfl⟩
    · exact hc.current t m ⟨hm, ha.2⟩
    · change (c.receivers m).Current (c.msgSeqNum t) (numbers (c.receivers m).queue)
      rw [hqueue]
      exact ⟨leadsTo_nil _, fun _ => rfl⟩

theorem removeListener_inv (hc : c.Inv) (l : L) :
    (c.step (.consumer (.removeListener s l))).Inv := by
  have hl := c.consumer.removeListener_listeners s l
  have hf : (c.step (.consumer (.removeListener s l))).consumer.flags = c.consumer.flags :=
    c.consumer.step_flags (e := .removeListener s l) trivial
  have hsub (t : P) : List.Sublist ((c.consumer.step (.removeListener s l)).listeners t)
      (c.consumer.listeners t) := by
    rw [hl]
    by_cases ht : t = s
    · subst ht
      rw [Function.update_self]
      exact List.erase_sublist
    · rw [Function.update_of_ne ht]
  refine ⟨fun t => (hc.nodup t).sublist (hsub t), ?_, ?_, hf ▸ hc.snapShot, hc.sync, hc.statusZero, ?_⟩
  · exact fun t v m ht hv => hc.apart t v m ((hsub t).subset ht) ((hsub v).subset hv)
  · intro t ht
    rw [hf] at ht
    exact List.sublist_nil.mp (hc.isSnapshot t ht ▸ hsub t)
  · exact fun t m ha => hc.current t m ⟨(hsub t).subset ha.1, ha.2⟩

theorem snapshot_inv (hc : c.Inv) (hp : c.Promised (.consumer (.snapshot s))) :
    (c.step (.consumer (.snapshot s))).Inv := by
  have hl : (c.consumer.step (.snapshot s)).listeners = c.consumer.listeners :=
    c.consumer.step_listeners (e := .snapshot s) id
  have hself : (c.consumer.step (.snapshot s)).flags s = (true, true) :=
    congrArg UPASubscription.flags
      (Function.update_self s _ c.consumer.subscriptions)
  have hother (t : P) (ht : t ≠ s) :
      (c.consumer.step (.snapshot s)).flags t = c.consumer.flags t :=
    congrArg UPASubscription.flags
      (Function.update_of_ne ht _ c.consumer.subscriptions)
  refine ⟨hl ▸ hc.nodup, hl ▸ hc.apart, ?_, ?_, hc.sync, hc.statusZero, ?_⟩
  · intro t ht
    refine (congrFun hl t).trans ?_
    by_cases hts : t = s
    · exact hts ▸ hp
    · exact hc.isSnapshot t ((hother t hts) ▸ ht)
  · intro t ht
    change ((c.consumer.step (.snapshot s)).flags t).1 = true
    by_cases hts : t = s
    · rw [hts, hself]
    · rw [hother t hts]
      exact hc.snapShot t ((hother t hts) ▸ ht)
  · exact fun t m ha => hc.current t m ⟨congrFun hl t ▸ ha.1, ha.2⟩

theorem stepConsumer_inv (hc : c.Inv) {e : Event P L} (hok : c.Ok (.consumer e)) :
    (c.stepConsumer e).Inv := by
  have hsame (hp : UPAConsumer.Plain e) (hr : ¬ UPAConsumer.Relists e) : (c.stepConsumer e).Inv := by
    rw [stepConsumer_plain hp]
    exact hc.of_same (c.consumer.step_listeners hr) (c.consumer.step_flags hp)
  cases e with
  | addListener s l => exact addListener_inv hc hok.1
  | removeListener s l => exact removeListener_inv hc l
  | snapshot s => exact snapshot_inv hc hok.1
  | setStale s => exact handle_inv hc (c.numbering s).setStale_quiet.heard
  | setLive s => exact handle_inv hc (c.numbering s).setLive_quiet.heard
  | respond domain streamId msg =>
    change (c.respond domain streamId msg).Inv
    unfold respond
    cases ht : c.consumer.target domain streamId with
    | none => exact hc
    | some s => exact handle_inv hc (respond_heard hc hok.2 ht)
  | _ => exact hsame trivial id

theorem stepConsumer_advance (hc : c.Inv) {e : Event P L} (hok : c.Ok (.consumer e)) {l : L}
    (ha : Attends s l c) :
    (c.receivers l).Advance ((c.stepConsumer e).receivers l) (c.msgSeqNum s)
      ((c.stepConsumer e).msgSeqNum s) := by
  have hsame : (c.receivers l).Advance (c.receivers l) (c.msgSeqNum s) (c.msgSeqNum s) :=
    (Receiver.Quiet.refl _).advance _
  cases e with
  | setStale t => exact handle_advance hc (c.numbering t).setStale_quiet.heard ha
  | setLive t => exact handle_advance hc (c.numbering t).setLive_quiet.heard ha
  | respond domain streamId msg =>
    change Receiver.Advance _ ((c.respond domain streamId msg).receivers l) _
      ((c.respond domain streamId msg).msgSeqNum s)
    unfold respond
    cases ht : c.consumer.target domain streamId with
    | none => exact hsame
    | some t => exact handle_advance hc (respond_heard hc hok.2 ht) ha
  | _ => exact hsame

omit [DecidableEq P] in
theorem setReceiver_self (c : NumberedConsumer P L) (l : L) (f : Receiver → Receiver) :
    (c.setReceiver l f).receivers l = f (c.receivers l) := Function.update_self _ _ _

omit [DecidableEq P] in
theorem setReceiver_of_ne (c : NumberedConsumer P L) {l m : L} (hm : m ≠ l)
    (f : Receiver → Receiver) : (c.setReceiver l f).receivers m = c.receivers m :=
  Function.update_of_ne hm _ _

omit [DecidableEq P] in
theorem setReceiver_inv (hc : c.Inv) {l : L} {f : Receiver → Receiver}
    (hq : (c.receivers l).queue = [] → (f (c.receivers l)).queue = [])
    (hz : (c.receivers l).StatusZero → (f (c.receivers l)).StatusZero)
    (hcur : ∀ s, l ∈ c.consumer.listeners s → (f (c.receivers l)).bridge.listens = true →
      (f (c.receivers l)).Current (c.msgSeqNum s) (numbers (f (c.receivers l)).queue)) :
    (c.setReceiver l f).Inv := by
  refine ⟨hc.nodup, hc.apart, hc.isSnapshot, hc.snapShot, ?_, ?_, ?_⟩
  · intro ha m
    by_cases hm : m = l
    · rw [hm, setReceiver_self]
      exact hq (hc.sync ha l)
    · rw [setReceiver_of_ne c hm]
      exact hc.sync ha m
  · intro m
    by_cases hm : m = l
    · rw [hm, setReceiver_self]
      exact hz (hc.statusZero l)
    · rw [setReceiver_of_ne c hm]
      exact hc.statusZero m
  · rintro s m ⟨hmem, hlistens⟩
    by_cases hm : m = l
    · subst hm
      rw [setReceiver_self] at hlistens ⊢
      exact hcur s hmem hlistens
    · rw [setReceiver_of_ne c hm] at hlistens ⊢
      exact hc.current s m ⟨hmem, hlistens⟩

omit [DecidableEq P] in
theorem setReceiver_advance {l m : L} {f : Receiver → Receiver}
    (hf : ∀ k, (c.receivers l).Advance (f (c.receivers l)) k k) (k : ℕ) :
    (c.receivers m).Advance ((c.setReceiver l f).receivers m) k k := by
  by_cases hm : m = l
  · rw [hm, setReceiver_self]
    exact hf k
  · rw [setReceiver_of_ne c hm]
    exact (Receiver.Quiet.refl _).advance _

theorem step_inv (hc : c.Inv) {e : NumberedEvent P L} (hok : c.Ok e) : (c.step e).Inv := by
  cases e with
  | consumer e => exact stepConsumer_inv hc hok
  | pauseUpdates l =>
    dsimp only [step]
    refine setReceiver_inv hc id id fun s _ hlistens => ?_
    simp [RMDSBridgeSubscription.listens] at hlistens
  | resumeUpdates l =>
    dsimp only [step]
    refine setReceiver_inv hc id id fun s hl hlistens => hok.2 s hl ?_
    simpa [RMDSBridgeSubscription.listens] using hlistens
  | shutdown l =>
    dsimp only [step]
    refine setReceiver_inv hc id id fun s _ hlistens => ?_
    simp [RMDSBridgeSubscription.listens] at hlistens
  | queueCallback l =>
    refine setReceiver_inv hc ?_ Receiver.queueCallback_statusZero fun s hl hlistens => ?_
    · intro hq
      unfold Receiver.queueCallback
      rw [hq]
      exact hq
    · rw [Receiver.queueCallback_bridge] at hlistens
      exact (Receiver.queueCallback_advance _ _).queue (hc.current s l ⟨hl, hlistens⟩)

theorem step_advance (hc : c.Inv) {e : NumberedEvent P L} (hok : c.Ok e) {l : L}
    (ha : Attends s l c) :
    (c.receivers l).Advance ((c.step e).receivers l) (c.msgSeqNum s) ((c.step e).msgSeqNum s) := by
  have hflags (b : RMDSBridgeSubscription) (r : Receiver) (hb : b.gotImage = r.bridge.gotImage)
      (k : ℕ) : r.Advance { r with bridge := b } k k := by
    refine ⟨[], (List.append_nil _).symm, fun ks hk => ?_⟩
    rw [numbers_nil, List.append_nil]
    exact ⟨hk.1, fun hn => hk.2 (hb.symm.trans hn)⟩
  cases e with
  | consumer e => exact stepConsumer_advance hc hok ha
  | pauseUpdates m =>
    dsimp only [step]
    exact setReceiver_advance (hflags _ _ rfl) _
  | resumeUpdates m =>
    dsimp only [step]
    exact setReceiver_advance (hflags _ _ rfl) _
  | shutdown m =>
    dsimp only [step]
    exact setReceiver_advance (hflags _ _ rfl) _
  | queueCallback m => exact setReceiver_advance (Receiver.queueCallback_advance _) _

end NumberedConsumer

end RmdsBridge
