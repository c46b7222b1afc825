import RmdsBridge.Dispatch

namespace RmdsBridge

namespace Handling

variable {P L : Type}

theorem StateOnly.pendingItems_eq {h h' : Handling P L} (k : h.StateOnly h') :
    h'.manager.pendingItems = h.manager.pendingItems ∧ h'.sub.isRefresh = h.sub.isRefresh := by
  obtain ⟨st, n, o, rfl⟩ := k
  exact ⟨rfl, rfl⟩

theorem completeSnapshot_pendingItems (h : Handling P L) :
    h.completeSnapshot.manager.pendingItems = h.manager.pendingItems := by
  unfold completeSnapshot
  split_ifs <;> rfl

def isRefreshMsg : RsslMsg → Bool
  | .refresh _ _ => true
  | _ => false

def settles (domain : Domain) (sub : UPASubscription L) (msg : RsslMsg) : Bool :=
  match sub.state with
  | .inactive => !sub.gotInitial
  | .subscribing => true
  | .stale => domain = .marketPrice || sub.isRefresh && isRefreshMsg msg
  | .live => sub.isRefresh && isRefreshMsg msg

theorem takeStreamId_pendingItems (this : P) (h : Handling P L) :
    (h.takeStreamId this).manager.pendingItems = h.manager.pendingItems := by
  unfold takeStreamId UPAStreamManager.addItem
  repeat' split
  all_goals rfl

section

variable [DecidableEq P]

theorem answerRefresh_pendingItems (this : P) (h : Handling P L) :
    (h.answerRefresh this).manager.pendingItems =
      if h.sub.isRefresh then h.manager.pendingItems.erase this else h.manager.pendingItems := by
  unfold answerRefresh
  split_ifs <;> rfl

theorem respondInactive_pendingItems (this : P) (h : Handling P L) :
    (h.respondInactive this).manager.pendingItems =
      if !h.sub.gotInitial then h.manager.pendingItems.erase this else h.manager.pendingItems := by
  unfold respondInactive
  cases h.sub.gotInitial <;> rfl

theorem sendCloseRequest_pendingItems (this : P) (h : Handling P L) (o : SendOutcome) :
    (h.sendCloseRequest this o).manager.pendingItems =
      if h.sub.streamId ≠ 0 ∧ h.sub.state = .subscribing then h.manager.pendingItems.erase this
      else h.manager.pendingItems := by
  rw [sendCloseRequest_eq]
  by_cases h0 : h.sub.streamId = 0
  · rw [if_pos h0, if_neg fun hc => hc.1 h0]
    rfl
  · rw [if_neg h0, if_congr (and_iff_right h0) rfl rfl]

end

variable [DecidableEq L]

theorem deliver_pendingItems (h : Handling P L) (b r : Bool) (ds : RsslDataState) (u : UpdateType)
    (d : Bool) : (h.deliver b r ds u d).manager.pendingItems = h.manager.pendingItems := by
  have hl := (h.goLive_stateOnly ds).pendingItems_eq.1
  unfold deliver sendData
  dsimp only
  split_ifs
  · exact (completeSnapshot_pendingItems _).trans hl
  · exact hl
  · exact hl
  · exact hl

variable [DecidableEq P]

omit [DecidableEq L] in
theorem pendingItems_other {h : Handling P L} (this : P) {msg : RsslMsg} (hm : isRefreshMsg msg = false)
    {m : Finset P} (hs : m = h.manager.pendingItems) :
    m = if h.sub.isRefresh && isRefreshMsg msg then h.manager.pendingItems.erase this
      else h.manager.pendingItems := by
  rw [hm, Bool.and_false, if_neg Bool.false_ne_true, hs]

theorem processMarketPriceMsg_pendingItems (this : P) (h : Handling P L) (msg : RsslMsg) :
    (h.processMarketPriceMsg this msg).manager.pendingItems =
      if h.sub.isRefresh && isRefreshMsg msg then h.manager.pendingItems.erase this
      else h.manager.pendingItems := by
  cases msg with
  | refresh s d =>
    have hk := ((h.answerRefresh this).setRsslState_stateOnly s).pendingItems_eq.1
    rw [answerRefresh_pendingItems] at hk
    rw [isRefreshMsg, Bool.and_true, ← hk]
    dsimp only [processMarketPriceMsg]
    split_ifs
    · exact deliver_pendingItems _ _ _ _ _ _
    · rfl
  | update u ds d => exact pendingItems_other this rfl (h.deliver_pendingItems _ _ _ _ _)
  | status s =>
    cases s with
    | none => exact pendingItems_other this rfl rfl
    | some s =>
      apply pendingItems_other this rfl
      dsimp only [processMarketPriceMsg]
      split_ifs
      · exact h.completeSnapshot_pendingItems
      · exact (h.setRsslState_stateOnly s).pendingItems_eq.1
  | ack => exact pendingItems_other this rfl rfl
  | other => exact pendingItems_other this rfl rfl

theorem processBookMsg_pendingItems (this : P) (h : Handling P L) (msg : RsslMsg) :
    (h.processBookMsg this msg).manager.pendingItems =
      if h.sub.isRefresh && isRefreshMsg msg then h.manager.pendingItems.erase this
      else h.manager.pendingItems := by
  cases msg with
  | refresh s d =>
    obtain ⟨hp, hr⟩ := (h.setRsslState_stateOnly s).pendingItems_eq
    have hk := (h.setRsslState s).2.answerRefresh_pendingItems this
    rw [hp, hr] at hk
    rw [isRefreshMsg, Bool.and_true, ← hk]
    exact deliver_pendingItems _ _ _ _ _ _
  | update u ds d => exact pendingItems_other this rfl (h.deliver_pendingItems _ _ _ _ _)
  | status s =>
    cases s with
    | none => exact pendingItems_other this rfl rfl
    | some s => exact pendingItems_other this rfl (h.setRsslState_stateOnly s).pendingItems_eq.1
  | ack => exact pendingItems_other this rfl rfl
  | other => exact pendingItems_other this rfl rfl

theorem processResponse_pendingItems (this : P) (h : Handling P L) (domain : Domain)
    (msg : RsslMsg) :
    (UPAConsumer.processResponse this h domain msg).manager.pendingItems =
      if settles domain h.sub msg then h.manager.pendingItems.erase this
      else h.manager.pendingItems := by
  have hgot {m : Finset P} {b : Bool} (hm : m = if b then
      (h.manager.pendingItems.erase this).erase this else h.manager.pendingItems.erase this) :
      m = h.manager.pendingItems.erase this := by
    rw [hm, Finset.erase_idem, ite_self]
  have hbook (hd : domain ≠ .marketPrice) :
      (h.processBookResponse this msg).manager.pendingItems =
        if settles domain h.sub msg then h.manager.pendingItems.erase this
        else h.manager.pendingItems := by
    unfold processBookResponse settles
    cases hst : h.sub.state with
    | inactive => exact h.respondInactive_pendingItems this
    | subscribing => exact hgot (processBookMsg_pendingItems this (h.gotResponse this) msg)
    | live => exact h.processBookMsg_pendingItems this msg
    | stale =>
      rw [decide_eq_false hd, Bool.false_or]
      exact h.processBookMsg_pendingItems this msg
  cases domain with
  | marketPrice =>
    change (h.processMarketPriceResponse this msg).manager.pendingItems = _
    unfold processMarketPriceResponse settles
    cases hst : h.sub.state with
    | inactive => exact h.respondInactive_pendingItems this
    | subscribing => exact hgot (processMarketPriceMsg_pendingItems this (h.gotResponse this) msg)
    | live => exact h.processMarketPriceMsg_pendingItems this msg
    | stale => exact hgot (processMarketPriceMsg_pendingItems this (h.gotResponse this) msg)
  | marketByOrder => exact hbook (by decide)
  | marketByPrice => exact hbook (by decide)

end Handling

structure AwaitedItems (P L : Type) where
  consumer : UPAConsumer P L
  awaiting : Finset P := ∅

namespace AwaitedItems

variable {P L : Type}

def answered (c : UPAConsumer P L) : Event P L × Bool → Option P
  | (.respond domain streamId _, true) => c.target domain streamId
  | _ => none

def Settled (q : AwaitedItems P L) : Prop :=
  q.consumer.streamManager.pendingItems ⊆ q.awaiting ∧
    (q.awaiting = ∅ → q.consumer.streamManager.countPendingItems = 0)

def Ok (q : AwaitedItems P L) (e : Event P L × Bool) : Prop :=
  (∀ s, q.consumer.closeProcessed e.1 = some s → s ∈ q.consumer.streamManager.pendingItems →
    (q.consumer.subscriptions s).streamId ≠ 0 ∧
      (q.consumer.subscriptions s).state = .subscribing) ∧
  (∀ domain streamId msg, e = (.respond domain streamId msg, true) →
    ∀ s, q.consumer.target domain streamId = some s →
      s ∈ q.consumer.streamManager.pendingItems →
        Handling.settles domain (q.consumer.subscriptions s) msg = true)

theorem settled_iff {q : AwaitedItems P L} :
    q.Settled ↔ q.consumer.streamManager.pendingItems ⊆ q.awaiting := by
  refine and_iff_left_of_imp fun h he => ?_
  rw [he] at h
  exact Finset.card_eq_zero.mpr (Finset.subset_empty.mp h)

def start (symbols : P → String) (config : TransportConfig) : AwaitedItems P L where
  consumer := { subscriptions := fun s => { symbol := symbols s }, config }

variable [DecidableEq P] [DecidableEq L]

def step (q : AwaitedItems P L) (e : Event P L × Bool) : AwaitedItems P L where
  consumer := q.consumer.step e.1
  awaiting :=
    match q.consumer.requestSent e.1, q.consumer.closeProcessed e.1, answered q.consumer e with
    | some s, _, _ => insert s q.awaiting
    | none, some s, _ => q.awaiting.erase s
    | none, none, some s => q.awaiting.erase s
    | none, none, none => q.awaiting

variable {q : AwaitedItems P L} {e : Event P L × Bool} {s : P}

theorem awaiting_step_sent (hs : q.consumer.requestSent e.1 = some s) :
    (q.step e).awaiting = insert s q.awaiting := by
  unfold step
  rw [hs]

theorem awaiting_step_closed (hs : q.consumer.requestSent e.1 = none)
    (hc : q.consumer.closeProcessed e.1 = some s) : (q.step e).awaiting = q.awaiting.erase s := by
  unfold step
  rw [hs, hc]

theorem awaiting_step_answered (hs : q.consumer.requestSent e.1 = none)
    (hc : q.consumer.closeProcessed e.1 = none) (ha : answered q.consumer e = some s) :
    (q.step e).awaiting = q.awaiting.erase s := by
  unfold step
  rw [hs, hc, ha]

theorem awaiting_step_same (hs : q.consumer.requestSent e.1 = none)
    (hc : q.consumer.closeProcessed e.1 = none) (ha : answered q.consumer e = none) :
    (q.step e).awaiting = q.awaiting := by
  unfold step
  rw [hs, hc, ha]

theorem erase_subset_erase_iff {pending awaiting : Finset P} (h : pending ⊆ awaiting) {b : Prop}
    [Decidable b] :
    (if b then pending.erase s else pending) ⊆ awaiting.erase s ↔ (s ∈ pending → b) := by
  split_ifs with hb
  · exact iff_of_true (Finset.erase_subset_erase s h) fun _ => hb
  · constructor
    · intro hsub hs
      exact absurd (Finset.mem_erase.mp (hsub hs)).1 (fun hn => hn rfl)
    · intro hs t ht
      refine Finset.mem_erase.mpr ⟨fun hts => ?_, h ht⟩
      exact hb (hs (hts ▸ ht))

theorem respond_settled_iff (hq : q.Settled) (domain : Domain) (streamId : ℕ) (msg : RsslMsg)
    (answers : Bool) :
    (q.step (.respond domain streamId msg, answers)).Settled ↔
      q.Ok (.respond domain streamId msg, answers) := by
  have hq := hq.1
  rw [settled_iff]
  change (q.consumer.step (.respond domain streamId msg)).streamManager.pendingItems ⊆ _ ↔ _
  cases ht : q.consumer.target domain streamId with
  | none =>
    rw [UPAConsumer.respond_untargeted msg ht]
    have ha : answered q.consumer (.respond domain streamId msg, answers) = none := by
      cases answers
      · rfl
      · exact ht
    rw [awaiting_step_same rfl rfl ha]
    refine iff_of_true hq ⟨fun _ hc => (Option.some_ne_none _ hc.symm).elim, fun d i m he s hs => ?_⟩
    cases he
    rw [ht] at hs
    cases hs
  | some s =>
    rw [(UPAConsumer.respond_became msg ht).2, Handling.processResponse_pendingItems,
      UPAConsumer.handling_sub, UPAConsumer.handling_manager]
    cases answers with
    | false =>
      rw [awaiting_step_same rfl rfl rfl]
      refine iff_of_true ?_ ⟨fun _ hc => (Option.some_ne_none _ hc.symm).elim,
        fun d i m he => Bool.noConfusion (congrArg Prod.snd he)⟩
      split_ifs
      · exact (Finset.erase_subset _ _).trans hq
      · exact hq
    | true =>
      have ha : answered q.consumer (.respond domain streamId msg, true) = some s := ht
      rw [awaiting_step_answered rfl rfl ha, erase_subset_erase_iff hq]
      constructor
      · intro hs
        refine ⟨fun _ hc => (Option.some_ne_none _ hc.symm).elim, fun d i m he t htt htp => ?_⟩
        cases he
        rw [ht] at htt
        obtain rfl := Option.some.inj htt
        exact hs htp
      · intro ho hs
        exact ho.2 _ _ _ rfl s ht hs

theorem quiet_settled_iff (hq : q.Settled)
    (hrespond : ∀ domain streamId msg, e.1 ≠ .respond domain streamId msg) :
    (q.step e).Settled ↔ q.Ok e := by
  have hq := hq.1
  rw [settled_iff]
  have hst := q.consumer.stepped e.1
  change (q.consumer.step e.1).streamManager.pendingItems ⊆ _ ↔ _
  generalize q.consumer.step e.1 = c' at hst ⊢
  have ha : answered q.consumer e = none := by
    obtain ⟨e, answers⟩ := e
    cases e with
    | respond domain streamId msg => exact absurd rfl (hrespond domain streamId msg)
    | _ => rfl
  have hok (hc : q.consumer.closeProcessed e.1 = none) : q.Ok e := by
    refine ⟨fun s h => ?_, fun d i m he => absurd (congrArg Prod.fst he) (hrespond d i m)⟩
    rw [hc] at h
    cases h
  obtain ⟨e, answers⟩ := e
  dsimp only at hst hok hrespond
  generalize hs : q.consumer.requestSent e = sent, hc : q.consumer.closeProcessed e = closed at hst
  cases hst with
  | idle _ hm =>
    rw [hm, awaiting_step_same hs hc ha]
    exact iff_of_true hq (hok hc)
  | quiet s sub closes h =>
    rw [h.2, awaiting_step_same hs hc ha]
    exact iff_of_true hq (hok hc)
  | setLive s h =>
    rw [h.2, awaiting_step_same hs hc ha, (Handling.setLive_stateOnly _).pendingItems_eq.1]
    exact iff_of_true hq (hok hc)
  | @close o s h =>
    rw [h.2, awaiting_step_closed hs hc, Handling.sendCloseRequest_pendingItems,
      UPAConsumer.handling_sub, UPAConsumer.handling_manager, erase_subset_erase_iff hq]
    constructor
    · intro hp
      refine ⟨fun t ht htp => ?_, fun d i m he => absurd (congrArg Prod.fst he) (hrespond d i m)⟩
      rw [hc] at ht
      obtain rfl := Option.some.inj ht
      exact hp htp
    · exact fun ho hp => ho.1 s hc hp
  | sent s _ h =>
    rw [h.2, awaiting_step_sent hs]
    refine iff_of_true ?_ (hok hc)
    change insert s ((q.consumer.handling s).takeStreamId s).manager.pendingItems ⊆ _
    rw [Handling.takeStreamId_pendingItems]
    exact Finset.insert_subset_insert s hq
  | unsent s pending hp h =>
    rw [h.2, awaiting_step_same hs hc ha]
    rw [Handling.takeStreamId_pendingItems] at hp
    exact iff_of_true (hp.trans hq) (hok hc)
  | respond s => exact absurd rfl (hrespond _ _ _)

theorem step_settled_iff (hq : q.Settled) : (q.step e).Settled ↔ q.Ok e := by
  obtain ⟨e, answers⟩ := e
  cases e with
  | respond domain streamId msg => exact respond_settled_iff hq domain streamId msg answers
  | _ => exact quiet_settled_iff hq fun _ _ _ h => by cases h

theorem pending_items_settled_iff (symbols : P → String) (config : TransportConfig)
    (events : List (Event P L × Bool)) :
    Runs.Always step Settled (start symbols config) events ↔
      Runs.Guarded step Ok (start symbols config) events :=
  Runs.always_iff_guarded (fun _ hq => hq) (fun _ _ hq ho => (step_settled_iff hq).mpr ho)
    (fun _ _ hq ho h => ho ((step_settled_iff hq).mp h)) (settled_iff.mpr (Finset.empty_subset _))

def closeEarly : List (Event Bool Bool × Bool) :=
  [(.setDomain true .marketPrice, false), (.open true, false), (.dispatch .sent, false),
    (.close true, false), (.dispatch .sent, false)]

theorem close_early_not_settled :
    ¬ ∀ (symbols : Bool → String) (config : TransportConfig) (events : List (Event Bool Bool × Bool)),
      Runs.Always step Settled (start symbols config) events := by
  intro h
  have hlast := Runs.always_iff_run.mp (h (fun _ => "A") {} closeEarly) closeEarly (List.prefix_refl _)
  exact absurd hlast.1 (by decide)

end AwaitedItems

end RmdsBridge
