import RmdsBridge.Dispatch

namespace RmdsBridge

def RsslState.next (s : RsslState) (snapShot : Bool) (st : SubscriptionState) : SubscriptionState :=
  if s.streamState = .nonStreaming then if snapShot then .inactive else st
  else if s.streamState = .open ∧ s.code ≠ .preempted then
    match s.dataState, st with
    | _, .inactive => .inactive
    | .suspect, _ => .stale
    | .ok, .stale => .live
    | _, .subscribing => .live
    | _, st => st
  else st

namespace Handling

variable {P L : Type}

theorem setRsslState_next (h : Handling P L) (s : RsslState) :
    (h.setRsslState s).1 = decide (s.streamState = .nonStreaming ∨
        s.streamState = .open ∧ s.code ≠ .preempted) ∧
      (h.setRsslState s).2.sub.state = s.next h.sub.snapShot h.sub.state ∧
      (h.setRsslState s).2.manager.openItems =
        if h.sub.state = .subscribing ∧ s.Usable then h.manager.openItems + 1
        else h.manager.openItems := by
  obtain ⟨ss, ds, code⟩ := s
  cases ss with
  | closed =>
    simp only [setRsslState, RsslState.next, RsslState.Usable, true_and, false_and, and_false,
      if_false, reduceCtorEq, decide_false, or_self]
    repeat' split
    all_goals exact ⟨rfl, rfl, rfl⟩
  | nonStreaming =>
    by_cases hsnap : h.sub.snapShot
    all_goals simp [setRsslState, RsslState.next, RsslState.Usable, hsnap, setState, notify]
  | other => simp [setRsslState, RsslState.next, RsslState.Usable]
  | «open» =>
    by_cases hp : code = .preempted
    · simp [setRsslState, RsslState.next, RsslState.Usable, hp, notifyListenersError, notify]
    · have hstale := h.setStale_state
      have hlive := h.setLive_state
      cases ds <;> cases hst : h.sub.state <;> simp only [hst] at hstale hlive
      all_goals simp [setRsslState, RsslState.next, RsslState.Usable, hp, hst, hstale, hlive,
        countLive, setState, UPAStreamManager.incOpenItems]

def afterData (st : SubscriptionState) (ds : RsslDataState) : SubscriptionState :=
  if st = .stale ∧ ds = .ok then .live else st

theorem goLive_state (h : Handling P L) (ds : RsslDataState) :
    (h.goLive ds).sub.state = afterData h.sub.state ds ∧
      (h.goLive ds).manager.openItems = h.manager.openItems := by
  unfold goLive
  by_cases hs : StaleToLive h.sub ds
  · rw [if_pos hs]
    exact ⟨(if_pos hs).symm, rfl⟩
  · rw [if_neg hs]
    exact ⟨(if_neg hs).symm, rfl⟩

theorem completeSnapshot_state (h : Handling P L) :
    h.completeSnapshot.sub.state = h.sub.state ∧
      h.completeSnapshot.manager.openItems = h.manager.openItems := by
  unfold completeSnapshot
  split_ifs <;> exact ⟨rfl, rfl⟩

def Counts (domain : Domain) (sub : UPASubscription L) : RsslMsg → Prop
  | .refresh s _ => s.Usable
  | .status (some s) => s.Usable ∧ ¬ (domain = .marketPrice ∧ sub.isSnapshot = true)
  | _ => False

def Revives (domain : Domain) (sub : UPASubscription L) : RsslMsg → Prop
  | .refresh s _ =>
    s.dataState = .ok ∧ ¬ (s.streamState = .nonStreaming ∧ sub.snapShot = true) ∧
      (domain = .marketPrice → s.streamState = .nonStreaming ∨ s.Usable)
  | .update _ ds _ => ds = .ok
  | .status (some s) =>
    s.Usable ∧ s.dataState = .ok ∧ ¬ (domain = .marketPrice ∧ sub.isSnapshot = true)
  | _ => False

def responseState (domain : Domain) (sub : UPASubscription L) : RsslMsg → SubscriptionState
  | .refresh s _ =>
    if domain = .marketPrice ∧ ¬ (s.streamState = .nonStreaming ∨
        s.streamState = .open ∧ s.code ≠ .preempted) then s.next sub.snapShot sub.state
    else afterData (s.next sub.snapShot sub.state) s.dataState
  | .update _ ds _ => afterData sub.state ds
  | .status (some s) =>
    if domain = .marketPrice ∧ sub.isSnapshot then sub.state else s.next sub.snapShot sub.state
  | _ => sub.state

theorem responseState_subscribing {domain : Domain} {sub : UPASubscription L} {msg : RsslMsg}
    (hs : sub.state = .subscribing) : responseState domain sub msg = .live ↔ Counts domain sub msg := by
  cases msg with
  | refresh s d =>
    obtain ⟨ss, ds, code⟩ := s
    cases ss <;> by_cases hp : code = .preempted <;> cases ds <;> cases hn : sub.snapShot
    all_goals simp [responseState, Counts, RsslState.next, RsslState.Usable, afterData, hs, hp, hn]
  | update u ds d => simp [responseState, Counts, afterData, hs]
  | status s =>
    cases s with
    | none => simp [responseState, Counts, hs]
    | some s =>
      obtain ⟨ss, ds, code⟩ := s
      cases ss <;> by_cases hp : code = .preempted <;> cases ds <;> cases hn : sub.snapShot
      all_goals
        by_cases hm : domain = .marketPrice ∧ sub.isSnapshot = true
        all_goals simp [responseState, Counts, RsslState.next, RsslState.Usable, hs, hp, hn, hm]
  | ack => simp [responseState, Counts, hs]
  | other => simp [responseState, Counts, hs]

theorem responseState_stale {domain : Domain} {sub : UPASubscription L} {msg : RsslMsg}
    (hs : sub.state = .stale) : responseState domain sub msg = .live ↔ Revives domain sub msg := by
  cases msg with
  | refresh s d =>
    obtain ⟨ss, ds, code⟩ := s
    cases ss <;> by_cases hp : code = .preempted <;> cases ds <;> cases hn : sub.snapShot
    all_goals
      by_cases hm : domain = .marketPrice
      all_goals simp [responseState, Revives, RsslState.next, RsslState.Usable, afterData, hs, hp, hn, hm]
  | update u ds d => simp [responseState, Revives, afterData, hs]
  | status s =>
    cases s with
    | none => simp [responseState, Revives, hs]
    | some s =>
      obtain ⟨ss, ds, code⟩ := s
      cases ss <;> by_cases hp : code = .preempted <;> cases ds <;> cases hn : sub.snapShot
      all_goals
        by_cases hm : domain = .marketPrice ∧ sub.isSnapshot = true
        all_goals simp [responseState, Revives, RsslState.next, RsslState.Usable, hs, hp, hn, hm]
  | ack => simp [responseState, Revives, hs]
  | other => simp [responseState, Revives, hs]

def Advances (h h' : Handling P L) (st : SubscriptionState) : Prop :=
  h'.sub.state = st ∧
    h'.manager.openItems =
      if h.sub.state = .subscribing ∧ st = .live then h.manager.openItems + 1
      else h.manager.openItems

theorem advances_setRsslState {h : Handling P L} {domain : Domain} {s : RsslState}
    (hs : ¬ (domain = .marketPrice ∧ h.sub.isSnapshot = true)) :
    h.Advances (h.setRsslState s).2 (responseState domain h.sub (.status (some s))) := by
  obtain ⟨-, hst, ho⟩ := h.setRsslState_next s
  have hr : responseState domain h.sub (.status (some s)) = s.next h.sub.snapShot h.sub.state :=
    if_neg hs
  refine ⟨hst.trans hr.symm, ho.trans (if_congr (and_congr_right fun hw => ?_) rfl rfl)⟩
  rw [responseState_subscribing hw]
  exact (and_iff_left hs).symm

theorem advances_same {h h' : Handling P L} {domain : Domain} {msg : RsslMsg}
    (hst : h'.sub.state = h.sub.state) (ho : h'.manager.openItems = h.manager.openItems)
    (hr : responseState domain h.sub msg = h.sub.state) :
    h.Advances h' (responseState domain h.sub msg) := by
  refine ⟨hst.trans hr.symm, ho.trans (if_neg fun hl => ?_).symm⟩
  have hlive := hl.2
  rw [hr, hl.1] at hlive
  cases hlive

theorem usable_iff {h : Handling P L} {domain : Domain} {s : RsslState} {d : Bool} :
    h.sub.state = .subscribing ∧ s.Usable ↔
      h.sub.state = .subscribing ∧ responseState domain h.sub (.refresh s d) = .live := by
  refine and_congr_right fun hw => ?_
  rw [responseState_subscribing hw]
  exact Iff.rfl

section

variable [DecidableEq P]

theorem respondInactive_state (this : P) (h : Handling P L) :
    (h.respondInactive this).sub = h.sub ∧
      (h.respondInactive this).manager.openItems = h.manager.openItems := by
  unfold respondInactive
  split_ifs <;> exact ⟨rfl, rfl⟩

omit [DecidableEq P] in
theorem takeStreamId_state (this : P) (h : Handling P L) :
    (h.takeStreamId this).sub.state = h.sub.state ∧
      (h.takeStreamId this).manager.openItems = h.manager.openItems := by
  unfold takeStreamId UPAStreamManager.addItem
  repeat' split
  all_goals exact ⟨rfl, rfl⟩

theorem sendCloseRequest_state (this : P) (h : Handling P L) (o : SendOutcome) :
    (h.sendCloseRequest this o).sub.state = h.sub.state ∧
      (h.sendCloseRequest this o).manager.openItems =
        if h.sub.streamId ≠ 0 ∧ Closes h.sub o then h.manager.openItems - 1
        else h.manager.openItems := by
  rw [sendCloseRequest_eq]
  by_cases h0 : h.sub.streamId = 0
  · rw [if_pos h0, if_neg fun hc => hc.1 h0]
    exact ⟨rfl, rfl⟩
  · rw [if_neg h0, if_congr (and_iff_right h0) rfl rfl]
    exact ⟨rfl, rfl⟩

theorem answerRefresh_state (this : P) (h : Handling P L) :
    (h.answerRefresh this).sub = h.sub ∧
      (h.answerRefresh this).manager.openItems = h.manager.openItems := by
  unfold answerRefresh
  split_ifs <;> exact ⟨rfl, rfl⟩

end

variable [DecidableEq L]

theorem sendData_state (h : Handling P L) (r : Bool) (t : MamaMsgType) :
    (h.sendData r t).sub.state = h.sub.state ∧
      (h.sendData r t).manager.openItems = h.manager.openItems := by
  unfold sendData
  split_ifs
  · exact h.completeSnapshot_state
  · exact ⟨rfl, rfl⟩
  · exact ⟨rfl, rfl⟩

theorem deliver_state (h : Handling P L) (b r : Bool) (ds : RsslDataState) (u : UpdateType)
    (d : Bool) :
    (h.deliver b r ds u d).sub.state = afterData h.sub.state ds ∧
      (h.deliver b r ds u d).manager.openItems = h.manager.openItems := by
  obtain ⟨hst, ho⟩ := h.goLive_state ds
  unfold deliver
  dsimp only
  split_ifs
  · obtain ⟨hst', ho'⟩ := (h.goLive ds).sendData_state r
      (messageType h.sub (r || decide (StaleToLive h.sub ds)) u b)
    exact ⟨hst'.trans hst, ho'.trans ho⟩
  · exact ⟨hst, ho⟩

theorem advances_update {h : Handling P L} {domain : Domain} {u : UpdateType} {ds : RsslDataState}
    {d b : Bool} :
    h.Advances (h.deliver b false ds u d) (responseState domain h.sub (.update u ds d)) := by
  obtain ⟨hst, ho⟩ := h.deliver_state b false ds u d
  refine ⟨hst, ho.trans (if_neg fun hl => ?_).symm⟩
  exact (responseState_subscribing hl.1).mp hl.2

variable [DecidableEq P]

theorem processMarketPriceMsg_advances (this : P) (h : Handling P L) (msg : RsslMsg) :
    h.Advances (h.processMarketPriceMsg this msg) (responseState .marketPrice h.sub msg) := by
  cases msg with
  | refresh s d =>
    obtain ⟨hsub, hopen⟩ := h.answerRefresh_state this
    obtain ⟨hgood, hst, ho⟩ := (h.answerRefresh this).setRsslState_next s
    rw [hsub] at hst ho
    rw [hopen, if_congr usable_iff rfl rfl] at ho
    dsimp only [processMarketPriceMsg]
    rw [hgood]
    split_ifs with hr
    · obtain ⟨hst', ho'⟩ := ((h.answerRefresh this).setRsslState s).2.deliver_state false true
        s.dataState .other d
      rw [hst] at hst'
      rw [decide_eq_true_iff] at hr
      exact ⟨hst'.trans (if_neg fun hn => hn.2 hr).symm, ho'.trans ho⟩
    · rw [decide_eq_true_iff] at hr
      exact ⟨hst.trans (if_pos ⟨rfl, hr⟩).symm, ho⟩
  | update u ds d => exact advances_update
  | status s =>
    cases s with
    | none => exact advances_same rfl rfl rfl
    | some s =>
      dsimp only [processMarketPriceMsg]
      split_ifs with hs
      · exact advances_same h.completeSnapshot_state.1 h.completeSnapshot_state.2 (if_pos ⟨rfl, hs⟩)
      · exact advances_setRsslState fun hm => hs hm.2
  | ack => exact advances_same rfl rfl rfl
  | other => exact advances_same rfl rfl rfl

theorem processBookMsg_advances (this : P) (h : Handling P L) (msg : RsslMsg) {domain : Domain}
    (hd : domain ≠ .marketPrice) :
    h.Advances (h.processBookMsg this msg) (responseState domain h.sub msg) := by
  cases msg with
  | refresh s d =>
    obtain ⟨hsub, hopen⟩ := (h.setRsslState s).2.answerRefresh_state this
    obtain ⟨-, hst, ho⟩ := h.setRsslState_next s
    rw [if_congr usable_iff rfl rfl] at ho
    obtain ⟨hst', ho'⟩ := ((h.setRsslState s).2.answerRefresh this).deliver_state true true
      s.dataState .other d
    rw [hsub, hst] at hst'
    exact ⟨hst'.trans (if_neg fun hn => hd hn.1).symm, ho'.trans (hopen.trans ho)⟩
  | update u ds d => exact advances_update
  | status s =>
    cases s with
    | none => exact advances_same rfl rfl rfl
    | some s => exact advances_setRsslState fun hm => hd hm.1
  | ack => exact advances_same rfl rfl rfl
  | other => exact advances_same rfl rfl rfl

theorem processResponse_inactive (this : P) {h : Handling P L} (domain : Domain) (msg : RsslMsg)
    (hs : h.sub.state = .inactive) :
    UPAConsumer.processResponse this h domain msg = h.respondInactive this := by
  cases domain <;> exact if_pos hs

theorem processResponse_advances (this : P) {h : Handling P L} (domain : Domain) (msg : RsslMsg)
    (hs : h.sub.state ≠ .inactive) :
    h.Advances (UPAConsumer.processResponse this h domain msg) (responseState domain h.sub msg) := by
  have hbook (hd : domain ≠ .marketPrice) :
      h.Advances (h.processBookResponse this msg) (responseState domain h.sub msg) := by
    unfold processBookResponse
    rw [if_neg hs]
    split_ifs
    · exact (h.gotResponse this).processBookMsg_advances this msg hd
    · exact h.processBookMsg_advances this msg hd
  cases domain with
  | marketPrice =>
    change h.Advances (h.processMarketPriceResponse this msg) _
    unfold processMarketPriceResponse
    rw [if_neg hs]
    split_ifs
    · exact (h.gotResponse this).processMarketPriceMsg_advances this msg
    · exact h.processMarketPriceMsg_advances this msg
  | marketByOrder => exact hbook (by decide)
  | marketByPrice => exact hbook (by decide)

end Handling

end RmdsBridge
