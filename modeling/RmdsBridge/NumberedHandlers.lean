import RmdsBridge.QuietHandlers

namespace RmdsBridge

variable {P L : Type}

namespace Numbering

variable {n n' n'' : Numbering P L} [DecidableEq L]

structure Heard (n n' : Numbering P L) : Prop where
  listeners : n'.handling.sub.listeners = n.handling.sub.listeners
  isSnapshot : n'.handling.sub.isSnapshot = n.handling.sub.isSnapshot
  sendRecap : n'.handling.sub.sendRecap = n.handling.sub.sendRecap
  snapShot : n'.handling.sub.snapShot = true → n.handling.sub.snapShot = true
  asyncMessaging : n'.asyncMessaging = n.asyncMessaging
  other : ∀ l, l ∉ n.handling.sub.listeners → n'.receivers l = n.receivers l
  sync : n.asyncMessaging = false → ∀ l, (n'.receivers l).queue = (n.receivers l).queue
  listens : ∀ l, (n'.receivers l).bridge.listens = (n.receivers l).bridge.listens
  statusZero : ∀ l, (n.receivers l).StatusZero → (n'.receivers l).StatusZero
  advance : ∀ l ∈ n.handling.sub.listeners, (n.receivers l).bridge.listens = true →
    (n.receivers l).Advance (n'.receivers l) n.msgSeqNum n'.msgSeqNum

omit [DecidableEq L] in
theorem Quiet.heard (h : n.Quiet n') : n.Heard n' where
  listeners := h.listeners
  isSnapshot := h.isSnapshot
  sendRecap := h.sendRecap
  snapShot := h.snapShot
  asyncMessaging := h.asyncMessaging
  other := h.other
  sync := h.sync
  listens l := by rw [(h.quiet l).bridge]
  statusZero l := (h.quiet l).statusZero
  advance l _ _ := by
    rw [h.msgSeqNum]
    exact (h.quiet l).advance _

omit [DecidableEq L] in
theorem Heard.trans (h : n.Heard n') (h' : n'.Heard n'') : n.Heard n'' where
  listeners := h'.listeners.trans h.listeners
  isSnapshot := h'.isSnapshot.trans h.isSnapshot
  sendRecap := h'.sendRecap.trans h.sendRecap
  snapShot hs := h.snapShot (h'.snapShot hs)
  asyncMessaging := h'.asyncMessaging.trans h.asyncMessaging
  other l hl := (h'.other l (h.listeners ▸ hl)).trans (h.other l hl)
  sync ha l := (h'.sync (h.asyncMessaging.trans ha) l).trans (h.sync ha l)
  listens l := (h'.listens l).trans (h.listens l)
  statusZero l hz := h'.statusZero l (h.statusZero l hz)
  advance l hl hlistens := (h.advance l hl hlistens).trans
    (h'.advance l (h.listeners.symm ▸ hl) ((h.listens l).trans hlistens))

def Serves (sub : UPASubscription L) (receivers : L → Receiver) : Prop :=
  ∀ l ∈ sub.listeners, (receivers l).bridge.listens = true →
    if sub.sendRecap = true ∨ sub.subscription = some l then numbers (receivers l).queue = []
    else (receivers l).bridge.gotImage = false

instance (sub : UPASubscription L) (receivers : L → Receiver) : Decidable (Serves sub receivers) :=
  inferInstanceAs (Decidable (∀ l ∈ _, _ → _))

def dataNotices (h : Handling P L) (isRefreshMsg : Bool) (t : MamaMsgType) : L → Option (Notice L) :=
  fun l =>
    if h.sub.isRefresh && isRefreshMsg then Handling.refreshNotice h.sub false l
    else some (.message l t)

theorem sendData_notices {h : Handling P L} (hs : h.sub.isSnapshot = true → h.sub.listeners = [])
    (r : Bool) (t : MamaMsgType) :
    (h.sendData r t).notices = h.notices ++ h.sub.listeners.filterMap (dataNotices h r t) := by
  unfold Handling.sendData dataNotices
  by_cases hsnap : h.sub.isSnapshot = true
  · rw [if_pos hsnap, hs hsnap, List.filterMap_nil, List.append_nil]
    exact (completeSnapshot_standing h).1
  rw [if_neg hsnap]
  by_cases hr : (h.sub.isRefresh && r) = true
  · simp only [hr, if_true]
    rfl
  · simp only [hr, Bool.false_eq_true, if_false]
    rw [List.filterMap_eq_map']
    rfl

theorem sendData_sub (h : Handling P L) (r : Bool) (t : MamaMsgType) :
    (h.sendData r t).sub.listeners = h.sub.listeners ∧
      (h.sendData r t).sub.isSnapshot = h.sub.isSnapshot ∧
      (h.sendData r t).sub.sendRecap = h.sub.sendRecap ∧
      ((h.sendData r t).sub.snapShot = true → h.sub.snapShot = true) := by
  obtain ⟨-, hs, hsnap⟩ := completeSnapshot_standing h
  unfold Handling.sendData
  split_ifs
  · exact ⟨congrArg (·.1) hs, congrArg (·.2.2.2.2) hs, congrArg (·.2.2.2.1) hs, hsnap⟩
  · exact ⟨rfl, rfl, rfl, id⟩
  · exact ⟨rfl, rfl, rfl, id⟩

omit [DecidableEq L] in
theorem messageType_data (sub : UPASubscription L) (image : Bool) (u : UpdateType) (b : Bool) :
    Handling.messageType sub image u b ≠ .secStatus := by
  unfold Handling.messageType
  cases u <;> split_ifs <;> decide

theorem dataNotices_cases (h : Handling P L) (r : Bool) {t : MamaMsgType} (ht : t ≠ .secStatus)
    (l : L) :
    (dataNotices h r t l = none ∧ (h.sub.isRefresh && r) = true ∧
        ¬ (h.sub.sendRecap = true ∨ h.sub.subscription = some l)) ∨
      ∃ t', t' ≠ .secStatus ∧ dataNotices h r t l = some (.message l t') ∧
        ((h.sub.isRefresh && r) = true → h.sub.sendRecap = true ∨ h.sub.subscription = some l) := by
  unfold dataNotices Handling.refreshNotice
  by_cases hr : (h.sub.isRefresh && r) = true
  · rw [if_pos hr]
    by_cases hsub : h.sub.subscription = some l
    · exact .inr ⟨.initial, by decide, if_pos hsub, fun _ => .inr hsub⟩
    rw [if_neg hsub]
    by_cases hrecap : h.sub.sendRecap = true
    · exact .inr ⟨.recap, by decide, if_pos hrecap, fun _ => .inl hrecap⟩
    · exact .inl ⟨if_neg hrecap, hr, not_or.mpr ⟨hrecap, hsub⟩⟩
  · exact .inr ⟨t, ht, if_neg hr, fun h => absurd h hr⟩

structure Sound (n : Numbering P L) : Prop where
  nodup : n.handling.sub.listeners.Nodup
  isSnapshot : n.handling.sub.isSnapshot = true → n.handling.sub.listeners = []
  snapShot : n.handling.sub.snapShot = true → n.handling.sub.listeners = []
  sync : n.asyncMessaging = false → ∀ l, (n.receivers l).queue = []

theorem sendData_take {n : Numbering P L} (hn : n.Sound) (r : Bool) {t : MamaMsgType}
    (ht : t ≠ .secStatus) (l : L) :
    ((n.setMsgNum false).sendData r t).receivers l =
      (if l ∈ n.handling.sub.listeners then (dataNotices n.handling r t l).toList else []).foldl
        (Receiver.take (some n.msgSeqNum)
          (n.asyncMessaging && !(n.handling.sub.isRefresh && r))) (n.receivers l) := by
  rw [← Delivery.filter_broadcast Notice.listener hn.nodup]
  · exact call_receivers (n := n.setMsgNum false) (sendData_notices hn.isSnapshot r t) l
  · intro l x hx
    rcases dataNotices_cases n.handling r ht l with ⟨hnone, -⟩ | ⟨t', -, hsome, -⟩
    · rw [hnone] at hx
      cases hx
    · rw [hsome] at hx
      cases hx
      rfl

theorem sendData_receivers {n : Numbering P L} (hn : n.Sound) (r : Bool) {t : MamaMsgType}
    (ht : t ≠ .secStatus) {l : L} (hl : l ∈ n.handling.sub.listeners) :
    (((n.setMsgNum false).sendData r t).receivers l = n.receivers l ∧
        (n.handling.sub.isRefresh && r) = true ∧
        ¬ (n.handling.sub.sendRecap = true ∨ n.handling.sub.subscription = some l)) ∨
      ∃ t', t' ≠ .secStatus ∧ ((n.setMsgNum false).sendData r t).receivers l =
          (n.receivers l).onMessage ⟨t', some n.msgSeqNum⟩
            (n.asyncMessaging && !(n.handling.sub.isRefresh && r)) ∧
        ((n.handling.sub.isRefresh && r) = true →
          n.handling.sub.sendRecap = true ∨ n.handling.sub.subscription = some l) := by
  rw [sendData_take hn r ht, if_pos hl]
  rcases dataNotices_cases n.handling r ht l with ⟨hnone, hr, hno⟩ | ⟨t', ht', hsome, hr⟩
  · rw [hnone]
    exact .inl ⟨rfl, hr, hno⟩
  · rw [hsome]
    exact .inr ⟨t', ht', rfl, hr⟩

theorem sendData_advance {n : Numbering P L} (hn : n.Sound) {r : Bool} {t : MamaMsgType}
    (ht : t ≠ .secStatus)
    (hserves : (n.handling.sub.isRefresh && r) = true → Serves n.handling.sub n.receivers) {l : L}
    (hl : l ∈ n.handling.sub.listeners) (hlistens : (n.receivers l).bridge.listens = true) :
    (n.receivers l).Advance (((n.setMsgNum false).sendData r t).receivers l) n.msgSeqNum
      (nextSeqNum n.msgSeqNum) := by
  rcases sendData_receivers hn r ht hl with ⟨he, hr, hno⟩ | ⟨t', ht', he, hr⟩
  · have himage := hserves hr l hl hlistens
    rw [if_neg hno] at himage
    rw [he]
    exact Receiver.advance_missed himage _ _
  · rw [he]
    apply Receiver.onMessage_advance ht' hlistens
    by_cases hq : (n.handling.sub.isRefresh && r) = true
    · have hserve := hserves hq l hl hlistens
      rw [if_pos (hr hq)] at hserve
      exact .inr hserve
    · cases ha : n.asyncMessaging with
      | true => exact .inl (by simp [hq])
      | false => exact .inr (by rw [hn.sync ha l]; rfl)

theorem sendData_heard {n : Numbering P L} (hn : n.Sound) {r : Bool} {t : MamaMsgType}
    (ht : t ≠ .secStatus)
    (hserves : (n.handling.sub.isRefresh && r) = true → Serves n.handling.sub n.receivers) :
    n.Heard ((n.setMsgNum false).sendData r t) := by
  obtain ⟨hl, hs, hrecap, hss⟩ := sendData_sub n.handling r t
  have hout (l : L) (hmem : l ∉ n.handling.sub.listeners) :
      ((n.setMsgNum false).sendData r t).receivers l = n.receivers l := by
    rw [sendData_take hn r ht, if_neg hmem]
    rfl
  have hin (l : L) := sendData_receivers hn r ht (l := l)
  refine ⟨hl, hs, hrecap, hss, rfl, hout, ?sync, ?listens, ?statusZero, ?advance⟩
  case sync =>
    intro ha l
    rw [sendData_take hn r ht, ha]
    exact foldl_take_sync _ _ _
  case listens =>
    intro l
    by_cases hmem : l ∈ n.handling.sub.listeners
    · rcases hin l hmem with ⟨he, -⟩ | ⟨t', -, he, -⟩
      · rw [he]
      · rw [he, Receiver.onMessage_listens]
    · rw [hout l hmem]
  case statusZero =>
    intro l hz
    by_cases hmem : l ∈ n.handling.sub.listeners
    · rcases hin l hmem with ⟨he, -⟩ | ⟨t', ht', he, -⟩
      · rwa [he]
      · rw [he]
        exact Receiver.onMessage_statusZero ht' _ hz
    · rwa [hout l hmem]
  case advance =>
    intro l hmem hlistens
    exact sendData_advance hn ht hserves hmem hlistens

omit [DecidableEq L] in
theorem Quiet.sound (h : n.Quiet n') (hn : n.Sound) : n'.Sound where
  nodup := h.listeners.symm ▸ hn.nodup
  isSnapshot hs := h.listeners.trans (hn.isSnapshot (h.isSnapshot.symm.trans hs))
  snapShot hs := h.listeners.trans (hn.snapShot (h.snapShot hs))
  sync ha l := by
    have hbefore := h.asyncMessaging.symm.trans ha
    rw [h.sync hbefore l]
    exact hn.sync hbefore l

theorem Quiet.serves (h : n.Quiet n') (hn : Serves n.handling.sub n.receivers) :
    Serves n'.handling.sub n'.receivers := by
  intro l hl hlistens
  rw [h.listeners] at hl
  rw [(h.quiet l).bridge] at hlistens ⊢
  rw [(h.quiet l).numbers_queue, h.sendRecap, h.subscription]
  exact hn l hl hlistens

theorem deliver_heard {n : Numbering P L} (hn : n.Sound) {r d : Bool}
    (hserves : (n.handling.sub.isRefresh && r) = true → d = true →
      Serves n.handling.sub n.receivers) (b : Bool) (ds : RsslDataState) (u : UpdateType) :
    n.Heard (n.deliver b r ds u d) := by
  have hq := n.goLive_quiet ds
  have hm := hq.sound hn
  unfold deliver
  dsimp only
  split_ifs with hd
  · refine hq.heard.trans (sendData_heard hm (messageType_data _ _ _ _) ?_)
    intro hr
    rw [hq.isRefresh] at hr
    exact hq.serves (hserves hr hd)
  · exact hq.heard

theorem update_heard {n : Numbering P L} (hn : n.Sound) (b : Bool) (ds : RsslDataState)
    (u : UpdateType) (d : Bool) : n.Heard (n.deliver b false ds u d) := by
  refine deliver_heard hn (fun hr => ?_) b ds u
  rw [Bool.and_false] at hr
  cases hr

variable [DecidableEq P]

theorem processMarketPriceMsg_heard (this : P) {n : Numbering P L} (hn : n.Sound) {msg : RsslMsg}
    (hserves : ∀ s, msg = .refresh s true → n.handling.sub.isRefresh = true →
      s.streamState = .nonStreaming ∨ s.streamState = .open ∧ s.code ≠ .preempted →
      Serves n.handling.sub n.receivers) : n.Heard (n.processMarketPriceMsg this msg) := by
  cases msg with
  | refresh s d =>
    have ha := n.answerRefresh_quiet this
    have hq := ha.trans (setRsslState_quiet (ha.sound hn).snapShot s)
    have hgood := ((n.call false (·.answerRefresh this)).handling.setRsslState_next s).1
    rw [((n.call false (·.answerRefresh this)).setRsslState_handling s).eq] at hgood
    dsimp only [processMarketPriceMsg]
    split_ifs with hok
    · refine hq.heard.trans (deliver_heard (hq.sound hn) ?_ _ _ _)
      intro hr hd
      rw [hq.isRefresh, Bool.and_true] at hr
      exact hq.serves (hserves s (by rw [hd]) hr (of_decide_eq_true (hgood.symm.trans hok)))
    · exact hq.heard
  | update u ds d => exact update_heard hn _ ds u d
  | status s =>
    cases s with
    | none => exact (Quiet.refl n).heard
    | some s =>
      dsimp only [processMarketPriceMsg]
      split_ifs
      · exact n.completeSnapshot_quiet.heard
      · exact (setRsslState_quiet hn.snapShot s).heard
  | ack => exact (Quiet.refl n).heard
  | other => exact (Quiet.refl n).heard

theorem processBookMsg_heard (this : P) {n : Numbering P L} (hn : n.Sound) {msg : RsslMsg}
    (hserves : ∀ s, msg = .refresh s true → n.handling.sub.isRefresh = true →
      Serves n.handling.sub n.receivers) : n.Heard (n.processBookMsg this msg) := by
  cases msg with
  | refresh s d =>
    have hq := (setRsslState_quiet hn.snapShot s).trans (answerRefresh_quiet this _)
    refine hq.heard.trans (deliver_heard (hq.sound hn) ?_ _ _ _)
    intro hr hd
    rw [hq.isRefresh, Bool.and_true] at hr
    exact hq.serves (hserves s (by rw [hd]) hr)
  | update u ds d => exact update_heard hn _ ds u d
  | status s =>
    cases s with
    | none => exact (Quiet.refl n).heard
    | some s => exact (setRsslState_quiet hn.snapShot s).heard
  | ack => exact (Quiet.refl n).heard
  | other => exact (Quiet.refl n).heard

def Answers (domain : Domain) (sub : UPASubscription L) : RsslMsg → Prop
  | .refresh s decodes => sub.isRefresh = true ∧ Handling.Delivers domain sub s decodes
  | _ => False

instance (domain : Domain) (sub : UPASubscription L) :
    ∀ msg : RsslMsg, Decidable (Answers domain sub msg)
  | .refresh _ _ => inferInstanceAs (Decidable (_ ∧ _))
  | .update _ _ _ | .status _ | .ack | .other => inferInstanceAs (Decidable False)

theorem processResponse_heard (this : P) {n : Numbering P L} (hn : n.Sound) (domain : Domain)
    (msg : RsslMsg)
    (hserves : Answers domain n.handling.sub msg → Serves n.handling.sub n.receivers) :
    n.Heard (n.processResponse this domain msg) := by
  have hsnap (hs : n.handling.sub.isSnapshot = true) : Serves n.handling.sub n.receivers := by
    intro l hl
    rw [hn.isSnapshot hs] at hl
    cases hl
  have hgot := n.gotResponse_quiet this
  have hanswers (hin : n.handling.sub.state ≠ .inactive) (s : RsslState)
      (hmsg : msg = .refresh s true) (hr : n.handling.sub.isRefresh = true)
      (hs : domain = .marketPrice → s.streamState = .nonStreaming ∨
        s.streamState = .open ∧ s.code ≠ .preempted) : Serves n.handling.sub n.receivers := by
    cases hsn : n.handling.sub.isSnapshot with
    | true => exact hsnap hsn
    | false =>
      subst hmsg
      exact hserves ⟨hr, hin, rfl, hsn, hs⟩
  have hbook (hdomain : domain ≠ .marketPrice) : n.Heard (n.processBookResponse this msg) := by
    unfold processBookResponse
    split_ifs with hin hw
    · exact (n.respondInactive_quiet this).heard
    · refine hgot.heard.trans (processBookMsg_heard this (hgot.sound hn) fun s hmsg hr => ?_)
      exact hgot.serves (hanswers hin s hmsg hr fun h => absurd h hdomain)
    · exact processBookMsg_heard this hn fun s hmsg hr =>
        hanswers hin s hmsg hr fun h => absurd h hdomain
  cases domain with
  | marketPrice =>
    refine Heard.trans ?_ (clear_quiet _).heard
    unfold processMarketPriceResponse
    split_ifs with hin hw
    · exact (n.respondInactive_quiet this).heard
    · refine hgot.heard.trans (processMarketPriceMsg_heard this (hgot.sound hn) fun s hmsg hr hs => ?_)
      exact hgot.serves (hanswers hin s hmsg hr fun _ => hs)
    · exact processMarketPriceMsg_heard this hn fun s hmsg hr hs =>
        hanswers hin s hmsg hr fun _ => hs
  | marketByOrder => exact (hbook (by decide)).trans (clear_quiet _).heard
  | marketByPrice => exact (hbook (by decide)).trans (clear_quiet _).heard

end Numbering

end RmdsBridge
