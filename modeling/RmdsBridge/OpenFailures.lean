import RmdsBridge.SendMessage
import RmdsBridge.StreamRules

namespace RmdsBridge

variable {P L : Type}

namespace UPAStreamManager

def Exhausted (m : UPAStreamManager P) : Prop := numStreamIds ≤ m.nextIndex ∧ m.freeStreamIds = []

instance (m : UPAStreamManager P) : Decidable m.Exhausted := inferInstanceAs (Decidable (_ ∧ _))

structure InRange (m : UPAStreamManager P) (ids : P → ℕ) : Prop where
  bounded : m.nextIndex ≤ numStreamIds
  id : ∀ s, ids s ≠ 0 → ∃ i < numStreamIds, ids s = index2StreamId i
  item : ∀ i s, m.itemArray i = some s → ids s ≠ 0
  free : ∀ i ∈ m.freeStreamIds, i < numStreamIds

variable {m : UPAStreamManager P} {ids : P → ℕ} {s : P}

theorem InRange.congr {m' : UPAStreamManager P} (h : m.InRange ids) (hi : m'.itemArray = m.itemArray)
    (hn : m'.nextIndex = m.nextIndex) (hf : m'.freeStreamIds = m.freeStreamIds) : m'.InRange ids where
  bounded := by
    rw [hn]
    exact h.bounded
  id := h.id
  item := by
    rw [hi]
    exact h.item
  free := by
    rw [hf]
    exact h.free

theorem InRange.release (h : m.InRange ids) (hs : ids s ≠ 0) : (m.releaseStreamId (ids s)).InRange ids where
  bounded := h.bounded
  id := h.id
  item i t ht := by
    simp only [releaseStreamId] at ht
    by_cases hi : i = streamId2Index (ids s)
    · rw [hi, Function.update_self] at ht
      cases ht
    · rw [Function.update_of_ne hi] at ht
      exact h.item i t ht
  free i hi := by
    simp only [releaseStreamId] at hi
    rcases List.mem_append.mp hi with hi | hi
    · exact h.free i hi
    · obtain ⟨j, hj, he⟩ := h.id s hs
      rw [List.mem_singleton.mp hi, he, streamId2Index_index2StreamId hj]
      exact hj

theorem addItem_of_exhausted (h : m.Exhausted) : m.addItem s = (0, m) := by
  simp [addItem, h.1, h.2]

variable [DecidableEq P]

theorem InRange.give {m' : UPAStreamManager P} (h : m.InRange ids) {i : ℕ}
    (ha : m'.itemArray = Function.update m.itemArray i (some s)) (hi : i < numStreamIds)
    (hb : m'.nextIndex ≤ numStreamIds) (hf : ∀ j ∈ m'.freeStreamIds, j ∈ m.freeStreamIds) :
    m'.InRange (Function.update ids s (index2StreamId i)) where
  bounded := hb
  id t ht := by
    by_cases hts : t = s
    · rw [hts, Function.update_self]
      exact ⟨i, hi, rfl⟩
    · rw [Function.update_of_ne hts] at ht ⊢
      exact h.id t ht
  item j t ht := by
    by_cases hts : t = s
    · rw [hts, Function.update_self]
      exact index2StreamId_ne_zero hi
    · rw [Function.update_of_ne hts]
      rw [ha] at ht
      by_cases hj : j = i
      · rw [hj, Function.update_self] at ht
        exact absurd (Option.some.inj ht).symm hts
      · rw [Function.update_of_ne hj] at ht
        exact h.item j t ht
  free j hj := h.free j (hf j hj)

omit [DecidableEq P] in
theorem InRange.gives (h : m.InRange ids) (hx : ¬ m.Exhausted) (s : P) :
    ∃ i < numStreamIds, (m.addItem s).1 = index2StreamId i ∧
      (m.addItem s).2.itemArray = Function.update m.itemArray i (some s) ∧
      (m.addItem s).2.nextIndex ≤ numStreamIds ∧ (m.addItem s).2.freeStreamIds ⊆ m.freeStreamIds := by
  unfold UPAStreamManager.addItem
  by_cases hfull : numStreamIds ≤ m.nextIndex
  · rw [if_pos hfull]
    cases hf : m.freeStreamIds with
    | nil => exact absurd ⟨hfull, hf⟩ hx
    | cons i free =>
      have hi : i < numStreamIds := h.free i (by rw [hf]; exact List.mem_cons_self)
      exact ⟨i, hi, rfl, rfl, h.bounded, List.subset_cons_self i free⟩
  · rw [if_neg hfull]
    have hlt : m.nextIndex < numStreamIds := not_le.mp hfull
    exact ⟨m.nextIndex, hlt, rfl, rfl, hlt, List.Subset.refl _⟩

theorem InRange.addItem (h : m.InRange ids) (hs : ids s = 0) :
    (m.addItem s).2.InRange (Function.update ids s (m.addItem s).1) ∧
      ((m.addItem s).1 = 0 ↔ m.Exhausted) := by
  by_cases hx : m.Exhausted
  · rw [addItem_of_exhausted hx, update_unassigned hs]
    exact ⟨h, iff_of_true rfl hx⟩
  · obtain ⟨i, hi, hid, ha, hb, hf⟩ := h.gives hx s
    rw [hid]
    exact ⟨h.give ha hi hb hf, iff_of_false (index2StreamId_ne_zero hi) hx⟩

theorem inRange_rule : StreamRule (P := P) InRange where
  congr h hi hn hf := h.congr hi hn hf
  release h hs := h.release hs
  addItem h hs := (h.addItem hs).1
  item h hi := h.item _ _ hi

end UPAStreamManager

namespace UPAConsumer

def InRange (c : UPAConsumer P L) : Prop := c.streamManager.InRange c.ids

def start (symbols : P → String) (config : TransportConfig) : UPAConsumer P L :=
  { subscriptions := fun s => { symbol := symbols s }, config }

variable {c c' : UPAConsumer P L} {s : P}

theorem start_inRange (symbols : P → String) (config : TransportConfig) :
    (start symbols config : UPAConsumer P L).InRange where
  bounded := Nat.zero_le _
  id s hs := absurd rfl hs
  item i s hi := by cases hi
  free i hi := by cases hi

variable [DecidableEq P] [DecidableEq L]

theorem InRange.step (hc : c.InRange) (e : Event P L) : (c.step e).InRange :=
  UPAStreamManager.inRange_rule.step hc e

end UPAConsumer

structure OpenSteps where
  buffer : Bool
  setEncodeIteratorBuffer : Bool
  encodeMsgInit : Bool
  encodeMsgComplete : Bool
  write : WriteCall
  retries : List (FlushCall × WriteCall)
  flush : FlushCall

namespace OpenSteps

def encodeItemRequest (o : OpenSteps) (sub : UPASubscription L) : SendRet :=
  if sub.subscriptionType = .unknown then .failure
  else if o.setEncodeIteratorBuffer && o.encodeMsgInit && o.encodeMsgComplete then .success
  else .failure

/-- `none` is a send that does not return. -/
def outcome (o : OpenSteps) (sub : UPASubscription L) : Option SendOutcome :=
  if o.buffer then
    match o.encodeItemRequest sub with
    | .failure => some .encodeFailed
    | .success =>
      (Sending.sendUPAMessage o.write o.retries o.flush).map fun
        | .success => .sent
        | .failure => .sendFailed
  else some .noBuffer

end OpenSteps

def WriteCall.Refused (w : WriteCall) : Prop := w.code = .failed ∨ w.code = .flushFailed ∧ w.closed = true

theorem Sending.sendUPAMessage_eq_failure {w : WriteCall} {retries : List (FlushCall × WriteCall)}
    {f : FlushCall} : sendUPAMessage w retries f = some .failure ↔ w.Refused := by
  unfold sendUPAMessage sendUPAMessageWithErrorText WriteCall.Refused
  cases w.code with
  | success => simp
  | queued => simp
  | callAgain => simp
  | flushFailed => cases w.closed <;> simp
  | failed => simp

namespace Handling

variable [DecidableEq P]

/-- `SendOpenRequest`. Without a stream id none of the steps is taken. -/
def sendOpenRequestSteps (this : P) (h : Handling P L) (o : OpenSteps) : Option (Bool × Handling P L) :=
  if (h.takeStreamId this).sub.streamId = 0 then some (h.sendOpenRequest this .noBuffer)
  else (o.outcome h.sub).map (h.sendOpenRequest this)

def HandedOver (this : P) (h : Handling P L) (o : OpenSteps) : Prop :=
  (h.takeStreamId this).sub.streamId ≠ 0 ∧ o.buffer = true ∧ o.encodeItemRequest h.sub = .success ∧
    Sending.Taken o.write o.retries

structure NoTrace (h : Handling P L) (r : Bool × Handling P L) : Prop where
  result : r.1 = false
  errors : ∀ l ∈ h.sub.listeners, ∃ status, Notice.error l status ∈ r.2.notices
  streamId : h.sub.streamId = 0 → r.2.sub.streamId = 0
  itemArray : r.2.manager.itemArray = h.manager.itemArray
  freeStreamIds : r.2.manager.freeStreamIds = h.manager.freeStreamIds
  pendingItems : r.2.manager.pendingItems = h.manager.pendingItems

def FailsCleanly (this : P) (h : Handling P L) (o : OpenSteps) : Prop :=
  ¬ h.HandedOver this o → ∃ r, h.sendOpenRequestSteps this o = some r ∧ h.NoTrace r

def CleanFailure (this : P) (h : Handling P L) (o : OpenSteps) : Prop :=
  h.sub.streamId = 0 ∧ h.manager.Exhausted ∨
    h.sub.streamId ≠ 0 ∧ o.buffer = true ∧
      (o.encodeItemRequest h.sub = .failure ∨
        o.write.Refused ∧ h.sub.listeners = [] ∧ this ∉ h.manager.pendingItems)

variable {this : P} {h : Handling P L} {o : OpenSteps}

omit [DecidableEq P] in
theorem takeStreamId_held (h0 : h.sub.streamId ≠ 0) : h.takeStreamId this = h := if_neg h0

omit [DecidableEq P] in
theorem notifyListenersError_errors (h : Handling P L) (s : MamaStatus) :
    ∀ l ∈ h.sub.listeners, ∃ status, Notice.error l status ∈ (h.notifyListenersError s).notices := by
  intro l hl
  refine ⟨s, ?_⟩
  apply List.mem_append_right
  exact List.mem_map.mpr ⟨l, hl, rfl⟩

theorem failsCleanly_exhausted (h0 : h.sub.streamId = 0) (hx : h.manager.Exhausted) :
    h.FailsCleanly this o := by
  have htake : h.takeStreamId this = h := by
    unfold takeStreamId
    rw [if_pos h0, UPAStreamManager.addItem_of_exhausted hx, ← h0]
  intro _
  refine ⟨(false, h.notifyListenersError .platform), ?_, ?_⟩
  · unfold sendOpenRequestSteps sendOpenRequest
    rw [htake, if_pos h0, if_pos h0]
  · exact ⟨rfl, h.notifyListenersError_errors _, fun _ => h0, rfl, rfl, rfl⟩

theorem sendOpenRequest_streamId (s : SendOutcome) :
    (h.sendOpenRequest this s).2.sub.streamId = (h.takeStreamId this).sub.streamId := by
  unfold sendOpenRequest
  dsimp only
  split_ifs <;> rfl

theorem not_failsCleanly_taken (h0 : h.sub.streamId = 0) (hid : (h.takeStreamId this).sub.streamId ≠ 0)
    (hover : ¬ h.HandedOver this o) : ¬ h.FailsCleanly this o := by
  intro hclean
  obtain ⟨r, hr, hn⟩ := hclean hover
  unfold sendOpenRequestSteps at hr
  rw [if_neg hid, Option.map_eq_some_iff] at hr
  obtain ⟨s, -, rfl⟩ := hr
  apply hid
  rw [← sendOpenRequest_streamId s]
  exact hn.streamId h0

theorem sendOpenRequestSteps_held (h0 : h.sub.streamId ≠ 0) :
    h.sendOpenRequestSteps this o = (o.outcome h.sub).map (h.sendOpenRequest this) := by
  unfold sendOpenRequestSteps
  rw [takeStreamId_held h0, if_neg h0]

theorem failsCleanly_iff_noTrace {s : SendOutcome} (h0 : h.sub.streamId ≠ 0)
    (hs : o.outcome h.sub = some s) (hover : ¬ h.HandedOver this o) :
    h.FailsCleanly this o ↔ h.NoTrace (h.sendOpenRequest this s) := by
  have hresult : h.sendOpenRequestSteps this o = some (h.sendOpenRequest this s) := by
    rw [sendOpenRequestSteps_held h0, hs, Option.map_some]
  constructor
  · intro hclean
    obtain ⟨r, hr, htrace⟩ := hclean hover
    rw [hresult] at hr
    cases hr
    exact htrace
  · intro htrace _
    exact ⟨_, hresult, htrace⟩

theorem not_failsCleanly_returned {s : SendOutcome} (h0 : h.sub.streamId ≠ 0)
    (hs : o.outcome h.sub = some s) (hover : ¬ h.HandedOver this o)
    (hr : (h.sendOpenRequest this s).1 = true) : ¬ h.FailsCleanly this o := by
  rw [failsCleanly_iff_noTrace h0 hs hover]
  intro hn
  have hfalse := hn.result
  rw [hr] at hfalse
  cases hfalse

theorem failsCleanly_encodeFailed (h0 : h.sub.streamId ≠ 0) (hb : o.buffer = true)
    (he : o.encodeItemRequest h.sub = .failure) (hover : ¬ h.HandedOver this o) : h.FailsCleanly this o := by
  have houtcome : o.outcome h.sub = some .encodeFailed := by
    rw [OpenSteps.outcome, if_pos hb, he]
  have hsend : h.sendOpenRequest this .encodeFailed = (false, h.notifyListenersError .platform) := by
    unfold sendOpenRequest
    rw [takeStreamId_held h0, if_neg h0, if_neg SendOutcome.noConfusion, if_pos (.inl rfl)]
  rw [failsCleanly_iff_noTrace h0 houtcome hover, hsend]
  exact ⟨rfl, h.notifyListenersError_errors _, fun hz => absurd hz h0, rfl, rfl, rfl⟩

theorem sendOpenRequest_refused (h0 : h.sub.streamId ≠ 0) (ht : h.sub.subscriptionType ≠ .unknown) :
    h.sendOpenRequest this .sendFailed = (false, (h.addPendingItem this).removePendingItem this) := by
  unfold sendOpenRequest
  rw [takeStreamId_held h0, if_neg h0, if_neg SendOutcome.noConfusion, if_neg, if_pos rfl]
  simp [ht]

theorem removed_pendingItems : ((h.addPendingItem this).removePendingItem this).manager.pendingItems =
    h.manager.pendingItems.erase this := by
  ext t
  simp [addPendingItem, removePendingItem, UPAStreamManager.addPendingItem, UPAStreamManager.removePendingItem]

theorem noTrace_refused (hn : h.notices = []) (h0 : h.sub.streamId ≠ 0) :
    h.NoTrace (false, (h.addPendingItem this).removePendingItem this) ↔
      h.sub.listeners = [] ∧ this ∉ h.manager.pendingItems := by
  constructor
  · intro ht
    constructor
    · apply List.eq_nil_iff_forall_not_mem.mpr
      intro l hl
      obtain ⟨status, hmem⟩ := ht.errors l hl
      change _ ∈ h.notices at hmem
      rw [hn] at hmem
      cases hmem
    · intro hmem
      have hp := ht.pendingItems
      rw [removed_pendingItems] at hp
      rw [← hp] at hmem
      exact Finset.notMem_erase this _ hmem
  · rintro ⟨hl, hp⟩
    refine ⟨rfl, ?_, fun hz => absurd hz h0, rfl, rfl, ?_⟩
    · rw [hl]
      simp
    · rw [removed_pendingItems, Finset.erase_eq_of_notMem hp]

theorem failsCleanly_sent (h0 : h.sub.streamId ≠ 0) (hb : o.buffer = true)
    (he : o.encodeItemRequest h.sub = .success) (hn : h.notices = []) (hover : ¬ h.HandedOver this o) :
    h.FailsCleanly this o ↔ o.write.Refused ∧ h.sub.listeners = [] ∧ this ∉ h.manager.pendingItems := by
  have houtcome : o.outcome h.sub = (Sending.sendUPAMessage o.write o.retries o.flush).map fun
      | .success => .sent
      | .failure => .sendFailed := by
    rw [OpenSteps.outcome, if_pos hb, he]
  have ht : h.sub.subscriptionType ≠ .unknown := by
    intro ht
    rw [OpenSteps.encodeItemRequest, if_pos ht] at he
    cases he
  have hrefused : Sending.sendUPAMessage o.write o.retries o.flush = some .failure ↔ o.write.Refused :=
    Sending.sendUPAMessage_eq_failure
  cases hs : Sending.sendUPAMessage o.write o.retries o.flush with
  | none =>
    rw [hs] at houtcome hrefused
    refine iff_of_false (fun hclean => ?_) fun hc => by cases hrefused.mpr hc.1
    obtain ⟨r, hr, -⟩ := hclean hover
    rw [sendOpenRequestSteps_held h0, houtcome] at hr
    cases hr
  | some ret =>
    rw [hs] at houtcome hrefused
    cases ret with
    | success =>
      refine iff_of_false (not_failsCleanly_returned h0 houtcome hover ?_) fun hc => by
        cases hrefused.mpr hc.1
      unfold sendOpenRequest
      rw [takeStreamId_held h0, if_neg h0]
      simp [ht]
    | failure =>
      rw [and_iff_right (hrefused.mp rfl), ← noTrace_refused hn h0, ← sendOpenRequest_refused h0 ht]
      exact failsCleanly_iff_noTrace h0 houtcome hover

theorem failsCleanly_held (h0 : h.sub.streamId ≠ 0) (hn : h.notices = []) (hover : ¬ h.HandedOver this o) :
    h.FailsCleanly this o ↔ o.buffer = true ∧ (o.encodeItemRequest h.sub = .failure ∨
      o.write.Refused ∧ h.sub.listeners = [] ∧ this ∉ h.manager.pendingItems) := by
  cases hb : o.buffer with
  | false =>
    refine iff_of_false (not_failsCleanly_returned (s := .noBuffer) h0 ?_ hover ?_) fun hc => by cases hc.1
    · simp [OpenSteps.outcome, hb]
    · unfold sendOpenRequest
      rw [takeStreamId_held h0, if_neg h0, if_pos rfl]
  | true =>
    rw [and_iff_right rfl]
    cases he : o.encodeItemRequest h.sub with
    | failure => exact iff_of_true (failsCleanly_encodeFailed h0 hb he hover) (.inl rfl)
    | success =>
      rw [failsCleanly_sent h0 hb he hn hover]
      simp

theorem failsCleanly_iff (hn : h.notices = [])
    (hx : h.sub.streamId = 0 → ((h.takeStreamId this).sub.streamId = 0 ↔ h.manager.Exhausted)) :
    h.FailsCleanly this o ↔ h.HandedOver this o ∨ h.CleanFailure this o := by
  by_cases hover : h.HandedOver this o
  · exact iff_of_true (fun hno => absurd hover hno) (.inl hover)
  · rw [or_iff_right hover]
    unfold CleanFailure
    by_cases h0 : h.sub.streamId = 0
    · rw [and_iff_right h0, or_iff_left fun hc => hc.1 h0, ← hx h0]
      by_cases hid : (h.takeStreamId this).sub.streamId = 0
      · exact iff_of_true (failsCleanly_exhausted h0 ((hx h0).mp hid)) hid
      · exact iff_of_false (not_failsCleanly_taken h0 hid hover) hid
    · rw [or_iff_right fun hc => h0 hc.1, and_iff_right h0]
      exact failsCleanly_held h0 hn hover

end Handling

namespace UPAConsumer

variable [DecidableEq P] [DecidableEq L]

omit [DecidableEq L] in
theorem InRange.failsCleanly_iff {c : UPAConsumer P L} (hc : c.InRange) (s : P) (o : OpenSteps) :
    (c.handling s).FailsCleanly s o ↔
      (c.handling s).HandedOver s o ∨ (c.handling s).CleanFailure s o := by
  apply Handling.failsCleanly_iff rfl
  intro h0
  unfold Handling.takeStreamId
  rw [if_pos h0]
  exact (UPAStreamManager.InRange.addItem hc h0).2

theorem failed_open_clean_iff (symbols : P → String) (config : TransportConfig) (events : List (Event P L))
    (s : P) (o : OpenSteps) :
    ((Runs.run step (start symbols config) events).handling s).FailsCleanly s o ↔
      ((Runs.run step (start symbols config) events).handling s).HandedOver s o ∨
        ((Runs.run step (start symbols config) events).handling s).CleanFailure s o :=
  InRange.failsCleanly_iff (Runs.run_inv (fun _ e hc => hc.step e) (start_inRange symbols config)) s o

def noBuffer : OpenSteps := ⟨false, true, true, true, ⟨.success, false, ""⟩, [], ⟨.success, ""⟩⟩

/-- Without a buffer the stream id stays taken, nobody gets an error, and the request counts as sent. -/
theorem noBuffer_leaves_trace : ¬ ∀ (symbols : Unit → String) (config : TransportConfig)
    (events : List (Event Unit Unit)) (s : Unit) (o : OpenSteps),
    ((Runs.run step (start symbols config) events).handling s).FailsCleanly s o := by
  intro h
  have hclean := h (fun _ => "A") {} [.setDomain () .marketPrice, .addListener () (), .open ()] () noBuffer
  obtain ⟨r, hr, hn⟩ := hclean fun hover => by cases hover.2.1
  cases hr
  cases hn.result

end UPAConsumer

end RmdsBridge
