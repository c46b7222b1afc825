import RmdsBridge.MessageNumbers

namespace RmdsBridge

open Delivery

def numbers (ms : List NumberedMsg) : List (Option ℕ) :=
  (ms.filter fun m => m.msgType ≠ .secStatus).map (·.seqNum)

@[simp] theorem numbers_nil : numbers [] = [] := rfl

@[simp] theorem numbers_append (ms ms' : List NumberedMsg) :
    numbers (ms ++ ms') = numbers ms ++ numbers ms' := by
  unfold numbers
  rw [List.filter_append, List.map_append]

theorem numbers_data {t : MamaMsgType} (ht : t ≠ .secStatus) (k : Option ℕ) :
    numbers [⟨t, k⟩] = [k] := by
  unfold numbers
  rw [List.filter_cons_of_pos (by simp [ht])]
  rfl

theorem numbers_status {ms : List NumberedMsg} (h : ∀ m ∈ ms, m.msgType = .secStatus) :
    numbers ms = [] := by
  unfold numbers
  rw [List.filter_eq_nil_iff.mpr fun m hm => by simp [h m hm]]
  rfl

namespace RMDSBridgeSubscription

theorem onMessage_gotImage {b : RMDSBridgeSubscription} {t : MamaMsgType} (ht : t ≠ .secStatus)
    (hl : b.listens = true) :
    (b.onMessage t).1 = (b.onMessage t).2.gotImage ∧
      ((b.onMessage t).2.gotImage = false → b.gotImage = false) := by
  have hlive : ¬ (b.isShutdown || b.pausedUpdates) = true := by
    unfold listens at hl
    rwa [Bool.not_eq_true', ← Bool.not_eq_true] at hl
  unfold onMessage
  rw [if_neg hlive]
  by_cases hi : isImage t = true
  · rw [if_pos hi]
    exact ⟨rfl, fun h => by cases h⟩
  · rw [if_neg hi, if_neg ht]
    exact ⟨rfl, id⟩

end RMDSBridgeSubscription

namespace Receiver

def Current (r : Receiver) (k : ℕ) (ks : List (Option ℕ)) : Prop :=
  LeadsTo nextSeqNum ks k ∧ (r.bridge.gotImage = false → ks = [])

def StatusZero (r : Receiver) : Prop :=
  ∀ m ∈ r.received ++ r.queue, m.msgType = .secStatus → m.seqNum = some 0

def Advance (r r' : Receiver) (k k' : ℕ) : Prop :=
  ∃ ms, r'.received = r.received ++ ms ∧
    ∀ ks, r.Current k (ks ++ numbers r.queue) → r'.Current k' (ks ++ numbers ms ++ numbers r'.queue)

def Statuses (ms : List NumberedMsg) : Prop := ∀ m ∈ ms, m.msgType = .secStatus ∧ m.seqNum = some 0

theorem Statuses.numbers_eq {ms : List NumberedMsg} (h : Statuses ms) : numbers ms = [] :=
  numbers_status fun m hm => (h m hm).1

theorem Statuses.append {ms ms' : List NumberedMsg} (h : Statuses ms) (h' : Statuses ms') :
    Statuses (ms ++ ms') := by
  intro m hm
  rcases List.mem_append.mp hm with hm | hm
  · exact h m hm
  · exact h' m hm

structure Quiet (r r' : Receiver) : Prop where
  bridge : r'.bridge = r.bridge
  received : ∃ ms, r'.received = r.received ++ ms ∧ Statuses ms
  queue : ∃ ms, r'.queue = r.queue ++ ms ∧ Statuses ms

theorem statuses_nil : Statuses [] := fun _ hm => absurd hm List.not_mem_nil

theorem Quiet.refl (r : Receiver) : r.Quiet r :=
  ⟨rfl, ⟨[], (List.append_nil _).symm, statuses_nil⟩, ⟨[], (List.append_nil _).symm, statuses_nil⟩⟩

variable {r r' r'' : Receiver} {k k' k'' : ℕ}

theorem Quiet.trans (h : r.Quiet r') (h' : r'.Quiet r'') : r.Quiet r'' := by
  obtain ⟨hb, ⟨ms, hm, hs⟩, qs, hq, ht⟩ := h
  obtain ⟨hb', ⟨ms', hm', hs'⟩, qs', hq', ht'⟩ := h'
  refine ⟨hb'.trans hb, ⟨ms ++ ms', ?_, hs.append hs'⟩, qs ++ qs', ?_, ht.append ht'⟩
  · rw [hm', hm, List.append_assoc]
  · rw [hq', hq, List.append_assoc]

theorem Quiet.numbers_queue (h : r.Quiet r') : numbers r'.queue = numbers r.queue := by
  obtain ⟨qs, hq, hs⟩ := h.queue
  rw [hq, numbers_append, hs.numbers_eq, List.append_nil]

theorem Quiet.advance (h : r.Quiet r') (k : ℕ) : r.Advance r' k k := by
  obtain ⟨ms, hm, hs⟩ := h.received
  refine ⟨ms, hm, fun ks hc => ?_⟩
  rw [hs.numbers_eq, List.append_nil, h.numbers_queue]
  unfold Current
  rw [h.bridge]
  exact hc

theorem Quiet.statusZero (h : r.Quiet r') (hz : r.StatusZero) : r'.StatusZero := by
  obtain ⟨ms, hm, hs⟩ := h.received
  obtain ⟨qs, hq, ht⟩ := h.queue
  intro m hmem
  rw [hm, hq, List.mem_append, List.mem_append, List.mem_append] at hmem
  rcases hmem with (hmem | hmem) | hmem | hmem
  · exact hz m (List.mem_append_left _ hmem)
  · exact fun _ => (hs m hmem).2
  · exact hz m (List.mem_append_right _ hmem)
  · exact fun _ => (ht m hmem).2

theorem Advance.trans (h : r.Advance r' k k') (h' : r'.Advance r'' k' k'') :
    r.Advance r'' k k'' := by
  obtain ⟨ms, hm, hc⟩ := h
  obtain ⟨ms', hm', hc'⟩ := h'
  refine ⟨ms ++ ms', by rw [hm', hm, List.append_assoc], fun ks hk => ?_⟩
  have := hc' (ks ++ numbers ms) (hc ks hk)
  rwa [numbers_append, ← List.append_assoc]

theorem Advance.queue (h : r.Advance r' k k') (hc : r.Current k (numbers r.queue)) :
    r'.Current k' (numbers r'.queue) := by
  obtain ⟨ms, -, hk⟩ := h
  obtain ⟨hl, hi⟩ := hk [] hc
  refine ⟨hl.split.2, fun hn => ?_⟩
  exact (List.append_eq_nil_iff.mp (hi hn)).2

theorem onMessage_quiet (r : Receiver) (async : Bool) :
    r.Quiet (r.onMessage ⟨.secStatus, some 0⟩ async) := by
  have hstatus : Statuses [⟨.secStatus, some 0⟩] := by
    intro m hm
    rw [List.mem_singleton.mp hm]
    exact ⟨rfl, rfl⟩
  have hb : (r.bridge.onMessage .secStatus).2 = r.bridge := by
    unfold RMDSBridgeSubscription.onMessage
    split_ifs <;> first | rfl | contradiction
  unfold onMessage
  dsimp only
  rw [hb]
  split_ifs
  · exact ⟨rfl, (Quiet.refl r).received, _, rfl, hstatus⟩
  · exact ⟨rfl, ⟨_, rfl, hstatus⟩, (Quiet.refl r).queue⟩
  · exact Quiet.refl r

theorem advance_missed {b : RMDSBridgeSubscription} (hr : r.bridge.gotImage = false) (k k' : ℕ) :
    r.Advance { r with bridge := b } k k' := by
  refine ⟨[], (List.append_nil _).symm, fun ks hc => ?_⟩
  have hnil := hc.2 hr
  rw [numbers_nil, List.append_nil, hnil]
  exact ⟨leadsTo_nil k', fun _ => rfl⟩

theorem onMessage_advance {r : Receiver} {t : MamaMsgType} {async : Bool} (ht : t ≠ .secStatus)
    (hl : r.bridge.listens = true) (hq : async = true ∨ numbers r.queue = []) (k : ℕ) :
    r.Advance (r.onMessage ⟨t, some k⟩ async) k (nextSeqNum k) := by
  obtain ⟨hpass, himage⟩ := RMDSBridgeSubscription.onMessage_gotImage ht hl
  have hcur {b : RMDSBridgeSubscription} (hb : b.gotImage = true) (q m : List NumberedMsg)
      {ks : List (Option ℕ)} (hk : LeadsTo nextSeqNum ks k) :
      Current ⟨b, q, m⟩ (nextSeqNum k) (ks ++ [some k]) :=
    ⟨hk.snoc, fun hn => absurd (hb.symm.trans hn) (by decide)⟩
  unfold onMessage
  dsimp only
  split_ifs with hp ha
  · refine ⟨[], (List.append_nil _).symm, fun ks hc => ?_⟩
    rw [numbers_append, numbers_data ht, numbers_nil, List.append_nil, ← List.append_assoc]
    exact hcur (hpass.symm.trans hp) _ _ hc.1
  · refine ⟨[⟨t, some k⟩], rfl, fun ks hc => ?_⟩
    -- a message that is not queued must not overtake one that is
    have hnil := hq.resolve_left ha
    rw [hnil, List.append_nil] at hc
    rw [numbers_data ht, hnil, List.append_nil]
    exact hcur (hpass.symm.trans hp) _ _ hc.1
  · rw [hpass, Bool.not_eq_true] at hp
    exact advance_missed (himage hp) k _

theorem onMessage_statusZero {r : Receiver} {m : NumberedMsg} (hm : m.msgType ≠ .secStatus)
    (async : Bool) (hz : r.StatusZero) : (r.onMessage m async).StatusZero := by
  have hm : m.msgType = .secStatus → m.seqNum = some 0 := fun h => absurd h hm
  unfold onMessage StatusZero
  dsimp only
  split_ifs
  · rw [← List.append_assoc]
    exact List.forall_mem_append.mpr ⟨hz, List.forall_mem_singleton.mpr hm⟩
  · obtain ⟨hr, hq⟩ := List.forall_mem_append.mp hz
    exact List.forall_mem_append.mpr
      ⟨List.forall_mem_append.mpr ⟨hr, List.forall_mem_singleton.mpr hm⟩, hq⟩
  · exact hz

theorem onMessage_listens (r : Receiver) (m : NumberedMsg) (async : Bool) :
    (r.onMessage m async).bridge.listens = r.bridge.listens := by
  rw [← r.bridge.onMessage_listens m.msgType]
  unfold onMessage
  dsimp only
  split_ifs <;> rfl

theorem queueCallback_received (r : Receiver) :
    ∃ ms, r.received ++ r.queue = r.queueCallback.received ++ r.queueCallback.queue ∧
      r.queueCallback.received = r.received ++ ms ∧ r.queue = ms ++ r.queueCallback.queue := by
  unfold queueCallback
  cases hq : r.queue with
  | nil => exact ⟨[], by rw [hq], (List.append_nil _).symm, hq.symm⟩
  | cons m ms => exact ⟨[m], by rw [List.append_assoc]; rfl, rfl, rfl⟩

theorem queueCallback_bridge (r : Receiver) : r.queueCallback.bridge = r.bridge := by
  unfold queueCallback
  cases r.queue <;> rfl

theorem queueCallback_advance (r : Receiver) (k : ℕ) : r.Advance r.queueCallback k k := by
  obtain ⟨ms, -, hr, hq⟩ := r.queueCallback_received
  refine ⟨ms, hr, fun ks hc => ?_⟩
  rw [hq, numbers_append, ← List.append_assoc] at hc
  unfold Current
  rw [r.queueCallback_bridge]
  exact hc

theorem queueCallback_statusZero {r : Receiver} (hz : r.StatusZero) : r.queueCallback.StatusZero := by
  obtain ⟨-, he, -, -⟩ := r.queueCallback_received
  unfold StatusZero at hz ⊢
  rwa [← he]

end Receiver

end RmdsBridge
