import RmdsBridge.LiveStates
import RmdsBridge.Login
import RmdsBridge.OpenFailures

namespace RmdsBridge

variable {P L : Type}

inductive DispatchEvent (P L : Type)
  | client (e : Event P L)
  | login (m : LoginMsg)
  | recover
  | connected
  | response (domain : Domain) (streamId : UInt32) (msg : RsslMsg) (succeeds : Bool)
  deriving DecidableEq, Repr

namespace UPAStreamManager

structure Labelled (m : UPAStreamManager P) (ids : P → ℕ) : Prop extends m.InRange ids where
  label : ∀ i s, m.itemArray i = some s → i < numStreamIds ∧ ids s = index2StreamId i

variable {m : UPAStreamManager P} {ids : P → ℕ} {s : P}

theorem Labelled.release (h : m.Labelled ids) (hs : ids s ≠ 0) :
    (m.releaseStreamId (ids s)).Labelled ids where
  toInRange := h.toInRange.release hs
  label i t ht := by
    simp only [releaseStreamId] at ht
    by_cases hi : i = streamId2Index (ids s)
    · rw [hi, Function.update_self] at ht
      cases ht
    · rw [Function.update_of_ne hi] at ht
      exact h.label i t ht

variable [DecidableEq P]

theorem Labelled.give {m' : UPAStreamManager P} (h : m.Labelled ids) (hs : ids s = 0) {i : ℕ}
    (ha : m'.itemArray = Function.update m.itemArray i (some s)) (hi : i < numStreamIds)
    (j : ℕ) (t : P) (ht : m'.itemArray j = some t) :
    j < numStreamIds ∧ Function.update ids s (index2StreamId i) t = index2StreamId j := by
  rw [ha] at ht
  by_cases hj : j = i
  · rw [hj, Function.update_self] at ht
    obtain rfl := Option.some.inj ht
    rw [hj, Function.update_self]
    exact ⟨hi, rfl⟩
  · rw [Function.update_of_ne hj] at ht
    obtain ⟨hlt, hid⟩ := h.label j t ht
    have hts : t ≠ s := by
      rintro rfl
      exact index2StreamId_ne_zero hlt (hid.symm.trans hs)
    rw [Function.update_of_ne hts]
    exact ⟨hlt, hid⟩

theorem Labelled.addItem (h : m.Labelled ids) (hs : ids s = 0) :
    (m.addItem s).2.Labelled (Function.update ids s (m.addItem s).1) := by
  refine ⟨(h.toInRange.addItem hs).1, ?_⟩
  by_cases hx : m.Exhausted
  · rw [addItem_of_exhausted hx, update_unassigned hs]
    exact h.label
  · obtain ⟨i, hi, hid, ha, -, -⟩ := h.toInRange.gives hx s
    rw [hid]
    exact h.give hs ha hi

theorem labelled_rule : StreamRule (P := P) Labelled where
  congr h hi hn hf := ⟨h.toInRange.congr hi hn hf, hi ▸ h.label⟩
  release h hs := h.release hs
  addItem h hs := h.addItem hs
  item h hi := h.item _ _ hi

end UPAStreamManager

theorem streamId2Index_lt_iff (streamId : UInt32) :
    streamId2Index streamId.toNat < numStreamIds ↔
      16 ≤ streamId ∧ streamId.toNat < 16 + numStreamIds := by
  have hlt := streamId.toNat_lt
  have hle : 16 ≤ streamId ↔ 16 ≤ streamId.toNat := UInt32.le_iff_toNat_le
  rw [hle]
  unfold streamId2Index startStreamId numStreamIds
  omega

theorem index2StreamId_streamId2Index (streamId : UInt32) :
    index2StreamId (streamId2Index streamId.toNat) = streamId.toNat := by
  have hlt := streamId.toNat_lt
  unfold index2StreamId streamId2Index startStreamId
  omega

namespace UPAConsumer

def HeldOpen (c : UPAConsumer P L) (streamId : ℕ) : Prop :=
  ∃ s, c.ids s = streamId ∧ c.streamManager.getItem streamId = some s ∧ (c.subscriptions s).state ≠ .inactive

variable [DecidableEq P] [DecidableEq L] {c : UPAConsumer P L}

theorem respond_unheld (hc : c.streamManager.Labelled c.ids) (domain : Domain) (streamId : UInt32)
    (msg : RsslMsg) (hu : ¬ c.HeldOpen streamId.toNat) :
    (c.respond domain streamId.toNat msg).subscriptions = c.subscriptions := by
  cases ht : c.target domain streamId.toNat with
  | none => exact congrArg subscriptions (respond_untargeted msg ht)
  | some s =>
    have hitem := item_of_target ht
    have hid : c.ids s = streamId.toNat := by
      rw [(hc.label _ s hitem).2]
      exact index2StreamId_streamId2Index streamId
    have hclosed : (c.subscriptions s).state = .inactive := by
      by_contra hopen
      exact hu ⟨s, hid, hitem, hopen⟩
    have hsub : (processResponse s (c.handling s) domain msg).sub = c.subscriptions s := by
      rw [Handling.processResponse_inactive s domain msg hclosed]
      exact ((c.handling s).respondInactive_state s).1
    rw [show (c.respond domain streamId.toNat msg).subscriptions = _ from (respond_became msg ht).1, hsub,
      Function.update_eq_self]

end UPAConsumer

namespace ConsumerThread

def start (symbols : P → String) (config : TransportConfig) : ConsumerThread P L :=
  { consumer := .start symbols config }

def Dispatches (t : ConsumerThread P L) : Prop := t.Reading ∧ ¬ t.isInLoginSuspectState

instance (t : ConsumerThread P L) : Decidable t.Dispatches := inferInstanceAs (Decidable (_ ∧ _))

/-- The index at which `GetItem` reads `ItemArray_` for a message. -/
def indexRead (t : ConsumerThread P L) (domain : Domain) (streamId : UInt32) : Option ℕ :=
  if t.Dispatches ∧ ¬ (domain = .marketPrice ∧ streamId < 16) then some (streamId2Index streamId.toNat)
  else none

variable [DecidableEq P] [DecidableEq L]

/-- Item messages come with the server's stream id only. -/
def next (t : ConsumerThread P L) : DispatchEvent P L → ConsumerThread P L
  | .client (.respond _ _ _) => t
  | .client e => { t with consumer := t.consumer.step e }
  | .login m => t.step (.login m)
  | .recover => t.step .recover
  | .connected => t.step .connected
  | .response domain streamId msg succeeds => t.step (.item domain streamId.toNat msg succeeds)

def DispatchedInside (t : ConsumerThread P L) : DispatchEvent P L → Prop
  | .response domain streamId msg succeeds =>
    (∀ i ∈ t.indexRead domain streamId, i < numStreamIds) ∧
      (¬ t.consumer.HeldOpen streamId.toNat →
        (t.next (.response domain streamId msg succeeds)).consumer.subscriptions = t.consumer.subscriptions)
  | _ => True

def IdInTable (t : ConsumerThread P L) : DispatchEvent P L → Prop
  | .response domain streamId _ _ => t.Dispatches →
    (domain = .marketPrice ∧ streamId < 16) ∨ (16 ≤ streamId ∧ streamId.toNat < 16 + numStreamIds)
  | _ => True

def Labelled (t : ConsumerThread P L) : Prop := t.consumer.streamManager.Labelled t.consumer.ids

variable {t : ConsumerThread P L}

omit [DecidableEq P] [DecidableEq L] in
/-- A message goes to the subscription at the index that is read for it. -/
theorem target_of_indexRead (h : t.Dispatches) (domain : Domain) (streamId : UInt32) :
    t.consumer.target domain streamId.toNat =
      (t.indexRead domain streamId).bind t.consumer.streamManager.itemArray := by
  unfold indexRead UPAConsumer.target
  have hlt : streamId < 16 ↔ streamId.toNat < 16 := UInt32.lt_iff_toNat_lt
  by_cases hoff : domain = .marketPrice ∧ streamId < 16
  · rw [if_pos ⟨hoff.1, hlt.mp hoff.2⟩, if_neg fun hread => hread.2 hoff]
    rfl
  · rw [if_neg fun hoff' => hoff ⟨hoff'.1, hlt.mpr hoff'.2⟩, if_pos ⟨h, hoff⟩]
    rfl

omit [DecidableEq P] [DecidableEq L] in
theorem afterRead_consumer (r : Bool × ConsumerThread P L) : (afterRead r).consumer = r.2.consumer := by
  obtain ⟨ok, t⟩ := r
  cases ok with
  | true => rfl
  | false => exact apply_ite consumer _ _ _ |>.trans (ite_self _)

omit [DecidableEq P] [DecidableEq L] in
theorem processLogin_consumer (m : LoginMsg) : (t.processLogin m).2.consumer = t.consumer := by
  unfold processLogin LoginCase.processLogin
  dsimp only [loginCase]
  split_ifs
  · rfl
  · split <;> rfl

theorem step_item_consumer (domain : Domain) (streamId : ℕ) (msg : RsslMsg) (succeeds : Bool) :
    (t.step (.item domain streamId msg succeeds)).consumer =
      if t.Dispatches then t.consumer.respond domain streamId msg else t.consumer := by
  unfold step Dispatches processItem deliver
  by_cases hr : t.Reading
  · by_cases hs : t.isInLoginSuspectState = true
    · simp [hr, hs, afterRead_consumer]
    · simp [hr, hs, afterRead_consumer]
  · simp [hr]

theorem next_consumer (e : DispatchEvent P L) :
    (t.next e).consumer = t.consumer ∨ ∃ e' : Event P L, (t.next e).consumer = t.consumer.step e' := by
  cases e with
  | client e =>
    cases he : e with
    | respond _ _ _ => exact .inl rfl
    | _ =>
      right
      use e
      rw [he]
      rfl
  | login m =>
    left
    change (t.step (.login m)).consumer = _
    unfold step
    dsimp only
    split_ifs
    · exact (afterRead_consumer _).trans (processLogin_consumer m)
    · rfl
  | recover =>
    left
    exact apply_ite consumer _ _ _ |>.trans (ite_self _)
  | connected =>
    left
    exact apply_ite consumer _ _ _ |>.trans (ite_self _)
  | response domain streamId msg succeeds =>
    have hc := t.step_item_consumer domain streamId.toNat msg succeeds
    by_cases hd : t.Dispatches
    · rw [if_pos hd] at hc
      exact .inr ⟨.respond domain streamId.toNat msg, hc⟩
    · rw [if_neg hd] at hc
      exact .inl hc

theorem Labelled.next (ht : t.Labelled) (e : DispatchEvent P L) : (t.next e).Labelled := by
  unfold Labelled
  rcases t.next_consumer e with he | ⟨e', he⟩
  · rw [he]
    exact ht
  · rw [he]
    exact UPAStreamManager.labelled_rule.step ht e'

omit [DecidableEq P] [DecidableEq L] in
theorem start_labelled (symbols : P → String) (config : TransportConfig) :
    (start symbols config : ConsumerThread P L).Labelled where
  toInRange := UPAConsumer.start_inRange symbols config
  label i s hi := by cases hi

omit [DecidableEq P] [DecidableEq L] in
theorem indexRead_inside_iff (domain : Domain) (streamId : UInt32) (msg : RsslMsg) (succeeds : Bool) :
    (∀ i ∈ t.indexRead domain streamId, i < numStreamIds) ↔
      t.IdInTable (.response domain streamId msg succeeds) := by
  unfold indexRead IdInTable
  by_cases hd : t.Dispatches
  · by_cases hoff : domain = .marketPrice ∧ streamId < 16
    · simp [hd, hoff]
    · simp [hd, hoff, streamId2Index_lt_iff]
  · simp [hd]

theorem Labelled.response_unheld (ht : t.Labelled) (domain : Domain) (streamId : UInt32) (msg : RsslMsg)
    (succeeds : Bool) (hu : ¬ t.consumer.HeldOpen streamId.toNat) :
    (t.next (.response domain streamId msg succeeds)).consumer.subscriptions = t.consumer.subscriptions := by
  change (t.step (.item domain streamId.toNat msg succeeds)).consumer.subscriptions = _
  rw [step_item_consumer]
  split_ifs
  · exact UPAConsumer.respond_unheld ht domain streamId msg hu
  · rfl

theorem Labelled.dispatchedInside_iff (ht : t.Labelled) (e : DispatchEvent P L) :
    t.DispatchedInside e ↔ t.IdInTable e := by
  cases e with
  | response domain streamId msg succeeds =>
    rw [← indexRead_inside_iff]
    exact and_iff_left (ht.response_unheld domain streamId msg succeeds)
  | _ => exact Iff.rfl

theorem dispatched_inside_iff (symbols : P → String) (config : TransportConfig)
    (events : List (DispatchEvent P L)) :
    Runs.Guarded next DispatchedInside (start symbols config) events ↔
      Runs.Guarded next IdInTable (start symbols config) events :=
  Runs.guarded_congr (fun _ e ht _ => ht.next e) (fun _ e ht => ht.dispatchedInside_iff e)
    (start_labelled symbols config)

def bookOnLoginStream : List (DispatchEvent Bool Bool) :=
  [.connected, .response .marketByOrder 1 .other true]

theorem book_on_login_stream_outside : ¬ ∀ (symbols : Bool → String) (config : TransportConfig)
    (events : List (DispatchEvent Bool Bool)),
    Runs.Guarded next DispatchedInside (start symbols config) events := by
  intro h
  have hread := (h (fun _ => "") {} bookOnLoginStream).2.1.1 4294967281 rfl
  exact absurd hread (by decide)

end ConsumerThread

end RmdsBridge
