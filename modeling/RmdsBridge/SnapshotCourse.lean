import RmdsBridge.LiveStates
import RmdsBridge.SubscriptionLeases

namespace RmdsBridge

inductive SnapshotStatus
  | ok
  | notFound
  deriving DecidableEq, Repr

/-- The status that `RMDSBridgeSnapshot::OnMessage` sends to the inbox for a message. -/
def snapshotStatus : RsslMsg → SnapshotStatus
  | .status _ => .notFound
  | _ => .ok

def RsslState.Accepted (s : RsslState) : Prop :=
  s.streamState = .nonStreaming ∨ s.streamState = .open ∧ s.code ≠ .preempted

instance (s : RsslState) : Decidable s.Accepted := inferInstanceAs (Decidable (_ ∨ _))

inductive SnapshotCourse
  | waiting
  | answered (status : SnapshotStatus)
  | lost
  deriving DecidableEq, Repr

namespace SnapshotCourse

def next (domain : Domain) (msg : RsslMsg) : SnapshotCourse → SnapshotCourse
  | .waiting =>
    match msg with
    | .refresh s decodes =>
      if domain = .marketPrice ∧ ¬ s.Accepted then .waiting
      else if decodes then .answered .ok
      else if s.streamState = .nonStreaming then .lost
      else .waiting
    | .update _ _ decodes => if decodes then .answered .ok else .waiting
    | .status (some s) =>
      if domain = .marketPrice then .answered .notFound
      else if s.streamState = .nonStreaming then .lost
      else .waiting
    | .status none | .ack | .other => .waiting
  | course => course

def of (ms : List (Domain × RsslMsg)) : SnapshotCourse :=
  ms.foldl (fun course m => course.next m.1 m.2) .waiting

def reply : SnapshotCourse → Option SnapshotStatus
  | .answered status => some status
  | _ => none

def Fits {L : Type} (sub : UPASubscription L) : SnapshotCourse → Prop
  | .waiting => sub.isSnapshot = true ∧ sub.snapShot = true ∧ sub.state ≠ .inactive
  | .answered _ => sub.snapShot = false
  | .lost => sub.snapShot = true ∧ sub.state = .inactive

@[simp] theorem of_concat (ms : List (Domain × RsslMsg)) (domain : Domain) (msg : RsslMsg) :
    of (ms ++ [(domain, msg)]) = (of ms).next domain msg := by
  simp [of, List.foldl_append]

end SnapshotCourse

namespace Handling

variable {P L : Type}

theorem StateOnly.sub_eq {h h' : Handling P L} (k : h.StateOnly h') :
    h'.sub = { h.sub with state := h'.sub.state } := by
  obtain ⟨st, n, o, rfl⟩ := k
  rfl

theorem afterData_inactive_iff (st : SubscriptionState) (ds : RsslDataState) :
    afterData st ds = .inactive ↔ st = .inactive := by
  unfold afterData
  split_ifs with h
  · simp [h.1]
  · rfl

theorem next_inactive_iff (s : RsslState) {st : SubscriptionState} (hst : st ≠ .inactive) :
    s.next true st = .inactive ↔ s.streamState = .nonStreaming := by
  unfold RsslState.next
  by_cases hn : s.streamState = .nonStreaming
  · simp [hn]
  · by_cases ho : s.streamState = .open ∧ s.code ≠ .preempted
    · rw [if_neg hn, if_pos ho]
      refine iff_of_false ?_ hn
      cases s.dataState <;> cases st <;> first | exact absurd rfl hst | exact SubscriptionState.noConfusion
    · rw [if_neg hn, if_neg ho]
      exact iff_of_false hst hn

variable [DecidableEq L]

theorem deliver_snapshot (h : Handling P L) (hs : h.sub.isSnapshot = true) (b r : Bool)
    (ds : RsslDataState) (u : UpdateType) (d : Bool) :
    (d = true → (h.deliver b r ds u d).sub.snapShot = false) ∧
      (d = false → (h.deliver b r ds u d).sub = { h.sub with state := afterData h.sub.state ds }) := by
  have hg := (h.goLive_stateOnly ds).sub_eq
  have hst := (h.goLive_state ds).1
  unfold deliver
  refine ⟨fun hd => ?_, fun hd => ?_⟩
  · subst hd
    dsimp only
    rw [if_pos rfl]
    unfold sendData
    rw [if_pos (by rw [hg]; exact hs)]
    unfold completeSnapshot
    split_ifs with hsn
    · rfl
    · exact Bool.eq_false_iff.mpr hsn
  · subst hd
    dsimp only
    rw [if_neg Bool.false_ne_true, ← hst]
    exact hg

theorem deliver_course (h : Handling P L) (hs : h.sub.isSnapshot = true) (hsnap : h.sub.snapShot = true)
    (b r : Bool) (ds : RsslDataState) (u : UpdateType) (d : Bool) :
    SnapshotCourse.Fits (h.deliver b r ds u d).sub
      (if d then .answered .ok else if h.sub.state = .inactive then .lost else .waiting) := by
  obtain ⟨hyes, hno⟩ := h.deliver_snapshot hs b r ds u d
  cases d with
  | true => exact hyes rfl
  | false =>
    rw [hno rfl, if_neg Bool.false_ne_true]
    split_ifs with hst
    · exact ⟨hsnap, (afterData_inactive_iff _ ds).mpr hst⟩
    · exact ⟨hs, hsnap, fun h => hst ((afterData_inactive_iff _ ds).mp h)⟩

omit [DecidableEq L] in
theorem setRsslState_snapshot (h : Handling P L) (hs : h.sub.isSnapshot = true)
    (hsnap : h.sub.snapShot = true) (hst : h.sub.state ≠ .inactive) (s : RsslState) :
    (h.setRsslState s).2.sub.isSnapshot = true ∧ (h.setRsslState s).2.sub.snapShot = true ∧
      ((h.setRsslState s).2.sub.state = .inactive ↔ s.streamState = .nonStreaming) := by
  have hsub := (h.setRsslState_stateOnly s).sub_eq
  have hnext := (h.setRsslState_next s).2.1
  rw [hsnap] at hnext
  rw [hsub]
  refine ⟨hs, hsnap, ?_⟩
  rw [hnext]
  exact next_inactive_iff s hst

variable [DecidableEq P]

omit [DecidableEq L] in
theorem answerRefresh_sub (this : P) (h : Handling P L) : (h.answerRefresh this).sub = h.sub := by
  unfold answerRefresh
  split_ifs <;> rfl

theorem processMarketPriceMsg_course (this : P) (h : Handling P L) (hs : h.sub.isSnapshot = true)
    (hsnap : h.sub.snapShot = true) (hst : h.sub.state ≠ .inactive) (msg : RsslMsg) :
    (SnapshotCourse.waiting.next .marketPrice msg).Fits (h.processMarketPriceMsg this msg).sub := by
  have hwaiting : SnapshotCourse.waiting.Fits h.sub := ⟨hs, hsnap, hst⟩
  cases msg with
  | refresh s d =>
    have hans := h.answerRefresh_sub this
    have hacc := ((h.answerRefresh this).setRsslState_next s).1
    obtain ⟨hs', hsnap', hst'⟩ := (h.answerRefresh this).setRsslState_snapshot (by rwa [hans])
      (by rwa [hans]) (by rwa [hans]) s
    dsimp only [processMarketPriceMsg, SnapshotCourse.next]
    by_cases ha : s.Accepted
    · rw [if_pos (hacc.trans (decide_eq_true ha)), if_neg (by simp [ha])]
      simp only [← hst']
      exact deliver_course _ hs' hsnap' ..
    · rw [if_neg (by rw [hacc]; simpa [RsslState.Accepted] using ha), if_pos ⟨rfl, ha⟩]
      exact ⟨hs', hsnap', fun hi => ha (.inl (hst'.mp hi))⟩
  | update u ds d =>
    have hd := h.deliver_course hs hsnap false false ds u d
    rw [if_neg hst] at hd
    exact hd
  | status s =>
    cases s with
    | none => exact hwaiting
    | some s =>
      dsimp only [processMarketPriceMsg, SnapshotCourse.next]
      rw [if_pos hs, if_pos rfl]
      unfold completeSnapshot
      rw [if_pos hsnap]
      rfl
  | ack => exact hwaiting
  | other => exact hwaiting

theorem processBookMsg_course (this : P) (h : Handling P L) (hs : h.sub.isSnapshot = true)
    (hsnap : h.sub.snapShot = true) (hst : h.sub.state ≠ .inactive) {domain : Domain}
    (hd : domain ≠ .marketPrice) (msg : RsslMsg) :
    (SnapshotCourse.waiting.next domain msg).Fits (h.processBookMsg this msg).sub := by
  have hwaiting : SnapshotCourse.waiting.Fits h.sub := ⟨hs, hsnap, hst⟩
  have hset (s : RsslState) := h.setRsslState_snapshot hs hsnap hst s
  cases msg with
  | refresh s d =>
    obtain ⟨hs', hsnap', hst'⟩ := hset s
    have hans := (h.setRsslState s).2.answerRefresh_sub this
    dsimp only [processBookMsg, SnapshotCourse.next]
    rw [if_neg (by simp [hd])]
    simp only [← hst', ← hans]
    exact deliver_course _ (by rwa [hans]) (by rwa [hans]) ..
  | update u ds d =>
    have hd := h.deliver_course hs hsnap true false ds u d
    rw [if_neg hst] at hd
    exact hd
  | status s =>
    cases s with
    | none => exact hwaiting
    | some s =>
      obtain ⟨hs', hsnap', hst'⟩ := hset s
      dsimp only [processBookMsg, SnapshotCourse.next]
      rw [if_neg hd]
      split_ifs with hn
      · exact ⟨hsnap', hst'.mpr hn⟩
      · exact ⟨hs', hsnap', fun hi => hn (hst'.mp hi)⟩
  | ack => exact hwaiting
  | other => exact hwaiting

theorem processResponse_course (this : P) (h : Handling P L) {course : SnapshotCourse}
    (hf : course.Fits h.sub) (domain : Domain) (msg : RsslMsg) :
    (course.next domain msg).Fits (UPAConsumer.processResponse this h domain msg).sub := by
  cases course with
  | waiting =>
    obtain ⟨hs, hsnap, hst⟩ := hf
    have hbook (hd : domain ≠ .marketPrice) :
        (SnapshotCourse.waiting.next domain msg).Fits (h.processBookResponse this msg).sub := by
      unfold processBookResponse
      rw [if_neg hst]
      by_cases hsub : h.sub.state = .subscribing
      · rw [if_pos hsub]
        exact processBookMsg_course this (h.gotResponse this) hs hsnap hst hd msg
      · rw [if_neg hsub]
        exact processBookMsg_course this h hs hsnap hst hd msg
    cases domain with
    | marketPrice =>
      change SnapshotCourse.Fits (h.processMarketPriceResponse this msg).sub _
      unfold processMarketPriceResponse
      rw [if_neg hst]
      by_cases hsub : h.sub.state = .subscribing ∨ h.sub.state = .stale
      · rw [if_pos hsub]
        exact processMarketPriceMsg_course this (h.gotResponse this) hs hsnap hst msg
      · rw [if_neg hsub]
        exact processMarketPriceMsg_course this h hs hsnap hst msg
    | marketByOrder => exact hbook (by simp)
    | marketByPrice => exact hbook (by simp)
  | answered status =>
    rcases h.processResponse_keepsStreams this domain msg with hs | hs
    · exact (UPAConsumer.snapShot_of_streams hs).trans hf
    · refine (UPAConsumer.snapShot_of_streams hs).trans ?_
      unfold completeSnapshot
      rw [if_neg (by rw [hf]; exact Bool.false_ne_true)]
      exact hf
  | lost =>
    obtain ⟨hsnap, hst⟩ := hf
    have hi : (h.respondInactive this).sub = h.sub := by
      unfold respondInactive
      split_ifs <;> rfl
    have hsame : (UPAConsumer.processResponse this h domain msg).sub = h.sub := by
      cases domain with
      | marketPrice => exact (congrArg Handling.sub (if_pos hst)).trans hi
      | marketByOrder => exact (congrArg Handling.sub (if_pos hst)).trans hi
      | marketByPrice => exact (congrArg Handling.sub (if_pos hst)).trans hi
    rw [hsame]
    exact ⟨hsnap, hst⟩

end Handling

end RmdsBridge
