import RmdsBridge.ConsumerRecovery

namespace RmdsBridge.ConsumerRun

open Handles

variable {C : Type}

def Admissible (s : ConsumerRun C) : RunEvent C → Prop
  | .iterate i => s.phase = .pumping → s.runThread = true →
      (s.shouldRecoverConnection = true → s.upaChannel.isSome = true →
        .onUPAChannel true ∉ i.requests) ∧
      (s.rsslConsumerChannel.isSome = true → i.readable → i.stopped = false → i.readState = .active →
        s.gate.EachRead (fun g _ => g.recovered = false) i.reads)
  | .deleted written => s.phase = .exited → s.upaChannel.isSome = true → written = false
  | .connect _ _ | .initialise _ | .stop => True

structure Passing (s : ConsumerRun C) : Prop where
  sound : Sound s.uses
  isOpen : ∀ c ∈ s.rsslConsumerChannel, ¬ Closed c s.uses
  recovering : s.shouldRecoverConnection = true → s.rsslConsumerChannel = none
  owned : s.runThread = true → s.shouldRecoverConnection = false →
    ∀ c ∈ s.upaChannel, s.rsslConsumerChannel = some c

structure Kept (s : ConsumerRun C) : Prop where
  sound : Sound s.uses
  isOpen : s.phase ≠ .exited → ∀ c ∈ s.rsslConsumerChannel, ¬ Closed c s.uses
  settled : s.Settled
  owned : s.phase = .pumping → s.runThread = true → s.shouldRecoverConnection = false →
    ∀ c ∈ s.upaChannel, s.rsslConsumerChannel = some c

variable {s : ConsumerRun C} {chnl : C}

theorem removeChannel_sound (h : Sound s.uses) (ho : ∀ c ∈ s.rsslConsumerChannel, ¬ Closed c s.uses) :
    Sound s.removeChannel.uses := by
  cases hc : s.rsslConsumerChannel with
  | none => simpa [removeChannel, hc] using h
  | some c => simpa [removeChannel, hc] using ⟨ho c hc, h⟩

theorem exit_kept (h : Sound s.uses) (ho : ∀ c ∈ s.rsslConsumerChannel, ¬ Closed c s.uses) :
    s.exit.Kept where
  sound := removeChannel_sound h ho
  isOpen hp := absurd rfl hp
  settled hp := by simp [exit] at hp
  owned hp := by simp [exit] at hp

namespace Passing

theorem use (h : s.Passing) (hc : ¬ Closed chnl s.uses) : (s.use chnl).Passing where
  sound := ⟨hc, h.sound⟩
  isOpen := h.isOpen
  recovering := h.recovering
  owned := h.owned

theorem recoverConnection (h : s.Passing) : s.recoverConnection.Passing where
  sound := removeChannel_sound h.sound h.isOpen
  isOpen c hc := by simp [ConsumerRun.recoverConnection] at hc
  recovering _ := rfl
  owned _ hs := by simp [ConsumerRun.recoverConnection] at hs

theorem kept (h : s.Passing) : s.Kept where
  sound := h.sound
  isOpen _ := h.isOpen
  settled _ _ := h.recovering
  owned _ := h.owned

theorem exit (h : s.Passing) : s.exit.Kept := exit_kept h.sound h.isOpen

theorem flushIfReady (h : s.Passing) (i : LoopPass) (writable : Bool) :
    (s.flushIfReady i writable).Passing := by
  cases hc : s.rsslConsumerChannel with
  | none => rwa [flushIfReady_of_none i writable hc]
  | some c =>
    simp only [ConsumerRun.flushIfReady, hc]
    split_ifs
    · exact h.use (h.isOpen c hc)
    · exact h

theorem checkReceived (h : s.Passing) (i : LoopPass) : (s.checkReceived i).Passing := by
  by_cases hn : i.checkReceived = true
  · cases hm : s.receivedServerMsg with
    | true =>
      simp only [ConsumerRun.checkReceived, hn, hm, not_true_eq_false, if_false, if_true]
      exact ⟨h.sound, h.isOpen, h.recovering, h.owned⟩
    | false =>
      simp only [ConsumerRun.checkReceived, hn, hm, not_true_eq_false, if_false, Bool.false_eq_true]
      exact h.recoverConnection
  · simpa only [ConsumerRun.checkReceived, hn, not_false_eq_true, if_true, Bool.not_eq_true] using h

theorem processPings (h : s.Passing) (i : LoopPass) : (s.processPings i).Passing := by
  cases hc : s.rsslConsumerChannel with
  | none => simpa only [ConsumerRun.processPings, hc] using h
  | some c =>
    have hu := h.use (h.isOpen c hc)
    cases hp : i.sendPing with
    | none => simpa only [ConsumerRun.processPings, hc, hp] using h.checkReceived i
    | some sent =>
      cases sent with
      | true => simpa only [ConsumerRun.processPings, hc, hp] using hu.checkReceived i
      | false => simpa only [ConsumerRun.processPings, hc, hp] using hu.recoverConnection

theorem endIteration (h : s.Passing) (i : LoopPass) : (s.endIteration i).Kept := by
  cases hs : s.shouldRecoverConnection with
  | true =>
    rw [endIteration_of_recovering i hs]
    split_ifs
    · exact ⟨h.sound, fun _ => h.isOpen, by simp [Settled], by simp⟩
    · exact exit_kept h.sound h.isOpen
  | false =>
    rw [endIteration_of_pinging i hs]
    split_ifs
    · exact (h.processPings i).kept
    · exact (h.processPings i).exit

theorem dispatch (h : s.Passing) (q : QueuedRequest)
    (hq : q = .onUPAChannel true → ∀ c ∈ s.upaChannel, ¬ Closed c s.uses) : (s.dispatch q).Passing := by
  have hsend (c : Option C) (w : Bool) (hc : w = true → ∀ c' ∈ c, ¬ Closed c' s.uses) :
      (s.sendUPAMessage c w).Passing := by
    cases c with
    | none => exact h
    | some c =>
      cases w with
      | true => exact h.use (hc rfl c rfl)
      | false => exact h
  cases q with
  | onUPAChannel w => exact hsend s.upaChannel w fun hw => hq (by rw [hw])
  | onConsumerChannel w => exact hsend s.rsslConsumerChannel w fun _ => h.isOpen

theorem dispatch_closed (q : QueuedRequest) (c : C) :
    Closed c (s.dispatch q).uses ↔ Closed c s.uses := by
  have hsend (c' : Option C) (w : Bool) : Closed c (s.sendUPAMessage c' w).uses ↔ Closed c s.uses := by
    cases c' <;> cases w <;> rfl
  cases q <;> exact hsend _ _

theorem pumpQueueEvents {qs : List QueuedRequest} (h : s.Passing)
    (hq : .onUPAChannel true ∈ qs → ∀ c ∈ s.upaChannel, ¬ Closed c s.uses) :
    (s.pumpQueueEvents qs).Passing := by
  induction qs generalizing s with
  | nil => exact h
  | cons q qs ih =>
    have hupa : (s.dispatch q).upaChannel = s.upaChannel := by
      obtain ⟨us, hus⟩ := s.dispatch_eq q
      rw [hus]
    apply ih (h.dispatch q fun he => hq (by simp [he]))
    intro hm c hc
    rw [dispatch_closed]
    rw [hupa] at hc
    exact hq (List.mem_cons_of_mem _ hm) c hc

theorem afterRead (h : s.Passing) (hin : InRead chnl s) {r : ReadResult}
    (hr : s.gate.recovered = false) : (s.afterRead chnl r).Passing := by
  obtain ⟨hc, hs⟩ : s.rsslConsumerChannel = some chnl ∧ s.shouldRecoverConnection = false := by
    rcases hin with hin | ⟨hc, -⟩
    · exact hin
    · simp [gate, hc] at hr
  have hu := h.use (h.isOpen chnl hc)
  cases r with
  | message response more =>
    cases response with
    | login m =>
      simp only [ConsumerRun.afterRead, processResponse_login]
      cases (s.use chnl).login.reactionTo m with
      | none => exact ⟨hu.sound, hu.isOpen, hu.recovering, hu.owned⟩
      | some r =>
        cases r with
        | notEntitled => exact ⟨hu.sound, hu.isOpen, by simp, fun hrun _ => hu.owned hrun hs⟩
        | recover =>
          have hrec := recoverConnection (s := { s.use chnl with login := (s.use chnl).login.take m.kind })
            ⟨hu.sound, hu.isOpen, hu.recovering, hu.owned⟩
          exact ⟨hrec.sound, hrec.isOpen, hrec.recovering, hrec.owned⟩
        | _ => exact ⟨hu.sound, hu.isOpen, hu.recovering, hu.owned⟩
    | _ => exact ⟨hu.sound, hu.isOpen, hu.recovering, hu.owned⟩
  | nothing code state =>
    cases code with
    | failure => exact hu.recoverConnection
    | congestionDetected | slowReader | packetGapDetected =>
      simp only [ConsumerRun.afterRead, processNothing]
      split_ifs
      · exact hu.recoverConnection
      · exact hu
    | _ => exact ⟨hu.sound, hu.isOpen, hu.recovering, hu.owned⟩

theorem readIfReady {i : LoopPass} {readable : Bool} (h : s.Passing)
    (hs : s.rsslConsumerChannel.isSome = true → s.shouldRecoverConnection = false)
    (hr : readable = true → s.rsslConsumerChannel.isSome = true → i.readState = .active →
      s.gate.EachRead (fun g _ => g.recovered = false) i.reads) :
    (s.readIfReady i readable).Passing := by
  cases hc : s.rsslConsumerChannel with
  | none => simpa only [ConsumerRun.readIfReady, hc] using h
  | some chnl =>
    cases readable with
    | false => simpa only [ConsumerRun.readIfReady, hc, Bool.false_eq_true, if_false] using h
    | true =>
      simp only [ConsumerRun.readIfReady, hc, if_true]
      cases hstate : i.readState with
      | active =>
        have hloop : (readLoop chnl i.reads s).2.Passing ∧ InRead chnl (readLoop chnl i.reads s).2 := by
          refine readLoop_inv (I := fun t => t.Passing ∧ InRead chnl t) ?_ ⟨h, .inl ⟨hc, hs (by simp [hc])⟩⟩
            (hr rfl (by simp [hc]) hstate)
          rintro t r ⟨ht, hin⟩ hrec
          exact ⟨ht.afterRead hin hrec, hin.afterRead fun _ => hrec⟩
        simp only [readFromChannel]
        rcases hp : readLoop chnl i.reads s with ⟨ok, t⟩
        rw [hp] at hloop
        cases ok with
        | true => exact hloop.1
        | false =>
          simp only
          split_ifs
          · exact hloop.1.recoverConnection
          · exact ⟨hloop.1.sound, hloop.1.isOpen, hloop.1.recovering, by simp⟩
      | closed => exact h.recoverConnection
      | inactive | initializing => exact h

theorem afterSelect {i : LoopPass} (h : s.Passing)
    (hs : s.rsslConsumerChannel.isSome = true → s.shouldRecoverConnection = false)
    (hr : i.readable → s.rsslConsumerChannel.isSome = true → i.readState = .active →
      s.gate.EachRead (fun g _ => g.recovered = false) i.reads) : (s.afterSelect i).Kept := by
  cases hsel : i.select with
  | timedOut => simpa only [ConsumerRun.afterSelect, hsel] using h.endIteration i
  | failed interrupted =>
    cases interrupted with
    | true => simpa only [ConsumerRun.afterSelect, hsel] using h.kept
    | false => simpa only [ConsumerRun.afterSelect, hsel] using h.endIteration i
  | ready readable writable =>
    have hread : (s.readIfReady i readable).Passing :=
      h.readIfReady hs fun hb => hr ⟨writable, by rw [hsel, hb]⟩
    simpa only [ConsumerRun.afterSelect, hsel] using (hread.flushIfReady i writable).endIteration i

theorem iterate {i : LoopPass} (h : s.Passing) (hp : s.phase = .pumping)
    (ha : s.Admissible (.iterate i)) : (s.iterate i).Kept := by
  by_cases hrun : s.runThread = true
  · obtain ⟨hreq, hread⟩ := ha hp hrun
    have hpumped : (s.pumpQueueEvents i.requests).Passing := by
      apply h.pumpQueueEvents
      intro hm c hc
      cases hs : s.shouldRecoverConnection with
      | true => exact absurd hm (hreq hs (by rw [hc]; rfl))
      | false => exact h.isOpen c (h.owned hrun hs c hc)
    obtain ⟨us, hpump⟩ := s.pumpQueueEvents_eq i.requests
    have hsome : s.rsslConsumerChannel.isSome = true → s.shouldRecoverConnection = false := by
      intro hc
      by_contra hn
      simp [h.recovering (by simpa using hn)] at hc
    rw [ConsumerRun.iterate, if_neg (by simpa using hrun)]
    rw [hpump] at hpumped ⊢
    simp only
    split_ifs with hidle hstop
    · exact ⟨hpumped.sound, fun _ => hpumped.isOpen, fun _ _ => hpumped.recovering,
        fun _ _ hs => hpumped.owned hrun hs⟩
    · exact exit_kept hpumped.sound hpumped.isOpen
    · have hstop : i.stopped = false := by simpa using hstop
      exact hpumped.afterSelect hsome fun hb hc => hread hc hb hstop
  · rw [ConsumerRun.iterate, if_pos hrun]
    exact h.exit

end Passing

theorem Kept.passing (h : s.Kept) (hp : s.phase = .pumping) (hrun : s.runThread = true) : s.Passing where
  sound := h.sound
  isOpen := h.isOpen (by simp [hp])
  recovering := h.settled hp hrun
  owned := h.owned hp

theorem start_kept (hosts : Bool) : (start hosts : ConsumerRun C).Kept :=
  ⟨by simp [start], by simp [start], start_settled hosts, by simp [start]⟩

theorem Kept.step (h : s.Kept) {e : RunEvent C} (ha : s.Admissible e) : (s.step e).Kept := by
  cases e with
  | connect c active =>
    simp only [ConsumerRun.step]
    split_ifs with hp
    · by_cases hrun : s.runThread = true
      · cases c with
        | none =>
          simp only [connect, hrun]
          exact ⟨h.sound, by simp, by simp [Settled], by simp⟩
        | some c => cases active <;> simp only [connect, hrun] <;> constructor <;> simp [h.sound, Settled]
      · rw [connect, if_pos hrun]
        exact exit_kept h.sound (h.isOpen (by simp [hp]))
    · exact h
  | initialise r =>
    simp only [ConsumerRun.step]
    split_ifs with hp
    · have ho := h.isOpen (by simp [hp])
      by_cases hrun : s.runThread = true
      · simp only [initialise]
        rw [if_neg (by simpa using hrun)]
        cases r with
        | timedOut | failed =>
          exact ⟨removeChannel_sound h.sound ho, by simp [recoverConnection], by simp [Settled], by simp⟩
        | selectFailed | bad => exact exit_kept h.sound ho
        | notReady | inProgress => exact h
        | success => exact ⟨h.sound, fun _ => ho, by simp [Settled], by simp⟩
      · simp only [initialise]
        rw [if_pos hrun]
        exact exit_kept h.sound ho
    · exact h
  | iterate i =>
    simp only [ConsumerRun.step]
    split_ifs with hp
    · by_cases hrun : s.runThread = true
      · exact (h.passing hp hrun).iterate hp ha
      · rw [iterate, if_pos hrun]
        exact exit_kept h.sound (h.isOpen (by simp [hp]))
    · exact h
  | stop => exact ⟨h.sound, h.isOpen, by simp [ConsumerRun.step, Settled], by simp [ConsumerRun.step]⟩
  | deleted written =>
    simp only [ConsumerRun.step]
    split_ifs with hp
    · cases hu : s.upaChannel with
      | none => exact h
      | some c =>
        have hw : written = false := ha hp (by simp [hu])
        simpa only [sendUPAMessage, hw, Bool.false_eq_true, if_false] using h
    · exact h

theorem channels_sound {hosts : Bool} {es : List (RunEvent C)}
    (h : Runs.Guarded ConsumerRun.step Admissible (start hosts) es) :
    Runs.Always ConsumerRun.step (fun s => Sound s.uses) (start hosts) es :=
  (h.always (fun _ _ hk ha => hk.step ha) (start_kept hosts)).mono fun _ hk => hk.sound

end RmdsBridge.ConsumerRun
