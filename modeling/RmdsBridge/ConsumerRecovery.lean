import RmdsBridge.ConsumerReads

namespace RmdsBridge

open Handles ConsumerRun

def ReadCode.Fails (state : ChannelState) : ReadCode → Prop
  | .failure | .otherError => True
  | .congestionDetected | .slowReader | .packetGapDetected => state = .closed
  | .moreData | .success | .readFdChange | .readPing | .readWouldBlock => False

def ReadResult.Fails (g : ReadGate) : ReadResult → Prop
  | .message response _ => g.succeeds response = false
  | .nothing code state => code.Fails state

def ReadResult.Unanswered (g : ReadGate) : ReadResult → Prop
  | .message response _ => g.succeeds response = false
  | .nothing code _ => code = .otherError

namespace LoopPass

def readable (i : LoopPass) : Prop := ∃ writable, i.select = .ready true writable

def Undisturbed (i : LoopPass) (g : ReadGate) : Prop :=
  i.stopped = false ∧ (∀ interrupted, i.select ≠ .failed interrupted) ∧
    g.EachRead (fun g r => ¬ r.Refuses g) i.reads

end LoopPass

namespace ConsumerRun

variable {C : Type}

def FailsIn (s : ConsumerRun C) (chnl : C) (i : LoopPass) : Prop :=
  s.rsslConsumerChannel = some chnl ∧ i.readable ∧
    (i.readState = .closed ∨ i.readState = .active ∧ s.gate.SomeRead (fun g r => r.Fails g) i.reads)

def TornDown (s : ConsumerRun C) (chnl : C) : Prop :=
  s.rsslConsumerChannel = none ∧ s.shouldRecoverConnection = true ∧ Closed chnl s.uses

def Survives (s : ConsumerRun C) : RunEvent C → Prop
  | .iterate i => s.phase = .pumping → s.runThread = true → i.Undisturbed s.gate →
      (s.iterate i).runThread = true ∧ ∀ chnl, s.FailsIn chnl i → (s.iterate i).TornDown chnl
  | .connect _ _ | .initialise _ | .stop | .deleted _ => True

def Answered (s : ConsumerRun C) : RunEvent C → Prop
  | .iterate i => s.phase = .pumping → s.runThread = true → s.rsslConsumerChannel.isSome = true →
      i.readable → i.readState = .active →
      s.gate.EachRead (fun g r => r.Unanswered g → g.recovered = true) i.reads
  | .connect _ _ | .initialise _ | .stop | .deleted _ => True

def Settled (s : ConsumerRun C) : Prop :=
  s.phase = .pumping → s.runThread = true → s.shouldRecoverConnection = true →
    s.rsslConsumerChannel = none

variable {s : ConsumerRun C} {chnl : C}

theorem dispatch_eq (q : QueuedRequest) : ∃ us, s.dispatch q = { s with uses := us ++ s.uses } := by
  have hsend (c : Option C) (w : Bool) : ∃ us, s.sendUPAMessage c w = { s with uses := us ++ s.uses } := by
    cases c with
    | none => exact ⟨[], rfl⟩
    | some c =>
      cases w with
      | true => exact ⟨[.used c], rfl⟩
      | false => exact ⟨[], rfl⟩
  cases q <;> exact hsend _ _

theorem pumpQueueEvents_eq (requests : List QueuedRequest) :
    ∃ us, s.pumpQueueEvents requests = { s with uses := us ++ s.uses } := by
  induction requests generalizing s with
  | nil => exact ⟨[], rfl⟩
  | cons q qs ih =>
    obtain ⟨us, hus⟩ := s.dispatch_eq q
    obtain ⟨vs, hvs⟩ := ih (s := s.dispatch q)
    refine ⟨vs ++ us, ?_⟩
    simp only [pumpQueueEvents, List.foldl_cons] at hvs ⊢
    rw [hvs, hus, List.append_assoc]

theorem take_recovered {g : ReadGate} (r : Response) (h : g.recovered = true) :
    (g.take r).recovered = true := by
  cases r with
  | login m =>
    simp only [ReadGate.take]
    cases g.login.reactionTo m with
    | none => exact h
    | some r => cases r <;> first | exact h | rfl
  | _ => exact h

theorem afterRead_recovered {r : ReadResult} (hs : InRead chnl s) (hr : ¬ r.Refuses s.gate)
    (hu : r.Unanswered s.gate → s.gate.recovered = true)
    (hf : r.Fails s.gate ∨ r.unprocessed s.gate = true) :
    (s.afterRead chnl r).shouldRecoverConnection = true := by
  have h' := hs.afterRead fun h => absurd h hr
  cases r with
  | message response more =>
    have hrec : s.gate.recovered = true := by
      apply hu
      simpa [ReadResult.Fails, ReadResult.unprocessed, ReadResult.Unanswered] using hf
    have hgate : (s.afterRead chnl (.message response more)).gate = s.gate.take response :=
      (s.use chnl).processResponse_gate response
    apply h'.recovered_iff.mp
    rw [hgate]
    exact take_recovered response hrec
  | nothing code state =>
    have hf : code.Fails state := by simpa [ReadResult.Fails, ReadResult.unprocessed] using hf
    cases code with
    | failure => rfl
    | otherError => exact hs.recovered_iff.mp (hu rfl)
    | congestionDetected | slowReader | packetGapDetected =>
      have hclosed : state = .closed := hf
      simp [afterRead, processNothing, hclosed, recoverConnection]
    | moreData | success | readFdChange | readPing | readWouldBlock => exact hf.elim

theorem not_fails_of_next {g g' : ReadGate} {r : ReadResult} (h : g.next r = some g') : ¬ r.Fails g := by
  cases r with
  | message response more =>
    simp only [ReadGate.next, Option.ite_none_right_eq_some] at h
    simp [ReadResult.Fails, h.1.1]
  | nothing code state =>
    simp only [ReadGate.next, Option.ite_none_right_eq_some] at h
    rw [h.1]
    exact id

theorem readLoop_recovered {rs : List ReadResult} (hs : InRead chnl s)
    (hr : s.gate.EachRead (fun g r => ¬ r.Refuses g) rs)
    (hu : s.gate.EachRead (fun g r => r.Unanswered g → g.recovered = true) rs)
    (hf : s.gate.SomeRead (fun g r => r.Fails g) rs ∨ (readLoop chnl rs s).1 = false) :
    (readLoop chnl rs s).2.shouldRecoverConnection = true := by
  induction rs generalizing s with
  | nil => simp [ReadGate.SomeRead, readLoop] at hf
  | cons r rs ih =>
    rw [readLoop_cons] at hf ⊢
    cases hn : s.gate.next r with
    | none =>
      simp only [ReadGate.SomeRead, hn, Option.isSome_none, Bool.false_eq_true, if_false] at hf ⊢
      apply afterRead_recovered hs hr.1 hu.1
      simpa using hf
    | some g =>
      have hg := afterRead_gate chnl hn
      simp only [ReadGate.SomeRead, hn, Option.isSome_some, if_true, Option.mem_def,
        Option.some.injEq, exists_eq_left', not_fails_of_next hn, false_or] at hf ⊢
      subst hg
      exact ih (hs.afterRead fun h => absurd h hr.1) (hr.2 _ hn) (hu.2 _ hn) hf

theorem InRead.tornDown (h : InRead chnl s) (hs : s.shouldRecoverConnection = true) : s.TornDown chnl := by
  rcases h with ⟨-, hf⟩ | h
  · simp [hs] at hf
  · exact h

theorem readIfReady_survives {i : LoopPass} (hc : s.rsslConsumerChannel = some chnl)
    (hs : s.shouldRecoverConnection = false) (hrun : s.runThread = true)
    (hr : s.gate.EachRead (fun g r => ¬ r.Refuses g) i.reads)
    (hu : i.readState = .active →
      s.gate.EachRead (fun g r => r.Unanswered g → g.recovered = true) i.reads) :
    (s.readIfReady i true).runThread = true ∧
      (i.readState = .closed ∨ i.readState = .active ∧ s.gate.SomeRead (fun g r => r.Fails g) i.reads →
        (s.readIfReady i true).TornDown chnl) := by
  have h0 : InRead chnl s := .inl ⟨hc, hs⟩
  simp only [readIfReady, hc, if_true]
  cases hstate : i.readState with
  | active =>
    have hin : InRead chnl (readLoop chnl i.reads s).2 :=
      readLoop_inv (fun s r h hr => h.afterRead fun h' => absurd h' hr) h0 hr
    have hrun' := s.readLoop_runThread chnl i.reads
    have hrec := readLoop_recovered h0 hr (hu hstate)
    simp only [readFromChannel]
    rcases hp : readLoop chnl i.reads s with ⟨ok, s'⟩
    rw [hp] at hin hrun' hrec
    cases ok with
    | true =>
      refine ⟨hrun'.trans hrun, fun hf => hin.tornDown (hrec (.inl ?_))⟩
      simpa using hf
    | false =>
      have hs' : s'.shouldRecoverConnection = true := hrec (.inr rfl)
      simp only [hs', if_true]
      exact ⟨recoverConnection_runThread.trans (hrun'.trans hrun), fun _ => hin.recoverConnection.tornDown rfl⟩
  | closed => exact ⟨by simp [readFromChannel, hrun], fun _ => h0.recoverConnection.tornDown rfl⟩
  | inactive | initializing => exact ⟨hrun, by simp⟩

theorem processPings_runThread (i : LoopPass) : (s.processPings i).runThread = s.runThread := by
  have hcheck (t : ConsumerRun C) : (t.checkReceived i).runThread = t.runThread := by
    simp only [checkReceived]
    split_ifs <;> simp
  cases hc : s.rsslConsumerChannel with
  | none => simp [processPings, hc]
  | some c =>
    cases hp : i.sendPing with
    | none => simp [processPings, hc, hp, hcheck]
    | some sent => cases sent <;> simp [processPings, hc, hp, hcheck]

theorem endIteration_of_recovering (i : LoopPass) (h : s.shouldRecoverConnection = true) :
    s.endIteration i =
      if s.runThread then { s with phase := .reconnecting } else { s with phase := .reconnecting }.exit := by
  simp only [endIteration, if_pos h]

theorem endIteration_of_pinging (i : LoopPass) (h : s.shouldRecoverConnection = false) :
    s.endIteration i = if s.runThread then s.processPings i else (s.processPings i).exit := by
  have hn : ¬ s.shouldRecoverConnection = true := by simp [h]
  simp only [endIteration, if_neg hn, processPings_runThread]

theorem endIteration_runThread (i : LoopPass) (hrun : s.runThread = true) :
    (s.endIteration i).runThread = true := by
  cases hs : s.shouldRecoverConnection with
  | true =>
    rw [endIteration_of_recovering i hs, if_pos hrun]
    exact hrun
  | false =>
    rw [endIteration_of_pinging i hs, if_pos hrun]
    exact (s.processPings_runThread i).trans hrun

theorem TornDown.endIteration (h : s.TornDown chnl) (i : LoopPass) (hrun : s.runThread = true) :
    (s.endIteration i).TornDown chnl := by
  rw [endIteration_of_recovering i h.2.1, if_pos hrun]
  exact h

theorem flushIfReady_of_none (i : LoopPass) (writable : Bool) (h : s.rsslConsumerChannel = none) :
    s.flushIfReady i writable = s := by
  simp only [flushIfReady, h]

theorem flushIfReady_runThread (i : LoopPass) (writable : Bool) :
    (s.flushIfReady i writable).runThread = s.runThread := by
  cases h : s.rsslConsumerChannel with
  | none => rw [flushIfReady_of_none i writable h]
  | some c =>
    simp only [flushIfReady, h]
    split_ifs <;> rfl

theorem afterSelect_survives {i : LoopPass} (hrun : s.runThread = true)
    (hrec : s.shouldRecoverConnection = true → s.rsslConsumerChannel = none)
    (hsel : ∀ interrupted, i.select ≠ .failed interrupted)
    (hr : s.gate.EachRead (fun g r => ¬ r.Refuses g) i.reads)
    (hu : s.rsslConsumerChannel.isSome = true → i.readable → i.readState = .active →
      s.gate.EachRead (fun g r => r.Unanswered g → g.recovered = true) i.reads) :
    (s.afterSelect i).runThread = true ∧
      ∀ chnl, s.FailsIn chnl i → (s.afterSelect i).TornDown chnl := by
  cases hs : i.select with
  | failed interrupted => exact absurd hs (hsel interrupted)
  | timedOut =>
    simp only [afterSelect, hs]
    refine ⟨endIteration_runThread i hrun, fun chnl hf => ?_⟩
    obtain ⟨-, ⟨w, hw⟩, -⟩ := hf
    rw [hs] at hw
    cases hw
  | ready readable writable =>
    simp only [afterSelect, hs]
    have hread : (s.readIfReady i readable).runThread = true ∧
        ∀ chnl, s.FailsIn chnl i → (s.readIfReady i readable).TornDown chnl := by
      cases hc : s.rsslConsumerChannel with
      | none =>
        refine ⟨by simpa only [readIfReady, hc] using hrun, fun chnl hf => ?_⟩
        simp [FailsIn, hc] at hf
      | some c =>
        cases readable with
        | false =>
          refine ⟨by simpa [readIfReady, hc] using hrun, fun chnl hf => ?_⟩
          obtain ⟨-, ⟨w, hw⟩, -⟩ := hf
          rw [hs] at hw
          cases hw
        | true =>
          have hno : s.shouldRecoverConnection = false := by
            by_contra hn
            simp [hrec (by simpa using hn)] at hc
          have hread := readIfReady_survives hc hno hrun hr (hu (by simp [hc]) ⟨writable, hs⟩)
          refine ⟨hread.1, fun chnl hf => ?_⟩
          obtain ⟨hchnl, -, hf⟩ := hf
          rw [hc, Option.some.injEq] at hchnl
          exact hchnl ▸ hread.2 hf
    have hflush := (flushIfReady_runThread i writable).trans hread.1
    refine ⟨endIteration_runThread i hflush, fun chnl hf => TornDown.endIteration ?_ i hflush⟩
    rw [flushIfReady_of_none i writable (hread.2 chnl hf).1]
    exact hread.2 chnl hf

theorem iterate_survives {i : LoopPass} (h : s.Settled) (ha : s.Answered (.iterate i)) :
    s.Survives (.iterate i) := by
  rintro hphase hrun ⟨hstop, hsel, hr⟩
  obtain ⟨us, hpump⟩ := s.pumpQueueEvents_eq i.requests
  have hselect := afterSelect_survives (s := { s with uses := us ++ s.uses }) hrun (h hphase hrun) hsel hr
    (ha hphase hrun)
  simp only [iterate, hrun, hpump, hstop, not_true_eq_false, if_false, Bool.false_eq_true]
  by_cases hidle : s.rsslConsumerChannel.isNone = true ∧ ¬ s.shouldRecoverConnection = true
  · rw [if_pos hidle]
    refine ⟨rfl, fun chnl hf => ?_⟩
    simp [hf.1] at hidle
  · rw [if_neg hidle]
    simp only [hrun] at hselect
    exact hselect

theorem processPings_recovering (i : LoopPass) (h : s.shouldRecoverConnection = false)
    (hs : (s.processPings i).shouldRecoverConnection = true) :
    (s.processPings i).rsslConsumerChannel = none := by
  have hcheck (t : ConsumerRun C) (ht : t.shouldRecoverConnection = false)
      (hs : (t.checkReceived i).shouldRecoverConnection = true) :
      (t.checkReceived i).rsslConsumerChannel = none := by
    by_cases hn : i.checkReceived = true
    · cases hm : t.receivedServerMsg with
      | true => simp [checkReceived, hn, hm, ht] at hs
      | false => simp [checkReceived, hn, hm, recoverConnection]
    · simp [checkReceived, hn, ht] at hs
  cases hc : s.rsslConsumerChannel with
  | none => simp [processPings, hc, h] at hs
  | some c =>
    cases hp : i.sendPing with
    | none =>
      simp only [processPings, hc, hp] at hs ⊢
      exact hcheck s h hs
    | some sent =>
      simp only [processPings, hc, hp] at hs ⊢
      cases sent with
      | true => exact hcheck (s.use c) h hs
      | false => rfl

theorem endIteration_settled (i : LoopPass) : (s.endIteration i).Settled := by
  cases hs : s.shouldRecoverConnection with
  | true =>
    rw [endIteration_of_recovering i hs]
    split_ifs <;> simp [Settled, exit]
  | false =>
    rw [endIteration_of_pinging i hs]
    split_ifs
    · exact fun _ _ => processPings_recovering i hs
    · simp [Settled, exit]

theorem iterate_settled (h : s.Settled) (i : LoopPass) : (s.iterate i).Settled := by
  obtain ⟨us, hpump⟩ := s.pumpQueueEvents_eq i.requests
  have hselect : (({ s with uses := us ++ s.uses } : ConsumerRun C).afterSelect i).Settled := by
    cases hs : i.select with
    | timedOut => simpa only [afterSelect, hs] using endIteration_settled i
    | ready r w => simpa only [afterSelect, hs] using endIteration_settled i
    | failed interrupted =>
      cases interrupted with
      | true =>
        simp only [afterSelect, hs]
        exact h
      | false => simpa only [afterSelect, hs] using endIteration_settled i
  simp only [iterate, hpump]
  split_ifs with hrun hidle hstop
  · intro _ _ hs
    exact absurd hs hidle.2
  · simp [Settled, exit]
  · exact hselect
  · simp [Settled, exit]

theorem step_settled (h : s.Settled) (e : RunEvent C) : (s.step e).Settled := by
  cases e with
  | connect c active =>
    by_cases hp : s.phase = .reconnecting
    · by_cases hrun : s.runThread = true
      · cases c <;> cases active <;> simp [step, connect, Settled, hp, hrun]
      · simp [step, connect, Settled, exit, hp, hrun]
    · simpa only [step, hp, if_false] using h
  | initialise r =>
    by_cases hp : s.phase = .waiting
    · by_cases hrun : s.runThread = true
      · cases r <;> simp [step, initialise, Settled, exit, hp, hrun]
      · simp [step, initialise, Settled, exit, hp, hrun]
    · simpa only [step, hp, if_false] using h
  | iterate i =>
    simp only [step]
    split_ifs
    · exact iterate_settled h i
    · exact h
  | stop => simp [step, Settled]
  | deleted written =>
    simp only [step]
    split_ifs with hp
    · cases hu : s.upaChannel <;> cases written <;> simp [Settled, sendUPAMessage, use, hp]
    · exact h

theorem start_settled (hosts : Bool) : (start hosts : ConsumerRun C).Settled := by
  cases hosts <;> simp [Settled, start]

theorem survives_of_answered (h : s.Settled) {e : RunEvent C} (ha : s.Answered e) : s.Survives e := by
  cases e with
  | iterate i => exact iterate_survives h ha
  | _ => trivial

theorem bad_response_ends_thread :
    ¬ Runs.Guarded step Survives (start true : ConsumerRun ℕ)
      [.connect (some 0) false, .initialise .success,
        .iterate { select := .ready true false, reads := [.message .undecodable false] }] := by
  rintro ⟨-, -, h, -⟩
  have h := (h rfl rfl ⟨rfl, by simp, by simp [ReadGate.EachRead, ReadResult.Refuses, ReadGate.next,
    ReadGate.succeeds]⟩).1
  exact absurd h (by decide)

theorem runs_survive (hosts : Bool) (es : List (RunEvent C))
    (h : Runs.Guarded step Answered (start hosts) es) :
    Runs.Guarded step Survives (start hosts) es :=
  h.imp (fun _ e hs _ => step_settled hs e) (fun _ _ hs ha => survives_of_answered hs ha)
    (start_settled hosts)

theorem recovering_run_survives :
    Runs.Guarded step Survives (start true : ConsumerRun ℕ)
      [.connect (some 0) false, .initialise .success,
        .iterate { select := .ready true false, reads := [.nothing .failure .closed] }] :=
  runs_survive true _ ⟨trivial, trivial, fun _ _ _ _ _ => ⟨by simp [ReadResult.Unanswered],
    by simp [ReadGate.next]⟩, trivial⟩

end ConsumerRun

end RmdsBridge
