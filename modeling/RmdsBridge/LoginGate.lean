import RmdsBridge.Login

namespace RmdsBridge

/-- The thread with the last login state received on the current connection, and the last failing login
message with the reaction to it. -/
structure WatchedThread (P L : Type) where
  thread : ConsumerThread P L := {}
  lastState : Option LoginState := none
  lastReaction : Option (LoginMsg × LoginReaction) := none

def UPALogin.clear : UPALogin := ⟨false, false, false, false⟩

def UPALogin.reactionTo (l : UPALogin) (m : LoginMsg) : Option LoginReaction :=
  let o := l.processLoginResponse m
  if o.succeeded then none else some o.login.reaction

def LoginMsg.ownReaction (m : LoginMsg) : Option LoginReaction := UPALogin.clear.reactionTo m

namespace WatchedThread

variable {P L : Type} [DecidableEq P] [DecidableEq L]

def step (s : WatchedThread P L) (e : ThreadEvent) : WatchedThread P L where
  thread := s.thread.step e
  lastState :=
    match e with
    | .login m => if s.thread.Reading then m.state.or s.lastState else s.lastState
    | .item _ _ _ _ | .recover => s.lastState
    | .connected => if s.thread.channelActive then s.lastState else none
  lastReaction :=
    match e with
    | .login m =>
      if s.thread.Reading then (s.thread.login.reactionTo m).map fun r => (m, r) else s.lastReaction
    | .item _ _ _ _ | .recover | .connected => s.lastReaction

def LastSuspect (s : WatchedThread P L) : Prop := ∃ st ∈ s.lastState, st.OpenSuspect

def Gated (s : WatchedThread P L) : Prop :=
  (s.thread.Reading → ∀ domain streamId msg,
    s.thread.deliver domain streamId msg = none ↔ s.LastSuspect) ∧
  ∀ x ∈ s.lastReaction, x.1.ownReaction = some x.2

def SuspectAfter (s : WatchedThread P L) (m : LoginMsg) : Prop :=
  ∃ st ∈ m.state.or s.lastState, st.OpenSuspect

def Admissible (s : WatchedThread P L) : ThreadEvent → Prop
  | .item _ _ _ _ | .recover => True
  | .connected => s.thread.runThread = true → s.thread.channelActive = false →
      s.thread.isInLoginSuspectState = false
  | .login m => s.thread.Reading →
    match m.kind with
    | .accepted | .closedRecover | .closed _ => True
    | .suspect => s.thread.login.isClosedRecoverable = false
    | .ignored => ¬ s.SuspectAfter m
    | .unreadable => s.thread.login.isClosedRecoverable = false ∧ s.thread.login.isSuspect = false ∧
        ¬ s.SuspectAfter m

structure Watched (s : WatchedThread P L) : Prop where
  active_iff : s.thread.runThread = true →
    (s.thread.channelActive = true ↔ s.thread.shouldRecoverConnection = false)
  not_refused : s.thread.runThread = true →
    s.thread.login.isNotEntitled = false ∧ s.thread.login.isClosed = false
  suspect_flag : s.thread.isInLoginSuspectState = true → s.thread.login.isSuspect = true
  gate_iff : s.thread.Reading → (s.thread.isInLoginSuspectState = true ↔ s.LastSuspect)
  own : ∀ x ∈ s.lastReaction, x.1.ownReaction = some x.2

end WatchedThread

section

variable {P L : Type} [DecidableEq P] [DecidableEq L]

def UPALogin.reactionToKind (l : UPALogin) : LoginKind → Option LoginReaction
  | .accepted | .ignored => none
  | .closed true => some .notEntitled
  | .closed false => some .closed
  | .closedRecover => some .recover
  | .suspect => some (if l.isClosedRecoverable then .recover else .suspect)
  | .unreadable =>
    some (if l.isClosedRecoverable then .recover else if l.isSuspect then .suspect else .nothing)

theorem UPALogin.reactionTo_eq {l : UPALogin} (hn : l.isNotEntitled = false) (hc : l.isClosed = false)
    (m : LoginMsg) : l.reactionTo m = l.reactionToKind m.kind := by
  obtain ⟨hl, hs, -⟩ := l.processLoginResponse_spec m
  simp only [reactionTo, hl, hs]
  cases m.kind with
  | closed n => cases n <;> simp [LoginKind.succeeds, reactionToKind, reaction, take, hn]
  | unreadable =>
    cases hr : l.isClosedRecoverable <;> cases hq : l.isSuspect <;>
      simp [LoginKind.succeeds, reactionToKind, reaction, take, hn, hc, hr, hq]
  | _ => simp [LoginKind.succeeds, reactionToKind, reaction, take, hn, hc]

theorem LoginMsg.ownReaction_eq (m : LoginMsg) : m.ownReaction = UPALogin.clear.reactionToKind m.kind :=
  UPALogin.reactionTo_eq rfl rfl m

def ConsumerThread.react (t : ConsumerThread P L) : Option LoginReaction → ConsumerThread P L
  | none => { t with isInLoginSuspectState := false }
  | some .notEntitled | some .closed => { t with runThread := false }
  | some .recover => t.recoverConnection
  | some .suspect => { t with isInLoginSuspectState := true }
  | some .nothing => t

theorem ConsumerThread.step_login {t : ConsumerThread P L} (h : t.Reading)
    (hs : t.shouldRecoverConnection = false) (m : LoginMsg) :
    t.step (.login m) =
      { t with login := t.login.take m.kind }.react (t.login.reactionTo m) := by
  obtain ⟨hl, hk, -⟩ := t.login.processLoginResponse_spec m
  simp only [step, h, if_true, processLogin, LoginCase.processLogin, loginCase, UPALogin.reactionTo, hl, hk]
  cases m.kind.succeeds with
  | true => simp [afterRead, react]
  | false =>
    simp only [Bool.false_eq_true, if_false]
    cases hr : (t.login.take m.kind).reaction with
    | notEntitled => simp [afterRead, react, hs]
    | closed => simp [afterRead, react, hs]
    | recover => simp [afterRead, react]
    | suspect => simp [afterRead, react]
    | nothing => simp [afterRead, react]

end

namespace WatchedThread

theorem kind_suspect {m : LoginMsg} (h : m.kind = .suspect) : ∃ st, m.state = some st ∧ st.OpenSuspect := by
  cases m with
  | refresh solicited st decodes =>
    simp only [LoginMsg.kind, LoginState.kind] at h
    split_ifs at h with h1 h2 h3 h4 h5
    exact ⟨st, rfl, h5⟩
  | status st =>
    cases st with
    | none => simp [LoginMsg.kind] at h
    | some st =>
      simp only [LoginMsg.kind, LoginState.kind] at h
      split_ifs at h with h1 h2 h3
      exact ⟨st, rfl, h3⟩
  | _ => simp [LoginMsg.kind] at h

theorem kind_accepted {m : LoginMsg} (h : m.kind = .accepted) : ∃ st, m.state = some st ∧ st.OpenOk := by
  cases m with
  | refresh solicited st decodes =>
    simp only [LoginMsg.kind, LoginState.kind] at h
    split_ifs at h with h1 h2
    exact ⟨st, rfl, h2.2⟩
  | status st =>
    cases st with
    | none => simp [LoginMsg.kind] at h
    | some st =>
      simp only [LoginMsg.kind, LoginState.kind] at h
      split_ifs at h
  | _ => simp [LoginMsg.kind] at h

theorem reactionToKind_clear_iff (l : UPALogin) (k : LoginKind) :
    l.reactionToKind k = UPALogin.clear.reactionToKind k ↔
      (k = .suspect → l.isClosedRecoverable = false) ∧
        (k = .unreadable → l.isClosedRecoverable = false ∧ l.isSuspect = false) := by
  cases k with
  | closed n => cases n <;> simp [UPALogin.reactionToKind]
  | suspect => cases h : l.isClosedRecoverable <;> simp [UPALogin.reactionToKind, UPALogin.clear, h]
  | unreadable =>
    cases h : l.isClosedRecoverable <;> cases h' : l.isSuspect <;>
      simp [UPALogin.reactionToKind, UPALogin.clear, h, h']
  | _ => simp [UPALogin.reactionToKind]

section

variable {P L : Type} {s : WatchedThread P L}

theorem suspectAfter_of_state {m : LoginMsg} {st : LoginState} (h : m.state = some st) :
    s.SuspectAfter m ↔ st.OpenSuspect := by
  simp [SuspectAfter, h]

theorem not_openSuspect_of_openOk {st : LoginState} (h : st.OpenOk) : ¬ st.OpenSuspect := by
  rintro ⟨-, h'⟩
  rw [h.2] at h'
  cases h'

variable {l : UPALogin} {st : Option LoginState} {x : Option (LoginMsg × LoginReaction)}

theorem Watched.reading (h : s.Watched) {gate : Bool}
    (hl : l.isNotEntitled = false ∧ l.isClosed = false) (hg : gate = true → l.isSuspect = true)
    (hgate : gate = true ↔ ∃ st' ∈ st, st'.OpenSuspect)
    (hx : ∀ y ∈ x, y.1.ownReaction = some y.2) :
    Watched ⟨{ s.thread with login := l, isInLoginSuspectState := gate }, st, x⟩ where
  active_iff := h.active_iff
  not_refused _ := hl
  suspect_flag := hg
  gate_iff _ := hgate
  own := hx

theorem Watched.recovered {t : ConsumerThread P L}
    (hl : t.runThread = true → t.login.isNotEntitled = false ∧ t.login.isClosed = false)
    (hg : t.isInLoginSuspectState = true → t.login.isSuspect = true)
    (hx : ∀ y ∈ x, y.1.ownReaction = some y.2) : Watched ⟨t.recoverConnection, st, x⟩ where
  active_iff _ := by simp [ConsumerThread.recoverConnection]
  not_refused := hl
  suspect_flag := hg
  gate_iff h := by simp [ConsumerThread.Reading, ConsumerThread.recoverConnection] at h
  own := hx

theorem Watched.ended {t : ConsumerThread P L} (ht : t.runThread = false)
    (hg : t.isInLoginSuspectState = true → t.login.isSuspect = true)
    (hx : ∀ y ∈ x, y.1.ownReaction = some y.2) : Watched ⟨t, st, x⟩ where
  active_iff h := by simp [ht] at h
  not_refused h := by simp [ht] at h
  suspect_flag := hg
  gate_iff h := by simp [ConsumerThread.Reading, ht] at h
  own := hx

theorem Watched.gate_of_flag (h : s.Watched) (hsus : s.thread.login.isSuspect = false) :
    s.thread.isInLoginSuspectState = false := by
  by_contra hg
  have := h.suspect_flag (by simpa using hg)
  simp [hsus] at this

theorem start_watched : ({} : WatchedThread P L).Watched where
  active_iff _ := by simp
  not_refused _ := ⟨rfl, rfl⟩
  suspect_flag h := by simp at h
  gate_iff h := by simp [ConsumerThread.Reading] at h
  own x h := by simp at h

end

variable {P L : Type} [DecidableEq P] [DecidableEq L] {s : WatchedThread P L}

theorem deliver_eq_none_iff {t : ConsumerThread P L} {domain : Domain} {streamId : ℕ} {msg : RsslMsg} :
    t.deliver domain streamId msg = none ↔ t.isInLoginSuspectState = true := by
  simp [ConsumerThread.deliver]

theorem gated_iff : s.Gated ↔
    (s.thread.Reading → (s.thread.isInLoginSuspectState = true ↔ s.LastSuspect)) ∧
    ∀ x ∈ s.lastReaction, x.1.ownReaction = some x.2 := by
  simp only [Gated, deliver_eq_none_iff]
  constructor
  · exact fun h => ⟨fun hr => h.1 hr .marketPrice 0 .other, h.2⟩
  · exact fun h => ⟨fun hr _ _ _ => h.1 hr, h.2⟩

theorem Watched.gated (h : s.Watched) : s.Gated := gated_iff.mpr ⟨h.gate_iff, h.own⟩

theorem step_login {m : LoginMsg} (h : s.Watched) (hr : s.thread.Reading) :
    s.step (.login m) =
      { thread := { s.thread with login := s.thread.login.take m.kind }.react
          (s.thread.login.reactionToKind m.kind)
        lastState := m.state.or s.lastState
        lastReaction := (s.thread.login.reactionToKind m.kind).map fun r => (m, r) } := by
  obtain ⟨hn, hc⟩ := h.not_refused hr.1
  have hs := (h.active_iff hr.1).mp hr.2
  simp only [step, hr, if_true, ConsumerThread.step_login hr hs, UPALogin.reactionTo_eq hn hc]

omit [DecidableEq P] [DecidableEq L] in
theorem own_of_admissible {m : LoginMsg} (hr : s.thread.Reading) (hc : Admissible s (.login m)) :
    ∀ x ∈ (s.thread.login.reactionToKind m.kind).map fun r => (m, r), x.1.ownReaction = some x.2 := by
  have hok := hc hr
  intro x hx
  obtain ⟨r, hr, rfl⟩ := Option.map_eq_some_iff.mp hx
  rw [LoginMsg.ownReaction_eq, ← hr, eq_comm, reactionToKind_clear_iff]
  constructor
  · intro hk
    simpa [hk] using hok
  · intro hk
    simp only [hk] at hok
    exact ⟨hok.1, hok.2.1⟩

theorem Watched.step_login {m : LoginMsg} (h : s.Watched) (hr : s.thread.Reading)
    (hc : Admissible s (.login m)) : (s.step (.login m)).Watched := by
  have hok := hc hr
  have hl := h.not_refused hr.1
  have hown := own_of_admissible hr hc
  rw [WatchedThread.step_login h hr]
  cases hk : m.kind with
  | accepted =>
    obtain ⟨st, hst, hopen⟩ := kind_accepted hk
    have hno : ¬ s.SuspectAfter m := by
      rw [suspectAfter_of_state hst]
      exact not_openSuspect_of_openOk hopen
    exact h.reading ⟨hl.1, rfl⟩ (by simp) (iff_of_false Bool.false_ne_true hno) (hk ▸ hown)
  | ignored =>
    have hno : ¬ s.SuspectAfter m := by simpa [hk] using hok
    exact h.reading hl (by simp) (iff_of_false Bool.false_ne_true hno) (hk ▸ hown)
  | closedRecover => exact Watched.recovered (fun _ => hl) h.suspect_flag (hk ▸ hown)
  | closed n =>
    cases n with
    | false => exact Watched.ended rfl h.suspect_flag (hk ▸ hown)
    | true => exact Watched.ended rfl h.suspect_flag (hk ▸ hown)
  | suspect =>
    obtain ⟨st, hst, hsus⟩ := kind_suspect hk
    have hyes : s.SuspectAfter m := (suspectAfter_of_state hst).mpr hsus
    have hflag : s.thread.login.isClosedRecoverable = false := by simpa [hk] using hok
    rw [hk] at hown
    simp only [UPALogin.reactionToKind, hflag, Bool.false_eq_true, if_false] at hown ⊢
    exact h.reading hl (fun _ => rfl) (iff_of_true rfl hyes) hown
  | unreadable =>
    obtain ⟨hflag, hsus, hno⟩ : s.thread.login.isClosedRecoverable = false ∧
        s.thread.login.isSuspect = false ∧ ¬ s.SuspectAfter m := by simpa [hk] using hok
    have hgate := h.gate_of_flag hsus
    rw [hk] at hown
    simp only [UPALogin.reactionToKind, hflag, hsus, Bool.false_eq_true, if_false] at hown ⊢
    exact h.reading hl h.suspect_flag (iff_of_false (by simp [hgate]) hno) hown

theorem Watched.step_item (h : s.Watched) (hr : s.thread.Reading) (domain : Domain) (streamId : ℕ)
    (msg : RsslMsg) (succeeds : Bool) : (s.step (.item domain streamId msg succeeds)).Watched := by
  have hs := (h.active_iff hr.1).mp hr.2
  cases hd : s.thread.deliver domain streamId msg with
  | none => simpa [WatchedThread.step, ConsumerThread.step, ConsumerThread.processItem,
      ConsumerThread.afterRead, hr, hd] using h
  | some consumer =>
    cases succeeds with
    | true =>
      simp only [WatchedThread.step, ConsumerThread.step, ConsumerThread.processItem,
        ConsumerThread.afterRead, hr, hd, if_true]
      exact ⟨h.active_iff, h.not_refused, h.suspect_flag, h.gate_iff, h.own⟩
    | false =>
      simp only [WatchedThread.step, ConsumerThread.step, ConsumerThread.processItem,
        ConsumerThread.afterRead, hr, hd, if_true, hs, Bool.false_eq_true, if_false]
      exact Watched.ended rfl h.suspect_flag h.own

theorem Watched.step_connected (h : s.Watched) (hc : Admissible s .connected) :
    (s.step .connected).Watched := by
  simp only [WatchedThread.step, ConsumerThread.step]
  by_cases hw : s.thread.runThread ∧ ¬ s.thread.channelActive ∧ s.thread.shouldRecoverConnection
  · have ha : s.thread.channelActive = false := by simpa using hw.2.1
    have hg : s.thread.isInLoginSuspectState = false := hc hw.1 ha
    rw [if_pos hw, ha]
    exact ⟨fun _ => by simp, h.not_refused, h.suspect_flag,
      fun _ => iff_of_false (by simp [hg]) (by simp [LastSuspect]), h.own⟩
  · rw [if_neg hw]
    refine ⟨h.active_iff, h.not_refused, h.suspect_flag, fun hr => ?_, h.own⟩
    have ha : s.thread.channelActive = true := hr.2
    simpa only [ha, if_true] using h.gate_iff hr

theorem Watched.step {e : ThreadEvent} (h : s.Watched) (hc : Admissible s e) : (s.step e).Watched := by
  cases e with
  | login m =>
    by_cases hr : s.thread.Reading
    · exact h.step_login hr hc
    · simpa [WatchedThread.step, ConsumerThread.step, hr] using h
  | item domain streamId msg succeeds =>
    by_cases hr : s.thread.Reading
    · exact h.step_item hr domain streamId msg succeeds
    · simpa [WatchedThread.step, ConsumerThread.step, hr] using h
  | recover =>
    by_cases hr : s.thread.Reading
    · simp only [WatchedThread.step, ConsumerThread.step, hr, if_true]
      exact Watched.recovered h.not_refused h.suspect_flag h.own
    · simpa [WatchedThread.step, ConsumerThread.step, hr] using h
  | connected => exact h.step_connected hc

theorem Watched.step_login_not_gated {m : LoginMsg} (h : s.Watched) (hr : s.thread.Reading)
    (hc : ¬ Admissible s (.login m)) : ¬ (s.step (.login m)).Gated := by
  rw [gated_iff, WatchedThread.step_login h hr]
  rintro ⟨hgate, hown⟩
  apply hc
  intro _
  have hclear : ∀ r, s.thread.login.reactionToKind m.kind = some r →
      (m.kind = .suspect → s.thread.login.isClosedRecoverable = false) ∧
        (m.kind = .unreadable →
          s.thread.login.isClosedRecoverable = false ∧ s.thread.login.isSuspect = false) := by
    intro r hk
    have ho := hown (m, r) (by simp [hk])
    rw [LoginMsg.ownReaction_eq, ← hk, eq_comm, reactionToKind_clear_iff] at ho
    exact ho
  cases hk : m.kind with
  | accepted => trivial
  | closedRecover => trivial
  | closed n => trivial
  | suspect => exact (hclear _ (by rw [hk]; rfl)).1 hk
  | ignored =>
    rw [hk] at hgate
    exact fun hs => Bool.false_ne_true ((hgate hr).mpr hs)
  | unreadable =>
    obtain ⟨hflag, hsus⟩ := (hclear _ (by rw [hk]; rfl)).2 hk
    refine ⟨hflag, hsus, fun hs => ?_⟩
    rw [hk] at hgate
    simp only [UPALogin.reactionToKind, hflag, hsus, Bool.false_eq_true, if_false] at hgate
    have hg : s.thread.isInLoginSuspectState = true := (hgate hr).mpr hs
    rw [h.gate_of_flag hsus] at hg
    exact Bool.false_ne_true hg

theorem Watched.step_not_gated {e : ThreadEvent} (h : s.Watched) (hc : ¬ Admissible s e) :
    ¬ (s.step e).Gated := by
  cases e with
  | login m =>
    by_cases hr : s.thread.Reading
    · exact h.step_login_not_gated hr hc
    · exact absurd (fun hr' => absurd hr' hr) hc
  | item domain streamId msg succeeds => exact absurd trivial hc
  | recover => exact absurd trivial hc
  | connected =>
    simp only [Admissible, Classical.not_imp, Bool.not_eq_false] at hc
    obtain ⟨hrun, ha, hg⟩ := hc
    have hs : s.thread.shouldRecoverConnection = true := by
      by_contra hs
      have := (h.active_iff hrun).mpr (by simpa using hs)
      simp [ha] at this
    rw [gated_iff]
    rintro ⟨hgate, -⟩
    simp [WatchedThread.step, ConsumerThread.step, ConsumerThread.Reading, LastSuspect, hrun, ha, hs,
      hg] at hgate

end WatchedThread

theorem login_gated_iff {P L : Type} [DecidableEq P] [DecidableEq L] (es : List ThreadEvent) :
    Runs.Always WatchedThread.step WatchedThread.Gated ({} : WatchedThread P L) es ↔
      Runs.Guarded WatchedThread.step WatchedThread.Admissible ({} : WatchedThread P L) es :=
  Runs.always_iff_guarded (I := WatchedThread.Watched) (fun _ => WatchedThread.Watched.gated)
    (fun _ _ => WatchedThread.Watched.step) (fun _ _ => WatchedThread.Watched.step_not_gated)
    WatchedThread.start_watched

/-- After a recovery the suspect login of the new connection is answered as the closed login of the old. -/
theorem suspect_after_recovery_misread : ¬ ∀ es : List ThreadEvent,
    Runs.Always WatchedThread.step WatchedThread.Gated ({} : WatchedThread ℕ ℕ) es := by
  intro h
  have hg := (h [.connected, .login (.status (some ⟨.closedRecover, .suspect, false⟩)), .connected,
    .login (.refresh true ⟨.open, .suspect, false⟩ true)]).2.2.2.2
  exact absurd (hg.2 (.refresh true ⟨.open, .suspect, false⟩ true, .recover) rfl) (by decide)

end RmdsBridge
