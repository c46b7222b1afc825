import RmdsBridge.Login
import RmdsBridge.SubscriberSteps

namespace RmdsBridge

/-- The subscriber with the login that notifies it, the latest login state received on the connection,
whether that connection's login was accepted, whether a connection was ever lost, and for each run of
`ResubscribeAll` since the last loss whether the login had been accepted. -/
structure Session where
  subscriber : RMDSSubscriber := {}
  login : UPALogin := {}
  loginState : Option LoginState := none
  accepted : Bool := false
  lost : Bool := false
  resubscribed : List Bool := []

inductive SessionEvent
  | connectionNotification (connected requestLogin : Bool)
  | login (m : LoginMsg)
  | sourceDirectoryRefreshComplete (succeeded : Bool)
  | dictionaryUpdate (dictionaryComplete : Bool)
  deriving DecidableEq, Repr

namespace Session

def onConnection (s : Session) (connected requestLogin : Bool) : Session where
  subscriber := s.subscriber.connectionNotification connected requestLogin
  login := s.login
  loginState := none
  accepted := false
  lost := s.lost || (s.subscriber.connected && !connected)
  resubscribed := if s.subscriber.connected && !connected then [] else s.resubscribed

def onLogin (s : Session) (m : LoginMsg) : Session :=
  let o := s.login.processLoginResponse m
  { s with
    subscriber :=
      match o.notified with
      | some loginSucceeded => s.subscriber.loginResponse loginSucceeded
      | none => s.subscriber
    login := o.login
    loginState := m.state.or s.loginState
    accepted := s.accepted || m.kind = .accepted }

def onDictionary (s : Session) (dictionaryComplete : Bool) : Session :=
  { s with
    subscriber := s.subscriber.dictionaryUpdate dictionaryComplete
    resubscribed :=
      if dictionaryComplete ∧ s.subscriber.recovering then s.resubscribed ++ [s.accepted]
      else s.resubscribed }

def step (s : Session) : SessionEvent → Session
  | .connectionNotification connected requestLogin => s.onConnection connected requestLogin
  | .login m => if s.subscriber.connected then s.onLogin m else s
  | .sourceDirectoryRefreshComplete succeeded =>
    { s with subscriber := s.subscriber.sourceDirectoryRefreshComplete succeeded }
  | .dictionaryUpdate dictionaryComplete => s.onDictionary dictionaryComplete

def LoginOk (s : Session) : Prop := ∃ st ∈ s.loginState, st.OpenOk

def LiveWhileLoggedIn (s : Session) : Prop :=
  s.subscriber.subscriberState = .live →
    s.subscriber.connected = true ∧ s.LoginOk ∧ (s.lost = true → s.resubscribed = [true])

def Admissible (s : Session) : SessionEvent → Prop
  | .connectionNotification _ _ | .sourceDirectoryRefreshComplete _ | .dictionaryUpdate false => True
  | .dictionaryUpdate true => s.subscriber.connected = true ∧ s.LoginOk ∧
      (s.subscriber.recovering = true → s.accepted = true)
  | .login m => s.subscriber.subscriberState = .live → m.kind = .ignored →
      ∀ st ∈ m.state, st.OpenOk

structure Consistent (s : Session) : Prop where
  live : s.LiveWhileLoggedIn
  recovering : s.subscriber.recovering = true → s.lost = true ∧ s.resubscribed = []
  recovered : s.subscriber.recovering = false → s.lost = true → s.resubscribed = [true]

variable {s : Session}

theorem start_consistent : ({} : Session).Consistent where
  live h := by simp at h
  recovering h := by simp at h
  recovered _ h := by simp at h

theorem onConnection_subscriber (s : Session) (connected requestLogin : Bool) :
    (s.onConnection connected requestLogin).subscriber.subscriberState ≠ .live ∧
      (s.onConnection connected requestLogin).subscriber.recovering =
        (s.subscriber.recovering || (s.subscriber.connected && !connected)) := by
  simp only [onConnection, RMDSSubscriber.connectionNotification]
  cases connected with
  | true => cases requestLogin <;> simp
  | false =>
    cases hw : s.subscriber.connected with
    | true =>
      obtain ⟨c, hc⟩ := RMDSSubscriber.callSources_eq
        { s.subscriber with connected := false, subscriberState := .connecting, recovering := true } .setStale
      simp [RMDSSubscriber.setAllStale, hc]
    | false => simp

theorem Consistent.onConnection (h : s.Consistent) (connected requestLogin : Bool) :
    (s.onConnection connected requestLogin).Consistent := by
  obtain ⟨hst, hrec⟩ := s.onConnection_subscriber connected requestLogin
  have hlost : (s.onConnection connected requestLogin).lost =
      (s.lost || (s.subscriber.connected && !connected)) := rfl
  have hre : (s.onConnection connected requestLogin).resubscribed =
      if s.subscriber.connected && !connected then [] else s.resubscribed := rfl
  cases hw : s.subscriber.connected && !connected with
  | true =>
    rw [hw] at hrec hlost hre
    exact ⟨fun hl => absurd hl hst, fun _ => ⟨by simp [hlost], by simp [hre]⟩,
      fun hr => by simp [hrec] at hr⟩
  | false =>
    rw [hw, Bool.or_false] at hrec hlost
    rw [hw] at hre
    simp only [Bool.false_eq_true, if_false] at hre
    refine ⟨fun hl => absurd hl hst, ?_, ?_⟩
    · rw [hrec, hlost, hre]
      exact h.recovering
    · rw [hrec, hlost, hre]
      exact h.recovered

theorem onLogin_subscriber (s : Session) (m : LoginMsg) :
    (s.onLogin m).subscriber.recovering = s.subscriber.recovering ∧
      (m.kind = .ignored → (s.onLogin m).subscriber = s.subscriber) ∧
      (m.kind ≠ .ignored → (s.onLogin m).subscriber.subscriberState ≠ .live) := by
  obtain ⟨-, -, hn⟩ := s.login.processLoginResponse_spec m
  cases ho : (s.login.processLoginResponse m).notified with
  | none =>
    have hs : (s.onLogin m).subscriber = s.subscriber := by simp [onLogin, ho]
    exact ⟨by rw [hs], fun _ => hs, fun hk => absurd (hn.mp ho) hk⟩
  | some ok =>
    have hs : (s.onLogin m).subscriber = s.subscriber.loginResponse ok := by simp [onLogin, ho]
    refine ⟨by rw [hs]; rfl, fun hk => ?_, fun _ => ?_⟩
    · rw [hn.mpr hk] at ho
      cases ho
    · rw [hs]
      simp only [RMDSSubscriber.loginResponse]
      split <;> simp

theorem Consistent.onLogin {m : LoginMsg} (h : s.Consistent) (hc : Admissible s (.login m)) :
    (s.onLogin m).Consistent := by
  obtain ⟨hrec, hignored, hother⟩ := s.onLogin_subscriber m
  refine ⟨fun hl => ?_, by rw [hrec]; exact h.recovering, by rw [hrec]; exact h.recovered⟩
  by_cases hk : m.kind = .ignored
  · rw [hignored hk] at hl ⊢
    obtain ⟨hcon, ⟨st, hst, hopen⟩, hre⟩ := h.live hl
    refine ⟨hcon, ?_, hre⟩
    cases hm : m.state with
    | none => exact ⟨st, by simpa [Session.onLogin, hm] using hst, hopen⟩
    | some st' => exact ⟨st', by simp [Session.onLogin, hm], hc hl hk st' hm⟩
  · exact absurd hl (hother hk)

theorem onDictionary_subscriber (s : Session) :
    (s.onDictionary true).subscriber.subscriberState = .live ∧
      (s.onDictionary true).subscriber.connected = s.subscriber.connected ∧
      (s.onDictionary true).subscriber.recovering = false := by
  simp only [onDictionary, RMDSSubscriber.dictionaryUpdate, if_true]
  cases hr : s.subscriber.recovering with
  | false => simp [RMDSSubscriber.setLive, hr]
  | true =>
    obtain ⟨c, hc⟩ := RMDSSubscriber.callSources_eq { s.subscriber.setLive with recovering := false }
      .reSubscribe
    simp only [RMDSSubscriber.setLive] at hc
    simp [RMDSSubscriber.setLive, RMDSSubscriber.resubscribeAll, hr, hc]

theorem Consistent.onDictionary {complete : Bool} (h : s.Consistent)
    (hc : Admissible s (.dictionaryUpdate complete)) : (s.onDictionary complete).Consistent := by
  cases complete with
  | false =>
    simp only [Session.onDictionary, RMDSSubscriber.dictionaryUpdate, Bool.false_eq_true, if_false,
      false_and]
    exact ⟨fun hl => by simp at hl, h.recovering, h.recovered⟩
  | true =>
    obtain ⟨hcon, hok, hacc⟩ := hc
    obtain ⟨hl, hcon', hrec⟩ := s.onDictionary_subscriber
    have hre : s.lost = true → (s.onDictionary true).resubscribed = [true] := by
      intro hlost
      simp only [Session.onDictionary, true_and]
      cases hr : s.subscriber.recovering with
      | false => simpa using h.recovered hr hlost
      | true => simp [(h.recovering hr).2, hacc hr]
    refine ⟨fun _ => ⟨hcon'.trans hcon, hok, hre⟩, fun hr => ?_, fun _ => hre⟩
    rw [hrec] at hr
    cases hr

theorem Consistent.step {e : SessionEvent} (h : s.Consistent) (hc : Admissible s e) :
    (s.step e).Consistent := by
  cases e with
  | connectionNotification connected requestLogin => exact h.onConnection connected requestLogin
  | login m =>
    simp only [Session.step]
    split
    · exact h.onLogin hc
    · exact h
  | sourceDirectoryRefreshComplete succeeded =>
    refine ⟨fun hl => ?_, h.recovering, h.recovered⟩
    cases succeeded <;> simp [Session.step, RMDSSubscriber.sourceDirectoryRefreshComplete] at hl
  | dictionaryUpdate complete => exact h.onDictionary hc

theorem Consistent.step_not_live {e : SessionEvent} (h : s.Consistent) (hc : ¬ Admissible s e) :
    ¬ (s.step e).LiveWhileLoggedIn := by
  cases e with
  | connectionNotification _ _ => exact absurd trivial hc
  | sourceDirectoryRefreshComplete _ => exact absurd trivial hc
  | login m =>
    simp only [Admissible, Classical.not_imp, not_forall] at hc
    obtain ⟨hl, hk, st, hst, hno⟩ := hc
    have hcon := (h.live hl).1
    simp only [Session.step, hcon, if_true]
    intro hlive
    rw [LiveWhileLoggedIn, (s.onLogin_subscriber m).2.1 hk] at hlive
    obtain ⟨-, ⟨st', hst', hopen⟩, -⟩ := hlive hl
    have hm : m.state = some st := hst
    have he : (s.onLogin m).loginState = some st := by simp [Session.onLogin, hm]
    rw [Option.mem_def, he] at hst'
    cases hst'
    exact hno hopen
  | dictionaryUpdate complete =>
    cases complete with
    | false => exact absurd trivial hc
    | true =>
      obtain ⟨hl, hcon', -⟩ := s.onDictionary_subscriber
      intro hlive
      obtain ⟨hcon, hok, hre⟩ := hlive hl
      apply hc
      refine ⟨hcon'.symm.trans hcon, hok, fun hr => ?_⟩
      obtain ⟨hlost, hnil⟩ := h.recovering hr
      have he : (s.onDictionary true).resubscribed = [s.accepted] := by
        simp [Session.onDictionary, hr, hnil]
      have hre' : (s.onDictionary true).resubscribed = [true] := hre hlost
      simpa [he] using hre'

end Session

theorem session_live_iff (es : List SessionEvent) :
    Runs.Always Session.step Session.LiveWhileLoggedIn {} es ↔
      Runs.Guarded Session.step Session.Admissible {} es :=
  Runs.always_iff_guarded (I := Session.Consistent) (fun _ h => h.live)
    (fun _ _ => Session.Consistent.step) (fun _ _ => Session.Consistent.step_not_live)
    Session.start_consistent

/-- A client's dictionary request after the connection was lost makes the session live without one. -/
theorem live_without_connection : ¬ ∀ es : List SessionEvent,
    Runs.Always Session.step Session.LiveWhileLoggedIn {} es := by
  intro h
  have hl := (h [.connectionNotification true true, .login (.refresh true ⟨.open, .ok, false⟩ true),
    .sourceDirectoryRefreshComplete true, .dictionaryUpdate true, .connectionNotification false false,
    .dictionaryUpdate true]).2.2.2.2.2.2
  exact absurd (hl rfl).1 (by decide)

end RmdsBridge
