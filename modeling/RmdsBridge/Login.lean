import RmdsBridge.Consumer

namespace RmdsBridge

inductive LoginStreamState
  | unspecified
  | open
  | nonStreaming
  | closedRecover
  | closed
  | redirected
  deriving DecidableEq, Repr

structure LoginState where
  streamState : LoginStreamState
  dataState : RsslDataState
  userUnknownToPermSys : Bool
  deriving DecidableEq, Repr

inductive LoginMsg
  | refresh (solicited : Bool) (state : LoginState) (decodes : Bool)
  | status (state : Option LoginState)
  | update
  | close
  | other
  deriving DecidableEq, Repr

def LoginMsg.state : LoginMsg → Option LoginState
  | .refresh _ s _ => some s
  | .status s => s
  | .update | .close | .other => none

namespace LoginState

def OpenOk (s : LoginState) : Prop := s.streamState = .open ∧ s.dataState = .ok

def OpenSuspect (s : LoginState) : Prop := s.streamState = .open ∧ s.dataState = .suspect

instance (s : LoginState) : Decidable s.OpenOk := inferInstanceAs (Decidable (_ ∧ _))

instance (s : LoginState) : Decidable s.OpenSuspect := inferInstanceAs (Decidable (_ ∧ _))

end LoginState

structure UPALogin where
  isClosed : Bool := false
  isClosedRecoverable : Bool := false
  isSuspect : Bool := true
  isNotEntitled : Bool := false
  deriving DecidableEq, Repr

/-- `notified` is what the listeners are told of the login, if they are. -/
structure LoginOutcome where
  login : UPALogin
  notified : Option Bool
  succeeded : Bool
  deriving DecidableEq, Repr

def UPALogin.processLoginResponse (l : UPALogin) : LoginMsg → LoginOutcome
  | .refresh solicited s decodes =>
    if ¬ decodes then ⟨l, some false, false⟩
    else if solicited ∧ s.OpenOk then
      ⟨{ l with isClosed := false, isClosedRecoverable := false, isSuspect := false }, some true, true⟩
    else if s.streamState = .closedRecover then
      ⟨{ l with isClosedRecoverable := true }, some false, false⟩
    else if s.streamState = .closed then ⟨{ l with isClosed := true }, some false, false⟩
    else if s.OpenSuspect then ⟨{ l with isSuspect := true }, some false, false⟩
    else ⟨l, none, true⟩
  | .status none => ⟨l, none, true⟩
  | .status (some s) =>
    if s.streamState = .closedRecover then
      ⟨{ l with isClosedRecoverable := true }, some false, false⟩
    else if s.streamState = .closed then
      let l := if s.userUnknownToPermSys then { l with isNotEntitled := true } else l
      ⟨{ l with isClosed := true }, some false, false⟩
    else if s.OpenSuspect then ⟨{ l with isSuspect := true }, some false, false⟩
    else ⟨l, none, true⟩
  | .update => ⟨l, none, true⟩
  | .close => ⟨{ l with isClosed := true }, some true, false⟩
  | .other => ⟨l, some true, false⟩

inductive LoginKind
  | accepted
  | ignored
  | closedRecover
  | closed (notEntitled : Bool)
  | suspect
  | unreadable
  deriving DecidableEq, Repr

def LoginState.kind (s : LoginState) (notEntitled : Bool) : LoginKind :=
  if s.streamState = .closedRecover then .closedRecover
  else if s.streamState = .closed then .closed notEntitled
  else if s.OpenSuspect then .suspect
  else .ignored

def LoginMsg.kind : LoginMsg → LoginKind
  | .refresh solicited s decodes =>
    if ¬ decodes then .unreadable
    else if solicited ∧ s.OpenOk then .accepted
    else s.kind false
  | .status none | .update => .ignored
  | .status (some s) => s.kind s.userUnknownToPermSys
  | .close => .closed false
  | .other => .unreadable

def LoginKind.succeeds : LoginKind → Bool
  | .accepted | .ignored => true
  | .closedRecover | .closed _ | .suspect | .unreadable => false

namespace UPALogin

def take (l : UPALogin) : LoginKind → UPALogin
  | .accepted => { l with isClosed := false, isClosedRecoverable := false, isSuspect := false }
  | .ignored | .unreadable => l
  | .closedRecover => { l with isClosedRecoverable := true }
  | .closed notEntitled => { l with isClosed := true, isNotEntitled := notEntitled || l.isNotEntitled }
  | .suspect => { l with isSuspect := true }

theorem processLoginResponse_spec (l : UPALogin) (m : LoginMsg) :
    (l.processLoginResponse m).login = l.take m.kind ∧
      (l.processLoginResponse m).succeeded = m.kind.succeeds ∧
      ((l.processLoginResponse m).notified = none ↔ m.kind = .ignored) := by
  cases m with
  | refresh solicited s decodes =>
    simp only [processLoginResponse, LoginMsg.kind, LoginState.kind]
    split_ifs <;> simp [take, LoginKind.succeeds]
  | status s =>
    cases s with
    | none => simp [processLoginResponse, LoginMsg.kind, take, LoginKind.succeeds]
    | some s =>
      simp only [processLoginResponse, LoginMsg.kind, LoginState.kind]
      split_ifs <;> simp [take, LoginKind.succeeds, *]
  | _ => simp [processLoginResponse, LoginMsg.kind, take, LoginKind.succeeds]

end UPALogin

inductive LoginReaction
  | notEntitled
  | closed
  | recover
  | suspect
  | nothing
  deriving DecidableEq, Repr

/-- The order in which `ProcessResponse` tests the flags after a failure. -/
def UPALogin.reaction (l : UPALogin) : LoginReaction :=
  if l.isNotEntitled then .notEntitled
  else if l.isClosed then .closed
  else if l.isClosedRecoverable then .recover
  else if l.isSuspect then .suspect
  else .nothing

/-- What the login case of `ProcessResponse` does to a consumer: `giveUp` clears
`shouldRecoverConnection_`. -/
structure LoginCase (S : Type*) where
  login : S → UPALogin
  setLogin : S → LoginOutcome → S
  setSuspect : S → Bool → S
  giveUp : S → S
  recoverConnection : S → S

def LoginCase.processLogin {S : Type*} (c : LoginCase S) (s : S) (m : LoginMsg) : Bool × S :=
  let o := (c.login s).processLoginResponse m
  let s := c.setLogin s o
  if o.succeeded then (true, c.setSuspect s false)
  else
    match o.login.reaction with
    | .notEntitled => (false, c.giveUp s)
    | .closed => (false, s)
    | .recover => (true, c.recoverConnection s)
    | .suspect => (true, c.setSuspect s true)
    | .nothing => (true, s)

structure ConsumerThread (P L : Type) where
  login : UPALogin := {}
  consumer : UPAConsumer P L := {}
  isInLoginSuspectState : Bool := false
  shouldRecoverConnection : Bool := true
  channelActive : Bool := false
  runThread : Bool := true

namespace ConsumerThread

variable {P L : Type} [DecidableEq P] [DecidableEq L]

def Reading (t : ConsumerThread P L) : Prop := t.runThread = true ∧ t.channelActive = true

instance (t : ConsumerThread P L) : Decidable t.Reading := inferInstanceAs (Decidable (_ ∧ _))

def recoverConnection (t : ConsumerThread P L) : ConsumerThread P L :=
  { t with channelActive := false, shouldRecoverConnection := true }

def loginCase : LoginCase (ConsumerThread P L) where
  login := login
  setLogin t o := { t with login := o.login }
  setSuspect t suspect := { t with isInLoginSuspectState := suspect }
  giveUp t := { t with shouldRecoverConnection := false }
  recoverConnection := recoverConnection

def processLogin (t : ConsumerThread P L) (m : LoginMsg) : Bool × ConsumerThread P L :=
  loginCase.processLogin t m

def deliver (t : ConsumerThread P L) (domain : Domain) (streamId : ℕ) (msg : RsslMsg) :
    Option (UPAConsumer P L) :=
  if t.isInLoginSuspectState then none else some (t.consumer.respond domain streamId msg)

/-- The item cases of `ProcessResponse`; `succeeds` is what the subscription returns. -/
def processItem (t : ConsumerThread P L) (domain : Domain) (streamId : ℕ) (msg : RsslMsg)
    (succeeds : Bool) : Bool × ConsumerThread P L :=
  match t.deliver domain streamId msg with
  | some consumer => (succeeds, { t with consumer := consumer })
  | none => (true, t)

def afterRead : Bool × ConsumerThread P L → ConsumerThread P L
  | (true, t) => t
  | (false, t) => if t.shouldRecoverConnection then t.recoverConnection else { t with runThread := false }

end ConsumerThread

inductive ThreadEvent
  | login (m : LoginMsg)
  | item (domain : Domain) (streamId : ℕ) (msg : RsslMsg) (succeeds : Bool)
  | recover
  | connected
  deriving DecidableEq, Repr

def ConsumerThread.step {P L : Type} [DecidableEq P] [DecidableEq L] (t : ConsumerThread P L) :
    ThreadEvent → ConsumerThread P L
  | .login m => if t.Reading then afterRead (t.processLogin m) else t
  | .item domain streamId msg succeeds =>
    if t.Reading then afterRead (t.processItem domain streamId msg succeeds) else t
  | .recover => if t.Reading then t.recoverConnection else t
  | .connected =>
    if t.runThread ∧ ¬ t.channelActive ∧ t.shouldRecoverConnection then
      { t with channelActive := true, shouldRecoverConnection := false }
    else t

end RmdsBridge
