import Mathlib.Data.Finset.Basic
import RmdsBridge.Login
import RmdsBridge.PublisherItem

namespace RmdsBridge

inductive NIPublisherState
  | unconnected
  | connecting
  | loggingin
  | sendingsourcedirectory
  deriving DecidableEq, Repr

structure UPANIProvider (C : Type) where
  login : UPALogin := {}
  channel : Option C := none
  channelActive : Bool := false
  shouldRecoverConnection : Bool := true
  runThread : Bool := true

structure RMDSNIPublisher (C : Type) where
  source : RMDSPublisherSource C
  nextNIStreamId : ℤ := -2
  publisherState : NIPublisherState := .connecting
  connected : Bool := false
  niProvider : UPANIProvider C := {}
  closedChannels : Finset C := ∅

namespace RMDSNIPublisher

variable {C : Type} [DecidableEq C]

def getChannel (p : RMDSNIPublisher C) : Option C := p.niProvider.channel

def connectionNotification (p : RMDSNIPublisher C) (connected requestLogin : Bool) :
    RMDSNIPublisher C :=
  { p with
    connected := connected
    publisherState :=
      if connected then (if requestLogin then .loggingin else .unconnected)
      else if p.connected then .connecting
      else .unconnected }

def loginResponse (p : RMDSNIPublisher C) (loginSucceeded : Bool) : RMDSNIPublisher C :=
  { p with
    publisherState :=
      if p.connected && loginSucceeded then .sendingsourcedirectory else .unconnected }

/-- `RemoveChannel` closes the channel; the pointer to it is the caller's matter. -/
def removeChannel (p : RMDSNIPublisher C) : RMDSNIPublisher C :=
  { p with closedChannels := p.getChannel.elim p.closedChannels fun c => insert c p.closedChannels }

def recoverConnection (p : RMDSNIPublisher C) : RMDSNIPublisher C :=
  let p := (p.connectionNotification false false).removeChannel
  { p with
    niProvider := { p.niProvider with
      channel := none, channelActive := false, shouldRecoverConnection := true } }

/-- The pointer to the channel stays. -/
def exitThread (p : RMDSNIPublisher C) : RMDSNIPublisher C :=
  let p := p.removeChannel
  { p with niProvider := { p.niProvider with channelActive := false, runThread := false } }

def connect (p : RMDSNIPublisher C) (chnl : C) (active : Bool) : RMDSNIPublisher C :=
  { p with
    niProvider := { p.niProvider with
      channel := some chnl, channelActive := active, shouldRecoverConnection := !active }
    closedChannels := p.closedChannels.erase chnl }

def connectFailed (p : RMDSNIPublisher C) : RMDSNIPublisher C :=
  { p with niProvider := { p.niProvider with channel := none } }

def channelInitialised (p : RMDSNIPublisher C) (requestLogin : Bool) : RMDSNIPublisher C :=
  { p with
    niProvider := { p.niProvider with channelActive := true, shouldRecoverConnection := false }
  }.connectionNotification true requestLogin

/-- The login case of `ProcessResponse`: a closed login makes the read fail, which recovers as well. -/
def processLogin (p : RMDSNIPublisher C) (m : LoginMsg) : RMDSNIPublisher C :=
  let o := p.niProvider.login.processLoginResponse m
  let p := { p with niProvider := { p.niProvider with login := o.login } }
  let p := o.notified.elim p p.loginResponse
  if ¬ o.succeeded ∧ (o.login.isClosed ∨ o.login.isClosedRecoverable) then p.recoverConnection else p

def createPublisher (p : RMDSNIPublisher C) (symbol : String) : RMDSNIPublisher C :=
  match p.source.getItem symbol with
  | some _ => p
  | none =>
    { p with
      source := (p.source.addItem p.getChannel p.nextNIStreamId symbol).2
      nextNIStreamId := p.nextNIStreamId - 1 }

end RMDSNIPublisher

inductive NIEvent (C : Type)
  | connect (chnl : C) (active : Bool)
  | connectFailed
  | initialised (requestLogin : Bool)
  | login (m : LoginMsg)
  | recover
  | exit (notified : Bool)
  | createPublisher (symbol : String)
  deriving DecidableEq, Repr

namespace RMDSNIPublisher

variable {C : Type} [DecidableEq C]

def Possible (p : RMDSNIPublisher C) : NIEvent C → Prop
  | .connect _ _ => p.niProvider.runThread = true ∧ p.niProvider.shouldRecoverConnection = true ∧
      p.niProvider.channel = none
  | .connectFailed => p.niProvider.shouldRecoverConnection = true ∧
      (p.niProvider.channel = none ∨ p.niProvider.runThread = false)
  | .initialised _ => p.niProvider.runThread = true ∧ p.niProvider.channel ≠ none ∧
      p.niProvider.channelActive = false
  | .login _ => p.niProvider.runThread = true ∧ p.niProvider.channelActive = true
  | .recover | .exit _ => p.niProvider.runThread = true
  | .createPublisher _ => True

instance Possible.decidable (p : RMDSNIPublisher C) : ∀ e, Decidable (p.Possible e)
  | .connect _ _ => inferInstanceAs (Decidable (_ ∧ _ ∧ _))
  | .connectFailed => inferInstanceAs (Decidable (_ ∧ (_ ∨ _)))
  | .initialised _ => inferInstanceAs (Decidable (_ ∧ _ ∧ _))
  | .login _ => inferInstanceAs (Decidable (_ ∧ _))
  | .recover | .exit _ => inferInstanceAs (Decidable (_ = _))
  | .createPublisher _ => inferInstanceAs (Decidable True)

def handle (p : RMDSNIPublisher C) : NIEvent C → RMDSNIPublisher C
  | .connect chnl active => p.connect chnl active
  | .connectFailed => p.connectFailed
  | .initialised requestLogin => p.channelInitialised requestLogin
  | .login m => p.processLogin m
  | .recover => p.recoverConnection
  | .exit notified => (if notified then p.connectionNotification false false else p).exitThread
  | .createPublisher symbol => p.createPublisher symbol

def step (p : RMDSNIPublisher C) (e : NIEvent C) : RMDSNIPublisher C :=
  if p.Possible e then p.handle e else p

end RMDSNIPublisher

end RmdsBridge
