import RmdsBridge.ConsumerLoop
import RmdsBridge.Provider

namespace RmdsBridge

open Handles

inductive ClientInit
  | failed
  | inProgress
  | success
  | bad
  deriving DecidableEq, Repr

inductive LoginRequest
  | request (hasUserName decodes written : Bool)
  | close
  | other
  deriving DecidableEq, Repr

inductive DirectoryRequest
  | request (hasFilters written : Bool)
  | close
  | other
  deriving DecidableEq, Repr

/-- A request of a client; `written` is that its answer, if there is one, is taken by `rsslWrite`. -/
inductive ClientRequest
  | undecodable
  | login (r : LoginRequest)
  | source (r : DirectoryRequest)
  | dictionary
  | item (msg : ItemRequest) (written : Bool)
  | other
  deriving DecidableEq, Repr

structure HandlerOutcome where
  written : Bool
  succeeded : Bool
  deriving DecidableEq, Repr

/-- The rejection of a login without a user name may fail, its response may not. -/
def LoginRequest.process : LoginRequest → HandlerOutcome
  | .request hasUserName decodes written =>
    if ¬ hasUserName then ⟨written, true⟩ else if ¬ decodes then ⟨false, false⟩ else ⟨written, written⟩
  | .close => ⟨false, true⟩
  | .other => ⟨false, false⟩

/-- The rejection of a directory request may not fail, its response may. -/
def DirectoryRequest.process : DirectoryRequest → HandlerOutcome
  | .request hasFilters written => if ¬ hasFilters then ⟨written, written⟩ else ⟨written, true⟩
  | .close => ⟨false, true⟩
  | .other => ⟨false, false⟩

def ItemRequest.process (hasSource written : Bool) : ItemRequest → HandlerOutcome
  | .request _ _ => if hasSource then ⟨false, true⟩ else ⟨written, written⟩
  | .close _ | .other => ⟨false, true⟩
  | .post => ⟨written, true⟩

def ClientRequest.process (hasSource : Bool) : ClientRequest → HandlerOutcome
  | .undecodable => ⟨false, false⟩
  | .login r => r.process
  | .source r => r.process
  | .item msg written => msg.process hasSource written
  | .dictionary | .other => ⟨false, true⟩

inductive ClientRead
  | request (r : ClientRequest) (more : Bool)
  | nothing (code : ReadCode) (state : ChannelState)
  deriving DecidableEq, Repr

structure UPAClientConnection where
  state : ChannelState := .initializing
  receivedClientMsg : Bool := false
  pingsInitialized : Bool := false
  deriving DecidableEq, Repr

inductive PublisherState
  | unconnected
  | connecting
  | live
  deriving DecidableEq, Repr

inductive ConnectionReport
  | complete
  | disconnect
  | failed
  deriving DecidableEq, Repr

structure RMDSPublisher where
  connected : Bool := false
  publisherState : PublisherState := .connecting
  reports : List ConnectionReport := []
  deriving DecidableEq, Repr

namespace RMDSPublisher

def connectionNotification (p : RMDSPublisher) (connected : Bool) : RMDSPublisher :=
  match connected, p.connected with
  | true, true => p
  | true, false =>
    { connected := true, publisherState := .connecting, reports := p.reports ++ [.complete] }
  | false, true =>
    { connected := false, publisherState := .connecting, reports := p.reports ++ [.disconnect] }
  | false, false =>
    { connected := false, publisherState := .unconnected, reports := p.reports ++ [.failed] }

def sentLoginResponse (p : RMDSPublisher) : RMDSPublisher := { p with publisherState := .live }

end RMDSPublisher

def maxClientConnections : ℕ := 10

/-- The provider's thread. The slots of `clientConnections_` are told by their channels. `departures` counts
how often the last active client has gone. -/
structure ProviderRun (C : Type) where
  provider : UPAProvider C
  clientConnections : UnorderedMap C UPAClientConnection := ∅
  publisher : RMDSPublisher := {}
  uses : List (Use C) := []
  departures : ℕ := 0

/-- What a pass of the provider's loop meets when it reads a channel. `leftClosed` is whether the state of a
channel says so after it was closed, `walk` the order in which the streams of a closed channel are met. -/
structure ChannelRead where
  closed : Bool := false
  init : ClientInit := .inProgress
  leftClosed : Bool := true
  reads : List ClientRead := []
  walk : List (Σ _ : ℤ, String) := []
  deriving DecidableEq

namespace ProviderRun

variable {C : Type} [DecidableEq C]

def hasActive (p : ProviderRun C) : Bool :=
  p.clientConnections.values.any fun c => c.state = .active

def use (p : ProviderRun C) (chnl : C) : ProviderRun C := { p with uses := .used chnl :: p.uses }

def notifyListeners (p : ProviderRun C) (connected : Bool) : ProviderRun C :=
  { p with publisher := p.publisher.connectionNotification connected }

def setConnection (p : ProviderRun C) (chnl : C) (c : UPAClientConnection) : ProviderRun C :=
  { p with clientConnections := p.clientConnections.insert chnl c }

def shutdownChannel (p : ProviderRun C) (chnl : C) (c : UPAClientConnection) : ProviderRun C :=
  let p' := p.setConnection chnl { c with state := .closed }
  { p' with
    uses := .closed chnl :: p.uses
    departures := if p.hasActive ∧ ¬ p'.hasActive then p.departures + 1 else p.departures }

/-- The slot is not reset when the walk over the streams does not end. -/
def shutdownClientConnection (p : ProviderRun C) (chnl : C) (c : UPAClientConnection)
    (walk : List (Σ _ : ℤ, String)) : ProviderRun C :=
  let p := p.shutdownChannel chnl c
  let p := { p with provider := p.provider.shutdownClientConnection chnl walk }
  if p.provider.stuck then p else { p with clientConnections := p.clientConnections.erase chnl }

def removeChannelConnection (p : ProviderRun C) (chnl : C) (walk : List (Σ _ : ℤ, String)) :
    ProviderRun C :=
  let p := p.notifyListeners false
  match p.clientConnections.find chnl with
  | none => p
  | some c => p.shutdownClientConnection chnl c walk

def createNewClientConnection (p : ProviderRun C) (chnl : C) : ProviderRun C :=
  if p.clientConnections.size < maxClientConnections then
    { p.setConnection chnl {} with
      provider := p.provider.createNewClientConnection chnl, uses := .opened chnl :: p.uses }
  else p

def sendUPAMessage (p : ProviderRun C) (chnl : C) (written : Bool) : ProviderRun C :=
  if written then p.use chnl else p

def setChannelReceivedClientMsg (p : ProviderRun C) (chnl : C) : ProviderRun C :=
  match p.clientConnections.find chnl with
  | none => p
  | some c => p.setConnection chnl { c with receivedClientMsg := true }

def handle (p : ProviderRun C) (chnl : C) : ClientRequest → ProviderRun C
  | .login (.request true true true) => { p with publisher := p.publisher.sentLoginResponse }
  | .item msg _ => { p with provider := p.provider.processItemRequest chnl msg }
  | _ => p

/-- A request that fails closes the channel that it came on. -/
def processRequest (p : ProviderRun C) (chnl : C) (walk : List (Σ _ : ℤ, String)) (r : ClientRequest) :
    ProviderRun C :=
  let outcome := r.process p.provider.source.isSome
  let p := p.handle chnl r
  if p.provider.stuck then p
  else
    let p := p.sendUPAMessage chnl outcome.written
    if outcome.succeeded then p.setChannelReceivedClientMsg chnl
    else p.removeChannelConnection chnl walk

def processNothing (p : ProviderRun C) (chnl : C) (walk : List (Σ _ : ℤ, String)) (state : ChannelState) :
    ReadCode → ProviderRun C
  | .congestionDetected | .slowReader | .packetGapDetected =>
    if state = .closed then p.removeChannelConnection chnl walk else p
  | .failure => p.removeChannelConnection chnl walk
  | .readPing => p.setChannelReceivedClientMsg chnl
  | .moreData | .success | .readFdChange | .readWouldBlock | .otherError => p

def readLoop (chnl : C) (walk : List (Σ _ : ℤ, String)) : List ClientRead → ProviderRun C → ProviderRun C
  | [], p => p
  | .request r more :: rs, p =>
    let p := (p.use chnl).processRequest chnl walk r
    if more ∧ ¬ p.provider.stuck then readLoop chnl walk rs p else p
  | .nothing code state :: rs, p =>
    let p := (p.use chnl).processNothing chnl walk state code
    if code = .moreData then readLoop chnl walk rs p else p

/-- A channel whose initialisation failed is removed, and once more when its state says closed. -/
def removeUninitialised (p : ProviderRun C) (chnl : C) (r : ChannelRead) : ProviderRun C :=
  let p := p.removeChannelConnection chnl r.walk
  if r.leftClosed ∧ ¬ p.provider.stuck then p.removeChannelConnection chnl r.walk else p

def initChannel (p : ProviderRun C) (chnl : C) (c : UPAClientConnection) (r : ChannelRead) :
    ProviderRun C :=
  match r.init with
  | .failed => p.removeUninitialised chnl r
  | .inProgress => p
  | .success =>
    readLoop chnl r.walk r.reads ((p.setConnection chnl { c with state := .active }).notifyListeners true)
  | .bad => (p.notifyListeners false).removeUninitialised chnl r

def readFromChannel (p : ProviderRun C) (chnl : C) (c : UPAClientConnection) (r : ChannelRead) :
    ProviderRun C :=
  match if r.closed then .closed else c.state with
  | .initializing => p.initChannel chnl c r
  | .active => readLoop chnl r.walk r.reads p
  | .closed => p.removeChannelConnection chnl r.walk
  | .inactive => p

def afterRead (p : ProviderRun C) (chnl : C) (c : UPAClientConnection) (flush : Option Bool)
    (walk : List (Σ _ : ℤ, String)) : ProviderRun C :=
  let p := p.setConnection chnl { c with pingsInitialized := true }
  match flush with
  | none => p
  | some true => p.use chnl
  | some false => (p.use chnl).removeChannelConnection chnl walk

def handlePings (p : ProviderRun C) (chnl : C) (c : UPAClientConnection) (sendPing checkReceived : Bool)
    (walk : List (Σ _ : ℤ, String)) : ProviderRun C :=
  if ¬ c.pingsInitialized then p
  else
    let p := if sendPing then p.use chnl else p
    if ¬ checkReceived then p
    else if c.receivedClientMsg then p.setConnection chnl { c with receivedClientMsg := false }
    else p.shutdownClientConnection chnl c walk

theorem handlePings_cases {M : ProviderRun C → Prop} {p : ProviderRun C} {chnl : C}
    {c : UPAClientConnection} {sendPing checkReceived : Bool} {walk : List (Σ _ : ℤ, String)}
    (huninit : c.pingsInitialized = false → M p)
    (hsent : checkReceived = false → M (if sendPing then p.use chnl else p))
    (hheard : c.receivedClientMsg = true →
      M ((if sendPing then p.use chnl else p).setConnection chnl { c with receivedClientMsg := false }))
    (hlost : c.pingsInitialized = true → checkReceived = true → c.receivedClientMsg = false →
      M ((if sendPing then p.use chnl else p).shutdownClientConnection chnl c walk)) :
    M (p.handlePings chnl c sendPing checkReceived walk) := by
  simp only [ProviderRun.handlePings]
  by_cases hp : c.pingsInitialized = true
  · rw [if_neg (by simpa using hp)]
    by_cases hcheck : checkReceived = true
    · rw [if_neg (by simpa using hcheck)]
      by_cases hm : c.receivedClientMsg = true
      · rw [if_pos hm]
        exact hheard hm
      · rw [if_neg hm]
        exact hlost hp hcheck (by simpa using hm)
    · rw [if_pos hcheck]
      exact hsent (by simpa using hcheck)
  · rw [if_pos hp]
    exact huninit (by simpa using hp)

def publishes (p : ProviderRun C) (symbol : String) (chnl : C) : Prop :=
  ((p.provider.item symbol).bind fun i => i.channelMap.find chnl).isSome = true

instance (p : ProviderRun C) (symbol : String) (chnl : C) : Decidable (p.publishes symbol chnl) :=
  inferInstanceAs (Decidable (_ = true))

end ProviderRun

/-- `publish` sends on the channel that the item's map has first. -/
inductive ClientEvent (C : Type)
  | accept (chnl : C)
  | read (chnl : C) (r : ChannelRead)
  | afterRead (chnl : C) (flush : Option Bool) (walk : List (Σ _ : ℤ, String))
  | ping (chnl : C) (sendPing checkReceived : Bool) (walk : List (Σ _ : ℤ, String))
  | createPublisher (symbol : String)
  | publish (symbol : String) (chnl : C) (written : Bool)
  deriving DecidableEq

namespace ProviderRun

variable {C : Type} [DecidableEq C]

def onConnection (p : ProviderRun C) (chnl : C) (f : UPAClientConnection → ProviderRun C) : ProviderRun C :=
  match p.clientConnections.find chnl with
  | none => p
  | some c => f c

def handleEvent (p : ProviderRun C) : ClientEvent C → ProviderRun C
  | .accept chnl => p.createNewClientConnection chnl
  | .read chnl r => p.onConnection chnl fun c => p.readFromChannel chnl c r
  | .afterRead chnl flush walk =>
    p.onConnection chnl fun c => if c.state = .active then p.afterRead chnl c flush walk else p
  | .ping chnl sendPing checkReceived walk =>
    p.onConnection chnl fun c => p.handlePings chnl c sendPing checkReceived walk
  | .createPublisher symbol => { p with provider := p.provider.createPublisher symbol }
  | .publish symbol chnl written => if p.publishes symbol chnl then p.sendUPAMessage chnl written else p

def step (p : ProviderRun C) (e : ClientEvent C) : ProviderRun C :=
  if p.provider.stuck then p else p.handleEvent e

end ProviderRun

end RmdsBridge
