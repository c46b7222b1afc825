import RmdsBridge.DictionaryReplies
import RmdsBridge.DirectoryFields
import RmdsBridge.DirectoryTracking
import RmdsBridge.Session

namespace RmdsBridge

inductive UpaRequest
  | login
  | sourceDirectory
  | dictionary
  | clientDictionary
  deriving DecidableEq, Repr

inductive ConsumerMsg
  | login (msg : LoginRequestMsg)
  | sourceDirectory (key : DirectoryKey)
  | dictionary (kind : DictionaryKind)
  deriving DecidableEq, Repr

inductive ProviderMsg
  | login (msg : LoginRefreshMsg)
  | loginStatus (state : LoginState)
  | sourceDirectory (map : List ServiceEntry)
  | sourceDirectoryStatus
  deriving DecidableEq, Repr

structure BridgePair (Q S Raw Part : Type*) where
  api : RsslDirectoryApi Q S
  dictionaryApi : RsslDictionaryApi Raw Part
  login : LoginSettings
  acceptsPosts : Bool
  source : ServiceSource Q S

/-- `upaChannel` is set while the consumer has a channel and `served` while the provider has not closed
it. The messages are those under way, in their order. -/
structure Handshake (Raw : Type*) where
  subscriber : RMDSSubscriber := {}
  upaDictionary : UPADictionary Raw
  login : UPALogin := {}
  runThread : Bool := true
  upaChannel : Bool := false
  served : Bool := false
  upaRequestQueue : List UpaRequest := []
  toProvider : List ConsumerMsg := []
  toConsumer : List ProviderMsg := []

def SubscriberEvent.isTraffic : SubscriberEvent → Bool
  | .addSubscription _ _ _ | .removeSubscription _ | .sendSnapshotRequest _ _ | .processPendingSubscriptions
  | .processPending | .dispatch _ | .respond _ _ _ => true
  | .connectionNotification _ _ | .loginResponse _ | .sourceDirectoryUpdate _ _ _ _
  | .sourceDirectoryRefreshComplete _ | .dictionaryUpdate _ => false

/-- `queued` is that an event could be enqueued, `written` that a message was sent; `r` is what the
provider's record for a login request held before. -/
inductive HandshakeEvent
  | connect (queued : Bool)
  | recoverConnection
  | dispatch (written : Bool) (sends : DictionaryKind → Bool)
  | provide (written : Bool) (r : RsslLoginRequestInfo)
  | deliver (queued : Bool)
  | setDictionaryReply (queued : Bool)
  | traffic (e : {e : SubscriberEvent // e.isTraffic})

def HandshakeEvent.Undisturbed : HandshakeEvent → Prop
  | .connect _ | .recoverConnection => False
  | .dispatch written _ => written = true
  | .provide written _ => written = true
  | .deliver queued => queued = true
  | .setDictionaryReply _ | .traffic _ => True

def toName (t : DirectoryText) : String := String.ofList (t.bytes.map fun b => Char.ofNat b.toNat)

def ServiceInfo.responseInfo {Q S : Type*} (info : ServiceInfo Q S) : RsslSourceDirectoryResponseInfo where
  serviceId := info.serviceId
  serviceName := toName info.general.serviceName
  serviceState := info.state.serviceState.toNat
  acceptingRequests := info.state.acceptingRequests.toNat

namespace Handshake

variable {Q S Raw Part : Type*} (b : BridgePair Q S Raw Part)

def enqueue (s : Handshake Raw) (request : UpaRequest) (queued : Bool) : Handshake Raw :=
  if queued then { s with upaRequestQueue := s.upaRequestQueue ++ [request] } else s

def connect (s : Handshake Raw) (queued : Bool) : Handshake Raw :=
  if s.runThread then
    { s with
      subscriber := s.subscriber.connectionNotification true queued
      upaChannel := true
      served := true
      toProvider := []
      toConsumer := [] }.enqueue .login queued
  else s

/-- The requests that are queued stay there. -/
def recoverConnection (s : Handshake Raw) : Handshake Raw :=
  { s with
    subscriber := s.subscriber.connectionNotification false false
    upaChannel := false
    served := false
    toProvider := []
    toConsumer := [] }

def send (s : Handshake Raw) (msgs : List ConsumerMsg) : Handshake Raw :=
  if s.upaChannel ∧ s.served then { s with toProvider := s.toProvider ++ msgs } else s

/-- The callbacks: `LoginRequestCb`, `SourceDirectoryRequestCb`, `DictionaryRequestCb` and
`ClientDictionaryRequestCb`. -/
def requestCb (s : Handshake Raw) (written : Bool) (sends : DictionaryKind → Bool) :
    UpaRequest → Handshake Raw
  | .login =>
    if written then
      s.send [.login (b.api.encodeLoginRequest b.login.disableDataConversion b.login.loginReqInfo)]
    else s
  | .sourceDirectory =>
    if written then s.send [.sourceDirectory RsslDirectoryApi.encodeSourceDirectoryRequest] else s
  | .dictionary => s.send ((s.upaDictionary.sendRequest sends).map .dictionary)
  | .clientDictionary =>
    if s.upaDictionary.isComplete b.dictionaryApi then
      { s with subscriber := s.subscriber.dictionaryUpdate true }
    else s

def dispatch (s : Handshake Raw) (written : Bool) (sends : DictionaryKind → Bool) : Handshake Raw :=
  if s.runThread then
    match s.upaRequestQueue with
    | [] => s
    | request :: rest => { s with upaRequestQueue := rest }.requestCb b written sends request
  else s

def answer (s : Handshake Raw) (msg : ProviderMsg) : Handshake Raw :=
  { s with toConsumer := s.toConsumer ++ [msg] }

def removeChannelConnection (s : Handshake Raw) : Handshake Raw :=
  { s with served := false, toProvider := [] }

/-- A refresh of the directory that is not sent is not reported; a dictionary request is not answered. -/
def processRequest (s : Handshake Raw) (written : Bool) (r : RsslLoginRequestInfo) :
    ConsumerMsg → Handshake Raw
  | .login m =>
    match b.api.processLoginRequest b.acceptsPosts r m with
    | .rejected _ state => if written then s.answer (.loginStatus state) else s
    | .failed => s.removeChannelConnection
    | .accepted a => if written then s.answer (.login a) else s.removeChannelConnection
  | .sourceDirectory key =>
    match b.api.processSourceDirectoryRequest b.source key with
    | .rejected => if written then s.answer .sourceDirectoryStatus else s.removeChannelConnection
    | .nothing => s
    | .refresh map => if written then s.answer (.sourceDirectory map) else s
  | .dictionary _ => s

def provide (s : Handshake Raw) (written : Bool) (r : RsslLoginRequestInfo) : Handshake Raw :=
  match s.toProvider with
  | [] => s
  | msg :: rest => { s with toProvider := rest }.processRequest b written r msg

def loginResponse (s : Handshake Raw) (queued loginSucceeded : Bool) : Handshake Raw :=
  let s := { s with subscriber := s.subscriber.loginResponse loginSucceeded }
  if s.subscriber.connected && loginSucceeded then s.enqueue .sourceDirectory queued else s

/-- The suspect state keeps back items only, and a connected consumer has no recovery to give up. -/
def loginCase (queued : Bool) : LoginCase (Handshake Raw) where
  login := login
  setLogin s o := o.notified.elim { s with login := o.login } ({ s with login := o.login }.loginResponse queued)
  setSuspect s _ := s
  giveUp s := s
  recoverConnection := recoverConnection

def receiveLogin (s : Handshake Raw) (queued : Bool) (m : LoginMsg) : Handshake Raw :=
  match (loginCase queued).processLogin s m with
  | (true, s) => s
  | (false, s) => { s with runThread := false }

def requestDictionary (s : Handshake Raw) (queued : Bool) : Handshake Raw :=
  if s.upaDictionary.isComplete b.dictionaryApi then
    { s with subscriber := s.subscriber.dictionaryUpdate true }
  else s.enqueue .dictionary queued

def receiveSourceDirectory (s : Handshake Raw) (queued : Bool) (map : List ServiceEntry) : Handshake Raw :=
  let (infos, ok) := b.api.decodeSourceDirectoryResponse map
  let r := infos.foldl (fun r info => r.sourceDirectoryInfo info.responseInfo) s.subscriber
  let s := { s with subscriber := r.sourceDirectoryRefreshComplete ok }
  if ok then s.requestDictionary b queued else { s with runThread := false }

def processResponse (s : Handshake Raw) (queued : Bool) : ProviderMsg → Handshake Raw
  | .login a => s.receiveLogin queued (b.api.loginMsg a)
  | .loginStatus state => s.receiveLogin queued (.status (some state))
  | .sourceDirectory map => s.receiveSourceDirectory b queued map
  | .sourceDirectoryStatus => s

def deliver (s : Handshake Raw) (queued : Bool) : Handshake Raw :=
  if s.runThread then
    match s.toConsumer with
    | [] => s
    | msg :: rest => { s with toConsumer := rest }.processResponse b queued msg
  else s

def step (s : Handshake Raw) : HandshakeEvent → Handshake Raw
  | .connect queued => s.connect queued
  | .recoverConnection => s.recoverConnection
  | .dispatch written sends => s.dispatch b written sends
  | .provide written r => s.provide b written r
  | .deliver queued => s.deliver b queued
  | .setDictionaryReply queued => s.enqueue .clientDictionary queued
  | .traffic e => { s with subscriber := s.subscriber.step e }

end Handshake

end RmdsBridge
