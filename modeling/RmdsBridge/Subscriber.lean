import RmdsBridge.BridgeSubscription
import RmdsBridge.Consumer
import RmdsBridge.TextTokens
import RmdsBridge.UnorderedMap

namespace RmdsBridge

structure RMDSSource where
  serviceName : String
  sourceDomain : SubscriptionType
  state : Bool := false
  acceptConnections : Bool := false
  subscriptions : UnorderedMap String ℕ := ∅

def sourceDomain (configDomain : String) : SubscriptionType :=
  let domain := configDomain.toLower
  if domain = "any" then .unknown
  else if domain = "mp" then .marketPrice
  else if domain = "mbp" then .marketByPrice
  else if domain = "mbo" then .marketByOrder
  else .unknown

structure RMDSSources where
  servicesMap : UnorderedMap ℕ RMDSSource := ∅
  serviceNameMap : UnorderedMap String ℕ := ∅

namespace RMDSSources

def find (s : RMDSSources) (keyName : String) : Option (ℕ × RMDSSource) :=
  (s.serviceNameMap.find keyName).bind fun keyId =>
    (s.servicesMap.find keyId).map fun src => (keyId, src)

def set (s : RMDSSources) (keyId : ℕ) (src : RMDSSource) : RMDSSources :=
  { s with servicesMap := s.servicesMap.insert keyId src }

/-- Whether a name is known under another id is not checked. -/
def create (s : RMDSSources) (keyId : ℕ) (keyName : String) (configDomain : String) : RMDSSources where
  servicesMap := s.servicesMap.insert keyId
    { serviceName := keyName, sourceDomain := sourceDomain configDomain }
  serviceNameMap := s.serviceNameMap.insert keyName keyId

end RMDSSources

inductive SubscriberState
  | unconnected
  | connecting
  | loggingin
  | requestingSourceDirectory
  | requestingDictionary
  | live
  | reconnecting
  deriving DecidableEq, Repr

structure RMDSBridgeSnapshot where
  sourceName : String
  symbol : String
  deriving DecidableEq, Repr

inductive Processing
  | idle
  | subscriptions
  | snapshots
  deriving DecidableEq, Repr

/-- The bridge subscriptions and the UPA subscriptions are told by the number of those created
before them. `upaSources` has the service id of the source of each UPA subscription. -/
structure RMDSSubscriber where
  configDomain : String → String := fun _ => "any"
  subscriberState : SubscriberState := .unconnected
  connected : Bool := false
  recovering : Bool := false
  sources : RMDSSources := {}
  bridges : List RMDSBridgeSubscription := []
  upaSources : List ℕ := []
  consumer : UPAConsumer ℕ ℕ := {}
  publisherRequestSubMap : UnorderedMap String ℕ := ∅
  pendingSubscriptions : List ℕ := []
  pendingSnapshots : List RMDSBridgeSnapshot := []
  badSourceFailures : Finset ℕ := ∅
  processing : Processing := .idle

def trim (s : String) : String := String.ofList (TextTokens.trim s.toList)

namespace RMDSSubscriber

def call (r : RMDSSubscriber) (e : Event ℕ ℕ) : RMDSSubscriber :=
  { r with consumer := r.consumer.step e }

def callAll (r : RMDSSubscriber) (src : RMDSSource) (e : ℕ → Event ℕ ℕ) : RMDSSubscriber :=
  src.subscriptions.entries.foldl (fun r x => r.call (e x.2)) r

def callSources (r : RMDSSubscriber) (e : ℕ → Event ℕ ℕ) : RMDSSubscriber :=
  r.sources.servicesMap.entries.foldl (fun r x => r.callAll x.2 e) r

def setAllStale (r : RMDSSubscriber) : RMDSSubscriber := r.callSources .setStale

def resubscribeAll (r : RMDSSubscriber) : RMDSSubscriber := r.callSources .reSubscribe

def setSourceState (r : RMDSSubscriber) (keyId : ℕ) (newState acceptConnections : Bool) :
    RMDSSubscriber :=
  match r.sources.servicesMap.find keyId with
  | none => r
  | some src =>
    let src' := { src with state := newState, acceptConnections := acceptConnections }
    let r := { r with sources := r.sources.set keyId src' }
    if src.state ∧ ¬ newState then r.callAll src .setStale
    else if ¬ src.state ∧ newState then r.callAll src .setLive
    else r

def updateOrCreate (r : RMDSSubscriber) (keyId : ℕ) (keyName : String)
    (state acceptConnections : Bool) : RMDSSubscriber :=
  let r :=
    if (r.sources.servicesMap.find keyId).isSome then r
    else { r with sources := r.sources.create keyId keyName (r.configDomain keyName) }
  r.setSourceState keyId state acceptConnections

def sourceDirectoryUpdate (r : RMDSSubscriber) (serviceId : ℕ) (serviceName : String)
    (serviceState acceptingRequests : Bool) : RMDSSubscriber :=
  r.updateOrCreate serviceId serviceName serviceState acceptingRequests

def connectionNotification (r : RMDSSubscriber) (connected requestLogin : Bool) : RMDSSubscriber :=
  let wasConnected := r.connected
  let r := { r with connected := connected }
  if connected then
    { r with subscriberState := if requestLogin then .loggingin else .unconnected }
  else if wasConnected then
    { r with subscriberState := .connecting, recovering := true }.setAllStale
  else { r with subscriberState := .unconnected }

def loginResponse (r : RMDSSubscriber) (loginSucceeded : Bool) : RMDSSubscriber :=
  { r with
    subscriberState := if r.connected && loginSucceeded then .requestingSourceDirectory
      else .unconnected }

def sourceDirectoryRefreshComplete (r : RMDSSubscriber) (succeeded : Bool) : RMDSSubscriber :=
  { r with subscriberState := if succeeded then .requestingDictionary else .unconnected }

def setLive (r : RMDSSubscriber) : RMDSSubscriber := { r with subscriberState := .live }

def dictionaryUpdate (r : RMDSSubscriber) (dictionaryComplete : Bool) : RMDSSubscriber :=
  if dictionaryComplete then
    let r := r.setLive
    if r.recovering then { r with recovering := false }.resubscribeAll else r
  else { r with subscriberState := .unconnected }

/-- A missing source or symbol comes as the empty text. -/
def addSubscription (r : RMDSSubscriber) (source symbol : String) (subscription : ℕ) :
    RMDSSubscriber :=
  if symbol = "" then
    if (r.publisherRequestSubMap.find source).isSome then r
    else { r with publisherRequestSubMap := r.publisherRequestSubMap.insert source subscription }
  else
    { r with
      bridges := r.bridges ++ [{ sourceName := trim source, symbol := trim symbol }]
      pendingSubscriptions := r.pendingSubscriptions ++ [r.bridges.length] }

def sendSnapshotRequest (r : RMDSSubscriber) (sourceName symbol : String) : RMDSSubscriber :=
  { r with pendingSnapshots := r.pendingSnapshots ++ [⟨sourceName, symbol⟩] }

def createSubscription (r : RMDSSubscriber) (keyId : ℕ) (symbol : String) : ℕ × RMDSSubscriber :=
  (r.upaSources.length, { r with
    upaSources := r.upaSources ++ [keyId]
    consumer := r.consumer.setSubscription r.upaSources.length { symbol := symbol } })

/-- The domain is set last, with which the UPA subscription may lose the first letter of its symbol,
the source not. -/
def createUpaSub (r : RMDSSubscriber) (keyId : ℕ) (src : RMDSSource) (b : ℕ) (symbol : String) :
    RMDSSubscriber :=
  let (upaSub, r) := r.createSubscription keyId symbol
  let src := { src with subscriptions := src.subscriptions.insert symbol upaSub }
  let r := { r with sources := r.sources.set keyId src }
  ((r.call (.setDomain upaSub src.sourceDomain)).call (.addListener upaSub b)).call (.open upaSub)

def joinUpaSub (r : RMDSSubscriber) (upaSub b : ℕ) : RMDSSubscriber :=
  let r := r.call (.addListener upaSub b)
  if (r.consumer.subscriptions upaSub).state = .live then r.call (.requestImage upaSub b) else r

def findSubscription (r : RMDSSubscriber) (source symbol : String) : Option ℕ :=
  (r.sources.find source).bind fun x => x.2.subscriptions.find symbol

def addSubscriptionToSource (r : RMDSSubscriber) (b : ℕ) (sub : RMDSBridgeSubscription) :
    RMDSSubscriber :=
  match r.sources.find sub.sourceName with
  | none => { r with badSourceFailures := insert b r.badSourceFailures }
  | some (keyId, src) =>
    match src.subscriptions.find sub.symbol with
    | some upaSub => r.joinUpaSub upaSub b
    | none => r.createUpaSub keyId src b sub.symbol

def addSnapshotToSource (r : RMDSSubscriber) (snap : RMDSBridgeSnapshot) : RMDSSubscriber :=
  match r.sources.find snap.sourceName with
  | none => r
  | some (keyId, src) =>
    let (upaSnap, r) := r.createSubscription keyId snap.symbol
    (r.call (.setDomain upaSnap src.sourceDomain)).call (.snapshot upaSnap)

/-- The start of a call, whose turns leave the lock to the clients in between. -/
def processPendingSubscriptions (r : RMDSSubscriber) : RMDSSubscriber :=
  if r.subscriberState = .live ∧ r.processing = .idle then { r with processing := .subscriptions }
  else r

def processPending (r : RMDSSubscriber) : RMDSSubscriber :=
  match r.processing with
  | .idle => r
  | .subscriptions =>
    match r.pendingSubscriptions with
    | [] => { r with processing := .snapshots }
    | b :: bs =>
      let r := { r with pendingSubscriptions := bs }
      match r.bridges[b]? with
      | some sub => r.addSubscriptionToSource b sub
      | none => r
  | .snapshots =>
    match r.pendingSnapshots with
    | [] => { r with processing := .idle }
    | snap :: snaps => { r with pendingSnapshots := snaps }.addSnapshotToSource snap

def leaveUpaSub (r : RMDSSubscriber) (keyId : ℕ) (src : RMDSSource) (upaSub b : ℕ)
    (symbol : String) : RMDSSubscriber :=
  let r := r.call (.removeListener upaSub b)
  if (r.consumer.subscriptions upaSub).listeners = [] then
    let src := { src with subscriptions := src.subscriptions.erase symbol }
    { r.call (.close upaSub) with sources := r.sources.set keyId src }
  else r

def removeSubscription (r : RMDSSubscriber) (b : ℕ) (sub : RMDSBridgeSubscription) :
    RMDSSubscriber :=
  match r.sources.find sub.sourceName with
  | none => { r with badSourceFailures := r.badSourceFailures.erase b }
  | some (keyId, src) =>
    match src.subscriptions.find sub.symbol with
    | none => r
    | some upaSub => r.leaveUpaSub keyId src upaSub b sub.symbol

end RMDSSubscriber

inductive SubscriberEvent
  | addSubscription (source symbol : String) (subscription : ℕ)
  | removeSubscription (b : ℕ)
  | sendSnapshotRequest (sourceName symbol : String)
  | processPendingSubscriptions
  | processPending
  | connectionNotification (connected requestLogin : Bool)
  | loginResponse (loginSucceeded : Bool)
  | sourceDirectoryUpdate (serviceId : ℕ) (serviceName : String) (serviceState : Bool)
      (acceptingRequests : Bool := false)
  | sourceDirectoryRefreshComplete (succeeded : Bool)
  | dictionaryUpdate (dictionaryComplete : Bool)
  | dispatch (outcome : SendOutcome)
  | respond (domain : Domain) (streamId : ℕ) (msg : RsslMsg)
  deriving DecidableEq, Repr

def RMDSSubscriber.step (r : RMDSSubscriber) : SubscriberEvent → RMDSSubscriber
  | .addSubscription source symbol subscription => r.addSubscription source symbol subscription
  | .removeSubscription b =>
    match r.bridges[b]? with
    | some sub => r.removeSubscription b sub
    | none => r
  | .sendSnapshotRequest sourceName symbol => r.sendSnapshotRequest sourceName symbol
  | .processPendingSubscriptions => r.processPendingSubscriptions
  | .processPending => r.processPending
  | .connectionNotification connected requestLogin => r.connectionNotification connected requestLogin
  | .loginResponse loginSucceeded => r.loginResponse loginSucceeded
  | .sourceDirectoryUpdate serviceId serviceName serviceState acceptingRequests =>
    r.sourceDirectoryUpdate serviceId serviceName serviceState acceptingRequests
  | .sourceDirectoryRefreshComplete succeeded => r.sourceDirectoryRefreshComplete succeeded
  | .dictionaryUpdate dictionaryComplete => r.dictionaryUpdate dictionaryComplete
  | .dispatch outcome => r.call (.dispatch outcome)
  | .respond domain streamId msg => r.call (.respond domain streamId msg)

end RmdsBridge
