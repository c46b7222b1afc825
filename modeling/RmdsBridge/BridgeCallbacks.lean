import RmdsBridge.Subscriber

namespace RmdsBridge

inductive BridgeCallback
  | onMsg (b : ℕ)
  | onError (b : ℕ)
  | onQuality (b : ℕ)
  | onDestroy (b : ℕ)
  deriving DecidableEq, Repr

def BridgeCallback.bridge : BridgeCallback → ℕ
  | .onMsg b | .onError b | .onQuality b | .onDestroy b => b

def RMDSBridgeSubscription.shutdown (b : RMDSBridgeSubscription) : RMDSBridgeSubscription :=
  { b with isShutdown := true }

namespace RMDSSubscriber

def isShutdown (r : RMDSSubscriber) (b : ℕ) : Bool := r.bridges[b]?.any fun sub => sub.isShutdown

def badSource (r : RMDSSubscriber) : Option ℕ :=
  if r.processing = .subscriptions then
    r.pendingSubscriptions.head?.filter fun b =>
      r.bridges[b]?.any fun sub => (r.sources.find sub.sourceName).isNone
  else none

/-- The refresh that a listener asked for goes to the listeners at once, even when messages are queued. -/
def answersImage (r : RMDSSubscriber) : SubscriberEvent → Bool
  | .respond domain streamId (.refresh _ _) =>
    (r.consumer.target domain streamId).any fun u => (r.consumer.subscriptions u).isRefresh
  | _ => false

end RMDSSubscriber

/-- A subscriber with the callbacks that it has made, and those that wait on the clients' queues.
`destroyRequests` are on the queue of the consumer, each behind a number of its requests. -/
structure BridgeCallbacks where
  asyncMessaging : Bool
  queueOf : ℕ → ℕ
  subscriber : RMDSSubscriber
  destroyRequests : List (ℕ × ℕ) := []
  queues : ℕ → List BridgeCallback := fun _ => []
  calls : List BridgeCallback := []
  destroyed : Finset ℕ := ∅

namespace BridgeCallbacks

def call (s : BridgeCallbacks) (c : BridgeCallback) : BridgeCallbacks :=
  { s with calls := s.calls ++ [c] }

def enqueueEvent (s : BridgeCallbacks) (c : BridgeCallback) : BridgeCallbacks :=
  { s with
    queues := Function.update s.queues (s.queueOf c.bridge) (s.queues (s.queueOf c.bridge) ++ [c]) }

def setBridge (s : BridgeCallbacks) (b : ℕ) (f : RMDSBridgeSubscription → RMDSBridgeSubscription) :
    BridgeCallbacks :=
  { s with subscriber := { s.subscriber with bridges := s.subscriber.bridges.modify b f } }

def onMessage (s : BridgeCallbacks) (async : Bool) (b : ℕ) (msgType : MamaMsgType) : BridgeCallbacks :=
  match s.subscriber.bridges[b]? with
  | none => s
  | some sub =>
    let s' := s.setBridge b fun _ => (sub.onMessage msgType).2
    if (sub.onMessage msgType).1 then
      if async then s'.enqueueEvent (.onMsg b) else s'.call (.onMsg b)
    else s'

/-- `OnError`, `OnQuality` and `SendStatusMessage`. -/
def callOpen (s : BridgeCallbacks) (c : BridgeCallback) : BridgeCallbacks :=
  if s.subscriber.isShutdown c.bridge then s else s.call c

/-- Only what `NotifyListenersMessage` sends is queued. -/
def notice (async : MamaMsgType → Bool) (s : BridgeCallbacks) : Notice ℕ → BridgeCallbacks
  | .message b msgType => s.onMessage (async msgType) b msgType
  | .status b => s.callOpen (.onMsg b)
  | .error b _ => s.callOpen (.onError b)
  | .quality b _ => s.callOpen (.onQuality b)

def async (s : BridgeCallbacks) (e : SubscriberEvent) (msgType : MamaMsgType) : Bool :=
  s.asyncMessaging && (msgType = .secStatus || !s.subscriber.answersImage e)

/-- `AddSubscriptionToSource` calls the `onError` of a client itself. -/
def reject (s : BridgeCallbacks) : SubscriberEvent → BridgeCallbacks
  | .processPending =>
    match s.subscriber.badSource with
    | some b => s.call (.onError b)
    | none => s
  | _ => s

def subscriberStep (s : BridgeCallbacks) (e : SubscriberEvent) : BridgeCallbacks :=
  let subscriber := s.subscriber.step e
  let notices := subscriber.consumer.notices.drop s.subscriber.consumer.notices.length
  notices.foldl (notice (s.async e)) { s.reject e with subscriber := subscriber }

def findListener (s : BridgeCallbacks) (upaSub b : ℕ) : Bool :=
  b ∈ (s.subscriber.consumer.subscriptions upaSub).listeners

def queueSubscriptionDestroy (s : BridgeCallbacks) (upaSub b : ℕ) : BridgeCallbacks :=
  if (s.subscriber.consumer.subscriptions upaSub).consumer then
    { s with
      destroyRequests := s.destroyRequests ++ [(s.subscriber.consumer.requestQueue.length, b)] }
  else s

def destroy (s : BridgeCallbacks) (b : ℕ) : BridgeCallbacks :=
  match s.subscriber.bridges[b]? with
  | none => s
  | some sub =>
    let s' :=
      match s.subscriber.findSubscription sub.sourceName sub.symbol with
      | some upaSub => if s.findListener upaSub b then s.queueSubscriptionDestroy upaSub b else s
      | none => s.call (.onDestroy b)
    { s'.subscriberStep (.removeSubscription b) with destroyed := insert b s.destroyed }

def dispatch (s : BridgeCallbacks) (outcome : SendOutcome) : BridgeCallbacks :=
  match s.destroyRequests with
  | (0, b) :: requests => { s with destroyRequests := requests }.enqueueEvent (.onDestroy b)
  | requests =>
    { s.subscriberStep (.dispatch outcome) with
      destroyRequests := requests.map fun d => (d.1 - 1, d.2) }

def dispatchQueue (s : BridgeCallbacks) (queue : ℕ) : BridgeCallbacks :=
  match s.queues queue with
  | [] => s
  | c :: cs => { s with queues := Function.update s.queues queue cs }.call c

end BridgeCallbacks

/-- `removeSubscription` is a call of `destroy` here; `pauseUpdates` is for one of the listeners of a source. -/
inductive BridgeEvent
  | subscriber (e : SubscriberEvent)
  | mute (b : ℕ)
  | pauseUpdates (b : ℕ) (paused : Bool)
  | dispatchQueue (queue : ℕ)
  deriving DecidableEq, Repr

namespace BridgeCallbacks

def step (s : BridgeCallbacks) : BridgeEvent → BridgeCallbacks
  | .subscriber (.removeSubscription b) => s.destroy b
  | .subscriber (.dispatch outcome) => s.dispatch outcome
  | .subscriber e => s.subscriberStep e
  | .mute b => s.setBridge b RMDSBridgeSubscription.shutdown
  | .pauseUpdates b paused => s.setBridge b fun sub => { sub with pausedUpdates := paused }
  | .dispatchQueue queue => s.dispatchQueue queue

def start (asyncMessaging : Bool) (queueOf : ℕ → ℕ) (configDomain : String → String)
    (config : TransportConfig) : BridgeCallbacks where
  asyncMessaging := asyncMessaging
  queueOf := queueOf
  subscriber := { configDomain, consumer := { config } }

end BridgeCallbacks

end RmdsBridge
