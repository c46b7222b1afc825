import RmdsBridge.Runs
import RmdsBridge.Subscription

namespace RmdsBridge

inductive SendOutcome
  | noBuffer
  | encodeFailed
  | sendFailed
  | sent
  deriving DecidableEq, Repr

namespace Handling

variable {P L : Type} [DecidableEq P]

/-- A subscription keeps the stream id that it has, released or not. -/
def takeStreamId (this : P) (h : Handling P L) : Handling P L :=
  if h.sub.streamId = 0 then
    { h with
      manager := (h.manager.addItem this).2
      sub := { h.sub with streamId := (h.manager.addItem this).1 } }
  else h

def addPendingItem (this : P) (h : Handling P L) : Handling P L :=
  { h with manager := h.manager.addPendingItem this }

def sendOpenRequest (this : P) (h : Handling P L) (o : SendOutcome) : Bool × Handling P L :=
  let h := h.takeStreamId this
  if h.sub.streamId = 0 then (false, h.notifyListenersError .platform)
  else if o = .noBuffer then (true, h)
  else if o = .encodeFailed ∨ h.sub.subscriptionType = .unknown then
    (false, h.notifyListenersError .platform)
  else if o = .sendFailed then (false, (h.addPendingItem this).removePendingItem this)
  else (true, h.addPendingItem this)

def Closes (sub : UPASubscription L) (o : SendOutcome) : Prop :=
  o = .sent ∧ sub.subscriptionType ≠ .unknown

instance (sub : UPASubscription L) (o : SendOutcome) : Decidable (Closes sub o) :=
  inferInstanceAs (Decidable (_ ∧ _))

def closeStream (h : Handling P L) (o : SendOutcome) : Handling P L :=
  if Closes h.sub o then { h with manager := h.manager.decOpenItems } else h

def releaseStreamId (h : Handling P L) : Handling P L :=
  { h with manager := h.manager.releaseStreamId h.sub.streamId }

def sendCloseRequest (this : P) (h : Handling P L) (o : SendOutcome) : Handling P L :=
  let h := { h with manager := h.manager.decPendingCloses }
  if h.sub.streamId = 0 then h
  else
    let h := (h.closeStream o).releaseStreamId
    if h.sub.state = .subscribing then h.removePendingItem this else h

end Handling

inductive RequestKind
  | open
  | snapshot
  | refresh
  | close
  deriving DecidableEq, Repr

def UPASubscription.Wants {L : Type} (sub : UPASubscription L) : RequestKind → Prop
  | .open | .snapshot => sub.state = .subscribing
  | .refresh => sub.state = .subscribing ∨ sub.state = .live
  | .close => True

instance {L : Type} (sub : UPASubscription L) : (k : RequestKind) → Decidable (sub.Wants k)
  | .open | .snapshot => inferInstanceAs (Decidable (_ = _))
  | .refresh => inferInstanceAs (Decidable (_ ∨ _))
  | .close => inferInstanceAs (Decidable True)

structure Request (P : Type) where
  kind : RequestKind
  sub : P
  deriving DecidableEq, Repr

inductive Domain
  | marketPrice
  | marketByOrder
  | marketByPrice
  deriving DecidableEq, Repr

inductive Event (P L : Type)
  | setDomain (sub : P) (domain : SubscriptionType)
  | addListener (sub : P) (listener : L)
  | removeListener (sub : P) (listener : L)
  | open (sub : P)
  | bridgeOpen (sub : P)
  | reSubscribe (sub : P)
  | snapshot (sub : P)
  | requestImage (sub : P) (listener : L)
  | close (sub : P)
  | setStale (sub : P)
  | setLive (sub : P)
  | dispatch (outcome : SendOutcome)
  | respond (domain : Domain) (streamId : ℕ) (msg : RsslMsg)
  deriving DecidableEq, Repr

structure UPAConsumer (P L : Type) where
  subscriptions : P → UPASubscription L := fun _ => {}
  streamManager : UPAStreamManager P := {}
  requestQueue : List (Request P) := []
  config : TransportConfig := {}
  notices : List (Notice L) := []

namespace UPAConsumer

variable {P L : Type} [DecidableEq P] [DecidableEq L]

def setSubscription (c : UPAConsumer P L) (s : P) (sub : UPASubscription L) : UPAConsumer P L :=
  { c with subscriptions := Function.update c.subscriptions s sub }

def handling (c : UPAConsumer P L) (s : P) : Handling P L :=
  { manager := c.streamManager, sub := c.subscriptions s }

def handle (c : UPAConsumer P L) (s : P) (h : Handling P L) : UPAConsumer P L :=
  { c with
    subscriptions := Function.update c.subscriptions s h.sub
    streamManager := h.manager
    notices := c.notices ++ h.notices }

def enqueue (c : UPAConsumer P L) (r : Request P) : UPAConsumer P L :=
  { c with requestQueue := c.requestQueue ++ [r] }

def openSub (c : UPAConsumer P L) (s : P) : UPAConsumer P L :=
  (c.setSubscription s ((c.subscriptions s).opened c.config)).enqueue ⟨.open, s⟩

def bridgeOpen (c : UPAConsumer P L) (s : P) : UPAConsumer P L :=
  if (c.subscriptions s).state = .inactive then c.openSub s else c

def reSubscribe (c : UPAConsumer P L) (s : P) : UPAConsumer P L := c.openSub s

def snapshot (c : UPAConsumer P L) (s : P) : UPAConsumer P L :=
  (c.setSubscription s { c.subscriptions s with
    state := .subscribing
    consumer := true
    isSnapshot := true
    snapShot := true }).enqueue ⟨.snapshot, s⟩

def refresh (c : UPAConsumer P L) (s : P) (l : L) : UPAConsumer P L :=
  (c.setSubscription s ((c.subscriptions s).refresh l)).enqueue ⟨.refresh, s⟩

def requestImage (c : UPAConsumer P L) (s : P) (l : L) : UPAConsumer P L := c.refresh s l

/-- The consumer is not set when the subscription was never opened. -/
def queueCloseRequest (c : UPAConsumer P L) (s : P) : UPAConsumer P L :=
  if (c.subscriptions s).consumer then
    { c.enqueue ⟨.close, s⟩ with streamManager := c.streamManager.incPendingCloses }
  else c

def close (c : UPAConsumer P L) (s : P) : UPAConsumer P L :=
  (c.setSubscription s { c.subscriptions s with state := .inactive }).queueCloseRequest s

def sendRequest (c : UPAConsumer P L) (r : Request P) (o : SendOutcome) : UPAConsumer P L :=
  if (c.subscriptions r.sub).Wants r.kind then
    if r.kind = .close then c.handle r.sub ((c.handling r.sub).sendCloseRequest r.sub o)
    else c.handle r.sub ((c.handling r.sub).sendOpenRequest r.sub o).2
  else c

def dispatch (c : UPAConsumer P L) (o : SendOutcome) : UPAConsumer P L :=
  match c.requestQueue with
  | [] => c
  | r :: rs => { c with requestQueue := rs }.sendRequest r o

def processResponse (this : P) (h : Handling P L) (domain : Domain) (msg : RsslMsg) :
    Handling P L :=
  match domain with
  | .marketPrice => h.processMarketPriceResponse this msg
  | .marketByOrder => h.processMarketByOrderResponse this msg
  | .marketByPrice => h.processMarketByPriceResponse this msg

/-- The subscription that a response is for. A market price response with a stream id below 16
is an ack to an off-stream post. -/
def target (c : UPAConsumer P L) (domain : Domain) (streamId : ℕ) : Option P :=
  if domain = .marketPrice ∧ streamId < 16 then none else c.streamManager.getItem streamId

def respond (c : UPAConsumer P L) (domain : Domain) (streamId : ℕ) (msg : RsslMsg) :
    UPAConsumer P L :=
  match c.target domain streamId with
  | none => c
  | some s => c.handle s (processResponse s (c.handling s) domain msg)

def step (c : UPAConsumer P L) : Event P L → UPAConsumer P L
  | .setDomain s domain => c.setSubscription s ((c.subscriptions s).setDomain domain)
  | .addListener s l => c.setSubscription s ((c.subscriptions s).addListener l)
  | .removeListener s l => c.setSubscription s ((c.subscriptions s).removeListener l)
  | .open s => c.openSub s
  | .bridgeOpen s => c.bridgeOpen s
  | .reSubscribe s => c.reSubscribe s
  | .snapshot s => c.snapshot s
  | .requestImage s l => c.requestImage s l
  | .close s => c.close s
  | .setStale s => c.handle s (c.handling s).setStale
  | .setLive s => c.handle s (c.handling s).setLive
  | .dispatch o => c.dispatch o
  | .respond domain streamId msg => c.respond domain streamId msg

end UPAConsumer

end RmdsBridge
