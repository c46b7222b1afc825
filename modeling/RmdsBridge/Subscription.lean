import RmdsBridge.StreamManager

namespace RmdsBridge

inductive RsslStreamState
  | open
  | nonStreaming
  | closed
  | other
  deriving DecidableEq, Repr

inductive RsslDataState
  | noChange
  | ok
  | suspect
  deriving DecidableEq, Repr

/-- `code36` is seen from an RTIC, it is not defined in the state codes. -/
inductive RsslStateCode
  | none
  | notFound
  | timeout
  | notEntitled
  | preempted
  | code36
  | other
  deriving DecidableEq, Repr

structure RsslState where
  streamState : RsslStreamState
  dataState : RsslDataState
  code : RsslStateCode
  deriving DecidableEq, Repr

inductive UpdateType
  | quote
  | trade
  | other
  deriving DecidableEq, Repr

/-- An item message, with whether its payload decodes; a MarketFeed or ANSI container counts as one that
does, as its stub lets the message go on without fields. An update carries the data state that the handlers
read from it as if it were a refresh. -/
inductive RsslMsg
  | refresh (state : RsslState) (decodes : Bool)
  | update (updateType : UpdateType) (readState : RsslDataState) (decodes : Bool)
  | status (state : Option RsslState)
  | ack
  | other
  deriving DecidableEq, Repr

inductive MamaMsgType
  | initial
  | snapshot
  | quote
  | trade
  | update
  | recap
  | bookInitial
  | bookSnapshot
  | bookUpdate
  | bookRecap
  | secStatus
  deriving DecidableEq, Repr

inductive MamaStatus
  | notFound
  | notEntitled
  | timeout
  | platform
  deriving DecidableEq, Repr

inductive Notice (L : Type)
  | message (listener : L) (msgType : MamaMsgType)
  | status (listener : L)
  | error (listener : L) (status : MamaStatus)
  | quality (listener : L) (ok : Bool)
  deriving DecidableEq, Repr

inductive SubscriptionState
  | inactive
  | subscribing
  | live
  | stale
  deriving DecidableEq, Repr

inductive SubscriptionType
  | unknown
  | marketPrice
  | marketByPrice
  | marketByOrder
  deriving DecidableEq, Repr

structure TransportConfig where
  sendRecapOnDuplicate : Bool := true
  useCallbacks : Bool := false
  sendAckMessages : Bool := true
  deriving DecidableEq, Repr

structure UPASubscription (L : Type) where
  symbol : String := ""
  subscriptionType : SubscriptionType := .unknown
  state : SubscriptionState := .inactive
  streamId : ℕ := 0
  gotInitial : Bool := false
  isSnapshot : Bool := false
  isRefresh : Bool := false
  snapShot : Bool := false
  subscription : Option L := none
  consumer : Bool := false
  listeners : List L := []
  sendRecap : Bool := true
  useCallbacks : Bool := false
  sendAckMessages : Bool := true

def UPASubscription.addListener {L : Type} (sub : UPASubscription L) (l : L) : UPASubscription L :=
  { sub with listeners := sub.listeners ++ [l] }

def UPASubscription.removeListener {L : Type} [DecidableEq L] (sub : UPASubscription L) (l : L) :
    UPASubscription L :=
  { sub with listeners := sub.listeners.erase l }

/-- A source whose domain is not known tells it by the first letter of its symbols. -/
def UPASubscription.setDomain {L : Type} (sub : UPASubscription L) (domain : SubscriptionType) :
    UPASubscription L :=
  if domain = .unknown then
    match sub.symbol.toList with
    | 's' :: symbol => { sub with symbol := String.ofList symbol, subscriptionType := .marketByPrice }
    | 'b' :: symbol => { sub with symbol := String.ofList symbol, subscriptionType := .marketByOrder }
    | _ => { sub with subscriptionType := .marketPrice }
  else { sub with subscriptionType := domain }

def UPASubscription.opened {L : Type} (sub : UPASubscription L) (config : TransportConfig) :
    UPASubscription L :=
  { sub with
    state := .subscribing
    consumer := true
    sendRecap := config.sendRecapOnDuplicate
    useCallbacks := config.useCallbacks
    sendAckMessages := config.sendAckMessages }

/-- `Refresh`: the one outstanding request is the last one. -/
def UPASubscription.refresh {L : Type} (sub : UPASubscription L) (subRequest : L) :
    UPASubscription L :=
  { sub with consumer := true, isRefresh := true, subscription := some subRequest }

/-- A subscription that handles a message: the stream manager, itself, and the calls it has made. -/
structure Handling (P L : Type) where
  manager : UPAStreamManager P
  sub : UPASubscription L
  notices : List (Notice L) := []

namespace Handling

variable {P L : Type} [DecidableEq P] [DecidableEq L]

def setState (h : Handling P L) (s : SubscriptionState) : Handling P L :=
  { h with sub := { h.sub with state := s } }

def removePendingItem (this : P) (h : Handling P L) : Handling P L :=
  { h with manager := h.manager.removePendingItem this }

def notify (h : Handling P L) (call : L → Notice L) : Handling P L :=
  { h with notices := h.notices ++ h.sub.listeners.map call }

def notifyListenersMessage (h : Handling P L) (t : MamaMsgType) : Handling P L :=
  h.notify fun l => .message l t

def notifyListenersError (h : Handling P L) (s : MamaStatus) : Handling P L :=
  h.notify fun l => .error l s

def refreshNotice (sub : UPASubscription L) (bookMessage : Bool) (l : L) : Option (Notice L) :=
  if sub.subscription = some l then
    some (.message l (if bookMessage then .bookInitial else .initial))
  else if sub.sendRecap then some (.message l (if bookMessage then .bookRecap else .recap))
  else none

/-- The handlers call it without `bookMessage`, which is false by default. -/
def notifyListenersRefreshMessage (h : Handling P L) (bookMessage : Bool := false) :
    Handling P L :=
  { h with notices := h.notices ++ h.sub.listeners.filterMap (refreshNotice h.sub bookMessage) }

def notifyState (h : Handling P L) (ok : Bool) : Handling P L :=
  let h := if h.sub.sendAckMessages then h.notifyListenersMessage .secStatus else h
  if h.sub.useCallbacks then h.notify fun l => .quality l ok else h

def setStale (h : Handling P L) : Handling P L :=
  if h.sub.state = .inactive then h else (h.setState .stale).notifyState false

def setLive (h : Handling P L) : Handling P L :=
  if h.sub.state = .inactive then h else (h.setState .live).notifyState true

def countLive (h : Handling P L) : Handling P L :=
  { h.setState .live with manager := h.manager.incOpenItems }

def setRsslState (h : Handling P L) (s : RsslState) : Bool × Handling P L :=
  if s.streamState = .closed ∧ (s.code = .notFound ∨ s.code = .code36) then
    (false, h.notifyListenersError .notFound)
  else if s.streamState = .closed ∧ s.code = .none ∧ s.dataState = .suspect then
    (false, h.notifyListenersError .notFound)
  else if s.streamState = .closed ∧ s.code = .notEntitled then
    (false, h.notifyListenersError .notEntitled)
  else if s.streamState = .closed ∧ s.code = .timeout then
    (false, h.notifyListenersError .timeout)
  else if s.streamState = .nonStreaming then
    (true, if h.sub.snapShot then (h.notify .status).setState .inactive else h)
  else if s.streamState = .open ∧ s.code = .preempted then
    (false, h.notifyListenersError .platform)
  else if s.streamState = .open ∧ s.dataState = .suspect then (true, h.setStale)
  else if s.streamState = .open ∧ s.dataState = .ok ∧ h.sub.state = .stale then (true, h.setLive)
  else if s.streamState = .open ∧ s.dataState = .noChange then
    (true, if h.sub.state = .subscribing then h.countLive else h)
  else if s.streamState = .open ∧ s.dataState = .ok ∧ h.sub.state = .subscribing then
    (true, h.countLive)
  else (decide (s.streamState = .open ∧ s.dataState = .ok), h)

/-- `SnapShot_->OnMessage`, whose last act is `CompleteSnapshot`. -/
def completeSnapshot (h : Handling P L) : Handling P L :=
  if h.sub.snapShot then
    { h with
      manager := h.manager.releaseStreamId h.sub.streamId
      sub := { h.sub with snapShot := false } }
  else h

def messageType (sub : UPASubscription L) (image : Bool) (updateType : UpdateType)
    (bookMessage : Bool) : MamaMsgType :=
  if bookMessage then
    if sub.isSnapshot then .bookSnapshot else if image then .bookInitial else .bookUpdate
  else
    if sub.isSnapshot then .snapshot
    else if image then .initial
    else match updateType with
      | .quote => .quote
      | .trade => .trade
      | .other => .update

def StaleToLive (sub : UPASubscription L) (dataState : RsslDataState) : Prop :=
  sub.state = .stale ∧ dataState = .ok

instance (sub : UPASubscription L) (dataState : RsslDataState) :
    Decidable (StaleToLive sub dataState) :=
  inferInstanceAs (Decidable (_ ∧ _))

def goLive (h : Handling P L) (dataState : RsslDataState) : Handling P L :=
  if StaleToLive h.sub dataState then h.setState .live else h

def sendData (h : Handling P L) (isRefreshMsg : Bool) (msgType : MamaMsgType) : Handling P L :=
  if h.sub.isSnapshot then h.completeSnapshot
  else if h.sub.isRefresh && isRefreshMsg then
    let h := h.notifyListenersRefreshMessage
    { h with sub := { h.sub with isRefresh := false, subscription := none } }
  else h.notifyListenersMessage msgType

def deliver (h : Handling P L) (bookMessage isRefreshMsg : Bool) (dataState : RsslDataState)
    (updateType : UpdateType) (decodes : Bool) : Handling P L :=
  -- an update that makes a stale stream live is shown to the clients as an image
  let image := isRefreshMsg || decide (StaleToLive h.sub dataState)
  if decodes then
    (h.goLive dataState).sendData isRefreshMsg (messageType h.sub image updateType bookMessage)
  else h.goLive dataState

def respondInactive (this : P) (h : Handling P L) : Handling P L :=
  if h.sub.gotInitial then h else h.removePendingItem this

def gotResponse (this : P) (h : Handling P L) : Handling P L :=
  { h.removePendingItem this with sub := { h.sub with gotInitial := true } }

def answerRefresh (this : P) (h : Handling P L) : Handling P L :=
  if h.sub.isRefresh then h.removePendingItem this else h

def processMarketPriceMsg (this : P) (h : Handling P L) (msg : RsslMsg) : Handling P L :=
  match msg with
  | .refresh s decodes =>
    let r := (h.answerRefresh this).setRsslState s
    if r.1 then r.2.deliver false true s.dataState .other decodes else r.2
  | .update updateType readState decodes => h.deliver false false readState updateType decodes
  | .status none => h
  | .status (some s) => if h.sub.isSnapshot then h.completeSnapshot else (h.setRsslState s).2
  | .ack | .other => h

def processMarketPriceResponse (this : P) (h : Handling P L) (msg : RsslMsg) : Handling P L :=
  if h.sub.state = .inactive then h.respondInactive this
  else if h.sub.state = .subscribing ∨ h.sub.state = .stale then
    (h.gotResponse this).processMarketPriceMsg this msg
  else h.processMarketPriceMsg this msg

def processBookMsg (this : P) (h : Handling P L) (msg : RsslMsg) : Handling P L :=
  match msg with
  | .refresh s decodes =>
    ((h.setRsslState s).2.answerRefresh this).deliver true true s.dataState .other decodes
  | .update updateType readState decodes => h.deliver true false readState updateType decodes
  | .status none => h
  | .status (some s) => (h.setRsslState s).2
  | .ack | .other => h

/-- The market-by-order and the market-by-price handler, their books apart. -/
def processBookResponse (this : P) (h : Handling P L) (msg : RsslMsg) : Handling P L :=
  if h.sub.state = .inactive then h.respondInactive this
  else if h.sub.state = .subscribing then (h.gotResponse this).processBookMsg this msg
  else h.processBookMsg this msg

def processMarketByOrderResponse (this : P) (h : Handling P L) (msg : RsslMsg) : Handling P L :=
  h.processBookResponse this msg

def processMarketByPriceResponse (this : P) (h : Handling P L) (msg : RsslMsg) : Handling P L :=
  h.processBookResponse this msg

end Handling

end RmdsBridge
