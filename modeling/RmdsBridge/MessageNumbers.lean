import RmdsBridge.BridgeSubscription
import RmdsBridge.Delivery
import RmdsBridge.Notices

namespace RmdsBridge

variable {P L : Type}

def nextSeqNum (n : ℕ) : ℕ := if n = 2 ^ 63 - 1 then 0 else n + 1

structure NumberedMsg where
  msgType : MamaMsgType
  seqNum : Option ℕ
  deriving DecidableEq, Repr

structure Receiver where
  bridge : RMDSBridgeSubscription := {}
  queue : List NumberedMsg := []
  received : List NumberedMsg := []

namespace Receiver

def onMessage (r : Receiver) (m : NumberedMsg) (async : Bool) : Receiver :=
  let b := r.bridge.onMessage m.msgType
  if b.1 then
    if async then { r with bridge := b.2, queue := r.queue ++ [m] }
    else { r with bridge := b.2, received := r.received ++ [m] }
  else { r with bridge := b.2 }

/-- `SendStatusMessage` makes a message of its own and does not set its `MdSeqNum`. -/
def onStatusMessage (r : Receiver) : Receiver :=
  if r.bridge.isShutdown then r
  else { r with received := r.received ++ [⟨.secStatus, none⟩] }

def queueCallback (r : Receiver) : Receiver :=
  match r.queue with
  | [] => r
  | m :: ms => { r with queue := ms, received := r.received ++ [m] }

def take (seqNum : Option ℕ) (async : Bool) (r : Receiver) : Notice L → Receiver
  | .message _ t => r.onMessage ⟨t, seqNum⟩ async
  | .status _ => r.onStatusMessage
  | .error .. | .quality .. => r

end Receiver

/-- A subscription that handles a message, as in `Handling`, with what it does to `msg_` and to its
listeners. -/
structure Numbering (P L : Type) where
  handling : Handling P L
  msgSeqNum : ℕ
  asyncMessaging : Bool
  seqNum : Option ℕ := none
  receivers : L → Receiver

namespace Numbering

def setMsgNum (n : Numbering P L) (isStatusMsg : Bool) : Numbering P L :=
  -- a status message with a number would be taken for a duplicate
  if isStatusMsg then { n with seqNum := some 0 }
  else { n with seqNum := some n.msgSeqNum, msgSeqNum := nextSeqNum n.msgSeqNum }

def clear (n : Numbering P L) : Numbering P L := { n with seqNum := none }

section

variable [DecidableEq L]

def call (n : Numbering P L) (async : Bool) (f : Handling P L → Handling P L) : Numbering P L :=
  { n with
    handling := f n.handling
    receivers := ((f n.handling).notices.drop n.handling.notices.length).foldl
      (Delivery.deliver Notice.listener (Receiver.take n.seqNum async)) n.receivers }

def notifyState (n : Numbering P L) (s : SubscriptionState) (ok : Bool) : Numbering P L :=
  (((n.call false (·.setState s)).setMsgNum true).call n.asyncMessaging (·.notifyState ok)).clear

def setStale (n : Numbering P L) : Numbering P L :=
  if n.handling.sub.state = .inactive then n else n.notifyState .stale false

def setLive (n : Numbering P L) : Numbering P L :=
  if n.handling.sub.state = .inactive then n else n.notifyState .live true

def notifyListenersError (n : Numbering P L) (s : MamaStatus) : Numbering P L :=
  n.call false (·.notifyListenersError s)

def setRsslState (n : Numbering P L) (s : RsslState) : Bool × Numbering P L :=
  if s.streamState = .closed ∧ (s.code = .notFound ∨ s.code = .code36) then
    (false, n.notifyListenersError .notFound)
  else if s.streamState = .closed ∧ s.code = .none ∧ s.dataState = .suspect then
    (false, n.notifyListenersError .notFound)
  else if s.streamState = .closed ∧ s.code = .notEntitled then
    (false, n.notifyListenersError .notEntitled)
  else if s.streamState = .closed ∧ s.code = .timeout then
    (false, n.notifyListenersError .timeout)
  else if s.streamState = .nonStreaming then
    (true, if n.handling.sub.snapShot then
        n.call false fun h => (h.notify .status).setState .inactive
      else n)
  else if s.streamState = .open ∧ s.code = .preempted then
    (false, n.notifyListenersError .platform)
  else if s.streamState = .open ∧ s.dataState = .suspect then (true, n.setStale)
  else if s.streamState = .open ∧ s.dataState = .ok ∧ n.handling.sub.state = .stale then
    (true, n.setLive)
  else if s.streamState = .open ∧ s.dataState = .noChange then
    (true, if n.handling.sub.state = .subscribing then n.call false (·.countLive) else n)
  else if s.streamState = .open ∧ s.dataState = .ok ∧ n.handling.sub.state = .subscribing then
    (true, n.call false (·.countLive))
  else (decide (s.streamState = .open ∧ s.dataState = .ok), n)

/-- `NotifyListenersRefreshMessage` calls the listeners at once, whatever `asyncMessaging_` is. -/
def sendData (n : Numbering P L) (isRefreshMsg : Bool) (msgType : MamaMsgType) : Numbering P L :=
  n.call (n.asyncMessaging && !(n.handling.sub.isRefresh && isRefreshMsg))
    (·.sendData isRefreshMsg msgType)

def deliver (n : Numbering P L) (bookMessage isRefreshMsg : Bool) (dataState : RsslDataState)
    (updateType : UpdateType) (decodes : Bool) : Numbering P L :=
  let image := isRefreshMsg || decide (Handling.StaleToLive n.handling.sub dataState)
  let msgType := Handling.messageType n.handling.sub image updateType bookMessage
  -- a payload that does not decode takes no number
  if decodes then
    ((n.call false (·.goLive dataState)).setMsgNum false).sendData isRefreshMsg msgType
  else n.call false (·.goLive dataState)

variable [DecidableEq P]

def processMarketPriceMsg (this : P) (n : Numbering P L) (msg : RsslMsg) : Numbering P L :=
  match msg with
  | .refresh s decodes =>
    let r := (n.call false (·.answerRefresh this)).setRsslState s
    if r.1 then r.2.deliver false true s.dataState .other decodes else r.2
  | .update updateType readState decodes => n.deliver false false readState updateType decodes
  | .status none => n
  | .status (some s) =>
    if n.handling.sub.isSnapshot then n.call false (·.completeSnapshot) else (n.setRsslState s).2
  | .ack | .other => n

def processMarketPriceResponse (this : P) (n : Numbering P L) (msg : RsslMsg) : Numbering P L :=
  if n.handling.sub.state = .inactive then n.call false (·.respondInactive this)
  else if n.handling.sub.state = .subscribing ∨ n.handling.sub.state = .stale then
    (n.call false (·.gotResponse this)).processMarketPriceMsg this msg
  else n.processMarketPriceMsg this msg

def processBookMsg (this : P) (n : Numbering P L) (msg : RsslMsg) : Numbering P L :=
  match msg with
  | .refresh s decodes =>
    ((n.setRsslState s).2.call false (·.answerRefresh this)).deliver true true s.dataState .other
      decodes
  | .update updateType readState decodes => n.deliver true false readState updateType decodes
  | .status none => n
  | .status (some s) => (n.setRsslState s).2
  | .ack | .other => n

def processBookResponse (this : P) (n : Numbering P L) (msg : RsslMsg) : Numbering P L :=
  if n.handling.sub.state = .inactive then n.call false (·.respondInactive this)
  else if n.handling.sub.state = .subscribing then
    (n.call false (·.gotResponse this)).processBookMsg this msg
  else n.processBookMsg this msg

def processResponse (this : P) (n : Numbering P L) (domain : Domain) (msg : RsslMsg) :
    Numbering P L :=
  match domain with
  | .marketPrice => (n.processMarketPriceResponse this msg).clear
  | .marketByOrder | .marketByPrice => (n.processBookResponse this msg).clear

end

end Numbering

structure NumberedConsumer (P L : Type) where
  consumer : UPAConsumer P L := {}
  msgSeqNum : P → ℕ := fun _ => 0
  asyncMessaging : Bool := false
  receivers : L → Receiver := fun _ => {}

inductive NumberedEvent (P L : Type)
  | consumer (e : Event P L)
  | pauseUpdates (l : L)
  | resumeUpdates (l : L)
  | shutdown (l : L)
  | queueCallback (l : L)
  deriving DecidableEq, Repr

namespace NumberedConsumer

def numbering (c : NumberedConsumer P L) (s : P) : Numbering P L :=
  { handling := c.consumer.handling s
    msgSeqNum := c.msgSeqNum s
    asyncMessaging := c.asyncMessaging
    receivers := c.receivers }

variable [DecidableEq P] [DecidableEq L]

def handle (c : NumberedConsumer P L) (s : P) (n : Numbering P L) : NumberedConsumer P L :=
  { c with
    consumer := c.consumer.handle s n.handling
    msgSeqNum := Function.update c.msgSeqNum s n.msgSeqNum
    receivers := n.receivers }

def setReceiver (c : NumberedConsumer P L) (l : L) (f : Receiver → Receiver) :
    NumberedConsumer P L :=
  { c with receivers := Function.update c.receivers l (f (c.receivers l)) }

def respond (c : NumberedConsumer P L) (domain : Domain) (streamId : ℕ) (msg : RsslMsg) :
    NumberedConsumer P L :=
  match c.consumer.target domain streamId with
  | none => c
  | some s => c.handle s ((c.numbering s).processResponse s domain msg)

def stepConsumer (c : NumberedConsumer P L) (e : Event P L) : NumberedConsumer P L :=
  match e with
  | .setStale s => c.handle s (c.numbering s).setStale
  | .setLive s => c.handle s (c.numbering s).setLive
  | .respond domain streamId msg => c.respond domain streamId msg
  -- the rest calls `OnMessage` on no listener
  | e => { c with consumer := c.consumer.step e }

def step (c : NumberedConsumer P L) : NumberedEvent P L → NumberedConsumer P L
  | .consumer e => c.stepConsumer e
  | .pauseUpdates l =>
    c.setReceiver l fun r => { r with bridge := { r.bridge with pausedUpdates := true } }
  | .resumeUpdates l =>
    c.setReceiver l fun r => { r with bridge := { r.bridge with pausedUpdates := false } }
  | .shutdown l => c.setReceiver l fun r => { r with bridge := { r.bridge with isShutdown := true } }
  | .queueCallback l => c.setReceiver l Receiver.queueCallback

end NumberedConsumer

namespace Numbering

variable [DecidableEq L]

theorem call_handling (n : Numbering P L) (async : Bool) (f : Handling P L → Handling P L) :
    (n.call async f).handling = f n.handling := rfl

theorem setStale_handling (n : Numbering P L) : n.setStale.handling = n.handling.setStale := by
  unfold setStale Handling.setStale
  split_ifs <;> rfl

theorem setLive_handling (n : Numbering P L) : n.setLive.handling = n.handling.setLive := by
  unfold setLive Handling.setLive
  split_ifs <;> rfl

def Forgets (a : Bool × Numbering P L) (b : Bool × Handling P L) : Prop :=
  (a.1, a.2.handling) = b

omit [DecidableEq L] in
theorem Forgets.ite {p : Prop} [Decidable p] {a a' : Bool × Numbering P L}
    {b b' : Bool × Handling P L} (h : Forgets a b) (h' : Forgets a' b') :
    Forgets (if p then a else a') (if p then b else b') := by
  by_cases hp : p
  · rwa [if_pos hp, if_pos hp]
  · rwa [if_neg hp, if_neg hp]

omit [DecidableEq L] in
theorem Forgets.eq {a : Bool × Numbering P L} {b : Bool × Handling P L} (h : Forgets a b) :
    b = (a.1, a.2.handling) := h.symm

theorem setRsslState_handling (n : Numbering P L) (s : RsslState) :
    Forgets (n.setRsslState s) (n.handling.setRsslState s) := by
  refine .ite rfl <| .ite rfl <| .ite rfl <| .ite rfl <| .ite ?_ <| .ite rfl <|
    .ite (congrArg _ n.setStale_handling) <| .ite (congrArg _ n.setLive_handling) <|
    .ite ?_ <| .ite rfl rfl
  · change (true, _) = _
    split_ifs <;> rfl
  · change (true, _) = _
    split_ifs <;> rfl

theorem deliver_handling (n : Numbering P L) (b r : Bool) (ds : RsslDataState) (u : UpdateType)
    (d : Bool) : (n.deliver b r ds u d).handling = n.handling.deliver b r ds u d := by
  cases d <;> rfl

variable [DecidableEq P]

theorem processMarketPriceMsg_handling (this : P) (n : Numbering P L) (msg : RsslMsg) :
    (n.processMarketPriceMsg this msg).handling = n.handling.processMarketPriceMsg this msg := by
  cases msg with
  | refresh s d =>
    have hs := (n.call false (·.answerRefresh this)).setRsslState_handling s
    dsimp only [processMarketPriceMsg, Handling.processMarketPriceMsg]
    rw [call_handling] at hs
    rw [hs.eq]
    dsimp only
    split_ifs
    · exact deliver_handling _ _ _ _ _ _
    · rfl
  | update u ds d => exact n.deliver_handling _ _ _ _ _
  | status s =>
    cases s with
    | none => rfl
    | some s =>
      dsimp only [processMarketPriceMsg, Handling.processMarketPriceMsg]
      split_ifs
      · rfl
      · exact congrArg Prod.snd (n.setRsslState_handling s)
  | ack => rfl
  | other => rfl

theorem processBookMsg_handling (this : P) (n : Numbering P L) (msg : RsslMsg) :
    (n.processBookMsg this msg).handling = n.handling.processBookMsg this msg := by
  cases msg with
  | refresh s d =>
    dsimp only [processBookMsg, Handling.processBookMsg]
    rw [deliver_handling, call_handling, (n.setRsslState_handling s).eq]
  | update u ds d => exact n.deliver_handling _ _ _ _ _
  | status s =>
    cases s with
    | none => rfl
    | some s => exact congrArg Prod.snd (n.setRsslState_handling s)
  | ack => rfl
  | other => rfl

theorem processResponse_handling (this : P) (n : Numbering P L) (domain : Domain) (msg : RsslMsg) :
    (n.processResponse this domain msg).handling =
      UPAConsumer.processResponse this n.handling domain msg := by
  have hbook : (n.processBookResponse this msg).handling =
      n.handling.processBookResponse this msg := by
    unfold processBookResponse Handling.processBookResponse
    split_ifs
    · rfl
    · exact processBookMsg_handling _ _ _
    · exact processBookMsg_handling _ _ _
  cases domain with
  | marketPrice =>
    change (n.processMarketPriceResponse this msg).handling =
      n.handling.processMarketPriceResponse this msg
    unfold processMarketPriceResponse Handling.processMarketPriceResponse
    split_ifs
    · rfl
    · exact processMarketPriceMsg_handling _ _ _
    · exact processMarketPriceMsg_handling _ _ _
  | marketByOrder => exact hbook
  | marketByPrice => exact hbook

end Numbering

namespace NumberedConsumer

variable [DecidableEq P] [DecidableEq L]

theorem stepConsumer_consumer (c : NumberedConsumer P L) (e : Event P L) :
    (c.stepConsumer e).consumer = c.consumer.step e := by
  cases e with
  | setStale s => exact congrArg (c.consumer.handle s) (c.numbering s).setStale_handling
  | setLive s => exact congrArg (c.consumer.handle s) (c.numbering s).setLive_handling
  | respond domain streamId msg =>
    change (c.respond domain streamId msg).consumer = c.consumer.respond domain streamId msg
    unfold respond UPAConsumer.respond
    cases c.consumer.target domain streamId with
    | none => rfl
    | some s =>
      exact congrArg (c.consumer.handle s) ((c.numbering s).processResponse_handling s domain msg)
  | _ => rfl

end NumberedConsumer

end RmdsBridge
