import RmdsBridge.Subscription

namespace RmdsBridge

/-- A listener of a subscription. `pausedUpdates` is the flag of its source. -/
structure RMDSBridgeSubscription where
  sourceName : String := ""
  symbol : String := ""
  isShutdown : Bool := false
  pausedUpdates : Bool := false
  gotImage : Bool := false
  deriving DecidableEq, Repr

namespace RMDSBridgeSubscription

def isImage : MamaMsgType → Bool
  | .initial | .recap | .bookInitial | .bookRecap => true
  | _ => false

def listens (b : RMDSBridgeSubscription) : Bool := !(b.isShutdown || b.pausedUpdates)

def onMessage (b : RMDSBridgeSubscription) (msgType : MamaMsgType) : Bool × RMDSBridgeSubscription :=
  if b.isShutdown || b.pausedUpdates then (false, b)
  else if isImage msgType then (true, { b with gotImage := true })
  else if msgType = .secStatus then (true, b)
  else (b.gotImage, b)

theorem onMessage_listens (b : RMDSBridgeSubscription) (t : MamaMsgType) :
    (b.onMessage t).2.listens = b.listens := by
  unfold onMessage
  split_ifs <;> rfl

end RMDSBridgeSubscription

end RmdsBridge
