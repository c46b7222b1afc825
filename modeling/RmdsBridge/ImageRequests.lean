import RmdsBridge.BridgeSubscription
import RmdsBridge.LiveStates

namespace RmdsBridge

variable {P L : Type}

def isInitial (t : MamaMsgType) : Bool := t = .initial || t = .bookInitial

def imageType : Domain → MamaMsgType
  | .marketPrice => .initial
  | .marketByOrder | .marketByPrice => .bookInitial

namespace Handling

variable [DecidableEq L]

def imageReceivers (domain : Domain) (sub : UPASubscription L) : List (L × MamaMsgType) :=
  if sub.isRefresh then (sub.listeners.filter fun l => sub.subscription = some l).map (·, .initial)
  else sub.listeners.map (·, imageType domain)

def Delivers (domain : Domain) (sub : UPASubscription L) (s : RsslState) (decodes : Bool) : Prop :=
  sub.state ≠ .inactive ∧ decodes = true ∧ sub.isSnapshot = false ∧
    (domain = .marketPrice → s.streamState = .nonStreaming ∨
      s.streamState = .open ∧ s.code ≠ .preempted)

instance (domain : Domain) (sub : UPASubscription L) (s : RsslState) (decodes : Bool) :
    Decidable (Delivers domain sub s decodes) :=
  inferInstanceAs (Decidable (_ ∧ _))

variable [DecidableEq P]

end Handling

end RmdsBridge
