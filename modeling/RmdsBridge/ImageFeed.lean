import RmdsBridge.ImageLedger
import RmdsBridge.ImageRequests

namespace RmdsBridge

variable {P L : Type}

def passOn [DecidableEq L] (bridge : L → RMDSBridgeSubscription) :
    List (Notice L) → List (L × MamaMsgType) × (L → RMDSBridgeSubscription)
  | [] => ([], bridge)
  | .message l t :: ns =>
    let r := (bridge l).onMessage t
    let rest := passOn (Function.update bridge l r.2) ns
    (if r.1 then (l, t) :: rest.1 else rest.1, rest.2)
  | _ :: ns => passOn bridge ns

structure ImageFeed (P L : Type) where
  this : P
  domain : Domain
  manager : UPAStreamManager P
  sub : UPASubscription L
  bridge : L → RMDSBridgeSubscription

namespace ImageFeed

variable [DecidableEq P] [DecidableEq L]

def requestImage (q : ImageFeed P L) (l : L) : ImageFeed P L := { q with sub := q.sub.refresh l }

def refreshRequest (q : ImageFeed P L) (o : SendOutcome) : Bool × ImageFeed P L :=
  if q.sub.Wants .refresh then
    let r := Handling.sendOpenRequest q.this ⟨q.manager, q.sub, []⟩ o
    (o = .sent && r.1, { q with manager := r.2.manager, sub := r.2.sub })
  else (false, q)

def receive (q : ImageFeed P L) (msg : RsslMsg) : List (L × MamaMsgType) × ImageFeed P L :=
  let h := UPAConsumer.processResponse q.this ⟨q.manager, q.sub, []⟩ q.domain msg
  let r := passOn q.bridge h.notices
  (r.1, { q with manager := h.manager, sub := h.sub, bridge := r.2 })

end ImageFeed

namespace ImageFeed

variable [DecidableEq P] [DecidableEq L] {q : ImageFeed P L} {l : L} {s : RsslState} {d : Bool}

def Sends (q : ImageFeed P L) (o : SendOutcome) : Prop :=
  q.sub.Wants .refresh ∧ o = .sent ∧ (q.sub.streamId ≠ 0 ∨ (q.manager.addItem q.this).1 ≠ 0) ∧
    q.sub.subscriptionType ≠ .unknown

def Serves (q : ImageFeed P L) (r : ImageRequest L) (s : RsslState) (decodes : Bool) : Prop :=
  (r.images + if Handling.Delivers q.domain q.sub s decodes ∧ (q.bridge r.requester).listens = true ∧
      (q.sub.isRefresh = true → q.domain = .marketPrice ∧ q.sub.subscription = some r.requester)
    then q.sub.listeners.count r.requester else 0) = 1 ∧
  (Handling.Delivers q.domain q.sub s decodes → ∀ l ∈ q.sub.listeners, l ≠ r.requester →
    (q.bridge l).listens = true → (q.bridge l).gotImage = true →
      q.sub.isRefresh = true ∧ q.sub.subscription ≠ some l)

def heard (q : ImageFeed P L) (s : RsslState) (d : Bool) : List (L × MamaMsgType) :=
  if Handling.Delivers q.domain q.sub s d then Handling.imageReceivers q.domain q.sub else []

def received (q : ImageFeed P L) (s : RsslState) (d : Bool) : List (L × MamaMsgType) :=
  (q.receive (.refresh s d)).1

def disturbedBy (q : ImageFeed P L) (received : List (L × MamaMsgType)) (requester : L) : List L :=
  (received.filter fun r => isInitial r.2 && (r.1 ≠ requester && (q.bridge r.1).gotImage)).map Prod.fst

end ImageFeed

end RmdsBridge
