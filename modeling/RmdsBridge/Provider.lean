import RmdsBridge.PublisherItem

namespace RmdsBridge

inductive ItemRequest
  | request (streamId : ℤ) (symbol : String)
  | close (streamId : ℤ)
  | post
  | other
  deriving DecidableEq, Repr

/-- The interactive provider with its publisher's source. `stuck` is its thread when a call does not
return. -/
structure UPAProvider (C : Type) where
  source : Option (RMDSPublisherSource C)
  channelDictionary : UnorderedMap C (UnorderedMap ℤ String) := ∅
  requested : List (String × Bool) := []
  closed : List String := []
  stuck : Bool := false

namespace UPAProvider

variable {C : Type} [DecidableEq C]

def item (p : UPAProvider C) (symbol : String) : Option (UPAPublisherItem C) :=
  p.source.bind fun s => s.getItem symbol

def setItem (p : UPAProvider C) (symbol : String) (i : UPAPublisherItem C) : UPAProvider C :=
  { p with source := p.source.map fun s => s.setItem symbol i }

/-- The request is refused when there is no source. -/
def addItem (p : UPAProvider C) (chnl : Option C) (streamId : ℤ) (symbol : String) :
    Option (Bool × UPAProvider C) :=
  p.source.map fun s =>
    let (isNew, s) := s.addItem chnl streamId symbol
    (isNew, { p with source := some s })

def requestItem (p : UPAProvider C) (symbol : String) (recap : Bool) : UPAProvider C :=
  { p with requested := p.requested ++ [(symbol, recap)] }

def closeItem (p : UPAProvider C) (symbol : String) : UPAProvider C :=
  { p with closed := p.closed ++ [symbol] }

def removeStream (p : UPAProvider C) (chnl : C) (streamId : ℤ) (symbol : String) : UPAProvider C :=
  match p.item symbol with
  | none => p
  | some i =>
    match i.removeChannel chnl streamId with
    | none => { p with stuck := true }
    | some (true, i) => p.setItem symbol i
    | some (false, i) => (p.setItem symbol i).closeItem symbol

def processRequest (p : UPAProvider C) (chnl : C) (streamId : ℤ) (symbol : String) : UPAProvider C :=
  match p.addItem (some chnl) streamId symbol with
  | none => p
  | some (isNew, p) =>
    match p.channelDictionary.find chnl with
    | none => p
    | some streamIdMap =>
      { p with
        channelDictionary := p.channelDictionary.insert chnl (streamIdMap.insert streamId symbol)
      }.requestItem symbol (!isNew)

def processClose (p : UPAProvider C) (chnl : C) (streamId : ℤ) : UPAProvider C :=
  match p.channelDictionary.find chnl with
  | none => p
  | some streamIdMap =>
    match streamIdMap.find streamId with
    | none => p
    | some symbol =>
      { p with
        channelDictionary := p.channelDictionary.insert chnl (streamIdMap.erase streamId)
      }.removeStream chnl streamId symbol

def processItemRequest (p : UPAProvider C) (chnl : C) : ItemRequest → UPAProvider C
  | .request streamId symbol => p.processRequest chnl streamId symbol
  | .close streamId => p.processClose chnl streamId
  | .post | .other => p

def removeStreams (p : UPAProvider C) (chnl : C) : List (Σ _ : ℤ, String) → UPAProvider C
  | [] => p
  | x :: xs =>
    let p := p.removeStream chnl x.1 x.2
    if p.stuck then p else p.removeStreams chnl xs

/-- `walk` is the order in which the map of the streams is iterated. -/
def shutdownClientConnection (p : UPAProvider C) (chnl : C) (walk : List (Σ _ : ℤ, String)) :
    UPAProvider C :=
  match p.channelDictionary.find chnl with
  | none => p
  | some _ =>
    let p := p.removeStreams chnl walk
    if p.stuck then p else { p with channelDictionary := p.channelDictionary.erase chnl }

def createNewClientConnection (p : UPAProvider C) (chnl : C) : UPAProvider C :=
  { p with channelDictionary := p.channelDictionary.insert chnl ∅ }

def createPublisher (p : UPAProvider C) (symbol : String) : UPAProvider C :=
  match p.item symbol with
  | some _ => p
  | none => (p.addItem none 0 symbol).elim p Prod.snd

end UPAProvider

inductive ProviderEvent (C : Type)
  | connected (chnl : C)
  | disconnected (chnl : C) (walk : List (Σ _ : ℤ, String))
  | item (chnl : C) (msg : ItemRequest)
  | createPublisher (symbol : String)
  deriving DecidableEq

namespace UPAProvider

variable {C : Type} [DecidableEq C]

def handle (p : UPAProvider C) : ProviderEvent C → UPAProvider C
  | .connected chnl => p.createNewClientConnection chnl
  | .disconnected chnl walk => p.shutdownClientConnection chnl walk
  | .item chnl msg => p.processItemRequest chnl msg
  | .createPublisher symbol => p.createPublisher symbol

def streamIdMap (p : UPAProvider C) (chnl : C) : UnorderedMap ℤ String :=
  (p.channelDictionary.find chnl).getD ∅

def Possible (p : UPAProvider C) : ProviderEvent C → Prop
  | .connected chnl => p.stuck = false ∧ p.channelDictionary.find chnl = none
  | .disconnected chnl walk => p.stuck = false ∧ walk.Perm (p.streamIdMap chnl).entries
  | .item _ _ | .createPublisher _ => p.stuck = false

instance Possible.decidable (p : UPAProvider C) : ∀ e, Decidable (p.Possible e)
  | .connected chnl => inferInstanceAs (Decidable (_ ∧ p.channelDictionary.find chnl = none))
  | .disconnected chnl walk =>
    inferInstanceAs (Decidable (_ ∧ walk.Perm (p.streamIdMap chnl).entries))
  | .item _ _ | .createPublisher _ => inferInstanceAs (Decidable (p.stuck = false))

end UPAProvider

end RmdsBridge
