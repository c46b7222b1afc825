import RmdsBridge.FieldEncoding
import RmdsBridge.ProviderStreams

namespace RmdsBridge

inductive ItemMsgType
  | update
  | initial
  | recap
  | refresh
  | other
  deriving DecidableEq, Repr

inductive PublishStatus
  | ok
  | notInitialised
  | noMem
  | platform
  deriving DecidableEq, Repr

structure MessageToPublish (D T M : Type) where
  msgType : Option ItemMsgType
  subscType : Option ℤ
  fields : List (UpaFieldPayload D T M)

/-- A market price message; the state of a refresh is always open and ok. -/
structure PublishedMsg (W : Type) where
  isRefresh : Bool
  solicited : Bool
  msgKey : Option (ℕ × String)
  streamId : ℤ
  fields : List (WireField W)

structure ItemSettings where
  serviceId : ℕ
  solicitedMessages : Bool
  encoder : FieldListEncoder

section

variable {W D T M C : Type} [DecidableEq C]

namespace UPAPublisherItem

def buildPublishMessage (settings : ItemSettings) (symbol : String) (msgType : Option ItemMsgType) (streamId : ℤ)
    (fields : List (WireField W)) : PublishedMsg W :=
  match msgType.getD .update with
  | .initial | .refresh | .recap =>
    ⟨true, settings.solicitedMessages, some (settings.serviceId, symbol), streamId, fields⟩
  | .update | .other =>
    -- an update has a key on the streams of a non-interactive provider only
    ⟨false, false, if streamId < 0 then some (settings.serviceId, symbol) else none, streamId, fields⟩

/-- `walk` is the order in which the map of the channels is iterated, `buffer` and `written` tell whether the
buffer was got and the message written. `none` reads the first stream of an empty list. -/
def publishMessage (c : FieldConversions D T) (api : RsslFieldApi W D) (settings : ItemSettings)
    (symbol : String) (walk : List (Σ _ : C, List ℤ)) (msg : MessageToPublish D T M) (buffer written : Bool) :
    Option (PublishStatus × Option (C × PublishedMsg W)) :=
  match walk with
  | [] => some (.notInitialised, none)
  | ⟨chnl, refreshStreamList⟩ :: _ =>
    if buffer then
      refreshStreamList.head?.map fun streamId =>
        match settings.encoder.encode c api msg.fields with
        | none => (.notInitialised, none)
        | some fields =>
          if written then
            (.ok, some (chnl, buildPublishMessage settings symbol msg.msgType streamId fields))
          else (.platform, none)
    else some (.noMem, none)

end UPAPublisherItem

structure PublishingProvider (C W : Type) where
  watched : WatchedProvider C
  sent : List (C × PublishedMsg W) := []
  errors : List PublishStatus := []
  undefined : Bool := false

inductive PublishingEvent (C D T M : Type)
  | provider (e : ProviderEvent C)
  | send (symbol : String) (walk : List (Σ _ : C, List ℤ)) (msg : MessageToPublish D T M) (buffer written : Bool)

namespace PublishingProvider

def start (sourceName : Option String) : PublishingProvider C W := { watched := .start sourceName }

def CanSend (s : PublishingProvider C W) (symbol : String) (walk : List (Σ _ : C, List ℤ)) : Prop :=
  s.watched.provider.stuck = false ∧
    ∃ i, s.watched.provider.item symbol = some i ∧ walk.Perm i.channelMap.entries

def doPublishMessage (s : PublishingProvider C W) :
    Option (PublishStatus × Option (C × PublishedMsg W)) → PublishingProvider C W
  | none => { s with undefined := true }
  | some (.ok, msg) => { s with sent := s.sent ++ msg.toList }
  | some (status, msg) => { s with sent := s.sent ++ msg.toList, errors := s.errors ++ [status] }

/-- A message with another subscription type than none or the normal one is not published. -/
def step (c : FieldConversions D T) (api : RsslFieldApi W D) (settings : ItemSettings)
    (s : PublishingProvider C W) : PublishingEvent C D T M → PublishingProvider C W
  | .provider e => { s with watched := s.watched.step e }
  | .send symbol walk msg buffer written =>
    if msg.subscType.getD (-1) ≤ 0 then
      s.doPublishMessage
        (UPAPublisherItem.publishMessage c api settings symbol walk msg buffer written)
    else s

def Admissible (s : PublishingProvider C W) : PublishingEvent C D T M → Prop
  | .provider e => s.watched.Admissible e
  | .send symbol walk _ _ _ => s.CanSend symbol walk

def IsOpen (s : PublishingProvider C W) (symbol : String) (chnl : C) (streamId : ℤ) : Prop :=
  s.watched.provider.streamItem chnl streamId = some symbol

structure Kept (s : PublishingProvider C W) : Prop where
  watched : s.watched.Kept
  defined : s.undefined = false

end PublishingProvider

end

end RmdsBridge
