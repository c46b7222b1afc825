import RmdsBridge.Runs

namespace RmdsBridge

inductive DictionaryKind
  | fields
  | enumTypes
  deriving DecidableEq, Repr

/-- What the transport API reads of a part of a dictionary and what decoding one does to the raw
dictionary, also when it fails. The type is none when it cannot be read or is of neither kind. -/
structure RsslDictionaryApi (Raw Part : Type*) where
  extractDictionaryType : Part → Option DictionaryKind
  decode : DictionaryKind → Raw → Part → Raw × Bool
  isInitialized : Raw → Bool

inductive DictionaryMsg (Part : Type*)
  | refresh (streamId : ℤ) (refreshComplete : Bool) (part : Part)
  | status
  | other
  deriving DecidableEq, Repr

/-- The streams of the requests, `FieldDictionaryStreamId` and `EnumDictionaryStreamId`. -/
def DictionaryKind.requestStreamId : DictionaryKind → ℤ
  | .fields => 3
  | .enumTypes => 4

structure UPADictionary (Raw : Type*) where
  rsslDictionary : Raw
  loaded : DictionaryKind → Bool := fun _ => false
  streamId : DictionaryKind → ℤ := fun _ => 0

variable {Raw Part : Type*} (api : RsslDictionaryApi Raw Part)

namespace UPADictionary

def isComplete (d : UPADictionary Raw) : Bool :=
  api.isInitialized d.rsslDictionary && d.loaded .fields && d.loaded .enumTypes

def sendRequest (d : UPADictionary Raw) (sends : DictionaryKind → Bool) : List DictionaryKind :=
  let fields := if d.loaded .fields then [] else [DictionaryKind.fields]
  let enumTypes := if d.loaded .enumTypes then [] else [DictionaryKind.enumTypes]
  (fields ++ enumTypes).takeWhile sends

def decodePart (d : UPADictionary Raw) (kind : DictionaryKind) (refreshComplete : Bool) (part : Part) :
    UPADictionary Raw × Option Bool :=
  let (raw, decoded) := api.decode kind d.rsslDictionary part
  let d := { d with rsslDictionary := raw }
  if decoded then
    let d :=
      if refreshComplete then
        { d with
          loaded := Function.update d.loaded kind true
          streamId := Function.update d.streamId kind 0 }
      else d
    (d, if d.isComplete api then some true else none)
  else (d, some false)

def decodeStream (d : UPADictionary Raw) (streamId : ℤ) (refreshComplete : Bool) (part : Part) :
    UPADictionary Raw × Option Bool :=
  if streamId = d.streamId .fields then d.decodePart api .fields refreshComplete part
  else if streamId = d.streamId .enumTypes then d.decodePart api .enumTypes refreshComplete part
  else (d, some false)

def processDictionaryResponse (d : UPADictionary Raw) :
    DictionaryMsg Part → UPADictionary Raw × Option Bool
  | .refresh streamId refreshComplete part =>
    if streamId ≠ d.streamId .fields ∧ streamId ≠ d.streamId .enumTypes then
      match api.extractDictionaryType part with
      | some kind =>
        { d with streamId := Function.update d.streamId kind streamId }.decodeStream api streamId
          refreshComplete part
      | none => (d, some false)
    else d.decodeStream api streamId refreshComplete part
  | .status | .other => (d, none)

def processResponses (d : UPADictionary Raw) : List (DictionaryMsg Part) → UPADictionary Raw × List Bool
  | [] => (d, [])
  | m :: ms =>
    let (d', told) := d.processDictionaryResponse api m
    let (d'', rest) := d'.processResponses ms
    (d'', told.toList ++ rest)

/-- One connection: `UPAConsumer::RequestDictionary` announces a complete dictionary at once, otherwise
the dictionaries that are not loaded are requested. -/
def connection (d : UPADictionary Raw) (ms : List (DictionaryMsg Part)) : UPADictionary Raw × List Bool :=
  let (d', told) := d.processResponses api ms
  (d', (if d.isComplete api then [true] else []) ++ told)

end UPADictionary

structure PartOutcome where
  kind : DictionaryKind
  refreshComplete : Bool
  decoded : Bool
  deriving DecidableEq, Repr

def receivedParts : Raw → List (DictionaryMsg Part) → Raw × List PartOutcome
  | raw, [] => (raw, [])
  | raw, .refresh streamId refreshComplete part :: ms =>
    let kind : DictionaryKind := if streamId = 3 then .fields else .enumTypes
    let (raw, decoded) := api.decode kind raw part
    let (raw, rest) := receivedParts raw ms
    (raw, ⟨kind, refreshComplete, decoded⟩ :: rest)
  | raw, .status :: ms => receivedParts raw ms
  | raw, .other :: ms => receivedParts raw ms

def partsOn (streamId : ℤ) (ms : List (DictionaryMsg Part)) : List (Bool × Part) :=
  ms.filterMap fun m =>
    match m with
    | .refresh i refreshComplete part => if i = streamId then some (refreshComplete, part) else none
    | .status | .other => none

structure Sends (kind : DictionaryKind) (parts : List (Bool × Part)) : Prop where
  typed : ∀ p ∈ parts.head?, api.extractDictionaryType p.2 = some kind
  open_ : ∀ p ∈ parts.dropLast, p.1 = false

structure Answers (requests : List DictionaryKind) (ms : List (DictionaryMsg Part)) : Prop where
  onRequests : ∀ i c p, DictionaryMsg.refresh i c p ∈ ms → ∃ kind, i = DictionaryKind.requestStreamId kind
  sends : ∀ kind : DictionaryKind, Sends api kind (partsOn kind.requestStreamId ms)
  requested : ∀ kind : DictionaryKind, partsOn kind.requestStreamId ms ≠ [] → kind ∈ requests

def failures (outcomes : List PartOutcome) : List Bool :=
  (outcomes.filter fun o => !o.decoded).map fun _ => false

def PartOutcome.loads (o : PartOutcome) (kind : DictionaryKind) : Bool :=
  o.kind = kind && o.refreshComplete && o.decoded

@[simp] theorem DictionaryKind.requestStreamId_ne_zero (kind : DictionaryKind) :
    kind.requestStreamId ≠ 0 := by
  cases kind <;> decide

theorem DictionaryKind.requestStreamId_inj {k k' : DictionaryKind} :
    k.requestStreamId = k'.requestStreamId ↔ k = k' := by
  cases k <;> cases k' <;> decide

end RmdsBridge
