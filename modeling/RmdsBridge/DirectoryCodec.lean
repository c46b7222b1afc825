import Mathlib.Data.Fintype.Basic
import RmdsBridge.DirectoryDecoding
import RmdsBridge.SourceDirectory
import RmdsBridge.LoginCodec

namespace RmdsBridge

def maxCapabilities : ℕ := 10

def maxQOS : ℕ := 5

def maxDictionaries : ℕ := 5

def maxLinks : ℕ := 5

instance : NeZero maxSourceDirInfoStrLength := ⟨by decide⟩

abbrev DirectoryText := CharArray maxSourceDirInfoStrLength

/-- The codecs of the transport API, with a quality of service `Q` and a state `S`. An array has items,
of which some may be blank, and then its end or an error. -/
structure RsslDirectoryApi (Q S : Type*) extends RsslUIntApi where
  encodeQos : Q → List UInt8
  decodeQos : List UInt8 → Option (Option Q)
  encodeState : S → List UInt8
  decodeState : List UInt8 → Option (Option S)
  encodeArray : List (List UInt8) → List UInt8
  decodeArray : List UInt8 → Option (List (Option (List UInt8)) × Bool)
  clearedQos : Q
  clearedState : S

abbrev DirectoryElement := RsslElementName × List UInt8

inductive DirectoryFilterEntry
  | info (elements : List DirectoryElement)
  | state (elements : List DirectoryElement)
  | load (elements : List DirectoryElement)
  | link (links : List (List UInt8 × List DirectoryElement))
  deriving DecidableEq, Repr

structure ServiceEntry where
  serviceId : ℕ
  filters : List DirectoryFilterEntry
  deriving DecidableEq, Repr

structure RsslServiceGeneralInfo (Q : Type*) where
  serviceName : DirectoryText := .empty
  vendor : DirectoryText := .empty
  isSource : UInt64 := 0
  capabilities : Fin maxCapabilities → UInt64 := fun _ => 0
  dictionariesProvided : Fin maxDictionaries → DirectoryText := fun _ => .empty
  dictionariesUsed : Fin maxDictionaries → DirectoryText := fun _ => .empty
  qos : Fin maxQOS → Q
  supportsQosRange : UInt64 := 0
  itemList : DirectoryText := .empty
  supportsOutOfBandSnapshots : UInt64 := 0
  acceptingConsumerStatus : UInt64 := 0

structure RsslServiceStateInfo (S : Type*) where
  serviceState : UInt64 := 0
  acceptingRequests : UInt64 := 0
  status : S

structure RsslServiceLoadInfo where
  openLimit : UInt64 := 0
  openWindow : UInt64 := 0
  loadFactor : UInt64 := 0

structure RsslServiceLinkInfo where
  linkName : DirectoryText := .empty
  type : UInt64 := 0
  linkState : UInt64 := 0
  linkCode : UInt64 := 0
  text : DirectoryText := .empty

structure ServiceInfo (Q S : Type*) where
  serviceId : ℕ
  general : RsslServiceGeneralInfo Q
  state : RsslServiceStateInfo S
  load : RsslServiceLoadInfo := {}
  links : Fin maxLinks → RsslServiceLinkInfo := fun _ => {}

structure ServiceSource (Q S : Type*) where
  name : DirectoryText
  serviceId : ℕ
  capabilities : Fin maxCapabilities → UInt64
  fieldDictionaryName : DirectoryText
  enumTypeDictionaryName : DirectoryText
  qos : Q
  supportOutOfBandSnapshots : UInt64
  acceptConsumerStatus : UInt64
  serviceState : UInt64
  acceptingRequests : UInt64
  status : S
  openLimit : UInt64
  openWindow : UInt64
  loadFactor : UInt64
  linkName : DirectoryText
  linkType : UInt64
  linkState : UInt64
  linkCode : UInt64
  linkText : DirectoryText

structure DirectoryFilter where
  info : Bool
  state : Bool
  group : Bool
  load : Bool
  data : Bool
  link : Bool
  deriving DecidableEq, Repr

structure DirectoryKey where
  filter : Option DirectoryFilter
  serviceId : Option ℕ := none
  name : Option (List UInt8) := none
  deriving DecidableEq, Repr

/-- The loop over an array's items with `i` of the slots behind it. -/
def fillSlots {α : Type*} {n : ℕ} (read : List UInt8 → α → Option α) :
    ℕ → (Fin n → α) → List (Option (List UInt8)) → Bool → Option (Fin n → α)
  | i, slots, [], ends => if ends ∨ i = n then some slots else none
  | i, slots, item :: items, ends =>
    if h : i < n then
      match item with
      | some data =>
        match read data (slots ⟨i, h⟩) with
        | some a => fillSlots read (i + 1) (Function.update slots ⟨i, h⟩ a) items ends
        | none => none
      | none => fillSlots read (i + 1) slots items ends
    else some slots

/-- A number as an array item of length one, if it fits. -/
def encodeUInt1 (n : UInt64) : Option (List UInt8) := if n < 256 then some [n.toUInt8] else none

def ServiceSource.capabilityItems {Q S : Type*} (src : ServiceSource Q S) : Option (List (List UInt8)) :=
  ((List.ofFn src.capabilities).takeWhile (· ≠ 0)).mapM encodeUInt1

namespace RsslDirectoryApi

variable {Q S : Type*} (api : RsslDirectoryApi Q S)

def encodeServiceGeneralInfo (src : ServiceSource Q S) : Option DirectoryFilterEntry :=
  (src.capabilityItems).map fun capabilities =>
    let dictionaries := [src.fieldDictionaryName.bytes, src.enumTypeDictionaryName.bytes]
    .info
      [(.name, src.name.bytes),
        (.capabilities, api.encodeArray capabilities),
        (.dictionariesProvided, api.encodeArray dictionaries),
        (.dictionariesUsed, api.encodeArray dictionaries),
        (.qos, api.encodeArray [api.encodeQos src.qos]),
        (.supportsOutOfBandSnapshots, api.encodeUInt src.supportOutOfBandSnapshots),
        (.acceptingConsumerStatus, api.encodeUInt src.acceptConsumerStatus)]

def encodeServiceStateInfo (src : ServiceSource Q S) : DirectoryFilterEntry :=
  .state
    [(.svcState, api.encodeUInt src.serviceState),
      (.acceptingRequests, api.encodeUInt src.acceptingRequests),
      (.status, api.encodeState src.status)]

def encodeServiceLoadInfo (src : ServiceSource Q S) : DirectoryFilterEntry :=
  .load
    [(.openLimit, api.encodeUInt src.openLimit),
      (.openWindow, api.encodeUInt src.openWindow),
      (.loadFactor, api.encodeUInt src.loadFactor)]

def encodeServiceLinkInfo (src : ServiceSource Q S) : DirectoryFilterEntry :=
  .link
    [(src.linkName.bytes,
      [(.type, api.encodeUInt src.linkType),
        (.linkState, api.encodeUInt src.linkState),
        (.linkCode, api.encodeUInt src.linkCode),
        (.text, src.linkText.bytes)])]

def encodeSourceDirectoryInfo (src : ServiceSource Q S) (filter : DirectoryFilter) : Option ServiceEntry :=
  (if filter.info then (api.encodeServiceGeneralInfo src).map fun e => [e] else some []).map fun info =>
    { serviceId := src.serviceId
      filters := info ++
        (if filter.state then [api.encodeServiceStateInfo src] else []) ++
        (if filter.load then [api.encodeServiceLoadInfo src] else []) ++
        if filter.link then [api.encodeServiceLinkInfo src] else [] }

end RsslDirectoryApi

namespace DirectoryKey

def selects {Q S : Type*} (key : DirectoryKey) (src : ServiceSource Q S) : Bool :=
  match key.serviceId, key.name with
  | none, none => true
  | some serviceId, none => serviceId = src.serviceId
  | none, some name => name = src.name.bytes
  | some serviceId, some name => serviceId = src.serviceId ∧ name = src.name.bytes

end DirectoryKey

inductive DirectoryAnswer
  | rejected
  | nothing
  | refresh (map : List ServiceEntry)
  deriving DecidableEq, Repr

namespace RsslDirectoryApi

variable {Q S : Type*} (api : RsslDirectoryApi Q S)

def encodeSourceDirectoryResponse (src : ServiceSource Q S) (key : DirectoryKey) (filter : DirectoryFilter) :
    Option (List ServiceEntry) :=
  if key.selects src then (api.encodeSourceDirectoryInfo src filter).map fun e => [e] else some []

def processSourceDirectoryRequest (src : ServiceSource Q S) (key : DirectoryKey) : DirectoryAnswer :=
  match key.filter with
  | some filter =>
    if filter.info ∧ filter.state ∧ filter.group then
      match api.encodeSourceDirectoryResponse src key filter with
      | some map => .refresh map
      | none => .nothing
    else .rejected
  | none => .rejected

def encodeSourceDirectoryRequest : DirectoryKey where
  filter := some ⟨true, true, true, true, true, true⟩

end RsslDirectoryApi

end RmdsBridge
