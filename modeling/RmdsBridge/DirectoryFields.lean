import RmdsBridge.DirectoryCodec

namespace RmdsBridge

namespace RsslDirectoryApi

variable {Q S : Type*} (api : RsslDirectoryApi Q S)

def readText (data : List UInt8) (_ : DirectoryText) : Option DirectoryText := some (.copy data)

def readQos (data : List UInt8) (old : Q) : Option Q := (api.decodeQos data).map fun q => q.getD old

def readState (data : List UInt8) (old : S) : Option S := (api.decodeState data).map fun s => s.getD old

def readArray {α : Type*} {n : ℕ} (read : List UInt8 → α → Option α) (data : List UInt8)
    (slots : Fin n → α) : Option (Fin n → α) :=
  (api.decodeArray data).bind fun items => fillSlots read 0 slots items.1 items.2

def putGeneralInfo (r : RsslServiceGeneralInfo Q) (element : RsslElementName) (data : List UInt8) :
    Option (RsslServiceGeneralInfo Q) :=
  match element with
  | .name => some { r with serviceName := .copy data }
  | .vendor => some { r with vendor := .copy data }
  | .isSource => (api.readUInt data r.isSource).map fun n => { r with isSource := n }
  | .capabilities =>
    (api.readArray api.readUInt data r.capabilities).map fun slots => { r with capabilities := slots }
  | .dictionariesProvided =>
    (api.readArray readText data r.dictionariesProvided).map fun slots =>
      { r with dictionariesProvided := slots }
  | .dictionariesUsed =>
    (api.readArray readText data r.dictionariesUsed).map fun slots => { r with dictionariesUsed := slots }
  | .qos => (api.readArray api.readQos data r.qos).map fun slots => { r with qos := slots }
  | .supportsQosRange => (api.readUInt data r.supportsQosRange).map fun n => { r with supportsQosRange := n }
  | .itemList => some { r with itemList := .copy data }
  | .supportsOutOfBandSnapshots =>
    (api.readUInt data r.supportsOutOfBandSnapshots).map fun n => { r with supportsOutOfBandSnapshots := n }
  | .acceptingConsumerStatus =>
    (api.readUInt data r.acceptingConsumerStatus).map fun n => { r with acceptingConsumerStatus := n }
  | _ => some r

def putStateInfo (r : RsslServiceStateInfo S) (element : RsslElementName) (data : List UInt8) :
    Option (RsslServiceStateInfo S) :=
  match element with
  | .svcState => (api.readUInt data r.serviceState).map fun n => { r with serviceState := n }
  | .acceptingRequests => (api.readUInt data r.acceptingRequests).map fun n => { r with acceptingRequests := n }
  | .status => (api.readState data r.status).map fun s => { r with status := s }
  | _ => some r

def putLoadInfo (r : RsslServiceLoadInfo) (element : RsslElementName) (data : List UInt8) :
    Option RsslServiceLoadInfo :=
  match element with
  | .openLimit => (api.readUInt data r.openLimit).map fun n => { r with openLimit := n }
  | .openWindow => (api.readUInt data r.openWindow).map fun n => { r with openWindow := n }
  | .loadFactor => (api.readUInt data r.loadFactor).map fun n => { r with loadFactor := n }
  | _ => some r

def putLinkInfo (r : RsslServiceLinkInfo) (element : RsslElementName) (data : List UInt8) :
    Option RsslServiceLinkInfo :=
  match element with
  | .type => (api.readUInt data r.type).map fun n => { r with type := n }
  | .linkState => (api.readUInt data r.linkState).map fun n => { r with linkState := n }
  | .linkCode => (api.readUInt data r.linkCode).map fun n => { r with linkCode := n }
  | .text => some { r with text := .copy data }
  | _ => some r

def decodeElements {R : Type*} (put : R → RsslElementName → List UInt8 → Option R) (r : R)
    (elements : List DirectoryElement) : Option R :=
  let (r, ok) := NamedFields.fill put r elements
  if ok then some r else none

def decodeLinks : ℕ → (Fin maxLinks → RsslServiceLinkInfo) → List (List UInt8 × List DirectoryElement) →
    Option (Fin maxLinks → RsslServiceLinkInfo)
  | _, slots, [] => some slots
  | i, slots, (linkName, elements) :: links =>
    if h : i < maxLinks then
      match decodeElements api.putLinkInfo { slots ⟨i, h⟩ with linkName := .copy linkName } elements with
      | some link => decodeLinks (i + 1) (Function.update slots ⟨i, h⟩ link) links
      | none => none
    else some slots

def decodeFilter (x : ServiceInfo Q S × Bool) : DirectoryFilterEntry → Option (ServiceInfo Q S × Bool)
  | .info elements =>
    (decodeElements api.putGeneralInfo x.1.general elements).map fun r => ({ x.1 with general := r }, x.2)
  | .state elements =>
    (decodeElements api.putStateInfo x.1.state elements).map fun r => ({ x.1 with state := r }, true)
  | .load elements =>
    (decodeElements api.putLoadInfo x.1.load elements).map fun r => ({ x.1 with load := r }, x.2)
  | .link links => (api.decodeLinks 0 x.1.links links).map fun r => ({ x.1 with links := r }, x.2)

/-- `ResetSourceDirRespInfo`. -/
def clearedInfo (serviceId : ℕ) : ServiceInfo Q S where
  serviceId := serviceId
  general := { qos := fun _ => api.clearedQos }
  state := { status := api.clearedState }

def decodeService (e : ServiceEntry) : Option (ServiceInfo Q S × Bool) :=
  e.filters.foldlM api.decodeFilter (api.clearedInfo e.serviceId, false)

def decodeSourceDirectoryResponse : List ServiceEntry → List (ServiceInfo Q S) × Bool
  | [] => ([], true)
  | e :: es =>
    match api.decodeService e with
    | some (info, hasStateInfo) =>
      let (infos, ok) := decodeSourceDirectoryResponse es
      (if hasStateInfo then info :: infos else infos, ok)
    | none => ([], false)

end RsslDirectoryApi

def ServiceSource.toInfo {Q S : Type*} (src : ServiceSource Q S) (api : RsslDirectoryApi Q S)
    (filter : DirectoryFilter) : ServiceInfo Q S :=
  let dictionaries : Fin maxDictionaries → DirectoryText := fun j =>
    ([src.fieldDictionaryName, src.enumTypeDictionaryName][(j : ℕ)]?).getD .empty
  { api.clearedInfo src.serviceId with
    general :=
      if filter.info then
        { serviceName := src.name
          capabilities := fun j => if ∀ k ≤ j, src.capabilities k ≠ 0 then src.capabilities j else 0
          dictionariesProvided := dictionaries
          dictionariesUsed := dictionaries
          qos := fun j => ([src.qos][(j : ℕ)]?).getD api.clearedQos
          supportsOutOfBandSnapshots := src.supportOutOfBandSnapshots
          acceptingConsumerStatus := src.acceptConsumerStatus }
      else { qos := fun _ => api.clearedQos }
    state :=
      if filter.state then ⟨src.serviceState, src.acceptingRequests, src.status⟩
      else { status := api.clearedState }
    load := if filter.load then ⟨src.openLimit, src.openWindow, src.loadFactor⟩ else {}
    links :=
      if filter.link then
        Function.update (fun _ => {}) ⟨0, by decide⟩
          ⟨src.linkName, src.linkType, src.linkState, src.linkCode, src.linkText⟩
      else fun _ => {} }

end RmdsBridge
