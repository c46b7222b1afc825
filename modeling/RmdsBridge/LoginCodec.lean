import Mathlib.Data.Nat.Digits.Defs
import Mathlib.Data.Nat.Digits.Lemmas
import RmdsBridge.CharArray
import RmdsBridge.Login
import RmdsBridge.NamedFields

namespace RmdsBridge

def maxLoginInfoStrlen : ℕ := 128

abbrev LoginText := CharArray maxLoginInfoStrlen

instance : NeZero maxLoginInfoStrlen := ⟨by decide⟩

inductive LoginElementName
  | appId
  | appName
  | position
  | password
  | provPermProf
  | provPermExp
  | singleOpen
  | allowSuspectData
  | instId
  | role
  | downloadConConfig
  | disableDataConversion
  | supportPR
  | supportOPR
  | supportPost
  | supportView
  | supportBatch
  | supportStandby
  | other
  deriving DecidableEq, Repr

abbrev LoginElement := LoginElementName × List UInt8

/-- `rsslEncodeElementEntry` of a number and `rsslDecodeUInt`, which fails, finds the data blank and
leaves the number, or reads it. -/
structure RsslUIntApi where
  encodeUInt : UInt64 → List UInt8
  decodeUInt : List UInt8 → Option (Option UInt64)

/-- The attributes of a message key as they are found: whether they and their element list can be read,
the elements, and whether the list ends after them or in an error. -/
structure LoginAttrib where
  decodes : Bool := true
  elements : List LoginElement := []
  ends : Bool := true
  deriving DecidableEq, Repr

inductive LoginNameType
  | userName
  | other
  deriving DecidableEq, Repr

structure LoginRequestMsg where
  streamId : ℤ
  name : Option (List UInt8)
  nameType : Option LoginNameType
  attrib : LoginAttrib
  deriving DecidableEq, Repr

structure LoginRefreshMsg where
  streamId : ℤ
  solicited : Bool
  state : LoginState
  name : Option (List UInt8)
  attrib : LoginAttrib
  deriving DecidableEq, Repr

structure RsslLoginRequestInfo where
  streamId : ℤ := 0
  username : LoginText := .empty
  applicationId : LoginText := .empty
  applicationName : LoginText := .empty
  position : LoginText := .empty
  password : LoginText := .empty
  providePermissionProfile : UInt64 := 0
  providePermissionExpressions : UInt64 := 0
  singleOpen : UInt64 := 0
  allowSuspectData : UInt64 := 0
  instanceId : LoginText := .empty
  role : UInt64 := 0
  downloadConnectionConfig : UInt64 := 0
  deriving DecidableEq, Repr

structure RsslLoginResponseInfo where
  streamId : ℤ := 0
  username : LoginText := .empty
  applicationId : LoginText := .empty
  applicationName : LoginText := .empty
  position : LoginText := .empty
  providePermissionProfile : UInt64 := 0
  providePermissionExpressions : UInt64 := 0
  singleOpen : UInt64 := 0
  allowSuspectData : UInt64 := 0
  supportPauseResume : UInt64 := 0
  supportOptimizedPauseResume : UInt64 := 0
  supportOMMPost : UInt64 := 0
  supportViewRequests : UInt64 := 0
  supportBatchRequests : UInt64 := 0
  supportStandby : UInt64 := 0
  isSolicited : Bool := false
  deriving DecidableEq, Repr

/-- What a `UPALogin` logs in with; `position` is the address of the host with "/net", or "localhost". -/
structure LoginSettings where
  userName : List UInt8
  appID : List UInt8
  appName : List UInt8
  position : List UInt8
  password : List UInt8
  instanceId : List UInt8
  provider : Bool
  singleOpen : Bool
  disableDataConversion : Bool

def loginStreamId : ℤ := 1

def LoginSettings.loginReqInfo (s : LoginSettings) : RsslLoginRequestInfo where
  streamId := loginStreamId
  username := .copy s.userName
  applicationId := .copy s.appID
  applicationName := .copy s.appName
  position := .copy s.position
  password := .copy s.password
  providePermissionProfile := 1
  providePermissionExpressions := 1
  singleOpen := if s.provider ∧ ¬ s.singleOpen then 0 else 1
  allowSuspectData := 1
  instanceId := .copy s.instanceId
  role := if s.provider then 1 else 0

namespace RsslUIntApi

variable (api : RsslUIntApi)

def encodeLoginRequest (disableDataConversion : Bool) (r : RsslLoginRequestInfo) : LoginRequestMsg where
  streamId := r.streamId
  name := some r.username.bytes
  nameType := some .userName
  attrib := { elements :=
    [(.appId, r.applicationId.bytes),
      (.appName, r.applicationName.bytes),
      (.position, r.position.bytes),
      (.password, r.password.bytes),
      (.provPermProf, api.encodeUInt r.providePermissionProfile),
      (.provPermExp, api.encodeUInt r.providePermissionExpressions),
      (.singleOpen, api.encodeUInt r.singleOpen),
      (.allowSuspectData, api.encodeUInt r.allowSuspectData),
      (.instId, r.instanceId.bytes),
      (.role, api.encodeUInt r.role),
      (.downloadConConfig, api.encodeUInt r.downloadConnectionConfig)] ++
      if disableDataConversion then [(.disableDataConversion, api.encodeUInt 1)] else [] }

def readUInt (data : List UInt8) (old : UInt64) : Option UInt64 :=
  (api.decodeUInt data).map fun n => n.getD old

def putRequestElement (r : RsslLoginRequestInfo) (name : LoginElementName) (data : List UInt8) :
    Option RsslLoginRequestInfo :=
  match name with
  | .appId => some { r with applicationId := .copy data }
  | .appName => some { r with applicationName := .copy data }
  | .position => some { r with position := .copy data }
  | .password => some { r with password := .copy data }
  | .provPermProf =>
    (api.readUInt data r.providePermissionProfile).map fun n => { r with providePermissionProfile := n }
  | .provPermExp =>
    (api.readUInt data r.providePermissionExpressions).map fun n =>
      { r with providePermissionExpressions := n }
  | .singleOpen => (api.readUInt data r.singleOpen).map fun n => { r with singleOpen := n }
  | .allowSuspectData => (api.readUInt data r.allowSuspectData).map fun n => { r with allowSuspectData := n }
  | .instId => some { r with instanceId := .copy data }
  | .role => (api.readUInt data r.role).map fun n => { r with role := n }
  | .downloadConConfig =>
    (api.readUInt data r.downloadConnectionConfig).map fun n => { r with downloadConnectionConfig := n }
  | .disableDataConversion | .supportPR | .supportOPR | .supportPost | .supportView | .supportBatch
  | .supportStandby | .other => some r

/-- With whether it returns `RSSL_RET_SUCCESS`; `r` is what the record held before. -/
def decodeLoginRequest (r : RsslLoginRequestInfo) (m : LoginRequestMsg) : RsslLoginRequestInfo × Bool :=
  let r := { r with streamId := m.streamId, username := .copy (m.name.getD []) }
  if m.attrib.decodes then
    let (r, ok) := NamedFields.fill api.putRequestElement r m.attrib.elements
    (r, ok && m.attrib.ends)
  else (r, false)

def encodeLoginResponse (r : RsslLoginResponseInfo) : LoginRefreshMsg where
  streamId := r.streamId
  solicited := true
  state := ⟨.open, .ok, false⟩
  name := some r.username.bytes
  attrib := { elements :=
    [(.appId, r.applicationId.bytes),
      (.appName, r.applicationName.bytes),
      (.position, r.position.bytes),
      (.provPermProf, api.encodeUInt r.providePermissionProfile),
      (.provPermExp, api.encodeUInt r.providePermissionExpressions),
      (.singleOpen, api.encodeUInt r.singleOpen),
      (.allowSuspectData, api.encodeUInt r.allowSuspectData),
      (.supportPR, api.encodeUInt r.supportPauseResume),
      (.supportOPR, api.encodeUInt r.supportOptimizedPauseResume),
      (.supportPost, api.encodeUInt r.supportOMMPost),
      (.supportView, api.encodeUInt r.supportViewRequests),
      (.supportBatch, api.encodeUInt r.supportBatchRequests),
      (.supportStandby, api.encodeUInt r.supportStandby)] }

def putResponseElement (r : RsslLoginResponseInfo) (name : LoginElementName) (data : List UInt8) :
    Option RsslLoginResponseInfo :=
  match name with
  | .allowSuspectData => (api.readUInt data r.allowSuspectData).map fun n => { r with allowSuspectData := n }
  | .appId => some { r with applicationId := .copy data }
  | .appName => some { r with applicationName := .copy data }
  | .position => some { r with position := .copy data }
  | .provPermExp =>
    (api.readUInt data r.providePermissionExpressions).map fun n =>
      { r with providePermissionExpressions := n }
  | .provPermProf =>
    (api.readUInt data r.providePermissionProfile).map fun n => { r with providePermissionProfile := n }
  | .singleOpen => (api.readUInt data r.singleOpen).map fun n => { r with singleOpen := n }
  | .supportPost => (api.readUInt data r.supportOMMPost).map fun n => { r with supportOMMPost := n }
  | .supportPR => (api.readUInt data r.supportPauseResume).map fun n => { r with supportPauseResume := n }
  | .supportStandby => (api.readUInt data r.supportStandby).map fun n => { r with supportStandby := n }
  | .supportBatch =>
    (api.readUInt data r.supportBatchRequests).map fun n => { r with supportBatchRequests := n }
  | .supportView =>
    (api.readUInt data r.supportViewRequests).map fun n => { r with supportViewRequests := n }
  | .supportOPR =>
    (api.readUInt data r.supportOptimizedPauseResume).map fun n =>
      { r with supportOptimizedPauseResume := n }
  | .password | .instId | .role | .downloadConConfig | .disableDataConversion | .other => some r

/-- Into the record that `clearLoginRespInfo` has cleared. -/
def decodeLoginResponse (m : LoginRefreshMsg) : RsslLoginResponseInfo × Bool :=
  let r : RsslLoginResponseInfo :=
    { streamId := m.streamId, isSolicited := m.solicited, username := .copy (m.name.getD []) }
  if m.attrib.decodes then
    let (r, ok) := NamedFields.fill api.putResponseElement r m.attrib.elements
    (r, ok && m.attrib.ends)
  else (r, false)

def loginMsg (m : LoginRefreshMsg) : LoginMsg :=
  let (r, decodes) := api.decodeLoginResponse m
  .refresh r.isSolicited m.state decodes

end RsslUIntApi

inductive LoginAnswer
  | rejected (streamId : ℤ) (state : LoginState)
  | failed
  | accepted (msg : LoginRefreshMsg)
  deriving DecidableEq, Repr

/-- `r` is what the record for the request, which is not initialised, happens to hold. -/
def RsslUIntApi.processLoginRequest (api : RsslUIntApi) (acceptsPosts : Bool) (r : RsslLoginRequestInfo)
    (m : LoginRequestMsg) : LoginAnswer :=
  if m.name = none ∨ m.nameType = some .other then
    .rejected m.streamId ⟨.closedRecover, .suspect, false⟩
  else
    match api.decodeLoginRequest r m with
    | (_, false) => .failed
    | (info, true) =>
      .accepted (api.encodeLoginResponse
        { streamId := info.streamId
          username := .copy info.username.bytes
          applicationId := .copy [50, 53, 53]
          applicationName := .copy [66, 114, 105, 100, 103, 101]
          position := .copy info.position.bytes
          supportOMMPost := if acceptsPosts then 1 else 0 })

inductive LoginValue
  | text (t : LoginText)
  | number (n : UInt64)
  deriving DecidableEq, Repr

def RsslUIntApi.encodeValue (api : RsslUIntApi) : LoginValue → List UInt8
  | .text t => t.bytes
  | .number n => api.encodeUInt n

def RsslLoginRequestInfo.value (r : RsslLoginRequestInfo) : LoginElementName → Option LoginValue
  | .appId => some (.text r.applicationId)
  | .appName => some (.text r.applicationName)
  | .position => some (.text r.position)
  | .password => some (.text r.password)
  | .provPermProf => some (.number r.providePermissionProfile)
  | .provPermExp => some (.number r.providePermissionExpressions)
  | .singleOpen => some (.number r.singleOpen)
  | .allowSuspectData => some (.number r.allowSuspectData)
  | .instId => some (.text r.instanceId)
  | .role => some (.number r.role)
  | .downloadConConfig => some (.number r.downloadConnectionConfig)
  | .disableDataConversion | .supportPR | .supportOPR | .supportPost | .supportView | .supportBatch
  | .supportStandby | .other => none

def RsslLoginResponseInfo.value (r : RsslLoginResponseInfo) : LoginElementName → Option LoginValue
  | .appId => some (.text r.applicationId)
  | .appName => some (.text r.applicationName)
  | .position => some (.text r.position)
  | .provPermProf => some (.number r.providePermissionProfile)
  | .provPermExp => some (.number r.providePermissionExpressions)
  | .singleOpen => some (.number r.singleOpen)
  | .allowSuspectData => some (.number r.allowSuspectData)
  | .supportPR => some (.number r.supportPauseResume)
  | .supportOPR => some (.number r.supportOptimizedPauseResume)
  | .supportPost => some (.number r.supportOMMPost)
  | .supportView => some (.number r.supportViewRequests)
  | .supportBatch => some (.number r.supportBatchRequests)
  | .supportStandby => some (.number r.supportStandby)
  | .password | .instId | .role | .downloadConConfig | .disableDataConversion | .other => none

theorem RsslLoginRequestInfo.ext_value {r r' : RsslLoginRequestInfo} (hs : r.streamId = r'.streamId)
    (hu : r.username = r'.username) (hv : ∀ n, r.value n = r'.value n) : r = r' := by
  have h1 := hv .appId
  have h2 := hv .appName
  have h3 := hv .position
  have h4 := hv .password
  have h5 := hv .provPermProf
  have h6 := hv .provPermExp
  have h7 := hv .singleOpen
  have h8 := hv .allowSuspectData
  have h9 := hv .instId
  have h10 := hv .role
  have h11 := hv .downloadConConfig
  simp only [value, Option.some.injEq, LoginValue.text.injEq, LoginValue.number.injEq] at *
  cases r
  simp_all

theorem RsslLoginResponseInfo.ext_value {r r' : RsslLoginResponseInfo} (hs : r.streamId = r'.streamId)
    (hu : r.username = r'.username) (hi : r.isSolicited = r'.isSolicited)
    (hv : ∀ n, r.value n = r'.value n) : r = r' := by
  have h1 := hv .appId
  have h2 := hv .appName
  have h3 := hv .position
  have h4 := hv .provPermProf
  have h5 := hv .provPermExp
  have h6 := hv .singleOpen
  have h7 := hv .allowSuspectData
  have h8 := hv .supportPR
  have h9 := hv .supportOPR
  have h10 := hv .supportPost
  have h11 := hv .supportView
  have h12 := hv .supportBatch
  have h13 := hv .supportStandby
  simp only [value, Option.some.injEq, LoginValue.text.injEq, LoginValue.number.injEq] at *
  cases r
  simp_all

def LoginSettings.acceptedInfo (s : LoginSettings) (acceptsPosts : Bool) : RsslLoginResponseInfo where
  streamId := loginStreamId
  username := .copy s.userName
  applicationId := .copy [50, 53, 53]
  applicationName := .copy [66, 114, 105, 100, 103, 101]
  position := .copy s.position
  supportOMMPost := if acceptsPosts then 1 else 0
  isSolicited := true

end RmdsBridge
