import Mathlib.Tactic.Common

namespace RmdsBridge

/-- The codes from `RSSL_RET_SUCCESS` on, without `RSSL_RET_END_OF_CONTAINER`. -/
inductive GoodCode
  | success
  | blankData
  | warning (code : ℕ)
  deriving DecidableEq, Repr

abbrev DecodeRet := Except ℕ GoodCode

abbrev DecodeRet.success : DecodeRet := .ok .success

abbrev DecodeRet.failure : DecodeRet := .error 1

/-- What an iterator finds in a container: the entries, and after them its end or an error. `finish` is what
`rsslFinishDecodeEntries` returns there. -/
structure Container (α : Type) where
  entries : List (GoodCode × α)
  error : Option ℕ := none
  finish : DecodeRet := .success

/-- An error, once returned, is returned by every later call. -/
structure DecodeIterator where
  failed : Option ℕ := none
  deriving DecidableEq, Repr

inductive NextEntry (α : Type)
  | endOfContainer
  | entry (code : GoodCode) (a : α) (rest : Container α)
  | error (n : ℕ)

namespace DecodeIterator

def call (it : DecodeIterator) (ret : DecodeRet) : DecodeRet × DecodeIterator :=
  match it.failed, ret with
  | some n, _ => (.error n, it)
  | none, .error n => (.error n, { failed := some n })
  | none, .ok code => (.ok code, it)

def next {α : Type} (it : DecodeIterator) (c : Container α) : NextEntry α × DecodeIterator :=
  match c.entries with
  | [] =>
    match it.failed.or c.error with
    | some n => (.error n, { failed := some n })
    | none => (.endOfContainer, it)
  | (code, a) :: entries =>
    match it.failed with
    | some n => (.error n, it)
    | none => (.entry code a { c with entries }, it)

def finish {α : Type} (it : DecodeIterator) (c : Container α) : DecodeIterator := (it.call c.finish).2

end DecodeIterator

inductive RsslElementName
  | name
  | vendor
  | isSource
  | capabilities
  | dictionariesProvided
  | dictionariesUsed
  | qos
  | supportsQosRange
  | itemList
  | supportsOutOfBandSnapshots
  | acceptingConsumerStatus
  | svcState
  | acceptingRequests
  | status
  | group
  | mergedToGroup
  | openLimit
  | openWindow
  | loadFactor
  | type
  | data
  | linkState
  | linkCode
  | text
  | other
  deriving DecidableEq, Repr

/-- `value` is what the decoder of the element's own data returns, `values` has the entries of an array,
each with what the decoder of its value returns. -/
structure RsslElement where
  name : RsslElementName
  value : DecodeRet := .success
  values : Container DecodeRet := ⟨[], none, .success⟩

structure RsslElementList where
  decoded : DecodeRet
  elements : Container RsslElement

structure RsslLinkMap where
  decoded : DecodeRet
  keyIsAscii : Bool
  links : Container RsslElementList

inductive RsslFilterId
  | info
  | state
  | group
  | load
  | data
  | link
  | other (id : ℕ)
  deriving DecidableEq, Repr

structure RsslFilter where
  id : RsslFilterId
  elementList : RsslElementList
  linkMap : RsslLinkMap

structure RsslService where
  decoded : DecodeRet
  filters : Container RsslFilter

structure RsslDirectory where
  decoded : DecodeRet
  keyIsUInt : Bool
  services : Container RsslService

structure DirectoryLimits where
  maxCapabilities : ℕ
  maxQOS : ℕ
  maxDictionaries : ℕ
  maxLinks : ℕ

/-- The decoders that an element is given to: none, that of a value, or those of an array of up to `max`
entries, whose values are decoded or copied. -/
inductive ElementCall
  | copy
  | value
  | array (max : ℕ) (valued : Bool)
  deriving DecidableEq, Repr

def blankAllowed : DecodeRet → Bool
  | .ok .success | .ok .blankData => true
  | _ => false

/-- The loop over an array with room for `room` more entries; it looks for the room first. -/
def decodeArrayEntries (valued : Bool) :
    ℕ → Container DecodeRet → DecodeIterator → DecodeRet × DecodeIterator
  | 0, values, it =>
    match it.next values with
    | (.endOfContainer, it) => (.success, it)
    | (.entry _ _ _, it) | (.error _, it) => (.success, it.finish values)
  | room + 1, values, it =>
    match it.next values with
    | (.endOfContainer, it) => (.success, it)
    | (.entry .success value rest, it) =>
      if valued then
        match it.call value with
        | (ret, it) => if blankAllowed ret then decodeArrayEntries valued room rest it else (ret, it)
      else decodeArrayEntries valued room rest it
    | (.entry .blankData _ rest, it) => decodeArrayEntries valued room rest it
    | (.entry (.warning n) _ _, it) => (.ok (.warning n), it)
    | (.error n, it) => (.error n, it)

def decodeElement (call : ElementCall) (e : RsslElement) (it : DecodeIterator) : DecodeRet × DecodeIterator :=
  match call with
  | .copy => (.success, it)
  | .value =>
    match it.call e.value with
    | (ret, it) => if blankAllowed ret then (.success, it) else (ret, it)
  | .array max valued =>
    match it.call e.value with
    | (.error n, it) => (.error n, it)
    | (.ok _, it) => decodeArrayEntries valued max e.values it

def decodeElementEntries (call : RsslElementName → ElementCall) (error : Option ℕ) :
    List (GoodCode × RsslElement) → DecodeIterator → DecodeRet × DecodeIterator
  | [], it =>
    match it.failed.or error with
    | some n => (.error n, { failed := some n })
    | none => (.success, it)
  | (code, e) :: es, it =>
    match it.failed, code with
    | some n, _ => (.error n, it)
    | none, .success =>
      match decodeElement (call e.name) e it with
      | (.ok .success, it) => decodeElementEntries call error es it
      | (ret, it) => (ret, it)
    | none, code => (.ok code, it)

/-- The decoders of the element lists differ in what they do with an element of each name. -/
def decodeElementList (call : RsslElementName → ElementCall) (list : RsslElementList)
    (it : DecodeIterator) : DecodeRet × DecodeIterator :=
  match it.call list.decoded with
  | (.error n, it) => (.error n, it)
  | (.ok _, it) => decodeElementEntries call list.elements.error list.elements.entries it

def decodeServiceGeneralInfo (limits : DirectoryLimits) : RsslElementList → DecodeIterator →
    DecodeRet × DecodeIterator :=
  decodeElementList fun
    | .isSource | .supportsQosRange | .supportsOutOfBandSnapshots | .acceptingConsumerStatus => .value
    | .capabilities => .array limits.maxCapabilities true
    | .dictionariesProvided | .dictionariesUsed => .array limits.maxDictionaries false
    | .qos => .array limits.maxQOS true
    | _ => .copy

def decodeServiceStateInfo : RsslElementList → DecodeIterator → DecodeRet × DecodeIterator :=
  decodeElementList fun
    | .svcState | .acceptingRequests | .status => .value
    | _ => .copy

def decodeServiceGroupInfo : RsslElementList → DecodeIterator → DecodeRet × DecodeIterator :=
  decodeElementList fun
    | .status => .value
    | _ => .copy

def decodeServiceLoadInfo : RsslElementList → DecodeIterator → DecodeRet × DecodeIterator :=
  decodeElementList fun
    | .openLimit | .openWindow | .loadFactor => .value
    | _ => .copy

def decodeServiceDataInfo : RsslElementList → DecodeIterator → DecodeRet × DecodeIterator :=
  decodeElementList fun
    | .type => .value
    | _ => .copy

/-- The loop over the links with room for `room` more: an entry that does not decode takes room too. -/
def decodeLinkEntries : ℕ → Container RsslElementList → DecodeIterator → DecodeRet × DecodeIterator
  | 0, links, it =>
    match it.next links with
    | (.endOfContainer, it) => (.success, it)
    | (.entry _ _ _, it) | (.error _, it) => (.success, it.finish links)
  | room + 1, links, it =>
    match it.next links with
    | (.endOfContainer, it) => (.success, it)
    | (.entry .success list rest, it) =>
      let call : RsslElementName → ElementCall := fun
        | .type | .linkState | .linkCode => .value
        | _ => .copy
      match decodeElementList call list it with
      | (.ok .success, it) => decodeLinkEntries room rest it
      | (ret, it) => (ret, it)
    | (.entry _ _ rest, it) => decodeLinkEntries room rest it
    | (.error _, it) => decodeLinkEntries room links it

def decodeServiceLinkInfo (limits : DirectoryLimits) (map : RsslLinkMap) (it : DecodeIterator) :
    DecodeRet × DecodeIterator :=
  match it.call map.decoded with
  | (.error n, it) => (.error n, it)
  | (.ok _, it) =>
    if map.keyIsAscii then decodeLinkEntries limits.maxLinks map.links it else (.failure, it)

def decodeService (limits : DirectoryLimits) (f : RsslFilter) (it : DecodeIterator) :
    DecodeRet × DecodeIterator :=
  match f.id with
  | .info => decodeServiceGeneralInfo limits f.elementList it
  | .state => decodeServiceStateInfo f.elementList it
  | .group => decodeServiceGroupInfo f.elementList it
  | .load => decodeServiceLoadInfo f.elementList it
  | .data => decodeServiceDataInfo f.elementList it
  | .link => decodeServiceLinkInfo limits f.linkMap it
  | .other _ => (.failure, it)

inductive LoopExit
  | ended
  | returned (ret : DecodeRet)

def decodeFilterEntries (limits : DirectoryLimits) :
    ℕ → Container RsslFilter → DecodeIterator → Option (LoopExit × DecodeIterator)
  | 0, _, _ => none
  | turns + 1, filters, it =>
    match it.next filters with
    | (.endOfContainer, it) => some (.ended, it)
    | (.entry .success f rest, it) =>
      match decodeService limits f it with
      | (.ok .success, it) => decodeFilterEntries limits turns rest it
      | (ret, it) => some (.returned ret, it)
    | (.entry _ _ rest, it) => decodeFilterEntries limits turns rest it
    | (.error _, it) => decodeFilterEntries limits turns filters it

def decodeMapEntries (limits : DirectoryLimits) (filterTurns : ℕ) :
    ℕ → Container RsslService → DecodeIterator → Option (DecodeRet × DecodeIterator)
  | 0, _, _ => none
  | turns + 1, services, it =>
    match it.next services with
    | (.endOfContainer, it) => some (.success, it)
    | (.entry .success s rest, it) =>
      match it.call s.decoded with
      | (.error n, it) => some (.error n, it)
      | (.ok _, it) =>
        match decodeFilterEntries limits filterTurns s.filters it with
        | none => none
        | some (.returned ret, it) => some (ret, it)
        | some (.ended, it) => decodeMapEntries limits filterTurns turns rest it
    | (.entry _ _ rest, it) => decodeMapEntries limits filterTurns turns rest it
    | (.error _, it) => decodeMapEntries limits filterTurns turns services it

def decodeSourceDirectoryResponse (limits : DirectoryLimits) (turns : ℕ) (d : RsslDirectory)
    (it : DecodeIterator) : Option (DecodeRet × DecodeIterator) :=
  match it.call d.decoded with
  | (.error n, it) => some (.error n, it)
  | (.ok _, it) =>
    if d.keyIsUInt then decodeMapEntries limits turns turns d.services it else some (.failure, it)

section

variable {limits : DirectoryLimits} {filterTurns turns : ℕ} {code : GoodCode} {s : RsslService}
  {ss : List (GoodCode × RsslService)} {error : Option ℕ} {finish : DecodeRet}

theorem mapEntries_skip (hc : code ≠ .success) :
    decodeMapEntries limits filterTurns (turns + 1) ⟨(code, s) :: ss, error, finish⟩ {} =
      decodeMapEntries limits filterTurns turns ⟨ss, error, finish⟩ {} := by
  cases code with
  | success => exact absurd rfl hc
  | _ => rfl

theorem mapEntries_error {n : ℕ} (h : s.decoded = .error n) :
    decodeMapEntries limits filterTurns (turns + 1) ⟨(.success, s) :: ss, error, finish⟩ {} =
      some (.error n, { failed := some n }) := by
  simp [decodeMapEntries, DecodeIterator.next, DecodeIterator.call, h]

theorem mapEntries_decoded {g : GoodCode} (h : s.decoded = .ok g) :
    decodeMapEntries limits filterTurns (turns + 1) ⟨(.success, s) :: ss, error, finish⟩ {} =
      match decodeFilterEntries limits filterTurns s.filters {} with
      | none => none
      | some (.returned ret, it) => some (ret, it)
      | some (.ended, it) => decodeMapEntries limits filterTurns turns ⟨ss, error, finish⟩ it := by
  simp [decodeMapEntries, DecodeIterator.next, DecodeIterator.call, h]

end

end RmdsBridge
