import RmdsBridge.Rssl
import RmdsBridge.SubscriberSteps

namespace RmdsBridge

/-- A filter entry of a service; of INFO and STATE the elements that the subscriber is told. -/
inductive RsslFilterEntry
  | info (name : Option String)
  | state (serviceState acceptingRequests : Option ℕ)
  | group
  | load
  | data
  | link
  deriving DecidableEq, Repr

structure DirectoryEntry where
  action : RsslMapEntryAction
  serviceId : ℕ
  filters : List RsslFilterEntry
  deriving DecidableEq, Repr

structure RsslSourceDirectoryResponseInfo where
  serviceId : ℕ := 0
  serviceName : String := ""
  serviceState : ℕ := 0
  acceptingRequests : ℕ := 0
  deriving DecidableEq, Repr

def maxSourceDirInfoStrLength : ℕ := 256

/-- `strncpy` into an array of that length, read back up to its first zero. -/
def copyName (name : String) : String :=
  String.ofList ((name.toList.take (maxSourceDirInfoStrLength - 1)).takeWhile fun c => c.toNat ≠ 0)

def decodeFilterEntry (x : RsslSourceDirectoryResponseInfo × Bool) :
    RsslFilterEntry → RsslSourceDirectoryResponseInfo × Bool
  | .info none => x
  | .info (some name) => ({ x.1 with serviceName := copyName name }, x.2)
  | .state serviceState acceptingRequests =>
    ({ x.1 with
        serviceState := serviceState.getD x.1.serviceState
        acceptingRequests := acceptingRequests.getD x.1.acceptingRequests }, true)
  | .group | .load | .data | .link => x

def decodeMapEntry (e : DirectoryEntry) : RsslSourceDirectoryResponseInfo × Bool :=
  e.filters.foldl decodeFilterEntry ({ serviceId := e.serviceId }, false)

/-- A message has the entries up to the one that does not decode, if there is one. -/
inductive DirectoryMsg
  | refresh (map : List DirectoryEntry) (decodes : Bool)
  | update (map : List DirectoryEntry)
  | close
  | status
  deriving DecidableEq, Repr

namespace RMDSSubscriber

def sourceDirectoryInfo (r : RMDSSubscriber) (info : RsslSourceDirectoryResponseInfo) : RMDSSubscriber :=
  r.sourceDirectoryUpdate info.serviceId info.serviceName (info.serviceState ≠ 0)
    (info.acceptingRequests ≠ 0)

def sourceDirectoryEntry (r : RMDSSubscriber) (e : DirectoryEntry) : RMDSSubscriber :=
  let (info, hasStateInfo) := decodeMapEntry e
  if hasStateInfo then r.sourceDirectoryInfo info else r

def decodeSourceDirectoryResponse (r : RMDSSubscriber) (map : List DirectoryEntry) : RMDSSubscriber :=
  map.foldl sourceDirectoryEntry r

def processSourceDirectoryResponse (r : RMDSSubscriber) : DirectoryMsg → RMDSSubscriber
  | .refresh map decodes => (r.decodeSourceDirectoryResponse map).sourceDirectoryRefreshComplete decodes
  | .update map => r.decodeSourceDirectoryResponse map
  | .close | .status => r

end RMDSSubscriber

namespace RsslFilterEntry

def name : RsslFilterEntry → Option String
  | .info name => name
  | _ => none

def serviceState : RsslFilterEntry → Option ℕ
  | .state serviceState _ => serviceState
  | _ => none

def acceptingRequests : RsslFilterEntry → Option ℕ
  | .state _ acceptingRequests => acceptingRequests
  | _ => none

def isState : RsslFilterEntry → Bool
  | .state _ _ => true
  | _ => false

end RsslFilterEntry

namespace DirectoryEntry

def name (e : DirectoryEntry) : Option String := (e.filters.filterMap RsslFilterEntry.name).getLast?

def serviceState (e : DirectoryEntry) : Option ℕ :=
  (e.filters.filterMap RsslFilterEntry.serviceState).getLast?

def acceptingRequests (e : DirectoryEntry) : Option ℕ :=
  (e.filters.filterMap RsslFilterEntry.acceptingRequests).getLast?

def hasState (e : DirectoryEntry) : Bool := e.filters.any RsslFilterEntry.isState

def createdName (e : DirectoryEntry) : String := (e.name.map copyName).getD ""

end DirectoryEntry

theorem getLast?_filterMap_cons {α β : Type} (f : α → Option β) (a : α) (as : List α) :
    ((a :: as).filterMap f).getLast? = (as.filterMap f).getLast?.or (f a) := by
  cases h : f a with
  | none => rw [List.filterMap_cons_none h, Option.or_none]
  | some b => rw [List.filterMap_cons_some h, List.getLast?_cons, ← Option.or_some]

theorem foldl_decodeFilterEntry (fs : List RsslFilterEntry) (x : RsslSourceDirectoryResponseInfo × Bool) :
    fs.foldl decodeFilterEntry x =
      (⟨x.1.serviceId,
        ((fs.filterMap RsslFilterEntry.name).getLast?.map copyName).getD x.1.serviceName,
        (fs.filterMap RsslFilterEntry.serviceState).getLast?.getD x.1.serviceState,
        (fs.filterMap RsslFilterEntry.acceptingRequests).getLast?.getD x.1.acceptingRequests⟩,
        x.2 || fs.any RsslFilterEntry.isState) := by
  induction fs generalizing x with
  | nil => simp
  | cons f fs ih =>
    simp only [List.foldl_cons, ih, getLast?_filterMap_cons, List.any_cons]
    generalize (fs.filterMap RsslFilterEntry.name).getLast? = n
    generalize (fs.filterMap RsslFilterEntry.serviceState).getLast? = s
    generalize (fs.filterMap RsslFilterEntry.acceptingRequests).getLast? = a
    cases f with
    | info n' =>
      cases n' <;> cases n <;> simp [decodeFilterEntry, RsslFilterEntry.name,
        RsslFilterEntry.serviceState, RsslFilterEntry.acceptingRequests, RsslFilterEntry.isState]
    | state s' a' =>
      cases s <;> cases a <;> simp [decodeFilterEntry, RsslFilterEntry.name,
        RsslFilterEntry.serviceState, RsslFilterEntry.acceptingRequests, RsslFilterEntry.isState]
    | _ =>
      simp [decodeFilterEntry, RsslFilterEntry.name, RsslFilterEntry.serviceState,
        RsslFilterEntry.acceptingRequests, RsslFilterEntry.isState]

theorem decodeMapEntry_eq (e : DirectoryEntry) : decodeMapEntry e =
    (⟨e.serviceId, e.createdName, e.serviceState.getD 0, e.acceptingRequests.getD 0⟩, e.hasState) := by
  rw [decodeMapEntry, foldl_decodeFilterEntry, Bool.false_or]
  rfl

theorem DirectoryEntry.of_no_state {e : DirectoryEntry} (h : e.hasState = false) :
    e.serviceState = none ∧ e.acceptingRequests = none := by
  have hf : ∀ f ∈ e.filters, f.isState = false := by simpa [hasState] using h
  have hnone : ∀ f ∈ e.filters, f.serviceState = none ∧ f.acceptingRequests = none := by
    intro f hm
    cases f with
    | state s a => cases hf _ hm
    | _ => exact ⟨rfl, rfl⟩
  constructor
  · rw [serviceState, List.filterMap_eq_nil_iff.mpr fun f hm => (hnone f hm).1]
    rfl
  · rw [acceptingRequests, List.filterMap_eq_nil_iff.mpr fun f hm => (hnone f hm).2]
    rfl

namespace RMDSSources

def state (m : RMDSSources) (keyId : ℕ) : Option (Bool × Bool) :=
  (m.servicesMap.find keyId).map fun src => (src.state, src.acceptConnections)

def calls (src : RMDSSource) (newState : Bool) : List (Event ℕ ℕ) :=
  if src.state ∧ ¬ newState then src.subscriptions.values.map .setStale
  else if ¬ src.state ∧ newState then src.subscriptions.values.map .setLive
  else []

def transitions (m m' : RMDSSources) : List (Event ℕ ℕ) :=
  m.servicesMap.entries.flatMap fun x => ((m'.state x.1).map fun st => calls x.2 st.1).getD []

theorem calls_self (src : RMDSSource) : calls src src.state = [] := by
  simp only [calls]
  cases src.state <;> simp

theorem transitions_self (m : RMDSSources) : m.transitions m = [] := by
  simp only [transitions, List.flatMap_eq_nil_iff]
  intro x hx
  have hf : m.servicesMap.find x.1 = some x.2 := UnorderedMap.mem_entries_iff.mp hx
  simp [state, hf, calls_self]

theorem set_state {m : RMDSSources} {src' : RMDSSource} (keyId k : ℕ) :
    (m.set keyId src').state k =
      if k = keyId then some (src'.state, src'.acceptConnections) else m.state k := by
  simp only [state, set, UnorderedMap.find_insert]
  split_ifs <;> rfl

theorem transitions_of_state {m m' : RMDSSources} (keyId : ℕ) (h : ∀ k ≠ keyId, m'.state k = m.state k) :
    m.transitions m' =
      ((m.servicesMap.find keyId).bind fun src => (m'.state keyId).map fun st => calls src st.1).getD [] := by
  have hother : ∀ x ∈ m.servicesMap.entries, x.1 ≠ keyId →
      ((m'.state x.1).map fun st => calls x.2 st.1).getD [] = [] := by
    intro x hx hk
    have hf : m.servicesMap.find x.1 = some x.2 := UnorderedMap.mem_entries_iff.mp hx
    rw [h x.1 hk]
    simp [state, hf, calls_self]
  rw [transitions, UnorderedMap.flatMap_entries_of_single _ hother]
  cases m.servicesMap.find keyId with
  | none => rfl
  | some src => rfl

end RMDSSources

namespace RMDSSubscriber

variable {r : RMDSSubscriber} {keyId : ℕ} {src : RMDSSource}

theorem setSourceState_eq (h : r.sources.servicesMap.find keyId = some src)
    (newState acceptConnections : Bool) :
    r.setSourceState keyId newState acceptConnections =
      { r with
        sources := r.sources.set keyId
          { src with state := newState, acceptConnections := acceptConnections }
        consumer := (RMDSSources.calls src newState).foldl UPAConsumer.step r.consumer } := by
  simp only [setSourceState, h, RMDSSources.calls, callAll_eq]
  split_ifs <;> rfl

theorem updateOrCreate_of_find (h : r.sources.servicesMap.find keyId = some src) (keyName : String)
    (newState acceptConnections : Bool) :
    r.updateOrCreate keyId keyName newState acceptConnections =
      { r with
        sources := r.sources.set keyId
          { src with state := newState, acceptConnections := acceptConnections }
        consumer := (RMDSSources.calls src newState).foldl UPAConsumer.step r.consumer } := by
  simp only [updateOrCreate, h, Option.isSome_some, if_true]
  exact setSourceState_eq h newState acceptConnections

theorem updateOrCreate_of_none (h : r.sources.servicesMap.find keyId = none) (keyName : String)
    (newState acceptConnections : Bool) :
    r.updateOrCreate keyId keyName newState acceptConnections =
      { r with
        sources := (r.sources.create keyId keyName (r.configDomain keyName)).set keyId
          { serviceName := keyName, sourceDomain := sourceDomain (r.configDomain keyName),
            state := newState, acceptConnections := acceptConnections } } := by
  have hf : (r.sources.create keyId keyName (r.configDomain keyName)).servicesMap.find keyId =
      some { serviceName := keyName, sourceDomain := sourceDomain (r.configDomain keyName) } :=
    UnorderedMap.find_insert_self _ _ _
  simp only [updateOrCreate, h, Option.isSome_none, Bool.false_eq_true, if_false]
  refine (setSourceState_eq hf newState acceptConnections).trans ?_
  have hnil : ∀ d, RMDSSources.calls { serviceName := keyName, sourceDomain := d } newState = [] := by
    intro d
    cases newState <;> rfl
  rw [hnil]
  rfl

theorem updateOrCreate_state (r : RMDSSubscriber) (keyId : ℕ) (keyName : String)
    (newState acceptConnections : Bool) (k : ℕ) :
    (r.updateOrCreate keyId keyName newState acceptConnections).sources.state k =
      if k = keyId then some (newState, acceptConnections) else r.sources.state k := by
  cases h : r.sources.servicesMap.find keyId with
  | some src =>
    rw [updateOrCreate_of_find h]
    exact RMDSSources.set_state keyId k
  | none =>
    rw [updateOrCreate_of_none h, RMDSSources.set_state]
    by_cases hk : k = keyId
    · rw [if_pos hk, if_pos hk]
    · simp only [if_neg hk, RMDSSources.state, RMDSSources.create, UnorderedMap.find_insert]

theorem updateOrCreate_find (r : RMDSSubscriber) (keyId : ℕ) (keyName : String)
    (newState acceptConnections : Bool) (n : String) :
    (r.updateOrCreate keyId keyName newState acceptConnections).sources.serviceNameMap.find n =
      if r.sources.state keyId = none ∧ n = keyName then some keyId
      else r.sources.serviceNameMap.find n := by
  cases h : r.sources.servicesMap.find keyId with
  | some src =>
    rw [updateOrCreate_of_find h, if_neg (by simp [RMDSSources.state, h])]
    rfl
  | none =>
    rw [updateOrCreate_of_none h]
    simp only [RMDSSources.set, RMDSSources.create, RMDSSources.state, UnorderedMap.find_insert, h,
      Option.map_none, true_and]

theorem updateOrCreate_consumer (r : RMDSSubscriber) (keyId : ℕ) (keyName : String)
    (newState acceptConnections : Bool) :
    (r.updateOrCreate keyId keyName newState acceptConnections).consumer =
      (r.sources.transitions
        (r.updateOrCreate keyId keyName newState acceptConnections).sources).foldl
          UPAConsumer.step r.consumer := by
  rw [RMDSSources.transitions_of_state keyId fun k hk => by
    rw [updateOrCreate_state, if_neg hk]]
  rw [updateOrCreate_state, if_pos rfl]
  cases h : r.sources.servicesMap.find keyId with
  | some src =>
    rw [updateOrCreate_of_find h]
    rfl
  | none =>
    rw [updateOrCreate_of_none h]
    rfl

end RMDSSubscriber

def DirectoryEntry.told (e : DirectoryEntry) : Bool × Bool :=
  (e.serviceState.getD 0 ≠ 0, e.acceptingRequests.getD 0 ≠ 0)

theorem RMDSSubscriber.sourceDirectoryEntry_eq (r : RMDSSubscriber) (e : DirectoryEntry) :
    r.sourceDirectoryEntry e =
      if e.hasState then r.updateOrCreate e.serviceId e.createdName e.told.1 e.told.2 else r := by
  rw [sourceDirectoryEntry, decodeMapEntry_eq]
  rfl

end RmdsBridge
