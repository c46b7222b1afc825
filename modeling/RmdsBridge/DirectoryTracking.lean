import RmdsBridge.Runs
import RmdsBridge.SourceDirectory

namespace RmdsBridge

namespace RMDSSources

def SameServices (m m' : RMDSSources) : Prop :=
  m'.state = m.state ∧ m'.serviceNameMap = m.serviceNameMap

variable {m m' : RMDSSources}

theorem SameServices.refl (m : RMDSSources) : m.SameServices m := ⟨rfl, rfl⟩

theorem set_sameServices {keyId : ℕ} {src src' : RMDSSource} (h : m.servicesMap.find keyId = some src)
    (hs : src'.state = src.state) (ha : src'.acceptConnections = src.acceptConnections) :
    m.SameServices (m.set keyId src') := by
  refine ⟨funext fun k => ?_, rfl⟩
  rw [set_state]
  split_ifs with hk
  · simp [hk, state, h, hs, ha]
  · rfl

theorem find_fst_iff {n : String} {k : ℕ} :
    (m.find n).map Prod.fst = some k ↔ m.serviceNameMap.find n = some k ∧ m.state k ≠ none := by
  simp only [find, state]
  cases hn : m.serviceNameMap.find n with
  | none => simp
  | some k' =>
    simp only [Option.bind_some, Option.map_map, Option.some.injEq]
    cases hk : m.servicesMap.find k' with
    | none =>
      simp only [Option.map_none, reduceCtorEq, false_iff, not_and, not_not]
      rintro rfl
      rw [hk]
      rfl
    | some src =>
      simp only [Option.map_some, Function.comp_apply, Option.some.injEq, iff_self_and]
      rintro rfl
      simp [hk]

end RMDSSources

def SubscriberEvent.isDirectoryUpdate : SubscriberEvent → Bool
  | .sourceDirectoryUpdate _ _ _ _ => true
  | _ => false

namespace RMDSSubscriber

open RMDSSources

theorem createUpaSub_sameServices {r : RMDSSubscriber} {keyId : ℕ} {src : RMDSSource}
    (h : r.sources.servicesMap.find keyId = some src) (b : ℕ) (symbol : String) :
    r.sources.SameServices (r.createUpaSub keyId src b symbol).sources :=
  set_sameServices h rfl rfl

theorem addSubscriptionToSource_sameServices (r : RMDSSubscriber) (b : ℕ)
    (sub : RMDSBridgeSubscription) :
    r.sources.SameServices (r.addSubscriptionToSource b sub).sources := by
  simp only [addSubscriptionToSource]
  cases hf : r.sources.find sub.sourceName with
  | none => exact .refl _
  | some x =>
    dsimp only
    cases x.2.subscriptions.find sub.symbol with
    | none => exact createUpaSub_sameServices (find_eq_some hf) b sub.symbol
    | some u =>
      simp only [joinUpaSub]
      split_ifs <;> exact .refl _

theorem removeSubscription_sameServices (r : RMDSSubscriber) (b : ℕ) (sub : RMDSBridgeSubscription) :
    r.sources.SameServices (r.removeSubscription b sub).sources := by
  simp only [removeSubscription]
  cases hf : r.sources.find sub.sourceName with
  | none => exact .refl _
  | some x =>
    dsimp only
    cases x.2.subscriptions.find sub.symbol with
    | none => exact .refl _
    | some u =>
      simp only [leaveUpaSub]
      split_ifs
      · exact set_sameServices (find_eq_some hf) rfl rfl
      · exact .refl _

theorem processPending_sameServices (r : RMDSSubscriber) :
    r.sources.SameServices r.processPending.sources := by
  simp only [processPending]
  cases r.processing with
  | idle => exact .refl _
  | subscriptions =>
    cases r.pendingSubscriptions with
    | nil => exact .refl _
    | cons b bs =>
      dsimp only
      cases r.bridges[b]? with
      | none => exact .refl _
      | some sub =>
        exact addSubscriptionToSource_sameServices
          { r with pendingSubscriptions := bs, processing := .subscriptions } b sub
  | snapshots =>
    cases r.pendingSnapshots with
    | nil => exact .refl _
    | cons snap snaps =>
      simp only [addSnapshotToSource]
      cases r.sources.find snap.sourceName with
      | none => exact .refl _
      | some x => exact .refl _

theorem step_sameServices (r : RMDSSubscriber) {e : SubscriberEvent} (he : e.isDirectoryUpdate = false) :
    r.sources.SameServices (r.step e).sources := by
  cases e with
  | addSubscription source symbol subscription =>
    simp only [step, addSubscription]
    split_ifs <;> exact .refl _
  | removeSubscription b =>
    simp only [step]
    cases r.bridges[b]? with
    | none => exact .refl _
    | some sub => exact r.removeSubscription_sameServices b sub
  | processPendingSubscriptions =>
    simp only [step, processPendingSubscriptions]
    split_ifs <;> exact .refl _
  | processPending => exact r.processPending_sameServices
  | connectionNotification connected requestLogin =>
    simp only [step, connectionNotification_sources]
    exact .refl _
  | dictionaryUpdate dictionaryComplete =>
    simp only [step, dictionaryUpdate_sources]
    exact .refl _
  | sourceDirectoryUpdate _ _ _ _ => cases he
  | _ => exact .refl _

end RMDSSubscriber

structure Announcement where
  announced : Bool := false
  deleted : Bool := false
  name : Option String := none
  serviceState : Option Bool := none
  acceptingRequests : Option Bool := none
  deriving DecidableEq, Repr

namespace Announcement

def take (a : Announcement) (e : DirectoryEntry) : Announcement where
  announced := a.announced || e.action ≠ .delete
  deleted := e.action = .delete
  name := e.name.or a.name
  serviceState := (e.serviceState.map fun n => decide (n ≠ 0)).or a.serviceState
  acceptingRequests := (e.acceptingRequests.map fun n => decide (n ≠ 0)).or a.acceptingRequests

structure Agrees (a : Announcement) (st : Option (Bool × Bool)) : Prop where
  held : a.announced = true → ∃ x ∈ st,
    (a.deleted = false → ∀ b ∈ a.serviceState, x.1 = b) ∧ ∀ b ∈ a.acceptingRequests, x.2 = b
  down : a.deleted = true → ∀ x ∈ st, x.1 = false

structure Held (a : Announcement) (m : RMDSSources) (serviceId : ℕ) : Prop where
  state : a.Agrees (m.state serviceId)
  named : a.announced = true → ∀ n ∈ a.name, (m.find n).map Prod.fst = some serviceId

end Announcement

structure TrackedSources where
  subscriber : RMDSSubscriber := {}
  announced : ℕ → Announcement := fun _ => {}
  before : RMDSSubscriber := {}

inductive DirectoryStep
  | entry (e : DirectoryEntry)
  | other (e : {e : SubscriberEvent // e.isDirectoryUpdate = false})

inductive DirectoryEvent
  | message (msg : DirectoryMsg)
  | other (e : {e : SubscriberEvent // e.isDirectoryUpdate = false})

def DirectoryEvent.steps : DirectoryEvent → List DirectoryStep
  | .message (.refresh map decodes) =>
    map.map .entry ++ [.other ⟨.sourceDirectoryRefreshComplete decodes, rfl⟩]
  | .message (.update map) => map.map .entry
  | .message .close | .message .status => []
  | .other e => [.other e]

namespace TrackedSources

def step (s : TrackedSources) : DirectoryStep → TrackedSources
  | .entry e =>
    { subscriber := s.subscriber.sourceDirectoryEntry e
      announced := Function.update s.announced e.serviceId ((s.announced e.serviceId).take e)
      before := s.subscriber }
  | .other e => { s with subscriber := s.subscriber.step e, before := s.subscriber.step e }

structure Tracks (s : TrackedSources) : Prop where
  held : ∀ serviceId, (s.announced serviceId).Held s.subscriber.sources serviceId
  called : s.subscriber.consumer =
    (s.before.sources.transitions s.subscriber.sources).foldl UPAConsumer.step s.before.consumer

def Complete (a : Announcement) (e : DirectoryEntry) : Prop :=
  if e.action = .delete then
    e.serviceState.getD 0 = 0 ∧
      (a.announced = true → e.acceptingRequests = none → a.acceptingRequests ≠ some true)
  else
    (e.serviceState = none → a.serviceState ≠ some true) ∧
      (e.acceptingRequests = none → a.acceptingRequests ≠ some true)

def Idle (a : Announcement) (e : DirectoryEntry) (st : Option (Bool × Bool)) : Prop :=
  if e.action = .delete then ∀ x ∈ st, x.1 = false
  else ∃ x ∈ st, (∀ b ∈ a.serviceState, x.1 = b) ∧ ∀ b ∈ a.acceptingRequests, x.2 = b

structure Named (s : TrackedSources) (e : DirectoryEntry) : Prop where
  own : ((s.announced e.serviceId).announced = true ∨ e.action ≠ .delete) →
    ∀ n ∈ e.name.or (s.announced e.serviceId).name,
      s.subscriber.sources.serviceNameMap.find n = some e.serviceId ∨
        (s.subscriber.sources.state e.serviceId = none ∧ n = e.createdName)
  free : e.hasState = true → s.subscriber.sources.state e.serviceId = none →
    ∀ k ≠ e.serviceId, (s.announced k).announced = true → e.createdName ∉ (s.announced k).name

def Admissible (s : TrackedSources) : DirectoryStep → Prop
  | .other _ => True
  | .entry e =>
    (if e.hasState then Complete (s.announced e.serviceId) e
      else Idle (s.announced e.serviceId) e (s.subscriber.sources.state e.serviceId)) ∧ Named s e

variable {s : TrackedSources}

theorem entry_state (r : RMDSSubscriber) (e : DirectoryEntry) (k : ℕ) :
    (r.sourceDirectoryEntry e).sources.state k =
      if k = e.serviceId ∧ e.hasState = true then some e.told else r.sources.state k := by
  rw [RMDSSubscriber.sourceDirectoryEntry_eq]
  cases e.hasState with
  | false => simp
  | true => simp [RMDSSubscriber.updateOrCreate_state]

theorem entry_find (r : RMDSSubscriber) (e : DirectoryEntry) (n : String) :
    (r.sourceDirectoryEntry e).sources.serviceNameMap.find n =
      if e.hasState = true ∧ r.sources.state e.serviceId = none ∧ n = e.createdName then
        some e.serviceId
      else r.sources.serviceNameMap.find n := by
  rw [RMDSSubscriber.sourceDirectoryEntry_eq]
  cases e.hasState with
  | false => simp
  | true => simp [RMDSSubscriber.updateOrCreate_find]

theorem entry_called (r : RMDSSubscriber) (e : DirectoryEntry) :
    (r.sourceDirectoryEntry e).consumer =
      (r.sources.transitions (r.sourceDirectoryEntry e).sources).foldl UPAConsumer.step r.consumer := by
  rw [RMDSSubscriber.sourceDirectoryEntry_eq]
  cases e.hasState with
  | false => simp [RMDSSources.transitions_self]
  | true =>
    simp only [if_true]
    exact r.updateOrCreate_consumer e.serviceId e.createdName e.told.1 e.told.2

theorem told_iff (o : Option ℕ) (p : Option Bool) :
    (∀ b ∈ (o.map fun n => decide (n ≠ 0)).or p, decide (o.getD 0 ≠ 0) = b) ↔
      (o = none → p ≠ some true) := by
  cases o with
  | some n => simp
  | none =>
    cases p with
    | none => simp
    | some b => cases b <;> simp

section

variable {a : Announcement} {e : DirectoryEntry} {st : Option (Bool × Bool)}

theorem take_agrees_of_ne (h : e.action ≠ .delete) : (a.take e).Agrees st ↔
    ∃ x ∈ st, (∀ b ∈ (a.take e).serviceState, x.1 = b) ∧
      ∀ b ∈ (a.take e).acceptingRequests, x.2 = b := by
  have ha : (a.take e).announced = true := by simp [Announcement.take, h]
  have hd : (a.take e).deleted = false := by simp [Announcement.take, h]
  constructor
  · intro hg
    obtain ⟨x, hx, hs, hr⟩ := hg.held ha
    exact ⟨x, hx, hs hd, hr⟩
  · rintro ⟨x, hx, hs, hr⟩
    exact ⟨fun _ => ⟨x, hx, fun _ => hs, hr⟩, fun hdel => by simp [hd] at hdel⟩

theorem take_agrees_of_delete (h : e.action = .delete) : (a.take e).Agrees st ↔
    (a.announced = true → ∃ x ∈ st, ∀ b ∈ (a.take e).acceptingRequests, x.2 = b) ∧
      ∀ x ∈ st, x.1 = false := by
  have ha : (a.take e).announced = a.announced := by simp [Announcement.take, h]
  have hd : (a.take e).deleted = true := by simp [Announcement.take, h]
  constructor
  · intro hg
    refine ⟨fun h => ?_, hg.down hd⟩
    obtain ⟨x, hx, -, hr⟩ := hg.held (ha.trans h)
    exact ⟨x, hx, hr⟩
  · rintro ⟨hheld, hdown⟩
    refine ⟨fun h => ?_, fun _ => hdown⟩
    obtain ⟨x, hx, hr⟩ := hheld (ha.symm.trans h)
    exact ⟨x, hx, fun hn => by simp [hd] at hn, hr⟩

theorem agrees_told_iff : (a.take e).Agrees (some e.told) ↔ Complete a e := by
  have hs : (∀ b ∈ (a.take e).serviceState, e.told.1 = b) ↔ _ := told_iff e.serviceState a.serviceState
  have hr : (∀ b ∈ (a.take e).acceptingRequests, e.told.2 = b) ↔ _ :=
    told_iff e.acceptingRequests a.acceptingRequests
  have hdown : e.told.1 = false ↔ e.serviceState.getD 0 = 0 := by simp [DirectoryEntry.told]
  by_cases h : e.action = .delete
  · rw [take_agrees_of_delete h, Complete, if_pos h]
    simp only [Option.mem_some_iff, exists_eq_left', forall_eq', hr, hdown]
    exact And.comm
  · rw [take_agrees_of_ne h, Complete, if_neg h]
    simp only [Option.mem_some_iff, exists_eq_left', hs, hr]

theorem agrees_idle_iff (hst : a.Agrees st) (he : e.hasState = false) :
    (a.take e).Agrees st ↔ Idle a e st := by
  have hnone := DirectoryEntry.of_no_state he
  have hs : (a.take e).serviceState = a.serviceState := by simp [Announcement.take, hnone]
  have hr : (a.take e).acceptingRequests = a.acceptingRequests := by simp [Announcement.take, hnone]
  by_cases h : e.action = .delete
  · rw [take_agrees_of_delete h, Idle, if_pos h, hr, and_iff_right]
    intro ha
    obtain ⟨x, hx, -, hacc⟩ := hst.held ha
    exact ⟨x, hx, hacc⟩
  · rw [take_agrees_of_ne h, Idle, if_neg h, hs, hr]

end

variable {e : DirectoryEntry}

theorem own_state_iff (h : s.Tracks) :
    ((s.announced e.serviceId).take e).Agrees
        ((s.subscriber.sourceDirectoryEntry e).sources.state e.serviceId) ↔
      if e.hasState then Complete (s.announced e.serviceId) e
      else Idle (s.announced e.serviceId) e (s.subscriber.sources.state e.serviceId) := by
  rw [entry_state]
  cases he : e.hasState with
  | true =>
    simp only [and_self, if_true]
    exact agrees_told_iff
  | false =>
    simp only [Bool.false_eq_true, and_false, if_false]
    exact agrees_idle_iff (h.held e.serviceId).state he

theorem own_name_iff (h : ((s.announced e.serviceId).take e).Agrees
      ((s.subscriber.sourceDirectoryEntry e).sources.state e.serviceId)) :
    (((s.announced e.serviceId).take e).announced = true → ∀ n ∈ ((s.announced e.serviceId).take e).name,
        ((s.subscriber.sourceDirectoryEntry e).sources.find n).map Prod.fst = some e.serviceId) ↔
      (((s.announced e.serviceId).announced = true ∨ e.action ≠ .delete) →
        ∀ n ∈ e.name.or (s.announced e.serviceId).name,
          s.subscriber.sources.serviceNameMap.find n = some e.serviceId ∨
            (s.subscriber.sources.state e.serviceId = none ∧ n = e.createdName)) := by
  have ha : ((s.announced e.serviceId).take e).announced = true ↔
      ((s.announced e.serviceId).announced = true ∨ e.action ≠ .delete) := by
    simp [Announcement.take]
  rw [← ha]
  refine imp_congr_right fun han => forall₂_congr fun n _ => ?_
  obtain ⟨x, hx, -⟩ := h.held han
  rw [Option.mem_def] at hx
  rw [RMDSSources.find_fst_iff, and_iff_left (by simp [hx]), entry_find]
  rw [entry_state] at hx
  cases he : e.hasState with
  | false =>
    have hk : s.subscriber.sources.state e.serviceId ≠ none := by
      simp only [he, Bool.false_eq_true, and_false, if_false] at hx
      simp [hx]
    simp [hk]
  | true =>
    by_cases hc : s.subscriber.sources.state e.serviceId = none ∧ n = e.createdName
    · simp [hc]
    · simp only [true_and, hc, if_false, or_false]

theorem other_held_iff (h : s.Tracks) {k : ℕ} (hk : k ≠ e.serviceId) :
    (s.announced k).Held (s.subscriber.sourceDirectoryEntry e).sources k ↔
      (e.hasState = true → s.subscriber.sources.state e.serviceId = none →
        (s.announced k).announced = true → e.createdName ∉ (s.announced k).name) := by
  have hst : (s.subscriber.sourceDirectoryEntry e).sources.state k = s.subscriber.sources.state k := by
    rw [entry_state, if_neg fun h => hk h.1]
  have hheld := h.held k
  constructor
  · intro hafter he hnone ha hn
    have hf := (RMDSSources.find_fst_iff.mp (hafter.named ha _ hn)).1
    rw [entry_find, if_pos ⟨he, hnone, rfl⟩] at hf
    exact hk (Option.some.inj hf).symm
  · intro hfree
    refine ⟨hst ▸ hheld.state, fun ha n hn => ?_⟩
    obtain ⟨hf, hs⟩ := RMDSSources.find_fst_iff.mp (hheld.named ha n hn)
    rw [RMDSSources.find_fst_iff, hst, entry_find, if_neg]
    · exact ⟨hf, hs⟩
    · rintro ⟨he, hnone, rfl⟩
      exact hfree he hnone ha hn

theorem Tracks.entry_iff (h : s.Tracks) : (s.step (.entry e)).Tracks ↔ Admissible s (.entry e) := by
  constructor
  · intro ht
    have hself := ht.held e.serviceId
    simp only [TrackedSources.step, Function.update_self] at hself
    refine ⟨(own_state_iff h).mp hself.state, (own_name_iff hself.state).mp hself.named, ?_⟩
    intro he hnone k hk
    have hother := ht.held k
    simp only [TrackedSources.step, Function.update_of_ne hk] at hother
    exact (other_held_iff h hk).mp hother he hnone
  · rintro ⟨hst, hown, hfree⟩
    have hagrees := (own_state_iff h).mpr hst
    refine ⟨fun k => ?_, entry_called s.subscriber e⟩
    by_cases hk : k = e.serviceId
    · subst hk
      simp only [TrackedSources.step, Function.update_self]
      exact ⟨hagrees, (own_name_iff hagrees).mpr hown⟩
    · simp only [TrackedSources.step, Function.update_of_ne hk]
      exact (other_held_iff h hk).mpr fun he hnone => hfree he hnone k hk

theorem Tracks.other (h : s.Tracks) (e : {e : SubscriberEvent // e.isDirectoryUpdate = false}) :
    (s.step (.other e)).Tracks := by
  obtain ⟨hstate, hnames⟩ := s.subscriber.step_sameServices e.2
  refine ⟨fun k => ?_, by simp [TrackedSources.step, RMDSSources.transitions_self]⟩
  have hheld := h.held k
  refine ⟨?_, fun ha n hn => ?_⟩
  · simp only [TrackedSources.step, hstate]
    exact hheld.state
  · have hf := RMDSSources.find_fst_iff.mp (hheld.named ha n hn)
    simp only [TrackedSources.step, RMDSSources.find_fst_iff, hstate, hnames]
    exact hf

def start (configDomain : String → String) (config : TransportConfig) : TrackedSources where
  subscriber := { configDomain, consumer := { config } }
  before := { configDomain, consumer := { config } }

theorem start_tracks (configDomain : String → String) (config : TransportConfig) :
    (start configDomain config).Tracks where
  held _ := by refine ⟨⟨fun h => ?_, fun h => ?_⟩, fun h => ?_⟩ <;> cases h
  called := rfl

/-- The steps of a message come to what `ProcessSourceDirectoryResponse` does with it. -/
theorem run_message (s : TrackedSources) (msg : DirectoryMsg) :
    (Runs.run step s (DirectoryEvent.message msg).steps).subscriber =
      s.subscriber.processSourceDirectoryResponse msg := by
  have hmap : ∀ (map : List DirectoryEntry) (s : TrackedSources),
      (Runs.run step s (map.map .entry)).subscriber = s.subscriber.decodeSourceDirectoryResponse map := by
    intro map
    induction map with
    | nil => exact fun s => rfl
    | cons e map ih => exact fun s => ih (s.step (.entry e))
  cases msg with
  | refresh map decodes =>
    simp only [DirectoryEvent.steps, Runs.run_append, Runs.run_cons, Runs.run_nil, TrackedSources.step,
      RMDSSubscriber.step, RMDSSubscriber.processSourceDirectoryResponse, hmap]
  | update map => exact hmap map s
  | close => rfl
  | status => rfl

end TrackedSources

theorem sources_tracked_iff (configDomain : String → String) (config : TransportConfig)
    (es : List DirectoryEvent) :
    Runs.Always TrackedSources.step TrackedSources.Tracks (TrackedSources.start configDomain config)
        (es.flatMap DirectoryEvent.steps) ↔
      Runs.Guarded TrackedSources.step TrackedSources.Admissible (TrackedSources.start configDomain config)
        (es.flatMap DirectoryEvent.steps) := by
  apply Runs.always_iff_guarded (I := TrackedSources.Tracks) (fun _ h => h)
  · intro s x h hc
    cases x with
    | entry e => exact h.entry_iff.mpr hc
    | other e => exact h.other e
  · intro s x h hc ht
    cases x with
    | entry e => exact hc (h.entry_iff.mp ht)
    | other e => exact hc trivial
  · exact TrackedSources.start_tracks configDomain config

/-- A service that is up when it is deleted stays up. -/
theorem deleted_service_stays_up : ¬ ∀ (configDomain : String → String) (config : TransportConfig)
    (es : List DirectoryEvent),
    Runs.Always TrackedSources.step TrackedSources.Tracks (TrackedSources.start configDomain config)
      (es.flatMap DirectoryEvent.steps) := by
  intro h
  have ht := (h (fun _ => "any") {} [
    .message (.refresh [⟨.add, 1, [.info (some "S"), .state (some 1) (some 1)]⟩] true),
    .message (.update [⟨.delete, 1, []⟩])]).2.2.2.head
  have hdown := (ht.held 1).state.down rfl (true, true) (by decide)
  exact absurd hdown (by decide)

end RmdsBridge
