import Mathlib.Data.Finset.Basic
import RmdsBridge.ProviderSteps
import RmdsBridge.Runs

namespace RmdsBridge

structure WatchedProvider (C : Type) where
  provider : UPAProvider C
  shutDown : Finset C := ∅
  lastGone : String → ℕ := fun _ => 0

namespace WatchedProvider

open UPAProvider

variable {C : Type} [DecidableEq C]

def step (s : WatchedProvider C) (e : ProviderEvent C) : WatchedProvider C :=
  if s.provider.Possible e then
    { provider := s.provider.handle e
      shutDown :=
        match e with
        | .connected chnl => s.shutDown.erase chnl
        | .disconnected chnl _ => insert chnl s.shutDown
        | .item _ _ | .createPublisher _ => s.shutDown
      lastGone := fun symbol => s.lastGone symbol +
        if s.provider.hasChannels symbol && !(s.provider.handle e).hasChannels symbol then 1 else 0 }
  else s

structure Registered (s : WatchedProvider C) : Prop where
  listed : ∀ chnl streamId symbol, (s.provider.streams symbol chnl).count streamId =
    if s.provider.streamItem chnl streamId = some symbol then 1 else 0
  none_shutDown : ∀ symbol i, s.provider.item symbol = some i →
    ∀ chnl ∈ s.shutDown, i.channelMap.find chnl = none
  closed : ∀ symbol, s.provider.closed.count symbol = s.lastGone symbol

def Admissible (s : WatchedProvider C) (e : ProviderEvent C) : Prop :=
  s.provider.Possible e →
    match e with
    | .connected _ | .createPublisher _ | .item _ .post | .item _ .other => True
    | .item chnl (.request streamId _) => s.provider.source ≠ none →
        s.provider.channelDictionary.find chnl ≠ none ∧ s.provider.streamItem chnl streamId = none
    | .item chnl (.close streamId) => ∀ symbol ∈ s.provider.streamItem chnl streamId,
        (s.provider.streams symbol chnl).head? = some streamId
    | .disconnected chnl walk => ∀ symbol, walkOf walk symbol = s.provider.streams symbol chnl

structure Kept (s : WatchedProvider C) : Prop where
  linked : s.provider.Linked s.provider.streamItem
  full : s.provider.Full
  running : s.provider.stuck = false
  apart : ∀ chnl ∈ s.shutDown, s.provider.channelDictionary.find chnl = none
  closed : ∀ symbol, s.provider.closed.count symbol = s.lastGone symbol

variable {s : WatchedProvider C}

theorem Kept.registered (h : s.Kept) : s.Registered where
  listed := h.linked
  none_shutDown symbol i hi chnl hc := by
    cases hf : i.channelMap.find chnl with
    | none => rfl
    | some ss =>
      obtain ⟨t, ts, rfl⟩ := List.exists_cons_of_ne_nil fun he => h.full symbol i hi chnl (he ▸ hf)
      have hcount := h.linked chnl t symbol
      have hnone : s.provider.streamItem chnl t = none := by
        simp [streamItem, streamIdMap, h.apart chnl hc]
      simp [streams, UPAPublisherItem.streams, hi, hf, hnone] at hcount
  closed := h.closed

theorem step_eq {e : ProviderEvent C} (hp : s.provider.Possible e) :
    (s.step e).provider = s.provider.handle e ∧
      ∀ symbol, (s.step e).lastGone symbol = s.lastGone symbol +
        if s.provider.hasChannels symbol && !(s.provider.handle e).hasChannels symbol then 1 else 0 := by
  simp only [step, if_pos hp]
  exact ⟨trivial, fun _ => trivial⟩

theorem Kept.of_handle {e : ProviderEvent C} (h : s.Kept) (hp : s.provider.Possible e)
    (hlinked : (s.provider.handle e).Linked (s.provider.handle e).streamItem)
    (hfull : (s.provider.handle e).Full) (hrunning : (s.provider.handle e).stuck = false)
    (hapart : ∀ chnl ∈ (s.step e).shutDown,
      (s.provider.handle e).channelDictionary.find chnl = none) : (s.step e).Kept := by
  obtain ⟨hprovider, hgone⟩ := step_eq hp
  constructor
  · rwa [hprovider]
  · rwa [hprovider]
  · rwa [hprovider]
  · rwa [hprovider]
  · intro symbol
    rw [hprovider, hgone, handle_closed, h.closed]

theorem Kept.of_same {e : ProviderEvent C} (h : s.Kept) (hp : s.provider.Possible e)
    (he : s.provider.handle e = s.provider)
    (hapart : ∀ chnl ∈ (s.step e).shutDown, s.provider.channelDictionary.find chnl = none) :
    (s.step e).Kept := by
  apply h.of_handle hp <;> rw [he]
  · exact h.linked
  · exact h.full
  · exact h.running
  · exact hapart

variable {chnl : C} {streamId : ℤ} {symbol : String} {walk : List (Σ _ : ℤ, String)}

theorem Kept.connected (h : s.Kept) (hp : s.provider.Possible (.connected chnl)) :
    (s.step (.connected chnl)).Kept := by
  have hitem : (s.provider.handle (.connected chnl)).streamItem = s.provider.streamItem := by
    funext c t
    rw [streamItem_of_insert (p := s.provider) rfl]
    split_ifs with hc
    · simp [hc, streamItem, streamIdMap, hp.2]
    · rfl
  refine h.of_handle hp ?_ h.full h.running fun c hc => ?_
  · rw [hitem]
    exact h.linked
  · simp only [WatchedProvider.step, if_pos hp, Finset.mem_erase] at hc
    simp only [handle, createNewClientConnection, UnorderedMap.find_insert, if_neg hc.1]
    exact h.apart c hc.2

theorem shutDown_disconnected (hp : s.provider.Possible (.disconnected chnl walk)) :
    (s.step (.disconnected chnl walk)).shutDown = insert chnl s.shutDown := by
  simp only [step, if_pos hp]

theorem shutDown_item {msg : ItemRequest} (hp : s.provider.Possible (.item chnl msg)) :
    (s.step (.item chnl msg)).shutDown = s.shutDown := by
  simp only [step, if_pos hp]

theorem Kept.disconnected (h : s.Kept) (hp : s.provider.Possible (.disconnected chnl walk)) :
    ((∀ symbol, walkOf walk symbol = s.provider.streams symbol chnl) →
        (s.step (.disconnected chnl walk)).Kept) ∧
      ((¬ ∀ symbol, walkOf walk symbol = s.provider.streams symbol chnl) →
        ¬ (s.step (.disconnected chnl walk)).Registered) := by
  have hcs := shutDown_disconnected hp
  cases hm : s.provider.channelDictionary.find chnl with
  | none =>
    have he : s.provider.handle (.disconnected chnl walk) = s.provider := by
      simp only [handle, shutdownClientConnection, hm]
    have hwalk : walk = [] := by simpa [streamIdMap, hm] using hp.2
    refine ⟨fun _ => h.of_same hp he fun c hc => ?_, fun hno => absurd (fun symbol => ?_) hno⟩
    · rw [hcs, Finset.mem_insert] at hc
      rcases hc with rfl | hc
      · exact hm
      · exact h.apart c hc
    · rw [hwalk, eq_comm]
      exact h.linked.streams_eq_nil (fun t => by simp [streamItem, streamIdMap, hm]) symbol
  | some m =>
    have hwalk : walk.Perm m.entries := by simpa [streamIdMap, hm] using hp.2
    rcases shutdown_spec hm h.linked h.full h.running hwalk with
      ⟨hall, hstuck, hfull, hdict, hlinked⟩ | ⟨hno, symbol, hsome⟩
    · refine ⟨fun _ => h.of_handle hp hlinked hfull hstuck fun c hc => ?_, fun hno => absurd hall hno⟩
      simp only [handle, hdict, UnorderedMap.find_erase]
      rw [hcs, Finset.mem_insert] at hc
      split_ifs with hcc
      · rfl
      · exact h.apart c (hc.resolve_left hcc)
    · refine ⟨fun hall => absurd hall hno, fun _ hreg => ?_⟩
      obtain ⟨t, ts, hs⟩ := List.exists_cons_of_ne_nil hsome
      obtain ⟨i, hi, hf⟩ := find_of_streams hs
      have hnone := hreg.none_shutDown symbol i (by rw [(step_eq hp).1]; exact hi) chnl
        (by simp [hcs])
      rw [hf] at hnone
      cases hnone

theorem Kept.request (h : s.Kept) (hp : s.provider.Possible (.item chnl (.request streamId symbol))) :
    ((s.provider.source ≠ none → s.provider.channelDictionary.find chnl ≠ none ∧
          s.provider.streamItem chnl streamId = none) →
        (s.step (.item chnl (.request streamId symbol))).Kept) ∧
      ((¬ (s.provider.source ≠ none → s.provider.channelDictionary.find chnl ≠ none ∧
          s.provider.streamItem chnl streamId = none)) →
        ¬ (s.step (.item chnl (.request streamId symbol))).Registered) := by
  have hcs := shutDown_item hp
  cases hs : s.provider.source with
  | none =>
    have he : s.provider.handle (.item chnl (.request streamId symbol)) = s.provider := by
      simp only [handle, processItemRequest, processRequest, addItem, hs, Option.map_none]
    refine ⟨fun _ => h.of_same hp he fun c hc => h.apart c (hcs ▸ hc), fun hno => absurd ?_ hno⟩
    exact fun hne => absurd rfl hne
  | some src =>
    have hiff : (s.provider.processRequest chnl streamId symbol).Linked
        (s.provider.processRequest chnl streamId symbol).streamItem ↔ _ := request_linked_iff hs h.linked
    obtain ⟨hstuck, hfull, hnone, -⟩ := processRequest_spec hs chnl streamId symbol
    refine ⟨fun hok => ?_, fun hno hreg => hno fun _ => hiff.mp ?_⟩
    · exact h.of_handle hp (hiff.mpr (hok (by simp))) (hfull h.full) (hstuck.trans h.running)
        fun c hc => hnone c (h.apart c (hcs ▸ hc))
    · have hlisted := hreg.listed
      rw [(step_eq hp).1] at hlisted
      exact hlisted

theorem Kept.close (h : s.Kept) (hp : s.provider.Possible (.item chnl (.close streamId))) :
    ((∀ symbol ∈ s.provider.streamItem chnl streamId,
          (s.provider.streams symbol chnl).head? = some streamId) →
        (s.step (.item chnl (.close streamId))).Kept) ∧
      ((¬ ∀ symbol ∈ s.provider.streamItem chnl streamId,
          (s.provider.streams symbol chnl).head? = some streamId) →
        ¬ (s.step (.item chnl (.close streamId))).Registered) := by
  have hcs := shutDown_item hp
  cases hi : s.provider.streamItem chnl streamId with
  | none =>
    refine ⟨fun _ => h.of_same hp (processClose_of_none hi) fun c hc => h.apart c (hcs ▸ hc),
      fun hno => absurd ?_ hno⟩
    exact fun symbol hsym => by cases hsym
  | some symbol =>
    obtain ⟨hnone, ⟨hhead, hstuck, hfull, hlinked⟩ | ⟨hhead, hlinked⟩⟩ := close_spec h.linked hi
    · refine ⟨fun _ => ?_, fun hno => absurd ?_ hno⟩
      · exact h.of_handle hp hlinked (hfull h.full) (hstuck.trans h.running)
          fun c hc => hnone c (h.apart c (hcs ▸ hc))
      · intro symbol' hsym
        cases hsym
        exact hhead
    · refine ⟨fun hok => absurd (hok symbol rfl) hhead, fun _ hreg => hlinked ?_⟩
      have hlisted := hreg.listed
      rw [(step_eq hp).1] at hlisted
      exact hlisted

theorem Kept.createPublisher (h : s.Kept) (hp : s.provider.Possible (.createPublisher symbol)) :
    (s.step (.createPublisher symbol)).Kept := by
  obtain ⟨hstuck, hdict, -, hitem⟩ := s.provider.createPublisher_spec symbol
  have hstreams : (s.provider.createPublisher symbol).streams = s.provider.streams := by
    funext symbol' c
    rcases hitem symbol' with he | ⟨hn, he⟩
    · simp only [streams, he]
    · simp [streams, he, hn, UPAPublisherItem.streams]
  have hstreamItem : (s.provider.createPublisher symbol).streamItem = s.provider.streamItem := by
    funext c t
    simp only [streamItem, streamIdMap, hdict]
  refine h.of_handle hp ?_ ?_ (hstuck.trans h.running) fun c hc => ?_
  · intro c t symbol'
    simp only [handle, hstreams, hstreamItem]
    exact h.linked c t symbol'
  · intro symbol' i hi c
    rcases hitem symbol' with he | ⟨-, he⟩
    · exact h.full symbol' i (he ▸ hi) c
    · simp only [handle, he, Option.some.injEq] at hi
      subst hi
      simp
  · simp only [WatchedProvider.step, if_pos hp] at hc
    simp only [handle, hdict]
    exact h.apart c hc

theorem Kept.step {e : ProviderEvent C} (h : s.Kept) (hc : Admissible s e) : (s.step e).Kept := by
  by_cases hp : s.provider.Possible e
  · have hok := hc hp
    cases e with
    | connected chnl => exact h.connected hp
    | disconnected chnl walk => exact (h.disconnected hp).1 hok
    | createPublisher symbol => exact h.createPublisher hp
    | item chnl msg =>
      cases msg with
      | request streamId symbol => exact (h.request hp).1 hok
      | close streamId => exact (h.close hp).1 hok
      | post => exact h.of_same hp rfl fun c hcs => h.apart c (shutDown_item hp ▸ hcs)
      | other => exact h.of_same hp rfl fun c hcs => h.apart c (shutDown_item hp ▸ hcs)
  · simpa only [WatchedProvider.step, if_neg hp] using h

theorem Kept.step_not_registered {e : ProviderEvent C} (h : s.Kept) (hc : ¬ Admissible s e) :
    ¬ (s.step e).Registered := by
  obtain ⟨hp, hno⟩ := Classical.not_imp.mp hc
  cases e with
  | connected chnl => exact absurd trivial hno
  | disconnected chnl walk => exact (h.disconnected hp).2 hno
  | createPublisher symbol => exact absurd trivial hno
  | item chnl msg =>
    cases msg with
    | request streamId symbol => exact (h.request hp).2 hno
    | close streamId => exact (h.close hp).2 hno
    | post => exact absurd trivial hno
    | other => exact absurd trivial hno

def start (sourceName : Option String) : WatchedProvider C where
  provider := { source := sourceName.map fun name => { name } }

theorem start_kept (sourceName : Option String) : (start sourceName : WatchedProvider C).Kept := by
  have hitem : ∀ symbol, (start sourceName : WatchedProvider C).provider.item symbol = none := by
    intro symbol
    cases sourceName <;> rfl
  constructor
  · intro c t symbol
    simp only [streams, hitem, Option.map_none, Option.getD_none, List.count_nil]
    rfl
  · intro symbol i hi
    rw [hitem] at hi
    cases hi
  · rfl
  · intro c hc
    rfl
  · intro symbol
    rfl

end WatchedProvider

theorem streams_registered_iff {C : Type} [DecidableEq C] (sourceName : Option String)
    (es : List (ProviderEvent C)) :
    Runs.Always WatchedProvider.step WatchedProvider.Registered (WatchedProvider.start sourceName) es ↔
      Runs.Guarded WatchedProvider.step WatchedProvider.Admissible (WatchedProvider.start sourceName) es :=
  Runs.always_iff_guarded (I := WatchedProvider.Kept) (fun _ => WatchedProvider.Kept.registered)
    (fun _ _ => WatchedProvider.Kept.step) (fun _ _ => WatchedProvider.Kept.step_not_registered)
    (WatchedProvider.start_kept sourceName)

/-- A request again on a stream that is open puts the stream on its item's list twice. -/
theorem requested_again_listed_twice : ¬ ∀ (sourceName : Option String) (es : List (ProviderEvent ℕ)),
    Runs.Always WatchedProvider.step WatchedProvider.Registered (WatchedProvider.start sourceName) es := by
  intro h
  have hr := (h (some "S") [.connected 1, .item 1 (.request 5 "X"),
    .item 1 (.request 5 "X")]).2.2.2
  exact absurd (hr.listed 1 5 "X") (by decide)

end RmdsBridge
