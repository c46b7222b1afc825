import RmdsBridge.Dispatch
import RmdsBridge.StreamIds

namespace RmdsBridge

variable {P L : Type}

namespace UPAConsumer

def ids (c : UPAConsumer P L) (s : P) : ℕ := (c.subscriptions s).streamId

def Held (c : UPAConsumer P L) (opened : Finset P) : Prop :=
  c.streamManager.Assigned c.ids opened

variable {c c' : UPAConsumer P L} {opened : Finset P} {s : P} {h : Handling P L}

theorem assigned_of_streams {h' : Handling P L} {ids : P → ℕ} (hs : h'.streams = h.streams)
    (ha : h.manager.Assigned ids opened) : h'.manager.Assigned ids opened := by
  simp only [Handling.streams, Prod.mk.injEq] at hs
  exact ha.congr hs.1 hs.2.1 hs.2.2.1

theorem exclusive_of_streams {h' : Handling P L} {ids : P → ℕ} (hs : h'.streams = h.streams)
    (hx : h.manager.Exclusive ids opened) : h'.manager.Exclusive ids opened := by
  simp only [Handling.streams, Prod.mk.injEq] at hs
  obtain ⟨hi, -, hf, -⟩ := hs
  refine ⟨hx.distinct, fun s hs => ?_, fun s hs => ?_, ?_⟩
  · unfold UPAStreamManager.getItem
    rw [hi]
    exact hx.found s hs
  · rw [hf]
    exact hx.not_free s hs
  · rw [hf]
    exact hx.free_nodup

theorem streamId_of_streams {h' : Handling P L} (hs : h'.streams = h.streams) :
    h'.sub.streamId = h.sub.streamId := congrArg (fun v => v.2.2.2.1) hs

theorem Held.target {domain : Domain} {streamId : ℕ} (hc : c.Held opened)
    (ht : c.target domain streamId = some s) :
    c.ids s ≠ 0 ∧ c.streamManager.getItem (c.ids s) = some s := hc.item_of_index (item_of_target ht)

variable [DecidableEq P]

theorem Became.ids_eq (b : c.Became c' s h) :
    c'.ids = Function.update c.ids s h.sub.streamId := by
  funext t
  unfold ids
  rw [b.1]
  by_cases ht : t = s
  · rw [ht, Function.update_self, Function.update_self]
  · rw [Function.update_of_ne ht, Function.update_of_ne ht]

theorem Became.ids_same (b : c.Became c' s h) (hid : h.sub.streamId = c.ids s) : c'.ids = c.ids := by
  rw [b.ids_eq, hid, Function.update_eq_self]

theorem Held.takes (hc : c.Held opened) (s : P) :
    ((c.handling s).takeStreamId s).manager.Assigned
      (Function.update c.ids s ((c.handling s).takeStreamId s).sub.streamId) opened := by
  unfold Handling.takeStreamId
  by_cases h0 : c.ids s = 0
  · rw [if_pos (show (c.handling s).sub.streamId = 0 from h0)]
    exact (hc.addItem h0).1
  · rw [if_neg (show ¬ (c.handling s).sub.streamId = 0 from h0),
      show (c.handling s).sub.streamId = c.ids s from rfl, Function.update_eq_self]
    exact hc

theorem Held.found (hc : c.Held opened) (s : P)
    (hs : c.ids s ≠ 0 → c.streamManager.getItem (c.ids s) = some s)
    (hid : ((c.handling s).takeStreamId s).sub.streamId ≠ 0) :
    ((c.handling s).takeStreamId s).manager.getItem
      ((c.handling s).takeStreamId s).sub.streamId = some s := by
  unfold Handling.takeStreamId at hid ⊢
  by_cases h0 : c.ids s = 0
  · rw [if_pos (show (c.handling s).sub.streamId = 0 from h0)] at hid ⊢
    exact (hc.addItem h0).2 hid
  · rw [if_neg (show ¬ (c.handling s).sub.streamId = 0 from h0)] at hid ⊢
    exact hs h0

variable [DecidableEq L]

def snapshotCompleted (c : UPAConsumer P L) : Event P L → Option P
  | .respond domain streamId msg =>
    (c.target domain streamId).filter fun s =>
      (c.subscriptions s).snapShot &&
        !(processResponse s (c.handling s) domain msg).sub.snapShot
  | _ => none

end UPAConsumer

structure OpenStreams (P L : Type) where
  consumer : UPAConsumer P L
  opened : Finset P := ∅

namespace OpenStreams

variable [DecidableEq P] [DecidableEq L]

/-- A stream is open from its request that is sent until its close request or its snapshot. -/
def step (q : OpenStreams P L) (e : Event P L) : OpenStreams P L where
  consumer := q.consumer.step e
  opened :=
    match q.consumer.requestSent e, q.consumer.closeProcessed e, q.consumer.snapshotCompleted e with
    | some s, _, _ => insert s q.opened
    | none, some s, _ => q.opened.erase s
    | none, none, some s => q.opened.erase s
    | none, none, none => q.opened

def start (symbols : P → String) (config : TransportConfig) : OpenStreams P L where
  consumer := { subscriptions := fun s => { symbol := symbols s }, config }

def Exclusive (q : OpenStreams P L) : Prop :=
  q.consumer.streamManager.Exclusive q.consumer.ids q.opened

def Ok (q : OpenStreams P L) (e : Event P L) : Prop :=
  (∀ s, q.consumer.requestSent e = some s → q.consumer.ids s ≠ 0 →
    q.consumer.streamManager.getItem (q.consumer.ids s) = some s) ∧
  (∀ s, q.consumer.closeProcessed e = some s → q.consumer.ids s ≠ 0 →
    q.consumer.streamManager.MayRelease q.consumer.ids q.opened s)

variable {q : OpenStreams P L} {e : Event P L}

theorem opened_step_sent {s : P} (hs : q.consumer.requestSent e = some s) :
    (q.step e).opened = insert s q.opened := by
  unfold step
  rw [hs]

theorem opened_step_closed {s : P} (hs : q.consumer.requestSent e = none)
    (hc : q.consumer.closeProcessed e = some s) : (q.step e).opened = q.opened.erase s := by
  unfold step
  rw [hs, hc]

theorem opened_step_completed {s : P} (hs : q.consumer.requestSent e = none)
    (hc : q.consumer.closeProcessed e = none) (hn : q.consumer.snapshotCompleted e = some s) :
    (q.step e).opened = q.opened.erase s := by
  unfold step
  rw [hs, hc, hn]

theorem opened_step_subset (hs : q.consumer.requestSent e = none) :
    (q.step e).opened ⊆ q.opened := by
  unfold step
  rw [hs]
  dsimp only
  split
  · contradiction
  · exact Finset.erase_subset _ _
  · exact Finset.erase_subset _ _
  · exact subset_rfl

theorem respond_held {c' : UPAConsumer P L} {domain : Domain} {streamId : ℕ} {msg : RsslMsg} {s : P}
    (hq : q.consumer.Held q.opened) (ht : q.consumer.target domain streamId = some s)
    (h : q.consumer.Became c' s
      (UPAConsumer.processResponse s (q.consumer.handling s) domain msg)) :
    c'.Held (q.step (.respond domain streamId msg)).opened := by
  set h' := UPAConsumer.processResponse s (q.consumer.handling s) domain msg with hh'
  have hsub := opened_step_subset (q := q) (e := .respond domain streamId msg) rfl
  have hkeep : h'.streams = (q.consumer.handling s).streams →
      c'.Held (q.step (.respond domain streamId msg)).opened := by
    intro hs
    unfold UPAConsumer.Held
    rw [h.ids_same (UPAConsumer.streamId_of_streams hs), h.2]
    exact UPAConsumer.assigned_of_streams hs (hq.mono hsub)
  rcases (q.consumer.handling s).processResponse_keepsStreams s domain msg with hs | hs
  · exact hkeep hs
  · by_cases hsnap : (q.consumer.subscriptions s).snapShot = true
    · have hc : (q.consumer.handling s).completeSnapshot = _ := if_pos hsnap
      rw [hc] at hs
      have hdone : h'.sub.snapShot = false := congrArg (fun v => v.2.2.2.2.1) hs
      have hcompleted : q.consumer.snapshotCompleted (.respond domain streamId msg) = some s := by
        unfold UPAConsumer.snapshotCompleted
        dsimp only
        rw [ht, Option.filter_some, if_pos]
        rw [hsnap, ← hh', hdone]
        rfl
      obtain ⟨h0, hitem⟩ := hq.target ht
      unfold UPAConsumer.Held
      rw [opened_step_completed rfl rfl hcompleted,
        h.ids_same (UPAConsumer.streamId_of_streams hs), h.2]
      exact UPAConsumer.assigned_of_streams hs (hq.release h0 (hq.mayRelease hitem))
    · have hc : (q.consumer.handling s).completeSnapshot = _ := if_neg hsnap
      rw [hc] at hs
      exact hkeep hs

theorem step_held (hq : q.consumer.Held q.opened) (ho : q.Ok e) :
    (q.step e).consumer.Held (q.step e).opened := by
  have hst := q.consumer.stepped e
  change (q.consumer.step e).Held _
  generalize q.consumer.step e = c' at hst ⊢
  generalize hs : q.consumer.requestSent e = sent, hc : q.consumer.closeProcessed e = closed at hst
  cases hst with
  | idle hsubs hm =>
    have hids : c'.ids = q.consumer.ids := by
      unfold UPAConsumer.ids
      rw [hsubs]
    unfold UPAConsumer.Held
    rw [hids, hm]
    exact hq.mono (opened_step_subset hs)
  | quiet s sub closes h hid _ =>
    unfold UPAConsumer.Held
    rw [h.ids_same hid, h.2]
    exact (hq.mono (opened_step_subset hs)).congr rfl rfl rfl
  | setLive s h =>
    have hk := (q.consumer.handling s).setLive_stateOnly.streams_eq
    unfold UPAConsumer.Held
    rw [h.ids_same (UPAConsumer.streamId_of_streams hk), h.2]
    exact UPAConsumer.assigned_of_streams hk (hq.mono (opened_step_subset hs))
  | @close o s h =>
    unfold UPAConsumer.Held
    rw [opened_step_closed hs hc]
    by_cases h0 : q.consumer.ids s = 0
    · have hk := (q.consumer.handling s).sendCloseRequest_unopened s o h0
      rw [h.ids_same (UPAConsumer.streamId_of_streams hk), h.2]
      exact UPAConsumer.assigned_of_streams hk (hq.mono (Finset.erase_subset _ _))
    · have hk := (q.consumer.handling s).sendCloseRequest_streams s o h0
      rw [h.ids_same (UPAConsumer.streamId_of_streams hk), h.2]
      exact UPAConsumer.assigned_of_streams hk (hq.release h0 (ho.2 s hc h0))
  | sent s hid h =>
    have hids := h.ids_eq
    unfold UPAConsumer.Held
    rw [opened_step_sent hs, hids, h.2]
    refine ((hq.takes s).opens ?_ ?_).congr rfl rfl rfl
    · rwa [Function.update_self]
    · rw [Function.update_self]
      exact hq.found s (ho.1 s hs) hid
  | unsent s pending _ h =>
    unfold UPAConsumer.Held
    rw [h.ids_eq, h.2]
    exact ((hq.takes s).mono (opened_step_subset hs)).congr rfl rfl rfl
  | respond s ht h => exact respond_held hq ht h

theorem step_not_exclusive (ho : ¬ q.Ok e) : ¬ (q.step e).Exclusive := by
  have hst := q.consumer.stepped e
  change ¬ (q.consumer.step e).streamManager.Exclusive (q.consumer.step e).ids _
  generalize q.consumer.step e = c' at hst ⊢
  generalize hs : q.consumer.requestSent e = sent, hc : q.consumer.closeProcessed e = closed at hst
  have hno (hs : q.consumer.requestSent e = none) (hc : q.consumer.closeProcessed e = none) :
      q.Ok e := by
    refine ⟨fun s h => ?_, fun s h => ?_⟩
    · rw [hs] at h
      cases h
    · rw [hc] at h
      cases h
  cases hst with
  | idle => exact absurd (hno hs hc) ho
  | quiet => exact absurd (hno hs hc) ho
  | setLive => exact absurd (hno hs hc) ho
  | unsent => exact absurd (hno hs hc) ho
  | respond => exact absurd (hno hs hc) ho
  | @close o s h =>
    have hrel : q.consumer.ids s ≠ 0 ∧
        ¬ q.consumer.streamManager.MayRelease q.consumer.ids q.opened s := by
      by_contra hall
      refine ho ⟨fun t ht => ?_, fun t ht h0 => ?_⟩
      · rw [hs] at ht
        cases ht
      · rw [hc] at ht
        obtain rfl := Option.some.inj ht
        by_contra hr
        exact hall ⟨h0, hr⟩
    have hk := (q.consumer.handling s).sendCloseRequest_streams s o hrel.1
    rw [opened_step_closed hs hc, h.ids_same (UPAConsumer.streamId_of_streams hk), h.2]
    intro hex
    apply UPAStreamManager.not_exclusive_release hrel.2
    exact UPAConsumer.exclusive_of_streams hk.symm hex
  | sent s hid h =>
    have hlost : q.consumer.ids s ≠ 0 ∧
        q.consumer.streamManager.getItem (q.consumer.ids s) ≠ some s := by
      by_contra hall
      refine ho ⟨fun t ht h0 => ?_, fun t ht => ?_⟩
      · rw [hs] at ht
        obtain rfl := Option.some.inj ht
        by_contra hi
        exact hall ⟨h0, hi⟩
      · rw [hc] at ht
        cases ht
    have hkept : (q.consumer.handling s).takeStreamId s = q.consumer.handling s := if_neg hlost.1
    rw [hkept] at h
    rw [opened_step_sent hs, h.ids_same rfl, h.2]
    exact fun hex => hlost.2 (hex.found s (Finset.mem_insert_self _ _))

omit [DecidableEq P] [DecidableEq L] in
theorem start_held (symbols : P → String) (config : TransportConfig) :
    (start symbols config : OpenStreams P L).consumer.Held ∅ where
  bounded := Nat.zero_le _
  id_of_item _ _ h := by cases h
  index_of_id _ h := absurd rfl h
  item_of_free _ h := by cases h
  free_nodup := List.nodup_nil
  item_of_open _ h := by simp at h

theorem stream_ids_exclusive_iff (symbols : P → String) (config : TransportConfig)
    (events : List (Event P L)) :
    Runs.Always step Exclusive (start symbols config) events ↔
      Runs.Guarded step Ok (start symbols config) events :=
  Runs.always_iff_guarded (I := fun q : OpenStreams P L => q.consumer.Held q.opened)
    (fun _ hq => UPAStreamManager.Assigned.exclusive hq) (fun _ _ hq ho => step_held hq ho)
    (fun _ _ _ ho => step_not_exclusive ho) (start_held symbols config)

def openAgain : List (Event Bool Bool) :=
  [.setDomain true .marketPrice, .open true, .dispatch .sent, .close true, .dispatch .sent,
    .open true, .dispatch .sent]

theorem open_again_not_exclusive :
    ¬ ∀ (symbols : Bool → String) (config : TransportConfig) (events : List (Event Bool Bool)),
      Runs.Always step Exclusive (start symbols config) events := by
  intro h
  have hlast := Runs.always_iff_run.mp (h (fun _ => "A") {} openAgain) openAgain (List.prefix_refl _)
  have hfound := hlast.found true (by decide)
  exact absurd hfound (by decide)

end OpenStreams

end RmdsBridge
