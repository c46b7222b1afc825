import RmdsBridge.StreamExclusive

namespace RmdsBridge

variable {P L : Type} [DecidableEq P]

structure StreamRule (Q : UPAStreamManager P → (P → ℕ) → Prop) : Prop where
  congr : ∀ {m m' : UPAStreamManager P} {ids : P → ℕ}, Q m ids → m'.itemArray = m.itemArray →
    m'.nextIndex = m.nextIndex → m'.freeStreamIds = m.freeStreamIds → Q m' ids
  release : ∀ {m : UPAStreamManager P} {ids : P → ℕ} {s : P}, Q m ids → ids s ≠ 0 →
    Q (m.releaseStreamId (ids s)) ids
  addItem : ∀ {m : UPAStreamManager P} {ids : P → ℕ} {s : P}, Q m ids → ids s = 0 →
    Q (m.addItem s).2 (Function.update ids s (m.addItem s).1)
  item : ∀ {m : UPAStreamManager P} {ids : P → ℕ} {i : ℕ} {s : P}, Q m ids → m.itemArray i = some s →
    ids s ≠ 0

namespace StreamRule

variable {Q : UPAStreamManager P → (P → ℕ) → Prop} (r : StreamRule Q) {c c' : UPAConsumer P L} {s : P}
  {h : Handling P L}

include r

theorem of_streams {h' : Handling P L} {ids : P → ℕ} (hs : h'.streams = h.streams)
    (hq : Q h.manager ids) : Q h'.manager ids := by
  simp only [Handling.streams, Prod.mk.injEq] at hs
  exact r.congr hq hs.1 hs.2.1 hs.2.2.1

theorem takes (hc : Q c.streamManager c.ids) (s : P) :
    Q ((c.handling s).takeStreamId s).manager
      (Function.update c.ids s ((c.handling s).takeStreamId s).sub.streamId) := by
  unfold Handling.takeStreamId
  by_cases h0 : c.ids s = 0
  · rw [if_pos (show (c.handling s).sub.streamId = 0 from h0)]
    exact r.addItem hc h0
  · rw [if_neg (show ¬ (c.handling s).sub.streamId = 0 from h0),
      show (c.handling s).sub.streamId = c.ids s from rfl, Function.update_eq_self]
    exact hc

theorem kept (hc : Q c.streamManager c.ids) (b : c.Became c' s h)
    (hs : h.streams = (c.handling s).streams) : Q c'.streamManager c'.ids := by
  rw [b.ids_same (UPAConsumer.streamId_of_streams hs), b.2]
  exact r.of_streams hs hc

theorem released (hc : Q c.streamManager c.ids) (b : c.Became c' s h) (h0 : c.ids s ≠ 0)
    (hs : h.streams = (c.handling s).releaseStreamId.streams ∨
      h.streams = { (c.handling s).releaseStreamId with
        sub := { (c.handling s).sub with snapShot := false } }.streams) : Q c'.streamManager c'.ids := by
  have hr : Q (c.streamManager.releaseStreamId (c.ids s)) c.ids := r.release hc h0
  rcases hs with hs | hs
  · rw [b.ids_same (UPAConsumer.streamId_of_streams hs), b.2]
    exact r.of_streams hs hr
  · rw [b.ids_same (UPAConsumer.streamId_of_streams hs), b.2]
    exact r.of_streams hs hr

variable [DecidableEq L]

theorem respond {domain : Domain} {streamId : ℕ} {msg : RsslMsg} (hc : Q c.streamManager c.ids)
    (ht : c.target domain streamId = some s)
    (b : c.Became c' s (UPAConsumer.processResponse s (c.handling s) domain msg)) :
    Q c'.streamManager c'.ids := by
  rcases (c.handling s).processResponse_keepsStreams s domain msg with hs | hs
  · exact r.kept hc b hs
  · by_cases hsnap : (c.subscriptions s).snapShot = true
    · have hcomplete : (c.handling s).completeSnapshot = _ := if_pos hsnap
      rw [hcomplete] at hs
      have h0 : c.ids s ≠ 0 := r.item hc (UPAConsumer.item_of_target ht)
      exact r.released hc b h0 (.inr hs)
    · have hcomplete : (c.handling s).completeSnapshot = _ := if_neg hsnap
      rw [hcomplete] at hs
      exact r.kept hc b hs

theorem step (hc : Q c.streamManager c.ids) (e : Event P L) : Q (c.step e).streamManager (c.step e).ids := by
  have hst := c.stepped e
  generalize c.step e = c' at hst ⊢
  generalize c.requestSent e = sent, c.closeProcessed e = closed at hst
  cases hst with
  | idle hsubs hm =>
    have hids : c'.ids = c.ids := by
      unfold UPAConsumer.ids
      rw [hsubs]
    rw [hids, hm]
    exact hc
  | quiet s sub closes b hid _ =>
    rw [b.ids_same hid, b.2]
    exact r.congr hc rfl rfl rfl
  | setLive s b => exact r.kept hc b (c.handling s).setLive_stateOnly.streams_eq
  | @close o s b =>
    by_cases h0 : c.ids s = 0
    · exact r.kept hc b ((c.handling s).sendCloseRequest_unopened s o h0)
    · exact r.released hc b h0 (.inl ((c.handling s).sendCloseRequest_streams s o h0))
  | sent s hid b =>
    rw [b.ids_eq, b.2]
    exact r.congr (r.takes hc s) rfl rfl rfl
  | unsent s pending hp b =>
    rw [b.ids_eq, b.2]
    exact r.congr (r.takes hc s) rfl rfl rfl
  | respond s ht b => exact r.respond hc ht b

end StreamRule

end RmdsBridge
