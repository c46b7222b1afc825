import Mathlib.Data.Fintype.Card
import RmdsBridge.LiveStates

namespace RmdsBridge

namespace UPAConsumer

variable {P L : Type} {c : UPAConsumer P L} {e : Event P L} {s : P}

def closeSent (c : UPAConsumer P L) : Event P L → Option P
  | .dispatch o =>
    (c.closeProcessed (.dispatch o)).filter fun s =>
      (c.subscriptions s).streamId ≠ 0 ∧ Handling.Closes (c.subscriptions s) o
  | _ => none

theorem closeSent_eq_none (h : c.closeProcessed e = none) : c.closeSent e = none := by
  cases e with
  | dispatch o =>
    change Option.filter _ (c.closeProcessed (.dispatch o)) = none
    rw [h, Option.filter_none]
  | _ => rfl

theorem closeSent_dispatch {o : SendOutcome} (h : c.closeProcessed (.dispatch o) = some s) :
    c.closeSent (.dispatch o) =
      if (c.subscriptions s).streamId ≠ 0 ∧ Handling.Closes (c.subscriptions s) o then some s
      else none := by
  change Option.filter _ (c.closeProcessed (.dispatch o)) = _
  rw [h, Option.filter_some]
  simp only [decide_eq_true_eq]

variable [DecidableEq P]

theorem Became.state {c' : UPAConsumer P L} {h : Handling P L} (b : c.Became c' s h)
    (hs : h.sub.state = .live → (c.subscriptions s).state = .live) (t : P)
    (ht : (c'.subscriptions t).state = .live) : (c.subscriptions t).state = .live := by
  rw [b.1] at ht
  by_cases hts : t = s
  · subst hts
    rw [Function.update_self] at ht
    exact hs ht
  · rwa [Function.update_of_ne hts] at ht

variable [DecidableEq L]

def subject (c : UPAConsumer P L) : Event P L → Option P
  | .setDomain s _ | .addListener s _ | .removeListener s _ | .open s | .bridgeOpen s
  | .reSubscribe s | .snapshot s | .requestImage s _ | .close s | .setStale s | .setLive s => some s
  | .dispatch _ => c.requestQueue.head?.map Request.sub
  | .respond domain streamId _ => c.target domain streamId

def wentLive (c : UPAConsumer P L) (e : Event P L) : Option P :=
  (c.subject e).filter fun s =>
    (c.subscriptions s).state ≠ .live ∧ ((c.step e).subscriptions s).state = .live

theorem wentLive_eq_none
    (h : ∀ s, ((c.step e).subscriptions s).state = .live → (c.subscriptions s).state = .live) :
    c.wentLive e = none := by
  unfold wentLive
  rw [Option.filter_eq_none_iff]
  intro s _ hs
  rw [decide_eq_true_iff] at hs
  exact hs.1 (h s hs.2)

theorem wentLive_eq_some (hs : c.subject e = some s) (h0 : (c.subscriptions s).state ≠ .live)
    (h1 : ((c.step e).subscriptions s).state = .live) : c.wentLive e = some s := by
  unfold wentLive
  rw [hs, Option.filter_some, if_pos (decide_eq_true ⟨h0, h1⟩)]

end UPAConsumer

/-- A pointer is a 64-bit number and not null. -/
abbrev SubscriptionPtr := Fin (2 ^ 64 - 1)

structure LiveStreams (L : Type) where
  consumer : UPAConsumer SubscriptionPtr L
  live : Finset SubscriptionPtr := ∅
  wrapped : Bool := false

namespace LiveStreams

variable {L : Type}

def Counted (q : LiveStreams L) : Prop :=
  q.consumer.streamManager.openItems.toNat = q.live.card ∧ q.wrapped = false

variable {q : LiveStreams L} {e : Event SubscriptionPtr L} {s : SubscriptionPtr}

def LiveOk (q : LiveStreams L) : Event SubscriptionPtr L → Prop
  | .setLive s =>
    ((q.consumer.subscriptions s).state = .subscribing ∨
      (q.consumer.subscriptions s).state = .stale) → s ∈ q.live
  | .respond domain streamId msg =>
    ∀ s, q.consumer.target domain streamId = some s →
      ((q.consumer.subscriptions s).state = .subscribing →
        Handling.Counts domain (q.consumer.subscriptions s) msg → s ∉ q.live) ∧
      ((q.consumer.subscriptions s).state = .stale →
        Handling.Revives domain (q.consumer.subscriptions s) msg → s ∈ q.live)
  | _ => True

def Ok (q : LiveStreams L) (e : Event SubscriptionPtr L) : Prop :=
  (∀ s, q.consumer.closeSent e = some s → s ∈ q.live) ∧ q.LiveOk e

theorem ok_of_not_closed (hc : q.consumer.closeSent e = none) : q.Ok e ↔ q.LiveOk e := by
  unfold Ok
  rw [hc]
  simp

variable [DecidableEq L]

def step (q : LiveStreams L) (e : Event SubscriptionPtr L) : LiveStreams L where
  consumer := q.consumer.step e
  live :=
    match q.consumer.closeSent e, q.consumer.wentLive e with
    | some s, _ => q.live.erase s
    | none, some s => insert s q.live
    | none, none => q.live
  wrapped := q.wrapped || (q.consumer.closeSent e).isSome && q.consumer.streamManager.openItems == 0

def start (symbols : SubscriptionPtr → String) (config : TransportConfig) : LiveStreams L where
  consumer := { subscriptions := fun s => { symbol := symbols s }, config }

omit [DecidableEq L] in
theorem liveOk_respond_iff {domain : Domain} {streamId : ℕ} (msg : RsslMsg)
    (ht : q.consumer.target domain streamId = some s) :
    q.LiveOk (.respond domain streamId msg) ↔
      ((q.consumer.subscriptions s).state = .subscribing →
        Handling.Counts domain (q.consumer.subscriptions s) msg → s ∉ q.live) ∧
      ((q.consumer.subscriptions s).state = .stale →
        Handling.Revives domain (q.consumer.subscriptions s) msg → s ∈ q.live) := by
  simp only [LiveOk, ht, Option.some.injEq, forall_eq']

theorem counted_iff_of_still (hc : q.consumer.closeSent e = none)
    (hw : q.consumer.wentLive e = none) :
    (q.step e).Counted ↔
      (q.consumer.step e).streamManager.openItems.toNat = q.live.card ∧ q.wrapped = false := by
  unfold step
  rw [hc, hw, Option.isSome_none, Bool.false_and, Bool.or_false]
  exact Iff.rfl

theorem counted_iff_of_live (hc : q.consumer.closeSent e = none)
    (hw : q.consumer.wentLive e = some s) :
    (q.step e).Counted ↔
      (q.consumer.step e).streamManager.openItems.toNat = (insert s q.live).card ∧
        q.wrapped = false := by
  unfold step
  rw [hc, hw, Option.isSome_none, Bool.false_and, Bool.or_false]
  exact Iff.rfl

theorem counted_iff_of_closed (hc : q.consumer.closeSent e = some s) :
    (q.step e).Counted ↔
      (q.consumer.step e).streamManager.openItems.toNat = (q.live.erase s).card ∧
        (q.wrapped || q.consumer.streamManager.openItems == 0) = false := by
  unfold step
  rw [hc, Option.isSome_some, Bool.true_and]
  exact Iff.rfl

theorem counted_still (hq : q.Counted) (hc : q.consumer.closeSent e = none)
    (hw : q.consumer.wentLive e = none)
    (ho : (q.consumer.step e).streamManager.openItems = q.consumer.streamManager.openItems) :
    (q.step e).Counted := by
  rw [counted_iff_of_still hc hw, ho]
  exact hq

theorem counted_uncounted (hq : q.Counted) (hc : q.consumer.closeSent e = none)
    (hw : q.consumer.wentLive e = some s)
    (ho : (q.consumer.step e).streamManager.openItems = q.consumer.streamManager.openItems) :
    (q.step e).Counted ↔ s ∈ q.live := by
  obtain ⟨hn, hw'⟩ := hq
  rw [counted_iff_of_live hc hw, ho, hn, and_iff_left hw']
  constructor
  · intro hcard
    by_contra hs
    rw [Finset.card_insert_of_notMem hs] at hcard
    omega
  · intro hs
    rw [Finset.insert_eq_of_mem hs]

theorem counted_counted (hq : q.Counted) (hc : q.consumer.closeSent e = none)
    (hw : q.consumer.wentLive e = some s)
    (ho : (q.consumer.step e).streamManager.openItems = q.consumer.streamManager.openItems + 1) :
    (q.step e).Counted ↔ s ∉ q.live := by
  obtain ⟨hn, hw'⟩ := hq
  rw [counted_iff_of_live hc hw, ho, and_iff_left hw']
  constructor
  · intro hcard hs
    rw [Finset.insert_eq_of_mem hs, ← hn] at hcard
    bv_omega
  · intro hs
    have hlt := Finset.card_lt_univ_of_notMem hs
    rw [Fintype.card_fin, ← hn] at hlt
    rw [Finset.card_insert_of_notMem hs, ← hn]
    bv_omega

theorem counted_closed (hq : q.Counted) (hc : q.consumer.closeSent e = some s)
    (ho : (q.consumer.step e).streamManager.openItems = q.consumer.streamManager.openItems - 1) :
    (q.step e).Counted ↔ s ∈ q.live := by
  obtain ⟨hn, hw'⟩ := hq
  rw [counted_iff_of_closed hc, ho, hw', Bool.false_or, beq_eq_false_iff_ne]
  constructor
  · rintro ⟨hcard, hne⟩
    by_contra hs
    rw [Finset.erase_eq_of_notMem hs, ← hn] at hcard
    bv_omega
  · intro hs
    have hpos := Finset.card_pos.mpr ⟨s, hs⟩
    rw [Finset.card_erase_of_mem hs, ← hn]
    rw [← hn] at hpos
    constructor
    · bv_omega
    · rintro h0
      rw [h0] at hpos
      exact absurd hpos (by decide)

theorem counted_iff_of_kept (hq : q.Counted) (hc : q.consumer.closeSent e = none)
    (hl : q.LiveOk e)
    (hstate : ∀ t, ((q.consumer.step e).subscriptions t).state = .live →
      (q.consumer.subscriptions t).state = .live)
    (ho : (q.consumer.step e).streamManager.openItems = q.consumer.streamManager.openItems) :
    (q.step e).Counted ↔ q.Ok e :=
  iff_of_true (counted_still hq hc (UPAConsumer.wentLive_eq_none hstate) ho)
    ((ok_of_not_closed hc).mpr hl)

theorem quiet_counted_iff (hq : q.Counted) (hl : q.LiveOk e) (hlive : ∀ s, e ≠ .setLive s)
    (hrespond : ∀ domain streamId msg, e ≠ .respond domain streamId msg) :
    (q.step e).Counted ↔ q.Ok e := by
  have hst := q.consumer.stepped e
  have hkept := counted_iff_of_kept (e := e) hq
  generalize hc' : q.consumer.step e = c' at hst hkept
  generalize hs : q.consumer.requestSent e = sent, hc : q.consumer.closeProcessed e = closed at hst
  cases hst with
  | idle hsubs hm =>
    exact hkept (UPAConsumer.closeSent_eq_none hc) hl (fun t ht => by rwa [hsubs] at ht) (by rw [hm])
  | quiet s sub closes h _ hst =>
    exact hkept (UPAConsumer.closeSent_eq_none hc) hl (h.state hst) (by rw [h.2])
  | setLive s => exact absurd rfl (hlive s)
  | @close o s h =>
    obtain ⟨hst, ho⟩ := (q.consumer.handling s).sendCloseRequest_state s o
    rw [← h.2, UPAConsumer.handling_sub] at ho
    have hsent := UPAConsumer.closeSent_dispatch hc
    by_cases hcl : (q.consumer.subscriptions s).streamId ≠ 0 ∧
        Handling.Closes (q.consumer.subscriptions s) o
    · rw [if_pos hcl] at hsent ho
      rw [counted_closed hq hsent (by rw [hc']; exact ho)]
      unfold Ok
      rw [hsent, and_iff_left hl]
      simp
    · rw [if_neg hcl] at hsent ho
      exact hkept hsent hl (h.state fun hn => hst ▸ hn) ho
  | sent s _ h =>
    obtain ⟨hst, ho⟩ := (q.consumer.handling s).takeStreamId_state s
    exact hkept (UPAConsumer.closeSent_eq_none hc) hl (h.state fun hn => hst ▸ hn)
      (by rw [h.2]; exact ho)
  | unsent s pending _ h =>
    obtain ⟨hst, ho⟩ := (q.consumer.handling s).takeStreamId_state s
    exact hkept (UPAConsumer.closeSent_eq_none hc) hl (h.state fun hn => hst ▸ hn)
      (by rw [h.2]; exact ho)
  | respond s => exact absurd rfl (hrespond _ _ _)

theorem setLive_counted_iff (hq : q.Counted) (s : SubscriptionPtr) :
    (q.step (.setLive s)).Counted ↔ q.Ok (.setLive s) := by
  have hb : q.consumer.Became (q.consumer.step (.setLive s)) s (q.consumer.handling s).setLive :=
    ⟨rfl, rfl⟩
  have ho : (q.consumer.step (.setLive s)).streamManager.openItems =
      q.consumer.streamManager.openItems := (q.consumer.handling s).setLive_openItems
  have hst := (q.consumer.handling s).setLive_state
  rw [UPAConsumer.handling_sub] at hst
  by_cases hup : (q.consumer.subscriptions s).state = .subscribing ∨
      (q.consumer.subscriptions s).state = .stale
  · have hlive : ((q.consumer.step (.setLive s)).subscriptions s).state = .live := by
      rw [hb.1, Function.update_self, hst, if_neg]
      intro hi
      rw [hi] at hup
      simp at hup
    have hnot : (q.consumer.subscriptions s).state ≠ .live := by
      intro hl
      rw [hl] at hup
      simp at hup
    rw [counted_uncounted hq rfl (UPAConsumer.wentLive_eq_some rfl hnot hlive) ho,
      ok_of_not_closed rfl]
    exact ⟨fun hs _ => hs, fun hs => hs hup⟩
  · refine counted_iff_of_kept hq rfl (fun h => absurd h hup) (hb.state fun hl => ?_) ho
    rw [hst] at hl
    cases hc : (q.consumer.subscriptions s).state with
    | inactive => rw [if_pos hc] at hl; cases hl
    | subscribing => exact absurd (.inl hc) hup
    | live => rfl
    | stale => exact absurd (.inr hc) hup

theorem answered_counted_iff (hq : q.Counted) {domain : Domain} {streamId : ℕ} (msg : RsslMsg)
    (ht : q.consumer.target domain streamId = some s)
    (hin : (q.consumer.subscriptions s).state ≠ .inactive) :
    (q.step (.respond domain streamId msg)).Counted ↔ q.Ok (.respond domain streamId msg) := by
  have hb := UPAConsumer.respond_became msg ht
  obtain ⟨hnext, ho⟩ :=
    Handling.processResponse_advances s (h := q.consumer.handling s) domain msg hin
  rw [UPAConsumer.handling_sub] at hnext
  rw [← hb.2, UPAConsumer.handling_sub, UPAConsumer.handling_manager] at ho
  have hlive (h0 : (q.consumer.subscriptions s).state ≠ .live)
      (h1 : Handling.responseState domain (q.consumer.subscriptions s) msg = .live) :
      q.consumer.wentLive (.respond domain streamId msg) = some s :=
    UPAConsumer.wentLive_eq_some ht h0 (by rw [hb.1, Function.update_self]; exact hnext.trans h1)
  have hkept (hl : q.LiveOk (.respond domain streamId msg))
      (hst : Handling.responseState domain (q.consumer.subscriptions s) msg = .live →
        (q.consumer.subscriptions s).state = .live)
      (ho : (q.consumer.step (.respond domain streamId msg)).streamManager.openItems =
        q.consumer.streamManager.openItems) :=
    counted_iff_of_kept hq rfl hl (hb.state fun hn => hst (hnext.symm.trans hn)) ho
  have hok := liveOk_respond_iff msg ht
  cases hst : (q.consumer.subscriptions s).state with
  | inactive => exact absurd hst hin
  | live =>
    rw [if_neg fun h => by rw [hst] at h; cases h.1] at ho
    exact hkept (hok.mpr (by simp [hst])) (fun _ => hst) ho
  | subscribing =>
    have hcounts : Handling.responseState domain (q.consumer.subscriptions s) msg = .live ↔
        Handling.Counts domain (q.consumer.subscriptions s) msg :=
      Handling.responseState_subscribing hst
    by_cases hc : Handling.Counts domain (q.consumer.subscriptions s) msg
    · have hup := hcounts.mpr hc
      rw [if_pos ⟨hst, hup⟩] at ho
      rw [counted_counted hq rfl (hlive (by rw [hst]; decide) hup) ho, ok_of_not_closed rfl, hok]
      simp [hst, hc]
    · rw [if_neg fun h => hc (hcounts.mp h.2)] at ho
      exact hkept (hok.mpr (by simp [hst, hc])) (fun hl => absurd (hcounts.mp hl) hc) ho
  | stale =>
    have hrevives : Handling.responseState domain (q.consumer.subscriptions s) msg = .live ↔
        Handling.Revives domain (q.consumer.subscriptions s) msg :=
      Handling.responseState_stale hst
    rw [if_neg fun h => by rw [hst] at h; cases h.1] at ho
    by_cases hr : Handling.Revives domain (q.consumer.subscriptions s) msg
    · rw [counted_uncounted hq rfl (hlive (by rw [hst]; decide) (hrevives.mpr hr)) ho,
        ok_of_not_closed rfl, hok]
      simp [hst, hr]
    · exact hkept (hok.mpr (by simp [hst, hr])) (fun hl => absurd (hrevives.mp hl) hr) ho

theorem respond_counted_iff (hq : q.Counted) (domain : Domain) (streamId : ℕ) (msg : RsslMsg) :
    (q.step (.respond domain streamId msg)).Counted ↔ q.Ok (.respond domain streamId msg) := by
  cases ht : q.consumer.target domain streamId with
  | none =>
    have hstep := UPAConsumer.respond_untargeted msg ht
    refine counted_iff_of_kept hq rfl (fun s hs => ?_) (fun t h => by rwa [hstep] at h) (by rw [hstep])
    rw [ht] at hs
    cases hs
  | some s =>
    by_cases hin : (q.consumer.subscriptions s).state = .inactive
    · have hb := UPAConsumer.respond_became msg ht
      obtain ⟨hsame, ho⟩ := (q.consumer.handling s).respondInactive_state s
      rw [Handling.processResponse_inactive s domain msg hin] at hb
      have hl : q.LiveOk (.respond domain streamId msg) := (liveOk_respond_iff msg ht).mpr (by simp [hin])
      exact counted_iff_of_kept hq rfl hl (hb.state fun hl => by rwa [hsame] at hl) (hb.2 ▸ ho)
    · exact answered_counted_iff hq msg ht hin

theorem step_counted_iff (hq : q.Counted) : (q.step e).Counted ↔ q.Ok e := by
  cases e with
  | setLive s => exact setLive_counted_iff hq s
  | respond domain streamId msg => exact respond_counted_iff hq domain streamId msg
  | _ => exact quiet_counted_iff hq trivial (fun _ h => by cases h) fun _ _ _ h => by cases h

theorem open_items_counted_iff (symbols : SubscriptionPtr → String) (config : TransportConfig)
    (events : List (Event SubscriptionPtr L)) :
    Runs.Always step Counted (start symbols config) events ↔
      Runs.Guarded step Ok (start symbols config) events :=
  Runs.always_iff_guarded (fun _ hq => hq) (fun _ _ hq ho => (step_counted_iff hq).mpr ho)
    (fun _ _ hq ho h => ho ((step_counted_iff hq).mp h)) ⟨rfl, rfl⟩

def closeEarly (s : SubscriptionPtr) : List (Event SubscriptionPtr Bool) :=
  [.setDomain s .marketPrice, .open s, .dispatch .sent, .close s, .dispatch .sent]

theorem close_early_not_counted :
    ¬ ∀ (symbols : SubscriptionPtr → String) (config : TransportConfig)
      (events : List (Event SubscriptionPtr Bool)),
      Runs.Always step Counted (start symbols config) events := by
  intro h
  let s : SubscriptionPtr := ⟨0, by decide⟩
  have hlast := Runs.always_iff_run.mp (h (fun _ => "A") {} (closeEarly s)) (closeEarly s) (List.prefix_refl _)
  exact absurd hlast.2 (by decide)

end LiveStreams

end RmdsBridge
