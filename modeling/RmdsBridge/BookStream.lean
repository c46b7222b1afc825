import RmdsBridge.BookQueue
import RmdsBridge.BookRender
import RmdsBridge.Runs

namespace RmdsBridge

variable {D : Type}

def EntryMsg.edit (m : EntryMsg) : Edit String :=
  if m.wEntryAction = 'D' then .erase m.wEntryId
  else if m.wEntryAction = 'A' then .insert m.wEntryId
  else if m.wEntryAction = 'U' then .touch m.wEntryId
  else .skip

def LevelMsg.key (m : LevelMsg D) : Char × D := (m.wPlSide, m.wPlPrice.value)

def LevelMsg.act (m : LevelMsg D) (held : Option (Finset String)) : Option (Option (Finset String)) :=
  if m.wPlAction = 'D' then some none
  else (Edit.replay (held.getD ∅) (m.wPlEntries.map EntryMsg.edit)).map some

abbrev BookClient (D : Type) := Char × D → Option (Finset String)

def BookClient.fold [DecidableEq D] (c : BookClient D) (msg : BookMsg D) : Option (BookClient D) :=
  foldKeyed LevelMsg.key LevelMsg.act c msg.wPriceLevels

structure BookStream (D : Type) where
  book : UPABookByOrderMessage
  client : Option (BookClient D)

namespace BookStream

def start : BookStream D := ⟨.empty, some fun _ => none⟩

def pending (r : BookStream D) (ops : List BookOp) : UPABookByOrderMessage :=
  Runs.run UPABookByOrderMessage.apply r.book.startUpdate ops

def cycle [DecidableEq D] (f : RsslReal → D) (r : BookStream D) (ops : List BookOp) : BookStream D :=
  match (r.pending ops).buildMamdaMessage f with
  | none => ⟨(r.pending ops).endUpdate, none⟩
  | some (msg, b) => ⟨b.endUpdate, r.client.bind fun c => c.fold msg⟩

def Follows (f : RsslReal → D) (r : BookStream D) : Prop :=
  ∃ c, r.client = some c ∧ ∀ k s, c k = some s ↔
    ∃ l v, r.book.level l = some v ∧ v.orders ≠ ∅ ∧ k = (l.1.code, f v.price) ∧ s = v.orders

def Fed (r : BookStream D) (ops : List BookOp) : Prop :=
  Runs.Guarded UPABookByOrderMessage.apply UPABookByOrderMessage.LiveFeed r.book.startUpdate ops

def CycleOk (f : RsslReal → D) (r : BookStream D) (ops : List BookOp) : Prop :=
  Runs.Guarded UPABookByOrderMessage.apply
      (fun b o => b.LiveFeed o ∧ ∀ l ∈ b.rewrites o, (r.pending ops).ordersAt l = ∅)
      r.book.startUpdate ops ∧
    (r.pending ops).levels.Pairwise (fun x y => x.1.1 = y.1.1 → f x.2.price ≠ f y.2.price) ∧
    (r.pending ops).numLevels < 2 ^ 16

instance (r : BookStream D) (ops : List BookOp) : Decidable (r.Fed ops) :=
  inferInstanceAs (Decidable (Runs.Guarded ..))

instance [DecidableEq D] (f : RsslReal → D) (r : BookStream D) (ops : List BookOp) :
    Decidable (r.CycleOk f ops) :=
  inferInstanceAs (Decidable (_ ∧ _ ∧ _))

end BookStream

namespace UPABookByOrderMessage

variable {b b₀ : UPABookByOrderMessage} {f : RsslReal → D} {l : LevelId} {v : UPALevel}

def Coded (b : UPABookByOrderMessage) : Prop := ∀ l v, b.level l = some v → v.actionCode = 'A'

structure Progress (b₀ : UPABookByOrderMessage) (bad : LevelId → Prop)
    (b : UPABookByOrderMessage) : Prop where
  tracked : b.Tracked
  queued : b.Queued
  coded : b.Coded
  keeps : ∀ l v₀, b₀.level l = some v₀ → ∃ v, b.level l = some v ∧ v.price = v₀.price
  replay : ∀ l, ¬ bad l → Edit.replay (b₀.ordersAt l) (b.deltas l) = some (b.ordersAt l)

theorem queue_startUpdate : b.startUpdate.queue l = [] := by
  unfold queue
  rw [startUpdate_level]
  cases b.level l <;> rfl

theorem progress_startUpdate (bad : LevelId → Prop) (ht : b.Tracked) (hc : b.Coded) :
    Progress b.startUpdate bad b.startUpdate where
  tracked := startUpdate_tracked ht
  queued := by
    constructor <;> intro l p hp <;> rw [queue_startUpdate] at hp <;> cases hp
  coded l v hv := by
    rw [startUpdate_level] at hv
    obtain ⟨w, hw, rfl⟩ := Option.map_eq_some_iff.mp hv
    exact hc l w hw
  keeps l v₀ hv := ⟨v₀, hv, rfl⟩
  replay l _ := by
    unfold deltas
    rw [queue_startUpdate]
    rfl

theorem Progress.apply {bad : LevelId → Prop} (h : Progress b₀ bad b) (o : BookOp)
    (ho : b.LiveFeed o ∧ ∀ l ∈ b.rewrites o, bad l) : Progress b₀ bad (b.apply o) := by
  obtain ⟨hlive, hbad⟩ := ho
  obtain ⟨ps, hps, hreplay⟩ := apply_replays h.tracked h.queued o hlive
  have hlevel := apply_level h.tracked.wellFormed o
  refine ⟨apply_tracked h.tracked o hlive.trackable, hps.queued h.queued, ?_, ?_, ?_⟩
  · intro l v hv
    rcases hlevel l with hl | ⟨w, p, g, hw | ⟨-, g', s, rfl⟩, hl⟩
    · exact h.coded l v (hl.symm.trans hv)
    · obtain rfl := Option.some.inj (hl.symm.trans hv)
      exact h.coded l w hw
    · obtain rfl := Option.some.inj (hl.symm.trans hv)
      rfl
  · intro l v₀ hv₀
    obtain ⟨v, hv, hprice⟩ := h.keeps l v₀ hv₀
    rcases hlevel l with hl | ⟨w, p, g, hw | ⟨hn, -⟩, hl⟩
    · exact ⟨v, hl.trans hv, hprice⟩
    · obtain rfl := Option.some.inj (hv.symm.trans hw)
      exact ⟨_, hl, hprice⟩
    · rw [hv] at hn
      cases hn
  · intro l hl
    have hr : b.rewrites o ≠ some l := fun hc => hl (hbad l hc)
    rw [hps.deltas hr, Edit.replay_append, h.replay l hl]
    exact hreplay l

theorem toLevelMsg_act_deltas {s : Side} {held : Option (Finset String)} (hv : b.level l = some v)
    (hc : v.actionCode = 'A') (ho : v.orders ≠ ∅) :
    (v.toLevelMsg f b.entries s).act held =
      (Edit.replay (held.getD ∅) (b.deltas l)).map some := by
  have hcard : ¬ v.orders.card = 0 := fun hc => ho (Finset.card_eq_zero.mp hc)
  have hdelta : (v.addEntriesToMsg b.entries).map EntryMsg.edit = b.deltas l := by
    unfold UPALevel.addEntriesToMsg deltas
    rw [queue_of_level hv, List.map_map]
    rfl
  unfold LevelMsg.act UPALevel.toLevelMsg UPALevel.numOrders
  simp only [if_neg hcard, hc, hdelta]
  rfl

theorem toLevelMsg_act {s : Side} {held : Option (Finset String)} (hv : b.level l = some v)
    (hc : v.actionCode = 'A')
    (h : v.orders ≠ ∅ → Edit.replay (held.getD ∅) (b.deltas l) = some v.orders) :
    (v.toLevelMsg f b.entries s).act held =
      some (if v.orders = ∅ then none else some v.orders) := by
  by_cases ho : v.orders = ∅
  · simp [LevelMsg.act, UPALevel.toLevelMsg, UPALevel.numOrders, ho]
  · rw [toLevelMsg_act_deltas hv hc ho, h ho, if_neg ho, Option.map_some]

end UPABookByOrderMessage

namespace BookStream

open UPABookByOrderMessage

variable {f : RsslReal → D} {r : BookStream D} {ops : List BookOp}

structure Following (f : RsslReal → D) (r : BookStream D) : Prop where
  tracked : r.book.Tracked
  coded : r.book.Coded
  follows : r.Follows f

def Held (f : RsslReal → D) (b : UPABookByOrderMessage) (shown : LevelId → Finset String)
    (c : BookClient D) : Prop :=
  ∀ k s, c k = some s ↔
    ∃ l v, b.level l = some v ∧ shown l ≠ ∅ ∧ k = (l.1.code, f v.price) ∧ s = shown l

structure Showing (f : RsslReal → D) (r : BookStream D) (shown : LevelId → Finset String) : Prop where
  tracked : r.book.Tracked
  coded : r.book.Coded
  present : ∀ l, shown l ≠ ∅ → ∃ v, r.book.level l = some v
  held : ∃ c, r.client = some c ∧ Held f r.book shown c

theorem follows_iff : r.Follows f ↔ ∃ c, r.client = some c ∧ Held f r.book r.book.ordersAt c := by
  have horders (k : Char × D) (s : Finset String) :
      (∃ l v, r.book.level l = some v ∧ v.orders ≠ ∅ ∧ k = (l.1.code, f v.price) ∧ s = v.orders) ↔
        ∃ l v, r.book.level l = some v ∧ r.book.ordersAt l ≠ ∅ ∧ k = (l.1.code, f v.price) ∧
          s = r.book.ordersAt l := by
    constructor
    · rintro ⟨l, v, hv, h⟩
      exact ⟨l, v, hv, by rwa [ordersAt_of_level hv]⟩
    · rintro ⟨l, v, hv, h⟩
      exact ⟨l, v, hv, by rwa [ordersAt_of_level hv] at h⟩
  simp only [Follows, Held, horders]

theorem ordersAt_present {b : UPABookByOrderMessage} (l : LevelId) (h : b.ordersAt l ≠ ∅) :
    ∃ v, b.level l = some v := by
  cases hv : b.level l with
  | none => exact absurd (by simp [ordersAt, hv]) h
  | some v => exact ⟨v, rfl⟩

theorem Following.showing (h : r.Following f) : r.Showing f r.book.ordersAt :=
  ⟨h.tracked, h.coded, ordersAt_present, follows_iff.mp h.follows⟩

theorem Showing.following (h : r.Showing f r.book.ordersAt) : r.Following f :=
  ⟨h.tracked, h.coded, follows_iff.mpr h.held⟩

theorem following_start : (start : BookStream D).Following f where
  tracked := tracked_empty
  coded l v hv := by simp [start] at hv
  follows := ⟨_, rfl, fun k s => by simp [start]⟩

variable {shown : LevelId → Finset String}

theorem pending_progress (h : r.Showing f shown) (ho : r.CycleOk f ops) :
    Progress r.book.startUpdate (fun l => (r.pending ops).ordersAt l = ∅) (r.pending ops) :=
  ho.1.run_inv (fun _ o hp ho => hp.apply o ho) (progress_startUpdate _ h.tracked h.coded)

theorem CycleOk.level_eq (ho : r.CycleOk f ops) {l l' : LevelId} {v v' : UPALevel}
    (hv : (r.pending ops).level l = some v) (hv' : (r.pending ops).level l' = some v')
    (hk : (l.1.code, f v.price) = (l'.1.code, f v'.price)) : l = l' := by
  obtain ⟨hcode, hprice⟩ := Prod.mk.inj hk
  have hside : l.1 = l'.1 := by
    rw [← Option.some.injEq, ← Side.ofCode_code, ← Side.ofCode_code, hcode]
  by_contra hne
  have : Std.Symm fun x y : LevelId × UPALevel =>
      x.1.1 = y.1.1 → f x.2.price ≠ f y.2.price := ⟨fun _ _ h hs => (h hs.symm).symm⟩
  exact ho.2.1.forall (mem_levels.mpr hv) (mem_levels.mpr hv')
    (fun hc => hne (congrArg Prod.fst hc)) hside hprice

theorem held_getD (h : r.Showing f shown) (ho : r.CycleOk f ops) {c : BookClient D}
    (hheld : Held f r.book shown c) {l : LevelId} {v : UPALevel}
    (hv : (r.pending ops).level l = some v) : (c (l.1.code, f v.price)).getD ∅ = shown l := by
  have hp := pending_progress h ho
  have hstart {l v} (hb : r.book.level l = some v) :
      r.book.startUpdate.level l = some v.clearDeltas := by
    rw [startUpdate_level, hb]; rfl
  cases hc : c (l.1.code, f v.price) with
  | some s =>
    obtain ⟨l', v₀, hb, -, hk, rfl⟩ := (hheld _ _).mp hc
    obtain ⟨v', hv', hprice⟩ := hp.keeps l' _ (hstart hb)
    have hl : l = l' := ho.level_eq hv hv' (hk.trans (by rw [hprice]; rfl))
    rw [hl]
    rfl
  | none =>
    by_contra hne
    have hshown : shown l ≠ ∅ := fun he => hne he.symm
    obtain ⟨v₀, hb⟩ := h.present l hshown
    obtain ⟨v', hv', hprice⟩ := hp.keeps l _ (hstart hb)
    obtain rfl := Option.some.inj (hv.symm.trans hv')
    have hs := (hheld (l.1.code, f v.price) (shown l)).mpr
      ⟨l, v₀, hb, hshown, by rw [hprice]; rfl, rfl⟩
    rw [hc] at hs
    cases hs

theorem CycleOk.keys_pairwise (ho : r.CycleOk f ops) :
    (r.pending ops).levels.Pairwise fun x y =>
      LevelMsg.key (x.2.toLevelMsg f (r.pending ops).entries x.1.1) ≠
        LevelMsg.key (y.2.toLevelMsg f (r.pending ops).entries y.1.1) := by
  refine ho.2.1.imp fun {x y} hxy hk => ?_
  obtain ⟨hcode, hprice⟩ := Prod.mk.inj hk
  have hside : some x.1.1 = some y.1.1 := by
    rw [← Side.ofCode_code, ← Side.ofCode_code]
    exact congrArg Side.ofCode hcode
  exact hxy (Option.some.inj hside) hprice

def NothingMissed (r : BookStream D) (ops : List BookOp) (shown : LevelId → Finset String) : Prop :=
  ∀ x ∈ (r.pending ops).levels, x.2.orders ≠ ∅ → r.book.ordersAt x.1 = shown x.1

instance (r : BookStream D) (ops : List BookOp) (shown : LevelId → Finset String) :
    Decidable (r.NothingMissed ops shown) :=
  inferInstanceAs (Decidable (∀ x ∈ (r.pending ops).levels, _))

theorem cycle_level {l : LevelId} {v : UPALevel} :
    (r.pending ops).afterBuild.endUpdate.level l = some v ↔
      ∃ w, (r.pending ops).level l = some w ∧ w.orders ≠ ∅ ∧ w.popDeltas = v := by
  rw [endUpdate_level, afterBuild_level, Option.filter_eq_some_iff, Option.map_eq_some_iff]
  simp only [decide_eq_true_eq, UPALevel.numOrders, ne_eq, Finset.card_eq_zero]
  constructor
  · rintro ⟨⟨w, hw, rfl⟩, hne⟩
    exact ⟨w, hw, by rwa [popDeltas_orders] at hne, rfl⟩
  · rintro ⟨w, hw, hne, rfl⟩
    exact ⟨⟨w, hw, rfl⟩, by rwa [popDeltas_orders]⟩

variable [DecidableEq D]

theorem fold_levels (h : r.Showing f shown) (ho : r.CycleOk f ops) {c : BookClient D}
    (hheld : Held f r.book shown c) (hm : r.NothingMissed ops shown) :
    ∃ c', foldKeyed LevelMsg.key LevelMsg.act c ((r.pending ops).levels.map fun x =>
        x.2.toLevelMsg f (r.pending ops).entries x.1.1) = some c' ∧
      (∀ l v, (r.pending ops).level l = some v →
        c' (l.1.code, f v.price) = if v.orders = ∅ then none else some v.orders) ∧
      ∀ k, (∀ l v, (r.pending ops).level l = some v → (l.1.code, f v.price) ≠ k) →
        c' k = c k := by
  have hp := pending_progress h ho
  let render : LevelId × UPALevel → LevelMsg D := fun x =>
    x.2.toLevelMsg f (r.pending ops).entries x.1.1
  obtain ⟨c', hfold, hin, hout⟩ := foldKeyed_eq_some (LevelMsg.act ∘ render)
    (fun x => if x.2.orders = ∅ then none else some x.2.orders) ho.keys_pairwise c (by
      rintro ⟨l, v⟩ hx
      have hv := mem_levels.mp hx
      refine toLevelMsg_act hv (hp.coded l v hv) fun hne => ?_
      change Edit.replay ((c (l.1.code, f v.price)).getD ∅) _ = _
      have hbad : ¬ (r.pending ops).ordersAt l = ∅ := by rw [ordersAt_of_level hv]; exact hne
      have hreplay := hp.replay l hbad
      rw [startUpdate_ordersAt, hm _ hx hne] at hreplay
      rw [held_getD h ho hheld hv, hreplay, ordersAt_of_level hv])
  refine ⟨c', (foldKeyed_map ..).trans hfold, fun l v hv => ?_, fun k hk => ?_⟩
  · exact hin (l, v) (mem_levels.mpr hv)
  · exact hout k fun x hx => hk x.1 x.2 (mem_levels.mp hx)

theorem cycle_eq (ho : r.CycleOk f ops) : r.cycle f ops =
    ⟨(r.pending ops).afterBuild.endUpdate, r.client.bind fun c =>
      foldKeyed LevelMsg.key LevelMsg.act c ((r.pending ops).levels.map fun x =>
        x.2.toLevelMsg f (r.pending ops).entries x.1.1)⟩ := by
  unfold cycle
  rw [buildMamdaMessage_isSome ho.2.2]
  rfl

theorem cycle_following (h : r.Showing f shown) (ops : List BookOp) (ho : r.CycleOk f ops)
    (hm : r.NothingMissed ops shown) : (r.cycle f ops).Following f := by
  have hp := pending_progress h ho
  obtain ⟨c, hc, hheld⟩ := h.held
  obtain ⟨c', hfold, hin, hout⟩ := fold_levels h ho hheld hm
  rw [cycle_eq ho]
  refine ⟨endUpdate_tracked (afterBuild_tracked hp.tracked), fun l v hv => ?_, c', ?_, ?_⟩
  · obtain ⟨w, hw, -, rfl⟩ := cycle_level.mp hv
    rw [popDeltas_actionCode]
    exact hp.coded l w hw
  · rw [hc]
    exact hfold
  intro k s
  constructor
  · intro hs
    by_cases hk : ∃ l v, (r.pending ops).level l = some v ∧ (l.1.code, f v.price) = k
    · obtain ⟨l, v, hv, rfl⟩ := hk
      have hval := hin l v hv
      rw [hs] at hval
      split_ifs at hval with hempty
      refine ⟨l, v.popDeltas, cycle_level.mpr ⟨v, hv, hempty, rfl⟩, ?_, ?_, ?_⟩
      · rw [popDeltas_orders]; exact hempty
      · rw [popDeltas_price]
      · rw [popDeltas_orders]; exact Option.some.inj hval
    · -- a level that the client held before the cycle is still in the book when it is rendered
      have hsame := hout k fun l v hv hkv => hk ⟨l, v, hv, hkv⟩
      obtain ⟨l, v₀, hb, -, hk', -⟩ := (hheld k s).mp (hsame.symm.trans hs)
      obtain ⟨v, hv, hprice⟩ := hp.keeps l v₀.clearDeltas (by rw [startUpdate_level, hb]; rfl)
      exact absurd ⟨l, v, hv, by rw [hk', hprice]; rfl⟩ hk
  · rintro ⟨l, v, hv, -, rfl, rfl⟩
    obtain ⟨w, hw, hne, rfl⟩ := cycle_level.mp hv
    rw [popDeltas_orders, popDeltas_price, hin l w hw, if_neg hne]

theorem nothingMissed_of_follows (h : r.Showing f shown) (ho : r.CycleOk f ops)
    (hf : (r.cycle f ops).Follows f) : r.NothingMissed ops shown := by
  have hp := pending_progress h ho
  obtain ⟨c, hc, hheld⟩ := h.held
  rw [cycle_eq ho] at hf
  obtain ⟨c', hc', hfollows⟩ := hf
  dsimp only at hc' hfollows
  rw [hc, Option.bind_some, foldKeyed_map] at hc'
  rintro ⟨l, v⟩ hx hne
  have hv := mem_levels.mp hx
  have hact := (foldKeyed_acts ho.keys_pairwise hc').1 _ hx
  have hholds : c' (l.1.code, f v.price) = some v.orders :=
    (hfollows _ _).mpr ⟨l, v.popDeltas, cycle_level.mpr ⟨v, hv, hne, rfl⟩,
      by rwa [popDeltas_orders], by rw [popDeltas_price], popDeltas_orders v |>.symm⟩
  have hlast := hp.replay l (by rw [ordersAt_of_level hv]; exact hne)
  simp only [Function.comp_apply] at hact
  rw [toLevelMsg_act_deltas hv (hp.coded l v hv) hne] at hact
  obtain ⟨s, hreplay, hs⟩ := Option.map_eq_some_iff.mp hact
  change Edit.replay ((c (l.1.code, f v.price)).getD ∅) _ = _ at hreplay
  change some s = c' (l.1.code, f v.price) at hs
  rw [hholds] at hs
  obtain rfl := Option.some.inj hs
  rw [held_getD h ho hheld hv] at hreplay
  rw [startUpdate_ordersAt, ordersAt_of_level hv] at hlast
  exact Edit.replay_injective hlast hreplay

theorem client_follows (f : RsslReal → D) (cycles : List (List BookOp))
    (h : Runs.Guarded (cycle f) (CycleOk f) start cycles) :
    Runs.Always (cycle f) (Follows f) start cycles := by
  have hall : Runs.Always (cycle f) (Following f) start cycles :=
    h.always (fun _ ops hr ho => cycle_following hr.showing ops ho fun _ _ _ => rfl) following_start
  exact hall.mono fun _ hr => hr.follows

def bid (code : Char) (id : String) (price : ℤ) : UPABookEntry :=
  { actionCode := code, sideCode := 'B', orderid := id, price := ⟨price, .exponent0⟩ }

theorem client_follows_moves :
    Runs.Always (cycle fun x : RsslReal => x.toRat.getD 0) (Follows fun x => x.toRat.getD 0) start
      [[.add (bid 'A' "x" 100), .add (bid 'A' "y" 100)],
        [.update (bid 'U' "x" 101), .remove (bid 'D' "y" 0)]] :=
  client_follows _ _ (by decide +kernel)

def addRemove : List (List BookOp) :=
  [[.add (bid 'A' "y" 100)], [.add (bid 'A' "x" 100), .remove (bid 'D' "x" 0)]]

theorem add_remove_not_followed :
    ¬ ∀ cycles, Runs.Guarded (cycle fun x : RsslReal => x.toRat.getD 0) Fed start cycles →
      Runs.Always (cycle fun x => x.toRat.getD 0) (Follows fun x => x.toRat.getD 0) start cycles := by
  intro h
  obtain ⟨c, hc, -⟩ := Runs.always_iff_run.mp (h addRemove (by decide +kernel)) addRemove
    (List.prefix_refl _)
  have hnone : (Runs.run (cycle fun x : RsslReal => x.toRat.getD 0) start addRemove).client.isNone := by
    decide +kernel
  rw [hc] at hnone
  cases hnone

end BookStream

end RmdsBridge
