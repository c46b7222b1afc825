import RmdsBridge.BookTracking

namespace RmdsBridge.UPABookByOrderMessage

variable {b c : UPABookByOrderMessage} {e : UPABookEntry} {l m : LevelId} {p x : EntryPtr}
  {v : UPALevel}

def queue (b : UPABookByOrderMessage) (l : LevelId) : List EntryPtr :=
  ((b.level l).map UPALevel.entryListDelta).getD []

/-- What the queued deltas of a level say now: they are shared with the order map. -/
def deltas (b : UPABookByOrderMessage) (l : LevelId) : List (Edit String) :=
  (b.queue l).map fun p => (b.entries p).edit

structure Queued (b : UPABookByOrderMessage) : Prop where
  allocated : ∀ {l p}, p ∈ b.queue l → p < b.nextEntry
  atLevel : ∀ {l p}, p ∈ b.queue l → (b.entries p).level = some l

def rewrites (b : UPABookByOrderMessage) : BookOp → Option LevelId
  | .add _ => none
  | .update e =>
    (b.home e.orderid).bind fun (x, l, v) =>
      if e.price.value ≠ l.2 ∧ x ∈ v.entryListDelta then some l else none
  | .remove e =>
    (b.home e.orderid).bind fun (x, l, v) => if x ∈ v.entryListDelta then some l else none

def LiveFeed (b : UPABookByOrderMessage) : BookOp → Prop
  | .add e => e.actionCode = 'A' ∧ e.orderid ∉ b.orderMap
  | .update e => e.actionCode = 'U'
  | .remove _ => True

instance (b : UPABookByOrderMessage) : ∀ o : BookOp, Decidable (b.LiveFeed o)
  | .add e => inferInstanceAs (Decidable (e.actionCode = 'A' ∧ e.orderid ∉ b.orderMap))
  | .update e => inferInstanceAs (Decidable (e.actionCode = 'U'))
  | .remove _ => inferInstanceAs (Decidable True)

theorem LiveFeed.trackable {o : BookOp} (h : b.LiveFeed o) : b.Trackable o := by
  cases o with
  | add e =>
    intro l _
    rw [if_neg h.2]
    exact h.1
  | update e =>
    intro l _ _
    have hc : e.actionCode = 'U' := h
    rw [hc]
    decide
  | remove e => trivial

theorem queue_of_level (h : b.level l = some v) : b.queue l = v.entryListDelta := by
  simp [queue, h]

theorem queue_eq_of_level (h : c.level l = b.level l) : c.queue l = b.queue l := by
  simp [queue, h]

theorem queue_getD {f : UPABookEntry} {s : Side}
    (hc : c.level l = some (((b.level l).getD (.new f s)).addEntry p e)) :
    c.queue l = b.queue l ++ [p] := by
  rw [queue_of_level hc]
  cases hb : b.level l with
  | none => simp [queue, hb, UPALevel.addEntry, UPALevel.new]
  | some v => rw [queue_of_level hb]; rfl

theorem queue_addEntry (hb : b.level l = some v) (hc : c.level l = some (v.addEntry p e)) :
    c.queue l = b.queue l ++ [p] :=
  queue_getD (f := {}) (s := .bid) (hc.trans (by rw [hb]; rfl))

structure Places (b c : UPABookByOrderMessage) (r : Option LevelId)
    (ps : List (LevelId × EntryPtr)) : Prop where
  next : c.nextEntry = b.nextEntry + 1
  level : ∀ p < b.nextEntry, (c.entries p).level = (b.entries p).level
  edit : ∀ m, r ≠ some m → ∀ p ∈ b.queue m, (c.entries p).edit = (b.entries p).edit
  queue : ∀ m, c.queue m = b.queue m ++ (ps.filter fun q => q.1 = m).map Prod.snd
  placed : ∀ q ∈ ps, q.2 < c.nextEntry ∧ (c.entries q.2).level = some q.1

variable {r : Option LevelId} {ps : List (LevelId × EntryPtr)}

theorem Places.queued (h : Places b c r ps) (hq : b.Queued) : c.Queued := by
  have hsplit {m p} (hp : p ∈ c.queue m) : p ∈ b.queue m ∨ (m, p) ∈ ps := by
    rw [h.queue, List.mem_append, List.mem_map] at hp
    rcases hp with hp | ⟨⟨m', p'⟩, hf, rfl⟩
    · exact Or.inl hp
    · obtain ⟨hps, hm⟩ := List.mem_filter.mp hf
      exact Or.inr (of_decide_eq_true hm ▸ hps)
  constructor
  · intro m p hp
    rcases hsplit hp with hb | hb
    · rw [h.next]; exact Nat.lt_succ_of_lt (hq.allocated hb)
    · exact (h.placed _ hb).1
  · intro m p hp
    rcases hsplit hp with hb | hb
    · exact (h.level p (hq.allocated hb)).trans (hq.atLevel hb)
    · exact (h.placed _ hb).2

theorem Places.deltas (h : Places b c r ps) (hm : r ≠ some m) : c.deltas m =
    b.deltas m ++ (ps.filter fun q => q.1 = m).map fun q => (c.entries q.2).edit := by
  unfold UPABookByOrderMessage.deltas
  rw [h.queue, List.map_append, List.map_map, List.map_congr_left (h.edit m hm)]
  rfl

theorem newEntry_places (hq : b.Queued) : Places b (b.newEntry e) r [] where
  next := rfl
  level p hp := by rw [newEntry_entries hp.ne]
  edit m _ p hp := by rw [newEntry_entries (hq.allocated hp).ne]
  queue m := by simp [UPABookByOrderMessage.queue]
  placed q hq := by simp at hq

theorem add_places (hq : b.Queued) : Places b (b.apply (.add e)) none
    (e.level.toList.map fun l => (l, b.nextEntry)) where
  next := add_entries.2
  level p hp := by rw [add_entries.1, Function.update_of_ne hp.ne]
  edit m _ p hp := by rw [add_entries.1, Function.update_of_ne (hq.allocated hp).ne]
  queue m := by
    by_cases hl : e.level = some m
    · rw [queue_getD (add_level.trans (if_pos hl)), hl]
      simp
    · rw [queue_eq_of_level (add_level.trans (if_neg hl))]
      cases he : e.level with
      | none => simp
      | some l =>
        have hne : l ≠ m := fun hc => hl (hc ▸ he)
        simp [hne]
  placed q hq := by
    obtain ⟨l, hl, rfl⟩ := List.mem_map.mp hq
    rw [add_entries.1, add_entries.2, Function.update_self]
    exact ⟨Nat.lt_succ_self _, Option.mem_toList.mp hl⟩

theorem home_not_queued (hq : b.Queued) (hh : b.home e.orderid = some (x, l, v))
    (hr : x ∈ v.entryListDelta → r = some l) (hm : r ≠ some m) :
    x ∉ b.queue m := by
  obtain ⟨-, hl, hv⟩ := home_eq_some.mp hh
  intro hx
  have hlm : l = m := Option.some.inj (hl.symm.trans (hq.atLevel hx))
  subst hlm
  rw [queue_of_level hv] at hx
  exact hm (hr hx)

section Recorded

variable (h : b.WellFormed) (hq : b.Queued) (hh : b.home e.orderid = some (x, l, v))
include h hq hh

theorem same_places (hk : e.price.value = l.2) :
    Places b (b.apply (.update e)) none [(l, b.nextEntry)] where
  next := (same_entries h hh hk).2
  level p hp := by rw [(same_entries h hh hk).1, Function.update_of_ne hp.ne]
  edit m _ p hp := by rw [(same_entries h hh hk).1, Function.update_of_ne (hq.allocated hp).ne]
  queue m := by
    have hv := (home_eq_some.mp hh).2.2
    by_cases hm : m = l
    · subst hm
      rw [queue_addEntry hv ((same_level h hh hk m).trans (if_pos rfl))]
      simp
    · rw [queue_eq_of_level ((same_level h hh hk m).trans (if_neg hm))]
      simp [Ne.symm hm]
  placed q hq := by
    rw [List.mem_singleton.mp hq, (same_entries h hh hk).1, (same_entries h hh hk).2,
      Function.update_self]
    exact ⟨Nat.lt_succ_self _, by simp [UPABookEntry.level, hk]⟩

theorem move_places (hk : e.price.value ≠ l.2) :
    Places b (b.apply (.update e)) (b.rewrites (.update e))
      [(l, x), ((l.1, e.price.value), b.nextEntry)] where
  next := (move_entries h hh hk).2
  level p hp := by
    rw [(move_entries h hh hk).1]
    by_cases hx : p = x
    · subst hx; rw [Function.update_self]; rfl
    · rw [Function.update_of_ne hx, Function.update_of_ne hp.ne]
  edit m hm p hp := by
    have hr : x ∈ v.entryListDelta → b.rewrites (.update e) = some l := fun hx => by
      simp [rewrites, hh, hk, hx]
    have hx : p ≠ x := fun hc => home_not_queued hq hh hr hm (hc ▸ hp)
    rw [(move_entries h hh hk).1, Function.update_of_ne hx,
      Function.update_of_ne (hq.allocated hp).ne]
  queue m := by
    have hv := (home_eq_some.mp hh).2.2
    have hl' : (l.1, e.price.value) ≠ l := fun hc => hk (congrArg Prod.snd hc)
    by_cases h1 : m = (l.1, e.price.value)
    · rw [queue_getD ((move_level h hh hk m).trans (if_pos h1)), h1]
      simp [hl'.symm]
    · by_cases h2 : m = l
      · subst h2
        have hc := (move_level h hh hk m).trans ((if_neg h1).trans (if_pos rfl))
        rw [queue_addEntry hv hc]
        simp [Ne.symm h1]
      · have hc := (move_level h hh hk m).trans ((if_neg h1).trans (if_neg h2))
        rw [queue_eq_of_level hc]
        simp [Ne.symm h1, Ne.symm h2]
  placed q hq := by
    obtain ⟨hx, hl, -⟩ := home_eq_some.mp hh
    have hne := h.ne_next hx
    rw [(move_entries h hh hk).1, (move_entries h hh hk).2]
    rcases List.mem_cons.mp hq with rfl | hq
    · rw [Function.update_self]
      exact ⟨Nat.lt_succ_of_lt (h.allocated hx), hl⟩
    · rw [List.mem_singleton.mp hq, Function.update_of_ne hne.symm, Function.update_self]
      exact ⟨Nat.lt_succ_self _, by simp [UPABookEntry.level, moved]⟩

theorem remove_places :
    Places b (b.apply (.remove e)) (b.rewrites (.remove e)) [(l, x)] where
  next := (remove_entries h hh).2
  level p hp := by
    rw [(remove_entries h hh).1]
    by_cases hx : p = x
    · subst hx; rw [Function.update_self]; rfl
    · rw [Function.update_of_ne hx, Function.update_of_ne hp.ne]
  edit m hm p hp := by
    have hr : x ∈ v.entryListDelta → b.rewrites (.remove e) = some l := fun hx => by
      simp [rewrites, hh, hx]
    have hx : p ≠ x := fun hc => home_not_queued hq hh hr hm (hc ▸ hp)
    rw [(remove_entries h hh).1, Function.update_of_ne hx,
      Function.update_of_ne (hq.allocated hp).ne]
  queue m := by
    have hv := (home_eq_some.mp hh).2.2
    by_cases hm : m = l
    · subst hm
      rw [queue_addEntry hv ((remove_level h hh m).trans (if_pos rfl))]
      simp
    · rw [queue_eq_of_level ((remove_level h hh m).trans (if_neg hm))]
      simp [Ne.symm hm]
  placed q hq := by
    obtain ⟨hx, hl, -⟩ := home_eq_some.mp hh
    rw [List.mem_singleton.mp hq, (remove_entries h hh).1, (remove_entries h hh).2,
      Function.update_self]
    exact ⟨Nat.lt_succ_of_lt (h.allocated hx), hl⟩

end Recorded

def Replays (b : UPABookByOrderMessage) (o : BookOp) (ps : List (LevelId × EntryPtr)) : Prop :=
  Places b (b.apply o) (b.rewrites o) ps ∧ ∀ m,
    Edit.replay (b.ordersAt m) ((ps.filter fun q => q.1 = m).map fun q =>
      ((b.apply o).entries q.2).edit) = some ((b.apply o).ordersAt m)

theorem add_replays (ht : b.Tracked) (hq : b.Queued) (ho : b.LiveFeed (.add e)) :
    ∃ ps, b.Replays (.add e) ps := by
  refine ⟨_, add_places hq, fun m => ?_⟩
  rw [add_entries.1, add_ordersAt]
  have hn : e.orderid ∉ b.ordersAt m := ht.not_mem ho.2
  have hedit : e.edit = .insert e.orderid := by simp [UPABookEntry.edit, ho.1]
  cases hl : e.level with
  | none => simp
  | some l =>
    by_cases hm : l = m
    · subst hm
      simp [hedit, Edit.replay, Edit.Fits, hn]
    · simp [hm]

theorem deleted_edit (hw : b.WellFormed) {x : EntryPtr}
    (hx : b.orderMap.find e.orderid = some x) :
    (deleted (b.entries x)).edit = .erase e.orderid := by
  simp [deleted, UPABookEntry.edit, hw.orderid hx]

section Homed

variable {l : LevelId} {v : UPALevel} {x : EntryPtr}
variable (ht : b.Tracked) (hq : b.Queued) (hh : b.home e.orderid = some (x, l, v))
include ht hq hh

theorem same_replays (hk : e.price.value = l.2) (ho : b.LiveFeed (.update e)) :
    ∃ ps, b.Replays (.update e) ps := by
  have hw := ht.wellFormed
  have hc : e.actionCode = 'U' := ho
  have hin : e.orderid ∈ b.ordersAt l := (ht.mem_iff _ _).mpr (home_recorded hh).1
  have hr : b.rewrites (.update e) = none := by simp [rewrites, hh, hk]
  refine ⟨_, hr ▸ same_places hw hq hh hk, fun m => ?_⟩
  rw [(same_entries hw hh hk).1, same_ordersAt hw hh hk]
  by_cases hm : l = m
  · subst hm
    simp [UPABookEntry.edit, hc, Edit.replay, Edit.Fits, Edit.effect, hin]
  · simp [hm, Ne.symm hm]

theorem move_replays (hk : e.price.value ≠ l.2) : ∃ ps, b.Replays (.update e) ps := by
  have hw := ht.wellFormed
  refine ⟨_, move_places hw hq hh hk, fun m => ?_⟩
  obtain ⟨hx, -, -⟩ := home_eq_some.mp hh
  have hne := hw.ne_next hx
  have hl' : (l.1, e.price.value) ≠ l := fun hc => hk (congrArg Prod.snd hc)
  have hd := deleted_edit hw hx
  have hi : (moved e l.1).edit = .insert e.orderid := by simp [moved, UPABookEntry.edit]
  have hin : e.orderid ∈ b.ordersAt l := (ht.mem_iff _ _).mpr (home_recorded hh).1
  have hnot : e.orderid ∉ b.ordersAt (l.1, e.price.value) := by
    rw [ht.mem_iff, (home_recorded hh).1]
    exact fun hc => hl' (Option.some.inj hc).symm
  rw [(move_entries hw hh hk).1, move_ordersAt hw hh hk]
  by_cases h1 : (l.1, e.price.value) = m
  · subst h1
    simp [hl'.symm, hne.symm, hi, Edit.replay, Edit.Fits, Edit.effect, hnot]
  · by_cases h2 : l = m
    · subst h2
      simp [h1, Ne.symm h1, hd, Edit.replay, Edit.Fits, Edit.effect, hin]
    · simp [h1, h2, Ne.symm h1, Ne.symm h2]

theorem remove_replays : ∃ ps, b.Replays (.remove e) ps := by
  have hw := ht.wellFormed
  obtain ⟨hx, -, -⟩ := home_eq_some.mp hh
  refine ⟨_, remove_places hw hq hh, fun m => ?_⟩
  have hr := (home_recorded hh).1
  have hin : e.orderid ∈ b.ordersAt l := (ht.mem_iff _ _).mpr hr
  have hd := deleted_edit hw hx
  rw [(remove_entries hw hh).1, remove_ordersAt hw, hr]
  by_cases hm : l = m
  · subst hm
    simp [hd, Edit.replay, Edit.Fits, Edit.effect, hin]
  · simp [hm]

end Homed

theorem remove_unknown_replays (ht : b.Tracked) (hq : b.Queued)
    (hh : b.home e.orderid = none) : b.Replays (.remove e) [] := by
  have hw := ht.wellFormed
  have hr : b.recorded e.orderid = none := by
    by_contra hc
    obtain ⟨l, hl⟩ := Option.ne_none_iff_exists'.mp hc
    obtain ⟨x, v, hx⟩ := ht.home hl
    rw [hh] at hx
    cases hx
  have hp : Places b (b.apply (.remove e)) (b.rewrites (.remove e)) [] := by
    cases hx : b.orderMap.find e.orderid with
    | none =>
      rw [remove_unknown hx]
      exact newEntry_places hq
    | some x =>
      have hf : b.findLevel x = none := by simpa [home, hx] using hh
      rw [remove_orphan hw hx hf]
      have hn := newEntry_places (r := b.rewrites (.remove e)) (e := e) hq
      have hc : ((b.newEntry e).eraseOrder e.orderid).level = (b.newEntry e).level :=
        level_eq_of_maps rfl rfl
      refine ⟨hn.next, hn.level, hn.edit, fun m => ?_, hn.placed⟩
      rw [queue_eq_of_level (congrFun hc m)]
      exact hn.queue m
  refine ⟨hp, fun m => ?_⟩
  rw [remove_ordersAt hw, hr]
  simp

theorem apply_replays (ht : b.Tracked) (hq : b.Queued) (o : BookOp) (ho : b.LiveFeed o) :
    ∃ ps, b.Replays o ps := by
  cases o with
  | add e => exact add_replays ht hq ho
  | update e =>
    cases hh : b.home e.orderid with
    | none =>
      refine ⟨[], ?_, fun m => ?_⟩
      · rw [update_unknown ht.wellFormed hh]
        exact newEntry_places hq
      · rw [update_unknown ht.wellFormed hh]
        simp
    | some r =>
      obtain ⟨x, l, v⟩ := r
      by_cases hk : e.price.value = l.2
      · exact same_replays ht hq hh hk ho
      · exact move_replays ht hq hh hk
  | remove e =>
    cases hh : b.home e.orderid with
    | none => exact ⟨[], remove_unknown_replays ht hq hh⟩
    | some r =>
      obtain ⟨x, l, v⟩ := r
      exact remove_replays ht hq hh

theorem apply_level (h : b.WellFormed) (o : BookOp) (m : LevelId) :
    (b.apply o).level m = b.level m ∨ ∃ v p f,
      (b.level m = some v ∨ (b.level m = none ∧ ∃ f' s, v = .new f' s)) ∧
        (b.apply o).level m = some (v.addEntry p f) := by
  have hget {c : UPABookByOrderMessage} {p : EntryPtr} {f f' : UPABookEntry} {s : Side}
      (hc : c.level m = some (((b.level m).getD (.new f' s)).addEntry p f)) :
      ∃ v p f, (b.level m = some v ∨ (b.level m = none ∧ ∃ f' s, v = .new f' s)) ∧
        c.level m = some (v.addEntry p f) := by
    refine ⟨_, p, f, ?_, hc⟩
    cases b.level m with
    | none => exact Or.inr ⟨rfl, f', s, rfl⟩
    | some v => exact Or.inl rfl
  cases o with
  | add e =>
    by_cases hl : e.level = some m
    · exact Or.inr (hget (add_level.trans (if_pos hl)))
    · exact Or.inl (add_level.trans (if_neg hl))
  | update e =>
    cases hh : b.home e.orderid with
    | none => rw [update_unknown h hh, newEntry_level]; exact Or.inl rfl
    | some r =>
      obtain ⟨x, l, v⟩ := r
      have hv := (home_eq_some.mp hh).2.2
      by_cases hk : e.price.value = l.2
      · by_cases hm : m = l
        · subst hm
          exact Or.inr ⟨v, _, _, Or.inl hv, (same_level h hh hk m).trans (if_pos rfl)⟩
        · exact Or.inl ((same_level h hh hk m).trans (if_neg hm))
      · by_cases h1 : m = (l.1, e.price.value)
        · exact Or.inr (hget ((move_level h hh hk m).trans (if_pos h1)))
        · by_cases h2 : m = l
          · subst h2
            exact Or.inr ⟨v, _, _, Or.inl hv,
              (move_level h hh hk m).trans ((if_neg h1).trans (if_pos rfl))⟩
          · exact Or.inl ((move_level h hh hk m).trans ((if_neg h1).trans (if_neg h2)))
  | remove e =>
    cases hx : b.orderMap.find e.orderid with
    | none => rw [remove_unknown hx, newEntry_level]; exact Or.inl rfl
    | some x =>
      cases hf : b.findLevel x with
      | none =>
        rw [remove_orphan h hx hf, ← newEntry_level (b := b) (e := e)]
        exact Or.inl (congrFun (level_eq_of_maps rfl rfl) m)
      | some r =>
        obtain ⟨l, v⟩ := r
        have hh : b.home e.orderid = some (x, l, v) :=
          home_eq_some.mpr ⟨hx, findLevel_eq_some.mp hf⟩
        by_cases hm : m = l
        · subst hm
          exact Or.inr ⟨v, _, _, Or.inl (home_eq_some.mp hh).2.2,
            (remove_level h hh m).trans (if_pos rfl)⟩
        · exact Or.inl ((remove_level h hh m).trans (if_neg hm))

end RmdsBridge.UPABookByOrderMessage
