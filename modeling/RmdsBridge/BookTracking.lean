import RmdsBridge.BookEffects

namespace RmdsBridge.UPABookByOrderMessage

variable {b c : UPABookByOrderMessage} {e : UPABookEntry} {id : String} {l : LevelId}

structure Tracked (b : UPABookByOrderMessage) : Prop where
  wellFormed : b.WellFormed
  mem_iff : ∀ id l, id ∈ b.ordersAt l ↔ b.recorded id = some l

def Trackable (b : UPABookByOrderMessage) : BookOp → Prop
  | .add e => ∀ l, e.level = some l →
    if e.orderid ∈ b.orderMap then
      if b.recorded e.orderid = some l then e.actionCode ≠ 'D' else e.actionCode ≠ 'A'
    else e.actionCode = 'A'
  | .update e => ∀ l, b.recorded e.orderid = some l → e.price.value = l.2 → e.actionCode ≠ 'D'
  | .remove _ => True

theorem tracked_empty : empty.Tracked := ⟨wellFormed_empty, fun id l => by simp⟩

theorem Tracked.home (h : b.Tracked) (hr : b.recorded id = some l) :
    ∃ x v, b.home id = some (x, l, v) := by
  obtain ⟨x, hx, hl⟩ := Option.bind_eq_some_iff.mp hr
  have hm : id ∈ b.ordersAt l := (h.mem_iff id l).mpr hr
  cases hv : b.level l with
  | none => simp [ordersAt, hv] at hm
  | some v => exact ⟨x, v, home_eq_some.mpr ⟨hx, hl, hv⟩⟩

theorem Tracked.not_mem (h : b.Tracked) (hm : id ∉ b.orderMap) : id ∉ b.ordersAt l := by
  rw [h.mem_iff, recorded_eq_none_of_not_mem hm]
  simp

theorem mem_effect_iff_of_ne {e : UPABookEntry} {s : Finset String} (h : id ≠ e.orderid) :
    id ∈ e.edit.effect s ↔ id ∈ s := by
  unfold UPABookEntry.edit
  split_ifs <;> simp [Edit.effect, h]

theorem mem_effect_self (e : UPABookEntry) (s : Finset String) :
    e.orderid ∈ e.edit.effect s ↔
      e.actionCode = 'A' ∨ (e.actionCode ≠ 'D' ∧ e.orderid ∈ s) := by
  unfold UPABookEntry.edit
  split_ifs with hd ha hu
  · simp [Edit.effect, hd]
  · simp [Edit.effect, ha]
  · simp [Edit.effect, hd, ha]
  · simp [Edit.effect, hd, ha]

theorem mem_orderMap_add : id ∈ (b.apply (.add e)).orderMap ↔ id = e.orderid ∨ id ∈ b.orderMap := by
  simp only [UnorderedMap.mem_iff_find, add_orderMap]
  by_cases hid : id = e.orderid ∧ e.orderid ∉ b.orderMap
  · simp [hid]
  · simp only [if_neg hid, ← UnorderedMap.mem_iff_find]
    constructor
    · exact Or.inr
    · rintro (rfl | h)
      · by_contra hn
        exact hid ⟨rfl, hn⟩
      · exact h

theorem mem_orderMap_update (h : b.WellFormed) :
    id ∈ (b.apply (.update e)).orderMap ↔ id ∈ b.orderMap := by
  cases hh : b.home e.orderid with
  | none => rw [update_unknown h hh]; rfl
  | some r =>
    obtain ⟨x, l, v⟩ := r
    by_cases hk : e.price.value = l.2
    · rw [same_eq h hh hk]
      simp [setSideCode]
    · rw [UnorderedMap.mem_iff_find, UnorderedMap.mem_iff_find, move_orderMap h hh hk]
      by_cases hid : id = e.orderid
      · subst hid
        simp [(home_eq_some.mp hh).1]
      · simp [hid]

theorem mem_orderMap_remove (h : b.WellFormed) :
    id ∈ (b.apply (.remove e)).orderMap ↔ id ≠ e.orderid ∧ id ∈ b.orderMap := by
  cases hx : b.orderMap.find e.orderid with
  | none =>
    rw [remove_unknown hx]
    have hn : e.orderid ∉ b.orderMap := UnorderedMap.find_eq_none.mp hx
    constructor
    · exact fun hm => ⟨fun hc => hn (hc ▸ hm), hm⟩
    · exact fun hm => hm.2
  | some x =>
    cases hf : b.findLevel x with
    | none => rw [remove_orphan h hx hf]; exact AList.mem_erase
    | some r =>
      obtain ⟨l, v⟩ := r
      rw [remove_orderMap h (home_eq_some.mpr ⟨hx, findLevel_eq_some.mp hf⟩)]
      exact AList.mem_erase

theorem add_tracked (h : b.Tracked) (ha : b.Trackable (.add e)) : (b.apply (.add e)).Tracked := by
  refine ⟨apply_wellFormed h.wellFormed _, fun id l => ?_⟩
  rw [add_recorded h.wellFormed, add_ordersAt]
  by_cases hid : id = e.orderid
  · subst hid
    by_cases hm : e.orderid ∈ b.orderMap
    · simp only [hm, not_true_eq_false, and_false, if_false]
      split_ifs with hl
      · have hcode := ha l hl
        rw [if_pos hm] at hcode
        rw [mem_effect_self, h.mem_iff]
        split_ifs at hcode with hr
        · simp [hr, hcode]
        · simp [hr, hcode]
      · exact h.mem_iff _ l
    · simp only [hm, not_false_eq_true, and_self, if_true]
      split_ifs with hl
      · have hcode := ha l hl
        rw [if_neg hm] at hcode
        simp [mem_effect_self, hcode, hl]
      · simp [h.not_mem hm, hl]
  · have hn : ¬ (id = e.orderid ∧ e.orderid ∉ b.orderMap) := fun hc => hid hc.1
    rw [if_neg hn, ← h.mem_iff]
    split_ifs
    · exact mem_effect_iff_of_ne hid
    · rfl

theorem update_tracked (h : b.Tracked) (ha : b.Trackable (.update e)) :
    (b.apply (.update e)).Tracked := by
  refine ⟨apply_wellFormed h.wellFormed _, fun id m => ?_⟩
  have hm := h.mem_iff id m
  cases hh : b.home e.orderid with
  | none =>
    rw [update_unknown h.wellFormed hh, newEntry_recorded h.wellFormed, newEntry_ordersAt]
    exact hm
  | some r =>
    obtain ⟨x, l, v⟩ := r
    have hr := (home_recorded hh).1
    by_cases hk : e.price.value = l.2
    · rw [same_recorded h.wellFormed hh hk, same_ordersAt h.wellFormed hh hk, ← hm]
      split_ifs with hml
      · subst hml
        by_cases hid : id = e.orderid
        · subst hid
          simp [mem_effect_self, ha m hr hk, h.mem_iff, hr]
        · exact mem_effect_iff_of_ne hid
      · rfl
    · have hl' : (l.1, e.price.value) ≠ l := fun hc => hk (congrArg Prod.snd hc)
      rw [move_recorded h.wellFormed hh hk, move_ordersAt h.wellFormed hh hk]
      by_cases hid : id = e.orderid
      · subst hid
        by_cases h1 : m = (l.1, e.price.value)
        · simp [h1]
        · by_cases h2 : m = l
          · subst h2; simp [hl', h1]
          · simp [h1, h2, hm, hr, Ne.symm h1, Ne.symm h2]
      · split_ifs <;> simp [hid, hm]

theorem remove_tracked (h : b.Tracked) : (b.apply (.remove e)).Tracked := by
  refine ⟨apply_wellFormed h.wellFormed _, fun id l => ?_⟩
  rw [remove_recorded h.wellFormed, remove_ordersAt h.wellFormed]
  have hm := h.mem_iff id l
  by_cases hid : id = e.orderid
  · subst hid
    by_cases hr : b.recorded e.orderid = some l
    · simp [hr]
    · simp [hr, hm]
  · split_ifs <;> simp [hid, hm]

theorem apply_tracked (h : b.Tracked) (o : BookOp) (ho : b.Trackable o) : (b.apply o).Tracked := by
  cases o with
  | add e => exact add_tracked h ho
  | update e => exact update_tracked h ho
  | remove e => exact remove_tracked h

theorem startUpdate_tracked (h : b.Tracked) : b.startUpdate.Tracked :=
  ⟨step_wellFormed h.wellFormed .startUpdate,
    fun id l => by rw [startUpdate_ordersAt]; exact h.mem_iff id l⟩

theorem afterBuild_tracked (h : b.Tracked) : b.afterBuild.Tracked :=
  ⟨step_wellFormed h.wellFormed .build,
    fun id l => by rw [afterBuild_ordersAt]; exact h.mem_iff id l⟩

theorem endUpdate_tracked (h : b.Tracked) : b.endUpdate.Tracked :=
  ⟨step_wellFormed h.wellFormed .endUpdate,
    fun id l => by rw [endUpdate_ordersAt]; exact h.mem_iff id l⟩

end RmdsBridge.UPABookByOrderMessage
