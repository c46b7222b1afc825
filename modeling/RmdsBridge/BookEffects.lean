import RmdsBridge.BookSteps

namespace RmdsBridge.UPABookByOrderMessage

variable {b c : UPABookByOrderMessage} {e : UPABookEntry} {id : String} {l m : LevelId}
  {x : EntryPtr} {v : UPALevel}

theorem ordersAt_eq_of_level (h : c.level = b.level) : c.ordersAt = b.ordersAt := by
  funext l; simp [ordersAt, h]

theorem recorded_congr (ho : c.orderMap.find id = b.orderMap.find id)
    (he : ∀ p, b.orderMap.find id = some p → (c.entries p).level = (b.entries p).level) :
    c.recorded id = b.recorded id := by
  unfold recorded
  rw [ho]
  cases hp : b.orderMap.find id with
  | none => rfl
  | some p => exact he p hp

theorem WellFormed.grow (h : b.WellFormed) (id : String) (hn : c.nextEntry = b.nextEntry + 1)
    (hold : ∀ p < b.nextEntry, (c.entries p).orderid = (b.entries p).orderid)
    (hnew : (c.entries b.nextEntry).orderid = id)
    (hfind : ∀ id' p, c.orderMap.find id' = some p →
      b.orderMap.find id' = some p ∨ (id' = id ∧ p = b.nextEntry)) : c.WellFormed := by
  constructor
  · intro id' p hp
    rw [hn]
    rcases hfind id' p hp with hb | ⟨_, rfl⟩
    · exact Nat.lt_succ_of_lt (h.allocated hb)
    · exact Nat.lt_succ_self _
  · intro id' p hp
    rcases hfind id' p hp with hb | ⟨rfl, rfl⟩
    · exact (hold p (h.allocated hb)).trans (h.orderid hb)
    · exact hnew

theorem newEntry_wellFormed (h : b.WellFormed) : (b.newEntry e).WellFormed :=
  h.grow e.orderid rfl (fun p hp => by rw [newEntry_entries hp.ne]) (by rw [newEntry_entry])
    (fun _ _ hp => Or.inl hp)

theorem add_wellFormed (h : b.WellFormed) : (b.apply (.add e)).WellFormed := by
  refine h.grow e.orderid add_entries.2 ?_ ?_ ?_
  · intro p hp
    rw [add_entries.1, Function.update_of_ne hp.ne]
  · rw [add_entries.1, Function.update_self]
  · intro id p hp
    rw [add_orderMap] at hp
    split_ifs at hp with hid
    · exact Or.inr ⟨hid.1, (Option.some.inj hp).symm⟩
    · exact Or.inl hp

theorem move_wellFormed (h : b.WellFormed) (hh : b.home e.orderid = some (x, l, v))
    (hk : e.price.value ≠ l.2) : (b.apply (.update e)).WellFormed := by
  have hne := h.ne_next (home_eq_some.mp hh).1
  refine h.grow e.orderid (move_entries h hh hk).2 ?_ ?_ ?_
  · intro p hp
    rw [(move_entries h hh hk).1]
    by_cases hx : p = x
    · subst hx; simp [deleted]
    · simp [hx, hp.ne]
  · rw [(move_entries h hh hk).1, Function.update_of_ne hne.symm, Function.update_self]
    rfl
  · intro id p hp
    rw [move_orderMap h hh hk] at hp
    split_ifs at hp with hid
    · exact Or.inr ⟨hid, (Option.some.inj hp).symm⟩
    · exact Or.inl hp

theorem remove_wellFormed (h : b.WellFormed) (hh : b.home e.orderid = some (x, l, v)) :
    (b.apply (.remove e)).WellFormed := by
  have hne := h.ne_next (home_eq_some.mp hh).1
  refine h.grow e.orderid (remove_entries h hh).2 ?_ ?_ ?_
  · intro p hp
    rw [(remove_entries h hh).1]
    by_cases hx : p = x
    · subst hx; simp [deleted]
    · simp [hx, hp.ne]
  · rw [(remove_entries h hh).1, Function.update_of_ne hne.symm, Function.update_self]
  · intro id p hp
    rw [remove_orderMap h hh, UnorderedMap.find_erase] at hp
    split_ifs at hp
    exact Or.inl hp

theorem apply_wellFormed (h : b.WellFormed) (o : BookOp) : (b.apply o).WellFormed := by
  cases o with
  | add e => exact add_wellFormed h
  | update e =>
    cases hh : b.home e.orderid with
    | none => rw [update_unknown h hh]; exact newEntry_wellFormed h
    | some r =>
      obtain ⟨x, l, v⟩ := r
      by_cases hk : e.price.value = l.2
      · rw [same_eq h hh hk]
        refine h.grow e.orderid (by simp [setSideCode, newEntry]) ?_ ?_ ?_
        · intro p hp
          simp [setSideCode, newEntry, hp.ne]
        · simp [setSideCode, newEntry]
        · intro _ _ hp
          exact Or.inl (by simpa [setSideCode] using hp)
      · exact move_wellFormed h hh hk
  | remove e =>
    cases hx : b.orderMap.find e.orderid with
    | none => rw [remove_unknown hx]; exact newEntry_wellFormed h
    | some x =>
      cases hf : b.findLevel x with
      | none =>
        rw [remove_orphan h hx hf]
        have hn := newEntry_wellFormed (e := e) h
        have hfind {id p} (hp : ((b.newEntry e).eraseOrder e.orderid).orderMap.find id = some p) :
            (b.newEntry e).orderMap.find id = some p := by
          simp only [eraseOrder, UnorderedMap.find_erase] at hp
          split_ifs at hp
          exact hp
        exact ⟨fun hp => hn.allocated (hfind hp), fun hp => hn.orderid (hfind hp)⟩
      | some r =>
        obtain ⟨l, v⟩ := r
        exact remove_wellFormed h (home_eq_some.mpr ⟨hx, findLevel_eq_some.mp hf⟩)

theorem step_wellFormed (h : b.WellFormed) (a : BookAction) : (b.step a).WellFormed := by
  cases a with
  | startUpdate | build | endUpdate => exact ⟨h.allocated, h.orderid⟩
  | op o => exact apply_wellFormed h o

/-! What the steps do to the recorded levels and to the order ids of the levels -/

theorem newEntry_recorded (h : b.WellFormed) : (b.newEntry e).recorded id = b.recorded id :=
  recorded_congr rfl fun p hp => by rw [newEntry_entries (h.ne_next hp)]

theorem add_recorded (h : b.WellFormed) : (b.apply (.add e)).recorded id =
    if id = e.orderid ∧ e.orderid ∉ b.orderMap then e.level else b.recorded id := by
  by_cases hid : id = e.orderid ∧ e.orderid ∉ b.orderMap
  · rw [if_pos hid, recorded_of_find (p := b.nextEntry), add_entries.1, Function.update_self]
    rw [add_orderMap, if_pos hid]
  · rw [if_neg hid]
    refine recorded_congr (by rw [add_orderMap, if_neg hid]) fun p hp => ?_
    rw [add_entries.1, Function.update_of_ne (h.ne_next hp)]

theorem add_ordersAt : (b.apply (.add e)).ordersAt l =
    if e.level = some l then e.edit.effect (b.ordersAt l) else b.ordersAt l := by
  simp only [apply, addEntry_ordersAt, newEntry_entry, newEntry_ordersAt]

theorem home_recorded (hh : b.home id = some (x, l, v)) :
    b.recorded id = some l ∧ b.ordersAt l = v.orders := by
  obtain ⟨hx, hl, hv⟩ := home_eq_some.mp hh
  exact ⟨(recorded_of_find hx).trans hl, ordersAt_of_level hv⟩

theorem same_recorded (h : b.WellFormed) (hh : b.home e.orderid = some (x, l, v))
    (hk : e.price.value = l.2) : (b.apply (.update e)).recorded id = b.recorded id := by
  rw [same_eq h hh hk]
  refine recorded_congr (by simp [setSideCode]) fun p hp => ?_
  simp [setSideCode, newEntry, h.ne_next hp]

theorem same_ordersAt (h : b.WellFormed) (hh : b.home e.orderid = some (x, l, v))
    (hk : e.price.value = l.2) : (b.apply (.update e)).ordersAt m =
      if m = l then e.edit.effect (b.ordersAt l) else b.ordersAt m := by
  rw [(home_recorded hh).2]
  unfold ordersAt
  rw [same_level h hh hk]
  split_ifs with hm
  · rw [Option.map_some, Option.getD_some, UPALevel.addEntry_orders]
    rfl
  · rfl

theorem move_recorded (h : b.WellFormed) (hh : b.home e.orderid = some (x, l, v))
    (hk : e.price.value ≠ l.2) : (b.apply (.update e)).recorded id =
      if id = e.orderid then some (l.1, e.price.value) else b.recorded id := by
  have hx := (home_eq_some.mp hh).1
  split_ifs with hid
  · rw [recorded_of_find (p := b.nextEntry) (by rw [move_orderMap h hh hk, if_pos hid]),
      (move_entries h hh hk).1, Function.update_of_ne (h.ne_next hx).symm, Function.update_self]
    simp [UPABookEntry.level, moved]
  · refine recorded_congr (by rw [move_orderMap h hh hk, if_neg hid]) fun p hp => ?_
    rw [(move_entries h hh hk).1]
    by_cases hpx : p = x
    · subst hpx; rw [Function.update_self]; rfl
    · rw [Function.update_of_ne hpx, Function.update_of_ne (h.ne_next hp)]

theorem move_ordersAt (h : b.WellFormed) (hh : b.home e.orderid = some (x, l, v))
    (hk : e.price.value ≠ l.2) : (b.apply (.update e)).ordersAt m =
      if m = (l.1, e.price.value) then insert e.orderid (b.ordersAt m)
      else if m = l then (b.ordersAt m).erase e.orderid else b.ordersAt m := by
  have hx := h.orderid (home_eq_some.mp hh).1
  unfold ordersAt
  rw [move_level h hh hk]
  split_ifs with h1 h2
  · rw [Option.map_some, Option.getD_some, UPALevel.addEntry_orders]
    cases b.level m <;> rfl
  · subst h2
    rw [Option.map_some, Option.getD_some, UPALevel.addEntry_orders, (home_eq_some.mp hh).2.2]
    simp [deleted, UPABookEntry.edit, Edit.effect, hx]
  · rfl

theorem remove_recorded (h : b.WellFormed) : (b.apply (.remove e)).recorded id =
    if id = e.orderid then none else b.recorded id := by
  cases hx : b.orderMap.find e.orderid with
  | none =>
    rw [remove_unknown hx, newEntry_recorded h]
    split_ifs with hid
    · simp [recorded, hid, hx]
    · rfl
  | some x =>
    have hor (c : UPABookByOrderMessage) (hc : c.orderMap = b.orderMap.erase e.orderid)
        (he : ∀ p, p ≠ b.nextEntry → (c.entries p).level = (b.entries p).level) :
        c.recorded id = if id = e.orderid then none else b.recorded id := by
      split_ifs with hid
      · simp [recorded, hc, UnorderedMap.find_erase, hid]
      · refine recorded_congr (by simp [hc, UnorderedMap.find_erase, hid]) fun p hp => ?_
        exact he p (h.ne_next hp)
    cases hf : b.findLevel x with
    | none =>
      rw [remove_orphan h hx hf]
      exact hor _ rfl fun p hp => by simp [eraseOrder, newEntry_entries hp]
    | some r =>
      obtain ⟨l, v⟩ := r
      have hh : b.home e.orderid = some (x, l, v) :=
        home_eq_some.mpr ⟨hx, findLevel_eq_some.mp hf⟩
      refine hor _ (remove_orderMap h hh) fun p hp => ?_
      rw [(remove_entries h hh).1]
      by_cases hpx : p = x
      · subst hpx; rw [Function.update_self]; rfl
      · rw [Function.update_of_ne hpx, Function.update_of_ne hp]

theorem remove_ordersAt (h : b.WellFormed) : (b.apply (.remove e)).ordersAt l =
    if b.recorded e.orderid = some l then (b.ordersAt l).erase e.orderid else b.ordersAt l := by
  cases hx : b.orderMap.find e.orderid with
  | none =>
    rw [remove_unknown hx, newEntry_ordersAt]
    simp [recorded, hx]
  | some x =>
    cases hf : b.findLevel x with
    | none =>
      have hc : ((b.newEntry e).eraseOrder e.orderid).level = b.level := level_eq_of_maps rfl rfl
      rw [remove_orphan h hx hf, ordersAt_eq_of_level hc]
      split_ifs with hr
      · rw [recorded_of_find hx] at hr
        have hn : b.level l = none := by simpa [findLevel, hr] using hf
        simp [ordersAt, hn]
      · rfl
    | some r =>
      obtain ⟨m, v⟩ := r
      have hh : b.home e.orderid = some (x, m, v) :=
        home_eq_some.mpr ⟨hx, findLevel_eq_some.mp hf⟩
      rw [(home_recorded hh).1]
      unfold ordersAt
      rw [remove_level h hh]
      by_cases hl : l = m
      · subst hl
        rw [if_pos rfl, if_pos rfl, Option.map_some, Option.getD_some, UPALevel.addEntry_orders,
          (home_eq_some.mp hh).2.2]
        simp [deleted, UPABookEntry.edit, Edit.effect, h.orderid hx]
      · rw [if_neg hl, if_neg (by simpa using Ne.symm hl)]

/-! The steps around the operations -/

theorem startUpdate_level : b.startUpdate.level l = (b.level l).map UPALevel.clearDeltas := by
  obtain ⟨_ | _, k⟩ := l <;> exact UnorderedMap.find_mapVal ..

theorem afterBuild_level : b.afterBuild.level l = (b.level l).map UPALevel.popDeltas := by
  obtain ⟨_ | _, k⟩ := l <;> exact UnorderedMap.find_mapVal ..

theorem endUpdate_level :
    b.endUpdate.level l = (b.level l).filter fun v => decide (v.numOrders ≠ 0) := by
  obtain ⟨_ | _, k⟩ := l <;>
    exact UnorderedMap.find_eraseUnless (fun v : UPALevel => decide (v.numOrders ≠ 0)) _ k

theorem popDeltas_orders (v : UPALevel) : v.popDeltas.orders = v.orders := by
  unfold UPALevel.popDeltas UPALevel.clearDeltas
  split_ifs <;> rfl

theorem popDeltas_price (v : UPALevel) : v.popDeltas.price = v.price := by
  unfold UPALevel.popDeltas UPALevel.clearDeltas
  split_ifs <;> rfl

theorem popDeltas_actionCode (v : UPALevel) : v.popDeltas.actionCode = v.actionCode := by
  unfold UPALevel.popDeltas UPALevel.clearDeltas
  split_ifs <;> rfl

theorem startUpdate_ordersAt : b.startUpdate.ordersAt = b.ordersAt := by
  funext l
  unfold ordersAt
  rw [startUpdate_level]
  cases b.level l <;> rfl

theorem afterBuild_ordersAt : b.afterBuild.ordersAt = b.ordersAt := by
  funext l
  unfold ordersAt
  rw [afterBuild_level]
  cases hv : b.level l <;> simp [popDeltas_orders]

theorem endUpdate_ordersAt : b.endUpdate.ordersAt = b.ordersAt := by
  funext l
  unfold ordersAt
  rw [endUpdate_level]
  cases hv : b.level l with
  | none => rfl
  | some v =>
    by_cases he : v.numOrders = 0
    · have ho : v.orders = ∅ := Finset.card_eq_zero.mp he
      simp [Option.filter_some, he, ho]
    · simp [Option.filter_some, he]

end RmdsBridge.UPABookByOrderMessage
