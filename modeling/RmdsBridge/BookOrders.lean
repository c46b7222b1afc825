import RmdsBridge.BookEffects

namespace RmdsBridge.UPABookByOrderMessage

variable {b c : UPABookByOrderMessage} {e y : UPABookEntry} {id : String} {l : LevelId} {x : EntryPtr}
  {v : UPALevel}

def order (b : UPABookByOrderMessage) (id : String) : Option UPABookEntry :=
  (b.orderMap.find id).map b.entries

theorem order_of_find (h : b.orderMap.find id = some x) : b.order id = some (b.entries x) := by
  simp [order, h]

theorem recorded_eq_order : b.recorded id = (b.order id).bind UPABookEntry.level := by
  unfold recorded order
  cases b.orderMap.find id <;> rfl

theorem order_isSome : (∃ y, b.order id = some y) ↔ id ∈ b.orderMap := by
  rw [UnorderedMap.mem_iff_find]
  unfold order
  cases b.orderMap.find id <;> simp

theorem order_congr (ho : c.orderMap.find id = b.orderMap.find id)
    (he : ∀ p, b.orderMap.find id = some p → c.entries p = b.entries p) : c.order id = b.order id := by
  unfold order
  rw [ho]
  cases hp : b.orderMap.find id with
  | none => rfl
  | some p => exact congrArg some (he p hp)

theorem WellFormed.find_ne (h : b.WellFormed) {id' : String} {p : EntryPtr} (hid : id ≠ id')
    (hx : b.orderMap.find id' = some x) (hp : b.orderMap.find id = some p) : p ≠ x := by
  intro heq
  rw [heq] at hp
  exact hid ((h.orderid hp).symm.trans (h.orderid hx))

theorem newEntry_order (h : b.WellFormed) : (b.newEntry e).order id = b.order id :=
  order_congr rfl fun _ hp => newEntry_entries (h.ne_next hp)

theorem add_order (h : b.WellFormed) : (b.apply (.add e)).order id =
    if id = e.orderid ∧ e.orderid ∉ b.orderMap then some e else b.order id := by
  by_cases hid : id = e.orderid ∧ e.orderid ∉ b.orderMap
  · rw [if_pos hid, order_of_find (x := b.nextEntry), add_entries.1, Function.update_self]
    rw [add_orderMap, if_pos hid]
  · rw [if_neg hid]
    refine order_congr (by rw [add_orderMap, if_neg hid]) fun p hp => ?_
    rw [add_entries.1, Function.update_of_ne (h.ne_next hp)]

theorem same_order (h : b.WellFormed) (hh : b.home e.orderid = some (x, l, v))
    (hk : e.price.value = l.2) : (b.apply (.update e)).order id = b.order id := by
  rw [same_eq h hh hk]
  refine order_congr (by simp [setSideCode]) fun p hp => ?_
  simp [setSideCode, newEntry, h.ne_next hp]

theorem move_order (h : b.WellFormed) (hh : b.home e.orderid = some (x, l, v))
    (hk : e.price.value ≠ l.2) : (b.apply (.update e)).order id =
      if id = e.orderid then some (moved e l.1) else b.order id := by
  have hx := (home_eq_some.mp hh).1
  split_ifs with hid
  · rw [order_of_find (x := b.nextEntry) (by rw [move_orderMap h hh hk, if_pos hid]),
      (move_entries h hh hk).1, Function.update_of_ne (h.ne_next hx).symm, Function.update_self]
  · refine order_congr (by rw [move_orderMap h hh hk, if_neg hid]) fun p hp => ?_
    rw [(move_entries h hh hk).1, Function.update_of_ne (h.find_ne hid hx hp),
      Function.update_of_ne (h.ne_next hp)]

theorem remove_order (h : b.WellFormed) : (b.apply (.remove e)).order id =
    if id = e.orderid then none else b.order id := by
  cases hx : b.orderMap.find e.orderid with
  | none =>
    rw [remove_unknown hx, newEntry_order h]
    split_ifs with hid
    · simp [order, hid, hx]
    · rfl
  | some x =>
    have hor (c : UPABookByOrderMessage) (hc : c.orderMap = b.orderMap.erase e.orderid)
        (he : ∀ p, p ≠ b.nextEntry → p ≠ x → c.entries p = b.entries p) :
        c.order id = if id = e.orderid then none else b.order id := by
      split_ifs with hid
      · simp [order, hc, UnorderedMap.find_erase, hid]
      · refine order_congr (by simp [hc, UnorderedMap.find_erase, hid]) fun p hp => ?_
        exact he p (h.ne_next hp) (h.find_ne hid hx hp)
    cases hf : b.findLevel x with
    | none =>
      rw [remove_orphan h hx hf]
      exact hor _ rfl fun p hp _ => by simp [eraseOrder, newEntry_entries hp]
    | some r =>
      obtain ⟨l, v⟩ := r
      have hh : b.home e.orderid = some (x, l, v) :=
        home_eq_some.mpr ⟨hx, findLevel_eq_some.mp hf⟩
      refine hor _ (remove_orderMap h hh) fun p hp hpx => ?_
      rw [(remove_entries h hh).1, Function.update_of_ne hpx, Function.update_of_ne hp]

theorem home_order (hh : b.home id = some (x, l, v)) :
    b.order id = some (b.entries x) ∧ (b.entries x).level = some l := by
  obtain ⟨hx, hl, -⟩ := home_eq_some.mp hh
  exact ⟨order_of_find hx, hl⟩

end RmdsBridge.UPABookByOrderMessage
