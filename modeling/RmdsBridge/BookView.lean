import RmdsBridge.BookByOrder
import RmdsBridge.Edits

namespace RmdsBridge

def UPABookEntry.edit (e : UPABookEntry) : Edit String :=
  if e.actionCode = 'D' then .erase e.orderid
  else if e.actionCode = 'A' then .insert e.orderid
  else if e.actionCode = 'U' then .touch e.orderid
  else .skip

theorem UPALevel.addEntry_orders (p : EntryPtr) (e : UPABookEntry) (v : UPALevel) :
    (v.addEntry p e).orders = e.edit.effect v.orders := by
  unfold UPALevel.addEntry UPABookEntry.edit
  dsimp only
  split_ifs <;> rfl

namespace UPABookByOrderMessage

variable (b : UPABookByOrderMessage) (l l' : LevelId) (v : UPALevel) (p q : EntryPtr)

theorem level_eq_of_maps {b c : UPABookByOrderMessage} (hb : c.levelMapBid = b.levelMapBid)
    (ha : c.levelMapAsk = b.levelMapAsk) : c.level = b.level := by
  funext ⟨s, k⟩
  cases s <;> simp [level, levelMap, hb, ha]

theorem level_setLevel : (b.setLevel l v).level l' = if l' = l then some v else b.level l' := by
  obtain ⟨s, k⟩ := l
  obtain ⟨s', k'⟩ := l'
  cases s <;> cases s' <;>
    simp [level, setLevel, setLevelMap, levelMap, UnorderedMap.find_insert]

@[simp] theorem setLevel_orderMap : (b.setLevel l v).orderMap = b.orderMap := by
  obtain ⟨_ | _, k⟩ := l <;> rfl

@[simp] theorem setLevel_entries : (b.setLevel l v).entries = b.entries := by
  obtain ⟨_ | _, k⟩ := l <;> rfl

@[simp] theorem setLevel_nextEntry : (b.setLevel l v).nextEntry = b.nextEntry := by
  obtain ⟨_ | _, k⟩ := l <;> rfl

@[simp] theorem addToLevel_orderMap : (b.addToLevel l v p).orderMap = b.orderMap :=
  setLevel_orderMap ..

@[simp] theorem addToLevel_entries : (b.addToLevel l v p).entries = b.entries :=
  setLevel_entries ..

@[simp] theorem addToLevel_nextEntry : (b.addToLevel l v p).nextEntry = b.nextEntry :=
  setLevel_nextEntry ..

theorem level_addToLevel : (b.addToLevel l v p).level l' =
    if l' = l then some (v.addEntry p (b.entries p)) else b.level l' :=
  level_setLevel ..

def ordersAt (b : UPABookByOrderMessage) (l : LevelId) : Finset String :=
  ((b.level l).map UPALevel.orders).getD ∅

def recorded (b : UPABookByOrderMessage) (id : String) : Option LevelId :=
  (b.orderMap.find id).bind fun p => (b.entries p).level

structure WellFormed (b : UPABookByOrderMessage) : Prop where
  allocated : ∀ {id p}, b.orderMap.find id = some p → p < b.nextEntry
  orderid : ∀ {id p}, b.orderMap.find id = some p → (b.entries p).orderid = id

variable {b}

theorem WellFormed.ne_next (h : b.WellFormed) {id : String} {p : EntryPtr}
    (hp : b.orderMap.find id = some p) : p ≠ b.nextEntry :=
  (h.allocated hp).ne

theorem wellFormed_empty : empty.WellFormed :=
  ⟨fun h => by simp [empty] at h, fun h => by simp [empty] at h⟩

@[simp] theorem empty_level : empty.level l = none := by
  obtain ⟨_ | _, k⟩ := l <;> rfl

@[simp] theorem empty_ordersAt : empty.ordersAt l = ∅ := by simp [ordersAt]

@[simp] theorem empty_recorded (id : String) : empty.recorded id = none := rfl

end UPABookByOrderMessage

end RmdsBridge
