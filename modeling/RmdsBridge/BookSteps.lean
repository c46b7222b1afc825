import RmdsBridge.BookView

namespace RmdsBridge.UPABookByOrderMessage

variable {b : UPABookByOrderMessage} {e : UPABookEntry} {id : String} {l l' : LevelId}
  {p q : EntryPtr} {v : UPALevel}

theorem ordersAt_of_level (h : b.level l = some v) : b.ordersAt l = v.orders := by
  simp [ordersAt, h]

theorem recorded_of_find (h : b.orderMap.find id = some p) :
    b.recorded id = (b.entries p).level := by
  simp [recorded, h]

theorem recorded_eq_none_of_not_mem (h : id ∉ b.orderMap) : b.recorded id = none := by
  simp [recorded, UnorderedMap.find_eq_none.mpr h]

/-! `addEntry` -/

theorem addEntry_entries (b : UPABookByOrderMessage) (p : EntryPtr) :
    (b.addEntry p).2.entries = b.entries ∧ (b.addEntry p).2.nextEntry = b.nextEntry := by
  unfold addEntry
  dsimp only
  cases (b.entries p).level <;> dsimp only <;> split_ifs <;> simp [insertOrder]

theorem addEntry_orderMap (b : UPABookByOrderMessage) (p : EntryPtr) (id : String) :
    (b.addEntry p).2.orderMap.find id =
      if id = (b.entries p).orderid ∧ (b.entries p).orderid ∉ b.orderMap then some p
      else b.orderMap.find id := by
  have hmap : (b.addEntry p).2.orderMap =
      if (b.entries p).orderid ∈ b.orderMap then b.orderMap
      else b.orderMap.insert (b.entries p).orderid p := by
    unfold addEntry
    dsimp only
    cases (b.entries p).level <;> dsimp only <;> split_ifs <;> simp [insertOrder]
  rw [hmap]
  by_cases hm : (b.entries p).orderid ∈ b.orderMap
  · simp [hm]
  · simp [hm, UnorderedMap.find_insert]

theorem addEntry_level (b : UPABookByOrderMessage) (p : EntryPtr) (l : LevelId) :
    (b.addEntry p).2.level l =
      if (b.entries p).level = some l then
        some (((b.level l).getD (UPALevel.new (b.entries p) l.1)).addEntry p (b.entries p))
      else b.level l := by
  have hl (c : UPABookByOrderMessage) : c = b ∨ c = b.insertOrder p →
      c.level = b.level ∧ c.entries = b.entries := by
    rintro (rfl | rfl)
    · exact ⟨rfl, rfl⟩
    · exact ⟨level_eq_of_maps rfl rfl, rfl⟩
  unfold addEntry
  dsimp only
  generalize hc : (if (b.entries p).orderid ∈ b.orderMap then b else b.insertOrder p) = c
  obtain ⟨hcl, hce⟩ := hl c (by rw [← hc]; split_ifs <;> simp)
  cases he : (b.entries p).level with
  | none => simp [hcl]
  | some m =>
    simp only [level_addToLevel, hcl, hce, Option.some.injEq]
    by_cases hm : l = m
    · subst hm; simp
    · rw [if_neg hm, if_neg (Ne.symm hm)]

theorem addEntry_ordersAt (b : UPABookByOrderMessage) (p : EntryPtr) (l : LevelId) :
    (b.addEntry p).2.ordersAt l =
      if (b.entries p).level = some l then (b.entries p).edit.effect (b.ordersAt l)
      else b.ordersAt l := by
  unfold ordersAt
  rw [addEntry_level]
  by_cases he : (b.entries p).level = some l
  · rw [if_pos he, if_pos he, Option.map_some, Option.getD_some, UPALevel.addEntry_orders]
    cases b.level l <;> rfl
  · rw [if_neg he, if_neg he]

@[simp] theorem eraseOrder_findLevel : (b.eraseOrder id).findLevel p = b.findLevel p := by
  unfold findLevel
  rw [level_eq_of_maps (b := b) rfl rfl]
  rfl

/-! `newEntry` -/

@[simp] theorem newEntry_level : (b.newEntry e).level = b.level := level_eq_of_maps rfl rfl

@[simp] theorem newEntry_ordersAt : (b.newEntry e).ordersAt l = b.ordersAt l := by
  simp [ordersAt]

@[simp] theorem newEntry_orderMap : (b.newEntry e).orderMap = b.orderMap := rfl

@[simp] theorem newEntry_entry : (b.newEntry e).entries b.nextEntry = e := by
  simp [newEntry]

theorem newEntry_entries (h : p ≠ b.nextEntry) : (b.newEntry e).entries p = b.entries p := by
  simp [newEntry, h]

/-! The steps, by what they leave in the heap, the order map and the levels -/

theorem findLevel_eq_some :
    b.findLevel p = some (l, v) ↔ (b.entries p).level = some l ∧ b.level l = some v := by
  unfold findLevel
  rw [Option.bind_eq_some_iff]
  constructor
  · rintro ⟨m, hm, hv⟩
    obtain ⟨w, hw, he⟩ := Option.map_eq_some_iff.mp hv
    cases he
    exact ⟨hm, hw⟩
  · rintro ⟨hm, hv⟩
    exact ⟨l, hm, by rw [hv]; rfl⟩

theorem newEntry_findLevel (h : p ≠ b.nextEntry) : (b.newEntry e).findLevel p = b.findLevel p := by
  simp [findLevel, newEntry_entries h]

def home (b : UPABookByOrderMessage) (id : String) : Option (EntryPtr × LevelId × UPALevel) :=
  (b.orderMap.find id).bind fun x => (b.findLevel x).map fun r => (x, r)

theorem home_eq_some {x : EntryPtr} : b.home id = some (x, l, v) ↔
    b.orderMap.find id = some x ∧ (b.entries x).level = some l ∧ b.level l = some v := by
  unfold home
  rw [Option.bind_eq_some_iff]
  constructor
  · rintro ⟨y, hy, hr⟩
    obtain ⟨⟨m, w⟩, hm, he⟩ := Option.map_eq_some_iff.mp hr
    cases he
    exact ⟨hy, findLevel_eq_some.mp hm⟩
  · rintro ⟨hx, hl⟩
    exact ⟨x, hx, by rw [findLevel_eq_some.mpr hl]; rfl⟩

theorem add_entries : (b.apply (.add e)).entries = Function.update b.entries b.nextEntry e ∧
    (b.apply (.add e)).nextEntry = b.nextEntry + 1 :=
  addEntry_entries ..

theorem add_orderMap : (b.apply (.add e)).orderMap.find id =
    if id = e.orderid ∧ e.orderid ∉ b.orderMap then some b.nextEntry else b.orderMap.find id := by
  simp only [apply, addEntry_orderMap, newEntry_entry, newEntry_orderMap]

theorem add_level : (b.apply (.add e)).level l =
    if e.level = some l then some (((b.level l).getD (.new e l.1)).addEntry b.nextEntry e)
    else b.level l := by
  simp only [apply, addEntry_level, newEntry_entry, newEntry_level]

theorem update_unknown (h : b.WellFormed) (hh : b.home e.orderid = none) :
    b.apply (.update e) = b.newEntry e := by
  simp only [apply, updateEntry, newEntry_orderMap, newEntry_entry]
  cases hx : b.orderMap.find e.orderid with
  | none => rfl
  | some x =>
    have hf : b.findLevel x = none := by simpa [home, hx] using hh
    simp [newEntry_findLevel (h.ne_next hx), hf]

theorem same_eq (h : b.WellFormed) {x : EntryPtr} (hh : b.home e.orderid = some (x, l, v))
    (hk : e.price.value = l.2) :
    b.apply (.update e) =
      ((b.newEntry e).setSideCode b.nextEntry l.1.code).addToLevel l v b.nextEntry := by
  obtain ⟨hx, hl, hv⟩ := home_eq_some.mp hh
  have hne := h.ne_next hx
  have hf : b.findLevel x = some (l, v) := findLevel_eq_some.mpr ⟨hl, hv⟩
  have hp : (b.entries x).price.value = e.price.value :=
    (UPABookEntry.level_eq_some hl).2.trans hk.symm
  simp [apply, updateEntry, hx, newEntry_findLevel hne, hf, setSideCode, newEntry_entries hne, hne, hp]

theorem same_entries (h : b.WellFormed) {x : EntryPtr} (hh : b.home e.orderid = some (x, l, v))
    (hk : e.price.value = l.2) : (b.apply (.update e)).entries =
      Function.update b.entries b.nextEntry { e with sideCode := l.1.code } ∧
    (b.apply (.update e)).nextEntry = b.nextEntry + 1 := by
  rw [same_eq h hh hk]
  simp [setSideCode, newEntry]

theorem same_level (h : b.WellFormed) {x : EntryPtr} (hh : b.home e.orderid = some (x, l, v))
    (hk : e.price.value = l.2) (m : LevelId) : (b.apply (.update e)).level m =
      if m = l then some (v.addEntry b.nextEntry { e with sideCode := l.1.code })
      else b.level m := by
  have hb : ((b.newEntry e).setSideCode b.nextEntry l.1.code).level = b.level :=
    level_eq_of_maps rfl rfl
  rw [same_eq h hh hk, level_addToLevel, hb]
  simp [setSideCode, newEntry]

theorem move_eq (h : b.WellFormed) {x : EntryPtr} (hh : b.home e.orderid = some (x, l, v))
    (hk : e.price.value ≠ l.2) :
    b.apply (.update e) =
      ((((((b.newEntry e).setSideCode b.nextEntry l.1.code).setActionCode x 'D').addToLevel l v x)
        |>.setActionCode b.nextEntry 'A').addEntry b.nextEntry).2.insertOrder b.nextEntry := by
  obtain ⟨hx, hl, hv⟩ := home_eq_some.mp hh
  have hne := h.ne_next hx
  have hf : b.findLevel x = some (l, v) := findLevel_eq_some.mpr ⟨hl, hv⟩
  have hp : (b.entries x).price.value ≠ e.price.value := by
    rw [(UPABookEntry.level_eq_some hl).2]; exact hk.symm
  simp only [apply, updateEntry, newEntry_orderMap, newEntry_entry, hx, newEntry_findLevel hne, hf]
  rw [if_pos]
  simpa [setSideCode, newEntry_entries hne, hne] using hp

def moved (e : UPABookEntry) (s : Side) : UPABookEntry :=
  { e with sideCode := s.code, actionCode := 'A' }

def deleted (e : UPABookEntry) : UPABookEntry := { e with actionCode := 'D' }

def beforeAdd (b : UPABookByOrderMessage) (e : UPABookEntry) (x : EntryPtr) (l : LevelId)
    (v : UPALevel) : UPABookByOrderMessage :=
  ((((b.newEntry e).setSideCode b.nextEntry l.1.code).setActionCode x 'D').addToLevel l v x).setActionCode
    b.nextEntry 'A'

theorem beforeAdd_entries {x : EntryPtr} (hne : x ≠ b.nextEntry) : (b.beforeAdd e x l v).entries =
    Function.update (Function.update b.entries b.nextEntry (moved e l.1)) x
      (deleted (b.entries x)) := by
  simp only [beforeAdd, setActionCode, addToLevel_entries, setSideCode, newEntry]
  funext q
  by_cases hq : q = x
  · subst hq; simp [hne, deleted]
  · by_cases hn : q = b.nextEntry
    · subst hn; simp [hne.symm, moved]
    · simp [hq, hn]

theorem beforeAdd_level {x : EntryPtr} (hne : x ≠ b.nextEntry) (m : LevelId) :
    (b.beforeAdd e x l v).level m =
      if m = l then some (v.addEntry x (deleted (b.entries x))) else b.level m := by
  have hl : (b.beforeAdd e x l v).level = ((((b.newEntry e).setSideCode b.nextEntry
      l.1.code).setActionCode x 'D').addToLevel l v x).level := level_eq_of_maps rfl rfl
  have hb : (((b.newEntry e).setSideCode b.nextEntry l.1.code).setActionCode x 'D').level =
      b.level := level_eq_of_maps rfl rfl
  rw [hl, level_addToLevel, hb]
  simp [setActionCode, setSideCode, newEntry, hne, deleted]

section Move

variable (h : b.WellFormed) {x : EntryPtr} (hh : b.home e.orderid = some (x, l, v))
  (hk : e.price.value ≠ l.2)
include h hh hk

theorem move_entries : (b.apply (.update e)).entries =
      Function.update (Function.update b.entries b.nextEntry (moved e l.1)) x
        (deleted (b.entries x)) ∧
    (b.apply (.update e)).nextEntry = b.nextEntry + 1 := by
  have hne := h.ne_next (home_eq_some.mp hh).1
  rw [move_eq h hh hk]
  obtain ⟨he, hn⟩ := addEntry_entries (b.beforeAdd e x l v) b.nextEntry
  constructor
  · exact he.trans (beforeAdd_entries hne)
  · refine hn.trans ?_
    simp [beforeAdd, setActionCode, setSideCode, newEntry]

theorem move_orderMap : (b.apply (.update e)).orderMap.find id =
    if id = e.orderid then some b.nextEntry else b.orderMap.find id := by
  have hne := h.ne_next (home_eq_some.mp hh).1
  have hp : (b.beforeAdd e x l v).entries b.nextEntry = moved e l.1 := by
    simp [beforeAdd_entries hne, hne.symm]
  have ho : (b.beforeAdd e x l v).orderMap = b.orderMap := by
    simp [beforeAdd, setActionCode, setSideCode]
  have hm := addEntry_orderMap (b.beforeAdd e x l v) b.nextEntry id
  rw [move_eq h hh hk]
  change (((b.beforeAdd e x l v).addEntry b.nextEntry).2.insertOrder b.nextEntry).orderMap.find id = _
  simp only [insertOrder, addEntry_entries, UnorderedMap.find_insert, hm, hp, ho]
  have hid : (moved e l.1).orderid = e.orderid := rfl
  rw [hid]
  split_ifs <;> simp_all

theorem move_level (m : LevelId) : (b.apply (.update e)).level m =
    if m = (l.1, e.price.value) then
      some (((b.level m).getD (.new (moved e l.1) m.1)).addEntry b.nextEntry (moved e l.1))
    else if m = l then some (v.addEntry x (deleted (b.entries x))) else b.level m := by
  have hne := h.ne_next (home_eq_some.mp hh).1
  have hp : (b.beforeAdd e x l v).entries b.nextEntry = moved e l.1 := by
    simp [beforeAdd_entries hne, hne.symm]
  have hlev : (moved e l.1).level = some (l.1, e.price.value) := by
    simp [UPABookEntry.level, moved]
  have hml : (l.1, e.price.value) ≠ l := fun hc => hk (congrArg Prod.snd hc)
  rw [move_eq h hh hk]
  have hins : (((b.beforeAdd e x l v).addEntry b.nextEntry).2.insertOrder b.nextEntry).level =
      ((b.beforeAdd e x l v).addEntry b.nextEntry).2.level := level_eq_of_maps rfl rfl
  change (((b.beforeAdd e x l v).addEntry b.nextEntry).2.insertOrder b.nextEntry).level m = _
  rw [hins]
  rw [addEntry_level, hp, hlev, beforeAdd_level hne]
  by_cases hm : m = (l.1, e.price.value)
  · subst hm; simp [hml]
  · rw [if_neg hm, if_neg (by simpa using Ne.symm hm)]

end Move

/-! `removeEntry` -/

theorem remove_unknown (hx : b.orderMap.find e.orderid = none) :
    b.apply (.remove e) = b.newEntry e := by
  simp [apply, removeEntry, hx]

theorem remove_orphan (h : b.WellFormed) {x : EntryPtr}
    (hx : b.orderMap.find e.orderid = some x) (hf : b.findLevel x = none) :
    b.apply (.remove e) = (b.newEntry e).eraseOrder e.orderid := by
  simp [apply, removeEntry, hx, newEntry_findLevel (h.ne_next hx), hf]

def beforeErase (b : UPABookByOrderMessage) (e : UPABookEntry) (x : EntryPtr) (l : LevelId) :
    UPABookByOrderMessage :=
  (((b.newEntry e).eraseOrder e.orderid).setSideCode b.nextEntry l.1.code).setActionCode x 'D'

section Erase

variable (h : b.WellFormed) {x : EntryPtr} (hh : b.home e.orderid = some (x, l, v))
include h hh

theorem remove_eq : b.apply (.remove e) = (b.beforeErase e x l).addToLevel l v x := by
  obtain ⟨hx, hl, hv⟩ := home_eq_some.mp hh
  have hf : b.findLevel x = some (l, v) := findLevel_eq_some.mpr ⟨hl, hv⟩
  simp [apply, removeEntry, hx, newEntry_findLevel (h.ne_next hx), hf, beforeErase]

theorem remove_entries : (b.apply (.remove e)).entries =
      Function.update (Function.update b.entries b.nextEntry { e with sideCode := l.1.code }) x
        (deleted (b.entries x)) ∧
    (b.apply (.remove e)).nextEntry = b.nextEntry + 1 := by
  have hne := h.ne_next (home_eq_some.mp hh).1
  rw [remove_eq h hh]
  refine ⟨?_, by simp [beforeErase, setActionCode, setSideCode, eraseOrder, newEntry]⟩
  simp [beforeErase, setActionCode, setSideCode, eraseOrder, newEntry, deleted, hne]

theorem remove_orderMap : (b.apply (.remove e)).orderMap = b.orderMap.erase e.orderid := by
  rw [remove_eq h hh]
  simp [beforeErase, setActionCode, setSideCode, eraseOrder]

theorem remove_level (m : LevelId) : (b.apply (.remove e)).level m =
    if m = l then some (v.addEntry x (deleted (b.entries x))) else b.level m := by
  have hne := h.ne_next (home_eq_some.mp hh).1
  have hb : (b.beforeErase e x l).level = b.level := level_eq_of_maps rfl rfl
  have hx : (b.beforeErase e x l).entries x = deleted (b.entries x) := by
    simp [beforeErase, setActionCode, setSideCode, eraseOrder, newEntry, deleted, hne]
  rw [remove_eq h hh, level_addToLevel, hb, hx]

end Erase

end RmdsBridge.UPABookByOrderMessage
