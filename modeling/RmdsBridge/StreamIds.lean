import RmdsBridge.Responses

namespace RmdsBridge

variable {P L : Type}

namespace UPAStreamManager

structure Exclusive (m : UPAStreamManager P) (ids : P → ℕ) (opened : Finset P) : Prop where
  distinct : ∀ s ∈ opened, ∀ t ∈ opened, ids s = ids t → s = t
  found : ∀ s ∈ opened, m.getItem (ids s) = some s
  not_free : ∀ s ∈ opened, streamId2Index (ids s) ∉ m.freeStreamIds
  free_nodup : m.freeStreamIds.Nodup

structure Assigned (m : UPAStreamManager P) (ids : P → ℕ) (opened : Finset P) : Prop where
  bounded : m.nextIndex ≤ numStreamIds
  id_of_item : ∀ i s, m.itemArray i = some s → ids s = index2StreamId i ∧ i < m.nextIndex
  index_of_id : ∀ s, ids s ≠ 0 → ∃ i < m.nextIndex, ids s = index2StreamId i
  item_of_free : ∀ i ∈ m.freeStreamIds, i < m.nextIndex ∧ m.itemArray i = none
  free_nodup : m.freeStreamIds.Nodup
  item_of_open : ∀ s ∈ opened, ids s ≠ 0 ∧ m.getItem (ids s) = some s

variable {m : UPAStreamManager P} {ids : P → ℕ} {opened : Finset P} {s : P}

theorem Assigned.exclusive (h : m.Assigned ids opened) : m.Exclusive ids opened where
  distinct s hs t ht hid := by
    have hst := (h.item_of_open s hs).2
    rw [hid, (h.item_of_open t ht).2] at hst
    exact (Option.some.inj hst).symm
  found s hs := (h.item_of_open s hs).2
  not_free s hs hfree := by
    have hnone := (h.item_of_free _ hfree).2
    rw [show m.itemArray (streamId2Index (ids s)) = some s from (h.item_of_open s hs).2] at hnone
    cases hnone
  free_nodup := h.free_nodup

theorem Assigned.congr {m' : UPAStreamManager P} (h : m.Assigned ids opened)
    (hi : m'.itemArray = m.itemArray) (hn : m'.nextIndex = m.nextIndex)
    (hf : m'.freeStreamIds = m.freeStreamIds) : m'.Assigned ids opened := by
  obtain ⟨a, n, f, p, o, c⟩ := m
  obtain ⟨a', n', f', p', o', c'⟩ := m'
  obtain rfl : a' = a := hi
  obtain rfl : n' = n := hn
  obtain rfl : f' = f := hf
  exact ⟨h.1, h.2, h.3, h.4, h.5, h.6⟩

theorem Assigned.index_lt (h : m.Assigned ids opened) (hs : ids s ≠ 0) :
    streamId2Index (ids s) < m.nextIndex ∧ index2StreamId (streamId2Index (ids s)) = ids s := by
  obtain ⟨i, hi, he⟩ := h.index_of_id s hs
  rw [he, streamId2Index_index2StreamId (hi.trans_le h.bounded)]
  exact ⟨hi, rfl⟩

theorem Assigned.mono {opened' : Finset P} (h : m.Assigned ids opened) (hsub : opened' ⊆ opened) :
    m.Assigned ids opened' where
  bounded := h.bounded
  id_of_item := h.id_of_item
  index_of_id := h.index_of_id
  item_of_free := h.item_of_free
  free_nodup := h.free_nodup
  item_of_open s hs := h.item_of_open s (hsub hs)

theorem Assigned.item_of_index (h : m.Assigned ids opened) {i : ℕ} (hi : m.itemArray i = some s) :
    ids s ≠ 0 ∧ m.getItem (ids s) = some s := by
  obtain ⟨hid, hlt⟩ := h.id_of_item i s hi
  have hin := hlt.trans_le h.bounded
  rw [hid]
  refine ⟨index2StreamId_ne_zero hin, ?_⟩
  unfold getItem
  rw [streamId2Index_index2StreamId hin, hi]

def MayRelease (m : UPAStreamManager P) (ids : P → ℕ) (opened : Finset P) (s : P) : Prop :=
  streamId2Index (ids s) ∉ m.freeStreamIds ∧ ∀ t ∈ opened, ids t = ids s → t = s

theorem Assigned.mayRelease (h : m.Assigned ids opened) (hs : m.getItem (ids s) = some s) :
    m.MayRelease ids opened s := by
  constructor
  · intro hfree
    have hnone := (h.item_of_free _ hfree).2
    rw [show m.itemArray (streamId2Index (ids s)) = some s from hs] at hnone
    cases hnone
  · intro t ht hid
    have hts := (h.item_of_open t ht).2
    rw [hid, hs] at hts
    exact (Option.some.inj hts).symm

theorem getItem_of_update {m' : UPAStreamManager P} {i : ℕ} (hi : i < numStreamIds)
    (ha : m'.itemArray = Function.update m.itemArray i (some s)) :
    m'.getItem (index2StreamId i) = some s := by
  unfold getItem
  rw [streamId2Index_index2StreamId hi, ha, Function.update_self]

variable [DecidableEq P]

theorem update_unassigned (hs : ids s = 0) : Function.update ids s 0 = ids := by
  rw [← hs]
  exact Function.update_eq_self s ids

theorem Assigned.give {m' : UPAStreamManager P} (h : m.Assigned ids opened) (hs : ids s = 0) {i : ℕ}
    (ha : m'.itemArray = Function.update m.itemArray i (some s)) (hi : i < m'.nextIndex)
    (hn : m.nextIndex ≤ m'.nextIndex) (hb : m'.nextIndex ≤ numStreamIds)
    (hitem : m.itemArray i = none) (hfree : m'.freeStreamIds.Nodup)
    (hsub : ∀ j ∈ m'.freeStreamIds, j ∈ m.freeStreamIds) (hni : i ∉ m'.freeStreamIds) :
    m'.Assigned (Function.update ids s (index2StreamId i)) opened where
  bounded := hb
  id_of_item j t ht := by
    rw [ha] at ht
    by_cases hji : j = i
    · subst hji
      rw [Function.update_self] at ht
      obtain rfl := Option.some.inj ht
      exact ⟨Function.update_self _ _ _, hi⟩
    · rw [Function.update_of_ne hji] at ht
      obtain ⟨hid, hj⟩ := h.id_of_item j t ht
      have hts : t ≠ s := by
        rintro rfl
        exact index2StreamId_ne_zero (hj.trans_le h.bounded) (hid.symm.trans hs)
      rw [Function.update_of_ne hts]
      exact ⟨hid, hj.trans_le hn⟩
  index_of_id t ht := by
    by_cases hts : t = s
    · subst hts
      exact ⟨i, hi, Function.update_self _ _ _⟩
    · rw [Function.update_of_ne hts] at ht ⊢
      obtain ⟨j, hj, he⟩ := h.index_of_id t ht
      exact ⟨j, hj.trans_le hn, he⟩
  item_of_free j hj := by
    obtain ⟨hjn, hjnone⟩ := h.item_of_free j (hsub j hj)
    have hji : j ≠ i := fun e => hni (e ▸ hj)
    rw [ha, Function.update_of_ne hji]
    exact ⟨hjn.trans_le hn, hjnone⟩
  free_nodup := hfree
  item_of_open t ht := by
    obtain ⟨hid, hit⟩ := h.item_of_open t ht
    have hts : t ≠ s := by
      rintro rfl
      exact hid hs
    unfold getItem at hit ⊢
    have hti : streamId2Index (ids t) ≠ i := by
      intro e
      rw [e, hitem] at hit
      cases hit
    rw [Function.update_of_ne hts, ha, Function.update_of_ne hti]
    exact ⟨hid, hit⟩

theorem Assigned.addItem (h : m.Assigned ids opened) (hs : ids s = 0) :
    (m.addItem s).2.Assigned (Function.update ids s (m.addItem s).1) opened ∧
      ((m.addItem s).1 ≠ 0 → (m.addItem s).2.getItem (m.addItem s).1 = some s) := by
  unfold UPAStreamManager.addItem
  by_cases hfull : numStreamIds ≤ m.nextIndex
  · rw [if_pos hfull]
    cases hf : m.freeStreamIds with
    | nil =>
      refine ⟨?_, fun h0 => absurd rfl h0⟩
      rwa [update_unassigned hs]
    | cons i free =>
      obtain ⟨hi, hitem⟩ := h.item_of_free i (by rw [hf]; exact List.mem_cons_self)
      have hnodup : (i :: free).Nodup := hf ▸ h.free_nodup
      refine ⟨h.give hs rfl hi le_rfl h.bounded hitem hnodup.tail ?_ (List.nodup_cons.mp hnodup).1,
        fun _ => getItem_of_update (hi.trans_le h.bounded) rfl⟩
      intro j hj
      exact hf ▸ List.mem_cons_of_mem _ hj
  · rw [if_neg hfull]
    have hlt : m.nextIndex < numStreamIds := not_le.mp hfull
    have hitem : m.itemArray m.nextIndex = none := by
      by_contra hsome
      obtain ⟨t, ht⟩ := Option.ne_none_iff_exists'.mp hsome
      exact lt_irrefl _ (h.id_of_item _ t ht).2
    exact ⟨h.give hs rfl (Nat.lt_succ_self _) (Nat.le_succ _) hlt hitem h.free_nodup
      (fun _ hj => hj) fun hfree => lt_irrefl _ (h.item_of_free _ hfree).1,
      fun _ => getItem_of_update hlt rfl⟩

theorem Assigned.opens (h : m.Assigned ids opened) (hs : ids s ≠ 0)
    (hitem : m.getItem (ids s) = some s) : m.Assigned ids (insert s opened) where
  bounded := h.bounded
  id_of_item := h.id_of_item
  index_of_id := h.index_of_id
  item_of_free := h.item_of_free
  free_nodup := h.free_nodup
  item_of_open t ht := by
    rcases Finset.mem_insert.mp ht with rfl | ht
    · exact ⟨hs, hitem⟩
    · exact h.item_of_open t ht

theorem Assigned.release (h : m.Assigned ids opened) (hs : ids s ≠ 0)
    (hr : m.MayRelease ids opened s) :
    (m.releaseStreamId (ids s)).Assigned ids (opened.erase s) where
  bounded := h.bounded
  id_of_item i t ht := by
    simp only [releaseStreamId] at ht
    by_cases hi : i = streamId2Index (ids s)
    · rw [hi, Function.update_self] at ht
      cases ht
    · rw [Function.update_of_ne hi] at ht
      exact h.id_of_item i t ht
  index_of_id := h.index_of_id
  item_of_free i hi := by
    simp only [releaseStreamId] at hi ⊢
    by_cases he : i = streamId2Index (ids s)
    · rw [he, Function.update_self]
      exact ⟨(h.index_lt hs).1, rfl⟩
    · rw [Function.update_of_ne he]
      rcases List.mem_append.mp hi with hi | hi
      · exact h.item_of_free i hi
      · exact absurd (List.mem_singleton.mp hi) he
  free_nodup := by
    refine List.Nodup.append h.free_nodup (List.nodup_singleton _) ?_
    rw [List.disjoint_singleton]
    exact hr.1
  item_of_open t ht := by
    obtain ⟨hts, ht⟩ := Finset.mem_erase.mp ht
    obtain ⟨hid, hit⟩ := h.item_of_open t ht
    have hne : streamId2Index (ids t) ≠ streamId2Index (ids s) := by
      intro e
      refine hts (hr.2 t ht ?_)
      rw [← (h.index_lt hid).2, e, (h.index_lt hs).2]
    unfold getItem at hit ⊢
    simp only [releaseStreamId]
    rw [Function.update_of_ne hne]
    exact ⟨hid, hit⟩

theorem not_exclusive_release (hr : ¬ m.MayRelease ids opened s) :
    ¬ (m.releaseStreamId (ids s)).Exclusive ids (opened.erase s) := by
  intro h
  refine hr ⟨fun hfree => ?_, fun t ht hid => ?_⟩
  · exact (List.nodup_append'.mp h.free_nodup).2.2 hfree (List.mem_singleton.mpr rfl)
  · by_contra hts
    have hfound := h.found t (Finset.mem_erase.mpr ⟨hts, ht⟩)
    unfold getItem at hfound
    simp only [releaseStreamId, hid, Function.update_self] at hfound
    cases hfound

end UPAStreamManager

end RmdsBridge
