import RmdsBridge.BookTracking
import RmdsBridge.Runs

namespace RmdsBridge.UPABookByOrderMessage

variable {b : UPABookByOrderMessage} {e : UPABookEntry} {id : String} {l : LevelId}

def Consistent (b : UPABookByOrderMessage) : Prop :=
  ∀ id, (id ∈ b.orderMap ↔ ∃! l, id ∈ b.ordersAt l) ∧
    ∀ l, id ∈ b.orderMap → id ∈ b.ordersAt l → b.recorded id = some l

def AdmissibleOp (b : UPABookByOrderMessage) : BookOp → Prop
  | .add e =>
    if e.orderid ∈ b.orderMap then
      ∀ l, e.level = some l →
        if b.recorded e.orderid = some l then e.actionCode ≠ 'D' else e.actionCode ≠ 'A'
    else e.level ≠ none ∧ e.actionCode = 'A'
  | .update e => ∀ l, b.recorded e.orderid = some l → e.price.value = l.2 → e.actionCode ≠ 'D'
  | .remove _ => True

def Admissible (b : UPABookByOrderMessage) : BookAction → Prop
  | .op o => b.AdmissibleOp o
  | .startUpdate | .build | .endUpdate => True

structure Indexed (b : UPABookByOrderMessage) : Prop extends b.Tracked where
  hasLevel : ∀ id, id ∈ b.orderMap ↔ b.recorded id ≠ none

theorem Indexed.consistent (h : b.Indexed) : b.Consistent := by
  intro id
  refine ⟨?_, fun l _ hl => (h.mem_iff id l).mp hl⟩
  rw [h.hasLevel, Option.ne_none_iff_exists']
  constructor
  · rintro ⟨l, hl⟩
    refine ⟨l, (h.mem_iff id l).mpr hl, fun m hm => ?_⟩
    exact Option.some.inj (((h.mem_iff id m).mp hm).symm.trans hl)
  · rintro ⟨l, hl, -⟩
    exact ⟨l, (h.mem_iff id l).mp hl⟩

theorem indexed_empty : empty.Indexed where
  toTracked := tracked_empty
  hasLevel id := by
    have hm : id ∉ empty.orderMap := AList.notMem_empty id
    simp [hm]

theorem AdmissibleOp.trackable {o : BookOp} (ha : b.AdmissibleOp o) : b.Trackable o := by
  cases o with
  | add e =>
    intro l hl
    simp only [AdmissibleOp] at ha
    split_ifs at ha with hm
    · rw [if_pos hm]; exact ha l hl
    · rw [if_neg hm]; exact ha.2
  | update e => exact ha
  | remove e => trivial

theorem apply_indexed (h : b.Indexed) (o : BookOp) (ho : b.AdmissibleOp o) :
    (b.apply o).Indexed := by
  refine ⟨apply_tracked h.toTracked o ho.trackable, fun id => ?_⟩
  have hw := h.wellFormed
  cases o with
  | add e =>
    rw [mem_orderMap_add, add_recorded hw, h.hasLevel]
    by_cases hid : id = e.orderid
    · subst hid
      by_cases hm : e.orderid ∈ b.orderMap
      · simp [hm, (h.hasLevel _).mp hm]
      · simp only [AdmissibleOp, if_neg hm] at ho
        simp [hm, ho.1]
    · simp [hid]
  | update e =>
    rw [mem_orderMap_update hw, h.hasLevel]
    cases hh : b.home e.orderid with
    | none => rw [update_unknown hw hh, newEntry_recorded hw]
    | some r =>
      obtain ⟨x, l, v⟩ := r
      by_cases hk : e.price.value = l.2
      · rw [same_recorded hw hh hk]
      · rw [move_recorded hw hh hk]
        by_cases hid : id = e.orderid
        · subst hid
          simp [(home_recorded hh).1]
        · simp [hid]
  | remove e =>
    rw [mem_orderMap_remove hw, remove_recorded hw, h.hasLevel]
    split_ifs with hid <;> simp [hid]

theorem add_inconsistent (h : b.Indexed) (ha : ¬ b.AdmissibleOp (.add e)) :
    ¬ (b.apply (.add e)).Consistent := by
  intro hc
  obtain ⟨l, hl, huniq⟩ := (hc e.orderid).1.mp (mem_orderMap_add.mpr (Or.inl rfl))
  have hin (m : LevelId) (hm : e.orderid ∈ (b.apply (.add e)).ordersAt m) : m = l := huniq m hm
  by_cases hm : e.orderid ∈ b.orderMap
  · simp only [AdmissibleOp, if_pos hm] at ha
    push Not at ha
    obtain ⟨k, hk, hcode⟩ := ha
    obtain ⟨r, hr⟩ := Option.ne_none_iff_exists'.mp ((h.hasLevel _).mp hm)
    split_ifs at hcode with hrk
    · -- coded 'D' at its own level: it is in no level any more
      rw [add_ordersAt] at hl
      split_ifs at hl with hkl
      · rw [mem_effect_self, not_not.mp hcode] at hl
        simp at hl
      · exact hkl (hk.trans (hrk.symm.trans ((h.mem_iff _ _).mp hl)))
    · -- coded 'A' at another level: it is in both
      have hkr : k ≠ r := fun hc => hrk (hc ▸ hr)
      refine hkr ((hin k ?_).trans (hin r ?_).symm)
      · rw [add_ordersAt, if_pos hk, mem_effect_self]
        exact Or.inl (not_not.mp hcode)
      · rw [add_ordersAt, if_neg (fun hc => hkr (Option.some.inj (hk.symm.trans hc)))]
        exact (h.mem_iff _ _).mpr hr
  · simp only [AdmissibleOp, if_neg hm] at ha
    push Not at ha
    have hn : e.orderid ∉ b.ordersAt l := h.not_mem hm
    rw [add_ordersAt] at hl
    split_ifs at hl with hlev
    · rw [mem_effect_self] at hl
      rcases hl with hl | hl
      · exact ha (by simp [hlev]) hl
      · exact hn hl.2
    · exact hn hl

theorem update_inconsistent (h : b.Indexed) (ha : ¬ b.AdmissibleOp (.update e)) :
    ¬ (b.apply (.update e)).Consistent := by
  simp only [AdmissibleOp] at ha
  push Not at ha
  obtain ⟨l, hr, hk, hcode⟩ := ha
  obtain ⟨x, v, hh⟩ := h.home hr
  intro hc
  have hm : e.orderid ∈ (b.apply (.update e)).orderMap := by
    rw [mem_orderMap_update h.wellFormed, h.hasLevel, hr]
    simp
  obtain ⟨m, hin, -⟩ := (hc e.orderid).1.mp hm
  rw [same_ordersAt h.wellFormed hh hk] at hin
  split_ifs at hin with hml
  · rw [mem_effect_self] at hin
    simp [hcode] at hin
  · exact hml (Option.some.inj (((h.mem_iff _ _).mp hin).symm.trans hr))

theorem step_indexed (h : b.Indexed) (a : BookAction) (ha : b.Admissible a) :
    (b.step a).Indexed := by
  cases a with
  | op o => exact apply_indexed h o ha
  | startUpdate => exact ⟨startUpdate_tracked h.toTracked, h.hasLevel⟩
  | build => exact ⟨afterBuild_tracked h.toTracked, h.hasLevel⟩
  | endUpdate => exact ⟨endUpdate_tracked h.toTracked, h.hasLevel⟩

theorem step_inconsistent (h : b.Indexed) (a : BookAction) (ha : ¬ b.Admissible a) :
    ¬ (b.step a).Consistent := by
  cases a with
  | op o =>
    cases o with
    | add e => exact add_inconsistent h ha
    | update e => exact update_inconsistent h ha
    | remove e => exact absurd trivial ha
  | startUpdate | build | endUpdate => exact absurd trivial ha

theorem book_consistent_iff (as : List BookAction) :
    Runs.Always step Consistent empty as ↔ Runs.Guarded step Admissible empty as :=
  Runs.always_iff_guarded (fun _ h => Indexed.consistent h) (fun _ a h ha => step_indexed h a ha)
    (fun _ a h ha => step_inconsistent h a ha) indexed_empty

def sidelessAdd : UPABookEntry := { actionCode := 'A', orderid := "1", price := ⟨100, .exponent0⟩ }

theorem sideless_add_inconsistent :
    ¬ ∀ as, Runs.Always step Consistent empty as := by
  intro h
  exact step_inconsistent indexed_empty (.op (.add sidelessAdd)) (fun ha => ha.1 rfl)
    (h [.op (.add sidelessAdd)]).2

end RmdsBridge.UPABookByOrderMessage
