import RmdsBridge.BookEffects
import RmdsBridge.Runs

namespace RmdsBridge.UPABookByOrderMessage

variable {b c : UPABookByOrderMessage} {e : UPABookEntry} {x : EntryPtr}

def performs (b : UPABookByOrderMessage) : BookOp → Bool
  | .add e => ((b.newEntry e).addEntry b.nextEntry).1
  | .update e => ((b.newEntry e).updateEntry b.nextEntry).1
  | .remove e => ((b.newEntry e).removeEntry b.nextEntry).1

structure SameBook (b c : UPABookByOrderMessage) : Prop where
  orderMap : c.orderMap = b.orderMap
  levelMapBid : c.levelMapBid = b.levelMapBid
  levelMapAsk : c.levelMapAsk = b.levelMapAsk
  entries : ∀ p < b.nextEntry, c.entries p = b.entries p

theorem newEntry_sameBook : SameBook b (b.newEntry e) where
  orderMap := rfl
  levelMapBid := rfl
  levelMapAsk := rfl
  entries _ hp := newEntry_entries hp.ne

def RejectsCleanly (b : UPABookByOrderMessage) : BookOp → Prop
  | .add e => e.level = none → e.orderid ∈ b.orderMap
  | .update _ => True
  | .remove e => ∀ x, b.orderMap.find e.orderid = some x → b.findLevel x ≠ none

theorem addEntry_performs (p : EntryPtr) : (b.addEntry p).1 = (b.entries p).level.isSome := by
  unfold addEntry
  dsimp only
  cases (b.entries p).level <;> rfl

theorem addEntry_rejected {p : EntryPtr} (hl : (b.entries p).level = none) :
    (b.addEntry p).2 = if (b.entries p).orderid ∈ b.orderMap then b else b.insertOrder p := by
  unfold addEntry
  dsimp only
  rw [hl]

theorem add_performs : b.performs (.add e) = e.level.isSome := by
  rw [performs, addEntry_performs, newEntry_entry]

theorem add_rejected (hl : e.level = none) : b.apply (.add e) =
    if e.orderid ∈ b.orderMap then b.newEntry e else (b.newEntry e).insertOrder b.nextEntry := by
  rw [apply, addEntry_rejected (by rw [newEntry_entry, hl]), newEntry_entry, newEntry_orderMap]

theorem add_rejected_iff :
    (b.performs (.add e) = false → SameBook b (b.apply (.add e))) ↔ b.RejectsCleanly (.add e) := by
  rw [add_performs, Option.isSome_eq_false_iff, Option.isNone_iff_eq_none]
  constructor
  · intro h hl
    by_contra hm
    have hsame := (h hl).orderMap
    rw [add_rejected hl, if_neg hm] at hsame
    have hin : e.orderid ∈ ((b.newEntry e).insertOrder b.nextEntry).orderMap := by
      simp [insertOrder, newEntry_entry]
    rw [hsame] at hin
    exact hm hin
  · intro h hl
    rw [add_rejected hl, if_pos (h hl)]
    exact newEntry_sameBook

theorem update_rejected (h : b.WellFormed) (hp : b.performs (.update e) = false) :
    SameBook b (b.apply (.update e)) := by
  have hhome : b.home e.orderid = none := by
    cases hh : b.home e.orderid with
    | none => rfl
    | some r =>
      obtain ⟨x, l, v⟩ := r
      obtain ⟨hx, hlv⟩ := home_eq_some.mp hh
      have hf : (b.newEntry e).findLevel x = some (l, v) := by
        rw [newEntry_findLevel (h.ne_next hx)]
        exact findLevel_eq_some.mpr hlv
      simp only [performs, updateEntry, newEntry_entry, newEntry_orderMap, hx, hf] at hp
      split_ifs at hp
  rw [update_unknown h hhome]
  exact newEntry_sameBook

theorem remove_rejected_iff (h : b.WellFormed) :
    (b.performs (.remove e) = false → SameBook b (b.apply (.remove e))) ↔
      b.RejectsCleanly (.remove e) := by
  cases hx : b.orderMap.find e.orderid with
  | none =>
    constructor
    · intro _ x hx'
      rw [hx] at hx'
      cases hx'
    · intro _ _
      rw [remove_unknown hx]
      exact newEntry_sameBook
  | some x =>
    have hne := h.ne_next hx
    cases hf : b.findLevel x with
    | none =>
      -- the order is taken from the map before its level is looked for
      have hp : b.performs (.remove e) = false := by
        simp [performs, removeEntry, hx, newEntry_findLevel hne, hf]
      constructor
      · intro hsame
        have hmap := (hsame hp).orderMap
        rw [remove_orphan h hx hf] at hmap
        have hnone : ((b.newEntry e).eraseOrder e.orderid).orderMap.find e.orderid = none := by
          rw [eraseOrder, UnorderedMap.find_erase, if_pos rfl]
        rw [hmap, hx] at hnone
        cases hnone
      · intro hclean
        exact absurd hf (hclean x hx)
    | some r =>
      obtain ⟨l, v⟩ := r
      have hp : b.performs (.remove e) = true := by
        simp [performs, removeEntry, hx, newEntry_findLevel hne, hf]
      constructor
      · intro _ y hy
        rw [hx] at hy
        obtain rfl := Option.some.inj hy
        rw [hf]
        exact Option.some_ne_none _
      · intro _ hfalse
        rw [hp] at hfalse
        cases hfalse

theorem rejected_iff (h : b.WellFormed) (o : BookOp) :
    (b.performs o = false → SameBook b (b.apply o)) ↔ b.RejectsCleanly o := by
  cases o with
  | add e => exact add_rejected_iff
  | update e => exact ⟨fun _ => trivial, fun _ hp => update_rejected h hp⟩
  | remove e => exact remove_rejected_iff h

theorem run_wellFormed (as : List BookAction) : (Runs.run step empty as).WellFormed :=
  Runs.run_inv (fun _ a h => step_wellFormed h a) wellFormed_empty

theorem rejected_unchanged_iff (as : List BookAction) (o : BookOp) :
    ((Runs.run step empty as).performs o = false →
      SameBook (Runs.run step empty as) ((Runs.run step empty as).apply o)) ↔
    (Runs.run step empty as).RejectsCleanly o :=
  rejected_iff (run_wellFormed as) o

def rejectedAdd : UPABookEntry := { actionCode := 'A', orderid := "1", price := ⟨100, .exponent0⟩ }

theorem rejected_add_recorded : ¬ ∀ as o, (Runs.run step empty as).performs o = false →
    SameBook (Runs.run step empty as) ((Runs.run step empty as).apply o) := by
  intro h
  have hclean := (rejected_iff (run_wellFormed []) (.add rejectedAdd)).mp (h [] (.add rejectedAdd))
  exact AList.notMem_empty _ (hclean rfl)

end RmdsBridge.UPABookByOrderMessage
