import Mathlib.Algebra.Group.Nat.Defs
import Mathlib.Data.List.Perm.Basic

namespace RmdsBridge

variable {P R : Type}

def maxPostId : ℕ := 2 ^ 32 - 1

structure UPAPostRecord (P R : Type) where
  id : ℕ
  poster : P
  reply : R
  deriving DecidableEq, Repr

structure UPAPostManager (P R : Type) where
  nextPostId : ℕ := 0
  postList : List (UPAPostRecord P R) := []
  deriving DecidableEq, Repr

namespace UPAPostManager

def getNextPostId (m : UPAPostManager P R) : ℕ × UPAPostManager P R :=
  if m.nextPostId < maxPostId then (m.nextPostId, { m with nextPostId := m.nextPostId + 1 })
  else (0, { m with nextPostId := 1 })

def addPost (m : UPAPostManager P R) (poster : P) (reply : R) : ℕ × UPAPostManager P R :=
  let (ret, m) := m.getNextPostId
  (ret, { m with postList := m.postList ++ [⟨ret, poster, reply⟩] })

def searchList (ackId : ℕ) : List (UPAPostRecord P R) →
    Option (UPAPostRecord P R) × List (UPAPostRecord P R)
  | [] => (none, [])
  | record :: records =>
    if record.id = ackId then (some record, records)
    else
      let rest := searchList ackId records
      (rest.1, record :: rest.2)

def removePost (m : UPAPostManager P R) (ackId : ℕ) : Option (P × R) × UPAPostManager P R :=
  let found := searchList ackId m.postList
  (found.1.map fun record => (record.poster, record.reply), { m with postList := found.2 })

end UPAPostManager

namespace UPAPostManager

theorem addPost_postList (m : UPAPostManager P R) (poster : P) (reply : R) :
    (m.addPost poster reply).2.postList = m.postList ++ [⟨(m.addPost poster reply).1, poster, reply⟩] := by
  unfold addPost getNextPostId
  split_ifs <;> rfl

variable {ackId : ℕ} {records : List (UPAPostRecord P R)} {record : UPAPostRecord P R}

theorem searchList_none (h : ∀ r ∈ records, r.id ≠ ackId) :
    searchList ackId records = (none, records) := by
  induction records with
  | nil => rfl
  | cons r records ih =>
    rw [searchList, if_neg (h r List.mem_cons_self), ih fun r hr => h r (List.mem_cons_of_mem _ hr)]

theorem searchList_some (hd : (records.map UPAPostRecord.id).Nodup) (hr : record ∈ records) :
    searchList record.id records = (some record, records.filter fun r => r.id ≠ record.id) := by
  induction records with
  | nil => cases hr
  | cons r records ih =>
    rw [List.map_cons, List.nodup_cons] at hd
    rcases List.mem_cons.mp hr with rfl | hr
    · have hrest : ∀ r ∈ records, r.id ≠ record.id := by
        intro r hr he
        apply hd.1
        rw [← he]
        exact List.mem_map_of_mem hr
      rw [searchList, if_pos rfl, List.filter_cons, if_neg (by simp), List.filter_eq_self.mpr]
      intro r hr
      exact decide_eq_true (hrest r hr)
    · have hne : r.id ≠ record.id := by
        intro he
        apply hd.1
        rw [he]
        exact List.mem_map_of_mem hr
      rw [searchList, if_neg hne, ih hd.2 hr, List.filter_cons, if_pos (decide_eq_true hne)]

theorem searchList_filter (hd : (records.map UPAPostRecord.id).Nodup) :
    (searchList ackId records).2 = records.filter fun r => r.id ≠ ackId := by
  by_cases hex : ∃ r ∈ records, r.id = ackId
  · obtain ⟨r, hr, rfl⟩ := hex
    rw [searchList_some hd hr]
  · have hne : ∀ r ∈ records, r.id ≠ ackId := fun r hr he => hex ⟨r, hr, he⟩
    rw [searchList_none hne, List.filter_eq_self.mpr]
    intro r hr
    exact decide_eq_true (hne r hr)

theorem searchList_eq (ackId : ℕ) (records : List (UPAPostRecord P R)) :
    searchList ackId records =
      (records.find? (·.id == ackId), records.eraseP (·.id == ackId)) := by
  induction records with
  | nil => rfl
  | cons r records ih =>
    by_cases hr : r.id = ackId
    · simp [searchList, hr]
    · have hb : (r.id == ackId) = false := beq_eq_false_iff_ne.mpr hr
      simp [searchList, hr, hb, ih]

theorem removePost_eq (m : UPAPostManager P R) (ackId : ℕ) : m.removePost ackId =
    ((m.postList.find? (·.id == ackId)).map fun r => (r.poster, r.reply),
      { m with postList := m.postList.eraseP (·.id == ackId) }) := by
  rw [removePost, searchList_eq]

end UPAPostManager

end RmdsBridge
