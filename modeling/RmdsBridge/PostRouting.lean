import RmdsBridge.PostManager
import RmdsBridge.Runs

namespace RmdsBridge.PostRouting

variable {P R : Type}

structure Post (P R : Type) extends UPAPostRecord P R where
  number : ℕ
  deriving DecidableEq

inductive PostAction (P R : Type)
  | addPost (poster : P) (reply : R)
  | removePost (ackId : ℕ)
  deriving DecidableEq

def PostAction.call (m : UPAPostManager P R) : PostAction P R → ℕ × UPAPostManager P R
  | .addPost poster reply => m.addPost poster reply
  | .removePost ackId => (ackId, (m.removePost ackId).2)

/-- The number of the posts added so far, and those that have not been removed since, oldest first. -/
structure PostHistory (P R : Type) where
  added : ℕ := 0
  outstanding : List (Post P R) := []

def PostHistory.record (b : PostHistory P R) (postId : ℕ) : PostAction P R → PostHistory P R
  | .addPost poster reply => ⟨b.added + 1, b.outstanding ++ [⟨⟨postId, poster, reply⟩, b.added⟩]⟩
  | .removePost ackId => { b with outstanding := b.outstanding.filter fun p => p.id ≠ ackId }

structure Routing (P R : Type) where
  manager : UPAPostManager P R := {}
  history : PostHistory P R := {}

namespace Routing

def start : Routing P R := {}

def step (s : Routing P R) (a : PostAction P R) : Routing P R :=
  ⟨(a.call s.manager).2, s.history.record (a.call s.manager).1 a⟩

def InWindow (s : Routing P R) : PostAction P R → Prop
  | .addPost _ _ => ∀ p ∈ s.history.outstanding, s.history.added - p.number < maxPostId
  | .removePost _ => True

instance (s : Routing P R) : ∀ a, Decidable (s.InWindow a)
  | .addPost _ _ => inferInstanceAs (Decidable (∀ p ∈ s.history.outstanding, _))
  | .removePost _ => inferInstanceAs (Decidable True)

structure Routed (s : Routing P R) : Prop where
  distinct : (s.history.outstanding.map fun p => p.id).Nodup
  removes : ∀ p ∈ s.history.outstanding, s.manager.removePost p.id = (some (p.poster, p.reply),
    { s.manager with
      postList := (s.history.outstanding.filter fun q => q.id ≠ p.id).map Post.toUPAPostRecord })
  keeps : s.manager.postList = s.history.outstanding.map Post.toUPAPostRecord
  ignores : ∀ ackId, (∀ p ∈ s.history.outstanding, p.id ≠ ackId) →
    s.manager.removePost ackId = (none, s.manager)

end Routing

namespace Routing

variable {s : Routing P R}

structure Kept (s : Routing P R) : Prop where
  keeps : s.manager.postList = s.history.outstanding.map Post.toUPAPostRecord
  next : s.manager.nextPostId ≤ maxPostId
  cycle : s.manager.nextPostId % maxPostId = s.history.added % maxPostId
  ids : ∀ p ∈ s.history.outstanding, p.id = p.number % maxPostId
  window : ∀ p ∈ s.history.outstanding, p.number < s.history.added ∧ s.history.added ≤ p.number + maxPostId
  ordered : s.history.outstanding.Pairwise fun p q => p.number < q.number

theorem mod_ne_of_window {a b : ℕ} (h : a < b) (hw : b < a + maxPostId) :
    a % maxPostId ≠ b % maxPostId := by
  unfold maxPostId at *
  omega

theorem Kept.distinct (h : s.Kept) : (s.history.outstanding.map fun p => p.id).Nodup := by
  unfold List.Nodup
  rw [List.pairwise_map]
  refine h.ordered.imp_of_mem fun {p q} hp hq hlt => ?_
  have hwp := h.window p hp
  have hwq := h.window q hq
  rw [h.ids p hp, h.ids q hq]
  exact mod_ne_of_window hlt (by omega)

theorem Kept.routed (h : s.Kept) : s.Routed := by
  have hids : (s.manager.postList.map UPAPostRecord.id).Nodup := by
    rw [h.keeps, List.map_map]
    exact h.distinct
  refine ⟨h.distinct, ?_, h.keeps, ?_⟩
  · intro p hp
    have hmem : p.toUPAPostRecord ∈ s.manager.postList := by
      rw [h.keeps]
      exact List.mem_map_of_mem hp
    rw [UPAPostManager.removePost, UPAPostManager.searchList_some hids hmem, h.keeps, List.filter_map]
    rfl
  · intro ackId hne
    have hnone : ∀ r ∈ s.manager.postList, r.id ≠ ackId := by
      rw [h.keeps]
      intro r hr
      obtain ⟨p, hp, rfl⟩ := List.mem_map.mp hr
      exact hne p hp
    rw [UPAPostManager.removePost, UPAPostManager.searchList_none hnone]
    rfl

theorem getNextPostId_spec (h : s.Kept) : s.manager.getNextPostId.1 = s.history.added % maxPostId ∧
    s.manager.getNextPostId.2.nextPostId = s.history.added % maxPostId + 1 ∧
    s.manager.getNextPostId.2.postList = s.manager.postList := by
  have hnext := h.next
  have hcycle := h.cycle
  unfold UPAPostManager.getNextPostId
  split_ifs with hlt
  · rw [Nat.mod_eq_of_lt hlt] at hcycle
    exact ⟨hcycle, by rw [← hcycle], rfl⟩
  · have he : s.manager.nextPostId = maxPostId := by omega
    rw [he, Nat.mod_self] at hcycle
    exact ⟨hcycle, by rw [← hcycle], rfl⟩

theorem step_kept (h : s.Kept) (a : PostAction P R) (ha : s.InWindow a) : (s.step a).Kept := by
  cases a with
  | addPost poster reply =>
    obtain ⟨hid, hnext, hlist⟩ := getNextPostId_spec h
    have hmod : s.history.added % maxPostId < maxPostId := Nat.mod_lt _ (by decide)
    refine ⟨?_, ?_, ?_, ?_, ?_, ?_⟩
    · simp only [step, PostAction.call, PostHistory.record, UPAPostManager.addPost, hlist, h.keeps, List.map_append, List.map_cons, List.map_nil]
    · simp only [step, PostAction.call, PostHistory.record, UPAPostManager.addPost, hnext]
      omega
    · simp only [step, PostAction.call, PostHistory.record, UPAPostManager.addPost, hnext]
      rw [Nat.mod_add_mod]
    · intro p hp
      rcases List.mem_append.mp hp with hp | hp
      · exact h.ids p hp
      · obtain rfl := List.mem_singleton.mp hp
        exact hid
    · intro p hp
      simp only [step, PostHistory.record]
      rcases List.mem_append.mp hp with hp | hp
      · have hlt := ha p hp
        have hw := (h.window p hp).1
        omega
      · obtain rfl := List.mem_singleton.mp hp
        dsimp only
        omega
    · refine List.pairwise_append.mpr ⟨h.ordered, List.pairwise_singleton .., ?_⟩
      intro p hp q hq
      obtain rfl := List.mem_singleton.mp hq
      exact (h.window p hp).1
  | removePost ackId =>
    have hids : (s.manager.postList.map UPAPostRecord.id).Nodup := by
      rw [h.keeps, List.map_map]
      exact h.distinct
    refine ⟨?_, h.next, h.cycle, ?_, ?_, h.ordered.filter _⟩
    · simp only [step, PostAction.call, PostHistory.record, UPAPostManager.removePost]
      rw [UPAPostManager.searchList_filter hids, h.keeps, List.filter_map]
      rfl
    · exact fun p hp => h.ids p (List.mem_filter.mp hp).1
    · exact fun p hp => h.window p (List.mem_filter.mp hp).1

theorem kept_start : (start : Routing P R).Kept := by
  refine ⟨rfl, Nat.zero_le _, rfl, ?_, ?_, List.Pairwise.nil⟩ <;> intro p hp <;> cases hp

theorem posts_routed (as : List (PostAction P R)) (h : Runs.Guarded step InWindow start as) :
    Runs.Always step Routed start as := by
  have hall : Runs.Always step Kept start as :=
    h.always (fun _ a hs ha => step_kept hs a ha) kept_start
  exact hall.mono fun _ hs => hs.routed

theorem posts_routed_example : Runs.Always step Routed (start : Routing String ℕ)
    [.addPost "a" 1, .addPost "b" 2, .removePost 1, .addPost "a" 3, .removePost 0] :=
  posts_routed _ (by decide)

end Routing

end RmdsBridge.PostRouting
