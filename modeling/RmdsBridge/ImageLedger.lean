import Mathlib.Data.List.ModifyLast
import Mathlib.Data.Nat.Notation
import Mathlib.Tactic.SplitIfs

namespace RmdsBridge

variable {L : Type}

/-- `images` are those that the requester has received for the request. -/
structure ImageRequest (L : Type) where
  requester : L
  images : ℕ := 0

/-- The requests of a run: those that wait in the queue, those that were sent and not answered, and those
of which nothing more comes; `disturbed` had an image and received one for another's request. -/
structure ImageLedger (L : Type) where
  requested : List L := []
  requestQueue : List (ImageRequest L) := []
  unanswered : List (ImageRequest L) := []
  settled : List (ImageRequest L) := []
  disturbed : List L := []

namespace ImageLedger

def make (b : ImageLedger L) (l : L) : ImageLedger L :=
  { b with requested := b.requested ++ [l], requestQueue := b.requestQueue ++ [{ requester := l }] }

def dispatch (b : ImageLedger L) (sent : Bool) : ImageLedger L :=
  match b.requestQueue with
  | [] => b
  | r :: rs =>
    if sent then { b with requestQueue := rs, unanswered := b.unanswered ++ [r] }
    else { b with requestQueue := rs, settled := b.settled ++ [r] }

/-- The latest request is the one that a refresh which nobody has asked for is taken to answer. -/
def credit (b : ImageLedger L) (images : L → ℕ) : ImageLedger L :=
  let add (r : ImageRequest L) := { r with images := r.images + images r.requester }
  if b.requestQueue = [] then { b with unanswered := b.unanswered.modifyLast add }
  else { b with requestQueue := b.requestQueue.modifyLast add }

/-- The feed answers the requests in the order in which they were sent. -/
def answer (b : ImageLedger L) (images : L → ℕ) (disturbed : L → List L) : ImageLedger L :=
  match b.unanswered with
  | [] => b
  | r :: rs =>
    { b with
      unanswered := rs
      settled := b.settled ++ [{ r with images := r.images + images r.requester }]
      disturbed := b.disturbed ++ disturbed r.requester }

def all (b : ImageLedger L) : List (ImageRequest L) := b.settled ++ b.unanswered ++ b.requestQueue

/-- No request is lost from the books; each that is settled has had one image and disturbed nobody. -/
structure Served (b : ImageLedger L) : Prop where
  accounted : (b.all.map ImageRequest.requester).Perm b.requested
  images : ∀ r ∈ b.settled, r.images = 1
  undisturbed : b.disturbed = []

variable {b : ImageLedger L}

theorem requester_modifyLast (rs : List (ImageRequest L)) (f : ImageRequest L → ImageRequest L)
    (hf : ∀ r, (f r).requester = r.requester) :
    (rs.modifyLast f).map ImageRequest.requester = rs.map ImageRequest.requester := by
  rcases rs.eq_nil_or_concat with rfl | ⟨rs, r, rfl⟩
  · rfl
  · rw [List.concat_eq_append, List.modifyLast_concat]
    simp [hf]

theorem Served.make (h : b.Served) (l : L) : (b.make l).Served where
  accounted := by
    have hall : (b.make l).all = b.all ++ [{ requester := l }] := (List.append_assoc ..).symm
    rw [hall, List.map_append]
    exact h.accounted.append_right [l]
  images := h.images
  undisturbed := h.undisturbed

theorem Served.credit (h : b.Served) (images : L → ℕ) : (b.credit images).Served := by
  unfold ImageLedger.credit
  dsimp only
  split_ifs
  · refine ⟨?_, h.images, h.undisturbed⟩
    simp only [all, List.map_append, requester_modifyLast, implies_true]
    simpa only [all, List.map_append] using h.accounted
  · refine ⟨?_, h.images, h.undisturbed⟩
    simp only [all, List.map_append, requester_modifyLast, implies_true]
    simpa only [all, List.map_append] using h.accounted

end ImageLedger

end RmdsBridge
