import RmdsBridge.Runs

namespace RmdsBridge

/-- The fields stand in the order of the hash map; `current = fields.length` is its end. -/
structure UpaPayloadFieldIterator (F : Type) where
  fields : List F
  current : ℕ
  mamaBegin : Bool
  deriving DecidableEq, Repr

namespace UpaPayloadFieldIterator

variable {F : Type}

/-- The constructor does the same. -/
def associate (payload : List F) : UpaPayloadFieldIterator F := ⟨payload, 0, true⟩

variable (it : UpaPayloadFieldIterator F)

def next : Option F × UpaPayloadFieldIterator F :=
  if it.current = it.fields.length then (none, it)
  else if it.mamaBegin then (it.fields[0]?, { it with mamaBegin := false })
  else (it.fields[it.current + 1]?, { it with current := it.current + 1 })

/-- `none` steps past the end of the map. -/
def hasNext : Option Bool :=
  if it.current = it.fields.length then none
  else some (decide (it.current + 1 ≠ it.fields.length))

/-- `none` reads the first field of an empty payload. -/
def begin : Option (F × UpaPayloadFieldIterator F) :=
  it.fields[0]?.map fun f => (f, { it with mamaBegin := true })

def nextAfter (it : UpaPayloadFieldIterator F) : ℕ → Option F
  | 0 => it.next.1
  | k + 1 => it.next.2.nextAfter k

variable {it}

theorem nextAfter_of_end (h : it.current = it.fields.length) (k : ℕ) : it.nextAfter k = none := by
  induction k with
  | zero => simp [nextAfter, next, h]
  | succ k ih => simpa [nextAfter, next, h] using ih

theorem nextAfter_of_begun {fields : List F} {current : ℕ} (h : current ≤ fields.length) (k : ℕ) :
    nextAfter ⟨fields, current, false⟩ k = fields[current + 1 + k]? := by
  induction k generalizing current with
  | zero =>
    by_cases he : current = fields.length
    · simp [nextAfter, next, he]
    · simp [nextAfter, next, he]
  | succ k ih =>
    by_cases he : current = fields.length
    · rw [nextAfter_of_end he, List.getElem?_eq_none (by omega)]
    · have hn : (next ⟨fields, current, false⟩).2 = ⟨fields, current + 1, false⟩ := by simp [next, he]
      have hlt : current + 1 ≤ fields.length := by omega
      rw [nextAfter, hn, ih hlt]
      congr 1
      omega

theorem nextAfter_of_mamaBegin {fields : List F} {current : ℕ} (h : current < fields.length) (k : ℕ) :
    nextAfter ⟨fields, current, true⟩ (k + 1) = fields[current + 1 + k]? := by
  have hn : (next ⟨fields, current, true⟩).2 = ⟨fields, current, false⟩ := by
    simp [next, Nat.ne_of_lt h]
  rw [nextAfter, hn, nextAfter_of_begun (Nat.le_of_lt h)]

theorem begin_eq (h : 0 < it.fields.length) :
    ∃ f, it.begin = some (f, { it with mamaBegin := true }) := by
  refine ⟨it.fields[0], ?_⟩
  simp [begin, h]

theorem nextAfter_associate (payload : List F) (k : ℕ) : (associate payload).nextAfter k = payload[k]? := by
  cases payload with
  | nil => rw [nextAfter_of_end rfl, List.getElem?_nil]
  | cons f fs =>
    cases k with
    | zero => simp [nextAfter, next, associate]
    | succ k =>
      rw [associate, nextAfter_of_mamaBegin (by simp)]
      simp [Nat.add_comm]

end UpaPayloadFieldIterator

inductive IteratorCall (F : Type)
  | create (payload : List F)
  | associate (payload : List F)
  | begin
  | next
  | hasNext

inductive Iteration (F : Type)
  | notCreated
  | pass (it : UpaPayloadFieldIterator F) (remaining : List F)
  | undefined

namespace Iteration

variable {F : Type}

def fresh (payload : List F) : Iteration F := .pass (.associate payload) payload

def step : Iteration F → IteratorCall F → Iteration F
  | .undefined, _ => .undefined
  | .notCreated, .create payload => fresh payload
  | .notCreated, _ => .notCreated
  | .pass _ _, .create payload | .pass _ _, .associate payload => fresh payload
  | .pass it _, .begin =>
    match it.begin with
    | some (_, it) => .pass it it.fields
    | none => .undefined
  | .pass it remaining, .next => .pass it.next.2 remaining.tail
  | .pass it remaining, .hasNext =>
    match it.hasNext with
    | some _ => .pass it remaining
    | none => .undefined

def Honest : Iteration F → Prop
  | .notCreated => True
  | .pass it remaining =>
    (∀ k, it.nextAfter k = remaining[k]?) ∧ it.hasNext = some it.next.1.isSome
  | .undefined => False

def Admissible : Iteration F → IteratorCall F → Prop
  | .notCreated, .create payload => 2 ≤ payload.length
  | .pass _ _, .create payload | .pass _ _, .associate payload => 2 ≤ payload.length
  | .pass it _, .begin => it.current = 0
  | .pass it _, .next => it.mamaBegin = true ∨ it.current + 1 < it.fields.length
  | _, _ => True

def Underway : Iteration F → Prop
  | .notCreated => True
  | .pass it remaining => 2 ≤ it.fields.length ∧ it.current < it.fields.length ∧
      (it.mamaBegin = true ∧ it.current = 0 ∧ remaining = it.fields ∨
        it.mamaBegin = false ∧ remaining = it.fields.drop (it.current + 1))
  | .undefined => False

theorem fresh_underway {payload : List F} (h : 2 ≤ payload.length) : (fresh payload).Underway := by
  refine ⟨h, ?_, Or.inl ⟨rfl, rfl, rfl⟩⟩
  simp only [UpaPayloadFieldIterator.associate]
  omega

theorem fresh_not_honest {payload : List F} (h : ¬ 2 ≤ payload.length) : ¬ (fresh payload).Honest := by
  rintro ⟨-, hn⟩
  match payload with
  | [] => simp [UpaPayloadFieldIterator.associate, UpaPayloadFieldIterator.hasNext] at hn
  | [f] =>
    simp [UpaPayloadFieldIterator.associate, UpaPayloadFieldIterator.hasNext,
      UpaPayloadFieldIterator.next] at hn
  | _ :: _ :: _ => simp at h

theorem Underway.honest {s : Iteration F} (h : s.Underway) : s.Honest := by
  cases s with
  | notCreated => trivial
  | undefined => exact h
  | pass it remaining =>
    obtain ⟨fields, current, mamaBegin⟩ := it
    obtain ⟨h2, hlt, hr⟩ := h
    simp only at h2 hlt hr
    obtain ⟨rfl, rfl, hr⟩ | ⟨rfl, rfl⟩ := hr
    · rw [hr]
      refine ⟨UpaPayloadFieldIterator.nextAfter_associate fields, ?_⟩
      have h1 : 1 ≠ fields.length := by omega
      simp [UpaPayloadFieldIterator.hasNext, UpaPayloadFieldIterator.next, Nat.ne_of_lt hlt, h1, hlt]
    · refine ⟨fun k => ?_, ?_⟩
      · rw [UpaPayloadFieldIterator.nextAfter_of_begun (Nat.le_of_lt hlt), List.getElem?_drop]
      · simp only [UpaPayloadFieldIterator.hasNext, UpaPayloadFieldIterator.next, Nat.ne_of_lt hlt,
          if_false, Bool.false_eq_true, Option.some.injEq]
        have hs : fields[current + 1]?.isSome = true ↔ current + 1 < fields.length := by simp
        rw [Bool.eq_iff_iff, decide_eq_true_iff, hs]
        omega

theorem Underway.step {s : Iteration F} {c : IteratorCall F} (h : s.Underway) (hc : Admissible s c) :
    (s.step c).Underway := by
  cases s with
  | undefined => exact h.elim
  | notCreated =>
    cases c with
    | create payload => exact fresh_underway hc
    | _ => trivial
  | pass it remaining =>
    obtain ⟨h2, hlt, hr⟩ := h
    cases c with
    | create payload => exact fresh_underway hc
    | associate payload => exact fresh_underway hc
    | hasNext =>
      simp only [Iteration.step, UpaPayloadFieldIterator.hasNext, Nat.ne_of_lt hlt, if_false]
      exact ⟨h2, hlt, hr⟩
    | begin =>
      obtain ⟨f, hf⟩ := it.begin_eq (by omega)
      simp only [Iteration.step, hf]
      exact ⟨h2, hlt, Or.inl ⟨rfl, hc, rfl⟩⟩
    | next =>
      simp only [Iteration.step, UpaPayloadFieldIterator.next, Nat.ne_of_lt hlt, if_false]
      obtain ⟨hb, h0, rfl⟩ | ⟨hb, rfl⟩ := hr
      · simp only [hb, if_true]
        exact ⟨h2, hlt, Or.inr ⟨rfl, by simp [h0]⟩⟩
      · have hlt' : it.current + 1 < it.fields.length := hc.resolve_left (by simp [hb])
        simp only [hb, Bool.false_eq_true, if_false]
        exact ⟨h2, hlt', Or.inr ⟨rfl, List.tail_drop⟩⟩

theorem Underway.step_not_honest {s : Iteration F} {c : IteratorCall F} (h : s.Underway)
    (hc : ¬ Admissible s c) : ¬ (s.step c).Honest := by
  cases s with
  | undefined => exact h.elim
  | notCreated =>
    cases c with
    | create payload => exact fresh_not_honest hc
    | _ => exact absurd trivial hc
  | pass it remaining =>
    obtain ⟨h2, hlt, hr⟩ := h
    cases c with
    | create payload => exact fresh_not_honest hc
    | associate payload => exact fresh_not_honest hc
    | hasNext => exact absurd trivial hc
    | begin =>
      -- the pass resumes after the current field, so that the last of its calls finds none
      obtain ⟨f, hf⟩ := it.begin_eq (by omega)
      simp only [Iteration.step, hf]
      rintro ⟨hn, -⟩
      have h0 : it.current ≠ 0 := hc
      have hlast := hn (it.fields.length - 2 + 1)
      rw [UpaPayloadFieldIterator.nextAfter_of_mamaBegin hlt,
        List.getElem?_eq_none (by omega)] at hlast
      have := List.getElem?_eq_none_iff.mp hlast.symm
      omega
    | next =>
      simp only [Admissible, not_or, Bool.not_eq_true, Nat.not_lt] at hc
      have hend : it.current + 1 = it.fields.length := by omega
      simp only [Iteration.step, UpaPayloadFieldIterator.next, Nat.ne_of_lt hlt, hc.1, if_false,
        Bool.false_eq_true]
      rintro ⟨-, hn⟩
      simp [UpaPayloadFieldIterator.hasNext, hend] at hn

end Iteration

theorem iterator_honest_iff {F : Type} (cs : List (IteratorCall F)) :
    Runs.Always Iteration.step Iteration.Honest .notCreated cs ↔
      Runs.Guarded Iteration.step Iteration.Admissible .notCreated cs :=
  Runs.always_iff_guarded (I := Iteration.Underway) (fun _ => Iteration.Underway.honest)
    (fun _ _ => Iteration.Underway.step) (fun _ _ => Iteration.Underway.step_not_honest) trivial

/-- A pass over three fields, begun again after the second, does not return the second again. -/
theorem restarted_pass_dishonest : ¬ ∀ cs : List (IteratorCall ℕ),
    Runs.Always Iteration.step Iteration.Honest .notCreated cs := by
  intro h
  have hs := (h [.create [10, 20, 30], .next, .next, .begin]).2.2.2.2.1
  exact absurd (hs 1) (by decide)

end RmdsBridge
