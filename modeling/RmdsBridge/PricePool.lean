import RmdsBridge.BookByPrice
import RmdsBridge.Runs

namespace RmdsBridge.UPABookByPriceMessage

variable {D : Type} (f : RsslReal → D)

def cycle (b : UPABookByPriceMessage D) (es : List UPABookEntry) :
    PriceBookMsg D × UPABookByPriceMessage D :=
  (es.foldl addEntry b.startUpdate).buildMamdaMessage f

def pooled (b : UPABookByPriceMessage D) (es : List UPABookEntry) : UPABookByPriceMessage D :=
  (b.cycle f es).2

def rendered (history : List (List UPABookEntry)) (last : List UPABookEntry) : List (PriceLevelMsg D) :=
  ((Runs.run (pooled f) {} history).cycle f last).1.wPriceLevels

def fresh (es : List UPABookEntry) : List (PriceLevelMsg D) := es.map (levelMsg f none)

def Covers (has : UPABookEntry → Bool) (history : List (List UPABookEntry)) (last : List UPABookEntry) :
    Prop :=
  ∀ es ∈ history, ∀ i : ℕ, ∀ e ∈ last[i]?, ∀ e' ∈ es[i]?, has e' = true → has e = true

def Covered (history : List (List UPABookEntry)) (last : List UPABookEntry) : Prop :=
  Covers UPABookEntry.haveOrderTone history last ∧ Covers UPABookEntry.haveMmid history last

variable {f} {b : UPABookByPriceMessage D}

theorem foldl_addEntry (b : UPABookByPriceMessage D) (es : List UPABookEntry) :
    es.foldl addEntry b = { b with entries := b.entries ++ es } := by
  induction es generalizing b with
  | nil => rw [List.foldl_nil, List.append_nil]
  | cons e es ih =>
    rw [List.foldl_cons, ih]
    simp only [addEntry, List.append_assoc, List.singleton_append]

theorem cycle_levels (b : UPABookByPriceMessage D) (es : List UPABookEntry) :
    (b.cycle f es).1.wPriceLevels = es.mapIdx fun i e => levelMsg f b.levelMsgs[i]? e := by
  unfold cycle
  rw [foldl_addEntry]
  rfl

theorem pooled_slot (b : UPABookByPriceMessage D) (es : List UPABookEntry) (i : ℕ) :
    (b.pooled f es).levelMsgs[i]? =
      (es[i]?.map fun e => levelMsg f b.levelMsgs[i]? e).or b.levelMsgs[i]? := by
  unfold pooled cycle
  rw [foldl_addEntry]
  simp only [buildMamdaMessage, startUpdate, List.nil_append, List.length_mapIdx]
  by_cases hi : i < es.length
  · rw [List.getElem?_append_left (by rwa [List.length_mapIdx]), List.getElem?_mapIdx]
    simp [List.getElem?_eq_getElem hi]
  · rw [List.getElem?_append_right (by rw [List.length_mapIdx]; omega), List.length_mapIdx,
      List.getElem?_drop, List.getElem?_eq_none (l := es) (by omega)]
    simp only [Option.map_none, Option.none_or]
    congr 1
    omega

theorem levelMsg_eq_fresh {old : Option (PriceLevelMsg D)} {e : UPABookEntry} :
    levelMsg f old e = levelMsg f none e ↔
      (((old.bind PriceLevelMsg.orderTone).isSome = true → e.haveOrderTone = true) ∧
        ((old.bind PriceLevelMsg.wPartId).isSome = true → e.haveMmid = true)) := by
  have hfield (has : Bool) (new : String) (kept : Option String) :
      (if has then some new else kept) = (if has then some new else none) ↔
        (kept.isSome = true → has = true) := by
    cases has <;> cases kept <;> simp
  rw [← hfield e.haveOrderTone e.orderTone, ← hfield e.haveMmid e.mmid]
  unfold levelMsg
  rw [PriceLevelMsg.mk.injEq]
  simp only [Option.bind_none, and_true]

section Field

/-! A field of the level message that is set only where the entry has it -/

variable (has : UPABookEntry → Bool) (value : UPABookEntry → String)
  (field : PriceLevelMsg D → Option String)
  (hfield : ∀ old e, field (levelMsg f old e) = if has e then some (value e) else old.bind field)
include hfield

theorem slot_field (history : List (List UPABookEntry)) (i : ℕ) :
    ((Runs.run (pooled f) {} history).levelMsgs[i]?.bind field).isSome = true ↔
      ∃ es ∈ history, ∃ e ∈ es[i]?, has e = true := by
  induction history using List.reverseRecOn with
  | nil => simp [Runs.run]
  | append_singleton history es ih =>
    rw [Runs.run_append, Runs.run_cons, Runs.run_nil, pooled_slot]
    simp only [List.mem_append, List.mem_singleton, or_and_right, exists_or, exists_eq_left, ← ih]
    cases hes : es[i]? with
    | none => simp
    | some e =>
      simp only [Option.map_some, Option.some_or, Option.bind_some, hfield]
      cases hhas : has e <;> simp [hhas]

theorem covers_iff (history : List (List UPABookEntry)) (last : List UPABookEntry) :
    (∀ i : ℕ, ∀ e ∈ last[i]?,
      ((Runs.run (pooled f) {} history).levelMsgs[i]?.bind field).isSome = true → has e = true) ↔
        Covers has history last := by
  simp only [slot_field has value field hfield]
  constructor
  · intro h es hes i e he e' he' hhas
    exact h i e he ⟨es, hes, e', he', hhas⟩
  · rintro h i e he ⟨es, hes, e', he', hhas⟩
    exact h es hes i e he e' he' hhas

end Field

theorem rendered_eq_fresh_iff (history : List (List UPABookEntry)) (last : List UPABookEntry) :
    rendered f history last = fresh f last ↔ Covered history last := by
  let slot (i : ℕ) := (Runs.run (pooled f) {} history).levelMsgs[i]?
  have hslots : rendered f history last = fresh f last ↔
      ∀ i : ℕ, ∀ e ∈ last[i]?, levelMsg f (slot i) e = levelMsg f none e := by
    rw [rendered, cycle_levels, fresh, List.ext_getElem?_iff]
    refine forall_congr' fun i => ?_
    rw [List.getElem?_mapIdx, List.getElem?_map]
    cases last[i]? <;> simp [slot]
  rw [hslots, Covered, ← covers_iff (f := f) _ UPABookEntry.orderTone PriceLevelMsg.orderTone fun _ _ => rfl,
    ← covers_iff (f := f) _ UPABookEntry.mmid PriceLevelMsg.wPartId fun _ _ => rfl]
  simp only [levelMsg_eq_fresh]
  constructor
  · intro h
    exact ⟨fun i e he => (h i e he).1, fun i e he => (h i e he).2⟩
  · rintro ⟨htone, hmmid⟩ i e he
    exact ⟨htone i e he, hmmid i e he⟩

def toned : UPABookEntry := { actionCode := 'A', sideCode := 'B', haveOrderTone := true, orderTone := "C" }

def plain : UPABookEntry := { actionCode := 'A', sideCode := 'B' }

/-- An entry without an order tone is rendered with the one of the entry before it. -/
theorem tone_remembered : ¬ ∀ (h₁ h₂ : List (List UPABookEntry)) (last : List UPABookEntry),
    rendered (fun x : RsslReal => x.value) h₁ last = rendered (fun x : RsslReal => x.value) h₂ last ∧
      rendered (fun x : RsslReal => x.value) h₁ last = fresh (fun x : RsslReal => x.value) last := by
  intro h
  exact absurd (h [[toned]] [] [plain]).1 (by decide)

theorem pool_forgets_iff (f : RsslReal → D) (h₁ h₂ : List (List UPABookEntry))
    (last : List UPABookEntry) :
    (rendered f h₁ last = rendered f h₂ last ∧ rendered f h₁ last = fresh f last) ↔
      Covered h₁ last ∧ Covered h₂ last := by
  rw [← rendered_eq_fresh_iff (f := f), ← rendered_eq_fresh_iff (f := f)]
  constructor
  · rintro ⟨hsame, hfresh⟩
    exact ⟨hfresh, hsame.symm.trans hfresh⟩
  · rintro ⟨hfresh, hfresh'⟩
    exact ⟨hfresh.trans hfresh'.symm, hfresh⟩

end RmdsBridge.UPABookByPriceMessage
