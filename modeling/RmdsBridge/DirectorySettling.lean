import RmdsBridge.DirectoryDecoding

namespace RmdsBridge

def Reports (r : DecodeRet × DecodeIterator) : Prop :=
  (r.2.failed ≠ none → ∃ n, r.1 = .error n) ∧ (r.2.failed = none → r.1 = .success)

def RsslDirectory.EndsAndReports (limits : DirectoryLimits) (d : RsslDirectory) : Prop :=
  ∃ turns r, decodeSourceDirectoryResponse limits turns d {} = some r ∧ Reports r

section

variable {α : Type} (goes fails : GoodCode × α → Prop) (c : Container α)

def Container.Whole : Prop := c.error = none ∧ ∀ x ∈ c.entries, goes x

def Container.Stops : Prop :=
  ∃ before x after, c.entries = before ++ x :: after ∧ (∀ y ∈ before, goes y) ∧ fails x

end

namespace RsslFilter

def Goes (limits : DirectoryLimits) (x : GoodCode × RsslFilter) : Prop :=
  x.1 = .success → decodeService limits x.2 {} = (.success, {})

def Fails (limits : DirectoryLimits) (x : GoodCode × RsslFilter) : Prop :=
  x.1 = .success ∧ ∃ n m, decodeService limits x.2 {} = (.error n, { failed := some m })

end RsslFilter

namespace RsslService

def Goes (limits : DirectoryLimits) (x : GoodCode × RsslService) : Prop :=
  x.1 = .success → (∃ g, x.2.decoded = .ok g) ∧ x.2.filters.Whole (RsslFilter.Goes limits)

def Fails (limits : DirectoryLimits) (x : GoodCode × RsslService) : Prop :=
  x.1 = .success ∧ ((∃ n, x.2.decoded = .error n) ∨
    (∃ g, x.2.decoded = .ok g) ∧ x.2.filters.Stops (RsslFilter.Goes limits) (RsslFilter.Fails limits))

end RsslService

def RsslDirectory.Settles (limits : DirectoryLimits) (d : RsslDirectory) : Prop :=
  (∃ n, d.decoded = .error n) ∨
    (∃ g, d.decoded = .ok g) ∧ d.keyIsUInt = true ∧
      (d.services.Whole (RsslService.Goes limits) ∨
        d.services.Stops (RsslService.Goes limits) (RsslService.Fails limits))

section

variable {α : Type} {goes fails : GoodCode × α → Prop} {x : GoodCode × α} {xs : List (GoodCode × α)}
  {error : Option ℕ} {finish : DecodeRet}

theorem Container.whole_cons : (⟨x :: xs, error, finish⟩ : Container α).Whole goes ↔
    goes x ∧ (⟨xs, error, finish⟩ : Container α).Whole goes := by
  unfold Whole
  rw [List.forall_mem_cons]
  exact and_left_comm

theorem Container.not_stops_nil : ¬ (⟨[], error, finish⟩ : Container α).Stops goes fails := by
  rintro ⟨before, y, after, h, -⟩
  cases before <;> cases h

theorem Container.stops_cons : (⟨x :: xs, error, finish⟩ : Container α).Stops goes fails ↔
    fails x ∨ goes x ∧ (⟨xs, error, finish⟩ : Container α).Stops goes fails := by
  constructor
  · rintro ⟨before, y, after, h, hgoes, hfails⟩
    cases before with
    | nil =>
      obtain ⟨rfl, -⟩ := List.cons.inj h
      exact .inl hfails
    | cons z before =>
      obtain ⟨rfl, htail⟩ := List.cons.inj h
      obtain ⟨hz, hrest⟩ := List.forall_mem_cons.mp hgoes
      exact .inr ⟨hz, before, y, after, htail, hrest, hfails⟩
  · rintro (hx | ⟨hx, before, y, after, h, hgoes, hfails⟩)
    · exact ⟨[], x, xs, rfl, List.forall_mem_nil _, hx⟩
    · exact ⟨x :: before, y, after, congrArg (x :: ·) h, List.forall_mem_cons.mpr ⟨hx, hgoes⟩, hfails⟩

theorem Container.unsettled_tail (hx : goes x) (hw : ¬ (⟨x :: xs, error, finish⟩ : Container α).Whole goes)
    (hs : ¬ (⟨x :: xs, error, finish⟩ : Container α).Stops goes fails) :
    ¬ (⟨xs, error, finish⟩ : Container α).Whole goes ∧
      ¬ (⟨xs, error, finish⟩ : Container α).Stops goes fails :=
  ⟨fun h => hw (whole_cons.mpr ⟨hx, h⟩), fun h => hs (stops_cons.mpr (.inr ⟨hx, h⟩))⟩

end

namespace DecodeIterator

theorem next_failed {α : Type} {n : ℕ} (c : Container α) :
    next { failed := some n } c = (.error n, { failed := some n }) := by
  unfold next
  cases c.entries <;> rfl

end DecodeIterator

variable {limits : DirectoryLimits}

theorem filterEntries_stuck {n : ℕ} (turns : ℕ) (filters : Container RsslFilter) :
    decodeFilterEntries limits turns filters { failed := some n } = none := by
  induction turns with
  | zero => rfl
  | succ turns ih =>
    unfold decodeFilterEntries
    rw [DecodeIterator.next_failed]
    exact ih

theorem mapEntries_stuck {filterTurns n : ℕ} (turns : ℕ) (services : Container RsslService) :
    decodeMapEntries limits filterTurns turns services { failed := some n } = none := by
  induction turns with
  | zero => rfl
  | succ turns ih =>
    unfold decodeMapEntries
    rw [DecodeIterator.next_failed]
    exact ih

section

variable {turns : ℕ} {code : GoodCode} {f : RsslFilter} {fs : List (GoodCode × RsslFilter)}
  {error : Option ℕ} {finish : DecodeRet}

theorem filterEntries_skip (hc : code ≠ .success) :
    decodeFilterEntries limits (turns + 1) ⟨(code, f) :: fs, error, finish⟩ {} =
      decodeFilterEntries limits turns ⟨fs, error, finish⟩ {} := by
  cases code with
  | success => exact absurd rfl hc
  | _ => rfl

theorem filterEntries_next {it : DecodeIterator} (h : decodeService limits f {} = (.success, it)) :
    decodeFilterEntries limits (turns + 1) ⟨(.success, f) :: fs, error, finish⟩ {} =
      decodeFilterEntries limits turns ⟨fs, error, finish⟩ it := by
  simp [decodeFilterEntries, DecodeIterator.next, h]

theorem filterEntries_return {ret : DecodeRet} {it : DecodeIterator}
    (h : decodeService limits f {} = (ret, it)) (hr : ret ≠ .success) :
    decodeFilterEntries limits (turns + 1) ⟨(.success, f) :: fs, error, finish⟩ {} =
      some (.returned ret, it) := by
  simp only [decodeFilterEntries, DecodeIterator.next, h]

theorem filterEntries_goes (h : RsslFilter.Goes limits (code, f)) :
    decodeFilterEntries limits (turns + 1) ⟨(code, f) :: fs, error, finish⟩ {} =
      decodeFilterEntries limits turns ⟨fs, error, finish⟩ {} := by
  by_cases hc : code = .success
  · subst hc
    exact filterEntries_next (h rfl)
  · exact filterEntries_skip hc

theorem filterEntries_whole
    (h : (⟨fs, error, finish⟩ : Container RsslFilter).Whole (RsslFilter.Goes limits)) :
    decodeFilterEntries limits turns ⟨fs, error, finish⟩ {} =
      if fs.length < turns then some (.ended, {}) else none := by
  induction fs generalizing turns with
  | nil =>
    obtain rfl : error = none := h.1
    cases turns <;> rfl
  | cons x fs ih =>
    obtain ⟨hx, hfs⟩ := Container.whole_cons.mp h
    cases turns with
    | zero => rfl
    | succ turns =>
      rw [filterEntries_goes hx, ih hfs]
      exact if_congr Nat.succ_lt_succ_iff.symm rfl rfl

theorem filterEntries_stops (h : (⟨fs, error, finish⟩ : Container RsslFilter).Stops (RsslFilter.Goes limits)
    (RsslFilter.Fails limits)) :
    ∃ n m, ∀ turns, fs.length < turns → decodeFilterEntries limits turns ⟨fs, error, finish⟩ {} =
      some (.returned (.error n), { failed := some m }) := by
  induction fs with
  | nil => exact absurd h Container.not_stops_nil
  | cons x fs ih =>
    rcases Container.stops_cons.mp h with ⟨hc, n, m, hx⟩ | ⟨hx, hfs⟩
    · obtain ⟨code, f⟩ := x
      obtain rfl : code = .success := hc
      refine ⟨n, m, fun turns ht => ?_⟩
      obtain ⟨turns, rfl⟩ := Nat.exists_eq_succ_of_ne_zero (Nat.ne_zero_of_lt ht)
      exact filterEntries_return hx (by simp)
    · obtain ⟨n, m, hrest⟩ := ih hfs
      refine ⟨n, m, fun turns ht => ?_⟩
      obtain ⟨turns, rfl⟩ := Nat.exists_eq_succ_of_ne_zero (Nat.ne_zero_of_lt ht)
      rw [filterEntries_goes hx]
      exact hrest turns (Nat.lt_of_succ_lt_succ ht)

theorem decodeService_other (hgoes : ¬ RsslFilter.Goes limits (code, f))
    (hfails : ¬ RsslFilter.Fails limits (code, f)) :
    code = .success ∧ ((∃ n, decodeService limits f {} = (.success, { failed := some n })) ∨
      ∃ ret it, decodeService limits f {} = (ret, it) ∧ ret ≠ .success ∧ ¬ Reports (ret, it)) := by
  obtain ⟨hc, hd⟩ := Classical.not_imp.mp hgoes
  refine ⟨hc, ?_⟩
  rcases hr : decodeService limits f {} with ⟨ret, ⟨failed⟩⟩
  rw [hr] at hd
  by_cases hret : ret = .success
  · subst hret
    cases failed with
    | none => exact absurd rfl hd
    | some n => exact .inl ⟨n, rfl⟩
  · refine .inr ⟨ret, _, rfl, hret, fun hreports => ?_⟩
    cases failed with
    | none => exact hret (hreports.2 rfl)
    | some m =>
      obtain ⟨n, rfl⟩ := hreports.1 (Option.some_ne_none m)
      exact hfails ⟨hc, n, m, hr⟩

theorem filterEntries_other
    (hw : ¬ (⟨fs, error, finish⟩ : Container RsslFilter).Whole (RsslFilter.Goes limits))
    (hs : ¬ (⟨fs, error, finish⟩ : Container RsslFilter).Stops (RsslFilter.Goes limits)
      (RsslFilter.Fails limits)) :
    decodeFilterEntries limits turns ⟨fs, error, finish⟩ {} = none ∨
      ∃ ret it, decodeFilterEntries limits turns ⟨fs, error, finish⟩ {} = some (.returned ret, it) ∧
        ¬ Reports (ret, it) := by
  induction fs generalizing turns with
  | nil =>
    left
    cases turns with
    | zero => rfl
    | succ turns =>
      cases error with
      | none => exact absurd ⟨rfl, List.forall_mem_nil _⟩ hw
      | some n => exact filterEntries_stuck turns _
  | cons x fs ih =>
    cases turns with
    | zero => exact .inl rfl
    | succ turns =>
      by_cases hx : RsslFilter.Goes limits x
      · obtain ⟨hw', hs'⟩ := Container.unsettled_tail hx hw hs
        rw [filterEntries_goes hx]
        exact ih hw' hs'
      · obtain ⟨code, f⟩ := x
        obtain ⟨rfl, hother⟩ := decodeService_other hx fun h => hs (Container.stops_cons.mpr (.inl h))
        rcases hother with ⟨n, hr⟩ | ⟨ret, it, hr, hret, hreports⟩
        · left
          rw [filterEntries_next hr]
          exact filterEntries_stuck turns _
        · exact .inr ⟨ret, it, filterEntries_return hr hret, hreports⟩

end

end RmdsBridge
