import RmdsBridge.DirectorySettling

namespace RmdsBridge

variable {limits : DirectoryLimits}

section

variable {filterTurns turns : ℕ} {code : GoodCode} {s : RsslService} {ss : List (GoodCode × RsslService)}
  {error : Option ℕ} {finish : DecodeRet}

theorem mapEntries_goes (h : RsslService.Goes limits (code, s))
    (ht : s.filters.entries.length < filterTurns) :
    decodeMapEntries limits filterTurns (turns + 1) ⟨(code, s) :: ss, error, finish⟩ {} =
      decodeMapEntries limits filterTurns turns ⟨ss, error, finish⟩ {} := by
  by_cases hc : code = .success
  · obtain ⟨⟨g, hg⟩, hw⟩ := h hc
    subst hc
    rw [mapEntries_decoded hg, filterEntries_whole hw, if_pos ht]
  · exact mapEntries_skip hc

theorem mapEntries_whole
    (h : (⟨ss, error, finish⟩ : Container RsslService).Whole (RsslService.Goes limits)) :
    ∃ most, ∀ filterTurns turns, most < filterTurns → ss.length < turns →
      decodeMapEntries limits filterTurns turns ⟨ss, error, finish⟩ {} = some (.success, {}) := by
  induction ss with
  | nil =>
    obtain rfl : error = none := h.1
    refine ⟨0, fun filterTurns turns _ ht => ?_⟩
    obtain ⟨turns, rfl⟩ := Nat.exists_eq_succ_of_ne_zero (Nat.ne_zero_of_lt ht)
    rfl
  | cons x ss ih =>
    obtain ⟨hx, hss⟩ := Container.whole_cons.mp h
    obtain ⟨most, hmost⟩ := ih hss
    refine ⟨max x.2.filters.entries.length most, fun filterTurns turns hf ht => ?_⟩
    obtain ⟨turns, rfl⟩ := Nat.exists_eq_succ_of_ne_zero (Nat.ne_zero_of_lt ht)
    rw [mapEntries_goes hx (by omega)]
    exact hmost _ _ (by omega) (Nat.lt_of_succ_lt_succ ht)

theorem mapEntries_stops
    (h : (⟨ss, error, finish⟩ : Container RsslService).Stops (RsslService.Goes limits)
      (RsslService.Fails limits)) :
    ∃ most n m, ∀ filterTurns turns, most < filterTurns → ss.length < turns →
      decodeMapEntries limits filterTurns turns ⟨ss, error, finish⟩ {} =
        some (.error n, { failed := some m }) := by
  induction ss with
  | nil => exact absurd h Container.not_stops_nil
  | cons x ss ih =>
    rcases Container.stops_cons.mp h with ⟨hc, hx⟩ | ⟨hx, hss⟩
    · obtain ⟨code, s⟩ := x
      obtain rfl : code = .success := hc
      rcases hx with ⟨n, hn⟩ | ⟨⟨g, hg⟩, hstops⟩
      · refine ⟨0, n, n, fun filterTurns turns _ ht => ?_⟩
        obtain ⟨turns, rfl⟩ := Nat.exists_eq_succ_of_ne_zero (Nat.ne_zero_of_lt ht)
        exact mapEntries_error hn
      · obtain ⟨n, m, hf⟩ := filterEntries_stops hstops
        refine ⟨s.filters.entries.length, n, m, fun filterTurns turns hft ht => ?_⟩
        obtain ⟨turns, rfl⟩ := Nat.exists_eq_succ_of_ne_zero (Nat.ne_zero_of_lt ht)
        rw [mapEntries_decoded hg, hf filterTurns hft]
    · obtain ⟨most, n, m, hrest⟩ := ih hss
      refine ⟨max x.2.filters.entries.length most, n, m, fun filterTurns turns hf ht => ?_⟩
      obtain ⟨turns, rfl⟩ := Nat.exists_eq_succ_of_ne_zero (Nat.ne_zero_of_lt ht)
      rw [mapEntries_goes hx (by omega)]
      exact hrest _ _ (by omega) (Nat.lt_of_succ_lt_succ ht)

theorem mapEntries_other
    (hw : ¬ (⟨ss, error, finish⟩ : Container RsslService).Whole (RsslService.Goes limits))
    (hs : ¬ (⟨ss, error, finish⟩ : Container RsslService).Stops (RsslService.Goes limits)
      (RsslService.Fails limits)) {r : DecodeRet × DecodeIterator}
    (hr : decodeMapEntries limits filterTurns turns ⟨ss, error, finish⟩ {} = some r) : ¬ Reports r := by
  induction ss generalizing turns with
  | nil =>
    cases turns with
    | zero => cases hr
    | succ turns =>
      cases error with
      | none => exact absurd ⟨rfl, List.forall_mem_nil _⟩ hw
      | some n =>
        rw [decodeMapEntries] at hr
        cases (mapEntries_stuck turns _).symm.trans hr
  | cons x ss ih =>
    obtain ⟨code, s⟩ := x
    cases turns with
    | zero => cases hr
    | succ turns =>
      have htail (hx : RsslService.Goes limits (code, s))
          (h : decodeMapEntries limits filterTurns turns ⟨ss, error, finish⟩ {} = some r) : ¬ Reports r := by
        obtain ⟨hw', hs'⟩ := Container.unsettled_tail hx hw hs
        exact ih hw' hs' h
      by_cases hc : code = .success
      · subst hc
        cases hdec : s.decoded with
        | error n => exact absurd (Container.stops_cons.mpr (.inl ⟨rfl, .inl ⟨n, hdec⟩⟩)) hs
        | ok g =>
          rw [mapEntries_decoded hdec] at hr
          by_cases hwf : s.filters.Whole (RsslFilter.Goes limits)
          · rw [filterEntries_whole hwf] at hr
            split_ifs at hr
            exact htail (fun _ => ⟨⟨g, hdec⟩, hwf⟩) hr
          · have hsf : ¬ s.filters.Stops (RsslFilter.Goes limits) (RsslFilter.Fails limits) := fun h =>
              hs (Container.stops_cons.mpr (.inl ⟨rfl, .inr ⟨⟨g, hdec⟩, h⟩⟩))
            rcases filterEntries_other hwf hsf with hnone | ⟨ret, it, hsome, hret⟩
            · rw [hnone] at hr
              cases hr
            · rw [hsome] at hr
              cases hr
              exact hret
      · rw [mapEntries_skip hc] at hr
        exact htail (fun h => absurd h hc) hr

end

theorem reports_error (n m : ℕ) : Reports (.error n, { failed := some m }) :=
  ⟨fun _ => ⟨n, rfl⟩, fun h => by cases h⟩

theorem services_settle_iff {services : Container RsslService} :
    (∃ turns r, decodeMapEntries limits turns turns services {} = some r ∧ Reports r) ↔
      services.Whole (RsslService.Goes limits) ∨
        services.Stops (RsslService.Goes limits) (RsslService.Fails limits) := by
  constructor
  · rintro ⟨turns, r, hr, hreports⟩
    by_contra hn
    obtain ⟨hw, hs⟩ := not_or.mp hn
    exact mapEntries_other hw hs hr hreports
  · rintro (h | h)
    · obtain ⟨most, hmost⟩ := mapEntries_whole h
      refine ⟨max most services.entries.length + 1, _, hmost _ _ (by omega) (by omega), ?_⟩
      exact ⟨fun hf => absurd rfl hf, fun _ => rfl⟩
    · obtain ⟨most, n, m, hmost⟩ := mapEntries_stops h
      exact ⟨max most services.entries.length + 1, _, hmost _ _ (by omega) (by omega), reports_error n m⟩

theorem decoding_reports_iff (limits : DirectoryLimits) (d : RsslDirectory) :
    d.EndsAndReports limits ↔ d.Settles limits := by
  unfold RsslDirectory.EndsAndReports RsslDirectory.Settles decodeSourceDirectoryResponse
  cases hdec : d.decoded with
  | error n => exact iff_of_true ⟨0, _, rfl, reports_error n n⟩ (.inl ⟨n, rfl⟩)
  | ok g =>
    cases hkey : d.keyIsUInt with
    | false =>
      refine iff_of_false ?_ ?_
      · rintro ⟨turns, r, hr, hreports⟩
        cases hr
        cases hreports.2 rfl
      · rintro (⟨n, hn⟩ | ⟨-, hk, -⟩)
        · cases hn
        · cases hk
    | true =>
      refine services_settle_iff.trans ⟨fun h => .inr ⟨⟨g, rfl⟩, rfl, h⟩, ?_⟩
      rintro (⟨n, hn⟩ | ⟨-, -, h⟩)
      · cases hn
      · exact h

def truncated : RsslDirectory := ⟨.success, true, ⟨[], some 1, .success⟩⟩

/-- The error of the first map entry is asked for again and again. -/
theorem truncated_not_reported : ¬ ∀ (limits : DirectoryLimits) (d : RsslDirectory),
    d.EndsAndReports limits := by
  intro h
  obtain ⟨turns, r, hr, -⟩ := h ⟨1, 1, 1, 1⟩ truncated
  have hstuck : decodeSourceDirectoryResponse ⟨1, 1, 1, 1⟩ turns truncated {} = none := by
    cases turns with
    | zero => rfl
    | succ turns => exact mapEntries_stuck turns _
  cases hstuck.symm.trans hr

end RmdsBridge
