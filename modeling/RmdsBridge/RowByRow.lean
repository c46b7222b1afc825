import RmdsBridge.FieldMapRows

namespace RmdsBridge

open FieldTypes TextTokens

section Maps

variable {m m' : FieldMap UpaAsMamaFieldTypeEnum} {key : RsslFieldId} {f : MamaField UpaAsMamaFieldTypeEnum}

theorem FieldMap.Adds.fieldAt (h : m.Adds m' key f) (key' : RsslFieldId) :
    m'.fieldAt key' = if key' = key then f else m.fieldAt key' := by
  unfold FieldMap.fieldAt
  rw [h.find]
  split <;> rfl

theorem FieldMap.Adds.rmdsFid (h : m.Adds m' key f) (n : MamaFid) :
    m'.getRMDSFidFromMAMAFid n = if n = f.mamaFid then key else m.getRMDSFidFromMAMAFid n := by
  unfold FieldMap.getRMDSFidFromMAMAFid
  rw [h.back, UnorderedMap.find_insert]
  split <;> rfl

theorem FieldMap.Adds.sameMaps_iff (h : m.Adds m' key f) :
    SameMaps m m' ↔ m.fieldAt key = f ∧ m.getRMDSFidFromMAMAFid f.mamaFid = key := by
  constructor
  · intro hs
    have hfield := hs.fields key
    have hback := hs.back f.mamaFid
    rw [h.fieldAt, if_pos rfl] at hfield
    rw [h.rmdsFid, if_pos rfl] at hback
    exact ⟨hfield.symm, hback.symm⟩
  · rintro ⟨hfield, hback⟩
    refine ⟨fun key' => ?_, fun n => ?_⟩
    · rw [h.fieldAt]
      split
      · rename_i heq
        rw [heq, hfield]
      · rfl
    · rw [h.rmdsFid]
      split
      · rename_i heq
        rw [heq, hback]
      · rfl

theorem SameMaps.refl (m : FieldMap UpaAsMamaFieldTypeEnum) : SameMaps m m := ⟨fun _ => rfl, fun _ => rfl⟩

end Maps

namespace UpaMamaFieldMapHandler

theorem store_adds (cfg : HandlerConfig) (h : UpaMamaFieldMapHandler) (row : RowLocals) :
    h.fieldMap.Adds (h.store cfg row).fieldMap row.key (h.storedField cfg row) := by
  unfold store storedField
  by_cases hp : row.parsedMamaFid ∧ row.parsedMamaFieldName
  · cases hno : row.mamaField.hasNoMamaFid <;>
      cases hd : cfg.mamaDictionary.getFieldDescriptorByName row.mamaField.fieldName
    · simp only [if_pos hp, and_false, if_false, Bool.false_eq_true]
      exact FieldMap.adds_put _ _ _
    · simp only [if_pos hp, and_false, if_false, Bool.false_eq_true]
      split <;> exact FieldMap.adds_put _ _ _
    · simp only [hp.1, hp.2, and_self, if_true]
      exact FieldMap.adds_bump_put _ _ _
    · simp only [hp.1, hp.2, and_self, if_true]
      exact FieldMap.adds_put _ _ _
  · rw [if_neg hp, if_neg fun h => hp ⟨h.1, h.2.1⟩]
    exact FieldMap.adds_put _ _ _

theorem store_locals (cfg : HandlerConfig) (h : UpaMamaFieldMapHandler) (r : ParsedRow UpaAsMamaFieldTypeEnum) :
    (h.store cfg r.locals).fieldMap = FieldMap.loadRow cfg.fieldMap h.fieldMap r := by
  unfold store FieldMap.loadRow
  cases hm : r.mamaFid with
  | some fid =>
    simp only [ParsedRow.locals, hm]
    cases cfg.mamaDictionary.getFieldDescriptorByName r.name with
    | none => rfl
    | some d =>
      dsimp only [Option.isNone_some, Option.getD_some]
      simp only [and_self, if_true, Bool.false_eq_true, if_false]
      split <;> rfl
  | none =>
    simp only [ParsedRow.locals, hm, HandlerConfig.fieldMap]
    cases cfg.mamaDictionary.getFieldDescriptorByName r.name with
    | none => rfl
    | some d => rfl

end UpaMamaFieldMapHandler

def NoRowFor (cfg : HandlerConfig) (key : RsslFieldId) (lines : List CsvLine) : Prop :=
  ∀ line ∈ lines, ∀ r, line.row cfg = some r → r.key ≠ key

structure Agrees (m : FieldMap UpaAsMamaFieldTypeEnum) (r : ParsedRow UpaAsMamaFieldTypeEnum) : Prop where
  fieldName : (m.fieldAt r.key).fieldName = r.name
  fieldType : (m.fieldAt r.key).fieldType = r.fieldType
  mamaFid : ∀ n, r.mamaFid = some n → (m.fieldAt r.key).mamaFid = n
  back : m.getRMDSFidFromMAMAFid (m.fieldAt r.key).mamaFid = r.key

namespace FieldMapLoader

variable {cfg : HandlerConfig} {s : FieldMapLoader} {line : CsvLine} {lines : List CsvLine}

structure RowByRow (cfg : HandlerConfig) (s : FieldMapLoader) (lines : List CsvLine) : Prop where
  rows : Runs.Guarded (loadLine cfg) (FollowsRow cfg) s lines
  last : ∀ before line after r, lines = before ++ line :: after → line.row cfg = some r →
    NoRowFor cfg r.key after → Agrees (Runs.run (loadLine cfg) s lines).handler.fieldMap r
  others : ∀ key, NoRowFor cfg key lines →
    (Runs.run (loadLine cfg) s lines).handler.fieldMap.fieldAt key = s.handler.fieldMap.fieldAt key

def Leaves (cfg : HandlerConfig) (n : MamaFid) (s : FieldMapLoader) (line : CsvLine) : Prop :=
  ∀ r, line.row cfg = some r → s.handler.fieldMap.rowFid cfg.fieldMap r ≠ n

def Untaken (cfg : HandlerConfig) (s : FieldMapLoader) (lines : List CsvLine) : Prop :=
  ∀ before line after r, lines = before ++ line :: after → line.row cfg = some r → NoRowFor cfg r.key after →
    Runs.Guarded (loadLine cfg)
      (Leaves cfg ((Runs.run (loadLine cfg) s before).handler.fieldMap.rowFid cfg.fieldMap r))
      (Runs.run (loadLine cfg) s (before ++ [line])) after

theorem loadLine_stopped (hs : s.stopped = false) (h : readLine cfg line = .stopped) :
    s.loadLine cfg line = { s with stopped := true } := by
  rw [loadLine, hs, if_neg Bool.false_ne_true, h]

theorem loadLine_read {row : RowLocals} (hs : s.stopped = false) (h : readLine cfg line = .read row) :
    s.loadLine cfg line = { s with handler := s.handler.store cfg row } := by
  rw [loadLine, hs, if_neg Bool.false_ne_true, h]

theorem loadLine_skipped (hs : s.stopped = false) (h : readLine cfg line = .skipped) :
    s.loadLine cfg line = s := by
  rw [loadLine, hs, if_neg Bool.false_ne_true, h]

theorem followsRow_skipped (hs : s.stopped = false) (h : readLine cfg line = .skipped)
    (hrow : line.row cfg = none) : s.FollowsRow cfg line := by
  have hload := loadLine_skipped hs h
  refine ⟨by rw [hload, hs], fun r hr => ?_, fun _ => ?_⟩
  · rw [hrow] at hr
    cases hr
  · rw [hload]
    exact SameMaps.refl _

theorem followsRow_row {r : ParsedRow UpaAsMamaFieldTypeEnum} (hs : s.stopped = false)
    (h : readLine cfg line = .read r.locals) (hrow : line.row cfg = some r) : s.FollowsRow cfg line := by
  have hload := loadLine_read hs h
  refine ⟨by rw [hload]; exact hs, fun r' hr' => ?_, fun hnone => ?_⟩
  · obtain rfl := Option.some.inj (hrow.symm.trans hr')
    rw [hload]
    exact UpaMamaFieldMapHandler.store_locals cfg s.handler r
  · rw [hrow] at hnone
    cases hnone

theorem followsRow_other_iff {row : RowLocals} (hs : s.stopped = false) (h : readLine cfg line = .read row)
    (hrow : line.row cfg = none) : s.FollowsRow cfg line ↔ s.handler.Rewrites cfg row := by
  have hload := loadLine_read hs h
  have hiff := (UpaMamaFieldMapHandler.store_adds cfg s.handler row).sameMaps_iff
  constructor
  · intro hf
    have hsame := hf.other hrow
    rw [hload] at hsame
    exact hiff.mp hsame
  · intro hr
    refine ⟨by rw [hload]; exact hs, fun r hr' => ?_, fun _ => ?_⟩
    · rw [hrow] at hr'
      cases hr'
    · rw [hload]
      exact hiff.mpr hr

theorem row_blank (h : line.columns = []) : line.row cfg = none := by
  simp [CsvLine.row, CsvLine.csvRow, h]

theorem followsRow_iff (hs : s.stopped = false) : s.FollowsRow cfg line ↔ s.Loadable cfg line := by
  by_cases hblank : trim line.text = []
  · have hcols := columns_eq_nil_iff.mpr hblank
    have hskip : readLine cfg line = .skipped := by rw [readLine, if_pos hblank]
    refine ⟨fun _ => ⟨?_, fun h => absurd hcols h⟩, fun _ => followsRow_skipped hs hskip (row_blank hcols)⟩
    rw [hcols]
    exact id
  · have hcols : line.columns ≠ [] := fun h => hblank (columns_eq_nil_iff.mp h)
    have hline : readLine cfg line =
        readColumns cfg line.uninitialised.originalTarget 0 line.columns line.uninitialised.locals := by
      rw [readLine, if_neg hblank]
    obtain ⟨hstops, hread⟩ | ⟨hstops, ⟨hpassed, row, hread⟩ | ⟨hpassed, hread⟩⟩ :=
      readColumns_cases cfg line.uninitialised.originalTarget line.columns 0 line.uninitialised.locals
    · refine ⟨fun h => ?_, fun h => absurd hstops h.readable⟩
      have hgoes := h.goesOn
      rw [loadLine_stopped hs (hline.trans hread)] at hgoes
      cases hgoes
    · by_cases hall : AllColumns line.columns
      · obtain ⟨r, hrow, hr⟩ := row_of_complete hpassed hall
        exact ⟨fun _ => ⟨hstops, fun _ _ => .inl hall⟩, fun _ => followsRow_row hs hr hrow⟩
      · have hrow : line.row cfg = none := by
          cases hr : line.row cfg with
          | none => rfl
          | some r => exact absurd (complete_of_row hr hstops).2 hall
        rw [followsRow_other_iff hs (hline.trans hread) hrow]
        refine ⟨fun h => ⟨hstops, fun _ _ => .inr ⟨row, hline.trans hread, h⟩⟩, fun h => ?_⟩
        obtain ⟨row', hread', hr⟩ := (h.complete hcols hpassed).resolve_left hall
        rw [hline, hread] at hread'
        cases hread'
        exact hr
    · have hrow : line.row cfg = none := by
        cases hr : line.row cfg with
        | none => rfl
        | some r => exact absurd (complete_of_row hr hstops).1 hpassed
      refine ⟨fun _ => ⟨hstops, fun _ h => absurd h hpassed⟩, fun _ => ?_⟩
      exact followsRow_skipped hs (hline.trans hread) hrow

theorem guarded_followsRow_iff (hs : s.stopped = false) :
    Runs.Guarded (loadLine cfg) (FollowsRow cfg) s lines ↔
      Runs.Guarded (loadLine cfg) (Loadable cfg) s lines := by
  have hstep (s : FieldMapLoader) (line : CsvLine) (_ : s.stopped = false) (h : s.FollowsRow cfg line) :
      (s.loadLine cfg line).stopped = false := h.goesOn
  exact Runs.guarded_congr hstep (fun s line hs => followsRow_iff hs) hs

theorem FollowsRow.adds (h : s.FollowsRow cfg line) {r : ParsedRow UpaAsMamaFieldTypeEnum}
    (hr : line.row cfg = some r) :
    ∃ f : MamaField UpaAsMamaFieldTypeEnum,
      s.handler.fieldMap.Adds (s.loadLine cfg line).handler.fieldMap r.key f ∧ f.fieldName = r.name ∧
        f.fieldType = r.fieldType ∧ f.mamaFid = s.handler.fieldMap.rowFid cfg.fieldMap r := by
  rw [h.row r hr]
  exact FieldMap.loadRow_adds cfg.fieldMap s.handler.fieldMap r

theorem FollowsRow.fieldAt (h : s.FollowsRow cfg line) {key : RsslFieldId}
    (hkey : ∀ r, line.row cfg = some r → r.key ≠ key) :
    (s.loadLine cfg line).handler.fieldMap.fieldAt key = s.handler.fieldMap.fieldAt key := by
  cases hr : line.row cfg with
  | none => exact (h.other hr).fields key
  | some r =>
    obtain ⟨f, hadds, -⟩ := h.adds hr
    rw [hadds.fieldAt, if_neg fun heq => hkey r hr heq.symm]

theorem FollowsRow.rmdsFid (h : s.FollowsRow cfg line) {n : MamaFid} (hn : s.Leaves cfg n line) :
    (s.loadLine cfg line).handler.fieldMap.getRMDSFidFromMAMAFid n =
      s.handler.fieldMap.getRMDSFidFromMAMAFid n := by
  cases hr : line.row cfg with
  | none => exact (h.other hr).back n
  | some r =>
    obtain ⟨f, hadds, -, -, hfid⟩ := h.adds hr
    rw [hadds.rmdsFid, hfid, if_neg fun heq => hn r hr heq.symm]

theorem fieldAt_run {key : RsslFieldId} (h : Runs.Guarded (loadLine cfg) (FollowsRow cfg) s lines)
    (hkey : NoRowFor cfg key lines) :
    (Runs.run (loadLine cfg) s lines).handler.fieldMap.fieldAt key = s.handler.fieldMap.fieldAt key := by
  induction lines generalizing s with
  | nil => rfl
  | cons line lines ih =>
    rw [Runs.run_cons, ih h.2 fun line' hline => hkey line' (List.mem_cons_of_mem _ hline)]
    exact h.1.fieldAt (hkey line List.mem_cons_self)

theorem rmdsFid_run_ne {key : RsslFieldId} {n : MamaFid}
    (h : Runs.Guarded (loadLine cfg) (FollowsRow cfg) s lines) (hkey : NoRowFor cfg key lines)
    (hn : s.handler.fieldMap.getRMDSFidFromMAMAFid n ≠ key) :
    (Runs.run (loadLine cfg) s lines).handler.fieldMap.getRMDSFidFromMAMAFid n ≠ key := by
  induction lines generalizing s with
  | nil => exact hn
  | cons line lines ih =>
    refine ih h.2 (fun line' hline => hkey line' (List.mem_cons_of_mem _ hline)) ?_
    by_cases hleaves : s.Leaves cfg n line
    · rw [h.1.rmdsFid hleaves]
      exact hn
    · obtain ⟨r, hr⟩ := not_forall.mp hleaves
      obtain ⟨hrow, htakes⟩ := Classical.not_imp.mp hr
      obtain ⟨f, hadds, -, -, hfid⟩ := h.1.adds hrow
      rw [hadds.rmdsFid, hfid, if_pos (not_not.mp htakes).symm]
      exact hkey line List.mem_cons_self r hrow

theorem rmdsFid_run_iff {key : RsslFieldId} {n : MamaFid}
    (h : Runs.Guarded (loadLine cfg) (FollowsRow cfg) s lines) (hkey : NoRowFor cfg key lines)
    (hn : s.handler.fieldMap.getRMDSFidFromMAMAFid n = key) :
    (Runs.run (loadLine cfg) s lines).handler.fieldMap.getRMDSFidFromMAMAFid n = key ↔
      Runs.Guarded (loadLine cfg) (Leaves cfg n) s lines := by
  induction lines generalizing s with
  | nil => exact ⟨fun _ => trivial, fun _ => hn⟩
  | cons line lines ih =>
    have hrest : NoRowFor cfg key lines := fun line' hline => hkey line' (List.mem_cons_of_mem _ hline)
    by_cases hleaves : s.Leaves cfg n line
    · rw [Runs.run_cons, ih h.2 hrest ((h.1.rmdsFid hleaves).trans hn)]
      exact ⟨fun hguard => ⟨hleaves, hguard⟩, fun hguard => hguard.2⟩
    · refine ⟨fun hfinal => ?_, fun hguard => absurd hguard.1 hleaves⟩
      obtain ⟨r, hr⟩ := not_forall.mp hleaves
      obtain ⟨hrow, htakes⟩ := Classical.not_imp.mp hr
      obtain ⟨f, hadds, -, -, hfid⟩ := h.1.adds hrow
      rw [Runs.run_cons] at hfinal
      refine absurd hfinal (rmdsFid_run_ne h.2 hrest ?_)
      rw [hadds.rmdsFid, hfid, if_pos (not_not.mp htakes).symm]
      exact hkey line List.mem_cons_self r hrow

theorem agrees_iff {before after : List CsvLine} {r : ParsedRow UpaAsMamaFieldTypeEnum}
    (h : Runs.Guarded (loadLine cfg) (FollowsRow cfg) s (before ++ line :: after))
    (hrow : line.row cfg = some r) (hafter : NoRowFor cfg r.key after) :
    Agrees (Runs.run (loadLine cfg) s (before ++ line :: after)).handler.fieldMap r ↔
      Runs.Guarded (loadLine cfg)
        (Leaves cfg ((Runs.run (loadLine cfg) s before).handler.fieldMap.rowFid cfg.fieldMap r))
        (Runs.run (loadLine cfg) s (before ++ [line])) after := by
  obtain ⟨-, hline, hguard⟩ := h.append
  obtain ⟨f, hadds, hname, htype, hfid⟩ := hline.adds hrow
  have hback := (hadds.rmdsFid f.mamaFid).trans (if_pos rfl)
  have hfield := fieldAt_run hguard hafter
  rw [hadds.fieldAt, if_pos rfl] at hfield
  rw [Runs.run_append, Runs.run_append, Runs.run_cons, Runs.run_cons, Runs.run_nil, ← hfid,
    ← rmdsFid_run_iff hguard hafter hback]
  constructor
  · intro ha
    have hfinal := ha.back
    rwa [hfield] at hfinal
  · intro hfinal
    refine ⟨by rw [hfield, hname], by rw [hfield, htype], fun n hn => ?_, by rw [hfield, hfinal]⟩
    rw [hfield, hfid, FieldMap.rowFid, hn]

theorem rowByRow_iff (hs : s.stopped = false) :
    RowByRow cfg s lines ↔ Runs.Guarded (loadLine cfg) (Loadable cfg) s lines ∧ Untaken cfg s lines := by
  constructor
  · intro h
    refine ⟨(guarded_followsRow_iff hs).mp h.rows, fun before line after r hlines hrow hafter => ?_⟩
    have hagrees := h.last before line after r hlines hrow hafter
    have hrows := h.rows
    rw [hlines] at hagrees hrows
    exact (agrees_iff hrows hrow hafter).mp hagrees
  · rintro ⟨hload, huntaken⟩
    have hrows := (guarded_followsRow_iff hs).mpr hload
    refine ⟨hrows, fun before line after r hlines hrow hafter => ?_, fun key hkey => fieldAt_run hrows hkey⟩
    have hguard := huntaken before line after r hlines hrow hafter
    rw [hlines] at hrows ⊢
    exact (agrees_iff hrows hrow hafter).mpr hguard

theorem field_map_row_by_row_iff (cfg : HandlerConfig) (uninitialised : ℕ → Uninitialised)
    (h : UpaMamaFieldMapHandler) (text : List Char) :
    RowByRow cfg ⟨h, false⟩ (csvLines uninitialised text) ↔
      Runs.Guarded (loadLine cfg) (Loadable cfg) ⟨h, false⟩ (csvLines uninitialised text) ∧
        Untaken cfg ⟨h, false⟩ (csvLines uninitialised text) :=
  rowByRow_iff rfl

theorem short_row_stored :
    ¬ ∀ (cfg : HandlerConfig) (uninitialised : ℕ → Uninitialised) (h : UpaMamaFieldMapHandler)
        (text : List Char), RowByRow cfg ⟨h, false⟩ (csvLines uninitialised text) := by
  intro h
  have hrows := (h ⟨[], ⟨[], .nil, false⟩, false⟩ (fun _ => ⟨0, 5, .mama .msg, false, .msg⟩) ⟨⟨∅, ∅, 100⟩, []⟩
    [',', '2', '2', ',', 'B', 'I', 'D']).rows
  have hfields := (hrows.1.other rfl).fields 22
  cases hfields

end FieldMapLoader

end RmdsBridge
