import RmdsBridge.Provider

namespace RmdsBridge

namespace UPAProvider

variable {C : Type} [DecidableEq C]

def streams (p : UPAProvider C) (symbol : String) (chnl : C) : List ℤ :=
  ((p.item symbol).map fun i => i.streams chnl).getD []

def streamItem (p : UPAProvider C) (chnl : C) (streamId : ℤ) : Option String :=
  (p.streamIdMap chnl).find streamId

def hasChannels (p : UPAProvider C) (symbol : String) : Bool :=
  ((p.item symbol).map UPAPublisherItem.hasChannels).getD false

def Linked (p : UPAProvider C) (want : C → ℤ → Option String) : Prop :=
  ∀ chnl streamId symbol,
    (p.streams symbol chnl).count streamId = if want chnl streamId = some symbol then 1 else 0

def Full (p : UPAProvider C) : Prop :=
  ∀ symbol i, p.item symbol = some i → ∀ chnl, i.channelMap.find chnl ≠ some []

variable {p : UPAProvider C} {want : C → ℤ → Option String} {chnl : C} {streamId : ℤ}
  {symbol : String} {i : UPAPublisherItem C}

omit [DecidableEq C] in
theorem setItem_item (h : p.item symbol = some i) (i' : UPAPublisherItem C) (symbol' : String) :
    (p.setItem symbol i').item symbol' = if symbol' = symbol then some i' else p.item symbol' := by
  cases hs : p.source with
  | none => simp [item, hs] at h
  | some s =>
    simp only [item, setItem, hs, Option.map_some, Option.bind_some, RMDSPublisherSource.getItem,
      RMDSPublisherSource.setItem, UnorderedMap.find_insert]

theorem find_of_streams {s : ℤ} {rest : List ℤ} (h : p.streams symbol chnl = s :: rest) :
    ∃ i, p.item symbol = some i ∧ i.channelMap.find chnl = some (s :: rest) := by
  cases hi : p.item symbol with
  | none => simp [streams, hi] at h
  | some i =>
    refine ⟨i, rfl, ?_⟩
    cases hf : i.channelMap.find chnl with
    | none => simp [streams, UPAPublisherItem.streams, hi, hf] at h
    | some ss => simpa [streams, UPAPublisherItem.streams, hi, hf] using h

theorem removeStream_stuck {s : ℤ} {rest : List ℤ} (h : p.streams symbol chnl = s :: rest)
    (hs : s ≠ streamId) : p.removeStream chnl streamId symbol = { p with stuck := true } := by
  obtain ⟨i, hi, hf⟩ := find_of_streams h
  simp only [removeStream, hi, UPAPublisherItem.removeChannel_stuck hf hs]

theorem removeStreams_of_running (walk : List (Σ _ : ℤ, String))
    (h : (p.removeStream chnl streamId symbol).stuck = false) :
    p.removeStreams chnl (⟨streamId, symbol⟩ :: walk) =
      (p.removeStream chnl streamId symbol).removeStreams chnl walk := if_neg (by simp [h])

theorem removeStream_of_returns {b : Bool} {i' : UPAPublisherItem C} (hi : p.item symbol = some i)
    (hr : i.removeChannel chnl streamId = some (b, i')) :
    (∀ symbol', (p.removeStream chnl streamId symbol).item symbol' =
        if symbol' = symbol then some i' else p.item symbol') ∧
      (p.removeStream chnl streamId symbol).stuck = p.stuck ∧
      (p.removeStream chnl streamId symbol).channelDictionary = p.channelDictionary ∧
      (p.removeStream chnl streamId symbol).closed = p.closed ++ if b then [] else [symbol] := by
  have hset := setItem_item hi i'
  simp only [removeStream, hi, hr]
  cases b with
  | true => exact ⟨hset, rfl, rfl, (List.append_nil _).symm⟩
  | false => exact ⟨hset, rfl, rfl, rfl⟩

theorem removeStream_head {rest : List ℤ} (h : p.streams symbol chnl = streamId :: rest) :
    (∀ symbol' c, (p.removeStream chnl streamId symbol).streams symbol' c =
        if symbol' = symbol ∧ c = chnl then rest else p.streams symbol' c) ∧
      (p.removeStream chnl streamId symbol).stuck = p.stuck ∧
      (p.removeStream chnl streamId symbol).channelDictionary = p.channelDictionary ∧
      (p.Full → (p.removeStream chnl streamId symbol).Full) := by
  obtain ⟨i, hi, hf⟩ := find_of_streams h
  obtain ⟨i', hr, hfind⟩ := UPAPublisherItem.removeChannel_head hf
  obtain ⟨hitem, hstuck, hdict, -⟩ := removeStream_of_returns hi hr
  refine ⟨fun symbol' c => ?_, hstuck, hdict, fun hfull symbol' j hj c => ?_⟩
  · simp only [streams, hitem]
    by_cases hsym : symbol' = symbol
    · subst hsym
      simp only [if_true, Option.map_some, Option.getD_some, UPAPublisherItem.streams, hfind, hi, true_and]
      by_cases hc : c = chnl
      · cases rest <;> simp [hc]
      · simp [hc]
    · simp [hsym]
  · rw [hitem] at hj
    split_ifs at hj with hsym
    · cases hj
      rw [hfind]
      split_ifs with hc hrest
      · simp
      · simpa using hrest
      · exact hfull symbol i hi c
    · exact hfull symbol' j hj c

theorem Linked.removeStream {rest : List ℤ} (hl : p.Linked want)
    (h : p.streams symbol chnl = streamId :: rest) (hw : want chnl streamId = some symbol) :
    (p.removeStream chnl streamId symbol).Linked
      fun c t => if c = chnl ∧ t = streamId then none else want c t := by
  intro c t symbol'
  rw [(removeStream_head h).1 symbol' c]
  have hcount := hl c t symbol'
  by_cases ht : c = chnl ∧ t = streamId
  · obtain ⟨rfl, rfl⟩ := ht
    simp only [and_self, if_true, and_true]
    by_cases hsym : symbol' = symbol
    · subst hsym
      rw [h, hw, List.count_cons_self] at hcount
      simpa using hcount
    · rw [hw] at hcount
      simpa [hsym, Ne.symm hsym] using hcount
  · simp only [if_neg ht]
    by_cases hsc : symbol' = symbol ∧ c = chnl
    · obtain ⟨rfl, rfl⟩ := hsc
      have hne : streamId ≠ t := fun he => ht ⟨rfl, he.symm⟩
      rw [h, List.count_cons_of_ne hne] at hcount
      simpa using hcount
    · rw [if_neg hsc]
      exact hcount

theorem Linked.streams_eq_nil (hl : p.Linked want) (h : ∀ t, want chnl t = none) (symbol : String) :
    p.streams symbol chnl = [] := by
  apply List.eq_nil_iff_forall_not_mem.mpr
  intro t ht
  have hcount := hl chnl t symbol
  have hpos := List.count_pos_iff.mpr ht
  simp [hcount, h] at hpos

theorem Linked.streams_eq_cons (hl : p.Linked want) (h : want chnl streamId = some symbol) :
    ∃ s rest, p.streams symbol chnl = s :: rest := by
  have hmem : streamId ∈ p.streams symbol chnl := by
    apply List.count_pos_iff.mp
    simp [hl chnl streamId symbol, h]
  exact List.exists_cons_of_ne_nil (List.ne_nil_of_mem hmem)

def Closes (p p' : UPAProvider C) : Prop :=
  ∀ symbol, (p'.hasChannels symbol = true → p.hasChannels symbol = true) ∧
    p'.closed.count symbol =
      p.closed.count symbol + if p.hasChannels symbol && !p'.hasChannels symbol then 1 else 0

omit [DecidableEq C] in
theorem Closes.refl (p : UPAProvider C) : p.Closes p := fun symbol => ⟨id, by simp⟩

omit [DecidableEq C] in
theorem Closes.trans {p' p'' : UPAProvider C} (h : p.Closes p') (h' : p'.Closes p'') : p.Closes p'' := by
  intro symbol
  obtain ⟨hhas, hcount⟩ := h symbol
  obtain ⟨hhas', hcount'⟩ := h' symbol
  refine ⟨fun h => hhas (hhas' h), ?_⟩
  rw [hcount', hcount]
  cases hp : p.hasChannels symbol <;> cases hp' : p'.hasChannels symbol <;>
    cases hp'' : p''.hasChannels symbol <;> simp_all

theorem removeStream_closes (p : UPAProvider C) (chnl : C) (streamId : ℤ) (symbol : String) :
    p.Closes (p.removeStream chnl streamId symbol) := by
  cases hi : p.item symbol with
  | none =>
    simp only [removeStream, hi]
    exact .refl p
  | some i =>
    cases hr : i.removeChannel chnl streamId with
    | none =>
      simp only [removeStream, hi, hr]
      exact .refl p
    | some x =>
      obtain ⟨b, i'⟩ := x
      obtain ⟨hitem, -, -, hclosed⟩ := removeStream_of_returns hi hr
      intro symbol'
      simp only [hasChannels, hitem, hclosed, List.count_append]
      by_cases hsym : symbol' = symbol
      · subst hsym
        simp only [if_true, hi, Option.map_some, Option.getD_some]
        rcases UPAPublisherItem.removeChannel_cases hr with ⟨rfl, rfl⟩ | ⟨hhas, rfl⟩
        · simp
        · cases hb : i'.hasChannels <;> simp [hhas]
      · simp only [if_neg hsym]
        cases b <;> simp [Ne.symm hsym]

theorem removeStreams_closes (p : UPAProvider C) (chnl : C) (walk : List (Σ _ : ℤ, String)) :
    p.Closes (p.removeStreams chnl walk) := by
  induction walk generalizing p with
  | nil => exact .refl p
  | cons x xs ih =>
    have hx := p.removeStream_closes chnl x.1 x.2
    simp only [removeStreams]
    split_ifs
    · exact hx
    · exact hx.trans (ih _)

def walkOf (walk : List (Σ _ : ℤ, String)) (symbol : String) : List ℤ :=
  (walk.filter fun x => x.2 = symbol).map Sigma.fst

theorem walkOf_cons_self (streamId : ℤ) (symbol : String) (walk : List (Σ _ : ℤ, String)) :
    walkOf (⟨streamId, symbol⟩ :: walk) symbol = streamId :: walkOf walk symbol := by simp [walkOf]

theorem walkOf_removeStream {rest : List ℤ} (h : p.streams symbol chnl = streamId :: rest)
    (walk : List (Σ _ : ℤ, String)) :
    (∀ symbol', walkOf walk symbol' = (p.removeStream chnl streamId symbol).streams symbol' chnl) ↔
      ∀ symbol', walkOf (⟨streamId, symbol⟩ :: walk) symbol' = p.streams symbol' chnl := by
  refine forall_congr' fun symbol' => ?_
  rw [(removeStream_head h).1]
  by_cases hsym : symbol' = symbol
  · subst hsym
    rw [walkOf_cons_self, h]
    simp
  · simp [walkOf, hsym, Ne.symm hsym]

theorem removeStreams_spec (walk : List (Σ _ : ℤ, String)) (hl : p.Linked want) (hfull : p.Full)
    (hstuck : p.stuck = false) (hnodup : (walk.map Sigma.fst).Nodup)
    (hwant : ∀ t, want chnl t = walk.dlookup t) :
    ((∀ symbol, walkOf walk symbol = p.streams symbol chnl) ∧
        (p.removeStreams chnl walk).stuck = false ∧ (p.removeStreams chnl walk).Full ∧
        (p.removeStreams chnl walk).channelDictionary = p.channelDictionary ∧
        (p.removeStreams chnl walk).Linked fun c t => if c = chnl then none else want c t) ∨
      ((¬ ∀ symbol, walkOf walk symbol = p.streams symbol chnl) ∧
        (p.removeStreams chnl walk).stuck = true ∧
        ∃ symbol, (p.removeStreams chnl walk).streams symbol chnl ≠ []) := by
  induction walk generalizing p want with
  | nil =>
    have hnil := hl.streams_eq_nil hwant
    refine .inl ⟨fun symbol => (hnil symbol).symm, hstuck, hfull, rfl, fun c t symbol => ?_⟩
    by_cases hc : c = chnl
    · subst hc
      simp [removeStreams, hnil]
    · simpa [removeStreams, hc] using hl c t symbol
  | cons x xs ih =>
    obtain ⟨t, sym⟩ := x
    obtain ⟨hx, hxs⟩ := List.nodup_cons.mp hnodup
    have hw : want chnl t = some sym := (hwant t).trans (List.dlookup_cons_eq xs t sym)
    obtain ⟨s, rest, hs⟩ := hl.streams_eq_cons hw
    by_cases hst : s = t
    · subst hst
      obtain ⟨-, hstuck', hdict, hfull'⟩ := removeStream_head hs
      have hrun := removeStreams_of_running xs (hstuck'.trans hstuck)
      have hnext := ih (hl.removeStream hs hw) (hfull' hfull) (hstuck'.trans hstuck) hxs fun t' => ?_
      · have hfun : (fun c t => if c = chnl then none
            else if c = chnl ∧ t = s then none else want c t) =
              fun c t => if c = chnl then none else want c t := by
          funext c t
          by_cases hc : c = chnl <;> simp [hc]
        rw [hfun, walkOf_removeStream hs, hdict] at hnext
        rw [hrun]
        exact hnext
      · by_cases ht : t' = s
        · subst ht
          simp [List.dlookup_eq_none.mpr hx]
        · simp [ht, hwant, List.dlookup_cons_ne]
    · have hstop : p.removeStreams chnl (⟨t, sym⟩ :: xs) = { p with stuck := true } := by
        simp [removeStreams, removeStream_stuck hs hst]
      rw [hstop]
      refine .inr ⟨fun hall => ?_, rfl, sym, ?_⟩
      · have hsym := hall sym
        rw [walkOf_cons_self, hs] at hsym
        exact hst (List.cons.inj hsym).1.symm
      · change p.streams sym chnl ≠ []
        simp [hs]

end UPAProvider

end RmdsBridge
