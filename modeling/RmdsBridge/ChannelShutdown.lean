import RmdsBridge.ProviderSteps

namespace RmdsBridge.UPAProvider

variable {C : Type} [DecidableEq C] {p : UPAProvider C} {chnl : C} {streamId : ℤ} {symbol : String}

def Agree (a b : List ℤ) : Prop := a <+: b ∨ b <+: a

instance (a b : List ℤ) : Decidable (Agree a b) := inferInstanceAs (Decidable (_ ∨ _))

def MetInOrder (p : UPAProvider C) (chnl : C) (walk : List (Σ _ : ℤ, String)) : Prop :=
  ∀ symbol, Agree (walkOf walk symbol) (p.streams symbol chnl)

def ShutdownReturns (p : UPAProvider C) (chnl : C) (walk : List (Σ _ : ℤ, String)) : Prop :=
  p.channelDictionary.find chnl ≠ none → p.MetInOrder chnl walk

theorem removeStream_absent (h : p.streams symbol chnl = []) (streamId : ℤ) :
    (∀ symbol' c, (p.removeStream chnl streamId symbol).streams symbol' c = p.streams symbol' c) ∧
      (p.removeStream chnl streamId symbol).stuck = p.stuck ∧
      (p.removeStream chnl streamId symbol).channelDictionary = p.channelDictionary := by
  cases hi : p.item symbol with
  | none =>
    have he : p.removeStream chnl streamId symbol = p := by simp only [removeStream, hi]
    rw [he]
    exact ⟨fun _ _ => rfl, rfl, rfl⟩
  | some i =>
    have hs : i.streams chnl = [] := by simpa [streams, hi] using h
    have hr : i.removeChannel chnl streamId = some (true, i) := by
      cases hf : i.channelMap.find chnl with
      | none => simp [UPAPublisherItem.removeChannel, hf]
      | some ss =>
        obtain rfl : ss = [] := by simpa [UPAPublisherItem.streams, hf] using hs
        simp [UPAPublisherItem.removeChannel, hf]
    obtain ⟨hitem, hstuck, hdict, -⟩ := removeStream_of_returns hi hr
    refine ⟨fun symbol' c => ?_, hstuck, hdict⟩
    simp only [streams, hitem]
    split_ifs with hsym
    · rw [hsym, hi]
    · rfl

theorem removeStream_others (p : UPAProvider C) (chnl : C) (streamId : ℤ) (symbol : String) :
    (p.removeStream chnl streamId symbol).channelDictionary = p.channelDictionary ∧
      ∀ symbol', ∀ c ≠ chnl,
        (p.removeStream chnl streamId symbol).streams symbol' c = p.streams symbol' c := by
  cases hs : p.streams symbol chnl with
  | nil =>
    obtain ⟨hstreams, -, hdict⟩ := removeStream_absent hs streamId
    exact ⟨hdict, fun symbol' c _ => hstreams symbol' c⟩
  | cons s rest =>
    by_cases hst : s = streamId
    · subst hst
      obtain ⟨hstreams, -, hdict, -⟩ := removeStream_head hs
      refine ⟨hdict, fun symbol' c hc => ?_⟩
      rw [hstreams, if_neg fun h => hc h.2]
    · rw [removeStream_stuck hs hst]
      exact ⟨rfl, fun _ _ _ => rfl⟩

theorem removeStreams_others (p : UPAProvider C) (chnl : C) (walk : List (Σ _ : ℤ, String)) :
    (p.removeStreams chnl walk).channelDictionary = p.channelDictionary ∧
      ∀ symbol, ∀ c ≠ chnl, (p.removeStreams chnl walk).streams symbol c = p.streams symbol c := by
  induction walk generalizing p with
  | nil => exact ⟨rfl, fun _ _ _ => rfl⟩
  | cons x xs ih =>
    obtain ⟨hdict, hstreams⟩ := p.removeStream_others chnl x.1 x.2
    simp only [removeStreams]
    split_ifs
    · exact ⟨hdict, hstreams⟩
    · obtain ⟨hdict', hstreams'⟩ := ih (p.removeStream chnl x.1 x.2)
      refine ⟨hdict'.trans hdict, fun symbol c hc => ?_⟩
      rw [hstreams' symbol c hc, hstreams symbol c hc]

theorem agree_nil_right (a : List ℤ) : Agree a [] := .inr List.nil_prefix

theorem agree_cons_iff (s t : ℤ) (a b : List ℤ) : Agree (s :: a) (t :: b) ↔ s = t ∧ Agree a b := by
  unfold Agree
  rw [List.cons_prefix_cons, List.cons_prefix_cons]
  tauto

theorem walkOf_cons_of_ne {symbol' : String} (h : symbol' ≠ symbol) (walk : List (Σ _ : ℤ, String)) :
    walkOf (⟨streamId, symbol⟩ :: walk) symbol' = walkOf walk symbol' := by
  simp [walkOf, Ne.symm h]

theorem metInOrder_absent (h : p.streams symbol chnl = []) (streamId : ℤ) (walk : List (Σ _ : ℤ, String)) :
    (p.removeStream chnl streamId symbol).MetInOrder chnl walk ↔
      p.MetInOrder chnl (⟨streamId, symbol⟩ :: walk) := by
  refine forall_congr' fun symbol' => ?_
  rw [(removeStream_absent h streamId).1]
  by_cases hsym : symbol' = symbol
  · rw [hsym, h]
    exact iff_of_true (agree_nil_right _) (agree_nil_right _)
  · rw [walkOf_cons_of_ne hsym]

theorem metInOrder_head {rest : List ℤ} (h : p.streams symbol chnl = streamId :: rest)
    (walk : List (Σ _ : ℤ, String)) :
    (p.removeStream chnl streamId symbol).MetInOrder chnl walk ↔
      p.MetInOrder chnl (⟨streamId, symbol⟩ :: walk) := by
  refine forall_congr' fun symbol' => ?_
  rw [(removeStream_head h).1]
  by_cases hsym : symbol' = symbol
  · subst hsym
    rw [if_pos ⟨rfl, rfl⟩, walkOf_cons_self, h, agree_cons_iff]
    exact (and_iff_right rfl).symm
  · rw [if_neg fun h => hsym h.1, walkOf_cons_of_ne hsym]

theorem removeStreams_returns_iff (h : p.stuck = false) (chnl : C) (walk : List (Σ _ : ℤ, String)) :
    (p.removeStreams chnl walk).stuck = false ↔ p.MetInOrder chnl walk := by
  induction walk generalizing p with
  | nil => exact iff_of_true h fun symbol => .inl List.nil_prefix
  | cons x xs ih =>
    obtain ⟨t, sym⟩ := x
    cases hs : p.streams sym chnl with
    | nil =>
      have hrunning := (removeStream_absent hs t).2.1.trans h
      rw [removeStreams_of_running xs hrunning, ih hrunning, metInOrder_absent hs]
    | cons s rest =>
      by_cases hst : s = t
      · subst hst
        have hrunning := (removeStream_head hs).2.1.trans h
        rw [removeStreams_of_running xs hrunning, ih hrunning, metInOrder_head hs]
      · have hstop : p.removeStreams chnl (⟨t, sym⟩ :: xs) = { p with stuck := true } := by
          simp [removeStreams, removeStream_stuck hs hst]
        rw [hstop]
        refine iff_of_false Bool.noConfusion fun hall => ?_
        have hsym := hall sym
        rw [walkOf_cons_self, hs, agree_cons_iff] at hsym
        exact hst hsym.1.symm

theorem shutdown_returns_iff (h : p.stuck = false) (chnl : C) (walk : List (Σ _ : ℤ, String)) :
    (p.shutdownClientConnection chnl walk).stuck = false ↔ p.ShutdownReturns chnl walk := by
  unfold shutdownClientConnection ShutdownReturns
  cases hm : p.channelDictionary.find chnl with
  | none => simp [h]
  | some m =>
    have hiff := removeStreams_returns_iff h chnl walk
    dsimp only
    split_ifs with hstuck
    · rw [hstuck] at hiff ⊢
      simpa using hiff
    · simpa using hiff

theorem shutdown_others (chnl : C) (walk : List (Σ _ : ℤ, String)) {c : C} (hc : c ≠ chnl)
    (walk' : List (Σ _ : ℤ, String)) :
    (p.shutdownClientConnection chnl walk).ShutdownReturns c walk' ↔ p.ShutdownReturns c walk' := by
  obtain ⟨hdict, hstreams⟩ := p.removeStreams_others chnl walk
  have hmet : (p.removeStreams chnl walk).MetInOrder c walk' ↔ p.MetInOrder c walk' := by
    unfold MetInOrder
    simp only [hstreams _ c hc]
  unfold shutdownClientConnection
  cases hm : p.channelDictionary.find chnl with
  | none => exact Iff.rfl
  | some m =>
    dsimp only
    split_ifs
    · unfold ShutdownReturns
      rw [hdict, hmet]
    · unfold ShutdownReturns
      rw [UnorderedMap.find_erase, if_neg hc, hdict]
      exact imp_congr_right fun _ => hmet

end RmdsBridge.UPAProvider
