import RmdsBridge.PublisherItem
import RmdsBridge.Runs

namespace RmdsBridge

inductive ChannelCall (C : Type)
  | addChannel (chnl : C) (streamId : ℤ)
  | removeChannel (chnl : C) (streamId : ℤ)
  deriving DecidableEq, Repr

namespace UPAPublisherItem

variable {C : Type} [DecidableEq C]

/-- `none` once a call did not return. -/
def step (i : Option (UPAPublisherItem C)) : ChannelCall C → Option (UPAPublisherItem C)
  | .addChannel chnl streamId => i.map fun i => i.addChannel chnl streamId
  | .removeChannel chnl streamId => i.bind fun i => (i.removeChannel chnl streamId).map Prod.snd

def RemovesOne (streamId : ℤ) (before after : List ℤ) : Prop :=
  (∃ ss ts, before = ss ++ streamId :: ts ∧ after = ss ++ ts) ∨ (streamId ∉ before ∧ after = before)

structure Removes (i : UPAPublisherItem C) (chnl : C) (streamId : ℤ)
    (r : Bool × UPAPublisherItem C) : Prop where
  streams : RemovesOne streamId (i.streams chnl) (r.2.streams chnl)
  others : ∀ c ≠ chnl, r.2.channelMap.find c = i.channelMap.find c
  dropped : r.2.channelMap.find chnl = none ↔ r.2.streams chnl = []
  result : r.1 = false ↔ r.2.hasChannels = false

def Removable (i : UPAPublisherItem C) (chnl : C) (streamId : ℤ) : Prop :=
  (i.streams chnl).head? = some streamId ∨ (i.streams chnl = [] ∧ i.hasChannels = true)

def NoEmptyChannel (i : UPAPublisherItem C) : Prop := ∀ c, i.channelMap.find c ≠ some []

variable {i i' : UPAPublisherItem C} {chnl : C} {streamId : ℤ}

theorem streams_eq_nil_iff (h : i.NoEmptyChannel) (c : C) :
    i.streams c = [] ↔ i.channelMap.find c = none := by
  unfold streams
  cases hf : i.channelMap.find c with
  | none => simp
  | some ss =>
    have hs : ss ≠ [] := fun hs => h c (hs ▸ hf)
    simpa using hs

theorem create_noEmptyChannel (chnl : Option C) (streamId : ℤ) :
    (create chnl streamId).NoEmptyChannel := by
  intro c
  cases chnl with
  | none => simp [create]
  | some c' =>
    change (UnorderedMap.find (AList.insert c' [streamId] ∅) c) ≠ _
    rw [UnorderedMap.find_insert]
    split_ifs <;> simp

theorem NoEmptyChannel.addChannel (h : i.NoEmptyChannel) (chnl : C) (streamId : ℤ) :
    (i.addChannel chnl streamId).NoEmptyChannel := by
  intro c
  change UnorderedMap.find (i.channelMap.insert chnl _) c ≠ _
  rw [UnorderedMap.find_insert]
  split_ifs
  · simp
  · exact h c

theorem removeChannel_unknown (h : i.channelMap.find chnl = none) :
    i.removeChannel chnl streamId = some (true, i) := by
  simp [removeChannel, h]

theorem NoEmptyChannel.removeChannel (h : i.NoEmptyChannel) {b : Bool}
    (hr : i.removeChannel chnl streamId = some (b, i')) : i'.NoEmptyChannel := by
  cases hf : i.channelMap.find chnl with
  | none =>
    rw [removeChannel_unknown hf] at hr
    cases hr
    exact h
  | some ss =>
    cases ss with
    | nil => exact absurd hf (h chnl)
    | cons s rest =>
      by_cases hs : s = streamId
      · subst hs
        obtain ⟨j, hj, hfind⟩ := removeChannel_head hf
        rw [hj] at hr
        cases hr
        intro c
        rw [hfind]
        split_ifs with hc hrest
        · simp
        · simpa using hrest
        · exact h c
      · rw [removeChannel_stuck hf hs] at hr
        cases hr

theorem step_noEmptyChannel {s : Option (UPAPublisherItem C)} (h : ∀ i ∈ s, i.NoEmptyChannel)
    (e : ChannelCall C) : ∀ i ∈ step s e, i.NoEmptyChannel := by
  intro i' hi'
  cases e with
  | addChannel chnl streamId =>
    obtain ⟨i, hi, rfl⟩ := Option.map_eq_some_iff.mp hi'
    exact (h i hi).addChannel chnl streamId
  | removeChannel chnl streamId =>
    obtain ⟨i, hi, hmap⟩ := Option.bind_eq_some_iff.mp hi'
    obtain ⟨⟨b, j⟩, hr, rfl⟩ := Option.map_eq_some_iff.mp hmap
    exact (h i hi).removeChannel hr

theorem removes_unknown_iff (h : i.channelMap.find chnl = none) :
    i.Removes chnl streamId (true, i) ↔ i.hasChannels = true := by
  have hs : i.streams chnl = [] := by simp [streams, h]
  constructor
  · intro hr
    by_contra hn
    exact Bool.noConfusion (hr.result.mpr (Bool.eq_false_iff.mpr hn))
  · intro hn
    refine ⟨.inr ⟨?_, rfl⟩, fun _ _ => rfl, iff_of_true h hs, ?_⟩
    · rw [hs]
      exact List.not_mem_nil
    · rw [hn]

theorem removes_head {rest : List ℤ} (h : i.channelMap.find chnl = some (streamId :: rest)) :
    ∃ r, i.removeChannel chnl streamId = some r ∧ i.Removes chnl streamId r := by
  obtain ⟨i', hr, hfind⟩ := removeChannel_head h
  have hself : i'.channelMap.find chnl = if rest = [] then none else some rest := by
    rw [hfind, if_pos rfl]
  have hbefore : i.streams chnl = streamId :: rest := by simp [streams, h]
  have hafter : i'.streams chnl = rest := by
    unfold streams
    rw [hself]
    split_ifs with he
    · exact he.symm
    · rfl
  refine ⟨_, hr, .inl ⟨[], rest, hbefore, hafter⟩, fun c hc => ?_, ?_, Iff.rfl⟩
  · rw [hfind, if_neg hc]
  · rw [hself, hafter]
    split_ifs with he
    · exact iff_of_true rfl he
    · exact iff_of_false (by simp) he

theorem NoEmptyChannel.removes_iff (h : i.NoEmptyChannel) (chnl : C) (streamId : ℤ) :
    (∃ r, i.removeChannel chnl streamId = some r ∧ i.Removes chnl streamId r) ↔
      i.Removable chnl streamId := by
  unfold Removable
  rw [streams_eq_nil_iff h]
  cases hf : i.channelMap.find chnl with
  | none =>
    have hs : i.streams chnl = [] := by simp [streams, hf]
    rw [removeChannel_unknown hf]
    simp [hs, removes_unknown_iff hf]
  | some ss =>
    cases ss with
    | nil => exact absurd hf (h chnl)
    | cons s rest =>
      have hs : i.streams chnl = s :: rest := by simp [streams, hf]
      by_cases he : s = streamId
      · subst he
        exact iff_of_true (removes_head hf) (.inl (by rw [hs]; rfl))
      · rw [removeChannel_stuck hf he]
        simp [hs, he]

theorem stream_removed_iff (chnl₀ : Option C) (streamId₀ : ℤ) (calls : List (ChannelCall C))
    (h : Runs.run step (some (create chnl₀ streamId₀)) calls = some i) (chnl : C) (streamId : ℤ) :
    (∃ r, i.removeChannel chnl streamId = some r ∧ i.Removes chnl streamId r) ↔
      i.Removable chnl streamId := by
  have hinv : ∀ j ∈ Runs.run step (some (create chnl₀ streamId₀)) calls, j.NoEmptyChannel := by
    refine Runs.run_inv (I := fun s => ∀ j : UPAPublisherItem C, j ∈ s → j.NoEmptyChannel) ?_ ?_
    · intro s e hs
      exact step_noEmptyChannel hs e
    · intro j hj
      cases hj
      exact create_noEmptyChannel chnl₀ streamId₀
  exact NoEmptyChannel.removes_iff (hinv i h) chnl streamId

def twoStreams : UPAPublisherItem Unit := (create (some ()) 5).addChannel () 6

theorem first_stream_removed :
    (∃ r, twoStreams.removeChannel () 5 = some r ∧ twoStreams.Removes () 5 r) ↔
      twoStreams.Removable () 5 :=
  stream_removed_iff (some ()) 5 [.addChannel () 6] rfl () 5

/-- The search for the second stream of the channel does not end. -/
theorem second_stream_not_removed :
    ¬ ∀ (chnl₀ : Option Unit) (streamId₀ : ℤ) (calls : List (ChannelCall Unit))
      (i : UPAPublisherItem Unit), Runs.run step (some (create chnl₀ streamId₀)) calls = some i →
      ∀ chnl streamId, ∃ r, i.removeChannel chnl streamId = some r ∧ i.Removes chnl streamId r := by
  intro h
  obtain ⟨r, hr, -⟩ := h (some ()) 5 [.addChannel () 6] twoStreams rfl () 6
  have hfind : twoStreams.channelMap.find () = some [5, 6] := rfl
  rw [removeChannel_stuck hfind (by decide)] at hr
  cases hr

end UPAPublisherItem

end RmdsBridge
