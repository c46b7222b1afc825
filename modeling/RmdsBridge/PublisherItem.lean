import RmdsBridge.UnorderedMap

namespace RmdsBridge

structure UPAPublisherItem (C : Type) where
  channelMap : UnorderedMap C (List ℤ) := ∅

namespace UPAPublisherItem

variable {C : Type} [DecidableEq C]

/-- `none` is the null channel, with which a client's publisher comes. -/
def create (chnl : Option C) (streamId : ℤ) : UPAPublisherItem C :=
  match chnl with
  | some c => { channelMap := AList.insert c [streamId] ∅ }
  | none => {}

def streams (i : UPAPublisherItem C) (chnl : C) : List ℤ := (i.channelMap.find chnl).getD []

def addChannel (i : UPAPublisherItem C) (chnl : C) (streamId : ℤ) : UPAPublisherItem C :=
  { i with channelMap := i.channelMap.insert chnl (i.streams chnl ++ [streamId]) }

/-- The loop that looks for the stream does not advance its iterator, so that it finds the first stream
of the list or never ends. -/
def eraseStream (streamId : ℤ) : List ℤ → Option (List ℤ)
  | [] => some []
  | s :: ss => if s = streamId then some ss else none

/-- The result is false when the last channel is gone; `none` is a call that does not return. -/
def removeChannel (i : UPAPublisherItem C) (chnl : C) (streamId : ℤ) :
    Option (Bool × UPAPublisherItem C) :=
  match i.channelMap.find chnl with
  | none | some [] => some (true, i)
  | some (s :: ss) =>
    (eraseStream streamId (s :: ss)).map fun rest =>
      let channelMap :=
        if rest = [] then i.channelMap.erase chnl else i.channelMap.insert chnl rest
      (channelMap.entries ≠ [], { i with channelMap := channelMap })

def hasChannels (i : UPAPublisherItem C) : Bool := i.channelMap.entries ≠ []

variable {i : UPAPublisherItem C} {chnl : C} {streamId : ℤ}

theorem hasChannels_of_find {ss : List ℤ} (h : i.channelMap.find chnl = some ss) :
    i.hasChannels = true := by
  have hm := UnorderedMap.mem_entries_iff.mpr h
  simpa [hasChannels] using List.ne_nil_of_mem hm

theorem removeChannel_head {rest : List ℤ} (h : i.channelMap.find chnl = some (streamId :: rest)) :
    ∃ i', i.removeChannel chnl streamId = some (i'.hasChannels, i') ∧
      ∀ c, i'.channelMap.find c =
        if c = chnl then (if rest = [] then none else some rest) else i.channelMap.find c := by
  simp only [removeChannel, h, eraseStream, if_true, Option.map_some]
  refine ⟨_, rfl, fun c => ?_⟩
  cases rest with
  | nil => exact UnorderedMap.find_erase _ chnl c
  | cons s ss => exact UnorderedMap.find_insert _ chnl c (s :: ss)

theorem removeChannel_stuck {s : ℤ} {rest : List ℤ} (h : i.channelMap.find chnl = some (s :: rest))
    (hs : s ≠ streamId) : i.removeChannel chnl streamId = none := by
  simp [removeChannel, h, eraseStream, hs]

theorem removeChannel_cases {b : Bool} {i' : UPAPublisherItem C}
    (h : i.removeChannel chnl streamId = some (b, i')) :
    (b = true ∧ i' = i) ∨ (i.hasChannels = true ∧ b = i'.hasChannels) := by
  cases hf : i.channelMap.find chnl with
  | none => exact .inl (by simpa [removeChannel, hf, eq_comm] using h)
  | some ss =>
    cases ss with
    | nil => exact .inl (by simpa [removeChannel, hf, eq_comm] using h)
    | cons s rest =>
      by_cases hs : s = streamId
      · subst hs
        obtain ⟨j, hj, -⟩ := removeChannel_head hf
        rw [hj] at h
        cases h
        exact .inr ⟨hasChannels_of_find hf, rfl⟩
      · rw [removeChannel_stuck hf hs] at h
        cases h

end UPAPublisherItem

/-- The items of a source are told by their symbols: none is ever replaced or removed. -/
structure RMDSPublisherSource (C : Type) where
  name : String
  publisherItemMap : UnorderedMap String (UPAPublisherItem C) := ∅

namespace RMDSPublisherSource

variable {C : Type} [DecidableEq C]

def getItem (s : RMDSPublisherSource C) (symbol : String) : Option (UPAPublisherItem C) :=
  s.publisherItemMap.find symbol

def setItem (s : RMDSPublisherSource C) (symbol : String) (i : UPAPublisherItem C) :
    RMDSPublisherSource C :=
  { s with publisherItemMap := s.publisherItemMap.insert symbol i }

/-- The source with the item and whether it is new; an item that exists gets no null channel. -/
def addItem (s : RMDSPublisherSource C) (chnl : Option C) (streamId : ℤ) (symbol : String) :
    Bool × RMDSPublisherSource C :=
  match s.getItem symbol with
  | none => (true, s.setItem symbol (.create chnl streamId))
  | some i => (false, chnl.elim s fun c => s.setItem symbol (i.addChannel c streamId))

end RMDSPublisherSource

end RmdsBridge
