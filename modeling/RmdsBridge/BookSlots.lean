import RmdsBridge.BookEffects
import RmdsBridge.BookRender
import RmdsBridge.Runs

namespace RmdsBridge

variable {D : Type}

def vectorIndex (n : Int32) : UInt64 := n.toInt64.toUInt64

def renderLevels (render : UPALevel → LevelMsg D) :
    Int32 → List UPALevel → List (UInt64 × LevelMsg D) × Int32
  | numLevels, [] => ([], numLevels)
  | numLevels, v :: vs =>
    let rest := renderLevels render (numLevels + 1) vs
    ((vectorIndex numLevels, render v) :: rest.1, rest.2)

structure BookSlots (D : Type) where
  slots : List (UInt64 × LevelMsg D)
  wNumLevels : Int32

namespace UPABookByOrderMessage

def fillSlots (rsslRealToDouble : RsslReal → D) (b : UPABookByOrderMessage) : BookSlots D :=
  let render := UPALevel.toLevelMsg rsslRealToDouble b.entries
  let asks := renderLevels (render .ask) 0 b.levelMapAsk.values
  let bids := renderLevels (render .bid) asks.2 b.levelMapBid.values
  ⟨asks.1 ++ bids.1, bids.2⟩

structure InBounds (f : RsslReal → D) (b : UPABookByOrderMessage) : Prop where
  below : ∀ x ∈ (b.fillSlots f).slots, x.1.toNat < b.afterBuild.levelMsgs
  distinct : ((b.fillSlots f).slots.map Prod.fst).Nodup
  wNumLevels : (b.fillSlots f).wNumLevels.toInt = b.numLevels
  vectorLength : (vectorIndex (b.fillSlots f).wNumLevels).toNat = b.numLevels

end UPABookByOrderMessage

theorem renderLevels_count (render : UPALevel → LevelMsg D) (vs : List UPALevel) (n : ℕ) :
    (renderLevels render (Int32.ofNat n) vs).2 = Int32.ofNat (n + vs.length) := by
  induction vs generalizing n with
  | nil => rfl
  | cons v vs ih =>
    have hn : Int32.ofNat n + 1 = Int32.ofNat (n + 1) := (Int32.ofNat_add n 1).symm
    rw [renderLevels, hn]
    dsimp only
    rw [ih, List.length_cons]
    congr 1
    omega

theorem renderLevels_slots (render : UPALevel → LevelMsg D) (vs : List UPALevel) (n : ℕ) :
    (renderLevels render (Int32.ofNat n) vs).1.map Prod.fst =
      (List.range' n vs.length).map fun i => vectorIndex (Int32.ofNat i) := by
  induction vs generalizing n with
  | nil => rfl
  | cons v vs ih =>
    have hn : Int32.ofNat n + 1 = Int32.ofNat (n + 1) := (Int32.ofNat_add n 1).symm
    rw [renderLevels, hn]
    dsimp only
    rw [List.map_cons, ih, List.length_cons, List.range'_succ, List.map_cons]

theorem vectorIndex_toNat {n : ℕ} (h : n < 2 ^ 31) : (vectorIndex (Int32.ofNat n)).toNat = n := by
  have hmax : (n : ℤ) ≤ Int32.maxValue.toInt := by
    rw [Int32.toInt_maxValue]
    omega
  rw [vectorIndex, Int32.toInt64_ofNat' hmax, Int64.toUInt64_ofNat', UInt64.toNat_ofNat']
  omega

namespace UPABookByOrderMessage

variable {b : UPABookByOrderMessage} {f : RsslReal → D}

theorem numLevels_eq_values :
    b.numLevels = b.levelMapAsk.values.length + b.levelMapBid.values.length := by
  simp only [numLevels, UnorderedMap.values, List.length_map]
  omega

theorem asks_count (render : UPALevel → LevelMsg D) :
    (renderLevels render 0 b.levelMapAsk.values).2 = Int32.ofNat b.levelMapAsk.values.length := by
  have h := renderLevels_count render b.levelMapAsk.values 0
  rwa [Nat.zero_add] at h

theorem fillSlots_wNumLevels : (b.fillSlots f).wNumLevels = Int32.ofNat b.numLevels := by
  unfold fillSlots
  dsimp only
  rw [asks_count, renderLevels_count, numLevels_eq_values]

theorem fillSlots_slots : (b.fillSlots f).slots.map Prod.fst =
    (List.range b.numLevels).map fun i => vectorIndex (Int32.ofNat i) := by
  have hask := renderLevels_slots (UPALevel.toLevelMsg f b.entries .ask) b.levelMapAsk.values 0
  have happend := List.range'_append_1 (s := 0) (m := b.levelMapAsk.values.length)
    (n := b.levelMapBid.values.length)
  rw [Nat.zero_add] at happend
  unfold fillSlots
  dsimp only
  rw [asks_count, numLevels_eq_values, List.range_eq_range', ← happend, List.map_append,
    List.map_append, renderLevels_slots]
  congr 1

theorem fillSlots_toNat (h : b.numLevels < 2 ^ 31) :
    ((b.fillSlots f).slots.map Prod.fst).map UInt64.toNat = List.range b.numLevels := by
  rw [fillSlots_slots, List.map_map]
  conv_rhs => rw [← List.map_id (List.range b.numLevels)]
  apply List.map_congr_left
  intro i hi
  exact vectorIndex_toNat ((List.mem_range.mp hi).trans h)

theorem below_iff (h : b.numLevels < 2 ^ 31) (n : ℕ) :
    (∀ x ∈ (b.fillSlots f).slots, x.1.toNat < n) ↔ b.numLevels ≤ n := by
  have hmem (i : ℕ) : (∃ x ∈ (b.fillSlots f).slots, x.1.toNat = i) ↔ i < b.numLevels := by
    rw [← List.mem_range, ← fillSlots_toNat h (f := f), List.map_map, List.mem_map]
    rfl
  constructor
  · intro hx
    by_contra hn
    obtain ⟨x, hxm, he⟩ := (hmem n).mpr (by omega)
    exact absurd (hx x hxm) (by omega)
  · intro hn x hx
    have hlt := (hmem x.1.toNat).mp ⟨x, hx, rfl⟩
    omega

/-- The buffer grows to the 16-bit count, so from 2^16 levels on it has to be large enough before. -/
theorem inBounds_iff (f : RsslReal → D) (b : UPABookByOrderMessage) : b.InBounds f ↔
    (b.numLevels < 2 ^ 16 ∨ b.numLevels ≤ b.levelMsgs) ∧ b.numLevels < 2 ^ 31 := by
  have hgrown : b.numLevels ≤ b.afterBuild.levelMsgs ↔
      b.numLevels < 2 ^ 16 ∨ b.numLevels ≤ b.levelMsgs := by
    simp only [afterBuild]
    omega
  constructor
  · intro h
    have hlt : b.numLevels < 2 ^ 31 := by
      have hcount := h.wNumLevels
      have hmax := (b.fillSlots f).wNumLevels.toInt_lt
      omega
    exact ⟨hgrown.mp ((below_iff hlt _).mp h.below), hlt⟩
  · rintro ⟨hsize, hlt⟩
    refine ⟨(below_iff hlt _).mpr (hgrown.mpr hsize), ?_, ?_, ?_⟩
    · apply List.Nodup.of_map UInt64.toNat
      rw [fillSlots_toNat hlt]
      exact List.nodup_range
    · rw [fillSlots_wNumLevels, Int32.toInt_ofNat_of_lt hlt]
    · rw [fillSlots_wNumLevels, vectorIndex_toNat hlt]

/-! A book of many bids -/

def distinctBid (i : ℕ) : UPABookEntry :=
  { actionCode := 'A', sideCode := 'B', orderid := toString i, price := ⟨i, .exponent0⟩ }

def manyBids (n : ℕ) : List BookAction := (List.range n).map fun i => .op (.add (distinctBid i))

structure HasBids (n : ℕ) (b : UPABookByOrderMessage) : Prop where
  asks : b.levelMapAsk = ∅
  bids : b.levelMapBid.size = n
  fresh : ∀ k, (n : ℤ) ≤ k → b.levelMapBid.find k = none
  levelMsgs : b.levelMsgs = 0

theorem HasBids.numLevels_eq {n : ℕ} (h : b.HasBids n) : b.numLevels = n := by
  rw [numLevels, h.asks]
  exact h.bids

theorem add_bid (b : UPABookByOrderMessage) (i : ℕ) :
    ∃ v, (b.apply (.add (distinctBid i))).levelMapBid = b.levelMapBid.insert (i : ℤ) v ∧
      (b.apply (.add (distinctBid i))).levelMapAsk = b.levelMapAsk ∧
      (b.apply (.add (distinctBid i))).levelMsgs = b.levelMsgs := by
  have hl : (distinctBid i).level = some (.bid, (i : ℤ)) := rfl
  simp only [apply, addEntry, newEntry_entry, hl]
  split_ifs <;> exact ⟨_, rfl, rfl, rfl⟩

theorem HasBids.add {n : ℕ} (h : b.HasBids n) : (b.apply (.add (distinctBid n))).HasBids (n + 1) := by
  obtain ⟨v, hbid, hask, hmsgs⟩ := add_bid b n
  refine ⟨hask.trans h.asks, ?_, ?_, hmsgs.trans h.levelMsgs⟩
  · rw [hbid, UnorderedMap.size_insert, h.fresh n le_rfl, h.bids]
    rfl
  · intro k hk
    rw [hbid, UnorderedMap.find_insert, if_neg (by omega)]
    exact h.fresh k (by omega)

theorem manyBids_hasBids (n : ℕ) : (Runs.run step empty (manyBids n)).HasBids n := by
  induction n with
  | zero => exact ⟨rfl, rfl, fun k _ => UnorderedMap.find_empty k, rfl⟩
  | succ n ih =>
    rw [manyBids, List.range_succ, List.map_append, Runs.run_append]
    exact ih.add

theorem manyBids_out_of_bounds : ¬ ∀ as, (Runs.run step empty as).InBounds fun x : RsslReal => x.value := by
  intro h
  have hb := manyBids_hasBids (2 ^ 16)
  obtain ⟨hsize, -⟩ := (inBounds_iff _ _).mp (h (manyBids (2 ^ 16)))
  rw [hb.numLevels_eq, hb.levelMsgs] at hsize
  omega

end UPABookByOrderMessage

end RmdsBridge
