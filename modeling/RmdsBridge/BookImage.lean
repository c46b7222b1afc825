import RmdsBridge.BookTracking
import RmdsBridge.BookByPrice
import RmdsBridge.Runs

namespace RmdsBridge

structure OrderImage where
  entries : List UPABookEntry
  added : ∀ e ∈ entries, e.actionCode = 'A' ∧ e.level ≠ none
  nodup : (entries.map UPABookEntry.orderid).Nodup

structure PriceImage where
  entries : List RsslMapEntry
  added : ∀ m ∈ entries, m.action = .add
  nodup : (entries.map RsslMapEntry.key).Nodup

theorem find?_key_iff {α : Type} {key : α → String} {xs : List α} (h : (xs.map key).Nodup)
    {k : String} {x : α} : xs.find? (fun x => key x = k) = some x ↔ x ∈ xs ∧ key x = k := by
  constructor
  · exact fun hf => ⟨List.mem_of_find?_eq_some hf, by simpa using List.find?_some hf⟩
  · rintro ⟨hx, rfl⟩
    cases hf : xs.find? fun y => key y = key x with
    | none => exact absurd (List.find?_eq_none.mp hf x hx) (by simp)
    | some y =>
      have hk : key y = key x := by simpa using List.find?_some hf
      rw [List.inj_on_of_nodup_map h (List.mem_of_find?_eq_some hf) hx hk]

namespace UPABookByOrderMessage

variable {b : UPABookByOrderMessage} {es : List UPABookEntry} {id : String} {l : LevelId}

def adds (b : UPABookByOrderMessage) (es : List UPABookEntry) : UPABookByOrderMessage :=
  es.foldl (fun b e => b.apply (.add e)) b

theorem mem_orderMap_adds : id ∈ (b.adds es).orderMap ↔
    id ∈ b.orderMap ∨ ∃ e ∈ es, e.orderid = id := by
  induction es generalizing b with
  | nil => simp [adds]
  | cons e es ih =>
    change id ∈ ((b.apply (.add e)).adds es).orderMap ↔ _
    rw [ih, mem_orderMap_add]
    simp only [List.mem_cons, exists_eq_or_imp]
    rw [or_assoc, or_left_comm, eq_comm (a := id)]

theorem adds_recorded (h : b.WellFormed) : (b.adds es).recorded id =
    if id ∈ b.orderMap then b.recorded id
    else (es.find? fun e => e.orderid = id).bind UPABookEntry.level := by
  induction es generalizing b with
  | nil =>
    split_ifs with hm
    · rfl
    · exact recorded_eq_none_of_not_mem hm
  | cons e es ih =>
    change ((b.apply (.add e)).adds es).recorded id = _
    rw [ih (apply_wellFormed h _), add_recorded h, List.find?_cons]
    simp only [mem_orderMap_add]
    by_cases hid : id = e.orderid
    · subst hid
      by_cases hm : e.orderid ∈ b.orderMap <;> simp [hm]
    · by_cases hm : id ∈ b.orderMap <;> simp [hid, Ne.symm hid, hm]

theorem mem_adds_ordersAt (hes : ∀ e ∈ es, e.actionCode = 'A') : id ∈ (b.adds es).ordersAt l ↔
    id ∈ b.ordersAt l ∨ ∃ e ∈ es, e.orderid = id ∧ e.level = some l := by
  induction es generalizing b with
  | nil => simp [adds]
  | cons e es ih =>
    change id ∈ ((b.apply (.add e)).adds es).ordersAt l ↔ _
    have hcode := hes e List.mem_cons_self
    rw [ih fun x hx => hes x (List.mem_cons_of_mem _ hx), add_ordersAt]
    simp only [List.mem_cons, exists_eq_or_imp]
    split_ifs with hl
    · by_cases hid : id = e.orderid
      · subst hid
        simp [mem_effect_self, hcode, hl]
      · simp [mem_effect_iff_of_ne hid, Ne.symm hid]
    · simp [hl]

def refresh (b : UPABookByOrderMessage) (image : OrderImage) : UPABookByOrderMessage :=
  (b.startUpdate.adds image.entries).afterBuild.endUpdate

def imageLevel (image : OrderImage) (id : String) : Option LevelId :=
  (image.entries.find? fun e => e.orderid = id).bind UPABookEntry.level

def Shows (image : OrderImage) (b : UPABookByOrderMessage) : Prop :=
  ∀ id, (id ∈ b.orderMap ↔ imageLevel image id ≠ none) ∧ b.recorded id = imageLevel image id ∧
    ∀ l, id ∈ b.ordersAt l ↔ imageLevel image id = some l

def CoveredBy (image : OrderImage) (b : UPABookByOrderMessage) : Prop :=
  ∀ id, (id ∈ b.orderMap → imageLevel image id ≠ none ∧ b.recorded id = imageLevel image id) ∧
    ∀ l, id ∈ b.ordersAt l → imageLevel image id = some l

theorem imageLevel_eq_some (image : OrderImage) :
    imageLevel image id = some l ↔ ∃ e ∈ image.entries, e.orderid = id ∧ e.level = some l := by
  unfold imageLevel
  rw [Option.bind_eq_some_iff]
  refine exists_congr fun e => ?_
  rw [find?_key_iff image.nodup, and_assoc]

theorem imageLevel_ne_none (image : OrderImage) :
    imageLevel image id ≠ none ↔ ∃ e ∈ image.entries, e.orderid = id := by
  rw [Option.ne_none_iff_exists']
  constructor
  · rintro ⟨l, hl⟩
    obtain ⟨e, he, hid, -⟩ := (imageLevel_eq_some image).mp hl
    exact ⟨e, he, hid⟩
  · rintro ⟨e, he, hid⟩
    obtain ⟨l, hl⟩ := Option.ne_none_iff_exists'.mp (image.added e he).2
    exact ⟨l, (imageLevel_eq_some image).mpr ⟨e, he, hid, hl⟩⟩

theorem shows_refresh_iff (h : b.WellFormed) (image : OrderImage) :
    (b.refresh image).Shows image ↔ b.CoveredBy image := by
  have hw : b.startUpdate.WellFormed := step_wellFormed h .startUpdate
  have hmem (id : String) : id ∈ (b.refresh image).orderMap ↔
      id ∈ b.orderMap ∨ imageLevel image id ≠ none := by
    rw [imageLevel_ne_none]
    exact mem_orderMap_adds (b := b.startUpdate)
  have hrec (id : String) : (b.refresh image).recorded id =
      if id ∈ b.orderMap then b.recorded id else imageLevel image id :=
    adds_recorded hw
  have hord (id : String) (l : LevelId) : id ∈ (b.refresh image).ordersAt l ↔
      id ∈ b.ordersAt l ∨ imageLevel image id = some l := by
    unfold refresh
    rw [endUpdate_ordersAt, afterBuild_ordersAt, mem_adds_ordersAt fun e he => (image.added e he).1,
      startUpdate_ordersAt, imageLevel_eq_some]
  refine forall_congr' fun id => ?_
  rw [hmem, hrec]
  simp only [hord]
  constructor
  · rintro ⟨hm, hr, ho⟩
    refine ⟨fun hin => ⟨hm.mp (Or.inl hin), ?_⟩, fun l hl => (ho l).mp (Or.inl hl)⟩
    rwa [if_pos hin] at hr
  · rintro ⟨hm, ho⟩
    refine ⟨or_iff_right_of_imp fun hin => (hm hin).1, ?_, fun l => or_iff_right_of_imp (ho l)⟩
    split_ifs with hin
    · exact (hm hin).2
    · rfl

def Replaced (image : OrderImage) (b c : UPABookByOrderMessage) : Prop :=
  (∀ id, (id ∈ (b.refresh image).orderMap ↔ id ∈ (c.refresh image).orderMap) ∧
    (b.refresh image).recorded id = (c.refresh image).recorded id ∧
    ∀ l, id ∈ (b.refresh image).ordersAt l ↔ id ∈ (c.refresh image).ordersAt l) ∧
  (b.refresh image).Shows image ∧ (c.refresh image).Shows image

theorem replaced_iff {c : UPABookByOrderMessage} (hb : b.WellFormed) (hc : c.WellFormed)
    (image : OrderImage) : Replaced image b c ↔ b.CoveredBy image ∧ c.CoveredBy image := by
  rw [← shows_refresh_iff hb, ← shows_refresh_iff hc]
  constructor
  · exact fun h => h.2
  · rintro ⟨hb, hc⟩
    refine ⟨fun id => ?_, hb, hc⟩
    obtain ⟨hbm, hbr, hbo⟩ := hb id
    obtain ⟨hcm, hcr, hco⟩ := hc id
    exact ⟨hbm.trans hcm.symm, hbr.trans hcr.symm, fun l => (hbo l).trans (hco l).symm⟩

end UPABookByOrderMessage

namespace PriceBook

variable {D : Type} {translated : ℕ → Bool} {f : RsslReal → D} {b : PriceBook D}
  {ms : List RsslMapEntry}

def pricePoint (translated : ℕ → Bool) (m : RsslMapEntry) : PricePoint :=
  ⟨(m.entry translated).price, (m.entry translated).sideCode⟩

def imagePoint (translated : ℕ → Bool) (image : PriceImage) (k : String) : Option PricePoint :=
  (image.entries.find? fun m => m.key = k).map (pricePoint translated)

theorem add_ppMap (translated : ℕ → Bool) {m : RsslMapEntry} (hm : m.action = .add) :
    (b.processMapEntry translated m).1 = true ∧ ∀ k,
      (b.processMapEntry translated m).2.ppMap.find k =
        if k = m.key ∧ m.key ∉ b.ppMap then some (pricePoint translated m) else b.ppMap.find k := by
  have hins (k : String) : (b.insertPricePoint m.key (m.entry translated)).ppMap.find k =
      if k = m.key ∧ m.key ∉ b.ppMap then some (pricePoint translated m) else b.ppMap.find k := by
    unfold insertPricePoint
    by_cases hk : m.key ∈ b.ppMap
    · simp [hk]
    · simp [hk, UnorderedMap.find_insert, pricePoint]
  -- the side lookup finds the price point that was just inserted, or the one that was there
  have hside : ((b.insertPricePoint m.key (m.entry translated)).lookUpSide m.key
      (m.entry translated)).isSome := by
    unfold lookUpSide
    split_ifs
    · rfl
    · rw [Option.isSome_map, hins]
      by_cases hk : m.key ∈ b.ppMap
      · obtain ⟨pp, hpp⟩ := UnorderedMap.mem_iff_find.mp hk
        simp [hk, hpp]
      · simp [hk]
  obtain ⟨e, he⟩ := Option.isSome_iff_exists.mp hside
  have heq : b.processMapEntry translated m =
      (true, (b.insertPricePoint m.key (m.entry translated)).addEntry e) := by
    simp [processMapEntry, hm, he]
  rw [heq]
  exact ⟨rfl, hins⟩

theorem adds_ppMap (translated : ℕ → Bool) (hms : ∀ m ∈ ms, m.action = .add) :
    (b.processMapEntries translated ms).1 = true ∧ ∀ k,
      (b.processMapEntries translated ms).2.ppMap.find k =
        if k ∈ b.ppMap then b.ppMap.find k
        else (ms.find? fun m => m.key = k).map (pricePoint translated) := by
  induction ms generalizing b with
  | nil =>
    refine ⟨rfl, fun k => ?_⟩
    split_ifs with hk
    · rfl
    · exact UnorderedMap.find_eq_none.mpr hk
  | cons m ms ih =>
    obtain ⟨htrue, hadd⟩ := add_ppMap (b := b) translated (hms m List.mem_cons_self)
    generalize hr : b.processMapEntry translated m = r at htrue hadd
    obtain ⟨ok, b₁⟩ := r
    subst htrue
    have heq : b.processMapEntries translated (m :: ms) = b₁.processMapEntries translated ms := by
      rw [processMapEntries, hr]
    rw [heq]
    obtain ⟨hok, hfind⟩ := ih (b := b₁) fun x hx => hms x (List.mem_cons_of_mem _ hx)
    have hmem (k : String) : k ∈ b₁.ppMap ↔ k = m.key ∨ k ∈ b.ppMap := by
      have hk := hadd k
      dsimp only at hk
      rw [UnorderedMap.mem_iff_find, UnorderedMap.mem_iff_find, hk]
      by_cases hkey : k = m.key
      · subst hkey
        by_cases hm : m.key ∈ b.ppMap
        · simpa [hm] using UnorderedMap.mem_iff_find.mp hm
        · simp [hm]
      · simp [hkey]
    refine ⟨hok, fun k => ?_⟩
    have hk := hadd k
    dsimp only at hk
    rw [hfind, List.find?_cons, hk]
    simp only [hmem]
    by_cases hkey : k = m.key
    · subst hkey
      by_cases hm : m.key ∈ b.ppMap <;> simp [hm]
    · by_cases hm : k ∈ b.ppMap <;> simp [hkey, Ne.symm hkey, hm]

def refresh (translated : ℕ → Bool) (f : RsslReal → D) (b : PriceBook D) (image : PriceImage) :
    PriceBook D :=
  (b.processMessage translated f image.entries).2

def Shows (translated : ℕ → Bool) (image : PriceImage) (b : PriceBook D) : Prop :=
  ∀ k, b.ppMap.find k = imagePoint translated image k

def CoveredBy (translated : ℕ → Bool) (image : PriceImage) (b : PriceBook D) : Prop :=
  ∀ k pp, b.ppMap.find k = some pp → imagePoint translated image k = some pp

theorem shows_refresh_iff (image : PriceImage) :
    (b.refresh translated f image).Shows translated image ↔ b.CoveredBy translated image := by
  obtain ⟨hok, hfind⟩ := adds_ppMap (b := b.startUpdate) translated image.added
  have hmap : (b.refresh translated f image).ppMap =
      (b.startUpdate.processMapEntries translated image.entries).2.ppMap := by
    unfold refresh processMessage
    generalize b.startUpdate.processMapEntries translated image.entries = r at hok
    obtain ⟨ok, b₁⟩ := r
    subst hok
    rfl
  refine forall_congr' fun k => ?_
  rw [hmap, hfind]
  change (if k ∈ b.ppMap then b.ppMap.find k else imagePoint translated image k) = _ ↔ _
  cases hk : b.ppMap.find k with
  | none => simp [UnorderedMap.find_eq_none.mp hk]
  | some pp =>
    rw [if_pos (UnorderedMap.mem_iff_find.mpr ⟨pp, hk⟩)]
    simp [eq_comm]

def Replaced (translated : ℕ → Bool) (f : RsslReal → D) (image : PriceImage) (b c : PriceBook D) :
    Prop :=
  (∀ k, (b.refresh translated f image).ppMap.find k = (c.refresh translated f image).ppMap.find k) ∧
    (b.refresh translated f image).Shows translated image ∧
    (c.refresh translated f image).Shows translated image

theorem replaced_iff {c : PriceBook D} (image : PriceImage) :
    Replaced translated f image b c ↔
      b.CoveredBy translated image ∧ c.CoveredBy translated image := by
  rw [← shows_refresh_iff (f := f), ← shows_refresh_iff (f := f)]
  constructor
  · exact fun h => h.2
  · exact fun ⟨hb, hc⟩ => ⟨fun k => (hb k).trans (hc k).symm, hb, hc⟩

end PriceBook

open UPABookByOrderMessage in
theorem image_replaces_iff {D : Type} (translated : ℕ → Bool) (f : RsslReal → D)
    (as₁ as₂ : List BookAction) (orders : OrderImage) (hist₁ hist₂ : List (List RsslMapEntry))
    (prices : PriceImage) :
    (Replaced orders (Runs.run step empty as₁) (Runs.run step empty as₂) ↔
      CoveredBy orders (Runs.run step empty as₁) ∧ CoveredBy orders (Runs.run step empty as₂)) ∧
    (PriceBook.Replaced translated f prices
        (Runs.run (fun b ms => (b.processMessage translated f ms).2) {} hist₁)
        (Runs.run (fun b ms => (b.processMessage translated f ms).2) {} hist₂) ↔
      PriceBook.CoveredBy translated prices
        (Runs.run (fun b ms => (b.processMessage translated f ms).2) {} hist₁) ∧
      PriceBook.CoveredBy translated prices
        (Runs.run (fun b ms => (b.processMessage translated f ms).2) {} hist₂)) := by
  have hw (as : List BookAction) : (Runs.run step empty as).WellFormed :=
    Runs.run_inv (fun _ a h => step_wellFormed h a) wellFormed_empty
  exact ⟨UPABookByOrderMessage.replaced_iff (hw as₁) (hw as₂) orders, PriceBook.replaced_iff prices⟩

def bidOrder (id : String) (price : ℤ) : UPABookEntry :=
  { actionCode := 'A', sideCode := 'B', orderid := id, price := ⟨price, .exponent0⟩ }

def oneOrder : OrderImage where
  entries := [bidOrder "2" 100]
  added := by decide
  nodup := by decide

open UPABookByOrderMessage in
theorem image_keeps_old_order :
    ¬ ∀ as₁ as₂ orders, Replaced orders (Runs.run step empty as₁) (Runs.run step empty as₂) := by
  intro h
  have hshows := (h [.op (.add (bidOrder "1" 101))] [] oneOrder).2.1 "1"
  exact absurd hshows.2.1 (by decide)

end RmdsBridge
