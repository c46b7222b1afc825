import Mathlib.Algebra.Field.Rat
import Mathlib.Tactic.NormNum
import RmdsBridge.BookConsistency
import RmdsBridge.BookOrders

namespace RmdsBridge

def RsslReal.SameNumber (p q : RsslReal) : Prop := p.toRat.isSome ∧ p.toRat = q.toRat

instance (p q : RsslReal) : Decidable (p.SameNumber q) := by
  unfold RsslReal.SameNumber; infer_instance

def RsslReal.Comparable (p q : RsslReal) : Prop := p.value = q.value ↔ p.SameNumber q

instance (p q : RsslReal) : Decidable (p.Comparable q) := by
  unfold RsslReal.Comparable; infer_instance

theorem RsslReal.SameNumber.symm {p q : RsslReal} (h : p.SameNumber q) : q.SameNumber p :=
  ⟨h.2 ▸ h.1, h.2.symm⟩

theorem RsslReal.Comparable.symm {p q : RsslReal} (h : p.Comparable q) : q.Comparable p := by
  constructor
  · intro hv
    exact (h.mp hv.symm).symm
  · intro hs
    exact (h.mpr hs.symm).symm

def Distinguished (prices : String → Option (Side × RsslReal)) : Prop :=
  ∀ id id' s p p', id ≠ id' → prices id = some (s, p) → prices id' = some (s, p') → p.Comparable p'

theorem Distinguished.erase {prices : String → Option (Side × RsslReal)} (h : Distinguished prices)
    (k : String) : Distinguished (Function.update prices k none) := by
  intro id id' s p p' hne hp hp'
  have hk : ∀ i r, Function.update prices k none i = some r → prices i = some r := by
    intro i r hr
    by_cases hi : i = k
    · subst hi
      simp at hr
    · rwa [Function.update_of_ne hi] at hr
  exact h id id' s p p' hne (hk _ _ hp) (hk _ _ hp')

theorem Distinguished.put {prices : String → Option (Side × RsslReal)} (h : Distinguished prices)
    (k : String) (s : Side) (p : RsslReal) :
    Distinguished (Function.update prices k (some (s, p))) ↔
      ∀ id p', id ≠ k → prices id = some (s, p') → p.Comparable p' := by
  constructor
  · intro hput id p' hid hp'
    refine hput k id s p p' hid.symm (Function.update_self ..) ?_
    rw [Function.update_of_ne hid, hp']
  · intro hnew id id' s' q q' hne hq hq'
    by_cases hid : id = k
    · subst hid
      rw [Function.update_self] at hq
      rw [Function.update_of_ne hne.symm] at hq'
      cases hq
      exact hnew id' q' hne.symm hq'
    · rw [Function.update_of_ne hid] at hq
      by_cases hid' : id' = k
      · subst hid'
        rw [Function.update_self] at hq'
        cases hq'
        exact (hnew id q hid hq).symm
      · rw [Function.update_of_ne hid'] at hq'
        exact h id id' s' q q' hne hq hq'

namespace UPABookByOrderMessage

variable {b : UPABookByOrderMessage} {e : UPABookEntry} {id : String} {l : LevelId}

def livePrice (b : UPABookByOrderMessage) (id : String) : Option (Side × RsslReal) :=
  (b.order id).bind fun y => (Side.ofCode y.sideCode).map fun s => (s, y.price)

theorem recorded_eq_livePrice : b.recorded id = (b.livePrice id).map fun r => (r.1, r.2.value) := by
  rw [recorded_eq_order, livePrice]
  cases b.order id with
  | none => rfl
  | some y =>
    simp only [Option.bind_some, UPABookEntry.level]
    cases Side.ofCode y.sideCode <;> rfl

def PriceIdentity (b : UPABookByOrderMessage) : Prop :=
  ∀ id id' s p p', id ≠ id' → b.livePrice id = some (s, p) → b.livePrice id' = some (s, p') →
    ((∃ l, id ∈ b.ordersAt l ∧ id' ∈ b.ordersAt l) ↔ p.SameNumber p')

theorem priceIdentity_iff (h : b.Tracked) : b.PriceIdentity ↔ Distinguished b.livePrice := by
  unfold PriceIdentity Distinguished
  refine forall₅_congr fun id id' s p p' => forall₃_congr fun _ hp hp' => ?_
  have hlevel : (∃ l, id ∈ b.ordersAt l ∧ id' ∈ b.ordersAt l) ↔ p.value = p'.value := by
    simp only [h.mem_iff, recorded_eq_livePrice, hp, hp', Option.map_some, Option.some.injEq]
    constructor
    · rintro ⟨l, rfl, heq⟩
      exact (congrArg Prod.snd heq).symm
    · intro heq
      exact ⟨_, rfl, by rw [heq]⟩
  rw [hlevel]
  rfl

def MovesRight (b : UPABookByOrderMessage) : BookAction → Prop
  | .op (.update e) => ∀ s p, b.livePrice e.orderid = some (s, p) →
      ((∃ l, e.orderid ∈ b.ordersAt l ∧ e.orderid ∉ (b.apply (.update e)).ordersAt l) ↔
        ¬ p.SameNumber e.price)
  | _ => True

def ComparedWith (b : UPABookByOrderMessage) (s : Side) (q : RsslReal) (id : String) : Prop :=
  ∀ k ∈ b.orderMap.keys, k ≠ id → ∀ r ∈ b.livePrice k, r.1 = s → q.Comparable r.2

def Priced (b : UPABookByOrderMessage) : BookAction → Prop
  | .op (.add e) => e.orderid ∉ b.orderMap →
      ∀ s ∈ Side.ofCode e.sideCode, b.ComparedWith s e.price e.orderid
  | .op (.update e) => ∀ r ∈ b.livePrice e.orderid, r.2.Comparable e.price ∧
      (r.2.value ≠ e.price.value → b.ComparedWith r.1 e.price e.orderid)
  | _ => True

instance (b : UPABookByOrderMessage) (s : Side) (q : RsslReal) (id : String) :
    Decidable (b.ComparedWith s q id) := by
  unfold ComparedWith; infer_instance

instance (b : UPABookByOrderMessage) (a : BookAction) : Decidable (b.Priced a) := by
  unfold Priced; split <;> infer_instance

theorem livePrice_congr {c : UPABookByOrderMessage} (h : c.order id = b.order id) :
    c.livePrice id = b.livePrice id := by
  unfold livePrice
  rw [h]

theorem livePrice_mem {r : Side × RsslReal} (h : b.livePrice id = some r) : id ∈ b.orderMap := by
  obtain ⟨y, hy, -⟩ := Option.bind_eq_some_iff.mp h
  exact order_isSome.mp ⟨y, hy⟩

theorem comparedWith_iff {s : Side} {q : RsslReal} : b.ComparedWith s q id ↔
    ∀ id' p', id' ≠ id → b.livePrice id' = some (s, p') → q.Comparable p' := by
  constructor
  · intro h id' p' hne hp'
    exact h id' (livePrice_mem hp') hne (s, p') hp' rfl
  · rintro h k - hne ⟨s', p'⟩ hr rfl
    exact h k p' hne hr

theorem livePrice_of_home {x : EntryPtr} {v : UPALevel} (hh : b.home id = some (x, l, v)) :
    b.livePrice id = some (l.1, (b.entries x).price) ∧ (b.entries x).price.value = l.2 := by
  obtain ⟨hy, hl⟩ := home_order hh
  obtain ⟨hside, hvalue⟩ := UPABookEntry.level_eq_some hl
  refine ⟨?_, hvalue⟩
  rw [livePrice, hy, Option.bind_some, hside]
  rfl

theorem add_livePrice (h : b.WellFormed) {s : Side} (hs : Side.ofCode e.sideCode = some s)
    (hnew : e.orderid ∉ b.orderMap) :
    (b.apply (.add e)).livePrice = Function.update b.livePrice e.orderid (some (s, e.price)) := by
  funext id
  by_cases hid : id = e.orderid
  · rw [hid, Function.update_self, livePrice, add_order h, if_pos ⟨rfl, hnew⟩, Option.bind_some, hs]
    rfl
  · rw [Function.update_of_ne hid]
    exact livePrice_congr (by rw [add_order h, if_neg fun hc => hid hc.1])

theorem move_livePrice (h : b.WellFormed) {x : EntryPtr} {v : UPALevel}
    (hh : b.home e.orderid = some (x, l, v)) (hk : e.price.value ≠ l.2) :
    (b.apply (.update e)).livePrice =
      Function.update b.livePrice e.orderid (some (l.1, e.price)) := by
  funext id
  by_cases hid : id = e.orderid
  · rw [hid, Function.update_self, livePrice, move_order h hh hk, if_pos rfl, Option.bind_some]
    simp [moved]
  · rw [Function.update_of_ne hid]
    exact livePrice_congr (by rw [move_order h hh hk, if_neg hid])

theorem remove_livePrice (h : b.WellFormed) :
    (b.apply (.remove e)).livePrice = Function.update b.livePrice e.orderid none := by
  funext id
  by_cases hid : id = e.orderid
  · rw [hid, Function.update_self, livePrice, remove_order h, if_pos rfl]
    rfl
  · rw [Function.update_of_ne hid]
    exact livePrice_congr (by rw [remove_order h, if_neg hid])

theorem add_priced_iff (h : b.Indexed) (hd : Distinguished b.livePrice) (ha : b.AdmissibleOp (.add e)) :
    (b.apply (.add e)).PriceIdentity ↔ b.Priced (.op (.add e)) := by
  rw [priceIdentity_iff (apply_indexed h _ ha).toTracked]
  by_cases hlive : e.orderid ∈ b.orderMap
  · have hsame : (b.apply (.add e)).livePrice = b.livePrice := by
      funext id
      exact livePrice_congr (by rw [add_order h.wellFormed, if_neg fun hc => hc.2 hlive])
    rw [hsame]
    exact iff_of_true hd fun hnew => absurd hlive hnew
  · simp only [AdmissibleOp, if_neg hlive] at ha
    obtain ⟨l, hl⟩ := Option.ne_none_iff_exists'.mp ha.1
    have hs := (UPABookEntry.level_eq_some hl).1
    rw [add_livePrice h.wellFormed hs hlive, hd.put, ← comparedWith_iff]
    simp [Priced, hlive, hs]

theorem update_priced_iff (h : b.Indexed) (hd : Distinguished b.livePrice)
    (ha : b.AdmissibleOp (.update e)) :
    ((b.apply (.update e)).PriceIdentity ∧ b.MovesRight (.op (.update e))) ↔
      b.Priced (.op (.update e)) := by
  have hw := h.wellFormed
  have ht' := (apply_indexed h _ ha).toTracked
  rw [priceIdentity_iff ht']
  cases hr : b.recorded e.orderid with
  | none =>
    have hnone : b.livePrice e.orderid = none := by
      rw [recorded_eq_livePrice, Option.map_eq_none_iff] at hr
      exact hr
    have hhome : b.home e.orderid = none := by
      cases hh : b.home e.orderid with
      | none => rfl
      | some r =>
        obtain ⟨x, l, v⟩ := r
        rw [(livePrice_of_home hh).1] at hnone
        cases hnone
    have hsame : (b.apply (.update e)).livePrice = b.livePrice := by
      funext id
      rw [update_unknown hw hhome]
      exact livePrice_congr (newEntry_order hw)
    rw [hsame]
    simp [hd, MovesRight, Priced, hnone]
  | some l =>
    obtain ⟨x, v, hh⟩ := h.home hr
    obtain ⟨hprice, hvalue⟩ := livePrice_of_home hh
    have hmoves : (∃ m, e.orderid ∈ b.ordersAt m ∧ e.orderid ∉ (b.apply (.update e)).ordersAt m) ↔
        (b.entries x).price.value ≠ e.price.value := by
      simp only [h.mem_iff, ht'.mem_iff, hr, Option.some.injEq, exists_eq_left', hvalue]
      by_cases hk : e.price.value = l.2
      · simp [same_recorded hw hh hk, hr, hk]
      · have hne : (l.1, e.price.value) ≠ l := fun hc => hk (congrArg Prod.snd hc)
        simp [move_recorded hw hh hk, hne, Ne.symm hk]
    have hright : b.MovesRight (.op (.update e)) ↔ (b.entries x).price.Comparable e.price := by
      simp only [MovesRight, hprice, Option.some.injEq, Prod.mk.injEq]
      constructor
      · intro hm
        exact not_iff_not.mp (hmoves.symm.trans (hm l.1 _ ⟨rfl, rfl⟩))
      · rintro hc s p ⟨rfl, rfl⟩
        exact hmoves.trans (not_congr hc)
    have hpriced : b.Priced (.op (.update e)) ↔ (b.entries x).price.Comparable e.price ∧
        ((b.entries x).price.value ≠ e.price.value → b.ComparedWith l.1 e.price e.orderid) := by
      simp [Priced, hprice]
    rw [hright, hpriced, and_comm]
    refine and_congr_right fun _ => ?_
    by_cases hk : e.price.value = l.2
    · have hsame : (b.apply (.update e)).livePrice = b.livePrice := by
        funext id
        exact livePrice_congr (same_order hw hh hk)
      rw [hsame]
      exact iff_of_true hd fun hne => absurd (hvalue.trans hk.symm) hne
    · rw [move_livePrice hw hh hk, hd.put, ← comparedWith_iff]
      exact ⟨fun hc _ => hc, fun hc => hc (hvalue.trans_ne (Ne.symm hk))⟩

theorem step_priced_iff (h : b.Indexed) (hd : Distinguished b.livePrice) (a : BookAction)
    (ha : b.Admissible a) : ((b.step a).PriceIdentity ∧ b.MovesRight a) ↔ b.Priced a := by
  cases a with
  | op o =>
    cases o with
    | add e => exact (and_iff_left trivial).trans (add_priced_iff h hd ha)
    | update e => exact update_priced_iff h hd ha
    | remove e =>
      refine iff_of_true ⟨?_, trivial⟩ trivial
      show (b.apply (.remove e)).PriceIdentity
      rw [priceIdentity_iff (apply_indexed h (.remove e) ha).toTracked, remove_livePrice h.wellFormed]
      exact hd.erase _
  | startUpdate | build | endUpdate =>
    refine iff_of_true ⟨?_, trivial⟩ trivial
    rw [priceIdentity_iff (step_indexed h _ ha).toTracked]
    exact hd

theorem run_priced_iff {as : List BookAction} (h : b.Indexed) (hd : Distinguished b.livePrice)
    (ha : Runs.Guarded step Admissible b as) :
    (Runs.Always step PriceIdentity b as ∧ Runs.Guarded step MovesRight b as) ↔
      Runs.Guarded step Priced b as := by
  induction as generalizing b with
  | nil =>
    refine iff_of_true ⟨?_, trivial⟩ trivial
    exact (priceIdentity_iff h.toTracked).mpr hd
  | cons a as ih =>
    obtain ⟨hfirst, hrest⟩ := ha
    have hstep := step_priced_iff h hd a hfirst
    have hnext := step_indexed h a hfirst
    have hhere : b.PriceIdentity := (priceIdentity_iff h.toTracked).mpr hd
    constructor
    · rintro ⟨⟨-, halways⟩, hmoves, hmoves'⟩
      have hd' := (priceIdentity_iff hnext.toTracked).mp halways.head
      exact ⟨hstep.mp ⟨halways.head, hmoves⟩, (ih hnext hd' hrest).mp ⟨halways, hmoves'⟩⟩
    · rintro ⟨hpriced, hpriced'⟩
      obtain ⟨hid, hmoves⟩ := hstep.mpr hpriced
      have hd' := (priceIdentity_iff hnext.toTracked).mp hid
      obtain ⟨halways, hmoves'⟩ := (ih hnext hd' hrest).mpr hpriced'
      exact ⟨⟨hhere, halways⟩, hmoves, hmoves'⟩

instance (b : UPABookByOrderMessage) (o : BookOp) : Decidable (b.AdmissibleOp o) :=
  match o with
  | .add e => inferInstanceAs (Decidable (if e.orderid ∈ b.orderMap then
      ∀ l ∈ e.level, if b.recorded e.orderid = some l then e.actionCode ≠ 'D' else e.actionCode ≠ 'A'
      else e.level ≠ none ∧ e.actionCode = 'A'))
  | .update e => inferInstanceAs (Decidable
      (∀ l ∈ b.recorded e.orderid, e.price.value = l.2 → e.actionCode ≠ 'D'))
  | .remove _ => inferInstanceAs (Decidable True)

instance (b : UPABookByOrderMessage) (a : BookAction) : Decidable (b.Admissible a) := by
  unfold Admissible; split <;> infer_instance

theorem distinguished_empty : Distinguished empty.livePrice := by
  intro id id' s p p' _ hp
  cases hp

def bidAt (id : String) (price : RsslReal) : UPABookEntry :=
  { actionCode := 'A', sideCode := 'B', orderid := id, price := price }

theorem equal_prices_apart :
    ¬ Runs.Always step PriceIdentity empty
      [.op (.add (bidAt "1" ⟨100, .exponent0⟩)), .op (.add (bidAt "2" ⟨1000, .exponent 13⟩))] := by
  intro h
  have hadmissible : Runs.Guarded step Admissible empty
      [.op (.add (bidAt "1" ⟨100, .exponent0⟩)), .op (.add (bidAt "2" ⟨1000, .exponent 13⟩))] := by
    decide
  have hpriced := (run_priced_iff indexed_empty distinguished_empty hadmissible).mp
    ⟨h, trivial, trivial, trivial⟩
  exact absurd hpriced (by decide +kernel)

theorem price_identity_iff (as : List BookAction) (ha : Runs.Guarded step Admissible empty as) :
    (Runs.Always step PriceIdentity empty as ∧ Runs.Guarded step MovesRight empty as) ↔
      Runs.Guarded step Priced empty as :=
  run_priced_iff indexed_empty distinguished_empty ha

theorem price_identity_example :
    let twoBids : List BookAction :=
      [.op (.add (bidAt "1" ⟨100, .exponent0⟩)), .op (.add (bidAt "2" ⟨101, .exponent0⟩)),
        .op (.update (bidAt "2" ⟨7, .exponent 13⟩))]
    Runs.Always step PriceIdentity empty twoBids ∧ Runs.Guarded step MovesRight empty twoBids :=
  (price_identity_iff _ (by decide)).mpr (by decide +kernel)

end UPABookByOrderMessage

end RmdsBridge
