import RmdsBridge.BookOrders
import RmdsBridge.BookTracking
import RmdsBridge.Runs

namespace RmdsBridge

structure Carried where
  price : Option RsslReal := none
  size : Option ℤ := none
  side : Option Side := none
  deriving DecidableEq, Repr

namespace Carried

def latest (c d : Carried) : Carried := ⟨d.price.or c.price, d.size.or c.size, d.side.or c.side⟩

structure Shown (c : Carried) (y : UPABookEntry) : Prop where
  price : ∀ p ∈ c.price, y.price = p
  size : ∀ n ∈ c.size, y.size = n
  side : ∀ s ∈ c.side, y.sideCode = s.code

instance (c : Carried) (y : UPABookEntry) : Decidable (c.Shown y) :=
  decidable_of_iff ((∀ p ∈ c.price, y.price = p) ∧ (∀ n ∈ c.size, y.size = n) ∧
    ∀ s ∈ c.side, y.sideCode = s.code)
    ⟨fun h => ⟨h.1, h.2.1, h.2.2⟩, fun h => ⟨h.price, h.size, h.side⟩⟩

theorem forall_mem_or {α : Type} {o o' : Option α} {P : α → Prop} (h : ∀ a ∈ o, P a) :
    (∀ a ∈ o'.or o, P a) ↔ ∀ a ∈ o', P a := by
  cases o' with
  | none => simpa using h
  | some a => simp

theorem latest_shown {c d : Carried} {y : UPABookEntry} (h : c.Shown y) :
    (c.latest d).Shown y ↔ d.Shown y := by
  constructor
  · intro hl
    exact ⟨(forall_mem_or h.price).mp hl.price, (forall_mem_or h.size).mp hl.size,
      (forall_mem_or h.side).mp hl.side⟩
  · intro hd
    exact ⟨(forall_mem_or h.price).mpr hd.price, (forall_mem_or h.size).mpr hd.size,
      (forall_mem_or h.side).mpr hd.side⟩

end Carried

def RsslFieldEntry.carried (translated : ℕ → Bool) (f : RsslFieldEntry) : Carried :=
  if translated f.fieldId then
    match f.fieldId, f.data with
    -- ORDER_PRC
    | 3427, .real r => { price := some r }
    -- ORDER_SIZE and ACCUMULATED SIZE
    | 3429, .real r | 4356, .real r => if r.hint = .exponent0 then { size := some r.value } else {}
    -- ORDER_SIDE
    | 3428, .enum n =>
      if n = 1 then { side := some .bid } else if n = 2 then { side := some .ask } else {}
    | _, _ => {}
  else {}

def RsslMapEntry.carried (translated : ℕ → Bool) (m : RsslMapEntry) : Carried :=
  match m.action with
  | .delete => {}
  | .add | .update => m.fields.foldl (fun (c : Carried) f => c.latest (f.carried translated)) {}

def RsslMapEntry.orderOp (translated : ℕ → Bool) (m : RsslMapEntry) : BookOp :=
  let entry := { m.entry translated with orderid := m.key }
  match m.action with
  | .add => .add entry
  | .update => .update entry
  | .delete => .remove entry

structure Carried.Decodes (c : Carried) (e₀ e : UPABookEntry) : Prop where
  price : e.price = c.price.getD e₀.price
  size : e.size = c.size.getD e₀.size
  sideCode : e.sideCode = (c.side.map Side.code).getD e₀.sideCode

theorem decodeBookFieldEntry_decodes (translated : ℕ → Bool) (e : UPABookEntry) (f : RsslFieldEntry) :
    (f.carried translated).Decodes e (decodeBookFieldEntry translated e f) := by
  unfold RsslFieldEntry.carried decodeBookFieldEntry
  split
  case isTrue =>
    -- by the field and its primitive, then by the hint or the enumerated value
    split <;> (try split) <;> (try split) <;> simp_all <;> constructor <;> rfl
  case isFalse => exact ⟨rfl, rfl, rfl⟩

theorem Carried.Decodes.trans {c d : Carried} {e₀ e₁ e₂ : UPABookEntry} (h : c.Decodes e₀ e₁)
    (h' : d.Decodes e₁ e₂) : (c.latest d).Decodes e₀ e₂ := by
  refine ⟨?_, ?_, ?_⟩
  · rw [h'.price, h.price]
    cases hd : d.price <;> simp [latest, hd]
  · rw [h'.size, h.size]
    cases hd : d.size <;> simp [latest, hd]
  · rw [h'.sideCode, h.sideCode]
    cases hd : d.side <;> simp [latest, hd]

theorem fields_decodes (translated : ℕ → Bool) (fields : List RsslFieldEntry) (e₀ : UPABookEntry) :
    (fields.foldl (fun (c : Carried) f => c.latest (f.carried translated)) {}).Decodes e₀
      (fields.foldl (decodeBookFieldEntry translated) e₀) := by
  induction fields using List.reverseRecOn with
  | nil => exact ⟨rfl, rfl, rfl⟩
  | append_singleton fields f ih =>
    rw [List.foldl_append, List.foldl_append]
    exact ih.trans (decodeBookFieldEntry_decodes translated _ f)

theorem RsslMapEntry.entry_decodes (translated : ℕ → Bool) (m : RsslMapEntry) :
    (m.carried translated).Decodes {} (m.entry translated) := by
  have hfields (a : Char) := fields_decodes translated m.fields { actionCode := a }
  unfold RsslMapEntry.carried RsslMapEntry.entry
  cases m.action with
  | delete => exact ⟨rfl, rfl, rfl⟩
  | add | update => exact ⟨(hfields _).price, (hfields _).size, (hfields _).sideCode⟩

inductive OrderFeedEvent
  | startUpdate
  | mapEntry (m : RsslMapEntry)
  | build
  | endUpdate
  deriving DecidableEq, Repr

structure OrderFeed where
  book : UPABookByOrderMessage := .empty
  latest : String → Option Carried := fun _ => none

namespace OrderFeed

def recordEntry (translated : ℕ → Bool) (latest : String → Option Carried) (m : RsslMapEntry) :
    String → Option Carried :=
  match m.action with
  | .add => Function.update latest m.key (some (((latest m.key).getD {}).latest (m.carried translated)))
  | .update => Function.update latest m.key ((latest m.key).map fun c => c.latest (m.carried translated))
  | .delete => Function.update latest m.key none

def step (translated : ℕ → Bool) (s : OrderFeed) : OrderFeedEvent → OrderFeed
  | .startUpdate => { s with book := s.book.startUpdate }
  | .mapEntry m => ⟨s.book.apply (m.orderOp translated), recordEntry translated s.latest m⟩
  | .build => { s with book := s.book.afterBuild }
  | .endUpdate => { s with book := s.book.endUpdate }

def UpToDate (s : OrderFeed) : Prop :=
  ∀ id c, s.latest id = some c → ∃ y, s.book.order id = some y ∧ c.Shown y

def Dropped (translated : ℕ → Bool) (b : UPABookByOrderMessage) (m : RsslMapEntry) : Prop :=
  ∀ r ∈ b.home m.key, (m.entry translated).price.value = r.2.1.2

instance (translated : ℕ → Bool) (b : UPABookByOrderMessage) (m : RsslMapEntry) :
    Decidable (Dropped translated b m) := by
  unfold Dropped; infer_instance

def EntryOk (translated : ℕ → Bool) (b : UPABookByOrderMessage) (m : RsslMapEntry) (c : Carried)
    (y : UPABookEntry) : Prop :=
  match m.action with
  | .add => (m.carried translated).Shown y
  | .update =>
    if Dropped translated b m then (m.carried translated).Shown y
    else ((m.carried translated).price = none → ∀ p ∈ c.price, p = ⟨0, .exponent0⟩) ∧
      ((m.carried translated).size = none → ∀ n ∈ c.size, n = 0) ∧
      ∀ s ∈ (m.carried translated).side, y.sideCode = s.code
  | .delete => True

def Admissible (translated : ℕ → Bool) (s : OrderFeed) : OrderFeedEvent → Prop
  | .mapEntry m => ∀ c ∈ s.latest m.key, ∀ y ∈ s.book.order m.key, EntryOk translated s.book m c y
  | .startUpdate | .build | .endUpdate => True

instance (translated : ℕ → Bool) (b : UPABookByOrderMessage) (m : RsslMapEntry) (c : Carried)
    (y : UPABookEntry) : Decidable (EntryOk translated b m c y) := by
  unfold EntryOk; split <;> infer_instance

instance (translated : ℕ → Bool) (s : OrderFeed) (e : OrderFeedEvent) :
    Decidable (Admissible translated s e) := by
  unfold Admissible; split <;> infer_instance

variable {translated : ℕ → Bool} {s : OrderFeed} {m : RsslMapEntry}

structure Kept (s : OrderFeed) : Prop where
  wellFormed : s.book.WellFormed
  live : ∀ id, s.latest id ≠ none ↔ id ∈ s.book.orderMap
  upToDate : s.UpToDate

open UPABookByOrderMessage

theorem upToDate_iff {s' : OrderFeed} {k : String} {c : Carried} {y : UPABookEntry} (h : s.UpToDate)
    (hlatest : s'.latest = Function.update s.latest k (some c)) (hk : s'.book.order k = some y)
    (horder : ∀ id, id ≠ k → s'.book.order id = s.book.order id) : s'.UpToDate ↔ c.Shown y := by
  constructor
  · intro hup
    obtain ⟨y', hy', hshown⟩ := hup k c (by rw [hlatest, Function.update_self])
    rw [hk] at hy'
    cases hy'
    exact hshown
  · intro hshown id d hd
    rw [hlatest] at hd
    by_cases hid : id = k
    · rw [hid, Function.update_self] at hd
      cases hd
      exact ⟨y, hid ▸ hk, hshown⟩
    · rw [Function.update_of_ne hid] at hd
      rw [horder id hid]
      exact h id d hd

theorem upToDate_congr {s' : OrderFeed} (h : s.UpToDate) (hlatest : s'.latest = s.latest)
    (horder : ∀ id, s'.book.order id = s.book.order id) : s'.UpToDate := by
  intro id c hc
  rw [hlatest] at hc
  rw [horder]
  exact h id c hc

theorem moved_shown_iff {c d : Carried} {y e : UPABookEntry} {l : LevelId} (hc : c.Shown y)
    (hl : y.level = some l) (hd : d.Decodes {} e) :
    (c.latest d).Shown (moved e l.1) ↔
      (d.price = none → ∀ p ∈ c.price, p = ⟨0, .exponent0⟩) ∧ (d.size = none → ∀ n ∈ c.size, n = 0) ∧
        ∀ s ∈ d.side, y.sideCode = s.code := by
  have hside := (UPABookEntry.level_eq_some hl).1
  have hcode : y.sideCode = l.1.code := by
    unfold Side.ofCode at hside
    split_ifs at hside with ha hb
    · rw [ha, ← Option.some.inj hside]
      rfl
    · rw [hb, ← Option.some.inj hside]
      rfl
  have hprice : (∀ p ∈ d.price.or c.price, (moved e l.1).price = p) ↔
      (d.price = none → ∀ p ∈ c.price, p = ⟨0, .exponent0⟩) := by
    show (∀ p ∈ d.price.or c.price, e.price = p) ↔ _
    rw [hd.price]
    cases d.price <;> simp [eq_comm]
  have hsize : (∀ n ∈ d.size.or c.size, (moved e l.1).size = n) ↔
      (d.size = none → ∀ n ∈ c.size, n = 0) := by
    show (∀ n ∈ d.size.or c.size, e.size = n) ↔ _
    rw [hd.size]
    cases d.size <;> simp [eq_comm]
  have hsides : (∀ s ∈ d.side.or c.side, (moved e l.1).sideCode = s.code) ↔
      ∀ s ∈ d.side, y.sideCode = s.code := by
    show (∀ s ∈ d.side.or c.side, l.1.code = s.code) ↔ _
    rw [← hcode]
    exact Carried.forall_mem_or hc.side
  rw [← hprice, ← hsize, ← hsides]
  exact ⟨fun h => ⟨h.price, h.size, h.side⟩, fun h => ⟨h.1, h.2.1, h.2.2⟩⟩

def keyed (translated : ℕ → Bool) (m : RsslMapEntry) : UPABookEntry :=
  { m.entry translated with orderid := m.key }

theorem keyed_orderid (translated : ℕ → Bool) (m : RsslMapEntry) :
    (keyed translated m).orderid = m.key := rfl

theorem keyed_decodes (translated : ℕ → Bool) (m : RsslMapEntry) :
    (m.carried translated).Decodes {} (keyed translated m) :=
  ⟨(m.entry_decodes translated).price, (m.entry_decodes translated).size,
    (m.entry_decodes translated).sideCode⟩

theorem shown_keyed (translated : ℕ → Bool) (m : RsslMapEntry) :
    ((({} : Carried).latest (m.carried translated))).Shown (keyed translated m) := by
  have hd := keyed_decodes translated m
  refine ⟨fun p hp => ?_, fun n hn => ?_, fun s hs => ?_⟩
  · have hp' : (m.carried translated).price = some p := by simpa [Carried.latest] using hp
    rw [hd.price, hp']
    rfl
  · have hn' : (m.carried translated).size = some n := by simpa [Carried.latest] using hn
    rw [hd.size, hn']
    rfl
  · have hs' : (m.carried translated).side = some s := by simpa [Carried.latest] using hs
    rw [hd.sideCode, hs']
    rfl

theorem Kept.not_live (h : Kept s) {id : String} (hn : s.latest id = none) : id ∉ s.book.orderMap :=
  fun hm => (h.live id).mpr hm hn

section MapEntry

variable (h : Kept s)
include h

theorem add_upToDate_iff (hm : m.action = .add) :
    (s.step translated (.mapEntry m)).UpToDate ↔ Admissible translated s (.mapEntry m) := by
  have hbook : (s.step translated (.mapEntry m)).book = s.book.apply (.add (keyed translated m)) := by
    simp only [step, RsslMapEntry.orderOp, hm]
    rfl
  have hlatest : (s.step translated (.mapEntry m)).latest = Function.update s.latest m.key
      (some (((s.latest m.key).getD {}).latest (m.carried translated))) := by
    simp only [step, recordEntry, hm]
  have horder (id : String) : (s.book.apply (.add (keyed translated m))).order id =
      if id = m.key ∧ m.key ∉ s.book.orderMap then some (keyed translated m) else s.book.order id :=
    add_order h.wellFormed
  cases hc : s.latest m.key with
  | none =>
    have hnew : m.key ∉ s.book.orderMap := h.not_live hc
    rw [upToDate_iff (y := keyed translated m) h.upToDate hlatest]
    · rw [hc]
      exact iff_of_true (shown_keyed translated m) fun c hc' => by rw [hc] at hc'; cases hc'
    · rw [hbook, horder, if_pos ⟨rfl, hnew⟩]
    · intro id hid
      rw [hbook, horder, if_neg fun hcon => hid hcon.1]
  | some c =>
    obtain ⟨y, hy, hshown⟩ := h.upToDate m.key c hc
    have hlive : m.key ∈ s.book.orderMap := order_isSome.mp ⟨y, hy⟩
    have hsame (id : String) : (s.step translated (.mapEntry m)).book.order id = s.book.order id := by
      rw [hbook, horder, if_neg fun hcon => hcon.2 hlive]
    rw [upToDate_iff h.upToDate hlatest ((hsame _).trans hy) fun id _ => hsame id, hc]
    simp [Admissible, EntryOk, hm, hc, hy, Carried.latest_shown hshown]

theorem update_upToDate_iff (hm : m.action = .update) :
    (s.step translated (.mapEntry m)).UpToDate ↔ Admissible translated s (.mapEntry m) := by
  have hbook : (s.step translated (.mapEntry m)).book = s.book.apply (.update (keyed translated m)) := by
    simp only [step, RsslMapEntry.orderOp, hm]
    rfl
  have hlatest : (s.step translated (.mapEntry m)).latest = Function.update s.latest m.key
      ((s.latest m.key).map fun c => c.latest (m.carried translated)) := by
    simp only [step, recordEntry, hm]
  have hdropped (hd : Dropped translated s.book m) (id : String) :
      (s.step translated (.mapEntry m)).book.order id = s.book.order id := by
    rw [hbook]
    cases hh : s.book.home m.key with
    | none =>
      rw [update_unknown h.wellFormed hh]
      exact newEntry_order h.wellFormed
    | some r =>
      obtain ⟨x, l, v⟩ := r
      exact same_order h.wellFormed hh (hd _ hh)
  cases hc : s.latest m.key with
  | none =>
    have hhome : s.book.home m.key = none := by
      cases hh : s.book.home m.key with
      | none => rfl
      | some r =>
        obtain ⟨x, l, v⟩ := r
        exact absurd (order_isSome.mp ⟨_, (home_order hh).1⟩) (h.not_live hc)
    refine iff_of_true (upToDate_congr h.upToDate ?_ (hdropped ?_)) fun c hc' => by rw [hc] at hc'; cases hc'
    · rw [hlatest, hc, Option.map_none, ← hc, Function.update_eq_self]
    · intro r hr
      rw [hhome] at hr
      cases hr
  | some c =>
    obtain ⟨y, hy, hshown⟩ := h.upToDate m.key c hc
    rw [hc, Option.map_some] at hlatest
    have hok : Admissible translated s (.mapEntry m) ↔ EntryOk translated s.book m c y := by
      simp [Admissible, hc, hy]
    rw [hok]
    by_cases hd : Dropped translated s.book m
    · rw [upToDate_iff h.upToDate hlatest ((hdropped hd _).trans hy) fun id _ => hdropped hd id]
      simp [EntryOk, hm, hd, Carried.latest_shown hshown]
    · have hmoved := hd
      unfold Dropped at hmoved
      push Not at hmoved
      obtain ⟨⟨x, l, v⟩, hh, hk⟩ := hmoved
      obtain ⟨hx, hl⟩ := home_order hh
      obtain rfl := Option.some.inj (hx.symm.trans hy)
      have horder (id : String) : (s.book.apply (.update (keyed translated m))).order id =
          if id = m.key then some (moved (keyed translated m) l.1) else s.book.order id :=
        move_order h.wellFormed hh hk
      rw [upToDate_iff (y := moved (keyed translated m) l.1) h.upToDate hlatest,
        moved_shown_iff hshown hl (keyed_decodes translated m)]
      · simp [EntryOk, hm, hd]
      · rw [hbook, horder, if_pos rfl]
      · intro id hid
        rw [hbook, horder, if_neg hid]

theorem delete_upToDate (hm : m.action = .delete) : (s.step translated (.mapEntry m)).UpToDate := by
  intro id c hc
  have hbook : (s.step translated (.mapEntry m)).book = s.book.apply (.remove (keyed translated m)) := by
    simp only [step, RsslMapEntry.orderOp, hm]
    rfl
  have hlatest : (s.step translated (.mapEntry m)).latest = Function.update s.latest m.key none := by
    simp only [step, recordEntry, hm]
  rw [hlatest] at hc
  by_cases hid : id = m.key
  · rw [hid, Function.update_self] at hc
    cases hc
  · rw [Function.update_of_ne hid] at hc
    rw [hbook, remove_order h.wellFormed, keyed_orderid, if_neg hid]
    exact h.upToDate id c hc

theorem step_upToDate_iff (e : OrderFeedEvent) :
    (s.step translated e).UpToDate ↔ Admissible translated s e := by
  cases e with
  | mapEntry m =>
    cases hm : m.action with
    | add => exact add_upToDate_iff h hm
    | update => exact update_upToDate_iff h hm
    | delete =>
      refine iff_of_true (delete_upToDate h hm) fun c _ y _ => ?_
      simp [EntryOk, hm]
  | startUpdate | build | endUpdate =>
    exact iff_of_true (upToDate_congr h.upToDate rfl fun _ => rfl) trivial

theorem step_kept {e : OrderFeedEvent} (ha : Admissible translated s e) : Kept (s.step translated e) := by
  refine ⟨?_, fun id => ?_, (step_upToDate_iff h e).mpr ha⟩
  · cases e with
    | mapEntry m => exact apply_wellFormed h.wellFormed _
    | startUpdate => exact step_wellFormed h.wellFormed .startUpdate
    | build => exact step_wellFormed h.wellFormed .build
    | endUpdate => exact step_wellFormed h.wellFormed .endUpdate
  · cases e with
    | mapEntry m =>
      have hlive := h.live id
      simp only [step, recordEntry, RsslMapEntry.orderOp]
      cases m.action with
      | add =>
        dsimp only
        rw [mem_orderMap_add, ← hlive]
        by_cases hid : id = m.key
        · simp [hid]
        · simp [hid]
      | update =>
        dsimp only
        rw [mem_orderMap_update h.wellFormed, ← hlive]
        by_cases hid : id = m.key
        · simp [hid]
        · rw [Function.update_of_ne hid]
      | delete =>
        dsimp only
        rw [mem_orderMap_remove h.wellFormed, ← hlive]
        by_cases hid : id = m.key
        · simp [hid]
        · simp [hid]
    | startUpdate | build | endUpdate => exact h.live id

end MapEntry

theorem kept_start : Kept {} :=
  ⟨wellFormed_empty, fun id => by simp [empty], fun id c hc => by cases hc⟩

theorem run_upToDate_iff (h : Kept s) (es : List OrderFeedEvent) :
    Runs.Always (step translated) UpToDate s es ↔
      Runs.Guarded (step translated) (Admissible translated) s es := by
  apply Runs.always_iff_guarded (I := Kept)
  · exact fun s h => h.upToDate
  · exact fun s e h ha => step_kept h ha
  · exact fun s e h hn hup => hn ((step_upToDate_iff h e).mp hup)
  · exact h

def sizeOnlyUpdate : List OrderFeedEvent :=
  [.mapEntry ⟨.add, "1", [⟨3427, .real ⟨100, .exponent0⟩⟩, ⟨3429, .real ⟨5, .exponent0⟩⟩,
    ⟨3428, .enum 1⟩]⟩, .mapEntry ⟨.update, "1", [⟨3429, .real ⟨7, .exponent0⟩⟩]⟩]

theorem sizeOnlyUpdate_moves :
    ¬ Runs.Always (step fun _ => true) UpToDate {} sizeOnlyUpdate := by
  rw [run_upToDate_iff kept_start]
  decide

theorem up_to_date_iff_complete (translated : ℕ → Bool) (es : List OrderFeedEvent) :
    Runs.Always (step translated) UpToDate {} es ↔
      Runs.Guarded (step translated) (Admissible translated) {} es :=
  run_upToDate_iff kept_start es

end OrderFeed

end RmdsBridge
