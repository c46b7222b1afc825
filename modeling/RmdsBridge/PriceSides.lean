import RmdsBridge.BookByPrice
import RmdsBridge.Runs

namespace RmdsBridge

variable {D : Type}

def isSideLetter (c : Char) : Bool := c.toUpper = 'A' || c.toUpper = 'B'

def extractSideCode (mapKey : String) : Char :=
  (mapKey.toList.find? isSideLetter).getD (mapKey.toList.getLastD '\x00')

def keySide (mapKey : String) : Option Char := (mapKey.toList.find? isSideLetter).map Char.toUpper

/-- What `ExtractSideCode` finds is the side that the key names. -/
theorem extractSideCode_toUpper {k : String} {c : Char} (h : keySide k = some c) :
    (extractSideCode k).toUpper = c := by
  obtain ⟨x, hx, rfl⟩ := Option.map_eq_some_iff.mp h
  rw [extractSideCode, hx, Option.getD_some]

theorem keySide_eq {k : String} {c : Char} (h : keySide k = some c) : c = 'A' ∨ c = 'B' := by
  obtain ⟨x, hx, rfl⟩ := Option.map_eq_some_iff.mp h
  have hletter := List.find?_some hx
  rw [isSideLetter, Bool.or_eq_true, decide_eq_true_eq, decide_eq_true_eq] at hletter
  exact hletter

def RsslMapEntry.carriesSide (m : RsslMapEntry) : Bool := m.fields.any fun x => x.fieldId = 3428

/-- A message that is given up is one whose later entries and build are left out. -/
inductive PriceFeedEvent
  | startUpdate
  | mapEntry (m : RsslMapEntry)
  | build
  deriving DecidableEq, Repr

structure PriceSides (D : Type) where
  book : PriceBook D := {}
  given : String → Option Char := fun _ => none

namespace PriceSides

def recordSide (translated : ℕ → Bool) (given : String → Option Char) (m : RsslMapEntry) :
    String → Option Char :=
  match m.action with
  | .add =>
    if m.carriesSide then given
    else Function.update given m.key ((keySide m.key).or (given m.key))
  | .update =>
    let entry := m.entry translated
    Function.update given m.key
      ((given m.key).filter fun c => !entry.hasSide || entry.sideCode = c)
  | .delete => Function.update given m.key none

def step (translated : ℕ → Bool) (f : RsslReal → D) (s : PriceSides D) : PriceFeedEvent → PriceSides D
  | .startUpdate => { s with book := s.book.startUpdate }
  | .mapEntry m => ⟨(s.book.processMapEntry translated m).2, recordSide translated s.given m⟩
  | .build =>
    { s with book := { s.book with
        bookByPriceMessage := (s.book.bookByPriceMessage.buildMamdaMessage f).2 } }

def Queues (translated : ℕ → Bool) (b : PriceBook D) (m : RsslMapEntry) (c : Char) : Prop :=
  (b.processMapEntry translated m).1 = true ∧
    ∃ e, (b.processMapEntry translated m).2.entries.getLast? = some e ∧ e.sideCode = c

def RecordedSide (b : PriceBook D) (k : String) (c : Char) : Prop :=
  ∃ pp, b.ppMap.find k = some pp ∧ pp.sideCode = c

def Recovers (translated : ℕ → Bool) (s : PriceSides D) : PriceFeedEvent → Prop
  | .mapEntry m =>
    m.carriesSide = false →
      match m.action with
      | .add => ∀ c, keySide m.key = some c → Queues translated s.book m c ∧
          RecordedSide (s.book.processMapEntry translated m).2 m.key c
      | .update | .delete => ∀ c, s.given m.key = some c → Queues translated s.book m c
  | .startUpdate | .build => True

def SideKnown (s : PriceSides D) : PriceFeedEvent → Prop
  | .mapEntry m => m.carriesSide = false → m.action = .add →
      ∀ c, keySide m.key = some c → RecordedSide s.book m.key c
  | .startUpdate | .build => True

end PriceSides

theorem decodeBookFieldEntry_sideCode (translated : ℕ → Bool) (e : UPABookEntry) (x : RsslFieldEntry)
    (h : x.fieldId ≠ 3428) : (decodeBookFieldEntry translated e x).sideCode = e.sideCode := by
  unfold decodeBookFieldEntry
  split
  case isTrue => split <;> (try split) <;> simp_all
  case isFalse => rfl

theorem RsslMapEntry.entry_sideCode (translated : ℕ → Bool) {m : RsslMapEntry}
    (h : m.carriesSide = false) : (m.entry translated).sideCode = 'Z' := by
  have hfold (xs : List RsslFieldEntry) (hx : ∀ x ∈ xs, x.fieldId ≠ 3428) : ∀ e : UPABookEntry,
      (xs.foldl (decodeBookFieldEntry translated) e).sideCode = e.sideCode := by
    induction xs with
    | nil => exact fun _ => rfl
    | cons x xs ih =>
      intro e
      rw [List.foldl_cons, ih fun y hy => hx y (List.mem_cons_of_mem _ hy)]
      exact decodeBookFieldEntry_sideCode translated e x (hx x List.mem_cons_self)
  have hfields : ∀ x ∈ m.fields, x.fieldId ≠ 3428 := by
    intro x hx hid
    have hany := List.any_eq_false.mp h x hx
    exact hany (decide_eq_true hid)
  unfold RsslMapEntry.entry
  cases m.action with
  | delete => rfl
  | add | update => exact hfold _ hfields _

namespace PriceBook

variable {translated : ℕ → Bool} {b : PriceBook D} {m : RsslMapEntry} {k : String} {c : Char}

theorem movePricePoint_find (e : UPABookEntry) : (b.movePricePoint m.key e).ppMap.find k =
    if k = m.key then (b.ppMap.find k).map fun pp =>
      if pp.price.value ≠ e.price.value ∨ pp.sideCode ≠ e.sideCode then ⟨e.price, e.sideCode⟩ else pp
    else b.ppMap.find k := by
  unfold movePricePoint
  cases hp : b.ppMap.find m.key with
  | none =>
    dsimp only
    split_ifs with hk
    · rw [hk, hp]; rfl
    · rfl
  | some pp =>
    dsimp only
    split_ifs with hmove hfound hk hk hk <;>
      simp_all [UnorderedMap.find_insert, addEntry]

theorem insertPricePoint_find (e : UPABookEntry) : (b.insertPricePoint m.key e).ppMap.find k =
    if k = m.key then some ((b.ppMap.find k).getD ⟨e.price, e.sideCode⟩) else b.ppMap.find k := by
  unfold insertPricePoint
  split_ifs with hm hk hk
  · obtain ⟨pp, hpp⟩ := UnorderedMap.mem_iff_find.mp hm
    rw [hk, hpp, Option.getD_some]
  · rfl
  · rw [hk, UnorderedMap.find_insert_self, UnorderedMap.find_eq_none.mpr hm, Option.getD_none]
  · rw [UnorderedMap.find_insert, if_neg hk]

theorem processMapEntry_find_ne (hk : k ≠ m.key) :
    (b.processMapEntry translated m).2.ppMap.find k = b.ppMap.find k := by
  unfold processMapEntry
  dsimp only
  split
  · split
    · rw [insertPricePoint_find, if_neg hk]
    · rw [addEntry, insertPricePoint_find, if_neg hk]
  · split
    · rfl
    · rw [addEntry, movePricePoint_find, if_neg hk]
  · split
    · rfl
    · rw [addEntry, UnorderedMap.find_erase, if_neg hk]

end PriceBook

namespace PriceSides

variable {translated : ℕ → Bool} {f : RsslReal → D} {s : PriceSides D} {b : PriceBook D}
  {m : RsslMapEntry} {c : Char}

theorem getLast_addEntry (e : UPABookEntry) : (b.addEntry e).entries.getLast? = some e :=
  List.getLast?_concat

theorem sideless (hs : m.carriesSide = false) : (m.entry translated).hasSide = false := by
  rw [UPABookEntry.hasSide, RsslMapEntry.entry_sideCode translated hs]
  rfl

/-- An add without a side takes the side of the price point at its key, which is a new one without a
side when there was none. -/
theorem add_sideless (ha : m.action = .add) (hs : m.carriesSide = false) (hc : c = 'A' ∨ c = 'B') :
    (Queues translated b m c ∧ RecordedSide (b.processMapEntry translated m).2 m.key c) ↔
      RecordedSide b m.key c := by
  let entry := m.entry translated
  let pp := (b.ppMap.find m.key).getD ⟨entry.price, entry.sideCode⟩
  have hfind : (b.insertPricePoint m.key entry).ppMap.find m.key = some pp := by
    rw [PriceBook.insertPricePoint_find, if_pos rfl]
  have hadd : b.processMapEntry translated m =
      (true, (b.insertPricePoint m.key entry).addEntry { entry with sideCode := pp.sideCode }) := by
    simp only [PriceBook.processMapEntry, ha, PriceBook.lookUpSide, sideless hs]
    rw [hfind]
    rfl
  have hrecorded : RecordedSide (b.processMapEntry translated m).2 m.key c ↔ pp.sideCode = c := by
    rw [hadd]
    simp only [RecordedSide, PriceBook.addEntry, hfind, Option.some.injEq, exists_eq_left']
  have hknown : pp.sideCode = c ↔ RecordedSide b m.key c := by
    unfold RecordedSide
    cases hp : b.ppMap.find m.key with
    | some p => simp [pp, hp]
    | none =>
      have hz : pp.sideCode = 'Z' := by
        simp only [pp, hp, Option.getD_none]
        exact RsslMapEntry.entry_sideCode translated hs
      constructor
      · intro hside
        rw [hz] at hside
        rcases hc with rfl | rfl <;> cases hside
      · rintro ⟨_, hnone, -⟩
        cases hnone
  rw [hrecorded, hknown]
  refine and_iff_right_of_imp fun hr => ?_
  unfold Queues
  rw [hadd]
  exact ⟨rfl, _, getLast_addEntry _, hknown.mpr hr⟩

theorem queues_given (ha : m.action ≠ .add) (hs : m.carriesSide = false)
    (hr : RecordedSide b m.key c) : Queues translated b m c := by
  obtain ⟨pp, hpp, rfl⟩ := hr
  unfold Queues PriceBook.processMapEntry
  cases hact : m.action with
  | add => exact absurd hact ha
  | update =>
    simp only [PriceBook.lookUpSide, sideless hs, hpp]
    exact ⟨rfl, _, getLast_addEntry _, rfl⟩
  | delete =>
    simp only [hpp]
    exact ⟨trivial, _, getLast_addEntry _, rfl⟩

def Kept (s : PriceSides D) : Prop := ∀ k c, s.given k = some c → RecordedSide s.book k c

theorem recordSide_ne {given : String → Option Char} {k : String} (hk : k ≠ m.key) :
    recordSide translated given m k = given k := by
  unfold recordSide
  cases m.action with
  | add =>
    dsimp only
    split_ifs
    · rfl
    · rw [Function.update_of_ne hk]
  | update | delete => exact Function.update_of_ne hk ..

theorem add_keeps {p : PricePoint} (ha : m.action = .add) (hp : b.ppMap.find m.key = some p) :
    (b.processMapEntry translated m).2.ppMap.find m.key = some p := by
  have hfind : (b.insertPricePoint m.key (m.entry translated)).ppMap.find m.key = some p := by
    rw [PriceBook.insertPricePoint_find, if_pos rfl, hp, Option.getD_some]
  simp only [PriceBook.processMapEntry, ha]
  split <;> exact hfind

theorem update_recorded (ha : m.action = .update) (hr : RecordedSide b m.key c)
    (hside : (m.entry translated).hasSide = true → (m.entry translated).sideCode = c) :
    RecordedSide (b.processMapEntry translated m).2 m.key c := by
  obtain ⟨pp, hpp, rfl⟩ := hr
  have hlook : ∃ e, b.lookUpSide m.key (m.entry translated) = some e ∧ e.sideCode = pp.sideCode := by
    unfold PriceBook.lookUpSide
    split_ifs with hh
    · exact ⟨_, rfl, hside hh⟩
    · exact ⟨_, by rw [hpp]; rfl, rfl⟩
  obtain ⟨e, he, hcode⟩ := hlook
  simp only [PriceBook.processMapEntry, ha, he]
  unfold RecordedSide PriceBook.addEntry
  rw [PriceBook.movePricePoint_find, if_pos rfl, hpp]
  refine ⟨_, rfl, ?_⟩
  dsimp only
  split_ifs
  · exact hcode
  · rfl

theorem step_kept (h : s.Kept) (e : PriceFeedEvent) (hk : s.SideKnown e) :
    (s.step translated f e).Kept := by
  cases e with
  | startUpdate | build => exact h
  | mapEntry m =>
    intro k c hgiven
    change recordSide translated s.given m k = some c at hgiven
    by_cases hkey : k = m.key
    · subst hkey
      cases ha : m.action with
      | delete => simp [recordSide, ha] at hgiven
      | add =>
        have hr : RecordedSide s.book m.key c := by
          simp only [recordSide, ha] at hgiven
          cases hs : m.carriesSide with
          | true => rw [hs] at hgiven; exact h _ _ hgiven
          | false =>
            rw [hs, if_neg Bool.false_ne_true, Function.update_self] at hgiven
            rcases Option.or_eq_some_iff.mp hgiven with hletter | ⟨-, hgiven⟩
            · exact hk hs ha c hletter
            · exact h _ _ hgiven
        obtain ⟨p, hp, hcode⟩ := hr
        exact ⟨p, add_keeps ha hp, hcode⟩
      | update =>
        simp only [recordSide, ha, Function.update_self] at hgiven
        obtain ⟨hgiven, hsame⟩ := Option.filter_eq_some_iff.mp hgiven
        rw [Bool.or_eq_true, Bool.not_eq_true', decide_eq_true_eq] at hsame
        refine update_recorded ha (h _ _ hgiven) fun hh => ?_
        exact hsame.resolve_left (by rw [hh]; decide)
    · rw [recordSide_ne hkey] at hgiven
      obtain ⟨pp, hpp, hcode⟩ := h k c hgiven
      exact ⟨pp, (PriceBook.processMapEntry_find_ne hkey).trans hpp, hcode⟩

theorem recovers_iff (h : s.Kept) (e : PriceFeedEvent) : s.Recovers translated e ↔ s.SideKnown e := by
  cases e with
  | startUpdate | build => rfl
  | mapEntry m =>
    unfold Recovers SideKnown
    dsimp only
    refine imp_congr_right fun hs => ?_
    cases ha : m.action with
    | add =>
      simp only [true_implies]
      exact forall₂_congr fun c hc => add_sideless ha hs (keySide_eq hc)
    | update | delete =>
      refine iff_of_true (fun c hc => ?_) (fun hne => by cases hne)
      exact queues_given (by rw [ha]; decide) hs (h _ _ hc)

theorem run_recovers_iff {es : List PriceFeedEvent} (h : s.Kept) :
    Runs.Guarded (step translated f) (Recovers translated) s es ↔
      Runs.Guarded (step translated f) SideKnown s es := by
  induction es generalizing s with
  | nil => rfl
  | cons e es ih =>
    constructor
    · rintro ⟨hr, hrs⟩
      have hk := (recovers_iff h e).mp hr
      exact ⟨hk, (ih (step_kept h e hk)).mp hrs⟩
    · rintro ⟨hk, hks⟩
      exact ⟨(recovers_iff h e).mpr hk, (ih (step_kept h e hk)).mpr hks⟩

theorem kept_start : ({} : PriceSides D).Kept := by
  intro k c hc
  cases hc

def letteredAdd : List PriceFeedEvent :=
  [.startUpdate, .mapEntry ⟨.add, "227B", [⟨3427, .real ⟨227, .exponent0⟩⟩]⟩, .build]

theorem letteredAdd_sideless : ¬ ∀ es, Runs.Guarded (step (fun _ => true) fun x : RsslReal => x.value)
    (Recovers fun _ => true) {} es := by
  intro h
  have hknown := (run_recovers_iff kept_start).mp (h letteredAdd)
  obtain ⟨pp, hpp, -⟩ := hknown.2.1 rfl rfl 'B' (by decide)
  cases hpp

theorem sides_recovered_iff (translated : ℕ → Bool) (f : RsslReal → D) (es : List PriceFeedEvent) :
    Runs.Guarded (step translated f) (Recovers translated) {} es ↔
      Runs.Guarded (step translated f) SideKnown {} es :=
  run_recovers_iff kept_start

end PriceSides

end RmdsBridge
