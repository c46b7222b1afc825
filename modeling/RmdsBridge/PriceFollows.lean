import Mathlib.Algebra.Order.Ring.Unbundled.Rat
import Mathlib.Algebra.GroupWithZero.Basic
import Mathlib.Data.Rat.Cast.Defs
import RmdsBridge.PriceMirror

namespace RmdsBridge.PriceStream

open PriceFeed

variable {D : Type} {translated : ℕ → Bool} {f : RsslReal → D} {scale : RsslReal → Prop}
  {start final feed : PriceFeed D} {b : PriceBook D} {m : RsslMapEntry} {ms : List RsslMapEntry}
  {q : Char × D}

def Scaled (f : RsslReal → D) (scale : RsslReal → Prop) : Prop :=
  ∀ r r', scale r → scale r' → (f r = f r' ↔ r.value = r'.value)

theorem Scaled.place_eq (hS : Scaled f scale) {pp : PricePoint} {e : UPABookEntry}
    (hp : scale pp.price) (he : scale e.price) :
    pp.place f = e.place f ↔ pp.price.value = e.price.value ∧ pp.sideCode = e.sideCode := by
  unfold PricePoint.place UPABookEntry.place
  rw [Prod.mk.injEq, hS _ _ hp he, and_comm]

theorem deletedLater_cons : DeletedLater translated f q feed (m :: ms) ↔
    (m.action = .delete ∧ feed.find m.key = some q) ∨
      DeletedLater translated f q (feed.apply translated f m) ms :=
  Iff.rfl

theorem putLater_cons : PutLater translated f q (m :: ms) ↔
    (m.action ≠ .delete ∧ (m.entry translated).place f = q) ∨ PutLater translated f q ms := by
  simp [PutLater]

variable [DecidableEq D] {c : Finset (Char × D)}

theorem lastCode_eq_none : b.lastCode f q = none ↔ ∀ e ∈ b.entries, e.place f ≠ q := by
  unfold PriceBook.lastCode
  rw [Option.map_eq_none_iff, List.find?_eq_none]
  simp

abbrev Before (translated : ℕ → Bool) (f : RsslReal → D) (scale : RsslReal → Prop)
    (c : Finset (Char × D)) (start final : PriceFeed D) (b : PriceBook D) (feed : PriceFeed D)
    (ms : List RsslMapEntry) : Prop :=
  Midway f scale c start final (fun q => DeletedLater translated f q feed ms)
    (fun q => PutLater translated f q ms) b feed

theorem find_ppMap (h : Before translated f scale c start final b feed ms) {k : String}
    (hq : feed.find k = some q) : ∃ pp, b.ppMap.find k = some pp ∧ pp.place f = q := by
  rw [← h.mirrors k] at hq
  exact Option.map_eq_some_iff.mp hq

theorem find_feed (h : Before translated f scale c start final b feed ms) {k : String} {pp : PricePoint}
    (hpp : b.ppMap.find k = some pp) : feed.find k = some (pp.place f) := by
  rw [← h.mirrors, hpp]
  rfl

omit [DecidableEq D] in
theorem find_apply (hm : m.action ≠ .delete) (k : String) : (feed.apply translated f m).find k =
    if k = m.key then some ((m.entry translated).place f) else feed.find k := by
  cases ha : m.action with
  | delete => exact absurd ha hm
  | add | update =>
    simp only [PriceFeed.apply, ha]
    exact UnorderedMap.find_insert ..

theorem arrive_before {b₁ b' : PriceBook D} {feed₁ : PriceFeed D} (pp : PricePoint)
    (hm : m.action ≠ .delete)
    (h : Midway f scale c start final (fun q => DeletedLater translated f q feed (m :: ms))
      (fun q => PutLater translated f q (m :: ms)) b₁ feed₁)
    (hmap : ∀ k, b'.ppMap.find k = if k = m.key then some pp else b₁.ppMap.find k)
    (hfeed : ∀ k, (feed.apply translated f m).find k =
      if k = m.key then some ((m.entry translated).place f) else feed₁.find k)
    (hentries : b'.entries = b₁.entries ++ [m.entry translated])
    (hplace : pp.place f = (m.entry translated).place f) (hpps : scale pp.price)
    (hold : ∀ q ∈ feed₁.find m.key, q = (m.entry translated).place f)
    (hs : scale (m.entry translated).price) :
    Before translated f scale c start final b' (feed.apply translated f m) ms := by
  have hcode : (m.entry translated).actionCode = 'A' ∨ (m.entry translated).actionCode = 'U' := by
    rw [RsslMapEntry.entry_actionCode]
    cases ha : m.action with
    | add => exact Or.inl rfl
    | update => exact Or.inr rfl
    | delete => exact absurd ha hm
  refine (h.arrive hmap hfeed hentries hplace hpps hold rfl hcode hs fun q hq hp => ?_).weaken
    (fun q hd => ?_) fun _ hp => hp
  · exact (putLater_cons.mp hp).resolve_left fun hp => hq hp.2.symm
  · exact (deletedLater_cons.mp hd).resolve_left fun hd => hm hd.1

theorem add_before (h : Before translated f scale c start final b feed (m :: ms))
    (ha : m.action = .add) (hside : (m.entry translated).hasSide = true)
    (hs : scale (m.entry translated).price)
    (hok : EntryOk translated f final b feed m ms) :
    (b.processMapEntry translated m).1 = true ∧ Before translated f scale c start final
      (b.processMapEntry translated m).2 (feed.apply translated f m) ms := by
  have heq : b.processMapEntry translated m = (true,
      (b.insertPricePoint m.key (m.entry translated)).addEntry (m.entry translated)) := by
    simp [PriceBook.processMapEntry, ha, PriceBook.lookUpSide, hside]
  have hold : ∀ q ∈ feed.find m.key, q = (m.entry translated).place f := by
    simpa only [EntryOk, ha] using hok
  have hm : m.action ≠ .delete := by rw [ha]; decide
  rw [heq]
  refine ⟨rfl, ?_⟩
  cases hpp : b.ppMap.find m.key with
  | none =>
    have hins : b.insertPricePoint m.key (m.entry translated) = { b with
        ppMap := b.ppMap.insert m.key ⟨(m.entry translated).price, (m.entry translated).sideCode⟩ } :=
      if_neg (UnorderedMap.find_eq_none.mp hpp)
    rw [hins]
    exact arrive_before ⟨_, _⟩ hm h (fun k => UnorderedMap.find_insert ..) (find_apply hm) rfl rfl hs hold hs
  | some pp =>
    have hins : b.insertPricePoint m.key (m.entry translated) = b :=
      if_pos (UnorderedMap.mem_iff_find.mpr ⟨pp, hpp⟩)
    have hq := find_feed h hpp
    rw [hins]
    refine arrive_before pp hm h (fun k => ?_) (find_apply hm) rfl (hold _ hq) (h.scaledMap _ _ hpp)
      hold hs
    split_ifs with hk
    · rw [hk]; exact hpp
    · rfl

theorem found_iff (hS : Scaled f scale) (h : Before translated f scale c start final b feed ms)
    {pp : PricePoint} (hpps : scale pp.price) :
    b.found pp ↔ ∃ e ∈ b.entries, e.place f = pp.place f := by
  unfold PriceBook.found
  refine exists_congr fun e => and_congr_right fun he => ?_
  rw [eq_comm (a := e.place f), hS.place_eq hpps (h.scaledEntries e he), eq_comm,
    eq_comm (a := pp.sideCode)]

theorem leave_before (hS : Scaled f scale) (hu : start.Uncrossed)
    (h : Before translated f scale c start final b feed (m :: ms)) {pp : PricePoint}
    (hpp : b.ppMap.find m.key = some pp)
    (hleave : ∀ c ∈ b.lastCode f (pp.place f), c = 'D' ∨ final.Stands (pp.place f) ∨
      DeletedLater translated f (pp.place f) feed (m :: ms)) :
    Midway f scale c start final (fun q => DeletedLater translated f q feed (m :: ms))
      (fun q => PutLater translated f q (m :: ms))
      { (if b.found pp then b else b.addEntry (PriceBook.delEntry pp)) with
        ppMap := b.ppMap.erase m.key }
      (feed.erase m.key) := by
  have hpps := h.scaledMap _ _ hpp
  have hq := find_feed h hpp
  by_cases hf : b.found pp
  · rw [if_pos hf]
    refine h.keep (fun k => UnorderedMap.find_erase ..) (fun k => UnorderedMap.find_erase ..) rfl hq
      fun hin => ?_
    cases hlast : b.lastCode f (pp.place f) with
    | none =>
      obtain ⟨e, he, hplace⟩ := (found_iff hS h hpps).mp hf
      exact absurd hplace (lastCode_eq_none.mp hlast e he)
    | some code =>
      refine (hleave code hlast).resolve_left fun hd => ?_
      exact not_mem_of_lastCode b.entries (hlast.trans (by rw [hd])) hin
  · rw [if_neg hf]
    have hunnamed : ∀ e ∈ b.entries, e.place f ≠ pp.place f := fun e he hplace =>
      hf ((found_iff hS h hpps).mpr ⟨e, he, hplace⟩)
    refine h.drop (fun k => UnorderedMap.find_erase ..) (fun k => UnorderedMap.find_erase ..) rfl hq
      rfl rfl hpps (fun _ _ hd => hd) fun hs => ?_
    -- nobody has come to the level in this message, and only this key stood there before it
    obtain ⟨k, hk⟩ := stands_iff.mp hs
    rw [UnorderedMap.find_erase] at hk
    split_ifs at hk with hkey
    exact absurd (hu.key_eq (h.unnamed _ hunnamed k hk) (h.unnamed _ hunnamed _ hq)) hkey

theorem update_before (hS : Scaled f scale) (hu : start.Uncrossed)
    (h : Before translated f scale c start final b feed (m :: ms)) (ha : m.action = .update)
    (hside : (m.entry translated).hasSide = true) (hs : scale (m.entry translated).price)
    (hok : EntryOk translated f final b feed m ms) :
    (b.processMapEntry translated m).1 = true ∧ Before translated f scale c start final
      (b.processMapEntry translated m).2 (feed.apply translated f m) ms := by
  have heq : b.processMapEntry translated m = (true,
      (b.movePricePoint m.key (m.entry translated)).addEntry (m.entry translated)) := by
    simp [PriceBook.processMapEntry, ha, PriceBook.lookUpSide, hside]
  have hm : m.action ≠ .delete := by rw [ha]; decide
  obtain ⟨hlive, hleave⟩ : (feed.find m.key).isSome ∧ ∀ q ∈ feed.find m.key,
      q ≠ (m.entry translated).place f → ∀ c ∈ b.lastCode f q, c = 'D' ∨ final.Stands q ∨
        DeletedLater translated f q (feed.apply translated f m) ms := by
    simpa only [EntryOk, ha] using hok
  obtain ⟨q, hq⟩ := Option.isSome_iff_exists.mp hlive
  obtain ⟨pp, hpp, rfl⟩ := find_ppMap h hq
  have hpps := h.scaledMap _ _ hpp
  have hmove : (pp.price.value ≠ (m.entry translated).price.value ∨
      pp.sideCode ≠ (m.entry translated).sideCode) ↔
        pp.place f ≠ (m.entry translated).place f := by
    rw [ne_eq (pp.place f), hS.place_eq hpps hs, not_and_or]
  rw [heq]
  refine ⟨rfl, ?_⟩
  unfold PriceBook.movePricePoint
  rw [hpp]
  dsimp only
  by_cases hsame : pp.place f = (m.entry translated).place f
  · rw [if_neg fun hc => hmove.mp hc hsame]
    refine arrive_before pp hm h (fun k => ?_) (find_apply hm) rfl hsame hpps (fun q hq' => ?_) hs
    · split_ifs with hk
      · rw [hk]; exact hpp
      · rfl
    · rw [← Option.some.inj (hq.symm.trans hq')]
      exact hsame
  · rw [if_pos (hmove.mpr hsame)]
    have hleft := leave_before hS hu h hpp fun c hc =>
      (hleave _ hq hsame c hc).imp_right (Or.imp_right Or.inr)
    refine arrive_before ⟨(m.entry translated).price, (m.entry translated).sideCode⟩ hm hleft
      (fun k => ?_) (fun k => ?_) rfl rfl hs (fun q hq' => ?_) hs
    · change UnorderedMap.find (AList.insert _ _ (PriceBook.ppMap _)) k = _
      have hmap : (if b.found pp then b else b.addEntry (PriceBook.delEntry pp)).ppMap = b.ppMap := by
        split_ifs <;> rfl
      rw [hmap, UnorderedMap.find_insert, UnorderedMap.find_erase]
      split_ifs <;> rfl
    · rw [find_apply hm, UnorderedMap.find_erase]
      split_ifs <;> rfl
    · simp [UnorderedMap.find_erase] at hq'

theorem delete_before (h : Before translated f scale c start final b feed (m :: ms))
    (ha : m.action = .delete) (hok : EntryOk translated f final b feed m ms) :
    (b.processMapEntry translated m).1 = true ∧ Before translated f scale c start final
      (b.processMapEntry translated m).2 (feed.apply translated f m) ms := by
  have hcode : (m.entry translated).actionCode = 'D' := by
    rw [RsslMapEntry.entry_actionCode, ha]; rfl
  have hfeed : feed.apply translated f m = feed.erase m.key := by simp [PriceFeed.apply, ha]
  have hput (q : Char × D) (hp : PutLater translated f q (m :: ms)) : PutLater translated f q ms :=
    (putLater_cons.mp hp).resolve_left fun hp => hp.1 ha
  have hlater : ∀ q ∈ feed.find m.key, (feed.apply translated f m).Stands q → final.Stands q →
      PutLater translated f q ms := by
    simpa only [EntryOk, ha] using hok
  cases hpp : b.ppMap.find m.key with
  | none =>
    have hnone : feed.find m.key = none := by rw [← h.mirrors, hpp]; rfl
    have hsame : feed.erase m.key = feed :=
      AList.ext (List.kerase_of_notMem_keys (UnorderedMap.find_eq_none.mp hnone))
    have heq : b.processMapEntry translated m = (true, b) := by
      simp [PriceBook.processMapEntry, ha, hpp]
    rw [heq]
    refine ⟨rfl, ?_⟩
    rw [hfeed, hsame]
    refine h.weaken (fun q hd => ?_) hput
    rcases deletedLater_cons.mp hd with hd | hd
    · rw [hnone] at hd
      cases hd.2
    · rwa [hfeed, hsame] at hd
  | some pp =>
    have hq := find_feed h hpp
    have heq : b.processMapEntry translated m = (true, { b with
        ppMap := b.ppMap.erase m.key }.addEntry
          { m.entry translated with price := pp.price, sideCode := pp.sideCode }) := by
      simp [PriceBook.processMapEntry, ha, hpp]
    rw [heq]
    refine ⟨rfl, ?_⟩
    refine Midway.weaken (h.drop (fun k => UnorderedMap.find_erase ..)
      (fun k => by rw [hfeed]; exact UnorderedMap.find_erase ..) rfl hq rfl hcode
      (h.scaledMap _ _ hpp) (fun q hne hd => ?_) fun hs => ?_) (fun _ hd => hd) hput
    · refine (deletedLater_cons.mp hd).resolve_left fun hd => hne ?_
      exact (Option.some.inj (hq.symm.trans hd.2)).symm
    · by_cases hfin : final.Stands (pp.place f)
      · exact Or.inr (putLater_cons.mpr (Or.inr (hlater _ hq hs hfin)))
      · exact Or.inl hfin

theorem entry_before (hS : Scaled f scale) (hu : start.Uncrossed)
    (h : Before translated f scale c start final b feed (m :: ms)) (hc : Carries translated m)
    (hs : m.action ≠ .delete → scale (m.entry translated).price)
    (hok : EntryOk translated f final b feed m ms) :
    (b.processMapEntry translated m).1 = true ∧ Before translated f scale c start final
      (b.processMapEntry translated m).2 (feed.apply translated f m) ms := by
  cases ha : m.action with
  | add => exact add_before h ha (hc (by rw [ha]; decide)).1 (hs (by rw [ha]; decide)) hok
  | update =>
    exact update_before hS hu h ha (hc (by rw [ha]; decide)).1 (hs (by rw [ha]; decide)) hok
  | delete => exact delete_before h ha hok

theorem entries_before (hS : Scaled f scale) (hu : start.Uncrossed)
    (h : Before translated f scale c start final b feed ms)
    (hc : ∀ m ∈ ms, Carries translated m)
    (hs : ∀ m ∈ ms, m.action ≠ .delete → scale (m.entry translated).price)
    (hok : EntriesOk translated f final b feed ms) :
    ∃ b', b.processMapEntries translated ms = (true, b') ∧
      Before translated f scale c start final b'
        (Runs.run (PriceFeed.apply translated f) feed ms) [] := by
  induction ms generalizing b feed with
  | nil => exact ⟨b, rfl, h⟩
  | cons m ms ih =>
    obtain ⟨htrue, hnext⟩ := entry_before hS hu h (hc m List.mem_cons_self)
      (hs m List.mem_cons_self) hok.1
    obtain ⟨b', hb', hend⟩ := ih hnext (fun x hx => hc x (List.mem_cons_of_mem _ hx))
      (fun x hx => hs x (List.mem_cons_of_mem _ hx)) hok.2
    refine ⟨b', ?_, hend⟩
    rw [PriceBook.processMapEntries]
    generalize hr : b.processMapEntry translated m = r at htrue hb'
    obtain ⟨ok, b₁⟩ := r
    subst htrue
    exact hb'

structure Mirroring (f : RsslReal → D) (scale : RsslReal → Prop) (r : PriceStream D) : Prop where
  mirrors : r.Mirrors f
  scaled : ∀ k pp, r.book.ppMap.find k = some pp → scale pp.price
  uncrossed : r.feed.Uncrossed

theorem message_mirroring (hS : Scaled f scale) {r : PriceStream D} (h : r.Mirroring f scale)
    (ms : List RsslMapEntry) (hok : MessageOk translated f scale r ms) :
    (r.message translated f ms).Mirroring f scale := by
  obtain ⟨⟨hc, hfinal⟩, hs, hentries⟩ := hok
  have hbegin : Before translated f scale r.client r.feed
      (Runs.run (PriceFeed.apply translated f) r.feed ms) r.book.startUpdate r.feed ms := by
    refine ⟨h.scaled, fun e he => ?_, h.mirrors.1, fun _ _ _ hk => hk, fun q hq => ?_, fun q hq => ?_⟩
    · cases he
    · exact Or.inl ((h.mirrors.2 q).mp hq)
    · exact Or.inl ((h.mirrors.2 q).mpr hq)
  obtain ⟨b', hb', hend⟩ := entries_before hS h.uncrossed hbegin hc hs hentries
  have hmsg : r.message translated f ms =
      { book := { b' with bookByPriceMessage := (b'.bookByPriceMessage.buildMamdaMessage f).2 }
        client := (b'.bookByPriceMessage.buildMamdaMessage f).1.fold r.client
        feed := Runs.run (PriceFeed.apply translated f) r.feed ms } := by
    unfold message PriceBook.processMessage
    rw [hb']
    rfl
  rw [hmsg]
  refine ⟨⟨hend.mirrors, fun q => ?_⟩, hend.scaledMap, hfinal⟩
  rw [fold_buildMamdaMessage]
  constructor
  · intro hq
    rcases hend.dropped q hq with hs | hs | hs
    · exact hs
    · exact hs
    · exact hs.elim
  · intro hq
    rcases hend.held q hq with hs | hs | ⟨m, hm, -⟩
    · exact hs
    · exact absurd hq hs
    · cases hm

omit [DecidableEq D] in
theorem mirroring_start : ({} : PriceStream D).Mirroring f scale where
  mirrors := by
    refine ⟨fun k => rfl, fun q => ?_⟩
    simp [stands_iff]
  scaled k pp hk := by simp at hk
  uncrossed := List.Pairwise.nil

theorem prices_mirrored (translated : ℕ → Bool) (hS : Scaled f scale)
    (msgs : List (List RsslMapEntry))
    (h : Runs.Guarded (message translated f) (MessageOk translated f scale) {} msgs) :
    Runs.Always (message translated f) (Mirrors f) {} msgs := by
  have hall : Runs.Always (message translated f) (Mirroring f scale) {} msgs :=
    h.always (fun _ ms hr ho => message_mirroring hS hr ms ho) mirroring_start
  exact hall.mono fun _ hr => hr.mirrors

theorem scaled_exponent0 :
    Scaled (fun r : RsslReal => r.toRat.getD 0) fun r => r.hint = .exponent0 := by
  rintro ⟨v, h⟩ ⟨v', h'⟩ rfl rfl
  simp [RsslReal.toRat]

def mapEntry (action : RsslMapEntryAction) (key : String) (price : ℤ) : RsslMapEntry :=
  { action := action
    key := key
    fields := [⟨3427, .real ⟨price, .exponent0⟩⟩, ⟨3428, .enum 1⟩] }

theorem chain_mirrored :
    Runs.Always (message (fun _ => true) fun r => r.toRat.getD 0) (Mirrors fun r => r.toRat.getD 0)
      {} [[mapEntry .add "x" 100, mapEntry .add "y" 101],
        [mapEntry .update "x" 101, mapEntry .update "y" 102], [mapEntry .delete "x" 0]] :=
  prices_mirrored _ scaled_exponent0 _ (by decide +kernel)

def moveDelete : List (List RsslMapEntry) :=
  [[mapEntry .add "x" 100, mapEntry .add "y" 101],
    [mapEntry .update "x" 101, mapEntry .delete "y" 0]]

theorem move_delete_not_mirrored :
    ¬ ∀ msgs, Runs.Guarded (message (fun _ => true) fun r => r.toRat.getD 0)
        (Fed (fun _ => true) fun r => r.toRat.getD 0) {} msgs →
      Runs.Always (message (fun _ => true) fun r => r.toRat.getD 0) (Mirrors fun r => r.toRat.getD 0)
        {} msgs := by
  intro h
  have hlast := Runs.always_iff_run.mp (h moveDelete (by decide +kernel)) moveDelete
    (List.prefix_refl _)
  have hstands : ('B', 101) ∈ (Runs.run (message (fun _ => true) fun r => r.toRat.getD 0) {}
      moveDelete).client := (hlast.2 _).mpr (by decide +kernel)
  exact absurd hstands (by decide +kernel)

end RmdsBridge.PriceStream
