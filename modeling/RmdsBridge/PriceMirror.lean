import RmdsBridge.PriceStream

namespace RmdsBridge.PriceStream

open PriceFeed

variable {D : Type} {feed feed' : PriceFeed D} {key : String} {o q : Char × D}

theorem stands_of_leave (hfeed : ∀ k, feed'.find k = if k = key then none else feed.find k)
    (hq : feed'.Stands q) : feed.Stands q := by
  obtain ⟨k, hk⟩ := stands_iff.mp hq
  rw [hfeed] at hk
  split_ifs at hk
  exact stands_iff.mpr ⟨k, hk⟩

theorem stands_leave_of_ne (hfeed : ∀ k, feed'.find k = if k = key then none else feed.find k)
    (ho : feed.find key = some o) (hne : q ≠ o) (hq : feed.Stands q) : feed'.Stands q := by
  obtain ⟨k, hk⟩ := stands_iff.mp hq
  refine stands_iff.mpr ⟨k, ?_⟩
  rw [hfeed, if_neg, hk]
  rintro rfl
  exact hne (Option.some.inj (hk.symm.trans ho))

variable [DecidableEq D]

def foldEntries (f : RsslReal → D) (c : Finset (Char × D)) (es : List UPABookEntry) :
    Finset (Char × D) :=
  es.foldl (fun c e => putLevel c e.actionCode (e.place f)) c

variable {f : RsslReal → D}

theorem foldEntries_concat (c : Finset (Char × D)) (es : List UPABookEntry) (e : UPABookEntry) :
    foldEntries f c (es ++ [e]) = putLevel (foldEntries f c es) e.actionCode (e.place f) := by
  simp [foldEntries]

theorem mem_putLevel_of_ne {c : Finset (Char × D)} {a : Char} {p q : Char × D} (h : q ≠ p) :
    q ∈ putLevel c a p ↔ q ∈ c := by
  unfold putLevel
  split_ifs <;> simp [h]

theorem fold_buildMamdaMessage (c : Finset (Char × D)) (b : UPABookByPriceMessage D) :
    (b.buildMamdaMessage f).1.fold c = foldEntries f c b.entries := by
  have hfold (g : ℕ → UPABookEntry → PriceLevelMsg D) (es : List UPABookEntry) :
      ∀ c, (∀ i e, (g i e).wPlAction = e.actionCode ∧ (g i e).wPlSide = e.sideCode ∧
        (g i e).wPlPrice.value = f e.price) →
      (es.mapIdx g).foldl (fun c l => putLevel c l.wPlAction (l.wPlSide, l.wPlPrice.value)) c =
        foldEntries f c es := by
    induction es generalizing g with
    | nil => exact fun _ _ => rfl
    | cons e es ih =>
      intro c hg
      obtain ⟨ha, hs, hp⟩ := hg 0 e
      rw [List.mapIdx_cons, List.foldl_cons, ih _ _ fun i e => hg (i + 1) e, ha, hs, hp]
      rfl
  exact hfold _ b.entries c fun i e => ⟨rfl, rfl, rfl⟩

theorem not_mem_of_lastCode {c : Finset (Char × D)} {q : Char × D} (es : List UPABookEntry)
    (h : (es.reverse.find? fun e => e.place f = q).map (fun e => e.actionCode) = some 'D') :
    q ∉ foldEntries f c es := by
  induction es using List.reverseRecOn with
  | nil => simp at h
  | append_singleton es e ih =>
    rw [List.reverse_concat, List.find?_cons] at h
    rw [foldEntries_concat]
    by_cases hq : e.place f = q
    · simp only [hq, decide_true, Option.map_some, Option.some.injEq] at h
      simp [putLevel, h, hq]
    · simp only [hq, decide_false] at h
      rw [mem_putLevel_of_ne (Ne.symm hq)]
      exact ih h

/-- The middle of a message that began with the client `c` and the feed `start` and ends with the feed
`final`: the client holds a level that nobody stands at only if somebody will, or if a deletion is
to come (`del`), and it misses a level that somebody stands at only if nobody will, or if a put is
to come (`put`). -/
structure Midway (f : RsslReal → D) (scale : RsslReal → Prop) (c : Finset (Char × D))
    (start final : PriceFeed D) (del put : Char × D → Prop) (b : PriceBook D)
    (feed : PriceFeed D) : Prop where
  scaledMap : ∀ k pp, b.ppMap.find k = some pp → scale pp.price
  scaledEntries : ∀ e ∈ b.entries, scale e.price
  mirrors : ∀ k, (b.ppMap.find k).map (PricePoint.place f) = feed.find k
  unnamed : ∀ q, (∀ e ∈ b.entries, e.place f ≠ q) → ∀ k, feed.find k = some q →
    start.find k = some q
  dropped : ∀ q ∈ foldEntries f c b.entries, feed.Stands q ∨ final.Stands q ∨ del q
  held : ∀ q, feed.Stands q → q ∈ foldEntries f c b.entries ∨ ¬ final.Stands q ∨ put q

variable {scale : RsslReal → Prop} {c : Finset (Char × D)} {start final : PriceFeed D}
  {del del' put put' : Char × D → Prop} {b b' : PriceBook D} {p : Char × D} {e : UPABookEntry}

theorem Midway.weaken (h : Midway f scale c start final del put b feed) (hd : ∀ q, del q → del' q)
    (hp : ∀ q, put q → put' q) : Midway f scale c start final del' put' b feed where
  scaledMap := h.scaledMap
  scaledEntries := h.scaledEntries
  mirrors := h.mirrors
  unnamed := h.unnamed
  dropped q hq := (h.dropped q hq).imp_right (Or.imp_right (hd q))
  held q hq := (h.held q hq).imp_right (Or.imp_right (hp q))

theorem mirrors_leave (h : Midway f scale c start final del put b feed)
    (hmap : ∀ k, b'.ppMap.find k = if k = key then none else b.ppMap.find k)
    (hfeed : ∀ k, feed'.find k = if k = key then none else feed.find k) (k : String) :
    (b'.ppMap.find k).map (PricePoint.place f) = feed'.find k := by
  rw [hmap, hfeed]
  split_ifs
  · rfl
  · exact h.mirrors k

theorem scaled_leave (h : Midway f scale c start final del put b feed)
    (hmap : ∀ k, b'.ppMap.find k = if k = key then none else b.ppMap.find k) (k : String)
    (pp : PricePoint) (hk : b'.ppMap.find k = some pp) : scale pp.price := by
  rw [hmap] at hk
  split_ifs at hk
  exact h.scaledMap k pp hk

theorem unnamed_leave (h : Midway f scale c start final del put b feed)
    (hfeed : ∀ k, feed'.find k = if k = key then none else feed.find k) {q : Char × D}
    (hq : ∀ e ∈ b.entries, e.place f ≠ q) (k : String) (hk : feed'.find k = some q) :
    start.find k = some q := by
  rw [hfeed] at hk
  split_ifs at hk
  exact h.unnamed q hq k hk

section Leave

variable (hmap : ∀ k, b'.ppMap.find k = if k = key then none else b.ppMap.find k)
  (hfeed : ∀ k, feed'.find k = if k = key then none else feed.find k)
include hmap hfeed

theorem Midway.drop (h : Midway f scale c start final del put b feed)
    (hentries : b'.entries = b.entries ++ [e]) (ho : feed.find key = some o) (hplace : e.place f = o)
    (hcode : e.actionCode = 'D') (hscale : scale e.price) (hdel : ∀ q ≠ o, del q → del' q)
    (hkept : feed'.Stands o → ¬ final.Stands o ∨ put o) :
    Midway f scale c start final del' put b' feed' where
  scaledMap := scaled_leave h hmap
  scaledEntries x hx := by
    rw [hentries, List.mem_append, List.mem_singleton] at hx
    rcases hx with hx | rfl
    · exact h.scaledEntries x hx
    · exact hscale
  mirrors := mirrors_leave h hmap hfeed
  unnamed q hq := unnamed_leave h hfeed fun x hx =>
    hq x (by rw [hentries]; exact List.mem_append_left _ hx)
  dropped q hq := by
    rw [hentries, foldEntries_concat, hplace, hcode] at hq
    obtain ⟨hne, hq⟩ : q ≠ o ∧ q ∈ foldEntries f c b.entries := by simpa [putLevel] using hq
    rcases h.dropped q hq with hs | hs | hs
    · exact Or.inl (stands_leave_of_ne hfeed ho hne hs)
    · exact Or.inr (Or.inl hs)
    · exact Or.inr (Or.inr (hdel q hne hs))
  held q hq := by
    rw [hentries, foldEntries_concat, hplace, hcode]
    by_cases hne : q = o
    · subst hne
      exact Or.inr (hkept hq)
    · rw [mem_putLevel_of_ne hne]
      exact h.held q (stands_of_leave hfeed hq)

theorem Midway.keep (h : Midway f scale c start final del put b feed)
    (hentries : b'.entries = b.entries) (ho : feed.find key = some o)
    (hstale : o ∈ foldEntries f c b.entries → final.Stands o ∨ del o) :
    Midway f scale c start final del put b' feed' where
  scaledMap := scaled_leave h hmap
  scaledEntries x hx := h.scaledEntries x (hentries ▸ hx)
  mirrors := mirrors_leave h hmap hfeed
  unnamed q hq := unnamed_leave h hfeed fun x hx => hq x (by rw [hentries]; exact hx)
  dropped q hq := by
    rw [hentries] at hq
    by_cases hne : q = o
    · subst hne
      exact Or.inr (hstale hq)
    · rcases h.dropped q hq with hs | hs
      · exact Or.inl (stands_leave_of_ne hfeed ho hne hs)
      · exact Or.inr hs
  held q hq := by
    rw [hentries]
    exact h.held q (stands_of_leave hfeed hq)

end Leave

theorem Midway.arrive (h : Midway f scale c start final del put b feed) {pp : PricePoint}
    (hmap : ∀ k, b'.ppMap.find k = if k = key then some pp else b.ppMap.find k)
    (hfeed : ∀ k, feed'.find k = if k = key then some p else feed.find k)
    (hentries : b'.entries = b.entries ++ [e]) (hpp : pp.place f = p) (hpps : scale pp.price)
    (hold : ∀ q ∈ feed.find key, q = p) (hplace : e.place f = p)
    (hcode : e.actionCode = 'A' ∨ e.actionCode = 'U') (hscale : scale e.price)
    (hput : ∀ q ≠ p, put q → put' q) : Midway f scale c start final del put' b' feed' := by
  have hstands {q : Char × D} : feed'.Stands q ↔ q = p ∨ feed.Stands q := by
    simp only [stands_iff, hfeed]
    constructor
    · rintro ⟨k, hk⟩
      split_ifs at hk with hkey
      · exact Or.inl (Option.some.inj hk).symm
      · exact Or.inr ⟨k, hk⟩
    · rintro (rfl | ⟨k, hk⟩)
      · exact ⟨key, if_pos rfl⟩
      · by_cases hkey : k = key
        · subst hkey
          exact ⟨k, by rw [if_pos rfl, hold q hk]⟩
        · exact ⟨k, by rw [if_neg hkey, hk]⟩
  have hfold {q : Char × D} : q ∈ foldEntries f c b'.entries ↔
      q = p ∨ q ∈ foldEntries f c b.entries := by
    rw [hentries, foldEntries_concat, hplace]
    rcases hcode with hc | hc <;> rw [hc] <;> simp [putLevel]
  constructor
  · intro k x hk
    rw [hmap] at hk
    split_ifs at hk
    · exact Option.some.inj hk ▸ hpps
    · exact h.scaledMap k x hk
  · intro x hx
    rw [hentries, List.mem_append, List.mem_singleton] at hx
    rcases hx with hx | rfl
    · exact h.scaledEntries x hx
    · exact hscale
  · intro k
    rw [hmap, hfeed]
    split_ifs
    · rw [Option.map_some, hpp]
    · exact h.mirrors k
  · intro q hq k hk
    rw [hfeed] at hk
    split_ifs at hk
    · exact absurd (hplace.trans (Option.some.inj hk)) (hq e (by rw [hentries]; simp))
    · exact h.unnamed q (fun x hx => hq x (by rw [hentries]; exact List.mem_append_left _ hx)) k hk
  · intro q hq
    rcases hfold.mp hq with rfl | hq
    · exact Or.inl (hstands.mpr (Or.inl rfl))
    · exact (h.dropped q hq).imp_left fun hs => hstands.mpr (Or.inr hs)
  · intro q hq
    by_cases hne : q = p
    · exact Or.inl (hfold.mpr (Or.inl hne))
    · rcases h.held q ((hstands.mp hq).resolve_left hne) with hs | hs | hs
      · exact Or.inl (hfold.mpr (Or.inr hs))
      · exact Or.inr (Or.inl hs)
      · exact Or.inr (Or.inr (hput q hne hs))

end RmdsBridge.PriceStream
