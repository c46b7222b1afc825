import RmdsBridge.BookByPrice
import RmdsBridge.Runs

namespace RmdsBridge

variable {D : Type}

def PricePoint.place (f : RsslReal → D) (pp : PricePoint) : Char × D := (pp.sideCode, f pp.price)

def UPABookEntry.place (f : RsslReal → D) (e : UPABookEntry) : Char × D := (e.sideCode, f e.price)

abbrev PriceFeed (D : Type) := UnorderedMap String (Char × D)

namespace PriceFeed

def apply (translated : ℕ → Bool) (f : RsslReal → D) (feed : PriceFeed D) (m : RsslMapEntry) :
    PriceFeed D :=
  match m.action with
  | .delete => feed.erase m.key
  | .add | .update => feed.insert m.key ((m.entry translated).place f)

def Stands (feed : PriceFeed D) (q : Char × D) : Prop := ∃ x ∈ feed.entries, x.2 = q

def Uncrossed (feed : PriceFeed D) : Prop := feed.entries.Pairwise fun x y => x.2 ≠ y.2

theorem stands_iff {feed : PriceFeed D} {q : Char × D} :
    feed.Stands q ↔ ∃ k, feed.find k = some q := by
  constructor
  · rintro ⟨⟨k, q'⟩, hx, rfl⟩
    exact ⟨k, UnorderedMap.mem_entries_iff.mp hx⟩
  · rintro ⟨k, hk⟩
    exact ⟨⟨k, q⟩, UnorderedMap.mem_entries_iff.mpr hk, rfl⟩

theorem Uncrossed.key_eq {feed : PriceFeed D} (h : feed.Uncrossed) {k k' : String} {q : Char × D}
    (hk : feed.find k = some q) (hk' : feed.find k' = some q) : k = k' := by
  by_contra hne
  have : Std.Symm fun x y : Sigma fun _ : String => Char × D => x.2 ≠ y.2 :=
    ⟨fun _ _ hxy => hxy.symm⟩
  exact h.forall (UnorderedMap.mem_entries_iff.mpr hk) (UnorderedMap.mem_entries_iff.mpr hk')
    (fun hc => hne (congrArg Sigma.fst hc)) rfl

variable [DecidableEq D]

instance (feed : PriceFeed D) (q : Char × D) : Decidable (feed.Stands q) :=
  inferInstanceAs (Decidable (∃ _ ∈ _, _))

instance (feed : PriceFeed D) : Decidable feed.Uncrossed :=
  inferInstanceAs (Decidable (List.Pairwise ..))

def DeletedLater (translated : ℕ → Bool) (f : RsslReal → D) (q : Char × D) (feed : PriceFeed D)
    (ms : List RsslMapEntry) : Prop :=
  Runs.Sometime (apply translated f) (fun feed m => m.action = .delete ∧ feed.find m.key = some q)
    feed ms

instance (translated : ℕ → Bool) (f : RsslReal → D) (q : Char × D) (feed : PriceFeed D)
    (ms : List RsslMapEntry) : Decidable (DeletedLater translated f q feed ms) :=
  inferInstanceAs (Decidable (Runs.Sometime ..))

def PutLater (translated : ℕ → Bool) (f : RsslReal → D) (q : Char × D) (ms : List RsslMapEntry) :
    Prop :=
  ∃ m ∈ ms, m.action ≠ .delete ∧ (m.entry translated).place f = q

instance (translated : ℕ → Bool) (f : RsslReal → D) (q : Char × D) (ms : List RsslMapEntry) :
    Decidable (PutLater translated f q ms) :=
  inferInstanceAs (Decidable (∃ _ ∈ _, _))

end PriceFeed

variable [DecidableEq D]

def putLevel (c : Finset (Char × D)) (action : Char) (q : Char × D) : Finset (Char × D) :=
  if action = 'D' then c.erase q
  else if action = 'A' ∨ action = 'U' then insert q c else c

def PriceBookMsg.fold (c : Finset (Char × D)) (msg : PriceBookMsg D) : Finset (Char × D) :=
  msg.wPriceLevels.foldl (fun c l => putLevel c l.wPlAction (l.wPlSide, l.wPlPrice.value)) c

def PriceBook.lastCode (f : RsslReal → D) (b : PriceBook D) (q : Char × D) : Option Char :=
  (b.entries.reverse.find? fun e => e.place f = q).map fun e => e.actionCode

structure PriceStream (D : Type) where
  book : PriceBook D := {}
  client : Finset (Char × D) := ∅
  feed : PriceFeed D := ∅

namespace PriceStream

variable (translated : ℕ → Bool) (f : RsslReal → D)

def message (r : PriceStream D) (ms : List RsslMapEntry) : PriceStream D :=
  let (msg, book) := r.book.processMessage translated f ms
  { book := book
    client := (msg.map fun m => m.fold r.client).getD r.client
    feed := Runs.run (PriceFeed.apply translated f) r.feed ms }

def Mirrors (r : PriceStream D) : Prop :=
  (∀ k, (r.book.ppMap.find k).map (PricePoint.place f) = r.feed.find k) ∧
    ∀ q, q ∈ r.client ↔ r.feed.Stands q

def Carries (m : RsslMapEntry) : Prop :=
  m.action ≠ .delete → (m.entry translated).hasSide = true ∧
    ∃ x ∈ m.fields, translated x.fieldId = true ∧ x.fieldId = 3427 ∧ x.data.isReal = true

instance (m : RsslMapEntry) : Decidable (Carries translated m) :=
  inferInstanceAs (Decidable (_ → _ ∧ ∃ _ ∈ _, _))

def EntryOk (final : PriceFeed D) (b : PriceBook D) (feed : PriceFeed D) (m : RsslMapEntry)
    (ms : List RsslMapEntry) : Prop :=
  match m.action with
  | .add => ∀ q ∈ feed.find m.key, q = (m.entry translated).place f
  | .update => (feed.find m.key).isSome ∧ ∀ q ∈ feed.find m.key, q ≠ (m.entry translated).place f →
      ∀ c ∈ b.lastCode f q, c = 'D' ∨ final.Stands q ∨
        PriceFeed.DeletedLater translated f q (feed.apply translated f m) ms
  | .delete => ∀ q ∈ feed.find m.key, (feed.apply translated f m).Stands q → final.Stands q →
      PriceFeed.PutLater translated f q ms

instance (final : PriceFeed D) (b : PriceBook D) (feed : PriceFeed D) (m : RsslMapEntry)
    (ms : List RsslMapEntry) : Decidable (EntryOk translated f final b feed m ms) :=
  -- a code is looked for in the entry, not among all characters
  have (q : Char × D) : Decidable (∀ c ∈ b.lastCode f q, c = 'D' ∨ final.Stands q ∨
      PriceFeed.DeletedLater translated f q (feed.apply translated f m) ms) :=
    Option.decidableForallMem _
  match h : m.action with
  | .add => decidable_of_iff (∀ q ∈ feed.find m.key, q = (m.entry translated).place f)
      (by simp only [EntryOk, h])
  | .update => decidable_of_iff ((feed.find m.key).isSome ∧ ∀ q ∈ feed.find m.key,
        q ≠ (m.entry translated).place f → ∀ c ∈ b.lastCode f q, c = 'D' ∨ final.Stands q ∨
          PriceFeed.DeletedLater translated f q (feed.apply translated f m) ms)
      (by simp only [EntryOk, h])
  | .delete => decidable_of_iff (∀ q ∈ feed.find m.key,
        (feed.apply translated f m).Stands q → final.Stands q → PriceFeed.PutLater translated f q ms)
      (by simp only [EntryOk, h])

def EntriesOk (final : PriceFeed D) : PriceBook D → PriceFeed D → List RsslMapEntry → Prop
  | _, _, [] => True
  | b, feed, m :: ms => EntryOk translated f final b feed m ms ∧
      EntriesOk final (b.processMapEntry translated m).2 (feed.apply translated f m) ms

instance EntriesOk.decidable (final : PriceFeed D) :
    ∀ b feed ms, Decidable (EntriesOk translated f final b feed ms)
  | _, _, [] => inferInstanceAs (Decidable True)
  | b, feed, m :: ms =>
    have := EntriesOk.decidable final (b.processMapEntry translated m).2 (feed.apply translated f m) ms
    inferInstanceAs (Decidable (EntryOk translated f final b feed m ms ∧ _))

def Fed (r : PriceStream D) (ms : List RsslMapEntry) : Prop :=
  (∀ m ∈ ms, Carries translated m) ∧ (Runs.run (PriceFeed.apply translated f) r.feed ms).Uncrossed

def MessageOk (scale : RsslReal → Prop) (r : PriceStream D) (ms : List RsslMapEntry) : Prop :=
  Fed translated f r ms ∧ (∀ m ∈ ms, m.action ≠ .delete → scale (m.entry translated).price) ∧
    EntriesOk translated f (Runs.run (PriceFeed.apply translated f) r.feed ms) r.book.startUpdate
      r.feed ms

instance (r : PriceStream D) (ms : List RsslMapEntry) : Decidable (Fed translated f r ms) :=
  inferInstanceAs (Decidable (_ ∧ _))

instance (scale : RsslReal → Prop) [DecidablePred scale] (r : PriceStream D)
    (ms : List RsslMapEntry) : Decidable (MessageOk translated f scale r ms) :=
  inferInstanceAs (Decidable (_ ∧ _ ∧ _))

end PriceStream

end RmdsBridge
