import RmdsBridge.BookView

namespace RmdsBridge

inductive MamaPricePrecision
  | int
  | pow10 (n : ℕ)
  | div (n : ℕ)
  | unknown
  deriving DecidableEq, Repr

def rsslHintToMamaPrecisionTo : RsslRealHints → MamaPricePrecision
  | .exponent e =>
    if e.val = 14 then .int else if 4 ≤ e.val ∧ e.val < 14 then .pow10 (14 - e.val) else .unknown
  | .fraction _ | .infinity | .negInfinity | .notANumber => .unknown

structure MamaPrice (D : Type) where
  value : D
  precision : MamaPricePrecision
  deriving DecidableEq

structure EntryMsg where
  wEntryId : String
  wEntryAction : Char
  wEntrySize : ℤ
  deriving DecidableEq, Repr

structure LevelMsg (D : Type) where
  wPlSide : Char
  wPlPrice : MamaPrice D
  wPlTime : ℕ
  wPlAction : Char
  wPlNumEntries : ℕ
  wPlNumAttach : ℕ
  wPlEntries : List EntryMsg
  deriving DecidableEq

structure BookMsg (D : Type) where
  wNumLevels : ℕ
  wPriceLevels : List (LevelMsg D)
  deriving DecidableEq

def UPABookEntry.toEntryMsg (e : UPABookEntry) : EntryMsg :=
  { wEntryId := e.orderid, wEntryAction := e.actionCode, wEntrySize := e.size }

variable {D : Type}

def UPALevel.addEntriesToMsg (entries : EntryPtr → UPABookEntry) (l : UPALevel) : List EntryMsg :=
  l.entryListDelta.map fun p => (entries p).toEntryMsg

def UPALevel.toLevelMsg (rsslRealToDouble : RsslReal → D) (entries : EntryPtr → UPABookEntry)
    (side : Side) (l : UPALevel) : LevelMsg D :=
  let entryMsgs := if l.numOrders = 0 then [] else l.addEntriesToMsg entries
  { wPlSide := side.code
    wPlPrice := ⟨rsslRealToDouble l.price, rsslHintToMamaPrecisionTo l.price.hint⟩
    wPlTime := l.time
    wPlAction := if l.numOrders = 0 then 'D' else l.actionCode
    wPlNumEntries := entryMsgs.length
    wPlNumAttach := entryMsgs.length
    wPlEntries := entryMsgs }

namespace UPABookByOrderMessage

def levels (b : UPABookByOrderMessage) : List (LevelId × UPALevel) :=
  b.levelMapAsk.entries.map (fun x => ((.ask, x.1), x.2)) ++
    b.levelMapBid.entries.map (fun x => ((.bid, x.1), x.2))

/-- `none` when the levels run past the end of `levelMsgs_`, which grows to a 16-bit count of them. -/
def buildMamdaMessage (rsslRealToDouble : RsslReal → D) (b : UPABookByOrderMessage) :
    Option (BookMsg D × UPABookByOrderMessage) :=
  if b.numLevels ≤ b.afterBuild.levelMsgs then
    some ({ wNumLevels := b.numLevels
            wPriceLevels := b.levels.map fun x =>
              x.2.toLevelMsg rsslRealToDouble b.entries x.1.1 }, b.afterBuild)
  else none

variable {b : UPABookByOrderMessage}

theorem mem_levels {l : LevelId} {v : UPALevel} : (l, v) ∈ b.levels ↔ b.level l = some v := by
  obtain ⟨s, k⟩ := l
  unfold level levels
  rw [← UnorderedMap.mem_entries_iff, List.mem_append, List.mem_map, List.mem_map]
  cases s with
  | bid =>
    constructor
    · rintro (⟨x, -, hx⟩ | ⟨x, hx, he⟩)
      · cases hx
      · cases he; exact hx
    · exact fun h => Or.inr ⟨_, h, rfl⟩
  | ask =>
    constructor
    · rintro (⟨x, hx, he⟩ | ⟨x, -, hx⟩)
      · cases he; exact hx
      · cases hx
    · exact fun h => Or.inl ⟨_, h, rfl⟩

theorem buildMamdaMessage_isSome {f : RsslReal → D} (h : b.numLevels < 2 ^ 16) :
    b.buildMamdaMessage f = some ({ wNumLevels := b.numLevels
                                    wPriceLevels := b.levels.map fun x =>
                                      x.2.toLevelMsg f b.entries x.1.1 }, b.afterBuild) := by
  unfold buildMamdaMessage
  rw [if_pos]
  simp only [afterBuild, Nat.mod_eq_of_lt h]
  exact le_max_right ..

end UPABookByOrderMessage

end RmdsBridge
