import RmdsBridge.BookRender
import RmdsBridge.UnorderedMap

namespace RmdsBridge

structure PricePoint where
  price : RsslReal
  sideCode : Char
  deriving DecidableEq, Repr

abbrev PricePointMap := UnorderedMap String PricePoint

structure PriceLevelMsg (D : Type) where
  orderTone : Option String
  wPartId : Option String
  wPlSide : Char
  wPlPrice : MamaPrice D
  wPlAction : Char
  wPlSize : ℤ
  wPlTime : ℕ
  wPlNumEntries : ℤ
  deriving DecidableEq

structure PriceBookMsg (D : Type) where
  wBookType : ℕ
  wNumLevels : ℕ
  wPlNumEntries : ℕ
  wPriceLevels : List (PriceLevelMsg D)
  deriving DecidableEq

structure UPABookByPriceMessage (D : Type) where
  levelMsgs : List (PriceLevelMsg D) := []
  entries : List UPABookEntry := []

namespace UPABookByPriceMessage

variable {D : Type}

def startUpdate (b : UPABookByPriceMessage D) : UPABookByPriceMessage D := { b with entries := [] }

def addEntry (b : UPABookByPriceMessage D) (e : UPABookEntry) : UPABookByPriceMessage D :=
  { b with entries := b.entries ++ [e] }

/-- A level message is reused: the fields that are not set keep what an earlier entry left there. -/
def levelMsg (rsslRealToDouble : RsslReal → D) (old : Option (PriceLevelMsg D)) (e : UPABookEntry) :
    PriceLevelMsg D :=
  { orderTone := if e.haveOrderTone then some e.orderTone else old.bind fun m => m.orderTone
    wPartId := if e.haveMmid then some e.mmid else old.bind fun m => m.wPartId
    wPlSide := e.sideCode
    wPlPrice := ⟨rsslRealToDouble e.price, rsslHintToMamaPrecisionTo e.price.hint⟩
    wPlAction := e.actionCode
    wPlSize := e.size
    wPlTime := e.time
    wPlNumEntries := if e.actionCode = 'D' then 0 else (BitVec.ofNat 32 e.numOrders).toInt }

def buildMamdaMessage (rsslRealToDouble : RsslReal → D) (b : UPABookByPriceMessage D) :
    PriceBookMsg D × UPABookByPriceMessage D :=
  let levels := b.entries.mapIdx fun i e => levelMsg rsslRealToDouble b.levelMsgs[i]? e
  ({ wBookType := 2, wNumLevels := levels.length, wPlNumEntries := 0, wPriceLevels := levels },
    { levelMsgs := levels ++ b.levelMsgs.drop levels.length })

end UPABookByPriceMessage

structure PriceBook (D : Type) where
  ppMap : PricePointMap := ∅
  bookByPriceMessage : UPABookByPriceMessage D := {}

namespace PriceBook

variable {D : Type}

def entries (b : PriceBook D) : List UPABookEntry := b.bookByPriceMessage.entries

def startUpdate (b : PriceBook D) : PriceBook D :=
  { b with bookByPriceMessage := b.bookByPriceMessage.startUpdate }

def addEntry (b : PriceBook D) (e : UPABookEntry) : PriceBook D :=
  { b with bookByPriceMessage := b.bookByPriceMessage.addEntry e }

def insertPricePoint (b : PriceBook D) (key : String) (e : UPABookEntry) : PriceBook D :=
  if key ∈ b.ppMap then b else { b with ppMap := b.ppMap.insert key ⟨e.price, e.sideCode⟩ }

def lookUpSide (b : PriceBook D) (key : String) (e : UPABookEntry) : Option UPABookEntry :=
  if e.hasSide then some e else (b.ppMap.find key).map fun pp => { e with sideCode := pp.sideCode }

def found (b : PriceBook D) (pp : PricePoint) : Prop :=
  ∃ e ∈ b.entries, e.price.value = pp.price.value ∧ e.sideCode = pp.sideCode

instance (b : PriceBook D) (pp : PricePoint) : Decidable (b.found pp) :=
  inferInstanceAs (Decidable (∃ _ ∈ _, _))

def delEntry (pp : PricePoint) : UPABookEntry :=
  { price := pp.price, sideCode := pp.sideCode, actionCode := 'D' }

def movePricePoint (b : PriceBook D) (key : String) (e : UPABookEntry) : PriceBook D :=
  match b.ppMap.find key with
  | none => b
  | some pp =>
    if pp.price.value ≠ e.price.value ∨ pp.sideCode ≠ e.sideCode then
      let b := if b.found pp then b else b.addEntry (delEntry pp)
      { b with ppMap := b.ppMap.insert key ⟨e.price, e.sideCode⟩ }
    else b

def processMapEntry (translated : ℕ → Bool) (b : PriceBook D) (m : RsslMapEntry) :
    Bool × PriceBook D :=
  let entry := m.entry translated
  match m.action with
  | .add =>
    let b := b.insertPricePoint m.key entry
    match b.lookUpSide m.key entry with
    | none => (false, b)
    | some entry => (true, b.addEntry entry)
  | .update =>
    match b.lookUpSide m.key entry with
    | none => (false, b)
    | some entry => (true, (b.movePricePoint m.key entry).addEntry entry)
  | .delete =>
    match b.ppMap.find m.key with
    | none => (true, b)
    | some pp =>
      (true, { b with ppMap := b.ppMap.erase m.key }.addEntry
        { entry with price := pp.price, sideCode := pp.sideCode })

def processMapEntries (translated : ℕ → Bool) (b : PriceBook D) :
    List RsslMapEntry → Bool × PriceBook D
  | [] => (true, b)
  | m :: ms =>
    match b.processMapEntry translated m with
    | (false, b) => (false, b)
    | (true, b) => b.processMapEntries translated ms

def processMessage (translated : ℕ → Bool) (rsslRealToDouble : RsslReal → D) (b : PriceBook D)
    (ms : List RsslMapEntry) : Option (PriceBookMsg D) × PriceBook D :=
  match b.startUpdate.processMapEntries translated ms with
  | (false, b) => (none, b)
  | (true, b) =>
    let (msg, book) := b.bookByPriceMessage.buildMamdaMessage rsslRealToDouble
    (some msg, { b with bookByPriceMessage := book })

end PriceBook

end RmdsBridge
