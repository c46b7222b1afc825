import Mathlib.Algebra.Group.Nat.Defs
import Mathlib.Data.Finset.Card
import RmdsBridge.BookEntry
import RmdsBridge.UnorderedMap

namespace RmdsBridge

/-- A shared pointer to a book entry: entries are mutable and shared by the order map and the
queued deltas of the levels. -/
abbrev EntryPtr := ℕ

structure UPALevel where
  price : RsslReal
  time : ℕ
  sideCode : Char
  size : ℤ
  actionCode : Char := 'A'
  entryListDelta : List EntryPtr := []
  orders : Finset String := ∅

namespace UPALevel

def new (entry : UPABookEntry) (side : Side) : UPALevel :=
  { price := entry.price, time := entry.time, sideCode := side.code, size := entry.size }

def numOrders (l : UPALevel) : ℕ := l.orders.card

def addEntry (p : EntryPtr) (entry : UPABookEntry) (l : UPALevel) : UPALevel :=
  { l with
    orders :=
      if entry.actionCode = 'D' then l.orders.erase entry.orderid
      else if entry.actionCode = 'A' then insert entry.orderid l.orders
      else l.orders
    entryListDelta := l.entryListDelta ++ [p] }

def clearDeltas (l : UPALevel) : UPALevel := { l with entryListDelta := [] }

def popDeltas (l : UPALevel) : UPALevel := if l.numOrders = 0 then l else l.clearDeltas

end UPALevel

abbrev LevelMap := UnorderedMap ℤ UPALevel

abbrev LevelId := Side × ℤ

/-- `entries` and `nextEntry` are the heap the shared pointers point into; `levelMsgs` is the number
of level messages allocated so far. -/
structure UPABookByOrderMessage where
  entries : EntryPtr → UPABookEntry := fun _ => {}
  nextEntry : EntryPtr := 0
  orderMap : UnorderedMap String EntryPtr := ∅
  levelMapBid : LevelMap := ∅
  levelMapAsk : LevelMap := ∅
  levelMsgs : ℕ := 0
  numLevelMsgs : ℕ := 0

namespace UPABookByOrderMessage

def empty : UPABookByOrderMessage := {}

def levelMap (b : UPABookByOrderMessage) : Side → LevelMap
  | .bid => b.levelMapBid
  | .ask => b.levelMapAsk

def setLevelMap (b : UPABookByOrderMessage) : Side → LevelMap → UPABookByOrderMessage
  | .bid, m => { b with levelMapBid := m }
  | .ask, m => { b with levelMapAsk := m }

def level (b : UPABookByOrderMessage) (l : LevelId) : Option UPALevel := (b.levelMap l.1).find l.2

def setLevel (b : UPABookByOrderMessage) (l : LevelId) (v : UPALevel) : UPABookByOrderMessage :=
  b.setLevelMap l.1 ((b.levelMap l.1).insert l.2 v)

def newEntry (b : UPABookByOrderMessage) (e : UPABookEntry) : UPABookByOrderMessage :=
  { b with entries := Function.update b.entries b.nextEntry e, nextEntry := b.nextEntry + 1 }

def setSideCode (b : UPABookByOrderMessage) (p : EntryPtr) (c : Char) : UPABookByOrderMessage :=
  { b with entries := Function.update b.entries p { b.entries p with sideCode := c } }

def setActionCode (b : UPABookByOrderMessage) (p : EntryPtr) (c : Char) : UPABookByOrderMessage :=
  { b with entries := Function.update b.entries p { b.entries p with actionCode := c } }

def addToLevel (b : UPABookByOrderMessage) (l : LevelId) (v : UPALevel) (p : EntryPtr) :
    UPABookByOrderMessage :=
  b.setLevel l (v.addEntry p (b.entries p))

def eraseOrder (b : UPABookByOrderMessage) (id : String) : UPABookByOrderMessage :=
  { b with orderMap := b.orderMap.erase id }

def insertOrder (b : UPABookByOrderMessage) (p : EntryPtr) : UPABookByOrderMessage :=
  { b with orderMap := b.orderMap.insert (b.entries p).orderid p }

def findLevel (b : UPABookByOrderMessage) (p : EntryPtr) : Option (LevelId × UPALevel) :=
  (b.entries p).level.bind fun l => (b.level l).map fun v => (l, v)

def addEntry (b : UPABookByOrderMessage) (p : EntryPtr) : Bool × UPABookByOrderMessage :=
  let entry := b.entries p
  -- an order id that is in the map keeps the entry it has
  let b := if entry.orderid ∈ b.orderMap then b else b.insertOrder p
  match entry.level with
  | none => (false, b)
  | some l =>
    (true, b.addToLevel l ((b.level l).getD (UPALevel.new entry l.1)) p)

def updateEntry (b : UPABookByOrderMessage) (p : EntryPtr) : Bool × UPABookByOrderMessage :=
  match b.orderMap.find (b.entries p).orderid with
  | none => (false, b)
  | some existing =>
    match b.findLevel existing with
    | none => (false, b)
    | some (l, v) =>
      -- the rssl update may not carry the side
      let b := b.setSideCode p l.1.code
      if (b.entries existing).price.value ≠ (b.entries p).price.value then
        let b := (b.setActionCode existing 'D').addToLevel l v existing
        let b := ((b.setActionCode p 'A').addEntry p).2
        (true, b.insertOrder p)
      else
        (true, b.addToLevel l v p)

def removeEntry (b : UPABookByOrderMessage) (p : EntryPtr) : Bool × UPABookByOrderMessage :=
  match b.orderMap.find (b.entries p).orderid with
  | none => (false, b)
  | some existing =>
    let b := b.eraseOrder (b.entries p).orderid
    match b.findLevel existing with
    | none => (false, b)
    | some (l, v) =>
      (true, ((b.setSideCode p l.1.code).setActionCode existing 'D').addToLevel l v existing)

def startUpdate (b : UPABookByOrderMessage) : UPABookByOrderMessage :=
  { b with
    levelMapBid := b.levelMapBid.mapVal UPALevel.clearDeltas
    levelMapAsk := b.levelMapAsk.mapVal UPALevel.clearDeltas }

def numLevels (b : UPABookByOrderMessage) : ℕ :=
  b.levelMapBid.entries.length + b.levelMapAsk.entries.length

/-- The book after `BuildMamdaMessage`; the number of level messages is a 16-bit integer. -/
def afterBuild (b : UPABookByOrderMessage) : UPABookByOrderMessage :=
  { b with
    levelMapBid := b.levelMapBid.mapVal UPALevel.popDeltas
    levelMapAsk := b.levelMapAsk.mapVal UPALevel.popDeltas
    numLevelMsgs := b.numLevels % 2 ^ 16
    levelMsgs := max b.levelMsgs (b.numLevels % 2 ^ 16) }

def endUpdate (b : UPABookByOrderMessage) : UPABookByOrderMessage :=
  { b with
    levelMapBid := b.levelMapBid.eraseUnless fun l => l.numOrders ≠ 0
    levelMapAsk := b.levelMapAsk.eraseUnless fun l => l.numOrders ≠ 0 }

end UPABookByOrderMessage

/-- The entry of an operation is a new one each time. -/
inductive BookOp
  | add (e : UPABookEntry)
  | update (e : UPABookEntry)
  | remove (e : UPABookEntry)
  deriving DecidableEq

inductive BookAction
  | startUpdate
  | op (o : BookOp)
  | build
  | endUpdate
  deriving DecidableEq

namespace UPABookByOrderMessage

def apply (b : UPABookByOrderMessage) : BookOp → UPABookByOrderMessage
  | .add e => ((b.newEntry e).addEntry b.nextEntry).2
  | .update e => ((b.newEntry e).updateEntry b.nextEntry).2
  | .remove e => ((b.newEntry e).removeEntry b.nextEntry).2

def step (b : UPABookByOrderMessage) : BookAction → UPABookByOrderMessage
  | .startUpdate => b.startUpdate
  | .op o => b.apply o
  | .build => b.afterBuild
  | .endUpdate => b.endUpdate

end UPABookByOrderMessage

end RmdsBridge
