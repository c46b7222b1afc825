import Mathlib.Algebra.Group.Nat.Defs
import Mathlib.Data.Finset.Card
import Mathlib.Logic.Function.Basic
import Mathlib.Tactic.Common

namespace RmdsBridge

def numStreamIds : ℕ := 0x40000

def startStreamId : ℕ := 16

def index2StreamId (index : ℕ) : ℕ := (index + startStreamId) % 2 ^ 32

def streamId2Index (streamId : ℕ) : ℕ := (streamId + (2 ^ 32 - startStreamId)) % 2 ^ 32

/-- `P` are the addresses of the subscriptions; `itemArray` has the subscription of each item. -/
structure UPAStreamManager (P : Type) where
  itemArray : ℕ → Option P := fun _ => none
  nextIndex : ℕ := 0
  freeStreamIds : List ℕ := []
  pendingItems : Finset P := ∅
  openItems : BitVec 64 := 0
  pendingCloses : BitVec 64 := 0

namespace UPAStreamManager

variable {P : Type}

/-- The stream id 0 says that there are no more. -/
def addItem (m : UPAStreamManager P) (sub : P) : ℕ × UPAStreamManager P :=
  if numStreamIds ≤ m.nextIndex then
    match m.freeStreamIds with
    | index :: free =>
      (index2StreamId index, { m with
        itemArray := Function.update m.itemArray index (some sub), freeStreamIds := free })
    | [] => (0, m)
  else
    (index2StreamId m.nextIndex, { m with
      itemArray := Function.update m.itemArray m.nextIndex (some sub)
      nextIndex := m.nextIndex + 1 })

def getItem (m : UPAStreamManager P) (streamId : ℕ) : Option P :=
  m.itemArray (streamId2Index streamId)

def releaseStreamId (m : UPAStreamManager P) (streamId : ℕ) : UPAStreamManager P :=
  { m with
    itemArray := Function.update m.itemArray (streamId2Index streamId) none
    freeStreamIds := m.freeStreamIds ++ [streamId2Index streamId] }

def addPendingItem [DecidableEq P] (m : UPAStreamManager P) (sub : P) : UPAStreamManager P :=
  { m with pendingItems := insert sub m.pendingItems }

def removePendingItem [DecidableEq P] (m : UPAStreamManager P) (sub : P) : UPAStreamManager P :=
  { m with pendingItems := m.pendingItems.erase sub }

def countPendingItems (m : UPAStreamManager P) : ℕ := m.pendingItems.card

def incOpenItems (m : UPAStreamManager P) : UPAStreamManager P :=
  { m with openItems := m.openItems + 1 }

def decOpenItems (m : UPAStreamManager P) : UPAStreamManager P :=
  { m with openItems := m.openItems - 1 }

def incPendingCloses (m : UPAStreamManager P) : UPAStreamManager P :=
  { m with pendingCloses := m.pendingCloses + 1 }

def decPendingCloses (m : UPAStreamManager P) : UPAStreamManager P :=
  { m with pendingCloses := m.pendingCloses - 1 }

end UPAStreamManager

theorem streamId2Index_index2StreamId {i : ℕ} (h : i < numStreamIds) :
    streamId2Index (index2StreamId i) = i := by
  unfold numStreamIds at h
  unfold streamId2Index index2StreamId startStreamId
  omega

theorem index2StreamId_ne_zero {i : ℕ} (h : i < numStreamIds) : index2StreamId i ≠ 0 := by
  unfold numStreamIds at h
  unfold index2StreamId startStreamId
  omega

end RmdsBridge
