import RmdsBridge.Rssl

namespace RmdsBridge

inductive Side
  | bid
  | ask
  deriving DecidableEq, Repr

def Side.code : Side → Char
  | .bid => 'B'
  | .ask => 'A'

def Side.ofCode (c : Char) : Option Side :=
  if c = 'A' then some .ask else if c = 'B' then some .bid else none

@[simp] theorem Side.ofCode_code (s : Side) : Side.ofCode s.code = some s := by
  cases s <;> rfl

structure UPABookEntry where
  actionCode : Char := 'Z'
  sideCode : Char := 'Z'
  orderid : String := ""
  orderTone : String := ""
  mmid : String := ""
  size : ℤ := 0
  price : RsslReal := ⟨0, .exponent0⟩
  time : ℕ := 0
  numOrders : ℕ := 0
  haveOrderTone : Bool := false
  haveMmid : Bool := false
  deriving DecidableEq, Repr

namespace UPABookEntry

def hasSide (e : UPABookEntry) : Bool := e.sideCode != 'Z'

def level (e : UPABookEntry) : Option (Side × ℤ) :=
  (Side.ofCode e.sideCode).map fun s => (s, e.price.value)

theorem level_eq_some {e : UPABookEntry} {l : Side × ℤ} (h : e.level = some l) :
    Side.ofCode e.sideCode = some l.1 ∧ e.price.value = l.2 := by
  obtain ⟨s, hs, rfl⟩ := Option.map_eq_some_iff.mp h
  exact ⟨hs, rfl⟩

end UPABookEntry

/-- `UPAFieldDecoder::DecodeBookFieldEntry`: a field that the field map does not translate, or whose
primitive does not decode as its fid expects, leaves the entry as it is. -/
def decodeBookFieldEntry (translated : ℕ → Bool) (entry : UPABookEntry) (f : RsslFieldEntry) :
    UPABookEntry :=
  if translated f.fieldId then
    match f.fieldId, f.data with
    -- ORDER_PRC
    | 3427, .real r => { entry with price := r }
    -- ORDER_SIZE and ACCUMULATED SIZE
    | 3429, .real r | 4356, .real r =>
      if r.hint = .exponent0 then { entry with size := r.value } else entry
    -- NUMBER OF ORDERS
    | 3430, .uint n => { entry with numOrders := n }
    -- QUOTIM_MS and LV_TIM_MS
    | 3855, .uint n | 6527, .uint n => { entry with time := n }
    -- ORDER_TONE
    | 3886, .buffer s => { entry with orderTone := s, haveOrderTone := true }
    | 3886, .blank => { entry with orderTone := "", haveOrderTone := true }
    -- ORDER_SIDE: 1 is a bid, 2 an ask
    | 3428, .enum n =>
      if n = 1 then { entry with sideCode := 'B' }
      else if n = 2 then { entry with sideCode := 'A' } else entry
    -- MKT_MKR_ID and MMID
    | 212, .buffer s | 3435, .buffer s => { entry with mmid := s, haveMmid := true }
    | 212, .blank | 3435, .blank => { entry with mmid := "", haveMmid := true }
    | _, _ => entry
  else entry

def RsslMapEntryAction.code : RsslMapEntryAction → Char
  | .update => 'U'
  | .add => 'A'
  | .delete => 'D'

def RsslMapEntry.entry (translated : ℕ → Bool) (m : RsslMapEntry) : UPABookEntry :=
  let entry := { actionCode := m.action.code }
  match m.action with
  | .delete => entry
  | .add | .update => m.fields.foldl (decodeBookFieldEntry translated) entry

theorem decodeBookFieldEntry_actionCode (translated : ℕ → Bool) (e : UPABookEntry)
    (x : RsslFieldEntry) : (decodeBookFieldEntry translated e x).actionCode = e.actionCode := by
  unfold decodeBookFieldEntry
  repeat' split
  all_goals rfl

theorem RsslMapEntry.entry_actionCode (translated : ℕ → Bool) (m : RsslMapEntry) :
    (m.entry translated).actionCode = m.action.code := by
  have hfold (xs : List RsslFieldEntry) : ∀ e : UPABookEntry,
      (xs.foldl (decodeBookFieldEntry translated) e).actionCode = e.actionCode := by
    induction xs with
    | nil => exact fun _ => rfl
    | cons x xs ih => exact fun e => (ih _).trans (decodeBookFieldEntry_actionCode translated e x)
  unfold RsslMapEntry.entry
  cases m.action with
  | delete => rfl
  | add | update => exact hfold _ _

end RmdsBridge
