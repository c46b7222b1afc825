import RmdsBridge.BookStream
import RmdsBridge.OrderUpdates

namespace RmdsBridge

variable {D : Type}

inductive MapEntryRead
  | failed
  | entry (m : RsslMapEntry) (fieldsDecode : Bool)
  deriving DecidableEq, Repr

def walkMap (translated : ℕ → Bool) : List MapEntryRead → List BookOp × Bool
  | [] => ([], true)
  | .failed :: _ => ([], false)
  | .entry m fieldsDecode :: reads =>
    -- a delete has no field list
    if m.action = .delete ∨ fieldsDecode = true then
      let rest := walkMap translated reads
      (m.orderOp translated :: rest.1, rest.2)
    else ([], false)

structure OrderMessage where
  headDecodes : Bool
  map : List MapEntryRead
  deriving DecidableEq, Repr

def OrderMessage.walk (translated : ℕ → Bool) (m : OrderMessage) : List BookOp × Bool :=
  if m.headDecodes then walkMap translated m.map else ([], false)

structure OrderStream (D : Type) where
  stream : BookStream D
  rendered : Bool
  shown : LevelId → Finset String

namespace OrderStream

def start : OrderStream D := ⟨.start, true, fun _ => ∅⟩

def receive [DecidableEq D] (translated : ℕ → Bool) (f : RsslReal → D) (r : OrderStream D)
    (m : OrderMessage) : OrderStream D :=
  let (ops, complete) := m.walk translated
  if complete then
    let stream := r.stream.cycle f ops
    ⟨stream, true, stream.book.ordersAt⟩
  else ⟨⟨r.stream.pending ops, r.stream.client⟩, false, r.shown⟩

def Told (f : RsslReal → D) (r : OrderStream D) : Prop := r.rendered = true → r.stream.Follows f

def Faithful (translated : ℕ → Bool) (f : RsslReal → D) (r : OrderStream D) (m : OrderMessage) : Prop :=
  if (m.walk translated).2 then r.stream.CycleOk f (m.walk translated).1
  else r.stream.Fed (m.walk translated).1

def NothingLost (translated : ℕ → Bool) (r : OrderStream D) (m : OrderMessage) : Prop :=
  (m.walk translated).2 = true → r.stream.NothingMissed (m.walk translated).1 r.shown

instance [DecidableEq D] (translated : ℕ → Bool) (f : RsslReal → D) (r : OrderStream D)
    (m : OrderMessage) : Decidable (r.Faithful translated f m) :=
  inferInstanceAs (Decidable (if (m.walk translated).2 = true then _ else _))

instance (translated : ℕ → Bool) (r : OrderStream D) (m : OrderMessage) :
    Decidable (r.NothingLost translated m) :=
  inferInstanceAs (Decidable (_ → _))

open BookStream UPABookByOrderMessage

variable {translated : ℕ → Bool} {f : RsslReal → D} {r : OrderStream D} {m : OrderMessage}

structure Kept (f : RsslReal → D) (r : OrderStream D) : Prop where
  showing : r.stream.Showing f r.shown
  rendered : r.rendered = true → r.shown = r.stream.book.ordersAt

theorem kept_start : (start : OrderStream D).Kept f where
  showing := by
    have h := (following_start (D := D) (f := f)).showing
    have hnone : (BookStream.start : BookStream D).book.ordersAt = fun _ => ∅ := by
      funext l
      exact empty_ordersAt l
    rwa [hnone] at h
  rendered _ := by
    funext l
    exact (empty_ordersAt l).symm

theorem Kept.told (h : r.Kept f) : r.Told f := by
  intro hr
  have hs := h.showing
  rw [h.rendered hr] at hs
  exact hs.following.follows

theorem pending_showing {s : BookStream D} {shown : LevelId → Finset String} {ops : List BookOp}
    (h : s.Showing f shown) (ho : s.Fed ops) : Showing f ⟨s.pending ops, s.client⟩ shown := by
  have hp : Progress s.book.startUpdate (fun _ => True) (s.pending ops) :=
    ho.run_inv (fun _ o hp ho => hp.apply o ⟨ho, fun _ _ => trivial⟩)
      (progress_startUpdate _ h.tracked h.coded)
  have hkeeps {l : LevelId} {v : UPALevel} (hv : s.book.level l = some v) :
      ∃ w, (s.pending ops).level l = some w ∧ w.price = v.price :=
    hp.keeps l v.clearDeltas (by rw [startUpdate_level, hv]; rfl)
  refine ⟨hp.tracked, hp.coded, ?_, ?_⟩
  · intro l hl
    obtain ⟨v, hv⟩ := h.present l hl
    obtain ⟨w, hw, -⟩ := hkeeps hv
    exact ⟨w, hw⟩
  · obtain ⟨c, hc, hheld⟩ := h.held
    refine ⟨c, hc, fun k t => (hheld k t).trans ?_⟩
    constructor
    · rintro ⟨l, v, hv, hne, hk, ht⟩
      obtain ⟨w, hw, hprice⟩ := hkeeps hv
      exact ⟨l, w, hw, hne, by rw [hprice]; exact hk, ht⟩
    · rintro ⟨l, w, hw, hne, hk, ht⟩
      obtain ⟨v, hv⟩ := h.present l hne
      obtain ⟨w', hw', hprice⟩ := hkeeps hv
      obtain rfl := Option.some.inj (hw.symm.trans hw')
      exact ⟨l, v, hv, hne, by rw [← hprice]; exact hk, ht⟩

variable [DecidableEq D]

theorem receive_kept (h : r.Kept f) (hf : r.Faithful translated f m) (hn : r.NothingLost translated m) :
    (r.receive translated f m).Kept f := by
  unfold receive
  unfold Faithful at hf
  unfold NothingLost at hn
  cases hw : m.walk translated with
  | mk ops complete =>
    rw [hw] at hf hn
    dsimp only at hf hn ⊢
    cases complete with
    | true => exact ⟨(cycle_following h.showing ops hf (hn rfl)).showing, fun _ => rfl⟩
    | false => exact ⟨pending_showing h.showing hf, fun hr => absurd hr Bool.false_ne_true⟩

theorem receive_told (h : r.Kept f) (hf : r.Faithful translated f m)
    (ht : (r.receive translated f m).Told f) : r.NothingLost translated m := by
  unfold receive at ht
  unfold Faithful at hf
  unfold NothingLost
  cases hw : m.walk translated with
  | mk ops complete =>
    rw [hw] at hf ht
    dsimp only at hf ht ⊢
    intro hc
    subst hc
    exact nothingMissed_of_follows h.showing hf (ht rfl)

theorem run_told_iff {ms : List OrderMessage} (h : r.Kept f)
    (hf : Runs.Guarded (receive translated f) (Faithful translated f) r ms) :
    Runs.Always (receive translated f) (Told f) r ms ↔
      Runs.Guarded (receive translated f) (NothingLost translated) r ms := by
  induction ms generalizing r with
  | nil => exact ⟨fun _ => trivial, fun _ => h.told⟩
  | cons m ms ih =>
    obtain ⟨hfirst, hrest⟩ := hf
    constructor
    · rintro ⟨-, ht⟩
      have hn := receive_told h hfirst ht.head
      exact ⟨hn, (ih (receive_kept h hfirst hn) hrest).mp ht⟩
    · rintro ⟨hn, hns⟩
      exact ⟨h.told, (ih (receive_kept h hfirst hn) hrest).mpr hns⟩

def orderEntry (id : String) (action : RsslMapEntryAction) : MapEntryRead :=
  .entry ⟨action, id, [⟨3427, .real ⟨100, .exponent0⟩⟩, ⟨3428, .enum 1⟩]⟩ true

def lostAdd : List OrderMessage := [⟨true, [orderEntry "1" .add, .failed]⟩, ⟨true, []⟩]

theorem lostAdd_not_told :
    ¬ ∀ ms, Runs.Guarded (receive (fun _ => true) fun x => x.toRat.getD 0)
        (Faithful (fun _ => true) fun x => x.toRat.getD 0) start ms →
      Runs.Always (receive (fun _ => true) fun x => x.toRat.getD 0)
        (Told fun x => x.toRat.getD 0) start ms := by
  intro h
  have hf : Runs.Guarded (receive (fun _ => true) fun x : RsslReal => x.toRat.getD 0)
      (Faithful (fun _ => true) fun x => x.toRat.getD 0) start lostAdd := by
    decide +kernel
  exact absurd ((run_told_iff kept_start hf).mp (h lostAdd hf)) (by decide +kernel)

theorem told_iff_nothing_lost (translated : ℕ → Bool) (f : RsslReal → D) (ms : List OrderMessage)
    (hf : Runs.Guarded (receive translated f) (Faithful translated f) start ms) :
    Runs.Always (receive translated f) (Told f) start ms ↔
      Runs.Guarded (receive translated f) (NothingLost translated) start ms :=
  run_told_iff kept_start hf

theorem cut_removal_told :
    Runs.Always (receive (fun _ => true) fun x => x.toRat.getD 0) (Told fun x => x.toRat.getD 0) start
      [⟨true, [orderEntry "1" .add]⟩, ⟨true, [orderEntry "1" .delete, .failed]⟩, ⟨true, []⟩] :=
  (told_iff_nothing_lost _ _ _ (by decide +kernel)).mpr (by decide +kernel)

end OrderStream

end RmdsBridge
