import RmdsBridge.SubscriptionFlags

namespace RmdsBridge

open Delivery

variable {P L : Type}

namespace NumberedConsumer

def Attends (s : P) (l : L) (c : NumberedConsumer P L) : Prop :=
  l ∈ c.consumer.listeners s ∧ (c.receivers l).bridge.listens = true

structure Inv (c : NumberedConsumer P L) : Prop where
  nodup : ∀ s, (c.consumer.listeners s).Nodup
  apart : ∀ s t l, l ∈ c.consumer.listeners s → l ∈ c.consumer.listeners t → s = t
  isSnapshot : ∀ s, (c.consumer.flags s).1 = true → c.consumer.listeners s = []
  snapShot : ∀ s, (c.consumer.flags s).2 = true → (c.consumer.flags s).1 = true
  sync : c.asyncMessaging = false → ∀ l, (c.receivers l).queue = []
  statusZero : ∀ l, (c.receivers l).StatusZero
  current : ∀ s l, Attends s l c →
    (c.receivers l).Current (c.msgSeqNum s) (numbers (c.receivers l).queue)

def start (config : TransportConfig) (asyncMessaging : Bool) : NumberedConsumer P L :=
  { consumer := { config }, asyncMessaging }

theorem inv_start (config : TransportConfig) (asyncMessaging : Bool) :
    (start config asyncMessaging : NumberedConsumer P L).Inv where
  nodup _ := List.nodup_nil
  apart _ _ _ h := absurd h List.not_mem_nil
  isSnapshot _ _ := rfl
  snapShot _ h := h
  sync _ _ := rfl
  statusZero _ _ h := absurd h List.not_mem_nil
  current _ _ h := absurd h.1 List.not_mem_nil

instance [DecidableEq L] (s : P) (l : L) (c : NumberedConsumer P L) : Decidable (Attends s l c) :=
  inferInstanceAs (Decidable (_ ∧ _))

variable {c : NumberedConsumer P L} {s : P}

theorem Inv.sound (hc : c.Inv) (s : P) : (c.numbering s).Sound where
  nodup := hc.nodup s
  isSnapshot := hc.isSnapshot s
  snapShot hs := hc.isSnapshot s (hc.snapShot s hs)
  sync := hc.sync

theorem Inv.of_same (hc : c.Inv) {u : UPAConsumer P L} (hl : u.listeners = c.consumer.listeners)
    (hf : u.flags = c.consumer.flags) : Inv { c with consumer := u } where
  nodup := hl ▸ hc.nodup
  apart := hl ▸ hc.apart
  isSnapshot := hf ▸ hl ▸ hc.isSnapshot
  snapShot := hf ▸ hc.snapShot
  sync := hc.sync
  statusZero := hc.statusZero
  current t l ha := hc.current t l ⟨congrFun hl t ▸ ha.1, ha.2⟩

variable [DecidableEq P]

theorem handle_listeners {n : Numbering P L} (h : (c.numbering s).Heard n) :
    (c.handle s n).consumer.listeners = c.consumer.listeners :=
  UPAConsumer.listeners_same rfl h.listeners

theorem handle_advance (hc : c.Inv) {n : Numbering P L} (h : (c.numbering s).Heard n) {t : P}
    {l : L} (ha : Attends t l c) :
    (c.receivers l).Advance ((c.handle s n).receivers l) (c.msgSeqNum t)
      ((c.handle s n).msgSeqNum t) := by
  change Receiver.Advance _ (n.receivers l) _ (Function.update c.msgSeqNum s n.msgSeqNum t)
  by_cases ht : t = s
  · subst ht
    rw [Function.update_self]
    exact h.advance l ha.1 ha.2
  · have hl : l ∉ c.consumer.listeners s := fun hs => ht (hc.apart t s l ha.1 hs)
    have hsame : n.receivers l = c.receivers l := h.other l hl
    rw [Function.update_of_ne ht, hsame]
    exact (Receiver.Quiet.refl _).advance _

theorem handle_inv (hc : c.Inv) {n : Numbering P L} (h : (c.numbering s).Heard n) :
    (c.handle s n).Inv := by
  have hl := handle_listeners h
  have hflags (t : P) (ht : t ≠ s) : (c.handle s n).consumer.flags t = c.consumer.flags t :=
    congrArg UPASubscription.flags (Function.update_of_ne ht _ _)
  have hself : (c.handle s n).consumer.flags s = UPASubscription.flags n.handling.sub :=
    congrArg UPASubscription.flags (Function.update_self _ _ _)
  refine ⟨?_, ?_, ?_, ?_, ?_, ?_, ?_⟩
  · intro t
    rw [hl]
    exact hc.nodup t
  · intro t v l ht hv
    rw [hl] at ht hv
    exact hc.apart t v l ht hv
  · intro t ht
    refine (congrFun hl t).trans (hc.isSnapshot t ?_)
    by_cases hts : t = s
    · subst hts
      rw [hself] at ht
      exact h.isSnapshot.symm.trans ht
    · rwa [hflags t hts] at ht
  · intro t ht
    by_cases hts : t = s
    · subst hts
      rw [hself] at ht ⊢
      exact h.isSnapshot.trans (hc.snapShot t (h.snapShot ht))
    · rw [hflags t hts] at ht ⊢
      exact hc.snapShot t ht
  · intro ha l
    exact (h.sync ha l).trans (hc.sync ha l)
  · exact fun l => h.statusZero l (hc.statusZero l)
  · intro t l ha
    have hbefore : Attends t l c := ⟨(congrFun hl t) ▸ ha.1, (h.listens l).symm.trans ha.2⟩
    exact (handle_advance hc h hbefore).queue (hc.current t l hbefore)

/-- What holds of an event by its callers: a listener is made for the one subscription that it is
added to, and the subscription of a snapshot is made without listeners. -/
def Promised (c : NumberedConsumer P L) : NumberedEvent P L → Prop
  | .consumer (.addListener s l) =>
    (∀ t, l ∉ c.consumer.listeners t) ∧ (c.consumer.subscriptions s).isSnapshot = false ∧
      (c.receivers l).queue = []
  | .consumer (.snapshot s) => c.consumer.listeners s = []
  | _ => True

def InOrder [DecidableEq L] (c : NumberedConsumer P L) : NumberedEvent P L → Prop
  | .consumer (.respond domain streamId msg) =>
    ∀ s, c.consumer.target domain streamId = some s →
      Numbering.Answers domain (c.consumer.subscriptions s) msg →
        Numbering.Serves (c.consumer.subscriptions s) c.receivers
  | .resumeUpdates l =>
    ∀ s, l ∈ c.consumer.listeners s → (c.receivers l).bridge.isShutdown = false →
      (c.receivers l).Current (c.msgSeqNum s) (numbers (c.receivers l).queue)
  | _ => True

def Ok [DecidableEq L] (c : NumberedConsumer P L) (e : NumberedEvent P L) : Prop :=
  c.Promised e ∧ c.InOrder e

end NumberedConsumer

end RmdsBridge
