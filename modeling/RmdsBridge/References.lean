import RmdsBridge.BridgeSubscription
import RmdsBridge.Runs

namespace RmdsBridge

/-- A list has fewer listeners than a `size_t` has values, so that the count does not wrap. -/
structure RMDSBridgeMsgImpl where
  references : ℕ := 0
  detached : Bool := false
  deriving DecidableEq, Repr

namespace RMDSBridgeMsgImpl

def increaseReferences (m : RMDSBridgeMsgImpl) : RMDSBridgeMsgImpl :=
  { m with references := m.references + 1 }

def decreaseReferences (m : RMDSBridgeMsgImpl) : RMDSBridgeMsgImpl :=
  { m with references := m.references - 1 }

def getReferences (m : RMDSBridgeMsgImpl) : ℕ := m.references

def isDetached (m : RMDSBridgeMsgImpl) : Bool := m.detached

def detach (m : RMDSBridgeMsgImpl) : RMDSBridgeMsgImpl := { m with detached := true }

end RMDSBridgeMsgImpl

inductive QueueCallback
  | process
  | decrease
  | read
  | finish (references : ℕ)
  | done
  deriving DecidableEq, Repr

structure AsyncDelivery where
  msgType : MamaMsgType
  listeners : List RMDSBridgeSubscription
  increased : Bool := false
  callbacks : List QueueCallback := []
  newMsg : RMDSBridgeMsgImpl := {}
  destroyed : ℕ := 0
  lateUse : Bool := false

/-- Who takes the next step. A client may detach the message that it is given. -/
inductive Turn
  | notify
  | callback (i : ℕ) (detaches : Bool)

namespace AsyncDelivery

def use (q : AsyncDelivery) : AsyncDelivery :=
  { q with lateUse := q.lateUse || decide (0 < q.destroyed) }

def notify (q : AsyncDelivery) : AsyncDelivery :=
  match q.listeners with
  | [] => q
  | b :: bs =>
    if q.increased then
      { q with
        listeners := bs
        increased := false
        callbacks := if (b.onMessage q.msgType).1 then q.callbacks ++ [.process] else q.callbacks }
    else { q with newMsg := q.newMsg.increaseReferences, increased := true }

def queueCallback (q : AsyncDelivery) (i : ℕ) (detaches : Bool) : AsyncDelivery :=
  match q.callbacks[i]? with
  | some .process =>
    { q.use with
      callbacks := q.callbacks.set i .decrease
      newMsg := if detaches then q.newMsg.detach else q.newMsg }
  | some .decrease =>
    { q.use with callbacks := q.callbacks.set i .read, newMsg := q.newMsg.decreaseReferences }
  | some .read => { q.use with callbacks := q.callbacks.set i (.finish q.newMsg.getReferences) }
  | some (.finish references) =>
    if references = 0 then
      { q.use with
        callbacks := q.callbacks.set i .done
        destroyed := if q.newMsg.isDetached then q.destroyed else q.destroyed + 1 }
    else { q with callbacks := q.callbacks.set i .done }
  | some .done | none => q

def step (q : AsyncDelivery) : Turn → AsyncDelivery
  | .notify => q.notify
  | .callback i detaches => q.queueCallback i detaches

def Finished (q : AsyncDelivery) : Prop := q.listeners = [] ∧ ∀ c ∈ q.callbacks, c = .done

structure Sound (q : AsyncDelivery) : Prop where
  inTime : q.lateUse = false
  once : q.destroyed ≤ 1
  freed : q.Finished → q.newMsg.isDetached = false → q.destroyed = 1

inductive Alone (t : MamaMsgType) (b : RMDSBridgeSubscription) : AsyncDelivery → Prop
  | start : Alone t b ⟨t, [b], false, [], ⟨0, false⟩, 0, false⟩
  | counted : Alone t b ⟨t, [b], true, [], ⟨1, false⟩, 0, false⟩
  | process : Alone t b ⟨t, [], false, [.process], ⟨1, false⟩, 0, false⟩
  | decrease (d : Bool) : Alone t b ⟨t, [], false, [.decrease], ⟨1, d⟩, 0, false⟩
  | read (d : Bool) : Alone t b ⟨t, [], false, [.read], ⟨0, d⟩, 0, false⟩
  | finish (d : Bool) : Alone t b ⟨t, [], false, [.finish 0], ⟨0, d⟩, 0, false⟩
  | done (d : Bool) : Alone t b ⟨t, [], false, [.done], ⟨0, d⟩, if d then 0 else 1, false⟩

theorem Alone.sound {t : MamaMsgType} {b : RMDSBridgeSubscription} {q : AsyncDelivery}
    (h : Alone t b q) : q.Sound := by
  cases h with
  | start => exact ⟨rfl, Nat.zero_le _, fun hf => by cases hf.1⟩
  | counted => exact ⟨rfl, Nat.zero_le _, fun hf => by cases hf.1⟩
  | process => exact ⟨rfl, Nat.zero_le _, fun hf => by simpa using hf.2⟩
  | decrease d => exact ⟨rfl, Nat.zero_le _, fun hf => by simpa using hf.2⟩
  | read d => exact ⟨rfl, Nat.zero_le _, fun hf => by simpa using hf.2⟩
  | finish d => exact ⟨rfl, Nat.zero_le _, fun hf => by simpa using hf.2⟩
  | done d =>
    cases d with
    | true => exact ⟨rfl, Nat.zero_le _, fun _ hd => by cases hd⟩
    | false => exact ⟨rfl, le_refl _, fun _ _ => rfl⟩

theorem Alone.step {t : MamaMsgType} {b : RMDSBridgeSubscription} (hb : (b.onMessage t).1 = true)
    {q : AsyncDelivery} (h : Alone t b q) (turn : Turn) : Alone t b (q.step turn) := by
  cases turn with
  | notify =>
    cases h with
    | start => exact .counted
    | counted =>
      have hq : AsyncDelivery.step ⟨t, [b], true, [], ⟨1, false⟩, 0, false⟩ .notify =
          ⟨t, [], false, [.process], ⟨1, false⟩, 0, false⟩ := by
        simp [AsyncDelivery.step, notify, hb]
      rw [hq]
      exact .process
    | process => exact .process
    | decrease d => exact .decrease d
    | read d => exact .read d
    | finish d => exact .finish d
    | done d => exact .done d
  | callback i detaches =>
    cases i with
    | zero =>
      cases h with
      | start => exact .start
      | counted => exact .counted
      | process => cases detaches <;> exact .decrease _
      | decrease d => exact .read d
      | read d => exact .finish d
      | finish d => cases d <;> exact .done _
      | done d => exact .done d
    | succ i =>
      cases h with
      | start => exact .start
      | counted => exact .counted
      | process => exact .process
      | decrease d => exact .decrease d
      | read d => exact .read d
      | finish d => exact .finish d
      | done d => exact .done d

def runCallback (i : ℕ) : List Turn := List.replicate 4 (.callback i false)

theorem run_callback (t : MamaMsgType) (ls : List RMDSBridgeSubscription)
    (pre post : List QueueCallback) (r : ℕ) :
    Runs.run step ⟨t, ls, false, pre ++ .process :: post, ⟨r + 1, false⟩, 0, false⟩
        (runCallback pre.length) =
      ⟨t, ls, false, pre ++ .done :: post, ⟨r, false⟩, if r = 0 then 1 else 0, false⟩ := by
  have hget (c : QueueCallback) : (pre ++ c :: post)[pre.length]? = some c := by simp
  have hset (c c' : QueueCallback) :
      (pre ++ c :: post).set pre.length c' = pre ++ c' :: post := by simp
  simp only [runCallback, List.replicate, Runs.run_cons, Runs.run_nil, step]
  simp [queueCallback, hset, use, RMDSBridgeMsgImpl.decreaseReferences,
    RMDSBridgeMsgImpl.getReferences, RMDSBridgeMsgImpl.isDetached]
  split_ifs <;> rfl

def notifyAll (ls : List RMDSBridgeSubscription) : List Turn := ls.flatMap fun _ => [.notify, .notify]

def enqueue (t : MamaMsgType) (b : RMDSBridgeSubscription) (cs : List QueueCallback) :
    List QueueCallback :=
  if (b.onMessage t).1 then cs ++ [.process] else cs

theorem run_notify (t : MamaMsgType) (b : RMDSBridgeSubscription) (bs : List RMDSBridgeSubscription)
    (cs : List QueueCallback) (r d : ℕ) :
    Runs.run step ⟨t, b :: bs, false, cs, ⟨r, false⟩, d, false⟩ [.notify, .notify] =
      ⟨t, bs, false, enqueue t b cs, ⟨r + 1, false⟩, d, false⟩ := rfl

def enqueuing (t : MamaMsgType) (ls : List RMDSBridgeSubscription) : ℕ :=
  ls.countP fun b => (b.onMessage t).1

theorem run_notifyAll (t : MamaMsgType) (ls : List RMDSBridgeSubscription)
    (cs : List QueueCallback) (r : ℕ) :
    Runs.run step ⟨t, ls, false, cs, ⟨r, false⟩, 0, false⟩ (notifyAll ls) =
      ⟨t, [], false, cs ++ List.replicate (enqueuing t ls) .process, ⟨r + ls.length, false⟩, 0,
        false⟩ := by
  induction ls generalizing cs r with
  | nil => simp [notifyAll, enqueuing]
  | cons b bs ih =>
    have hcs : enqueue t b cs ++ List.replicate (enqueuing t bs) .process =
        cs ++ List.replicate (enqueuing t (b :: bs)) .process := by
      unfold enqueue enqueuing
      rw [List.countP_cons]
      split_ifs
      · rw [List.append_assoc, List.replicate_succ]
        rfl
      · rfl
    have hlen : r + 1 + bs.length = r + (b :: bs).length := by
      rw [List.length_cons]
      omega
    rw [notifyAll, List.flatMap_cons, Runs.run_append, run_notify, ← hcs, ← hlen]
    exact ih (enqueue t b cs) (r + 1)

def runCallbacks (i j : ℕ) : List Turn := (List.range' i j).flatMap runCallback

theorem run_callbacks (t : MamaMsgType) (i j r : ℕ) :
    Runs.run step ⟨t, [], false, List.replicate i .done ++ List.replicate j .process,
        ⟨r + 1 + j, false⟩, 0, false⟩ (runCallbacks i j) =
      ⟨t, [], false, List.replicate (i + j) .done, ⟨r + 1, false⟩, 0, false⟩ := by
  induction j generalizing i with
  | zero => simp [runCallbacks]
  | succ j ih =>
    have hrun := run_callback t [] (List.replicate i .done) (List.replicate j .process) (r + 1 + j)
    have hdone : List.replicate i QueueCallback.done ++ .done :: List.replicate j .process =
        List.replicate (i + 1) .done ++ List.replicate j .process := by
      rw [List.replicate_succ', List.append_assoc]
      rfl
    rw [List.length_replicate, hdone, if_neg (by omega)] at hrun
    rw [runCallbacks, List.range'_succ, List.flatMap_cons, Runs.run_append, List.replicate_succ,
      ← Nat.add_assoc, hrun, show i + (j + 1) = i + 1 + j by omega]
    exact ih (i + 1)

theorem leaks {t : MamaMsgType} {ls : List RMDSBridgeSubscription}
    (h : enqueuing t ls < ls.length) :
    ¬ (Runs.run step ⟨t, ls, false, [], {}, 0, false⟩
      (notifyAll ls ++ runCallbacks 0 (enqueuing t ls))).Sound := by
  intro hs
  obtain ⟨r, hr⟩ : ∃ r, ls.length = r + 1 + enqueuing t ls :=
    ⟨ls.length - 1 - enqueuing t ls, by omega⟩
  have hrun := run_callbacks t 0 (enqueuing t ls) r
  have hall := run_notifyAll t ls [] 0
  rw [Runs.run_append, hall, Nat.zero_add, hr, List.nil_append] at hs
  rw [List.replicate_zero, List.nil_append, Nat.zero_add] at hrun
  rw [hrun] at hs
  have hfreed := hs.freed ⟨rfl, fun c hc => List.eq_of_mem_replicate hc⟩ rfl
  cases hfreed

def earlyTurns : List Turn :=
  [.notify, .notify] ++ runCallback 0 ++ [.notify, .notify] ++ [.callback 1 false]

theorem uses_late {t : MamaMsgType} {b₁ b₂ : RMDSBridgeSubscription}
    {bs : List RMDSBridgeSubscription} (h₁ : (b₁.onMessage t).1 = true)
    (h₂ : (b₂.onMessage t).1 = true) :
    ¬ (Runs.run step ⟨t, b₁ :: b₂ :: bs, false, [], {}, 0, false⟩ earlyTurns).Sound := by
  intro hs
  have hlate : (Runs.run step ⟨t, b₁ :: b₂ :: bs, false, [], {}, 0, false⟩ earlyTurns).lateUse =
      true := by
    have hfirst : Runs.run step ⟨t, b₁ :: b₂ :: bs, false, [], {}, 0, false⟩ [.notify, .notify] =
        ⟨t, b₂ :: bs, false, [.process], ⟨1, false⟩, 0, false⟩ := by
      rw [run_notify, enqueue, if_pos h₁]
      rfl
    have hcallback : Runs.run step ⟨t, b₂ :: bs, false, [.process], ⟨1, false⟩, 0, false⟩
        (runCallback 0) = ⟨t, b₂ :: bs, false, [.done], ⟨0, false⟩, 1, false⟩ :=
      run_callback t (b₂ :: bs) [] [] 0
    have hsecond : Runs.run step ⟨t, b₂ :: bs, false, [.done], ⟨0, false⟩, 1, false⟩
        [.notify, .notify] = ⟨t, bs, false, [.done, .process], ⟨1, false⟩, 1, false⟩ := by
      rw [run_notify, enqueue, if_pos h₂]
      rfl
    rw [earlyTurns, Runs.run_append, Runs.run_append, Runs.run_append, hfirst, hcallback, hsecond]
    rfl
  rw [hs.inTime] at hlate
  cases hlate

theorem delivery_sound_iff (t : MamaMsgType) (listeners : List RMDSBridgeSubscription) :
    (∀ turns, Runs.Always step Sound { msgType := t, listeners } turns) ↔
      ∃ b, listeners = [b] ∧ (b.onMessage t).1 = true := by
  constructor
  · intro h
    have hend (turns : List Turn) : (Runs.run step { msgType := t, listeners } turns).Sound :=
      Runs.always_iff_run.mp (h turns) turns (List.prefix_refl _)
    have hall : enqueuing t listeners = listeners.length := by
      refine le_antisymm List.countP_le_length ?_
      by_contra hlt
      exact leaks (not_le.mp hlt) (hend _)
    have hb : ∀ b ∈ listeners, (b.onMessage t).1 = true := List.countP_eq_length.mp hall
    cases listeners with
    | nil =>
      have hfreed := (hend []).freed ⟨rfl, by simp⟩ rfl
      cases hfreed
    | cons b bs =>
      cases bs with
      | nil => exact ⟨b, rfl, hb b List.mem_cons_self⟩
      | cons b' bs =>
        exact absurd (hend earlyTurns)
          (uses_late (hb b List.mem_cons_self) (hb b' (by simp)))
  · rintro ⟨b, rfl, hb⟩ turns
    refine Runs.always_iff_run.mpr fun bs _ => ?_
    exact (Runs.run_inv (fun _ turn h => h.step hb turn) Alone.start : Alone t b _).sound

theorem two_listeners_not_sound :
    ¬ ∀ (t : MamaMsgType) (listeners : List RMDSBridgeSubscription) (turns : List Turn),
      Runs.Always step Sound { msgType := t, listeners } turns := by
  intro h
  have hend := Runs.always_iff_run.mp
    (h .update [{ gotImage := true }, { gotImage := true }] earlyTurns) earlyTurns (List.prefix_refl _)
  exact absurd hend.inTime (by decide)

end AsyncDelivery

end RmdsBridge
