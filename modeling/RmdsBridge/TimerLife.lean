import RmdsBridge.Runs
import RmdsBridge.Timer

namespace RmdsBridge

namespace BridgeTimer

structure LivesOnce (s : BridgeTimer) : Prop where
  untouched : s.touchedFreed = false
  once : s.frees + s.queue.count .destroyCallback = if s.impl.destroying then 1 else 0
  emptied : 0 < s.frees → s.heap = []

def Admissible (s : BridgeTimer) : TimerEvent → Prop
  | .fire _ | .fireEnqueue | .dispatch => True
  | .fireReset o => o.destroyTimer = true
  | .reset o | .setInterval _ o => o.destroyTimer = true ∧ s.impl.destroying = false
  | .destroy destroyTimer => s.impl.destroying = false ∧ s.firing = .idle ∧
      (destroyTimer = true ∨ s.heap = [])

instance (s : BridgeTimer) (e : TimerEvent) : Decidable (Admissible s e) := by
  unfold Admissible; split <;> infer_instance

inductive Stage (s : BridgeTimer) : Prop
  | alive (hd : s.impl.destroying = false) (hf : s.frees = 0) (hq : .destroyCallback ∉ s.queue)
  | leaving (hd : s.impl.destroying = true) (hi : s.firing = .idle) (hh : s.heap = []) (hf : s.frees = 0)
      (l : List TimerCallback) (hl : .destroyCallback ∉ l) (hq : s.queue = l ++ [.destroyCallback])
  | gone (hd : s.impl.destroying = true) (hi : s.firing = .idle) (hh : s.heap = []) (hf : s.frees = 1)
      (hq : s.queue = [])

structure Kept (s : BridgeTimer) : Prop where
  untouched : s.touchedFreed = false
  current : ∀ e ∈ s.heap, e.id = s.impl.timerElement
  stage : Stage s

variable {s : BridgeTimer}

theorem touch_of_not_freed (h : s.frees = 0) : s.touch = s :=
  if_neg (by omega)

theorem removeElement_heap (h : ∀ e ∈ s.heap, e.id = s.impl.timerElement) : s.removeElement.heap = [] := by
  apply List.filter_eq_nil_iff.mpr
  intro e he
  simp [h e he]

theorem Kept.livesOnce (h : Kept s) : LivesOnce s := by
  refine ⟨h.untouched, ?_, ?_⟩
  · cases h.stage with
    | alive hd hf hq => simp [hd, hf, List.count_eq_zero.mpr hq]
    | leaving hd _ _ hf l hl hq => simp [hd, hf, hq, List.count_eq_zero.mpr hl]
    | gone hd _ _ hf hq => simp [hd, hf, hq]
  · intro hfreed
    cases h.stage with
    | alive _ hf _ => omega
    | leaving _ _ hh _ _ _ _ => exact hh
    | gone _ _ hh _ _ => exact hh

theorem Kept.reset (h : Kept s) (hd : s.impl.destroying = false) (hf : s.frees = 0)
    (hq : .destroyCallback ∉ s.queue) {o : ResetOutcome} (ho : o.destroyTimer = true) :
    Kept (s.reset o) ∧ (s.reset o).impl.destroying = false ∧ (s.reset o).frees = 0 ∧
      (s.reset o).queue = s.queue := by
  have hempty := removeElement_heap h.current
  unfold BridgeTimer.reset
  rw [if_neg (by simp [ho])]
  cases o.createTimer with
  | false =>
    refine ⟨⟨h.untouched, ?_, .alive hd hf hq⟩, hd, hf, rfl⟩
    intro e he
    rw [if_neg (by simp), hempty] at he
    cases he
  | true =>
    refine ⟨⟨h.untouched, ?_, .alive hd hf hq⟩, hd, hf, rfl⟩
    intro e he
    simp only [if_true, hempty, List.nil_append, List.mem_singleton] at he
    rw [he]
    rfl

theorem Kept.alive_of (h : Kept s) (hd : s.impl.destroying = false) :
    s.frees = 0 ∧ .destroyCallback ∉ s.queue := by
  cases h.stage with
  | alive _ hf hq => exact ⟨hf, hq⟩
  | leaving hd' _ _ _ _ _ _ => rw [hd] at hd'; cases hd'
  | gone hd' _ _ _ _ => rw [hd] at hd'; cases hd'

theorem Kept.alive_of_firing (h : Kept s) (hi : s.firing ≠ .idle) : s.impl.destroying = false := by
  cases h.stage with
  | alive hd _ _ => exact hd
  | leaving _ hi' _ _ _ _ _ => exact absurd hi' hi
  | gone _ hi' _ _ _ => exact absurd hi' hi

theorem Kept.alive_of_element (h : Kept s) {e : TimerElement} (he : e ∈ s.heap) :
    s.impl.destroying = false := by
  cases h.stage with
  | alive hd _ _ => exact hd
  | leaving _ _ hh _ _ _ _ => rw [hh] at he; cases he
  | gone _ _ hh _ _ => rw [hh] at he; cases he

theorem Kept.fire (h : Kept s) (id : ℕ) : Kept (s.step (.fire id)) := by
  unfold BridgeTimer.step
  dsimp only
  split
  case isTrue hfire =>
    obtain ⟨-, e, he, -⟩ := hfire
    have hd := h.alive_of_element he
    obtain ⟨hf, hq⟩ := h.alive_of hd
    rw [touch_of_not_freed hf, BridgeTimer.fire, if_neg (by simp [hd])]
    exact ⟨h.untouched, h.current, .alive hd hf hq⟩
  case isFalse => exact h

theorem Kept.fireReset (h : Kept s) {o : ResetOutcome} (ho : o.destroyTimer = true) :
    Kept (s.step (.fireReset o)) := by
  unfold BridgeTimer.step
  dsimp only
  split
  case isTrue hfiring =>
    have hd := h.alive_of_firing (by simp [hfiring])
    obtain ⟨hf, hq⟩ := h.alive_of hd
    obtain ⟨hk, hd', hf', hq'⟩ := h.reset hd hf hq ho
    rw [touch_of_not_freed hf]
    exact ⟨hk.untouched, hk.current, .alive hd' hf' (hq' ▸ hq)⟩
  case isFalse => exact h

theorem Kept.fireEnqueue (h : Kept s) : Kept (s.step .fireEnqueue) := by
  unfold BridgeTimer.step
  dsimp only
  split
  case isTrue hfiring =>
    have hd := h.alive_of_firing (by simp [hfiring])
    obtain ⟨hf, hq⟩ := h.alive_of hd
    rw [touch_of_not_freed hf]
    refine ⟨h.untouched, h.current, .alive hd hf ?_⟩
    simpa [BridgeTimer.fireEnqueue] using hq
  case isFalse => exact h

theorem Stage.tail (h : Stage s) {queue : List TimerCallback} (hq : s.queue = .timerQueueCb :: queue) :
    Stage { s with queue := queue } := by
  cases h with
  | alive hd hf hn =>
    refine .alive hd hf fun hmem => hn ?_
    rw [hq]
    exact List.mem_cons_of_mem _ hmem
  | leaving hd hi hh hf l hl hl' =>
    rw [hq] at hl'
    cases l with
    | nil => cases hl'
    | cons c l =>
      obtain ⟨-, hrest⟩ := List.cons_eq_cons.mp hl'
      exact .leaving hd hi hh hf l (fun hmem => hl (List.mem_cons_of_mem _ hmem)) hrest
  | gone _ _ _ _ hn =>
    rw [hq] at hn
    cases hn

theorem Kept.timerQueueCb (h : Kept s) : Kept s.timerQueueCb := by
  unfold BridgeTimer.timerQueueCb
  cases hd : s.impl.destroying with
  | true => exact h
  | false =>
    obtain ⟨hf, hq⟩ := h.alive_of hd
    rw [if_neg (by simp)]
    split
    · exact ⟨h.untouched, h.current, .alive hd hf hq⟩
    · exact h

theorem Kept.dispatch (h : Kept s) : Kept (s.step .dispatch) := by
  show Kept s.dispatch
  unfold BridgeTimer.dispatch
  split
  case h_1 => exact h
  case h_2 queue hq =>
    have hstage := h.stage.tail hq
    have hfrees : s.frees = 0 := by
      cases h.stage with
      | alive _ hf _ => exact hf
      | leaving _ _ _ hf _ _ _ => exact hf
      | gone _ _ _ _ hn => rw [hq] at hn; cases hn
    rw [touch_of_not_freed (s := { s with queue := queue }) hfrees]
    exact Kept.timerQueueCb ⟨h.untouched, h.current, hstage⟩
  case h_3 queue hq =>
    cases h.stage with
    | alive _ _ hn =>
      rw [hq] at hn
      simp at hn
    | gone _ _ _ _ hn =>
      rw [hq] at hn
      cases hn
    | leaving hd hi hh hf l hl hl' =>
      rw [touch_of_not_freed (s := { s with queue := queue }) hf]
      have hempty : queue = [] := by
        rw [hq] at hl'
        cases l with
        | nil => exact (List.cons_eq_cons.mp hl').2
        | cons c l =>
          obtain ⟨rfl, -⟩ := List.cons_eq_cons.mp hl'
          simp at hl
      refine ⟨h.untouched, h.current, .gone hd hi hh ?_ hempty⟩
      simp [BridgeTimer.destroyCallback, hf]

theorem Kept.client (h : Kept s) (hd : s.impl.destroying = false) {o : ResetOutcome}
    (ho : o.destroyTimer = true) (interval : ℚ) :
    Kept (s.step (.reset o)) ∧ Kept (s.step (.setInterval interval o)) := by
  obtain ⟨hf, hq⟩ := h.alive_of hd
  constructor
  · show Kept (s.touch.reset o)
    rw [touch_of_not_freed hf]
    exact (h.reset hd hf hq ho).1
  · show Kept (s.touch.setInterval interval o)
    rw [touch_of_not_freed hf]
    exact (Kept.reset (s := { s with impl := { s.impl with interval := interval } })
      ⟨h.untouched, h.current, .alive hd hf hq⟩ hd hf hq ho).1

theorem Kept.destroy (h : Kept s) (hd : s.impl.destroying = false) (hi : s.firing = .idle)
    {destroyTimer : Bool} (hremoved : destroyTimer = true ∨ s.heap = []) :
    Kept (s.step (.destroy destroyTimer)) := by
  obtain ⟨hf, hq⟩ := h.alive_of hd
  show Kept (s.touch.destroy destroyTimer)
  rw [touch_of_not_freed hf]
  have hheap : (s.destroy destroyTimer).heap = [] := by
    cases destroyTimer with
    | true => exact removeElement_heap h.current
    | false =>
      obtain hfalse | hnone := hremoved
      · cases hfalse
      · exact hnone
  have hrest : (s.destroy destroyTimer).touchedFreed = s.touchedFreed ∧
      (s.destroy destroyTimer).impl.destroying = true ∧ (s.destroy destroyTimer).firing = s.firing ∧
      (s.destroy destroyTimer).frees = s.frees ∧
      (s.destroy destroyTimer).queue = s.queue ++ [.destroyCallback] := by
    cases destroyTimer <;> exact ⟨rfl, rfl, rfl, rfl, rfl⟩
  obtain ⟨htouch, hdest, hfiring, hfrees, hqueue⟩ := hrest
  refine ⟨htouch.trans h.untouched, ?_, ?_⟩
  · intro e he
    rw [hheap] at he
    cases he
  · exact .leaving hdest (hfiring.trans hi) hheap (hfrees.trans hf) s.queue hq hqueue

theorem Kept.step (h : Kept s) {e : TimerEvent} (ha : Admissible s e) : Kept (s.step e) := by
  cases e with
  | fire id => exact h.fire id
  | fireReset o => exact h.fireReset ha
  | fireEnqueue => exact h.fireEnqueue
  | dispatch => exact h.dispatch
  | reset o => exact (h.client ha.2 ha.1 0).1
  | setInterval interval o => exact (h.client ha.2 ha.1 interval).2
  | destroy destroyTimer => exact h.destroy ha.1 ha.2.1 ha.2.2

theorem kept_create (interval : ℚ) (onTimerDestroyed created : Bool) :
    Kept (create interval onTimerDestroyed created) := by
  refine ⟨rfl, ?_, .alive rfl rfl (by simp [create])⟩
  intro e he
  cases created with
  | false => cases he
  | true =>
    obtain rfl : e = ⟨0, interval⟩ := by simpa [create] using he
    rfl

/-- A reset that fails within a firing queues `destroy_callback`, and `timerCb` queues the timer's own
callback behind it, so that the queue hands the freed timer to `timerQueueCb`. -/
theorem failed_reset_touches_freed :
    ¬ Runs.Always BridgeTimer.step LivesOnce (create 1 true true)
      [.fire 0, .fireReset ⟨false, true, true⟩, .fireEnqueue, .dispatch, .dispatch] := by
  intro h
  have hlast := h.2.2.2.2.2.untouched
  exact absurd hlast (by decide)

theorem timer_lives_once (interval : ℚ) (onTimerDestroyed created : Bool) (es : List TimerEvent)
    (h : Runs.Guarded BridgeTimer.step Admissible (create interval onTimerDestroyed created) es) :
    Runs.Always BridgeTimer.step LivesOnce (create interval onTimerDestroyed created) es :=
  (h.always (fun _ _ hk ha => hk.step ha) (kept_create interval onTimerDestroyed created)).mono fun _ hk => hk.livesOnce

theorem timer_lives_once_example :
    Runs.Always BridgeTimer.step LivesOnce (create 1 true true)
      [.fire 0, .fireReset ⟨true, true, true⟩, .fireEnqueue, .setInterval 2 ⟨true, false, true⟩,
        .reset ⟨true, true, false⟩, .destroy true, .dispatch, .dispatch] :=
  timer_lives_once 1 true true _ (by decide)

end BridgeTimer

end RmdsBridge
