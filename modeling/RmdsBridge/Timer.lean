import Mathlib.Data.Rat.Defs

namespace RmdsBridge

structure TimerElement where
  id : ℕ
  timeout : ℚ
  deriving DecidableEq

inductive TimerCallback
  | timerQueueCb
  | destroyCallback
  deriving DecidableEq, Repr

inductive TimerCall
  | action
  | onTimerDestroyed
  deriving DecidableEq, Repr

/-- Where the timer thread stands in `timerCb`: past the test of `destroying_`, or past the reset. -/
inductive Firing
  | idle
  | tested
  | reset
  deriving DecidableEq, Repr

structure RmdsTimerImpl where
  timerElement : ℕ
  interval : ℚ
  hasAction : Bool
  destroying : Bool
  onTimerDestroyed : Bool
  deriving DecidableEq

structure ResetOutcome where
  destroyTimer : Bool
  createTimer : Bool
  destroyAgain : Bool
  deriving DecidableEq, Repr

inductive TimerEvent
  | fire (id : ℕ)
  | fireReset (o : ResetOutcome)
  | fireEnqueue
  | dispatch
  | reset (o : ResetOutcome)
  | setInterval (interval : ℚ) (o : ResetOutcome)
  | destroy (destroyTimer : Bool)
  deriving DecidableEq

/-- The timer, the elements the heap has for it and the queue. `frees` counts the runs of
`destroy_callback`, `touchedFreed` is set by whatever reads the timer after one. -/
structure BridgeTimer where
  impl : RmdsTimerImpl
  heap : List TimerElement
  elements : ℕ
  queue : List TimerCallback := []
  firing : Firing := .idle
  frees : ℕ := 0
  touchedFreed : Bool := false
  calls : List TimerCall := []
  deriving DecidableEq

namespace BridgeTimer

/-- The handle is given out even where the heap has no room. -/
def create (interval : ℚ) (onTimerDestroyed created : Bool) : BridgeTimer where
  impl := ⟨0, interval, true, false, onTimerDestroyed⟩
  heap := if created then [⟨0, interval⟩] else []
  elements := 1

def touch (s : BridgeTimer) : BridgeTimer :=
  if 0 < s.frees then { s with touchedFreed := true } else s

def removeElement (s : BridgeTimer) : BridgeTimer :=
  { s with heap := s.heap.filter (·.id ≠ s.impl.timerElement) }

def destroy (s : BridgeTimer) (destroyTimer : Bool) : BridgeTimer :=
  let s := { s with impl := { s.impl with hasAction := false, destroying := true } }
  let s := if destroyTimer then s.removeElement else s
  { s with queue := s.queue ++ [.destroyCallback] }

def reset (s : BridgeTimer) (o : ResetOutcome) : BridgeTimer :=
  if ¬ o.destroyTimer then s.destroy o.destroyAgain
  else
    let s := s.removeElement
    if o.createTimer then
      { s with
        heap := s.heap ++ [⟨s.elements, s.impl.interval⟩]
        impl := { s.impl with timerElement := s.elements }
        elements := s.elements + 1 }
    else s

def setInterval (s : BridgeTimer) (interval : ℚ) (o : ResetOutcome) : BridgeTimer :=
  ({ s with impl := { s.impl with interval := interval } } : BridgeTimer).reset o

def fire (s : BridgeTimer) : BridgeTimer :=
  if s.impl.destroying then s else { s with firing := .tested }

def fireReset (s : BridgeTimer) (o : ResetOutcome) : BridgeTimer :=
  { s.reset o with firing := .reset }

def fireEnqueue (s : BridgeTimer) : BridgeTimer :=
  { s with queue := s.queue ++ [.timerQueueCb], firing := .idle }

def timerQueueCb (s : BridgeTimer) : BridgeTimer :=
  if s.impl.destroying then s
  else if s.impl.hasAction then { s with calls := s.calls ++ [.action] } else s

def destroyCallback (s : BridgeTimer) : BridgeTimer :=
  { s with
    calls := if s.impl.onTimerDestroyed then s.calls ++ [.onTimerDestroyed] else s.calls
    frees := s.frees + 1 }

def dispatch (s : BridgeTimer) : BridgeTimer :=
  match s.queue with
  | [] => s
  | .timerQueueCb :: queue => ({ s with queue := queue } : BridgeTimer).touch.timerQueueCb
  | .destroyCallback :: queue => ({ s with queue := queue } : BridgeTimer).touch.destroyCallback

/-- An event that cannot happen leaves the timer: an element that is not in the heap does not fire, and
the steps of `timerCb` follow one another. -/
def step (s : BridgeTimer) : TimerEvent → BridgeTimer
  | .fire id => if s.firing = .idle ∧ ∃ e ∈ s.heap, e.id = id then s.touch.fire else s
  | .fireReset o => if s.firing = .tested then s.touch.fireReset o else s
  | .fireEnqueue => if s.firing = .reset then s.touch.fireEnqueue else s
  | .dispatch => s.dispatch
  | .reset o => s.touch.reset o
  | .setInterval interval o => s.touch.setInterval interval o
  | .destroy destroyTimer => s.touch.destroy destroyTimer

end BridgeTimer

end RmdsBridge
