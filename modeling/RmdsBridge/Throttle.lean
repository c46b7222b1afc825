import RmdsBridge.ConsumerKeeps
import RmdsBridge.Runs

namespace RmdsBridge

inductive Pumping
  | outside
  | pending
  | dispatching (numEvents eventsDispatched : ℕ)
  deriving DecidableEq, Repr

/-- `cycles` has the pending items before each dispatch, for each run of the loop, the last run first. -/
structure QueuePump where
  subscriber : RMDSSubscriber
  maxDispatchesPerCycle : ℕ
  maxPendingOpens : ℕ
  pumping : Pumping := .outside
  cycles : List (List ℕ) := []

structure PumpTurn where
  runThread : Bool := true
  eventCountOk : Bool := true
  outcome : SendOutcome := .sent
  deriving DecidableEq, Repr

inductive PumpEvent
  | subscriber (e : SubscriberEvent)
  | pump (t : PumpTurn)
  deriving DecidableEq, Repr

namespace QueuePump

def countPendingItems (q : QueuePump) : ℕ := q.subscriber.consumer.streamManager.countPendingItems

def numEvents (q : QueuePump) : ℕ := q.subscriber.consumer.requestQueue.length

def dispatchEvent (q : QueuePump) (o : SendOutcome) : QueuePump :=
  { q with
    subscriber := q.subscriber.step (.dispatch o)
    cycles := q.cycles.modifyHead fun cycle => cycle ++ [q.countPendingItems] }

def pumpQueueEvents (q : QueuePump) (t : PumpTurn) : QueuePump :=
  match q.pumping with
  | .outside =>
    { q with subscriber := q.subscriber.step .processPendingSubscriptions, pumping := .pending }
  | .pending =>
    if q.subscriber.processing ≠ .idle then { q with subscriber := q.subscriber.step .processPending }
    else if t.eventCountOk ∧ 0 < q.numEvents then
      { q with pumping := .dispatching q.numEvents 0, cycles := [] :: q.cycles }
    else { q with pumping := .outside }
  | .dispatching numEvents eventsDispatched =>
    if eventsDispatched < numEvents ∧ eventsDispatched < q.maxDispatchesPerCycle ∧
        q.countPendingItems < q.maxPendingOpens ∧ t.runThread then
      { q.dispatchEvent t.outcome with pumping := .dispatching numEvents (eventsDispatched + 1) }
    else { q with pumping := .outside }

def Pumped : SubscriberEvent → Prop
  | .processPendingSubscriptions | .processPending | .dispatch _ => True
  | _ => False

instance : DecidablePred Pumped := fun e => by
  unfold Pumped
  split <;> infer_instance

def step (q : QueuePump) : PumpEvent → QueuePump
  | .subscriber e => if Pumped e then q else { q with subscriber := q.subscriber.step e }
  | .pump t => q.pumpQueueEvents t

structure Throttled (q : QueuePump) : Prop where
  pending : q.countPendingItems ≤ q.maxPendingOpens
  perCycle : ∀ cycle ∈ q.cycles, cycle.length ≤ q.maxDispatchesPerCycle
  belowLimit : ∀ cycle ∈ q.cycles, ∀ count ∈ cycle, count < q.maxPendingOpens

def Counted (q : QueuePump) : Prop :=
  ∀ numEvents eventsDispatched, q.pumping = .dispatching numEvents eventsDispatched →
    ∃ cycle cycles, q.cycles = cycle :: cycles ∧ cycle.length = eventsDispatched

structure Kept (q : QueuePump) : Prop where
  throttled : q.Throttled
  counted : q.Counted

variable {q : QueuePump}

theorem Throttled.of_subscriber (h : q.Throttled) {e : SubscriberEvent} (he : ∀ o, e ≠ .dispatch o) :
    Throttled { q with subscriber := q.subscriber.step e } where
  pending := (q.subscriber.step_countPendingItems he).trans h.pending
  perCycle := h.perCycle
  belowLimit := h.belowLimit

theorem Throttled.dispatchEvent (h : q.Throttled) {cycle : List ℕ} {cycles : List (List ℕ)}
    (hc : q.cycles = cycle :: cycles) (hmax : cycle.length < q.maxDispatchesPerCycle)
    (hlimit : q.countPendingItems < q.maxPendingOpens) (o : SendOutcome) :
    (q.dispatchEvent o).Throttled := by
  have hcycles : (q.dispatchEvent o).cycles = (cycle ++ [q.countPendingItems]) :: cycles := by
    simp [QueuePump.dispatchEvent, hc]
  constructor
  · have hstep := q.subscriber.consumer.dispatch_countPendingItems o
    exact hstep.trans hlimit
  · intro c hmem
    rw [hcycles] at hmem
    rcases List.mem_cons.mp hmem with rfl | hmem
    · rw [List.length_append]
      exact hmax
    · exact h.perCycle c (hc ▸ List.mem_cons_of_mem _ hmem)
  · intro c hmem k hk
    rw [hcycles] at hmem
    rcases List.mem_cons.mp hmem with rfl | hmem
    · rcases List.mem_append.mp hk with hk | hk
      · exact h.belowLimit cycle (hc ▸ List.mem_cons_self) k hk
      · rw [List.mem_singleton.mp hk]
        exact hlimit
    · exact h.belowLimit c (hc ▸ List.mem_cons_of_mem _ hmem) k hk

theorem Throttled.opened (h : q.Throttled) (p : Pumping) :
    Throttled { q with pumping := p, cycles := [] :: q.cycles } where
  pending := h.pending
  perCycle cycle hc := by
    rcases List.mem_cons.mp hc with rfl | hc
    · exact Nat.zero_le _
    · exact h.perCycle cycle hc
  belowLimit cycle hc := by
    rcases List.mem_cons.mp hc with rfl | hc
    · exact fun k hk => absurd hk List.not_mem_nil
    · exact h.belowLimit cycle hc

theorem Throttled.pumping (h : q.Throttled) (p : Pumping) : Throttled { q with pumping := p } :=
  ⟨h.pending, h.perCycle, h.belowLimit⟩

theorem Kept.pumpQueueEvents (h : q.Kept) (t : PumpTurn) : (q.pumpQueueEvents t).Kept := by
  unfold QueuePump.pumpQueueEvents
  cases hp : q.pumping with
  | outside =>
    have hstart := h.throttled.of_subscriber (e := .processPendingSubscriptions) nofun
    exact ⟨hstart.pumping _, fun n d hd => by cases hd⟩
  | pending =>
    dsimp only
    split_ifs
    · have hturn := h.throttled.of_subscriber (e := .processPending) nofun
      exact ⟨hturn.pumping _, fun n d hd => by cases hd⟩
    · refine ⟨h.throttled.opened _, fun n d hd => ?_⟩
      cases hd
      exact ⟨[], q.cycles, rfl, rfl⟩
    · exact ⟨h.throttled.pumping _, fun n d hd => by cases hd⟩
  | dispatching n d =>
    obtain ⟨cycle, cycles, hc, hlength⟩ := h.counted n d hp
    dsimp only
    split_ifs with hgo
    · obtain ⟨-, hmax, hlimit, -⟩ := hgo
      refine ⟨(h.throttled.dispatchEvent hc (hlength ▸ hmax) hlimit t.outcome).pumping _, fun n' d' hd => ?_⟩
      cases hd
      refine ⟨cycle ++ [q.countPendingItems], cycles, ?_, by simp [hlength]⟩
      simp [QueuePump.dispatchEvent, hc]
    · exact ⟨h.throttled.pumping _, fun n d hd => by cases hd⟩

theorem Kept.step (h : q.Kept) (e : PumpEvent) : (q.step e).Kept := by
  cases e with
  | pump t => exact h.pumpQueueEvents t
  | subscriber e =>
    unfold QueuePump.step
    dsimp only
    split_ifs with he
    · exact h
    · refine ⟨h.throttled.of_subscriber fun o ho => he ?_, h.counted⟩
      rw [ho]
      trivial

def start (configDomain : String → String) (config : TransportConfig)
    (maxDispatchesPerCycle maxPendingOpens : ℕ) : QueuePump where
  subscriber := { configDomain, consumer := { config } }
  maxDispatchesPerCycle
  maxPendingOpens

theorem start_kept (configDomain : String → String) (config : TransportConfig)
    (maxDispatchesPerCycle maxPendingOpens : ℕ) :
    (start configDomain config maxDispatchesPerCycle maxPendingOpens).Kept where
  throttled := ⟨Nat.zero_le _, fun _ hc => absurd hc List.not_mem_nil,
    fun _ hc => absurd hc List.not_mem_nil⟩
  counted _ _ hd := by cases hd

theorem opens_throttled (configDomain : String → String) (config : TransportConfig)
    (maxDispatchesPerCycle maxPendingOpens : ℕ) (events : List PumpEvent) :
    Runs.Always step Throttled (start configDomain config maxDispatchesPerCycle maxPendingOpens) events :=
  Runs.always_iff_run.mpr fun _ _ =>
    (Runs.run_inv (fun _ e h => h.step e) (start_kept _ _ _ _)).throttled

end QueuePump

end RmdsBridge
