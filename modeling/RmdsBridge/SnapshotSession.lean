import RmdsBridge.SnapshotStreams

namespace RmdsBridge

/-- A subscriber, and what has become of the snapshots, each told by the number of those taken from the
pending list before it: the stream ids that it took, the ids of the open requests that were sent, the messages
on its stream, and the replies to its inbox. `snapshots` has the snapshot of a UPA subscription. -/
structure SnapshotSession where
  subscriber : RMDSSubscriber
  taken : ℕ := 0
  refused : List ℕ := []
  snapshots : ℕ → Option ℕ := fun _ => none
  streams : ℕ → List ℕ := fun _ => []
  requests : ℕ → List ℕ := fun _ => []
  heard : ℕ → List (Domain × RsslMsg) := fun _ => []
  inbox : ℕ → List SnapshotStatus := fun _ => []

namespace SnapshotSession

def log {α : Type} (f : ℕ → List α) (k : Option ℕ) (a : α) : ℕ → List α :=
  match k with
  | some k => Function.update f k (f k ++ [a])
  | none => f

def nextSnapshot (r : RMDSSubscriber) : Option RMDSBridgeSnapshot :=
  if r.processing = .snapshots then r.pendingSnapshots.head? else none

def take (q : SnapshotSession) : SnapshotSession :=
  match nextSnapshot q.subscriber with
  | none => q
  | some snap =>
    match q.subscriber.sources.find snap.sourceName with
    | none => { q with taken := q.taken + 1, refused := q.refused ++ [q.taken] }
    | some _ =>
      { q with
        taken := q.taken + 1
        snapshots := Function.update q.snapshots q.subscriber.upaSources.length (some q.taken) }

def dispatch (q : SnapshotSession) (o : SendOutcome) : SnapshotSession :=
  let c := q.subscriber.consumer
  { q with
    streams :=
      match c.streamTaken o with
      | some u => log q.streams (q.snapshots u) ((c.dispatch o).ids u)
      | none => q.streams
    requests :=
      match c.requestSent (.dispatch o) with
      | some u => log q.requests (q.snapshots u) ((c.dispatch o).ids u)
      | none => q.requests }

-- a stream id has 32 bits
def respond (q : SnapshotSession) (domain : Domain) (streamId : ℕ) (msg : RsslMsg) : SnapshotSession :=
  { q with
    heard := fun k =>
      if streamId % 2 ^ 32 ∈ q.streams k then q.heard k ++ [(domain, msg)] else q.heard k
    inbox :=
      match q.subscriber.consumer.snapshotCompleted (.respond domain streamId msg) with
      | some u => log q.inbox (q.snapshots u) (snapshotStatus msg)
      | none => q.inbox }

def step (q : SnapshotSession) (e : SubscriberEvent) : SnapshotSession :=
  { (match e with
      | .processPending => q.take
      | .dispatch o => q.dispatch o
      | .respond domain streamId msg => q.respond domain streamId msg
      | _ => q) with
    subscriber := q.subscriber.step e }

def start (configDomain : String → String) (config : TransportConfig) : SnapshotSession where
  subscriber := { configDomain, consumer := { config } }

structure Tracked (q : SnapshotSession) (u k : ℕ) : Prop where
  spare : q.subscriber.Spare u
  number_lt : k < q.taken
  streams : q.streams k = if q.subscriber.consumer.ids u = 0 then [] else [q.subscriber.consumer.ids u]
  requests : (q.requests k).Sublist (q.streams k)
  queue : q.subscriber.consumer.requestsOf u = [] ∨
    q.subscriber.consumer.requestsOf u = [.snapshot] ∧ q.subscriber.consumer.ids u = 0
  unheard : q.subscriber.consumer.ids u = 0 → q.heard k = []
  course : (SnapshotCourse.of (q.heard k)).Fits (q.subscriber.consumer.subscriptions u)
  inbox : q.inbox k = (SnapshotCourse.of (q.heard k)).reply.toList

structure Kept (q : SnapshotSession) (opened : Finset ℕ) : Prop where
  session : SubscriberStreams.Kept ⟨q.subscriber, opened⟩
  tracked : ∀ u k, q.snapshots u = some k → q.Tracked u k
  single : ∀ u v k, q.snapshots u = some k → q.snapshots v = some k → u = v
  untracked : ∀ k, (∀ u, q.snapshots u ≠ some k) →
    q.streams k = [] ∧ q.requests k = [] ∧ q.heard k = [] ∧ q.inbox k = []
  refused : ∀ k ∈ q.refused, k < q.taken ∧ ∀ u, q.snapshots u ≠ some k

variable {q : SnapshotSession} {opened : Finset ℕ} {u k : ℕ}

theorem log_self {α : Type} (f : ℕ → List α) (k : ℕ) (a : α) : log f (some k) a k = f k ++ [a] :=
  Function.update_self ..

theorem log_of_ne {α : Type} {f : ℕ → List α} {k' : Option ℕ} (h : k' ≠ some k) (a : α) :
    log f k' a k = f k := by
  cases k' with
  | none => rfl
  | some k' => exact Function.update_of_ne (fun e => h (congrArg some e.symm)) ..

end SnapshotSession

end RmdsBridge
