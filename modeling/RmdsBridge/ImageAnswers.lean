import RmdsBridge.ImageFeed

namespace RmdsBridge

variable {P L : Type}

structure ImageRun (P L : Type) where
  feed : ImageFeed P L
  ledger : ImageLedger L := {}

inductive ImageEvent (L : Type)
  | requestImage (l : L)
  | dispatch (outcome : SendOutcome)
  | addListener (l : L)
  | removeListener (l : L)
  | shutdown (l : L)
  | pauseUpdates (paused : Bool)
  | message (msg : RsslMsg)
  | answer (state : RsslState) (decodes : Bool)

namespace ImageRun

variable [DecidableEq P] [DecidableEq L]

def images (q : ImageRun P L) (received : List (L × MamaMsgType)) (l : L) : ℕ :=
  received.count (l, imageType q.feed.domain)

/-- A refresh that comes while a request is outstanding is taken to answer it, asked for or not. -/
def step (q : ImageRun P L) : ImageEvent L → ImageRun P L
  | .requestImage l => ⟨q.feed.requestImage l, q.ledger.make l⟩
  | .dispatch o =>
    match q.ledger.requestQueue with
    | [] => q
    | _ :: _ => ⟨(q.feed.refreshRequest o).2, q.ledger.dispatch (q.feed.refreshRequest o).1⟩
  | .addListener l => { q with feed.sub := q.feed.sub.addListener l }
  | .removeListener l => { q with feed.sub := q.feed.sub.removeListener l }
  | .shutdown l =>
    { q with feed.bridge := Function.update q.feed.bridge l { q.feed.bridge l with isShutdown := true } }
  | .pauseUpdates paused => { q with feed.bridge := fun l => { q.feed.bridge l with pausedUpdates := paused } }
  | .message msg =>
    let (received, feed) := q.feed.receive msg
    match msg with
    | .refresh _ _ => ⟨feed, if q.feed.sub.isRefresh then q.ledger.credit (q.images received) else q.ledger⟩
    | _ => ⟨feed, q.ledger⟩
  | .answer state decodes =>
    match q.ledger.unanswered with
    | [] => q
    | _ :: _ =>
      let (received, feed) := q.feed.receive (.refresh state decodes)
      ⟨feed, q.ledger.answer (q.images received) (q.feed.disturbedBy received)⟩

def Served (q : ImageRun P L) : Prop := q.ledger.Served

def Ok (q : ImageRun P L) : ImageEvent L → Prop
  | .dispatch o => ∀ r ∈ q.ledger.requestQueue.head?, ¬ q.feed.Sends o → r.images = 1
  | .answer state decodes => ∀ r ∈ q.ledger.unanswered.head?, q.feed.Serves r state decodes
  | _ => True

/-- Two requests wait when the item goes stale, so that neither goes out: the later one has had its image
from the refresh, the earlier one gets none. -/
example :
    let sub : UPASubscription Bool :=
      { subscriptionType := .marketPrice, state := .live, streamId := startStreamId, listeners := [true, false] }
    let q : ImageRun Unit Bool := ⟨⟨(), .marketPrice, {}, sub, fun _ => { gotImage := true }⟩, {}⟩
    (Runs.run step q [.requestImage true, .requestImage false, .message (.refresh ⟨.open, .suspect, .none⟩ true),
      .dispatch .sent, .dispatch .sent]).ledger.settled.map ImageRequest.images = [0, 1] := by decide

end ImageRun

end RmdsBridge
