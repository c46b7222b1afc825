import RmdsBridge.Handles
import RmdsBridge.LoginGate

namespace RmdsBridge

open Handles

inductive ChannelState
  | inactive
  | initializing
  | active
  | closed
  deriving DecidableEq, Repr

/-- What `rsslRead` returns without a buffer; only `moreData` is positive. -/
inductive ReadCode
  | moreData
  | success
  | failure
  | congestionDetected
  | slowReader
  | packetGapDetected
  | readFdChange
  | readPing
  | readWouldBlock
  | otherError
  deriving DecidableEq, Repr

/-- Of the handlers behind the login only the result is told. An item message for a released item and an
offstream acknowledgement succeed. -/
inductive Response
  | undecodable
  | login (m : LoginMsg)
  | source (succeeds : Bool)
  | dictionary (succeeds : Bool)
  | item (succeeds : Bool)
  | other
  deriving DecidableEq, Repr

inductive ReadResult
  | message (response : Response) (more : Bool)
  | nothing (code : ReadCode) (state : ChannelState)
  deriving DecidableEq, Repr

inductive SelectResult
  | timedOut
  | failed (interrupted : Bool)
  | ready (readable writable : Bool)
  deriving DecidableEq, Repr

/-- A queued event that sends: on the channel of the login, the directory and the dictionary, or on the
consumer's. `written` is that there is a buffer, that it is encoded and that `rsslWrite` takes it. -/
inductive QueuedRequest
  | onUPAChannel (written : Bool)
  | onConsumerChannel (written : Bool)
  deriving DecidableEq, Repr

inductive InitResult
  | timedOut
  | selectFailed
  | notReady
  | failed
  | inProgress
  | success
  | bad
  deriving DecidableEq, Repr

/-- What one pass through the message loop meets. `reads` ends when the time for reading is up. Without a
channel, `select` is what its last call has left. -/
structure LoopPass where
  requests : List QueuedRequest := []
  stopped : Bool := false
  select : SelectResult := .timedOut
  readState : ChannelState := .active
  reads : List ReadResult := []
  writeState : ChannelState := .active
  sendPing : Option Bool := none
  checkReceived : Bool := false
  deriving DecidableEq, Repr

inductive RunPhase
  | reconnecting
  | waiting
  | pumping
  | exited
  deriving DecidableEq, Repr

/-- `UPAConsumer::Run` with the channels that it uses, the last use first. The `UPAChannel_` of the login,
of the directory and of the dictionary are set together. -/
structure ConsumerRun (C : Type) where
  phase : RunPhase := .reconnecting
  runThread : Bool := true
  shouldRecoverConnection : Bool := true
  rsslConsumerChannel : Option C := none
  upaChannel : Option C := none
  login : UPALogin := {}
  isInLoginSuspectState : Bool := false
  receivedServerMsg : Bool := false
  uses : List (Use C) := []
  deriving DecidableEq, Repr

namespace ConsumerRun

variable {C : Type}

def start (hosts : Bool) : ConsumerRun C :=
  { phase := if hosts then .reconnecting else .pumping, shouldRecoverConnection := hosts }

def use (s : ConsumerRun C) (chnl : C) : ConsumerRun C := { s with uses := .used chnl :: s.uses }

def removeChannel (s : ConsumerRun C) : ConsumerRun C :=
  match s.rsslConsumerChannel with
  | none => s
  | some chnl => { s with uses := .closed chnl :: s.uses }

def recoverConnection (s : ConsumerRun C) : ConsumerRun C :=
  { s.removeChannel with rsslConsumerChannel := none, shouldRecoverConnection := true }

def sendUPAMessage (s : ConsumerRun C) (chnl : Option C) (written : Bool) : ConsumerRun C :=
  match chnl with
  | none => s
  | some chnl => if written then s.use chnl else s

def dispatch (s : ConsumerRun C) : QueuedRequest → ConsumerRun C
  | .onUPAChannel written => s.sendUPAMessage s.upaChannel written
  | .onConsumerChannel written => s.sendUPAMessage s.rsslConsumerChannel written

def pumpQueueEvents (s : ConsumerRun C) (requests : List QueuedRequest) : ConsumerRun C :=
  requests.foldl dispatch s

def loginCase : LoginCase (ConsumerRun C) where
  login := login
  setLogin s o := { s with login := o.login }
  setSuspect s suspect := { s with isInLoginSuspectState := suspect }
  giveUp s := { s with shouldRecoverConnection := false }
  recoverConnection := recoverConnection

def processResponse (s : ConsumerRun C) : Response → Bool × ConsumerRun C
  | .undecodable => (false, s)
  | .login m => loginCase.processLogin s m
  | .source succeeds | .dictionary succeeds => (succeeds, s)
  | .item succeeds => (s.isInLoginSuspectState || succeeds, s)
  | .other => (true, s)

def processNothing (s : ConsumerRun C) (state : ChannelState) : ReadCode → ConsumerRun C
  | .congestionDetected | .slowReader | .packetGapDetected =>
    if state = .closed then s.recoverConnection else s
  | .failure => s.recoverConnection
  | .readPing => { s with receivedServerMsg := true }
  | .moreData | .success | .readFdChange | .readWouldBlock | .otherError => s

def readLoop (chnl : C) : List ReadResult → ConsumerRun C → Bool × ConsumerRun C
  | [], s => (true, s)
  | .message response more :: rs, s =>
    match (s.use chnl).processResponse response with
    | (false, s) => (false, s)
    | (true, s) =>
      let s := { s with receivedServerMsg := true }
      if more then readLoop chnl rs s else (true, s)
  | .nothing code state :: rs, s =>
    let s := (s.use chnl).processNothing state code
    if code = .moreData then readLoop chnl rs s else (true, s)

def readFromChannel (s : ConsumerRun C) (chnl : C) (state : ChannelState) (reads : List ReadResult) :
    Bool × ConsumerRun C :=
  match state with
  | .active => readLoop chnl reads s
  | .closed => (true, s.recoverConnection)
  | .inactive | .initializing => (true, s)

def readIfReady (s : ConsumerRun C) (i : LoopPass) (readable : Bool) : ConsumerRun C :=
  match s.rsslConsumerChannel with
  | none => s
  | some chnl =>
    if readable then
      match s.readFromChannel chnl i.readState i.reads with
      | (true, s) => s
      | (false, s) =>
        if s.shouldRecoverConnection then s.recoverConnection else { s with runThread := false }
    else s

def flushIfReady (s : ConsumerRun C) (i : LoopPass) (writable : Bool) : ConsumerRun C :=
  match s.rsslConsumerChannel with
  | none => s
  | some chnl => if writable ∧ i.writeState = .active then s.use chnl else s

def checkReceived (s : ConsumerRun C) (i : LoopPass) : ConsumerRun C :=
  if ¬ i.checkReceived then s
  else if s.receivedServerMsg then { s with receivedServerMsg := false }
  else s.recoverConnection

def processPings (s : ConsumerRun C) (i : LoopPass) : ConsumerRun C :=
  match s.rsslConsumerChannel, i.sendPing with
  | none, _ => s
  | some _, none => s.checkReceived i
  | some chnl, some true => (s.use chnl).checkReceived i
  | some chnl, some false => (s.use chnl).recoverConnection

def exit (s : ConsumerRun C) : ConsumerRun C := { s.removeChannel with phase := .exited }

def endIteration (s : ConsumerRun C) (i : LoopPass) : ConsumerRun C :=
  let s := if s.shouldRecoverConnection then { s with phase := .reconnecting } else s.processPings i
  if s.runThread then s else s.exit

def afterSelect (s : ConsumerRun C) (i : LoopPass) : ConsumerRun C :=
  match i.select with
  | .failed true => s
  | .failed false | .timedOut => s.endIteration i
  | .ready readable writable =>
    ((s.readIfReady i readable).flushIfReady i writable).endIteration i

def iterate (s : ConsumerRun C) (i : LoopPass) : ConsumerRun C :=
  if ¬ s.runThread then s.exit
  else
    let s := s.pumpQueueEvents i.requests
    if s.rsslConsumerChannel.isNone ∧ ¬ s.shouldRecoverConnection then
      { s with runThread := !i.stopped }
    else if i.stopped then { s with runThread := false }.exit
    else s.afterSelect i

def connect (s : ConsumerRun C) (chnl : Option C) (active : Bool) : ConsumerRun C :=
  if ¬ s.runThread then s.exit
  else
    let s := { s with upaChannel := none, rsslConsumerChannel := chnl }
    match chnl with
    | none => s
    | some chnl =>
      let s := { s with uses := .opened chnl :: s.uses }
      if active then { s with phase := .pumping, shouldRecoverConnection := false }
      else { s with phase := .waiting }

def initialise (s : ConsumerRun C) (r : InitResult) : ConsumerRun C :=
  if ¬ s.runThread then s.exit
  else
    match r with
    | .timedOut | .failed => { s.recoverConnection with phase := .reconnecting }
    | .selectFailed | .bad => { s with runThread := false }.exit
    | .notReady | .inProgress => s
    | .success =>
      { s with
        phase := .pumping, shouldRecoverConnection := false, upaChannel := s.rsslConsumerChannel }

end ConsumerRun

/-- `deleted` is the consumer's destructor: it deletes the login, which closes its stream. -/
inductive RunEvent (C : Type)
  | connect (chnl : Option C) (active : Bool)
  | initialise (r : InitResult)
  | iterate (i : LoopPass)
  | stop
  | deleted (written : Bool)
  deriving DecidableEq, Repr

def ConsumerRun.step {C : Type} (s : ConsumerRun C) : RunEvent C → ConsumerRun C
  | .connect chnl active => if s.phase = .reconnecting then s.connect chnl active else s
  | .initialise r => if s.phase = .waiting then s.initialise r else s
  | .iterate i => if s.phase = .pumping then s.iterate i else s
  | .stop => { s with runThread := false }
  | .deleted written => if s.phase = .exited then s.sendUPAMessage s.upaChannel written else s

end RmdsBridge
