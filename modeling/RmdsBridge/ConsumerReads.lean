import RmdsBridge.ConsumerLoop

namespace RmdsBridge

open Handles

structure ReadGate where
  recovered : Bool
  suspect : Bool
  login : UPALogin
  deriving DecidableEq, Repr

namespace ReadGate

def succeeds (g : ReadGate) : Response → Bool
  | .undecodable => false
  | .login m =>
    match g.login.reactionTo m with
    | some .notEntitled | some .closed => false
    | some .recover | some .suspect | some .nothing | none => true
  | .source succeeds | .dictionary succeeds => succeeds
  | .item succeeds => g.suspect || succeeds
  | .other => true

def take (g : ReadGate) : Response → ReadGate
  | .login m =>
    let login := g.login.take m.kind
    match g.login.reactionTo m with
    | none => { g with login := login, suspect := false }
    | some .recover => { g with login := login, recovered := true }
    | some .suspect => { g with login := login, suspect := true }
    | some .notEntitled | some .closed | some .nothing => { g with login := login }
  | .undecodable | .source _ | .dictionary _ | .item _ | .other => g

def next (g : ReadGate) : ReadResult → Option ReadGate
  | .message response more => if g.succeeds response ∧ more then some (g.take response) else none
  | .nothing code _ => if code = .moreData then some g else none

def EachRead (P : ReadGate → ReadResult → Prop) : ReadGate → List ReadResult → Prop
  | _, [] => True
  | g, r :: rs => P g r ∧ ∀ g' ∈ g.next r, EachRead P g' rs

def SomeRead (P : ReadGate → ReadResult → Prop) : ReadGate → List ReadResult → Prop
  | _, [] => False
  | g, r :: rs => P g r ∨ ∃ g' ∈ g.next r, SomeRead P g' rs

end ReadGate

def ReadResult.Refuses (g : ReadGate) : ReadResult → Prop
  | .message (.login m) _ => g.login.reactionTo m = some .notEntitled
  | _ => False

def ReadResult.unprocessed (g : ReadGate) : ReadResult → Bool
  | .message response _ => !g.succeeds response
  | .nothing _ _ => false

namespace ConsumerRun

variable {C : Type} {s : ConsumerRun C} {chnl : C}

def gate (s : ConsumerRun C) : ReadGate :=
  ⟨s.rsslConsumerChannel.isNone, s.isInLoginSuspectState, s.login⟩

@[simp] theorem use_runThread : (s.use chnl).runThread = s.runThread := rfl

@[simp] theorem use_gate : (s.use chnl).gate = s.gate := rfl

@[simp] theorem removeChannel_runThread : s.removeChannel.runThread = s.runThread := by
  cases h : s.rsslConsumerChannel <;> simp [removeChannel, h]

@[simp] theorem removeChannel_gate : s.removeChannel.gate = s.gate := by
  cases h : s.rsslConsumerChannel <;> simp [removeChannel, gate, h]

theorem recoverConnection_gate : s.recoverConnection.gate = { s.gate with recovered := true } := by
  have h := s.removeChannel_gate
  simp only [gate, ReadGate.mk.injEq] at h
  simp [recoverConnection, gate, h]

theorem processResponse_login (m : LoginMsg) :
    s.processResponse (.login m) =
      match s.login.reactionTo m with
      | none => (true, { s with login := s.login.take m.kind, isInLoginSuspectState := false })
      | some .notEntitled =>
        (false, { s with login := s.login.take m.kind, shouldRecoverConnection := false })
      | some .closed => (false, { s with login := s.login.take m.kind })
      | some .recover => (true, { s with login := s.login.take m.kind }.recoverConnection)
      | some .suspect => (true, { s with login := s.login.take m.kind, isInLoginSuspectState := true })
      | some .nothing => (true, { s with login := s.login.take m.kind }) := by
  obtain ⟨hl, -, -⟩ := s.login.processLoginResponse_spec m
  simp only [processResponse, LoginCase.processLogin, loginCase, UPALogin.reactionTo, hl]
  by_cases hs : (s.login.processLoginResponse m).succeeded = true
  · simp only [hs, if_true]
  · simp only [hs]
    cases (s.login.take m.kind).reaction <;> rfl

theorem processResponse_succeeds (r : Response) : (s.processResponse r).1 = s.gate.succeeds r := by
  cases r with
  | login m =>
    rw [processResponse_login]
    simp only [ReadGate.succeeds, gate]
    cases s.login.reactionTo m with
    | none => rfl
    | some r => cases r <;> rfl
  | _ => rfl

theorem processResponse_gate (r : Response) : (s.processResponse r).2.gate = s.gate.take r := by
  cases r with
  | login m =>
    rw [processResponse_login]
    simp only [ReadGate.take, gate]
    cases s.login.reactionTo m with
    | none => rfl
    | some r =>
      cases r with
      | recover => exact recoverConnection_gate
      | _ => rfl
  | _ => rfl

@[simp] theorem recoverConnection_runThread : s.recoverConnection.runThread = s.runThread :=
  removeChannel_runThread

theorem processResponse_runThread (r : Response) :
    (s.processResponse r).2.runThread = s.runThread := by
  cases r with
  | login m =>
    rw [processResponse_login]
    cases s.login.reactionTo m with
    | none => rfl
    | some r => cases r <;> simp
  | _ => rfl

theorem processNothing_runThread (state : ChannelState) (code : ReadCode) :
    (s.processNothing state code).runThread = s.runThread := by
  cases code with
  | failure => exact recoverConnection_runThread
  | congestionDetected | slowReader | packetGapDetected =>
    simp only [processNothing]
    split_ifs <;> simp
  | _ => rfl

def afterRead (s : ConsumerRun C) (chnl : C) : ReadResult → ConsumerRun C
  | .message response _ =>
    let s' := ((s.use chnl).processResponse response).2
    { s' with receivedServerMsg := s.gate.succeeds response || s'.receivedServerMsg }
  | .nothing code state => (s.use chnl).processNothing state code

theorem afterRead_gate (chnl : C) {r : ReadResult} {g : ReadGate} (h : s.gate.next r = some g) :
    (s.afterRead chnl r).gate = g := by
  cases r with
  | message response more =>
    simp only [ReadGate.next, Option.ite_none_right_eq_some, Option.some.injEq] at h
    rw [← h.2]
    exact (s.use chnl).processResponse_gate response
  | nothing code state =>
    simp only [ReadGate.next, Option.ite_none_right_eq_some, Option.some.injEq] at h
    rw [← h.2, h.1]
    rfl

theorem readLoop_cons (r : ReadResult) (rs : List ReadResult) :
    readLoop chnl (r :: rs) s =
      if (s.gate.next r).isSome then readLoop chnl rs (s.afterRead chnl r)
      else (!r.unprocessed s.gate, s.afterRead chnl r) := by
  cases r with
  | message response more =>
    have hs := (s.use chnl).processResponse_succeeds response
    rw [use_gate] at hs
    simp only [readLoop, ReadGate.next, ReadResult.unprocessed, afterRead, ← hs]
    rcases (s.use chnl).processResponse response with ⟨_ | _, s'⟩ <;> cases more <;> rfl
  | nothing code state => cases code <;> rfl

theorem readLoop_inv {I : ConsumerRun C → Prop} {P : ReadGate → ReadResult → Prop}
    (hstep : ∀ s r, I s → P s.gate r → I (s.afterRead chnl r)) {rs : List ReadResult} (h0 : I s)
    (h : ReadGate.EachRead P s.gate rs) : I (readLoop chnl rs s).2 := by
  induction rs generalizing s with
  | nil => exact h0
  | cons r rs ih =>
    have h1 := hstep s r h0 h.1
    rw [readLoop_cons]
    cases hn : s.gate.next r with
    | none => exact h1
    | some g =>
      apply ih h1
      rw [afterRead_gate chnl hn]
      exact h.2 g hn

theorem ReadGate.EachRead.trivial (g : ReadGate) (rs : List ReadResult) :
    g.EachRead (fun _ _ => True) rs := by
  induction rs generalizing g with
  | nil => trivial
  | cons r rs ih => exact ⟨True.intro, fun g' _ => ih g'⟩

theorem readLoop_runThread (chnl : C) (rs : List ReadResult) :
    (readLoop chnl rs s).2.runThread = s.runThread := by
  refine readLoop_inv (I := fun t => t.runThread = s.runThread) (P := fun _ _ => True) ?_ rfl
    (ReadGate.EachRead.trivial _ rs)
  intro t r ht _
  rw [← ht]
  cases r with
  | message response more => exact (t.use chnl).processResponse_runThread response
  | nothing code state => exact (t.use chnl).processNothing_runThread state code

def InRead (chnl : C) (s : ConsumerRun C) : Prop :=
  (s.rsslConsumerChannel = some chnl ∧ s.shouldRecoverConnection = false) ∨
    (s.rsslConsumerChannel = none ∧ s.shouldRecoverConnection = true ∧ Closed chnl s.uses)

theorem InRead.recovered_iff (h : InRead chnl s) :
    s.gate.recovered = true ↔ s.shouldRecoverConnection = true := by
  rcases h with ⟨hc, hs⟩ | ⟨hc, hs, -⟩ <;> simp [gate, hc, hs]

theorem InRead.recoverConnection (h : InRead chnl s) : InRead chnl s.recoverConnection := by
  refine .inr ⟨rfl, rfl, ?_⟩
  rcases h with ⟨hc, -⟩ | ⟨hc, -, hclosed⟩
  · simp [ConsumerRun.recoverConnection, removeChannel, hc]
  · simpa [ConsumerRun.recoverConnection, removeChannel, hc] using hclosed

theorem InRead.afterRead (h : InRead chnl s) {r : ReadResult}
    (hr : r.Refuses s.gate → s.gate.recovered = false) :
    InRead chnl (s.afterRead chnl r) := by
  have hu : InRead chnl (s.use chnl) := h
  cases r with
  | message response more =>
    cases response with
    | login m =>
      simp only [ConsumerRun.afterRead, processResponse_login]
      change s.login.reactionTo m = _ → _ at hr
      have hl : (s.use chnl).login = s.login := rfl
      rw [hl]
      cases hm : s.login.reactionTo m with
      | none => exact hu
      | some r =>
        cases r with
        | notEntitled =>
          have hc := hr hm
          rcases hu with ⟨hc', -⟩ | ⟨hc', -⟩
          · exact .inl ⟨hc', rfl⟩
          · simp [gate, show s.rsslConsumerChannel = none from hc'] at hc
        | recover => exact InRead.recoverConnection (s := { s.use chnl with login := _ }) hu
        | _ => exact hu
    | _ => exact hu
  | nothing code state =>
    cases code with
    | failure => exact hu.recoverConnection
    | congestionDetected | slowReader | packetGapDetected =>
      simp only [ConsumerRun.afterRead, processNothing]
      split_ifs
      · exact hu.recoverConnection
      · exact hu
    | _ => exact hu

end ConsumerRun

end RmdsBridge
