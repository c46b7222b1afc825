import RmdsBridge.MilliCount
import RmdsBridge.PingChecks
import RmdsBridge.Runs

namespace RmdsBridge

open WrappedClocks

def pingCheckInterval : UInt32 := 1000

structure PingedProvider (C : Type) where
  lastPingCheck : UInt32
  connections : ClientConnections C
  provider : UPAProvider C

namespace PingedProvider

variable {C : Type} [DecidableEq C]

def PerformsCheck (p : PingedProvider C) (now : UInt32) : Prop :=
  p.lastPingCheck < now ∧ pingCheckInterval < now - p.lastPingCheck

instance (p : PingedProvider C) (now : UInt32) : Decidable (p.PerformsCheck now) :=
  inferInstanceAs (Decidable (_ ∧ _))

def check (p : PingedProvider C) (t : ℕ) (a : PingAnswers C) : Checked C (List (Option (ClientSlot C))) :=
  p.provider.checkSlots (t / 1000 : ℕ) a p.connections.slots

def handlePings (p : PingedProvider C) (t : ℕ) (a : PingAnswers C) : PingedProvider C :=
  let now := (getMilliCount t).toUInt32
  if p.PerformsCheck now then
    { lastPingCheck := now
      connections :=
        { slots := (p.check t a).slots
          size := (UPAProvider.checkSlots_length _ _).trans p.connections.size
          distinct := p.connections.distinct.sublist (UPAProvider.checkSlots_channels _ _) }
      provider := (p.check t a).provider }
  else p

omit [DecidableEq C] in
theorem performsCheck_iff (p : PingedProvider C) (now : UInt32) :
    p.PerformsCheck now ↔ p.lastPingCheck.toNat < now.toNat ∧ 1000 < now.toNat - p.lastPingCheck.toNat := by
  unfold PerformsCheck
  rw [UInt32.lt_iff_toNat_lt]
  refine and_congr_right fun hlt => ?_
  rw [UInt32.lt_iff_toNat_lt, UInt32.toNat_sub_of_le _ _ (UInt32.le_iff_toNat_le.mpr hlt.le)]
  rfl

end PingedProvider

/-- A call of `HandlePings`, not more than half a period after the call before it. -/
structure HandlePingsCall (C : Type) where
  after : ℕ
  near : after ≤ milliPeriod / 2
  answers : PingAnswers C

inductive PingEvent (C : Type)
  | handlePings (call : HandlePingsCall C)
  | others (connections : ClientConnections C) (provider : UPAProvider C)

structure PingRun (C : Type) where
  pinged : PingedProvider C
  lastCheck : ℕ
  lastCall : ℕ

namespace PingRun

variable {C : Type} [DecidableEq C]

def step (r : PingRun C) : PingEvent C → PingRun C
  | .handlePings call =>
    if r.pinged.provider.stuck then r
    else
      let t := r.lastCall + call.after
      { pinged := r.pinged.handlePings t call.answers
        lastCheck := if r.pinged.PerformsCheck (getMilliCount t).toUInt32 then t else r.lastCheck
        lastCall := t }
  | .others connections provider =>
    if r.pinged.provider.stuck then r else { r with pinged := { r.pinged with connections, provider } }

def start (t : ℕ) (connections : ClientConnections C) (provider : UPAProvider C) : PingRun C where
  pinged := { lastPingCheck := (getMilliCount t).toUInt32, connections, provider }
  lastCheck := t
  lastCall := t

def Overdue (r : PingRun C) (t : ℕ) : Prop := r.lastCheck + pingCheckInterval.toNat < t

instance (r : PingRun C) (t : ℕ) : Decidable (r.Overdue t) := inferInstanceAs (Decidable (_ < _))

def ChecksPings (r : PingRun C) : PingEvent C → Prop
  | .handlePings call => r.pinged.provider.stuck = false →
    let t := r.lastCall + call.after
    (r.Overdue t → r.pinged.PerformsCheck (getMilliCount t).toUInt32) ∧
      (r.pinged.PerformsCheck (getMilliCount t).toUInt32 → ∀ s, some s ∈ r.pinged.connections.slots →
        UPAProvider.Served (t / 1000 : ℕ) (r.pinged.check t call.answers) s)
  | .others _ _ => True

def Checkable (r : PingRun C) : PingEvent C → Prop
  | .handlePings call => r.pinged.provider.stuck = false →
    let t := r.lastCall + call.after
    r.Overdue t → t / milliPeriod = r.lastCheck / milliPeriod ∧
      r.pinged.provider.Returns (t / 1000 : ℕ) call.answers r.pinged.connections.slots
  | .others _ _ => True

structure Timed (r : PingRun C) : Prop where
  count : r.pinged.lastPingCheck = (getMilliCount r.lastCheck).toUInt32
  ordered : r.lastCheck ≤ r.lastCall
  recent : r.lastCall ≤ r.lastCheck + pingCheckInterval.toNat

variable {r : PingRun C} {call : HandlePingsCall C}

theorem step_stuck (h : r.pinged.provider.stuck = true) (e : PingEvent C) : r.step e = r := by
  cases e <;> exact if_pos h

theorem step_others (h : r.pinged.provider.stuck = false) (connections : ClientConnections C)
    (provider : UPAProvider C) :
    r.step (.others connections provider) = { r with pinged := { r.pinged with connections, provider } } :=
  if_neg (by simp [h])

theorem step_performed (h : r.pinged.provider.stuck = false)
    (hc : r.pinged.PerformsCheck (getMilliCount (r.lastCall + call.after)).toUInt32) :
    (r.step (.handlePings call)).pinged.lastPingCheck =
        (getMilliCount (r.lastCall + call.after)).toUInt32 ∧
      (r.step (.handlePings call)).lastCheck = r.lastCall + call.after ∧
      (r.step (.handlePings call)).lastCall = r.lastCall + call.after := by
  have hstep : r.step (.handlePings call) = _ := if_neg (by simp [h])
  have hpinged : r.pinged.handlePings (r.lastCall + call.after) call.answers = _ := if_pos hc
  rw [hstep, hpinged, if_pos hc]
  exact ⟨rfl, rfl, rfl⟩

theorem step_skipped (h : r.pinged.provider.stuck = false)
    (hc : ¬ r.pinged.PerformsCheck (getMilliCount (r.lastCall + call.after)).toUInt32) :
    r.step (.handlePings call) = { r with lastCall := r.lastCall + call.after } := by
  have hstep : r.step (.handlePings call) = _ := if_neg (by simp [h])
  have hpinged : r.pinged.handlePings (r.lastCall + call.after) call.answers = r.pinged := if_neg hc
  rw [hstep, hpinged, if_neg hc]

omit [DecidableEq C] in
theorem Timed.within_period (h : r.Timed) (call : HandlePingsCall C) :
    r.lastCheck ≤ r.lastCall + call.after ∧ r.lastCall + call.after < r.lastCheck + milliPeriod := by
  have hnear := call.near
  have hordered := h.ordered
  have hrecent := h.recent
  have hperiod : milliPeriod = 1048576000 := rfl
  have hinterval : pingCheckInterval.toNat = 1000 := rfl
  omega

omit [DecidableEq C] in
theorem Timed.performsCheck_iff (h : r.Timed) (call : HandlePingsCall C) :
    r.pinged.PerformsCheck (getMilliCount (r.lastCall + call.after)).toUInt32 ↔
      r.Overdue (r.lastCall + call.after) ∧
        (r.lastCall + call.after) / milliPeriod = r.lastCheck / milliPeriod := by
  obtain ⟨hle, hlt⟩ := h.within_period call
  unfold Overdue
  rw [← elapsed_iff hle hlt, PingedProvider.performsCheck_iff, h.count, getMilliCount_toUInt32,
    getMilliCount_toUInt32]
  rfl

theorem Timed.step {e : PingEvent C} (h : r.Timed) (hok : r.ChecksPings e) : (r.step e).Timed := by
  cases hp : r.pinged.provider.stuck with
  | true => rwa [step_stuck hp]
  | false =>
    cases e with
    | handlePings call =>
      by_cases hc : r.pinged.PerformsCheck (getMilliCount (r.lastCall + call.after)).toUInt32
      · obtain ⟨hcount, hcheck, hcall⟩ := step_performed hp hc
        constructor
        · rw [hcount, hcheck]
        · rw [hcheck, hcall]
        · rw [hcheck, hcall]
          exact Nat.le_add_right _ _
      · rw [step_skipped hp hc]
        have htime : ¬ r.Overdue (r.lastCall + call.after) := fun hlate => hc ((hok hp).1 hlate)
        exact ⟨h.count, h.ordered.trans (Nat.le_add_right _ _), not_lt.mp htime⟩
    | others connections provider =>
      rw [step_others hp]
      exact ⟨h.count, h.ordered, h.recent⟩

theorem Timed.checksPings_iff (h : r.Timed) (e : PingEvent C) : r.ChecksPings e ↔ r.Checkable e := by
  cases e with
  | others _ _ => exact Iff.rfl
  | handlePings call =>
    refine forall_congr' fun hp => ?_
    dsimp only [PingedProvider.check]
    rw [h.performsCheck_iff, UPAProvider.checkSlots_served_iff r.pinged.connections.distinct hp]
    constructor
    · rintro ⟨hperforms, hreturns⟩ hlate
      have hsame := (hperforms hlate).2
      exact ⟨hsame, hreturns ⟨hlate, hsame⟩⟩
    · intro hok
      exact ⟨fun hlate => ⟨hlate, (hok hlate).1⟩, fun hc => (hok hc.1).2⟩

omit [DecidableEq C] in
theorem start_timed (t : ℕ) (connections : ClientConnections C) (provider : UPAProvider C) :
    (start t connections provider).Timed where
  count := rfl
  ordered := le_rfl
  recent := Nat.le_add_right _ _

theorem ping_checks_iff (t : ℕ) (connections : ClientConnections C) (provider : UPAProvider C)
    (events : List (PingEvent C)) :
    Runs.Guarded step ChecksPings (start t connections provider) events ↔
      Runs.Guarded step Checkable (start t connections provider) events :=
  Runs.guarded_congr (fun _ _ h hok => h.step hok) (fun _ e h => h.checksPings_iff e)
    (start_timed t connections provider)

def noConnections : ClientConnections Unit := ⟨List.replicate 10 none, rfl, List.nodup_nil⟩

def afterRollover : HandlePingsCall Unit := ⟨2001, by decide, ⟨fun _ => true, fun _ => []⟩⟩

theorem rollover_without_check : ¬ ∀ (t : ℕ) (connections : ClientConnections Unit)
    (provider : UPAProvider Unit) (events : List (PingEvent Unit)),
    Runs.Guarded step ChecksPings (start t connections provider) events := by
  intro h
  have hchecks := (h (milliPeriod - 1) noConnections { source := none } [.handlePings afterRollover]).1 rfl
  have hperforms := hchecks.1 (by decide)
  exact absurd hperforms (by decide)

end PingRun

end RmdsBridge
