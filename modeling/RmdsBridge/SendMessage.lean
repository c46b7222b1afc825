import Mathlib.Tactic.Common

namespace RmdsBridge

/-- What `rsslWrite` returns; `queued` stands for the codes above `RSSL_RET_SUCCESS`, `failed` for the
errors without a name here. -/
inductive WriteCode
  | success
  | queued
  | callAgain
  | flushFailed
  | failed
  deriving DecidableEq, Repr

structure WriteCall where
  code : WriteCode
  closed : Bool := false
  error : String := ""
  deriving DecidableEq, Repr

/-- What `rsslFlush` returns: an error, `RSSL_RET_SUCCESS` or a code above it. -/
inductive FlushCode
  | failed
  | success
  | queued
  deriving DecidableEq, Repr

structure FlushCall where
  code : FlushCode
  error : String := ""
  deriving DecidableEq, Repr

inductive SendRet
  | success
  | failure
  deriving DecidableEq, Repr

/-- `writeFd` is the channel's bit in `wrtfds`; `released` counts the releases of the buffer. -/
structure Sending where
  errorText : String := ""
  writeFd : Bool := false
  released : ℕ := 0
  deriving DecidableEq, Repr

def WriteCall.Takes (w : WriteCall) : Prop :=
  match w.code with
  | .success | .queued => True
  | .flushFailed => w.closed = false
  | .callAgain | .failed => False

instance (w : WriteCall) : Decidable w.Takes := by
  unfold WriteCall.Takes
  split <;> infer_instance

namespace Sending

/-- The loop flushes and writes again, and does not look at what a flush returns; `none` when the last
of `retries` asks for one more. -/
def writeAgain : WriteCall → List (FlushCall × WriteCall) → Option WriteCall
  | w, [] => if w.code = .callAgain then none else some w
  | w, (_, w') :: retries => if w.code = .callAgain then writeAgain w' retries else some w

def setWriteFd (s : Sending) (w : WriteCall) : Sending :=
  if w.code = .queued ∨ w.code = .flushFailed then { s with writeFd := true } else s

def flush (s : Sending) (f : FlushCall) : Sending :=
  match f.code with
  | .failed => { s with errorText := f.error }
  | .success => { s with writeFd := false }
  | .queued => s

def reject (s : Sending) (w : WriteCall) : Sending :=
  { s with errorText := w.error, released := s.released + 1 }

/-- `w` is the first write, `f` the flush at the end. After the loop only a code above
`RSSL_RET_SUCCESS` is looked for in the last write. -/
def sendUPAMessageWithErrorText (s : Sending) (w : WriteCall) (retries : List (FlushCall × WriteCall))
    (f : FlushCall) : Option (SendRet × Sending) :=
  match w.code with
  | .success | .queued => some (.success, (s.setWriteFd w).flush f)
  | .callAgain =>
    (writeAgain w retries).map fun w' =>
      (.success, (if w'.code = .queued then { s with writeFd := true } else s).flush f)
  | .flushFailed =>
    if w.closed then some (.failure, s.reject w) else some (.success, (s.setWriteFd w).flush f)
  | .failed => some (.failure, s.reject w)

def sendUPAMessage (w : WriteCall) (retries : List (FlushCall × WriteCall)) (f : FlushCall) :
    Option SendRet :=
  (sendUPAMessageWithErrorText {} w retries f).map Prod.fst

def writes : WriteCall → List (FlushCall × WriteCall) → List WriteCall
  | w, [] => [w]
  | w, (_, w') :: retries => if w.code = .callAgain then w :: writes w' retries else [w]

def Taken (w : WriteCall) (retries : List (FlushCall × WriteCall)) : Prop := ∃ w' ∈ writes w retries, w'.Takes

structure TellsTruth (s : Sending) (w : WriteCall) (retries : List (FlushCall × WriteCall))
    (r : SendRet × Sending) : Prop where
  success : r.1 = .success → Taken w retries ∧ r.2.released = s.released
  failure : r.1 ≠ .success → r.1 = .failure ∧ r.2.released = s.released + 1

def lastWrite (w : WriteCall) (retries : List (FlushCall × WriteCall)) : Option WriteCall :=
  (w :: retries.map Prod.snd).find? fun w => w.code ≠ .callAgain

variable {s : Sending} {w : WriteCall} {retries : List (FlushCall × WriteCall)} {f : FlushCall}

@[simp] theorem flush_released (s : Sending) (f : FlushCall) : (s.flush f).released = s.released := by
  unfold flush
  split <;> rfl

@[simp] theorem setWriteFd_released (s : Sending) (w : WriteCall) :
    (s.setWriteFd w).released = s.released := by
  unfold setWriteFd
  split <;> rfl

theorem not_takes_of_callAgain (h : w.code = .callAgain) : ¬ w.Takes := by
  unfold WriteCall.Takes
  rw [h]
  exact id

theorem writeAgain_eq_lastWrite : writeAgain w retries = lastWrite w retries := by
  induction retries generalizing w with
  | nil =>
    by_cases h : w.code = .callAgain
    · simp [writeAgain, lastWrite, h]
    · simp [writeAgain, lastWrite, h]
  | cons r retries ih =>
    obtain ⟨f, w'⟩ := r
    by_cases h : w.code = .callAgain
    · rw [writeAgain, if_pos h, ih]
      simp [lastWrite, h]
    · simp [writeAgain, lastWrite, h]

theorem taken_iff : Taken w retries ↔ ∃ w', lastWrite w retries = some w' ∧ w'.Takes := by
  rw [← writeAgain_eq_lastWrite]
  unfold Taken
  induction retries generalizing w with
  | nil =>
    by_cases h : w.code = .callAgain
    · simp [writes, writeAgain, h, not_takes_of_callAgain h]
    · simp [writes, writeAgain, h]
  | cons r retries ih =>
    obtain ⟨f, w'⟩ := r
    by_cases h : w.code = .callAgain
    · simp only [writes, writeAgain, if_pos h, List.mem_cons, exists_eq_or_imp,
        not_takes_of_callAgain h, false_or]
      exact ih
    · simp [writes, writeAgain, h]

theorem lastWrite_first (h : w.code ≠ .callAgain) : lastWrite w retries = some w := by
  simp [lastWrite, h]

theorem taken_first (h : w.code ≠ .callAgain) : Taken w retries ↔ w.Takes := by
  rw [taken_iff, lastWrite_first h]
  simp

theorem tellsTruth_success {s' : Sending} (h : s'.released = s.released) :
    TellsTruth s w retries (.success, s') ↔ Taken w retries := by
  constructor
  · intro ht
    exact (ht.success rfl).1
  · intro ht
    exact ⟨fun _ => ⟨ht, h⟩, fun hn => absurd rfl hn⟩

theorem tellsTruth_reject : TellsTruth s w retries (.failure, s.reject w) where
  success h := by cases h
  failure _ := ⟨rfl, rfl⟩

theorem returns_iff : (∃ r, sendUPAMessageWithErrorText s w retries f = some r) ↔
    ∃ w', lastWrite w retries = some w' := by
  by_cases h : w.code = .callAgain
  · simp [sendUPAMessageWithErrorText, h, writeAgain_eq_lastWrite]
  · rw [lastWrite_first h]
    unfold sendUPAMessageWithErrorText
    cases hw : w.code with
    | success => simp
    | queued => simp
    | callAgain => exact absurd hw h
    | flushFailed => cases w.closed <;> simp
    | failed => simp

theorem tellsTruth_first {r : SendRet × Sending} (h : w.code ≠ .callAgain)
    (hr : sendUPAMessageWithErrorText s w retries f = some r) : TellsTruth s w retries r := by
  have htaken : Taken w retries ↔ w.Takes := taken_first h
  unfold WriteCall.Takes at htaken
  unfold sendUPAMessageWithErrorText at hr
  cases hw : w.code with
  | success | queued =>
    rw [hw] at hr htaken
    cases hr
    exact (tellsTruth_success (by simp)).mpr (htaken.mpr trivial)
  | callAgain => exact absurd hw h
  | flushFailed =>
    rw [hw] at hr htaken
    cases hc : w.closed with
    | true =>
      rw [hc] at hr
      cases hr
      exact tellsTruth_reject
    | false =>
      rw [hc] at hr
      cases hr
      exact (tellsTruth_success (by simp)).mpr (htaken.mpr hc)
  | failed =>
    rw [hw] at hr
    cases hr
    exact tellsTruth_reject

theorem tellsTruth_again {r : SendRet × Sending} (h : w.code = .callAgain)
    (hr : sendUPAMessageWithErrorText s w retries f = some r) :
    TellsTruth s w retries r ↔ Taken w retries := by
  simp only [sendUPAMessageWithErrorText, h, Option.map_eq_some_iff] at hr
  obtain ⟨w', -, rfl⟩ := hr
  apply tellsTruth_success
  rw [flush_released]
  split <;> rfl

def Truthful (s : Sending) (w : WriteCall) (retries : List (FlushCall × WriteCall)) (f : FlushCall) : Prop :=
  ∀ r, sendUPAMessageWithErrorText s w retries f = some r → TellsTruth s w retries r

theorem truthful_again (h : w.code = .callAgain) :
    Truthful s w retries f ↔ ∀ w', lastWrite w retries = some w' → w'.Takes := by
  constructor
  · intro ht w' hw'
    obtain ⟨r, hr⟩ := returns_iff (s := s) (f := f).mpr ⟨w', hw'⟩
    obtain ⟨w'', hw'', htakes⟩ := taken_iff.mp ((tellsTruth_again h hr).mp (ht r hr))
    rw [hw'] at hw''
    cases hw''
    exact htakes
  · intro htakes r hr
    obtain ⟨w', hw'⟩ := returns_iff.mp ⟨r, hr⟩
    exact (tellsTruth_again h hr).mpr (taken_iff.mpr ⟨w', hw', htakes w' hw'⟩)

theorem truthful_iff (s : Sending) (w : WriteCall) (retries : List (FlushCall × WriteCall)) (f : FlushCall) :
    ((∃ r, sendUPAMessageWithErrorText s w retries f = some r) ↔ ∃ w', lastWrite w retries = some w') ∧
      (Truthful s w retries f ↔
        (w.code = .callAgain → ∀ w', lastWrite w retries = some w' → w'.Takes)) := by
  refine ⟨returns_iff, ?_⟩
  by_cases h : w.code = .callAgain
  · rw [truthful_again h]
    exact ⟨fun ht _ => ht, fun ht => ht h⟩
  · exact ⟨fun _ h' => absurd h' h, fun _ r hr => tellsTruth_first h hr⟩

/-- The write that is made again fails, the buffer is kept and success is returned. -/
theorem failed_retry_untruthful : ¬ ∀ s w retries f, Truthful s w retries f := by
  intro h
  have ht := h {} ⟨.callAgain, false, ""⟩ [(⟨.success, ""⟩, ⟨.failed, false, "no channel"⟩)] ⟨.success, ""⟩
  exact (truthful_again rfl).mp ht _ rfl

end Sending

end RmdsBridge
