import RmdsBridge.NumberedSteps

namespace RmdsBridge

open Delivery

variable {P L : Type}

namespace NumberedConsumer

variable {c : NumberedConsumer P L} {s : P} [DecidableEq P] [DecidableEq L]

open Runs

theorem run_advance (hc : c.Inv) {es : List (NumberedEvent P L)} (hok : Guarded step Ok c es) {l : L}
    (ha : Always step (Attends s l) c es) :
    (c.receivers l).Advance ((run step c es).receivers l) (c.msgSeqNum s)
      ((run step c es).msgSeqNum s) := by
  induction es generalizing c with
  | nil => exact (Receiver.Quiet.refl _).advance _
  | cons e es ih => exact (step_advance hc hok.1 ha.1).trans (ih (step_inv hc hok.1) hok.2 ha.2)

def GapFree (l : L) (c c' : NumberedConsumer P L) : Prop :=
  ∃ ms, (c'.receivers l).received = (c.receivers l).received ++ ms ∧ Consecutive nextSeqNum (numbers ms) ∧
    ∀ m ∈ ms, m.msgType = .secStatus → m.seqNum = some 0

theorem run_gapFree (hc : c.Inv) {es : List (NumberedEvent P L)} (hok : Guarded step Ok c es) {l : L}
    (ha : Always step (Attends s l) c es) : GapFree l c (run step c es) := by
  have hend : (run step c es).Inv := hok.run_inv (I := Inv) (fun _ _ hi ho => step_inv hi ho) hc
  obtain ⟨ms, hms, hcurrent⟩ := run_advance hc hok ha
  refine ⟨ms, hms, ?_, fun m hm => ?_⟩
  · exact (hcurrent [] (hc.current s l ha.head)).1.split.1
  · refine hend.statusZero l m (List.mem_append_left _ ?_)
    rw [hms]
    exact List.mem_append_right _ hm

omit [DecidableEq P] in
theorem recaps_inOrder (hc : c.Inv) (hsync : c.asyncMessaging = false) (hr : c.consumer.Recaps)
    (e : NumberedEvent P L) : c.InOrder e := by
  have hq (l : L) : numbers (c.receivers l).queue = [] := by rw [hc.sync hsync l]; rfl
  cases e with
  | consumer e =>
    cases e with
    | respond domain streamId msg =>
      intro s _ _ l _ _
      rw [if_pos (.inl (hr.2 s))]
      exact hq l
    | _ => trivial
  | resumeUpdates l =>
    intro s _ _
    rw [hq]
    exact ⟨leadsTo_nil _, fun _ => rfl⟩
  | _ => trivial

theorem stepConsumer_recaps (hc : c.Inv) {e : Event P L} (hok : c.Ok (.consumer e))
    (hr : c.consumer.Recaps) : (c.stepConsumer e).consumer.Recaps := by
  have hhandle {s : P} {n : Numbering P L} (h : (c.numbering s).Heard n) :
      (c.handle s n).consumer.Recaps :=
    hr.update (s := s) rfl rfl (h.sendRecap.trans (hr.2 s))
  have hplain (he : UPAConsumer.Plain e) : (c.stepConsumer e).consumer.Recaps := by
    rw [stepConsumer_consumer]
    exact c.consumer.step_recaps hr he
  cases e with
  | snapshot s => exact hr.update (s := s) rfl rfl (hr.2 s)
  | setStale s => exact hhandle (c.numbering s).setStale_quiet.heard
  | setLive s => exact hhandle (c.numbering s).setLive_quiet.heard
  | respond domain streamId msg =>
    change (c.respond domain streamId msg).consumer.Recaps
    unfold respond
    cases ht : c.consumer.target domain streamId with
    | none => exact hr
    | some s => exact hhandle (respond_heard hc hok.2 ht)
  | _ => exact hplain trivial

theorem step_recaps (hc : c.Inv) {e : NumberedEvent P L} (hok : c.Ok e) (hr : c.consumer.Recaps) :
    (c.step e).consumer.Recaps := by
  cases e with
  | consumer e => exact stepConsumer_recaps hc hok hr
  | _ => exact hr

theorem step_async (c : NumberedConsumer P L) (e : NumberedEvent P L) :
    (c.step e).asyncMessaging = c.asyncMessaging := by
  cases e with
  | consumer e =>
    cases e with
    | respond domain streamId msg =>
      change (c.respond domain streamId msg).asyncMessaging = _
      unfold respond
      cases c.consumer.target domain streamId <;> rfl
    | _ => rfl
  | _ => rfl

theorem run_inv {config : TransportConfig} {asyncMessaging : Bool}
    {es : List (NumberedEvent P L)} (hok : Guarded step Ok (start config asyncMessaging) es) :
    (run step (start config asyncMessaging) es).Inv :=
  hok.run_inv (I := Inv) (fun _ _ hi ho => step_inv hi ho) (inv_start config asyncMessaging)

/-- With the recaps on, which is the default, and without asynchronous messaging no run has a
gap. -/
theorem recaps_gapFree {config : TransportConfig} (hconfig : config.sendRecapOnDuplicate = true)
    {es es' : List (NumberedEvent P L)} {s : P} {l : L}
    (hok : Guarded step Promised (start config false) (es ++ es'))
    (ha : Always step (Attends s l) (run step (start config false) es) es') :
    GapFree l (run step (start config false) es) (run step (start config false) (es ++ es')) := by
  have hgood : Guarded step Ok (start config false) (es ++ es') := by
    refine hok.imp (I := fun c => c.Inv ∧ c.asyncMessaging = false ∧ c.consumer.Recaps) ?_ ?_
      ⟨inv_start config false, rfl, hconfig, fun _ => rfl⟩
    · rintro c e ⟨hc, hsync, hr⟩ hp
      have hok : c.Ok e := ⟨hp, recaps_inOrder hc hsync hr e⟩
      exact ⟨step_inv hc hok, (c.step_async e).trans hsync, step_recaps hc hok hr⟩
    · rintro c e ⟨hc, hsync, hr⟩ hp
      exact ⟨hp, recaps_inOrder hc hsync hr e⟩
  obtain ⟨hfirst, hthen⟩ := hgood.append
  rw [run_append]
  exact run_gapFree (run_inv hfirst) hthen ha

theorem messages_gapFree (config : TransportConfig) (asyncMessaging : Bool)
    (es es' : List (NumberedEvent P L)) (s : P) (l : L)
    (hok : Guarded step Ok (start config asyncMessaging) (es ++ es'))
    (ha : Always step (Attends s l) (run step (start config asyncMessaging) es) es') :
    GapFree l (run step (start config asyncMessaging) es)
      (run step (start config asyncMessaging) (es ++ es')) := by
  obtain ⟨hfirst, hthen⟩ := hok.append
  rw [run_append]
  exact run_gapFree (run_inv hfirst) hthen ha

def secondListener : List (NumberedEvent Unit Bool) :=
  [.consumer (.open ()), .consumer (.dispatch .sent),
    .consumer (.respond .marketPrice 16 (.refresh ⟨.open, .ok, .none⟩ true)),
    .consumer (.addListener () true), .consumer (.requestImage () true),
    .consumer (.dispatch .sent),
    .consumer (.respond .marketPrice 16 (.refresh ⟨.open, .ok, .none⟩ true)),
    .consumer (.respond .marketPrice 16 (.update .quote .noChange true))]

theorem secondListener_gapFree :
    GapFree false (run step (start {} false) [.consumer (.addListener () false)])
      (run step (start {} false) (.consumer (.addListener () false) :: secondListener)) := by
  have hnone (c : NumberedConsumer Unit Bool) {domain : Domain} {i : ℕ} {msg : RsslMsg}
      (h : ¬ Numbering.Answers domain (c.consumer.subscriptions ()) msg) :
      c.InOrder (.consumer (.respond domain i msg)) := fun _ _ ha => absurd ha h
  refine messages_gapFree {} false [.consumer (.addListener () false)] secondListener () false
    ⟨⟨⟨fun () => by decide, rfl, rfl⟩, trivial⟩, ⟨trivial, trivial⟩, ⟨trivial, trivial⟩,
      ⟨trivial, ?_⟩, ⟨⟨fun () => by decide, rfl, rfl⟩, trivial⟩, ⟨trivial, trivial⟩,
      ⟨trivial, trivial⟩, ⟨trivial, ?_⟩, ⟨trivial, ?_⟩, trivial⟩ (by decide)
  · exact hnone _ (by decide)
  · exact fun () _ _ => by decide
  · exact hnone _ (by decide)

theorem secondListener_recaps :
    GapFree true
      (run step (start {} false) (.consumer (.addListener () false) :: secondListener.take 4))
      (run step (start {} false)
        ((.consumer (.addListener () false) :: secondListener.take 4) ++ secondListener.drop 4)) :=
  recaps_gapFree (s := ()) rfl
    ⟨⟨fun () => by decide, rfl, rfl⟩, trivial, trivial, trivial,
      ⟨fun () => by decide, rfl, rfl⟩, trivial, trivial, trivial, trivial, trivial⟩ (by decide)

/-- Without recaps the second image takes a number that the first listener never sees. -/
theorem recapOff_gap :
    ¬ ∀ es es' : List (NumberedEvent Unit Bool),
      Guarded step Promised (start { sendRecapOnDuplicate := false } false) (es ++ es') →
      Always step (Attends () false)
        (run step (start { sendRecapOnDuplicate := false } false) es) es' →
      GapFree false (run step (start { sendRecapOnDuplicate := false } false) es)
        (run step (start { sendRecapOnDuplicate := false } false) (es ++ es')) := by
  intro h
  obtain ⟨ms, hms, ⟨a, n, hn⟩, -⟩ := h [.consumer (.addListener () false)] secondListener
    ⟨⟨fun () => by decide, rfl, rfl⟩, trivial, trivial, trivial,
      ⟨fun () => by decide, rfl, rfl⟩, trivial, trivial, trivial, trivial, trivial⟩ (by decide)
  have hnumbers : numbers ms = [some 0, some 2] := by
    rw [← List.nil_append ms]
    exact congrArg numbers hms.symm
  rw [hnumbers] at hn
  match n with
  | 0 | 1 => cases hn
  | n + 2 =>
    obtain ⟨h0, htail⟩ := List.cons.inj hn
    obtain ⟨h2, -⟩ := List.cons.inj htail
    rw [← Option.some.inj h0] at h2
    exact absurd h2 (by decide)

end NumberedConsumer

end RmdsBridge
