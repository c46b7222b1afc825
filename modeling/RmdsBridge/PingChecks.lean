import RmdsBridge.ChannelShutdown
import RmdsBridge.ProviderLoop

namespace RmdsBridge

/-- A slot of `clientConnections_` with a channel; `socketOpen` is that the socket's id is not -1. -/
structure ClientSlot (C : Type) extends UPAClientConnection where
  clientChannel : C
  socketOpen : Bool := true
  pingTimeout : ℕ := 0
  nextReceivePingTime : ℤ := 0
  nextSendPingTime : ℤ := 0
  deriving DecidableEq, Repr

def ClientSlot.channels {C : Type} (slots : List (Option (ClientSlot C))) : List C :=
  slots.filterMap (Option.map ClientSlot.clientChannel)

structure ClientConnections (C : Type) where
  slots : List (Option (ClientSlot C))
  size : slots.length = maxClientConnections
  distinct : (ClientSlot.channels slots).Nodup

inductive PingCall (C : Type)
  | ping (chnl : C)
  | closeChannel (chnl : C)
  deriving DecidableEq, Repr

/-- What a check meets: the channels that a ping can be sent on, and the orders in which the streams of the
channels that are closed are iterated. -/
structure PingAnswers (C : Type) where
  pingSent : C → Bool
  walk : C → List (Σ _ : ℤ, String)

structure Checked (C S : Type) where
  slots : S
  provider : UPAProvider C
  calls : List (PingCall C) := []

namespace ClientSlot

variable {C : Type} [DecidableEq C]

def SendDue (s : ClientSlot C) (currentTime : ℤ) : Prop :=
  s.pingsInitialized = true ∧ s.nextSendPingTime ≤ currentTime

def ReceiveDue (s : ClientSlot C) (currentTime : ℤ) : Prop :=
  s.pingsInitialized = true ∧ s.nextReceivePingTime ≤ currentTime

instance (s : ClientSlot C) (currentTime : ℤ) : Decidable (s.SendDue currentTime) :=
  inferInstanceAs (Decidable (_ ∧ _))

instance (s : ClientSlot C) (currentTime : ℤ) : Decidable (s.ReceiveDue currentTime) :=
  inferInstanceAs (Decidable (_ ∧ _))

def Lost (s : ClientSlot C) (currentTime : ℤ) : Prop :=
  s.socketOpen = true ∧ s.ReceiveDue currentTime ∧ s.receivedClientMsg = false

def sendPing (s : ClientSlot C) (currentTime : ℤ) (a : PingAnswers C) : ClientSlot C × List (PingCall C) :=
  if s.SendDue currentTime then
    (if a.pingSent s.clientChannel then
        { s with nextSendPingTime := currentTime + (s.pingTimeout / 10 : ℕ) }
      else s,
      [.ping s.clientChannel])
  else (s, [])

/-- The slot is not reset when the shutdown does not return. -/
def checkReceived (s : ClientSlot C) (currentTime : ℤ) (a : PingAnswers C) (p : UPAProvider C) :
    Checked C (Option (ClientSlot C)) :=
  if ¬ s.ReceiveDue currentTime then { slots := some s, provider := p }
  else if s.receivedClientMsg then
    { slots := some { s with
        receivedClientMsg := false, nextReceivePingTime := currentTime + s.pingTimeout }
      provider := p }
  else
    let p := p.shutdownClientConnection s.clientChannel (a.walk s.clientChannel)
    { slots := if p.stuck then some s else none, provider := p, calls := [.closeChannel s.clientChannel] }

end ClientSlot

namespace UPAProvider

variable {C : Type} [DecidableEq C]

def checkSlot (p : UPAProvider C) (currentTime : ℤ) (a : PingAnswers C) :
    Option (ClientSlot C) → Checked C (Option (ClientSlot C))
  | none => { slots := none, provider := p }
  | some s =>
    if s.socketOpen then
      let (s, calls) := s.sendPing currentTime a
      let r := s.checkReceived currentTime a p
      { r with calls := calls ++ r.calls }
    else { slots := some s, provider := p }

def checkSlots (p : UPAProvider C) (currentTime : ℤ) (a : PingAnswers C) :
    List (Option (ClientSlot C)) → Checked C (List (Option (ClientSlot C)))
  | [] => { slots := [], provider := p }
  | s :: ss =>
    let r := p.checkSlot currentTime a s
    if r.provider.stuck then { r with slots := r.slots :: ss }
    else
      let rs := r.provider.checkSlots currentTime a ss
      { rs with slots := r.slots :: rs.slots, calls := r.calls ++ rs.calls }

end UPAProvider

open ClientSlot

section

variable {C : Type} [DecidableEq C] {p : UPAProvider C} {currentTime : ℤ} {a : PingAnswers C}
  {s : ClientSlot C} {slots : List (Option (ClientSlot C))}

namespace ClientSlot

omit [DecidableEq C] in
theorem sendPing_kept (s : ClientSlot C) (currentTime : ℤ) (a : PingAnswers C) :
    ∃ t, (s.sendPing currentTime a).1 = { s with nextSendPingTime := t } := by
  unfold sendPing
  split_ifs
  · exact ⟨_, rfl⟩
  · exact ⟨s.nextSendPingTime, rfl⟩
  · exact ⟨s.nextSendPingTime, rfl⟩

omit [DecidableEq C] in
theorem channels_cons (o : Option (ClientSlot C)) :
    channels (o :: slots) = (o.map clientChannel).toList ++ channels slots := by
  cases o <;> rfl

omit [DecidableEq C] in
theorem mem_channels (h : some s ∈ slots) : s.clientChannel ∈ channels slots :=
  List.mem_filterMap.mpr ⟨some s, h, rfl⟩

theorem checkReceived_lost (h : s.Lost currentTime) :
    s.checkReceived currentTime a p =
      { slots := if (p.shutdownClientConnection s.clientChannel (a.walk s.clientChannel)).stuck then some s
          else none
        provider := p.shutdownClientConnection s.clientChannel (a.walk s.clientChannel)
        calls := [.closeChannel s.clientChannel] } := by
  unfold checkReceived
  rw [if_neg (not_not_intro h.2.1), if_neg (by simp [h.2.2])]

theorem checkReceived_kept (h : ¬ s.Lost currentTime) (ho : s.socketOpen = true) :
    (s.checkReceived currentTime a p).provider = p ∧
      (s.checkReceived currentTime a p).slots.map clientChannel = some s.clientChannel := by
  unfold checkReceived
  split_ifs with hd hm
  · exact ⟨rfl, rfl⟩
  · exact absurd ⟨ho, hd, by simpa using hm⟩ h
  · exact ⟨rfl, rfl⟩

end ClientSlot

namespace UPAProvider

theorem checkSlot_open (h : s.socketOpen = true) :
    p.checkSlot currentTime a (some s) =
      { (s.sendPing currentTime a).1.checkReceived currentTime a p with
        calls := (s.sendPing currentTime a).2 ++
          ((s.sendPing currentTime a).1.checkReceived currentTime a p).calls } := if_pos h

theorem checkSlot_pings (h : s.socketOpen = true) (hd : s.SendDue currentTime) :
    .ping s.clientChannel ∈ (p.checkSlot currentTime a (some s)).calls := by
  rw [checkSlot_open h]
  apply List.mem_append_left
  unfold ClientSlot.sendPing
  rw [if_pos hd]
  exact List.mem_singleton_self _

theorem checkSlot_kept {o : Option (ClientSlot C)} (h : ∀ s ∈ o, ¬ s.Lost currentTime) :
    (p.checkSlot currentTime a o).provider = p ∧
      (p.checkSlot currentTime a o).slots.map clientChannel = o.map clientChannel := by
  cases o with
  | none => exact ⟨rfl, rfl⟩
  | some s =>
    by_cases ho : s.socketOpen = true
    · obtain ⟨t, hs⟩ := s.sendPing_kept currentTime a
      rw [checkSlot_open ho, hs]
      exact checkReceived_kept (s := { s with nextSendPingTime := t }) (h s rfl) ho
    · have hclosed : p.checkSlot currentTime a (some s) = _ := if_neg ho
      rw [hclosed]
      exact ⟨rfl, rfl⟩

theorem checkSlot_lost (h : s.Lost currentTime) :
    (p.checkSlot currentTime a (some s)).provider =
        p.shutdownClientConnection s.clientChannel (a.walk s.clientChannel) ∧
      .closeChannel s.clientChannel ∈ (p.checkSlot currentTime a (some s)).calls ∧
      (p.checkSlot currentTime a (some s)).slots.map clientChannel =
        if (p.shutdownClientConnection s.clientChannel (a.walk s.clientChannel)).stuck then
          some s.clientChannel
        else none := by
  obtain ⟨t, hs⟩ := s.sendPing_kept currentTime a
  rw [checkSlot_open h.1, hs, checkReceived_lost (s := { s with nextSendPingTime := t }) h]
  refine ⟨rfl, List.mem_append_right _ (List.mem_singleton_self _), ?_⟩
  split_ifs <;> rfl

theorem checkSlots_stuck {o : Option (ClientSlot C)}
    (h : (p.checkSlot currentTime a o).provider.stuck = true) :
    p.checkSlots currentTime a (o :: slots) =
      { p.checkSlot currentTime a o with
        slots := (p.checkSlot currentTime a o).slots :: slots } := if_pos h

theorem checkSlots_cons {o : Option (ClientSlot C)}
    (h : (p.checkSlot currentTime a o).provider.stuck = false) :
    p.checkSlots currentTime a (o :: slots) =
      { (p.checkSlot currentTime a o).provider.checkSlots currentTime a slots with
        slots := (p.checkSlot currentTime a o).slots ::
          ((p.checkSlot currentTime a o).provider.checkSlots currentTime a slots).slots
        calls := (p.checkSlot currentTime a o).calls ++
          ((p.checkSlot currentTime a o).provider.checkSlots currentTime a slots).calls } :=
  if_neg (by simp [h])

theorem checkSlot_channels (o : Option (ClientSlot C)) :
    ((p.checkSlot currentTime a o).slots.map clientChannel).toList.Sublist
      (o.map clientChannel).toList := by
  cases o with
  | none => exact List.Sublist.refl []
  | some s =>
    by_cases hl : s.Lost currentTime
    · rw [(checkSlot_lost hl).2.2]
      split_ifs
      · exact List.Sublist.refl _
      · exact List.nil_sublist _
    · rw [(checkSlot_kept (by simpa using hl)).2]

theorem checkSlots_channels (p : UPAProvider C) (slots : List (Option (ClientSlot C))) :
    (channels (p.checkSlots currentTime a slots).slots).Sublist (channels slots) := by
  induction slots generalizing p with
  | nil => exact List.Sublist.refl _
  | cons o ss ih =>
    cases h : (p.checkSlot currentTime a o).provider.stuck with
    | true =>
      rw [checkSlots_stuck h]
      simp only [channels_cons]
      exact (checkSlot_channels o).append_right _
    | false =>
      rw [checkSlots_cons h]
      simp only [channels_cons]
      exact (checkSlot_channels o).append (ih _)

theorem checkSlots_length (p : UPAProvider C) (slots : List (Option (ClientSlot C))) :
    (p.checkSlots currentTime a slots).slots.length = slots.length := by
  induction slots generalizing p with
  | nil => rfl
  | cons o ss ih =>
    cases h : (p.checkSlot currentTime a o).provider.stuck with
    | true =>
      rw [checkSlots_stuck h]
      rfl
    | false =>
      rw [checkSlots_cons h]
      exact congrArg (· + 1) (ih _)

def Served (currentTime : ℤ) (r : Checked C (List (Option (ClientSlot C)))) (s : ClientSlot C) : Prop :=
  (s.socketOpen = true → s.SendDue currentTime → .ping s.clientChannel ∈ r.calls) ∧
    (s.Lost currentTime → .closeChannel s.clientChannel ∈ r.calls ∧ s.clientChannel ∉ channels r.slots)

def Returns (p : UPAProvider C) (currentTime : ℤ) (a : PingAnswers C)
    (slots : List (Option (ClientSlot C))) : Prop :=
  ∀ s, some s ∈ slots → s.Lost currentTime → p.ShutdownReturns s.clientChannel (a.walk s.clientChannel)

theorem Returns.tail {o : Option (ClientSlot C)} (h : p.Returns currentTime a (o :: slots)) :
    p.Returns currentTime a slots := fun s hs => h s (List.mem_cons_of_mem _ hs)

theorem returns_shutdown_iff (hn : s.clientChannel ∉ channels slots) :
    (p.shutdownClientConnection s.clientChannel (a.walk s.clientChannel)).Returns currentTime a slots ↔
      p.Returns currentTime a slots := by
  refine forall_congr' fun s' => forall_congr' fun hs' => imp_congr_right fun _ => ?_
  apply shutdown_others
  rintro he
  exact hn (he ▸ mem_channels hs')

theorem checkSlot_returns {o : Option (ClientSlot C)} (hn : (channels (o :: slots)).Nodup)
    (hp : p.stuck = false)
    (hr : ∀ s ∈ o, s.Lost currentTime → p.ShutdownReturns s.clientChannel (a.walk s.clientChannel)) :
    (p.checkSlot currentTime a o).provider.stuck = false ∧
      ((p.checkSlot currentTime a o).provider.Returns currentTime a slots ↔
        p.Returns currentTime a slots) := by
  by_cases hl : ∃ s ∈ o, s.Lost currentTime
  · obtain ⟨s, rfl, hs⟩ := hl
    rw [(checkSlot_lost hs).1]
    refine ⟨(shutdown_returns_iff hp _ _).mpr (hr s rfl hs), returns_shutdown_iff ?_⟩
    exact (List.nodup_cons.mp hn).1
  · rw [(checkSlot_kept fun s hs hlost => hl ⟨s, hs, hlost⟩).1]
    exact ⟨hp, Iff.rfl⟩

omit [DecidableEq C] in
theorem Served.of_rest {r : Checked C (Option (ClientSlot C))}
    {rs : Checked C (List (Option (ClientSlot C)))} (h : Served currentTime rs s)
    (ho : s.clientChannel ∉ (r.slots.map clientChannel).toList) :
    Served currentTime { rs with slots := r.slots :: rs.slots, calls := r.calls ++ rs.calls } s := by
  refine ⟨fun hopen hd => List.mem_append_right _ (h.1 hopen hd), fun hl => ?_⟩
  obtain ⟨hcall, hgone⟩ := h.2 hl
  refine ⟨List.mem_append_right _ hcall, ?_⟩
  rw [channels_cons, List.mem_append]
  exact not_or_intro ho hgone

theorem checkSlot_served {rs : Checked C (List (Option (ClientSlot C)))} (hp : p.stuck = false)
    (hr : s.Lost currentTime → p.ShutdownReturns s.clientChannel (a.walk s.clientChannel))
    (hrs : s.clientChannel ∉ channels rs.slots) :
    Served currentTime
      { rs with
        slots := (p.checkSlot currentTime a (some s)).slots :: rs.slots
        calls := (p.checkSlot currentTime a (some s)).calls ++ rs.calls } s := by
  refine ⟨fun hopen hd => List.mem_append_left _ (checkSlot_pings hopen hd), fun hl => ?_⟩
  obtain ⟨-, hcall, hslot⟩ := checkSlot_lost (a := a) (p := p) hl
  refine ⟨List.mem_append_left _ hcall, ?_⟩
  rw [(shutdown_returns_iff hp _ _).mpr (hr hl), if_neg Bool.false_ne_true] at hslot
  rw [channels_cons, hslot]
  exact hrs

theorem checkSlots_served (hn : (channels slots).Nodup) (hp : p.stuck = false)
    (hr : p.Returns currentTime a slots) :
    ∀ s, some s ∈ slots → Served currentTime (p.checkSlots currentTime a slots) s := by
  induction slots generalizing p with
  | nil => exact fun s hs => absurd hs List.not_mem_nil
  | cons o ss ih =>
    have hhead : ∀ s ∈ o, s.Lost currentTime → p.ShutdownReturns s.clientChannel (a.walk s.clientChannel) := by
      rintro s rfl
      exact hr s List.mem_cons_self
    obtain ⟨hstuck, hreturns⟩ := checkSlot_returns hn hp hhead
    rw [channels_cons, List.nodup_append] at hn
    obtain ⟨-, htail, hdisjoint⟩ := hn
    rw [checkSlots_cons hstuck]
    intro s hs
    rcases List.mem_cons.mp hs with rfl | hs
    · refine checkSlot_served hp (hhead s rfl) fun hmem => ?_
      exact hdisjoint _ (List.mem_singleton_self _) _ ((checkSlots_channels _ ss).subset hmem) rfl
    · refine (ih htail hstuck (hreturns.mpr hr.tail) s hs).of_rest fun hmem => ?_
      exact hdisjoint _ ((checkSlot_channels o).subset hmem) _ (mem_channels hs) rfl

theorem checkSlots_keeps_lost (hn : (channels slots).Nodup) (hp : p.stuck = false)
    (hr : ¬ p.Returns currentTime a slots) :
    ∃ s, some s ∈ slots ∧ s.Lost currentTime ∧
      s.clientChannel ∈ channels (p.checkSlots currentTime a slots).slots := by
  induction slots generalizing p with
  | nil => exact absurd (fun s hs => absurd hs List.not_mem_nil) hr
  | cons o ss ih =>
    by_cases hhead : ∀ s ∈ o, s.Lost currentTime →
        p.ShutdownReturns s.clientChannel (a.walk s.clientChannel)
    · obtain ⟨hstuck, hreturns⟩ := checkSlot_returns hn hp hhead
      have htail : ¬ p.Returns currentTime a ss := by
        intro h
        refine hr fun s hs => ?_
        rcases List.mem_cons.mp hs with rfl | hs
        · exact hhead s rfl
        · exact h s hs
      rw [channels_cons, List.nodup_append] at hn
      obtain ⟨s, hs, hl, hmem⟩ := ih hn.2.1 hstuck fun h => htail (hreturns.mp h)
      refine ⟨s, List.mem_cons_of_mem _ hs, hl, ?_⟩
      rw [checkSlots_cons hstuck, channels_cons]
      exact List.mem_append_right _ hmem
    · push Not at hhead
      obtain ⟨s, rfl, hl, hno⟩ := hhead
      obtain ⟨hprovider, -, hslot⟩ := checkSlot_lost (a := a) (p := p) hl
      have hstuck : (p.shutdownClientConnection s.clientChannel (a.walk s.clientChannel)).stuck = true := by
        rw [← shutdown_returns_iff hp] at hno
        simpa using hno
      refine ⟨s, List.mem_cons_self, hl, ?_⟩
      rw [checkSlots_stuck (hprovider ▸ hstuck), channels_cons, hslot, if_pos hstuck]
      exact List.mem_append_left _ (List.mem_singleton_self _)

theorem checkSlots_served_iff (hn : (channels slots).Nodup) (hp : p.stuck = false) :
    (∀ s, some s ∈ slots → Served currentTime (p.checkSlots currentTime a slots) s) ↔
      p.Returns currentTime a slots := by
  refine ⟨fun hall => ?_, checkSlots_served hn hp⟩
  by_contra hr
  obtain ⟨s, hs, hl, hmem⟩ := checkSlots_keeps_lost hn hp hr
  exact ((hall s hs).2 hl).2 hmem

end UPAProvider

end

end RmdsBridge
