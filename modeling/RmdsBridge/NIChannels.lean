import RmdsBridge.NIPublisher
import RmdsBridge.Runs

namespace RmdsBridge

namespace RMDSNIPublisher

variable {C : Type}

def item (p : RMDSNIPublisher C) (symbol : String) : Option (UPAPublisherItem C) :=
  p.source.getItem symbol

def LoggedIn (p : RMDSNIPublisher C) : Prop :=
  p.connected = true ∧ p.publisherState = .sendingsourcedirectory

def Drops (p : RMDSNIPublisher C) (m : LoginMsg) : Prop :=
  let o := p.niProvider.login.processLoginResponse m
  o.succeeded = false ∧ (o.login.isClosed = true ∨ o.login.isClosedRecoverable = true)

def LogsIn (p : RMDSNIPublisher C) (m : LoginMsg) : Prop :=
  p.connected = true ∧ (p.niProvider.login.processLoginResponse m).notified = some true

instance (p : RMDSNIPublisher C) (m : LoginMsg) : Decidable (p.Drops m) :=
  inferInstanceAs (Decidable (_ ∧ (_ ∨ _)))

def noted (p : RMDSNIPublisher C) (m : LoginMsg) : RMDSNIPublisher C :=
  let o := p.niProvider.login.processLoginResponse m
  let p := { p with niProvider := { p.niProvider with login := o.login } }
  o.notified.elim p p.loginResponse

variable {p : RMDSNIPublisher C}

theorem noted_eq (p : RMDSNIPublisher C) (m : LoginMsg) : ∃ l st, p.noted m =
    { p with publisherState := st, niProvider := { p.niProvider with login := l } } := by
  cases hn : (p.niProvider.login.processLoginResponse m).notified with
  | none =>
    simp only [noted, hn]
    exact ⟨_, _, rfl⟩
  | some b =>
    simp only [noted, hn]
    exact ⟨_, _, rfl⟩

theorem loggedIn_noted {m : LoginMsg} : (p.noted m).LoggedIn ↔
    p.LogsIn m ∨ (p.niProvider.login.processLoginResponse m).notified = none ∧ p.LoggedIn := by
  cases hn : (p.niProvider.login.processLoginResponse m).notified with
  | none => simp [noted, LogsIn, LoggedIn, hn]
  | some b => cases hc : p.connected <;> cases b <;> simp [noted, LogsIn, LoggedIn, loginResponse, hn, hc]

variable [DecidableEq C]

theorem processLogin_eq (p : RMDSNIPublisher C) (m : LoginMsg) :
    p.processLogin m = if p.Drops m then (p.noted m).recoverConnection else p.noted m := by
  apply if_congr _ rfl rfl
  rw [Bool.not_eq_true, Drops]

theorem createPublisher_old {symbol : String} {i : UPAPublisherItem C} (h : p.item symbol = some i) :
    p.createPublisher symbol = p := by
  rw [item] at h
  rw [createPublisher, h]

theorem createPublisher_new {symbol : String} (h : p.item symbol = none) :
    p.createPublisher symbol = { p with
      source := p.source.setItem symbol (.create p.getChannel p.nextNIStreamId)
      nextNIStreamId := p.nextNIStreamId - 1 } := by
  rw [item] at h
  rw [createPublisher, h]
  simp only [RMDSPublisherSource.addItem, h]

theorem item_createPublisher {symbol : String} (h : p.item symbol = none) (symbol' : String) :
    (p.createPublisher symbol).item symbol' =
      if symbol' = symbol then some (.create p.getChannel p.nextNIStreamId) else p.item symbol' := by
  rw [createPublisher_new h]
  exact UnorderedMap.find_insert _ _ _ _

theorem create_entries (chnl : C) (streamId : ℤ) :
    (UPAPublisherItem.create (some chnl) streamId).channelMap.entries = [⟨chnl, [streamId]⟩] := rfl

end RMDSNIPublisher

structure NIItems (C : Type) where
  publisher : RMDSNIPublisher C
  own : String → ℤ := fun _ => 0

namespace NIItems

variable {C : Type}

def NoChannels (s : NIItems C) : Prop :=
  ∀ symbol i, s.publisher.item symbol = some i → i.hasChannels = false

def AllChannels (s : NIItems C) : Prop :=
  ∀ symbol i, s.publisher.item symbol = some i → i.hasChannels = true

def Admissible (s : NIItems C) (e : NIEvent C) : Prop :=
  s.publisher.Possible e →
    match e with
    | .connect _ _ | .connectFailed | .initialised _ => True
    | .login m => (s.publisher.Drops m → s.NoChannels) ∧
        (¬ s.publisher.Drops m → s.publisher.LogsIn m → s.AllChannels)
    | .recover | .exit _ => s.NoChannels
    | .createPublisher symbol => s.publisher.item symbol = none →
        ∀ c ∈ s.publisher.getChannel, c ∉ s.publisher.closedChannels

structure Kept (s : NIItems C) : Prop where
  held : ∀ symbol i, s.publisher.item symbol = some i → i.channelMap.entries = [] ∨
    ∃ c, s.publisher.getChannel = some c ∧ c ∉ s.publisher.closedChannels ∧
      i.channelMap.entries = [⟨c, [s.own symbol]⟩]
  all : s.publisher.LoggedIn → s.AllChannels
  recovering : s.publisher.niProvider.shouldRecoverConnection = true → s.publisher.connected = false
  attached : s.publisher.connected = true → s.publisher.getChannel ≠ none
  stopped : s.publisher.niProvider.runThread = false →
    ∀ c ∈ s.publisher.getChannel, c ∈ s.publisher.closedChannels

def start (sourceName : String) : NIItems C where
  publisher := { source := { name := sourceName } }

variable {s : NIItems C}

theorem hasChannels_false_iff {i : UPAPublisherItem C} :
    i.hasChannels = false ↔ i.channelMap.entries = [] := by
  simp [UPAPublisherItem.hasChannels]

theorem Kept.noChannels (h : s.Kept)
    (hc : ∀ c ∈ s.publisher.getChannel, c ∈ s.publisher.closedChannels) : s.NoChannels := by
  intro symbol i hi
  rw [hasChannels_false_iff]
  rcases h.held symbol i hi with he | ⟨c, hc', hopen, -⟩
  · exact he
  · exact absurd (hc c hc') hopen

variable {p : RMDSNIPublisher C} {own : String → ℤ}

theorem kept_of_off (hno : NoChannels ⟨p, own⟩) (hoff : p.connected = false)
    (hstop : p.niProvider.runThread = false → ∀ c ∈ p.getChannel, c ∈ p.closedChannels) :
    Kept ⟨p, own⟩ where
  held symbol i hi := .inl (hasChannels_false_iff.mp (hno symbol i hi))
  all hl := by cases hoff.symm.trans hl.1
  recovering _ := hoff
  attached hc := by cases hoff.symm.trans hc
  stopped := hstop

theorem kept_connectFailed (h : Kept ⟨p, own⟩) (hp : p.Possible .connectFailed) :
    Kept ⟨p.connectFailed, own⟩ := by
  obtain ⟨hrecover, hchannel⟩ := hp
  have hno : NoChannels ⟨p, own⟩ := by
    apply h.noChannels
    rcases hchannel with hnone | hstop
    · intro c hc
      cases hnone.symm.trans hc
    · exact h.stopped hstop
  apply kept_of_off
  · exact hno
  · exact h.recovering hrecover
  · intro _ c hc
    cases hc

theorem kept_channelInitialised {requestLogin : Bool} (h : Kept ⟨p, own⟩)
    (hp : p.Possible (.initialised requestLogin)) :
    Kept ⟨p.channelInitialised requestLogin, own⟩ := by
  obtain ⟨hrun, hchannel, -⟩ := hp
  constructor
  · exact h.held
  · rintro ⟨-, hstate⟩
    cases requestLogin <;> cases hstate
  · intro hrecover
    cases hrecover
  · intro _
    exact hchannel
  · intro hstop
    cases hrun.symm.trans hstop

theorem kept_noted {m : LoginMsg} (h : Kept ⟨p, own⟩) (hall : p.LogsIn m → AllChannels ⟨p, own⟩) :
    Kept ⟨p.noted m, own⟩ := by
  have hlogged := @RMDSNIPublisher.loggedIn_noted C p m
  obtain ⟨l, st, hq⟩ := p.noted_eq m
  rw [hq] at hlogged ⊢
  constructor
  · exact h.held
  · intro hl
    rcases hlogged.mp hl with hm | ⟨-, hm⟩
    · exact hall hm
    · exact h.all hm
  · exact h.recovering
  · exact h.attached
  · exact h.stopped

theorem noChannels_noted {m : LoginMsg} (h : NoChannels ⟨p, own⟩) : NoChannels ⟨p.noted m, own⟩ := by
  obtain ⟨l, st, hq⟩ := p.noted_eq m
  rw [hq]
  exact h

theorem kept_disconnected (h : Kept ⟨p, own⟩) : Kept ⟨p.connectionNotification false false, own⟩ where
  held := h.held
  all hl := by cases hl.1
  recovering _ := rfl
  attached hl := by cases hl
  stopped := h.stopped

theorem item_start {sourceName symbol : String} :
    (start sourceName : NIItems C).publisher.item symbol = none :=
  UnorderedMap.find_empty symbol

theorem start_kept (sourceName : String) : (start sourceName : NIItems C).Kept where
  held symbol i hi := by
    rw [item_start] at hi
    cases hi
  all hl := by cases hl.1
  recovering _ := rfl
  attached hl := by cases hl
  stopped hstop := by cases hstop

variable [DecidableEq C]

def step (s : NIItems C) (e : NIEvent C) : NIItems C where
  publisher := s.publisher.step e
  own :=
    match e with
    | .createPublisher symbol =>
      if s.publisher.item symbol = none then
        Function.update s.own symbol s.publisher.nextNIStreamId
      else s.own
    | _ => s.own

structure Follows (s : NIItems C) : Prop where
  current : s.publisher.LoggedIn → ∀ symbol i, s.publisher.item symbol = some i →
    ∃ c, s.publisher.getChannel = some c ∧ i.channelMap.entries = [⟨c, [s.own symbol]⟩]
  not_closed : ∀ symbol i, s.publisher.item symbol = some i → ∀ c ∈ s.publisher.closedChannels,
    i.channelMap.find c = none

theorem Kept.follows (h : s.Kept) : s.Follows where
  current hl symbol i hi := by
    rcases h.held symbol i hi with he | ⟨c, hc, -, he⟩
    · have := h.all hl symbol i hi
      simp [UPAPublisherItem.hasChannels, he] at this
    · exact ⟨c, hc, he⟩
  not_closed symbol i hi c hc := by
    rcases h.held symbol i hi with he | ⟨c', -, hopen, he⟩
    · exact UnorderedMap.find_of_entries_nil he c
    · apply UnorderedMap.find_of_entries_singleton_ne he
      rintro rfl
      exact hopen hc

theorem Kept.not_follows_of_closed {s' : NIItems C} (h : s.Kept) (hno : ¬ s.NoChannels)
    (hsource : s'.publisher.source = s.publisher.source)
    (hclosed : ∀ c ∈ s.publisher.getChannel, c ∈ s'.publisher.closedChannels) : ¬ s'.Follows := by
  simp only [NoChannels, not_forall, Bool.not_eq_false] at hno
  obtain ⟨symbol, i, hi, hhas⟩ := hno
  intro hf
  rcases h.held symbol i hi with he | ⟨c, hc, -, he⟩
  · simp [hasChannels_false_iff.mpr he] at hhas
  · have hi' : s'.publisher.item symbol = some i := by
      rw [RMDSNIPublisher.item, hsource]
      exact hi
    have hnone := hf.not_closed symbol i hi' c (hclosed c hc)
    rw [UnorderedMap.find_of_entries_singleton he] at hnone
    cases hnone

theorem not_follows_of_missing (hl : s.publisher.LoggedIn) (hall : ¬ s.AllChannels) : ¬ s.Follows := by
  simp only [AllChannels, not_forall, Bool.not_eq_true] at hall
  obtain ⟨symbol, i, hi, hhas⟩ := hall
  intro hf
  obtain ⟨c, -, he⟩ := hf.current hl symbol i hi
  simp [hasChannels_false_iff.mp hhas] at he

theorem kept_recovered (hno : NoChannels ⟨p, own⟩) : Kept ⟨p.recoverConnection, own⟩ := by
  apply kept_of_off
  · exact hno
  · rfl
  · intro _ c hc
    cases hc

theorem closed_recoverConnection : ∀ c ∈ p.getChannel, c ∈ p.recoverConnection.closedChannels := by
  intro c hc
  rw [Option.mem_def, RMDSNIPublisher.getChannel] at hc
  simp [RMDSNIPublisher.recoverConnection, RMDSNIPublisher.removeChannel, RMDSNIPublisher.getChannel,
    RMDSNIPublisher.connectionNotification, hc]

theorem closed_exitThread : ∀ c ∈ p.exitThread.getChannel, c ∈ p.exitThread.closedChannels := by
  intro c hc
  have hc : p.getChannel = some c := hc
  simp [RMDSNIPublisher.exitThread, RMDSNIPublisher.removeChannel, hc]

theorem kept_connect {chnl : C} {active : Bool} (h : Kept ⟨p, own⟩)
    (hp : p.Possible (.connect chnl active)) : Kept ⟨p.connect chnl active, own⟩ := by
  obtain ⟨hrun, hrecover, hnone⟩ := hp
  have hno : NoChannels ⟨p, own⟩ := by
    apply h.noChannels
    intro c hc
    cases hnone.symm.trans hc
  apply kept_of_off
  · exact hno
  · exact h.recovering hrecover
  · intro hstop
    cases hrun.symm.trans hstop

theorem kept_exitThread (h : Kept ⟨p, own⟩) (hno : NoChannels ⟨p, own⟩) :
    Kept ⟨p.exitThread, own⟩ where
  held symbol i hi := .inl (hasChannels_false_iff.mp (hno symbol i hi))
  all := h.all
  recovering := h.recovering
  attached := h.attached
  stopped _ := closed_exitThread

theorem kept_createPublisher {symbol : String} (h : Kept ⟨p, own⟩) (hnew : p.item symbol = none)
    (hopen : ∀ c ∈ p.getChannel, c ∉ p.closedChannels) :
    Kept ⟨p.createPublisher symbol, Function.update own symbol p.nextNIStreamId⟩ := by
  have hitem := RMDSNIPublisher.item_createPublisher hnew
  have heq := RMDSNIPublisher.createPublisher_new hnew
  constructor
  · intro symbol' i hi
    rw [hitem] at hi
    by_cases hs : symbol' = symbol
    · subst hs
      rw [if_pos rfl, Option.some.injEq] at hi
      subst hi
      rw [heq]
      cases hc : p.getChannel with
      | none => exact .inl rfl
      | some c =>
        refine .inr ⟨c, hc, hopen c hc, ?_⟩
        simp only [RMDSNIPublisher.create_entries, Function.update_self]
    · rw [if_neg hs] at hi
      have hh := h.held symbol' i hi
      rw [heq]
      simp only [Function.update_of_ne hs]
      exact hh
  · intro hl symbol' i hi
    rw [hitem] at hi
    rw [heq] at hl
    by_cases hs : symbol' = symbol
    · rw [if_pos hs, Option.some.injEq] at hi
      subst hi
      obtain ⟨c, hc⟩ := Option.ne_none_iff_exists'.mp (h.attached hl.1)
      rw [show p.getChannel = some c from hc]
      rfl
    · rw [if_neg hs] at hi
      exact h.all hl symbol' i hi
  · rw [heq]
    exact h.recovering
  · rw [heq]
    exact h.attached
  · rw [heq]
    exact h.stopped

theorem not_follows_of_created {symbol : String} {own' : String → ℤ} {c : C} (hnew : p.item symbol = none)
    (hc : c ∈ p.getChannel) (hclosed : c ∈ p.closedChannels) :
    ¬ Follows ⟨p.createPublisher symbol, own'⟩ := by
  intro hf
  have hc : p.getChannel = some c := hc
  have hitem := RMDSNIPublisher.item_createPublisher hnew symbol
  rw [if_pos rfl, hc] at hitem
  have hclosed' : c ∈ (p.createPublisher symbol).closedChannels := by
    rw [RMDSNIPublisher.createPublisher_new hnew]
    exact hclosed
  have hnone := hf.not_closed symbol _ hitem c hclosed'
  rw [UnorderedMap.find_of_entries_singleton (RMDSNIPublisher.create_entries c _)] at hnone
  cases hnone

theorem step_eq {e : NIEvent C} (hp : p.Possible e) :
    step ⟨p, own⟩ e = ⟨p.handle e, (step ⟨p, own⟩ e).own⟩ := by
  simp only [step, RMDSNIPublisher.step, if_pos hp]

theorem step_impossible {e : NIEvent C} (hp : ¬ p.Possible e) : step ⟨p, own⟩ e = ⟨p, own⟩ := by
  simp only [step, RMDSNIPublisher.step, if_neg hp]
  cases e with
  | createPublisher symbol => exact absurd trivial hp
  | _ => rfl

theorem Kept.step (h : s.Kept) (e : NIEvent C) (ha : s.Admissible e) : (s.step e).Kept := by
  obtain ⟨p, own⟩ := s
  by_cases hp : p.Possible e
  · have hok := ha hp
    rw [step_eq hp]
    cases e with
    | connect chnl active => exact kept_connect h hp
    | connectFailed => exact kept_connectFailed h hp
    | initialised requestLogin => exact kept_channelInitialised h hp
    | login m =>
      rw [RMDSNIPublisher.handle, RMDSNIPublisher.processLogin_eq]
      by_cases hd : p.Drops m
      · rw [if_pos hd]
        exact kept_recovered (noChannels_noted (hok.1 hd))
      · rw [if_neg hd]
        exact kept_noted h (hok.2 hd)
    | recover => exact kept_recovered hok
    | exit notified =>
      cases notified with
      | true => exact kept_exitThread (kept_disconnected h) hok
      | false => exact kept_exitThread h hok
    | createPublisher symbol =>
      cases hi : p.item symbol with
      | some i =>
        simp only [RMDSNIPublisher.handle, RMDSNIPublisher.createPublisher_old hi, NIItems.step, hi,
          reduceCtorEq, if_false]
        exact h
      | none =>
        simp only [NIItems.step, hi, if_true]
        exact kept_createPublisher h hi (hok hi)
  · rw [step_impossible hp]
    exact h

theorem step_not_follows (h : s.Kept) (e : NIEvent C) (ha : ¬ s.Admissible e) :
    ¬ (s.step e).Follows := by
  obtain ⟨p, own⟩ := s
  simp only [Admissible, Classical.not_imp] at ha
  obtain ⟨hp, ha⟩ := ha
  rw [step_eq hp]
  cases e with
  | connect chnl active => exact absurd trivial ha
  | connectFailed => exact absurd trivial ha
  | initialised requestLogin => exact absurd trivial ha
  | login m =>
    rw [RMDSNIPublisher.handle, RMDSNIPublisher.processLogin_eq]
    obtain ⟨l, st, hq⟩ := p.noted_eq m
    by_cases hd : p.Drops m
    · have hno : ¬ NoChannels ⟨p, own⟩ := fun hno => ha ⟨fun _ => hno, fun hn => absurd hd hn⟩
      rw [if_pos hd, hq]
      exact h.not_follows_of_closed hno rfl closed_recoverConnection
    · have hlogged : p.LogsIn m ∧ ¬ AllChannels ⟨p, own⟩ := by
        by_contra hc
        exact ha ⟨fun hn => absurd hn hd, fun _ hl => not_not.mp fun hn => hc ⟨hl, hn⟩⟩
      rw [if_neg hd]
      exact not_follows_of_missing (RMDSNIPublisher.loggedIn_noted.mpr (.inl hlogged.1))
        (by rw [hq]; exact hlogged.2)
  | recover =>
    exact h.not_follows_of_closed ha rfl closed_recoverConnection
  | exit notified =>
    cases notified with
    | true =>
      exact h.not_follows_of_closed ha rfl
        (closed_exitThread (p := p.connectionNotification false false))
    | false => exact h.not_follows_of_closed ha rfl closed_exitThread
  | createPublisher symbol =>
    simp only [Classical.not_imp, not_forall, not_not] at ha
    obtain ⟨hi, c, hc, hclosed⟩ := ha
    exact not_follows_of_created hi hc hclosed

theorem ni_items_follow_iff (sourceName : String) (es : List (NIEvent C)) :
    Runs.Always NIItems.step NIItems.Follows (start sourceName) es ↔
      Runs.Guarded NIItems.step NIItems.Admissible (start sourceName) es :=
  Runs.always_iff_guarded (I := Kept) (fun _ h => h.follows) (fun _ e h => h.step e)
    (fun _ e h => step_not_follows h e) (start_kept sourceName)

/-- After a reconnect the publisher is logged in on the second channel and the item has the first. -/
theorem reconnected_item_keeps_channel :
    ¬ Runs.Always NIItems.step NIItems.Follows (start "SRC" : NIItems ℕ)
      [.connect 1 false, .initialised true, .login (.refresh true ⟨.open, .ok, false⟩ true),
        .createPublisher "X", .recover, .connect 2 false, .initialised true,
        .login (.refresh true ⟨.open, .ok, false⟩ true)] := by
  intro h
  have hrun := Runs.always_iff_run.mp h _ (List.prefix_refl _)
  obtain ⟨c, hc, he⟩ := hrun.current ⟨rfl, rfl⟩ "X" ⟨AList.insert 1 [-2] ∅⟩ rfl
  have hc2 : some 2 = some c := hc
  have he1 : [(⟨1, [-2]⟩ : Σ _ : ℕ, List ℤ)] = [⟨c, [-2]⟩] := he
  cases hc2
  cases he1

end NIItems

end RmdsBridge
