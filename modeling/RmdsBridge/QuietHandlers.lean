import RmdsBridge.ImageRequests
import RmdsBridge.ReceivedNumbers

namespace RmdsBridge

variable {P L : Type}

namespace Numbering

section

variable [DecidableEq L]

theorem call_receivers {n : Numbering P L} {async : Bool} {f : Handling P L → Handling P L}
    {ns : List (Notice L)} (hf : (f n.handling).notices = n.handling.notices ++ ns) (l : L) :
    (n.call async f).receivers l =
      (ns.filter (·.listener = l)).foldl (Receiver.take n.seqNum async) (n.receivers l) := by
  unfold call
  dsimp only
  rw [hf, List.drop_left, Delivery.foldl_deliver]

end

def standing (sub : UPASubscription L) : List L × Bool × Option L × Bool × Bool :=
  (sub.listeners, sub.isRefresh, sub.subscription, sub.sendRecap, sub.isSnapshot)

structure Quiet (n n' : Numbering P L) : Prop where
  standing_eq : standing n'.handling.sub = standing n.handling.sub
  snapShot : n'.handling.sub.snapShot = true → n.handling.sub.snapShot = true
  msgSeqNum : n'.msgSeqNum = n.msgSeqNum
  asyncMessaging : n'.asyncMessaging = n.asyncMessaging
  quiet : ∀ l, (n.receivers l).Quiet (n'.receivers l)
  other : ∀ l, l ∉ n.handling.sub.listeners → n'.receivers l = n.receivers l
  sync : n.asyncMessaging = false → ∀ l, (n'.receivers l).queue = (n.receivers l).queue

variable {n n' n'' : Numbering P L}

theorem Quiet.listeners (h : n.Quiet n') :
    n'.handling.sub.listeners = n.handling.sub.listeners := congrArg (·.1) h.standing_eq

theorem Quiet.isRefresh (h : n.Quiet n') :
    n'.handling.sub.isRefresh = n.handling.sub.isRefresh := congrArg (·.2.1) h.standing_eq

theorem Quiet.subscription (h : n.Quiet n') :
    n'.handling.sub.subscription = n.handling.sub.subscription := congrArg (·.2.2.1) h.standing_eq

theorem Quiet.sendRecap (h : n.Quiet n') :
    n'.handling.sub.sendRecap = n.handling.sub.sendRecap := congrArg (·.2.2.2.1) h.standing_eq

theorem Quiet.isSnapshot (h : n.Quiet n') :
    n'.handling.sub.isSnapshot = n.handling.sub.isSnapshot := congrArg (·.2.2.2.2) h.standing_eq

theorem Quiet.refl (n : Numbering P L) : n.Quiet n :=
  ⟨rfl, id, rfl, rfl, fun _ => .refl _, fun _ _ => rfl, fun _ _ => rfl⟩

theorem Quiet.trans (h : n.Quiet n') (h' : n'.Quiet n'') : n.Quiet n'' where
  standing_eq := h'.standing_eq.trans h.standing_eq
  snapShot hs := h.snapShot (h'.snapShot hs)
  msgSeqNum := h'.msgSeqNum.trans h.msgSeqNum
  asyncMessaging := h'.asyncMessaging.trans h.asyncMessaging
  quiet l := (h.quiet l).trans (h'.quiet l)
  other l hl := (h'.other l (h.listeners ▸ hl)).trans (h.other l hl)
  sync ha l := (h'.sync (h.asyncMessaging.trans ha) l).trans (h.sync ha l)

theorem setMsgNum_quiet (n : Numbering P L) : n.Quiet (n.setMsgNum true) :=
  ⟨rfl, id, rfl, rfl, fun _ => .refl _, fun _ _ => rfl, fun _ _ => rfl⟩

theorem clear_quiet (n : Numbering P L) : n.Quiet n.clear :=
  ⟨rfl, id, rfl, rfl, fun _ => .refl _, fun _ _ => rfl, fun _ _ => rfl⟩

def StatusCall (k : Option ℕ) : Notice L → Prop
  | .message _ t => t = .secStatus ∧ k = some 0
  | .status _ => False
  | .error .. | .quality .. => True

theorem StatusCall.take_quiet {k : Option ℕ} {x : Notice L} (hx : StatusCall k x) (async : Bool)
    (r : Receiver) : r.Quiet (r.take k async x) := by
  cases x with
  | message l t =>
    obtain ⟨rfl, rfl⟩ := hx
    exact r.onMessage_quiet async
  | status l => exact hx.elim
  | error l s => exact .refl r
  | quality l ok => exact .refl r

theorem foldl_take_quiet {k : Option ℕ} {ns : List (Notice L)} (hns : ∀ x ∈ ns, StatusCall k x)
    (async : Bool) (r : Receiver) : r.Quiet (ns.foldl (Receiver.take k async) r) := by
  induction ns generalizing r with
  | nil => exact .refl r
  | cons x ns ih =>
    obtain ⟨hx, hns⟩ := List.forall_mem_cons.mp hns
    exact (hx.take_quiet async r).trans (ih hns _)

theorem take_sync (k : Option ℕ) (r : Receiver) (x : Notice L) :
    (r.take k false x).queue = r.queue := by
  cases x with
  | message l t =>
    change (r.onMessage ⟨t, k⟩ false).queue = r.queue
    unfold Receiver.onMessage
    dsimp only
    split_ifs <;> first | rfl | contradiction
  | status l =>
    change r.onStatusMessage.queue = r.queue
    unfold Receiver.onStatusMessage
    split_ifs <;> rfl
  | error l s => rfl
  | quality l ok => rfl

theorem foldl_take_sync (k : Option ℕ) (ns : List (Notice L)) (r : Receiver) :
    (ns.foldl (Receiver.take k false) r).queue = r.queue := by
  induction ns generalizing r with
  | nil => rfl
  | cons x ns ih => exact (ih _).trans (take_sync k r x)

variable [DecidableEq L]

theorem call_other {n : Numbering P L} {async : Bool} {f : Handling P L → Handling P L}
    {ns : List (Notice L)} (hf : (f n.handling).notices = n.handling.notices ++ ns)
    (hl : ∀ x ∈ ns, x.listener ∈ n.handling.sub.listeners) (l : L)
    (hn : l ∉ n.handling.sub.listeners) : (n.call async f).receivers l = n.receivers l := by
  have hnone : ns.filter (·.listener = l) = [] := by
    rw [List.filter_eq_nil_iff]
    intro x hx he
    rw [decide_eq_true_iff] at he
    exact hn (he ▸ hl x hx)
  rw [call_receivers hf, hnone]
  rfl

theorem call_quiet {n : Numbering P L} {async : Bool} {f : Handling P L → Handling P L}
    {ns : List (Notice L)} (hf : (f n.handling).notices = n.handling.notices ++ ns)
    (hs : standing (f n.handling).sub = standing n.handling.sub)
    (hsnap : (f n.handling).sub.snapShot = true → n.handling.sub.snapShot = true)
    (hns : ∀ x ∈ ns, StatusCall n.seqNum x ∧ x.listener ∈ n.handling.sub.listeners)
    (ha : n.asyncMessaging = false → async = false) : n.Quiet (n.call async f) where
  standing_eq := hs
  snapShot := hsnap
  msgSeqNum := rfl
  asyncMessaging := rfl
  quiet l := by
    rw [call_receivers hf]
    exact foldl_take_quiet (fun x hx => (hns x (List.mem_of_mem_filter hx)).1) async _
  other := call_other hf fun x hx => (hns x hx).2
  sync hsync l := by
    rw [call_receivers hf, ha hsync]
    exact foldl_take_sync _ _ _

theorem call_silent {n : Numbering P L} {f : Handling P L → Handling P L}
    (hf : (f n.handling).notices = n.handling.notices)
    (hs : standing (f n.handling).sub = standing n.handling.sub)
    (hsnap : (f n.handling).sub.snapShot = true → n.handling.sub.snapShot = true) :
    n.Quiet (n.call false f) :=
  call_quiet (hf.trans (List.append_nil _).symm) hs hsnap (fun _ hx => absurd hx List.not_mem_nil)
    fun _ => rfl

omit [DecidableEq L] in
theorem notifyState_notices (h : Handling P L) (ok : Bool) :
    (h.notifyState ok).notices = h.notices ++
      ((if h.sub.sendAckMessages then h.sub.listeners.map fun l => .message l .secStatus else []) ++
        if h.sub.useCallbacks then h.sub.listeners.map fun l => .quality l ok else []) := by
  unfold Handling.notifyState Handling.notifyListenersMessage Handling.notify
  cases hack : h.sub.sendAckMessages <;> cases hcall : h.sub.useCallbacks <;> simp [hcall]

theorem notifyState_quiet (n : Numbering P L) (s : SubscriptionState) (ok : Bool) :
    n.Quiet (n.notifyState s ok) := by
  have hstate : n.Quiet (n.call false (·.setState s)) := call_silent rfl rfl id
  refine ((hstate.trans (setMsgNum_quiet _)).trans ?_).trans (clear_quiet _)
  obtain ⟨ns, hns⟩ := Handling.notifyState_eq (n.handling.setState s) ok
  refine call_quiet (notifyState_notices _ ok) ?_ ?_ ?_ id
  · exact (congrArg (fun h => standing h.sub) hns :)
  · intro hsnap
    exact (congrArg (fun h => h.sub.snapShot) hns :) ▸ hsnap
  · intro x hx
    rcases List.mem_append.mp hx with hx | hx
    · split_ifs at hx
      · obtain ⟨l, hl, rfl⟩ := List.mem_map.mp hx
        exact ⟨⟨rfl, rfl⟩, hl⟩
      · exact absurd hx List.not_mem_nil
    · split_ifs at hx
      · obtain ⟨l, hl, rfl⟩ := List.mem_map.mp hx
        exact ⟨trivial, hl⟩
      · exact absurd hx List.not_mem_nil

theorem setStale_quiet (n : Numbering P L) : n.Quiet n.setStale := by
  unfold setStale
  split_ifs
  · exact .refl n
  · exact n.notifyState_quiet _ _

theorem setLive_quiet (n : Numbering P L) : n.Quiet n.setLive := by
  unfold setLive
  split_ifs
  · exact .refl n
  · exact n.notifyState_quiet _ _

theorem notifyListenersError_quiet (n : Numbering P L) (s : MamaStatus) :
    n.Quiet (n.notifyListenersError s) := by
  have hcalls : ∀ x ∈ n.handling.sub.listeners.map fun l => Notice.error l s,
      StatusCall n.seqNum x ∧ x.listener ∈ n.handling.sub.listeners := by
    intro x hx
    obtain ⟨l, hl, rfl⟩ := List.mem_map.mp hx
    exact ⟨trivial, hl⟩
  exact call_quiet rfl rfl id hcalls fun _ => rfl

theorem countLive_quiet (n : Numbering P L) : n.Quiet (n.call false (·.countLive)) :=
  call_silent rfl rfl id

omit [DecidableEq L] in
theorem Quiet.ite {p : Prop} [Decidable p] {x y : Bool × Numbering P L} (hx : n.Quiet x.2)
    (hy : n.Quiet y.2) : n.Quiet (if p then x else y).2 := by
  by_cases hp : p
  · rwa [if_pos hp]
  · rwa [if_neg hp]

theorem setRsslState_quiet {n : Numbering P L}
    (hsnap : n.handling.sub.snapShot = true → n.handling.sub.listeners = []) (s : RsslState) :
    n.Quiet (n.setRsslState s).2 := by
  have herror := n.notifyListenersError_quiet
  refine .ite (herror _) <| .ite (herror _) <| .ite (herror _) <| .ite (herror _) <| .ite ?_ <|
    .ite (herror _) <| .ite n.setStale_quiet <| .ite n.setLive_quiet <| .ite ?_ <|
    .ite n.countLive_quiet (.refl n)
  · change n.Quiet (if _ then _ else _)
    split_ifs with h
    · refine call_silent ?_ rfl id
      change n.handling.notices ++ n.handling.sub.listeners.map _ = _
      rw [hsnap h, List.map_nil, List.append_nil]
    · exact .refl n
  · change n.Quiet (if _ then _ else _)
    split_ifs
    · exact n.countLive_quiet
    · exact .refl n

theorem goLive_quiet (n : Numbering P L) (ds : RsslDataState) :
    n.Quiet (n.call false (·.goLive ds)) := by
  obtain ⟨st, ns, k, he⟩ := n.handling.goLive_stateOnly ds
  refine call_silent ?_ (congrArg (fun h => standing h.sub) he :) fun hs => ?_
  · unfold Handling.goLive
    split_ifs <;> rfl
  · exact (congrArg (fun h => h.sub.snapShot) he :) ▸ hs

omit [DecidableEq L] in
theorem completeSnapshot_standing (h : Handling P L) :
    h.completeSnapshot.notices = h.notices ∧ standing h.completeSnapshot.sub = standing h.sub ∧
      (h.completeSnapshot.sub.snapShot = true → h.sub.snapShot = true) := by
  unfold Handling.completeSnapshot
  split_ifs with hs
  · exact ⟨rfl, rfl, fun _ => hs⟩
  · exact ⟨rfl, rfl, id⟩

theorem completeSnapshot_quiet (n : Numbering P L) :
    n.Quiet (n.call false (·.completeSnapshot)) := by
  obtain ⟨hn, hs, hsnap⟩ := completeSnapshot_standing n.handling
  exact call_silent hn hs hsnap

section

variable [DecidableEq P]

theorem answerRefresh_quiet (this : P) (n : Numbering P L) :
    n.Quiet (n.call false (·.answerRefresh this)) := by
  apply call_silent
  all_goals
    unfold Handling.answerRefresh
    split_ifs
  all_goals first
    | rfl
    | exact id

theorem respondInactive_quiet (this : P) (n : Numbering P L) :
    n.Quiet (n.call false (·.respondInactive this)) := by
  apply call_silent
  all_goals
    unfold Handling.respondInactive
    split_ifs
  all_goals first
    | rfl
    | exact id

theorem gotResponse_quiet (this : P) (n : Numbering P L) :
    n.Quiet (n.call false (·.gotResponse this)) := call_silent rfl rfl id

end

end Numbering

end RmdsBridge
