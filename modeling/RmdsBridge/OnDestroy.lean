import RmdsBridge.DestroySteps

namespace RmdsBridge

namespace BridgeCallbacks

variable {s : BridgeCallbacks} {b : ℕ} {c : BridgeCallback}

def destroyWaits (s : BridgeCallbacks) (b : ℕ) : ℕ :=
  (s.queues (s.queueOf b)).count (.onDestroy b) + s.destroyEvents.count (.onDestroy b)

theorem Kept.once (h : s.Kept) (hb : b ∈ s.destroyed) :
    s.calls.count (.onDestroy b) + s.destroyWaits b = 1 := by
  have hcount := (h.ended b hb).count
  unfold timeline at hcount
  rw [List.count_filter (by simp [BridgeCallback.bridge]), List.count_append, List.count_append] at hcount
  rw [← hcount, destroyWaits, Nat.add_assoc]

theorem Kept.never_before (h : s.Kept) (hb : .onDestroy b ∈ s.calls) : b ∈ s.destroyed := by
  by_contra hd
  exact h.live b hd (mem_timeline.mpr ⟨.inl hb, rfl⟩)

theorem Kept.last (h : s.Kept) {calls calls' : List BridgeCallback}
    (heq : s.calls = calls ++ .onDestroy b :: calls') (hc : c ∈ calls') : c.bridge ≠ b := by
  intro hcb
  have hended := h.ended b (h.never_before (by simp [heq]))
  unfold timeline at hended
  rw [heq, List.append_assoc, List.append_assoc, List.cons_append, List.filter_append,
    List.filter_cons_of_pos (by simp [BridgeCallback.bridge])] at hended
  have hnil := hended.rest_eq_nil
  rw [List.filter_eq_nil_iff] at hnil
  exact hnil c (List.mem_append_left _ hc) (by simpa using hcb)

def work : List (ℕ × ℕ) → ℕ
  | [] => 0
  | d :: requests => d.1 + 1 + work requests

theorem work_decrease (requests : List (ℕ × ℕ)) :
    work (requests.map fun d => (d.1 - 1, d.2)) ≤ work requests := by
  induction requests with
  | nil => exact le_refl _
  | cons d requests ih =>
    simp only [List.map_cons, work]
    omega

theorem dispatch_work (h : s.Kept) (o : SendOutcome) (hs : s.destroyRequests ≠ []) :
    work (s.dispatch o).destroyRequests < work s.destroyRequests := by
  unfold dispatch
  split
  case h_1 b requests heq =>
    rw [heq]
    simp [enqueueEvent, work]
  case h_2 _ hne =>
    have hr := h.subscribed.keep (e := .dispatch o) trivial
    obtain ⟨-, -, hrequests, -⟩ := subscriberStep_kept h (e := .dispatch o) hr fun he => by cases he
    cases hd : s.destroyRequests with
    | nil => exact absurd hd hs
    | cons d requests =>
      obtain ⟨ahead, b⟩ := d
      have hpos : ahead ≠ 0 := by
        rintro rfl
        exact hne b requests hd
      have hle := work_decrease requests
      simp only [List.map_cons, work] at hle ⊢
      omega

theorem dispatch_all (h : s.Kept) :
    ∃ m, ∃ s', Runs.run step s (List.replicate m (.subscriber (.dispatch .sent))) = s' ∧ s'.Kept ∧
      s'.queueOf = s.queueOf ∧ s'.destroyed = s.destroyed ∧ s'.destroyRequests = [] := by
  induction hn : work s.destroyRequests using Nat.strong_induction_on generalizing s with
  | _ n ih =>
    by_cases hs : s.destroyRequests = []
    · exact ⟨0, s, rfl, h, rfl, rfl, hs⟩
    · obtain ⟨hkept, hqueueOf, hdestroyed⟩ := dispatch_kept h .sent
      have hlt := dispatch_work h .sent hs
      obtain ⟨m, s', hrun, hkept', hqueueOf', hdestroyed', hnil⟩ := ih _ (hn ▸ hlt) hkept rfl
      exact ⟨m + 1, s', hrun, hkept', hqueueOf'.trans hqueueOf, hdestroyed'.trans hdestroyed, hnil⟩

theorem dispatchQueue_all (h : s.Kept) (q : ℕ) :
    ∃ n, ∃ s', Runs.run step s (List.replicate n (.dispatchQueue q)) = s' ∧ s'.Kept ∧
      s'.queueOf = s.queueOf ∧ s'.destroyed = s.destroyed ∧ s'.destroyRequests = s.destroyRequests ∧
      s'.queues q = [] := by
  induction hq : s.queues q generalizing s with
  | nil => exact ⟨0, s, rfl, h, rfl, rfl, rfl, hq⟩
  | cons c cs ih =>
    have hnext : s.dispatchQueue q = { s with queues := Function.update s.queues q cs }.call c := by
      unfold dispatchQueue
      rw [hq]
    have hkept := dispatchQueue_kept h q
    rw [hnext] at hkept
    obtain ⟨n, s', hrun, hkept', hqueueOf, hdestroyed, hrequests, hnil⟩ :=
      ih hkept (Function.update_self ..)
    refine ⟨n + 1, s', ?_, hkept', hqueueOf, hdestroyed, hrequests, hnil⟩
    rw [List.replicate_succ, Runs.run_cons]
    exact (congrArg (Runs.run step · _) hnext).trans hrun

theorem Kept.onDestroy_called (h : s.Kept) (hb : b ∈ s.destroyed) :
    ∃ m n, (Runs.run step s (List.replicate m (.subscriber (.dispatch .sent)) ++
      List.replicate n (.dispatchQueue (s.queueOf b)))).calls.count (.onDestroy b) = 1 := by
  obtain ⟨m, s₁, hrun₁, hkept₁, hqueueOf₁, hdestroyed₁, hnil₁⟩ := dispatch_all h
  obtain ⟨n, s₂, hrun₂, hkept₂, hqueueOf₂, hdestroyed₂, hrequests₂, hnil₂⟩ :=
    dispatchQueue_all hkept₁ (s.queueOf b)
  refine ⟨m, n, ?_⟩
  have hb₂ : b ∈ s₂.destroyed := by rwa [hdestroyed₂, hdestroyed₁]
  have honce := hkept₂.once hb₂
  have hwaits : s₂.destroyWaits b = 0 := by
    unfold destroyWaits destroyEvents
    rw [hqueueOf₂, hqueueOf₁, hnil₂, hrequests₂, hnil₁]
    rfl
  rw [Runs.run_append, hrun₁, hrun₂]
  omega

structure OnDestroyLast (s : BridgeCallbacks) : Prop where
  never_before : ∀ b, .onDestroy b ∈ s.calls → b ∈ s.destroyed
  once : ∀ b ∈ s.destroyed, s.calls.count (.onDestroy b) + s.destroyWaits b = 1
  called : ∀ b ∈ s.destroyed, ∃ m n,
    (Runs.run step s (List.replicate m (.subscriber (.dispatch .sent)) ++
      List.replicate n (.dispatchQueue (s.queueOf b)))).calls.count (.onDestroy b) = 1
  last : ∀ b calls calls', s.calls = calls ++ .onDestroy b :: calls' → ∀ c ∈ calls', c.bridge ≠ b

theorem Kept.onDestroyLast (h : s.Kept) : s.OnDestroyLast where
  never_before _ hb := h.never_before hb
  once _ hb := h.once hb
  called _ hb := h.onDestroy_called hb
  last _ _ _ heq _ hc := h.last heq hc

theorem start_kept (asyncMessaging : Bool) (queueOf : ℕ → ℕ) (configDomain : String → String)
    (config : TransportConfig) : (start asyncMessaging queueOf configDomain config).Kept where
  subscribed := by
    refine ⟨Removals.start_kept configDomain config, fun u hu => absurd rfl hu, fun b u u' hb => ?_,
      fun b hb => absurd hb (Finset.notMem_empty b)⟩
    exact absurd hb List.not_mem_nil
  queued q c hc := absurd hc List.not_mem_nil
  live b _ hb := absurd hb List.not_mem_nil
  ended b hb := absurd hb (Finset.notMem_empty b)

def destroyedPending : List BridgeEvent :=
  [.subscriber (.addSubscription "S" "A" 0), .subscriber (.removeSubscription 0),
    .subscriber (.connectionNotification true true), .subscriber (.loginResponse true),
    .subscriber (.sourceDirectoryRefreshComplete true), .subscriber (.dictionaryUpdate true),
    .subscriber .processPendingSubscriptions, .subscriber .processPending]

theorem destroyed_pending_called :
    ¬ ∀ (asyncMessaging : Bool) (queueOf : ℕ → ℕ) (configDomain : String → String)
      (config : TransportConfig) (events : List BridgeEvent),
      Runs.Always step OnDestroyLast (start asyncMessaging queueOf configDomain config) events := by
  intro h
  have hend := Runs.always_iff_run.mp (h false (fun _ => 0) (fun _ => "any") {} destroyedPending)
    destroyedPending (List.prefix_refl _)
  have hcalls : (Runs.run step (start false (fun _ => 0) (fun _ => "any") {}) destroyedPending).calls =
      [.onDestroy 0, .onError 0] := by
    decide +kernel
  exact hend.last 0 [] [.onError 0] hcalls (.onError 0) List.mem_cons_self rfl

/-- In runs that destroy each subscription where it listens, or when nothing of it is left, `onDestroy` is
called once for each and last. -/
theorem on_destroy_once_and_last (asyncMessaging : Bool) (queueOf : ℕ → ℕ)
    (configDomain : String → String) (config : TransportConfig) (events : List BridgeEvent)
    (h : Runs.Guarded step Admissible (start asyncMessaging queueOf configDomain config) events) :
    Runs.Always step OnDestroyLast (start asyncMessaging queueOf configDomain config) events := by
  have hstart := start_kept asyncMessaging queueOf configDomain config
  have halways := h.always (I := Kept) (fun _ _ hkept ho => step_kept hkept ho) hstart
  exact halways.mono fun _ hkept => hkept.onDestroyLast

def destroyedListener : List BridgeEvent :=
  [.subscriber (.connectionNotification true true), .subscriber (.loginResponse true),
    .subscriber (.sourceDirectoryUpdate 1 "S" true), .subscriber (.sourceDirectoryRefreshComplete true),
    .subscriber (.dictionaryUpdate true), .subscriber (.addSubscription "S" "A" 0),
    .subscriber .processPendingSubscriptions, .subscriber .processPending, .subscriber (.dispatch .sent),
    .subscriber (.removeSubscription 0), .subscriber (.dispatch .sent), .dispatchQueue 0]

theorem on_destroy_example :
    Runs.Always step OnDestroyLast (start true (fun _ => 0) (fun _ => "any") {}) destroyedListener :=
  on_destroy_once_and_last true (fun _ => 0) (fun _ => "any") {} destroyedListener (by decide +kernel)

end BridgeCallbacks

end RmdsBridge
