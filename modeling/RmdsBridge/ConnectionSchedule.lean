import Mathlib.Algebra.Order.BigOperators.Group.List
import Mathlib.Algebra.Order.Group.Nat
import RmdsBridge.ConnectionPasses

namespace RmdsBridge

open TextTokens PassStreams

namespace RMDSConnectionConfig

def bound (c : RMDSConnectionConfig) : ℕ :=
  2 * ((c.currRetrysched :: c.nextRetryscheds).map fun i => c.hosts.length * attempts i).sum

structure FollowsSchedule (c : RMDSConnectionConfig) : Prop where
  reads : c.reads = documentedPasses (hosts_ne_nil (c := c)) c.currRetrysched c.nextRetryscheds
  again : ∀ host ∈ c.hosts, ∀ k, ∃ m, k ≤ m ∧ m < k + c.bound ∧ (c.reads.get m).1 = host

structure CountsDown (c : RMDSConnectionConfig) : Prop where
  hosts : ∀ i ∈ c.currRetrysched :: c.nextRetryscheds, i.retry = 0 → HostsEqual c.hosts
  delays : (c.currRetrysched :: c.nextRetryscheds).Pairwise fun i j => i.retry = 0 → j.delay = i.delay

theorem documented_again (c : RMDSConnectionConfig) {host : Host} (hhost : host ∈ c.hosts) (k : ℕ) :
    ∃ m, k ≤ m ∧ m < k + c.bound ∧
      ((documentedPasses (hosts_ne_nil (c := c)) c.currRetrysched c.nextRetryscheds).get m).1 = host := by
  refine passes_again (p := fun x : Host × UInt32 => x.1 = host) (fun j hj => ?_) (fun j _ => ?_) k
  · rw [block_length]
    exact List.single_le_sum (fun _ _ => Nat.zero_le _) _ (List.mem_map_of_mem hj)
  · refine ⟨(host, j.delay), List.mem_flatMap.mpr ⟨host, hhost, ?_⟩, rfl⟩
    exact List.mem_replicate.mpr ⟨Nat.ne_of_gt (attempts_pos j), rfl⟩

theorem start_follows_iff (host : Host) (others : List Host) (item : Retrysched) (items : List Retrysched) :
    (start host others item items).FollowsSchedule ↔ (start host others item items).CountsDown := by
  have hiff := @passes_eq_iff (host :: others) (List.cons_ne_nil _ _) item items
  constructor
  · intro h
    obtain ⟨hhosts, hdelays⟩ := hiff.mp (start_reads.symm.trans h.reads)
    exact ⟨hhosts, hdelays⟩
  · intro h
    have hreads := start_reads.trans (hiff.mpr ⟨h.hosts, h.delays⟩)
    refine ⟨hreads, fun host' hhost k => ?_⟩
    rw [hreads]
    exact documented_again (start host others item items) hhost k

theorem create_start {hosts retrysched : List Char} {c : RMDSConnectionConfig}
    (h : create hosts retrysched = some c) : ∃ host others item items, c = start host others item items := by
  obtain ⟨hs, -, h⟩ := Option.bind_eq_some_iff.mp h
  obtain ⟨is, -, h⟩ := Option.bind_eq_some_iff.mp h
  split at h
  · rename_i host others item items _ _
    exact ⟨host, others, item, items, (Option.some.inj h).symm⟩
  · cases h

theorem schedule_followed_iff (hosts retrysched : List Char) (c : RMDSConnectionConfig)
    (h : create hosts retrysched = some c) : c.FollowsSchedule ↔ c.CountsDown := by
  obtain ⟨host, others, item, items, rfl⟩ := create_start h
  exact start_follows_iff host others item items

def twoHosts : RMDSConnectionConfig :=
  start ⟨['a'], ['1', '4', '0', '0', '2']⟩ [⟨['b'], ['1', '4', '0', '0', '2']⟩] ⟨5, 2⟩ []

theorem twoHosts_follows_iff : twoHosts.FollowsSchedule ↔ twoHosts.CountsDown :=
  schedule_followed_iff ['a', ',', 'b'] ['5', '(', '2', ')'] twoHosts rfl

theorem default_schedule_not_followed :
    ¬ ∀ (hosts retrysched : List Char) (c : RMDSConnectionConfig), create hosts retrysched = some c →
      c.FollowsSchedule := by
  intro h
  have hfollows := h ['a', ',', 'b'] [] _ rfl
  have hcounts := (start_follows_iff _ _ _ _).mp hfollows
  have hequal := hcounts.hosts ⟨0, 0⟩ List.mem_cons_self rfl
  cases hequal _ List.mem_cons_self _ (List.mem_cons_of_mem _ List.mem_cons_self)

end RMDSConnectionConfig

end RmdsBridge
