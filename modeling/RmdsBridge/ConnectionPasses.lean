import RmdsBridge.ConnectionConfig

namespace RmdsBridge

open PassStreams

namespace RMDSConnectionConfig

def hosts (c : RMDSConnectionConfig) : List Host := c.firstHost :: c.otherHosts

def block (count : Retrysched → ℕ) (hosts : List Host) (item : Retrysched) : List (Host × UInt32) :=
  hosts.flatMap fun host => List.replicate (count item) (host, item.delay)

theorem block_ne_nil {count : Retrysched → ℕ} (hpos : ∀ i, 0 < count i) {hosts : List Host}
    (hne : hosts ≠ []) (item : Retrysched) : block count hosts item ≠ [] := by
  obtain ⟨host, hosts, rfl⟩ := List.exists_cons_of_ne_nil hne
  have h := Nat.ne_of_gt (hpos item)
  simp [block, h]

/-- How often the count-down makes a host be read: from 0 it goes through all the integers. -/
def countDown (retry : UInt32) : ℕ := if retry = 0 then 2 ^ 32 else retry.toNat

def attempts (item : Retrysched) : ℕ := max 1 item.retry.toNat

theorem countDown_pos (retry : UInt32) : 0 < countDown retry := by
  unfold countDown
  split_ifs with h
  · exact Nat.two_pow_pos 32
  · exact Nat.pos_of_ne_zero fun h0 => h (UInt32.toNat_inj.mp h0)

theorem countDown_one : countDown 1 = 1 := rfl

theorem countDown_sub {retry : UInt32} (h : retry ≠ 1) : countDown retry = countDown (retry - 1) + 1 := by
  by_cases h0 : retry = 0
  · subst h0
    rfl
  · have hpos : retry.toNat ≠ 0 := fun hn => h0 (UInt32.toNat_inj.mp hn)
    have hone : retry.toNat ≠ 1 := fun hn => h (UInt32.toNat_inj.mp hn)
    have hle : 1 ≤ retry := UInt32.le_iff_toNat_le.mpr (Nat.one_le_iff_ne_zero.mpr hpos)
    have hsub : (retry - 1).toNat = retry.toNat - 1 := UInt32.toNat_sub_of_le _ _ hle
    have hne : retry - 1 ≠ 0 := by
      intro hz
      rw [hz] at hsub
      change 0 = retry.toNat - 1 at hsub
      omega
    rw [countDown, if_neg h0, countDown, if_neg hne, hsub]
    omega

section

variable {c : RMDSConnectionConfig}

theorem hosts_ne_nil : c.hosts ≠ [] := List.cons_ne_nil _ _

def stream (c : RMDSConnectionConfig) (count : Retrysched → ℕ) (hpos : ∀ i, 0 < count i) :
    Stream' (Host × UInt32) :=
  passes (block count c.hosts) (block_ne_nil hpos hosts_ne_nil) c.currRetrysched c.nextRetryscheds

def countDowns (i : Retrysched) : ℕ := countDown i.retry

def remaining (c : RMDSConnectionConfig) : Stream' (Host × UInt32) :=
  List.replicate (countDown c.retries) c.current ++ₛ
    (block countDowns c.nextHosts c.currRetrysched ++ₛ
      follow (block countDowns c.hosts) (block_ne_nil (fun i => countDown_pos i.retry) hosts_ne_nil)
        c.currRetrysched c.nextRetryscheds)

theorem remaining_head : c.remaining.head = c.current := by
  obtain ⟨n, hn⟩ := Nat.exists_eq_succ_of_ne_zero (Nat.ne_of_gt (countDown_pos c.retries))
  unfold remaining
  rw [hn]
  rfl

theorem block_cons (count : Retrysched → ℕ) (host : Host) (hosts : List Host) (item : Retrysched) :
    block count (host :: hosts) item =
      List.replicate (count item) (host, item.delay) ++ block count hosts item := List.flatMap_cons

theorem remaining_tail : c.remaining.tail = c.next.remaining := by
  by_cases h1 : c.retries = 1
  · have htail : c.remaining.tail = block countDowns c.nextHosts c.currRetrysched ++ₛ
        follow (block countDowns c.hosts) (block_ne_nil (fun i => countDown_pos i.retry) hosts_ne_nil)
          c.currRetrysched c.nextRetryscheds := by
      unfold remaining
      rw [h1, countDown_one]
      rfl
    rw [htail]
    unfold next
    rw [if_pos h1]
    obtain ⟨firstHost, otherHosts, currHost, nextHosts, item, items, retries⟩ := c
    cases nextHosts with
    | cons host hosts =>
      dsimp only [remaining]
      rw [block_cons, Stream'.append_append_stream]
      rfl
    | nil =>
      cases items with
      | cons item' items =>
        dsimp only [remaining]
        rw [← Stream'.append_append_stream]
        exact passes_eq
      | nil =>
        dsimp only [remaining]
        rw [← Stream'.append_append_stream]
        exact passes_eq
  · unfold next
    rw [if_neg h1]
    unfold remaining
    rw [countDown_sub h1]
    rfl

theorem remaining_eq (c : RMDSConnectionConfig) : c.remaining = c.reads :=
  eq_corec (f := current) (g := next) (s := remaining) (fun _ => remaining_head)
    (fun _ => remaining_tail) c

end

variable {host : Host} {otherHosts : List Host} {item : Retrysched} {items : List Retrysched}

theorem start_reads : (start host otherHosts item items).reads =
    (start host otherHosts item items).stream countDowns fun i => countDown_pos i.retry := by
  rw [← remaining_eq]
  unfold stream
  rw [passes_eq]
  unfold remaining
  rw [← Stream'.append_append_stream]
  rfl

def Long (i : Retrysched) : Prop := i.retry = 0

theorem countDowns_eq {i : Retrysched} (h : ¬ Long i) : countDowns i = attempts i := by
  have hcount : countDown i.retry = i.retry.toNat := if_neg h
  have hpos := countDown_pos i.retry
  unfold countDowns attempts
  omega

theorem countDowns_long {i : Retrysched} (h : Long i) : countDowns i = 2 ^ 32 := by
  unfold countDowns
  rw [h]
  rfl

theorem attempts_long {i : Retrysched} (h : Long i) : attempts i = 1 := by
  unfold attempts
  rw [h]
  rfl

theorem block_congr {count count' : Retrysched → ℕ} {i : Retrysched} (h : count i = count' i)
    (hosts : List Host) :
    block count hosts i = block count' hosts i := by
  unfold block
  rw [h]

theorem block_length (count : Retrysched → ℕ) (hosts : List Host) (i : Retrysched) :
    (block count hosts i).length = hosts.length * count i := by
  simp [block, List.length_flatMap]

theorem mem_block {count : Retrysched → ℕ} {hosts : List Host} {i : Retrysched} {x : Host × UInt32}
    (h : x ∈ block count hosts i) : x.1 ∈ hosts ∧ x.2 = i.delay := by
  obtain ⟨host, hhost, hx⟩ := List.mem_flatMap.mp h
  rw [List.eq_of_mem_replicate hx]
  exact ⟨hhost, rfl⟩

theorem block_getElem? (count : Retrysched → ℕ) (hosts : List Host) (i : Retrysched) (hpos : 0 < count i)
    (k : ℕ) :
    (block count hosts i)[k]? = hosts[k / count i]?.map fun host => (host, i.delay) := by
  induction hosts generalizing k with
  | nil => simp [block]
  | cons host hosts ih =>
    rw [block_cons]
    by_cases hk : k < count i
    · rw [List.getElem?_append_left (by simpa using hk), Nat.div_eq_of_lt hk]
      simp [hk]
    · have hle := Nat.le_of_not_lt hk
      obtain ⟨m, rfl⟩ := Nat.exists_eq_add_of_le hle
      rw [List.getElem?_append_right (by simp)]
      rw [List.length_replicate, Nat.add_sub_cancel_left, ih, Nat.add_div_left m hpos]
      rfl

theorem attempts_le (i : Retrysched) : attempts i ≤ countDowns i := by
  by_cases h : Long i
  · rw [attempts_long h, countDowns_long h]
    exact Nat.one_le_two_pow
  · rw [countDowns_eq h]

theorem countDowns_pos (i : Retrysched) : 0 < countDowns i := countDown_pos i.retry

theorem attempts_pos (i : Retrysched) : 0 < attempts i := Nat.lt_of_lt_of_le Nat.one_pos (Nat.le_max_left _ _)

def HostsEqual (hosts : List Host) : Prop := ∀ host ∈ hosts, ∀ host' ∈ hosts, host = host'

theorem hostsEqual_of_div {hosts : List Host} {m : ℕ} (hm : 2 ≤ m)
    (h : ∀ k < hosts.length, hosts[k]? = hosts[k / m]?) : HostsEqual hosts := by
  have hfirst (k : ℕ) (hk : k < hosts.length) : hosts[k]? = hosts[0]? := by
    induction k using Nat.strong_induction_on with
    | _ k ih =>
      by_cases h0 : k = 0
      · rw [h0]
      · have hlt : k / m < k := Nat.div_lt_self (Nat.pos_of_ne_zero h0) hm
        rw [h k hk]
        exact ih (k / m) hlt (by omega)
  intro host hhost host' hhost'
  obtain ⟨k, hk, rfl⟩ := List.getElem_of_mem hhost
  obtain ⟨k', hk', rfl⟩ := List.getElem_of_mem hhost'
  have h1 := hfirst k hk
  rw [← hfirst k' hk', List.getElem?_eq_getElem hk, List.getElem?_eq_getElem hk'] at h1
  exact Option.some.inj h1

section

variable {hosts : List Host} (hne : hosts ≠ []) {i : Retrysched} {js : List Retrysched}

def codePasses (i : Retrysched) (js : List Retrysched) : Stream' (Host × UInt32) :=
  passes (block countDowns hosts) (block_ne_nil countDowns_pos hne) i js

def documentedPasses (i : Retrysched) (js : List Retrysched) : Stream' (Host × UInt32) :=
  passes (block attempts hosts) (block_ne_nil attempts_pos hne) i js

theorem get_passes {count : Retrysched → ℕ} (hpos : ∀ i, 0 < count i) {k : ℕ}
    (hk : k < hosts.length * count i) :
    some ((passes (block count hosts) (block_ne_nil hpos hne) i js).get k) =
      hosts[k / count i]?.map fun host => (host, i.delay) := by
  rw [← block_getElem? count hosts i (hpos i), passes_eq]
  rw [← block_length] at hk
  rw [Stream'.get_append_left _ _ _ hk, List.getElem?_eq_getElem hk]

theorem hostsEqual_of_passes (h : codePasses hne i js = documentedPasses hne i js) (hi : Long i) :
    HostsEqual hosts := by
  refine hostsEqual_of_div (m := 2 ^ 32) (by omega) fun k hk => ?_
  have hcode : k < hosts.length * countDowns i := by
    rw [countDowns_long hi]
    omega
  have hdoc : k < hosts.length * attempts i := by
    rw [attempts_long hi, Nat.mul_one]
    exact hk
  have hget := congrArg (fun s => some (Stream'.get s k)) h
  simp only [codePasses, documentedPasses] at hget
  rw [get_passes hne countDowns_pos hcode, get_passes hne attempts_pos hdoc, countDowns_long hi,
    attempts_long hi, Nat.div_one] at hget
  have hinj : Function.Injective fun host : Host => (host, i.delay) := fun _ _ he => congrArg Prod.fst he
  exact (Option.map_injective hinj hget).symm

theorem flatMap_length_le (hosts : List Host) (before : List Retrysched) :
    (before.flatMap (block attempts hosts)).length ≤ (before.flatMap (block countDowns hosts)).length := by
  induction before with
  | nil => exact le_rfl
  | cons j before ih =>
    simp only [List.flatMap_cons, List.length_append, block_length]
    exact Nat.add_le_add (Nat.mul_le_mul_left _ (attempts_le j)) ih

theorem passes_ne {before after : List Retrysched} {j : Retrysched} (hi : Long i)
    (hbefore : ∀ k ∈ before, k.delay = i.delay) (hj : j.delay ≠ i.delay) :
    codePasses hne i (before ++ j :: after) ≠ documentedPasses hne i (before ++ j :: after) := by
  intro h
  have hcode : codePasses hne i (before ++ j :: after) =
      (i :: before).flatMap (block countDowns hosts) ++ₛ codePasses hne j after := passes_append before j after
  have hdoc : documentedPasses hne i (before ++ j :: after) =
      (i :: before).flatMap (block attempts hosts) ++ₛ documentedPasses hne j after :=
    passes_append before j after
  -- the documented schedule comes to the other delay while the code is still at this one
  have hlt : ((i :: before).flatMap (block attempts hosts)).length <
      ((i :: before).flatMap (block countDowns hosts)).length := by
    have hle := flatMap_length_le hosts before
    have hpos := List.length_pos_iff.mpr hne
    simp only [List.flatMap_cons, List.length_append, block_length, attempts_long hi, countDowns_long hi]
    omega
  have hget := congrArg (fun s => Stream'.get s ((i :: before).flatMap (block attempts hosts)).length) h
  simp only [hcode, hdoc] at hget
  rw [Stream'.get_append_left _ _ _ hlt, Stream'.get_append_length] at hget
  have hsame : ∀ x ∈ (i :: before).flatMap (block countDowns hosts), x.2 = i.delay := by
    intro x hx
    obtain ⟨k, hk, hxk⟩ := List.mem_flatMap.mp hx
    rw [(mem_block hxk).2]
    rcases List.mem_cons.mp hk with rfl | hk
    · rfl
    · exact hbefore k hk
  have hfirst : ((documentedPasses hne j after).get 0).2 = j.delay := by
    have hpos : 0 < (block attempts hosts j).length := List.length_pos_iff.mpr (block_ne_nil attempts_pos hne j)
    unfold documentedPasses
    rw [passes_eq, Stream'.get_append_left _ _ _ hpos]
    exact (mem_block (List.getElem_mem hpos)).2
  rw [← hget] at hfirst
  exact hj (hfirst.symm.trans (hsame _ (List.getElem_mem hlt)))

theorem delays_of_passes (h : codePasses hne i js = documentedPasses hne i js) (hi : Long i) :
    ∀ j ∈ js, j.delay = i.delay := by
  cases hfind : js.find? fun j => j.delay ≠ i.delay with
  | none => simpa using List.find?_eq_none.mp hfind
  | some j =>
    obtain ⟨hj, before, after, rfl, hbefore⟩ := List.find?_eq_some_iff_append.mp hfind
    have hsame : ∀ k ∈ before, k.delay = i.delay := fun k hk => by simpa using hbefore k hk
    exact absurd h (passes_ne hne hi hsame (by simpa using hj))

theorem passes_of_long (hosts_eq : HostsEqual hosts) (hdelay : ∀ j ∈ js, j.delay = i.delay) :
    codePasses hne i js = documentedPasses hne i js := by
  obtain ⟨host, others, rfl⟩ := List.exists_cons_of_ne_nil hne
  have hconst (count : Retrysched → ℕ) : ∀ j ∈ i :: js, ∀ x ∈ block count (host :: others) j,
      x = (host, i.delay) := by
    intro j hj x hx
    obtain ⟨hhost, hd⟩ := mem_block hx
    have hji : j.delay = i.delay := by
      rcases List.mem_cons.mp hj with rfl | hj
      · rfl
      · exact hdelay j hj
    exact Prod.ext (hosts_eq _ hhost _ List.mem_cons_self) (hd.trans hji)
  unfold codePasses documentedPasses
  rw [passes_const (hconst countDowns), passes_const (hconst attempts)]

theorem code_iff_long (hi : Long i) : codePasses hne i js = documentedPasses hne i js ↔
    HostsEqual hosts ∧ ∀ j ∈ js, j.delay = i.delay := by
  constructor
  · exact fun h => ⟨hostsEqual_of_passes hne h hi, delays_of_passes hne h hi⟩
  · exact fun h => passes_of_long hne h.1 h.2

theorem passes_eq_iff : codePasses hne i js = documentedPasses hne i js ↔
    (∀ j ∈ i :: js, Long j → HostsEqual hosts) ∧
      (i :: js).Pairwise fun j k => Long j → k.delay = j.delay := by
  induction js generalizing i with
  | nil =>
    by_cases hi : Long i
    · simp [code_iff_long hne hi, hi]
    · have hblock := block_congr (countDowns_eq hi) hosts
      refine iff_of_true ?_ ⟨by simp [hi], List.pairwise_singleton _ _⟩
      have hcycle {l l' : List (Host × UInt32)} (hl : l ≠ []) (hl' : l' ≠ []) (h : l = l') :
          Stream'.cycle l hl = Stream'.cycle l' hl' := by
        subst h
        rfl
      exact hcycle _ _ hblock
  | cons j js ih =>
    rw [List.forall_mem_cons, List.pairwise_cons]
    by_cases hi : Long i
    · rw [code_iff_long hne hi]
      constructor
      · rintro ⟨hequal, hdelay⟩
        refine ⟨⟨fun _ => hequal, fun _ _ _ => hequal⟩, fun k hk _ => hdelay k hk, ?_⟩
        apply List.pairwise_of_forall_mem_list
        intro k hk k' hk' _
        rw [hdelay k hk, hdelay k' hk']
      · rintro ⟨⟨hequal, -⟩, hdelay, -⟩
        exact ⟨hequal hi, fun k hk => hdelay k hk hi⟩
    · have hblock := block_congr (countDowns_eq hi) hosts
      have hcancel : codePasses hne i (j :: js) = documentedPasses hne i (j :: js) ↔
          codePasses hne j js = documentedPasses hne j js := by
        simp only [codePasses, documentedPasses, passes, hblock, Stream'.append_right_inj]
      rw [hcancel, ih]
      simp [hi]

end

end RMDSConnectionConfig

end RmdsBridge
