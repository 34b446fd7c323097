/-
# Two interfaces of one Pod

A pool gives a Pod the address it has recorded for the Pod's UID, and so it gives two goroutines
of `allocateIPsFromAllCandidates` the same. The addresses a request gets are distinct if no
address can be drawn from the pools of two of its candidates (`candidates_distinct`): what a
goroutine returns is drawn from a pool of its candidate as it was at the start, whatever the
others have done to it meanwhile (`AllocInv`).
-/

import Spiderpool.Endpoint.Addresses
import Spiderpool.IPAM.Candidates
import Spiderpool.IPPool.Records

namespace Spiderpool
namespace IPAM

open Versioned

/-! ### What a pool can give -/

/-- The addresses that `AllocateIP` can draw from a pool: those of its spec and those recorded. -/
def draws (p : IPPool) : Set Addr :=
  {a | (∃ r ∈ p.spec.ips, a ∈ rangeSet r) ∨ ∃ k ∈ p.status.records, parseIP k = some a}

/-- The pool's records name addresses, and its mask can be written behind every address. -/
structure Writable (p : IPPool) : Prop where
  keys : ∀ k ∈ p.status.records, ∃ a, parseIP k = some a
  masks : ∀ a ∈ draws p, ∀ v ipNet, p.spec.ipVersion = some v →
    parseIPOf v p.spec.subnet true = .ok ipNet → a.is4 = true ∨ ipNet.bits = 128

/-- What allocations leave of the pool `p₀`. -/
structure DrawnFrom (p₀ p : IPPool) : Prop where
  spec : p.spec = p₀.spec
  keys : ∀ k ∈ p.status.records, ∃ a ∈ draws p₀, parseIP k = some a

section

variable {cfg : IPPoolManagerConfig} {env : GenEnv} {pod : Pod} {pc : PodTopController}
  {p₀ p p' : IPPool} {nic : String}

theorem Writable.drawnFrom (h : Writable p) : DrawnFrom p p where
  spec := rfl
  keys k hk := by
    obtain ⟨a, ha⟩ := h.keys k hk
    exact ⟨a, .inr ⟨k, hk, ha⟩, ha⟩

theorem DrawnFrom.genRandomIP {ip : IP} (hp : DrawnFrom p₀ p)
    (h : genRandomIP cfg env pod pc p = .ok (ip, p')) :
    DrawnFrom p₀ p' ∧ ∃ a ∈ draws p₀, ip = some a := by
  obtain ⟨v, m, -, hm, ⟨rfl, k, r, hk, -, rfl⟩ | ⟨a, ks, used, ex, res, rfl, hnew⟩⟩ := genRandomIP_ok h
  · have hmem : k ∈ p'.status.records := by
      rw [IPPoolStatus.records_eq hm]
      exact AList.lookup_isSome.1 (by simp [hk])
    obtain ⟨a, ha, hparse⟩ := hp.keys k hmem
    exact ⟨hp, a, ha, hparse⟩
  · obtain ⟨-, r, hr, x, y, hends, hxa, hay⟩ := mem_findAvailableIPs hnew.found
    have ha : a ∈ draws p₀ := .inl ⟨r, hp.spec ▸ hr, x, y, hends, hxa, hay⟩
    refine ⟨⟨?_, fun k hk => ?_⟩, a, ha, rfl⟩
    · rw [hnew.result, ← hp.spec]
      rfl
    · rw [hnew.result, IPPool.records_setCount, IPPool.records_setRecords, AList.mem_insert] at hk
      rcases hk with rfl | hk
      · exact ⟨a, ha, parseIP_string a⟩
      · exact hp.keys k (IPPoolStatus.records_eq hm ▸ hk)

theorem Writable.recordKey {a : Addr} {config : IPConfig} (h : Writable p₀) (hspec : p.spec = p₀.spec)
    (ha : a ∈ draws p₀) (hconfig : genIPConfigResult cfg (some a) nic p = .ok config) :
    recordKey config.address = a.string := by
  rw [genIPConfigResult, hspec] at hconfig
  obtain ⟨v, hv, hconfig⟩ := bind_eq_ok.1 hconfig
  cases hnet : parseIPOf v p₀.spec.subnet true with
  | error e => simp [hnet] at hconfig
  | ok ipNet =>
    simp only [hnet] at hconfig
    obtain rfl := Except.ok.inj hconfig
    exact IPNet.head_split_string rfl (h.masks a ha v ipNet (deref_eq_ok.1 hv) hnet)

end

/-! ### The goroutines -/

/-- The names of the pools that a candidate can draw from, by a call or by taking over a result. -/
def Candidate.names (c : Candidate) : Set String :=
  {name | name ∈ c.pools ∨ ∃ key p, c.pToIPPool.lookup key = some p ∧ p.name = name}

/-- The result has its address from one of the candidate's pools. -/
def DrawnBy (pools : String → Option IPPool) (c : Candidate) (r : AllocationResult) : Prop :=
  ∃ name ∈ c.names, ∃ p ∈ pools name, ∃ a ∈ draws p, recordKey r.ip.address = a.string

/-- No address can be drawn by two candidates, all addresses can be written, and the results of
allocations that have failed before are from the pools they name. -/
structure Separate {ι : Type} (failed : List AllocationResult) (cs : ι → Candidate)
    (pools : String → Option IPPool) : Prop where
  apart : ∀ i j, i ≠ j → ∀ name ∈ (cs i).names, ∀ name' ∈ (cs j).names,
    ∀ p ∈ pools name, ∀ p' ∈ pools name', Disjoint (draws p) (draws p')
  writable : ∀ i, ∀ name ∈ (cs i).names, ∀ p ∈ pools name, Writable p
  failed : ∀ r ∈ failed, ∃ p ∈ pools r.ip.ipPool, ∃ a ∈ draws p, recordKey r.ip.address = a.string

def TaskInv (pools : String → Option IPPool) (c : Candidate) : Task → Prop
  | .trying names _ => ∀ name ∈ names, name ∈ c.pools
  | .calling name names _ => name ∈ c.pools ∧ ∀ name ∈ names, name ∈ c.pools
  | .finished result => ∀ r, result = .ok r → DrawnBy pools c r

structure AllocInv {ι : Type} (cs : ι → Candidate) (pools : String → Option IPPool)
    (s : AllocState ι) : Prop where
  shown : ∀ name, (s.pools name).Shown
  drawn : ∀ i, ∀ name ∈ (cs i).names, ∀ p ∈ (s.pools name).val, ∃ p₀ ∈ pools name, DrawnFrom p₀ p
  tasks : ∀ i, TaskInv pools (cs i) (s.tasks i)

section

variable {ι : Type} {cfg : IPPoolManagerConfig} {pod : Pod} {pc : PodTopController}
  {cs : ι → Candidate} {failed : List AllocationResult} {pools : String → Option IPPool}
  {order : RangeOrder String IPPool} {s s' : AllocState ι} {i : ι}

theorem PoolAttempt.drawn {v₀ v v' : Option IPPool} {nic : String} {reply : PoolReply}
    (h : PoolAttempt cfg (.allocateIP nic pod pc) v (.write v' reply))
    (hwritable : ∀ p ∈ v₀, Writable p) (hv : ∀ p ∈ v, ∃ p₀ ∈ v₀, DrawnFrom p₀ p) :
    (∀ p ∈ v', ∃ p₀ ∈ v₀, DrawnFrom p₀ p) ∧ ∃ ip config, reply = .allocated ip config ∧
      ∀ c, config = .ok c → ∃ p₀ ∈ v₀, ∃ a ∈ draws p₀, recordKey c.address = a.string := by
  cases h with
  | @allocate _ _ _ env p p' ip h =>
    obtain ⟨p₀, hp₀, hdrawn⟩ := hv p rfl
    obtain ⟨hdrawn', a, ha, rfl⟩ := hdrawn.genRandomIP h
    refine ⟨by simpa using ⟨p₀, hp₀, hdrawn'⟩, _, _, rfl, fun c hc => ⟨p₀, hp₀, a, ha, ?_⟩⟩
    exact (hwritable p₀ hp₀).recordKey hdrawn'.spec ha hc

theorem reuseFailed_drawn (hsep : Separate failed cs pools) {r : AllocationResult}
    (h : reuseFailed order failed (cs i) = some r) : DrawnBy pools (cs i) r := by
  obtain ⟨oldRes, hold, h⟩ := List.exists_of_findSome?_eq_some h
  obtain ⟨e, he, rfl⟩ := Option.map_eq_some_iff.1 h
  obtain ⟨p, hp, a, ha, hkey⟩ := hsep.failed oldRes hold
  have hmem := List.mem_of_find?_eq_some he
  have hname := List.find?_some he
  rw [decide_eq_true_eq] at hname
  exact ⟨oldRes.ip.ipPool, .inr ⟨e.1, e.2, order.mem_visit.1 hmem, hname.1.symm⟩, p, hp, a, ha, hkey⟩

theorem allocInv_start (hsep : Separate failed cs pools) :
    AllocInv cs pools (AllocState.start order failed cs pools) where
  shown name := World.shown_of_idle fun _ => rfl
  drawn i name hname p hp := ⟨p, hp, (hsep.writable i name hname p hp).drawnFrom⟩
  tasks i := by
    change TaskInv pools (cs i) (Task.start order failed (cs i))
    unfold Task.start
    split
    · rename_i r hr
      intro r' heq
      obtain rfl := Except.ok.inj heq
      exact reuseFailed_drawn hsep hr
    · exact fun name hname => hname

theorem Task.after_inv {c : Candidate} {pool : String} {names : List String} {errs : List Err}
    {e : Event ι PoolOp PoolReply} (h : TaskInv pools c (.calling pool names errs))
    (he : ∀ i op r, e ≠ .commit i op r) : TaskInv pools c (.after c pool names errs e) := by
  cases e with
  | commit i op r => exact absurd rfl (he i op r)
  | call | read | conflict => exact h
  | giveUp => exact h.2
  | done i op r =>
    cases r with
    | failed fault =>
      cases fault with
      | err => exact h.2
      | _ => simp [Task.after, TaskInv]
    | _ => exact h

variable [DecidableEq ι]

theorem AllocInv.set (hI : AllocInv cs pools s) {pool : String} {w : PoolWorld ι} {t : Task}
    (hw : w.Shown) (hdrawn : ∀ p ∈ w.val, ∃ p₀ ∈ pools pool, DrawnFrom p₀ p)
    (ht : TaskInv pools (cs i) t) : AllocInv cs pools (s.set pool w i t) where
  shown name := by
    by_cases hname : name = pool
    · subst hname
      simpa [AllocState.set] using hw
    · simpa [AllocState.set, hname] using hI.shown name
  drawn j name hj := by
    by_cases hname : name = pool
    · subst hname
      simpa [AllocState.set] using hdrawn
    · simpa [AllocState.set, hname] using hI.drawn j name hj
  tasks j := by
    by_cases hj : j = i
    · subst hj
      simpa [AllocState.set] using ht
    · simpa [AllocState.set, hj] using hI.tasks j

theorem AllocInv.step (hsep : Separate failed cs pools) (hI : AllocInv cs pools s)
    (h : AllocStep cfg pod pc cs s i s') : AllocInv cs pools s' := by
  have htask := hI.tasks i
  cases h with
  | @call pool names errs w ht hw =>
    rw [ht] at htask
    have hnames := List.forall_mem_cons.1 htask
    refine hI.set (hw.shown (hI.shown pool)) ?_ hnames
    rw [hw.val_eq (by simp)]
    exact hI.drawn i pool (.inl hnames.1)
  | @event pool names errs e w ht hi hop hw =>
    rw [ht] at htask
    have hpool : pool ∈ (cs i).names := .inl htask.1
    by_cases hcommit : ∃ j op r, e = .commit j op r
    · obtain ⟨j, op, r, rfl⟩ := hcommit
      obtain rfl : op = .allocateIP (cs i).nic pod pc := hop
      obtain ⟨hdrawn, ip, config, rfl, hconfig⟩ := PoolAttempt.drawn
        (hw.commit_attempt (hI.shown pool)) (hsep.writable i pool hpool) (hI.drawn i pool hpool)
      refine hI.set (hw.shown (hI.shown pool)) hdrawn fun r hr => ?_
      obtain ⟨c, hc, hr⟩ := bind_eq_ok.1 hr
      obtain ⟨_, -, hr⟩ := bind_eq_ok.1 hr
      obtain rfl := Except.ok.inj hr
      exact ⟨pool, hpool, hconfig c hc⟩
    · have hcommit' : ∀ j op r, e ≠ .commit j op r := fun j op r heq => hcommit ⟨j, op, r, heq⟩
      refine hI.set (hw.shown (hI.shown pool)) ?_ (Task.after_inv htask hcommit')
      rw [hw.val_eq hcommit']
      exact hI.drawn i pool hpool
  | @exhausted errs ht =>
    refine ⟨hI.shown, hI.drawn, fun j => ?_⟩
    by_cases hj : j = i
    · subst hj
      simp [TaskInv, fail]
    · simpa [hj] using hI.tasks j

end

/-- The addresses that `allocateIPsFromAllCandidates` returns are distinct in whatever order its
goroutines run, if no address can be drawn by two candidates. -/
theorem candidates_distinct (cfg : IPPoolManagerConfig) (pod : Pod) (pc : PodTopController)
    (order : RangeOrder String IPPool) (failed : List AllocationResult) (tt : List ToBeAllocated)
    (pools : String → Option IPPool) (steps : List (Fin (allCandidates tt).length))
    (s : AllocState (Fin (allCandidates tt).length)) (results : List AllocationResult)
    (hsep : Separate failed (allCandidates tt).get pools)
    (hrun : Run (AllocStep cfg pod pc (allCandidates tt).get)
      (.start order failed (allCandidates tt).get pools) steps s)
    (h : s.Succeeds results) : (results.map fun r => recordKey r.ip.address).Nodup := by
  have hI : AllocInv (allCandidates tt).get pools s :=
    hrun.inv _ (allocInv_start hsep) fun _ _ _ hI hstep => hI.step hsep hstep
  obtain ⟨r, hr, hperm⟩ := h
  have hdrawn : ∀ i, DrawnBy pools ((allCandidates tt).get i) (r i) := fun i => by
    have htask := hI.tasks i
    rw [hr i] at htask
    exact htask _ rfl
  rw [(hperm.map _).nodup_iff, List.map_ofFn, List.nodup_ofFn]
  intro i j hij
  by_contra hne
  obtain ⟨name, hname, p, hp, a, ha, hkey⟩ := hdrawn i
  obtain ⟨name', hname', p', hp', a', ha', hkey'⟩ := hdrawn j
  obtain rfl : a = a' := Addr.string_injective (hkey.symm.trans (Eq.trans hij hkey'))
  exact Set.disjoint_left.1 (hsep.apart i j hne name hname name' hname' p hp p' hp') ha ha'

end IPAM

/-! ### A Pod with two interfaces -/

namespace Sample

open IPAM Versioned

def otherPool : IPPool where
  name := "other"
  finalizers := [Constant.spiderFinalizer]
  spec := { ipVersion := some Constant.ipv4, subnet := "10.0.1.0/24", ips := ["10.0.1.1"] }

def pools (name : String) : Option IPPool :=
  if name = "sample" then some pool else if name = "other" then some otherPool else none

def request (nic : String) (p : IPPool) : ToBeAllocated where
  nic := nic
  poolCandidates := [{
    ipVersion := Constant.ipv4, pools := [p.name], pToIPPool := AList.insert p.name p ∅ }]

abbrev twoCandidates (p : IPPool) : Fin 2 → Candidate :=
  (allCandidates [request "eth0" pool, request "net1" p]).get

theorem allocates_both {p p' : IPPool} {ip : IP} {v : Option IPPool} {c₁ c₂ : IPConfig}
    (hp : Function.update pools "sample" (some (allocated "u1")) p.name = some p')
    (hroutes : p.spec.routes = none)
    (hc : genIPConfigResult config (some addr) "eth0" (allocated "u1") = .ok c₁)
    (ha : PoolAttempt config (.allocateIP "net1" (pod "u1") topController) (some p')
      (.write v (.allocated ip (.ok c₂)))) :
    ∃ s, Run (AllocStep config (pod "u1") topController (twoCandidates p))
        (.start (.stored _ _) [] (twoCandidates p) pools) ([0, 0, 0] ++ [1, 1, 1]) s ∧
      s.Succeeds [⟨c₁, [], false⟩, ⟨c₂, [], false⟩] := by
  let s₀ : AllocState (Fin 2) := .start (.stored _ _) [] (twoCandidates p) pools
  have hattempt := allocates "u1"
  rw [hc] at hattempt
  have htask₀ : s₀.tasks 0 = .trying ["sample"] [] := rfl
  obtain ⟨w, hrun, hval, hidle⟩ :=
    AllocStep.solo (twoCandidates p) htask₀ (fun _ => rfl) hattempt
  have hsecond : ∀ j, ((s₀.set "sample" w 0 (.finished (.ok ⟨c₁, [], false⟩))).pools p.name).phase j =
      .idle ∧ ((s₀.set "sample" w 0 (.finished (.ok ⟨c₁, [], false⟩))).pools p.name).val = some p' := by
    intro j
    by_cases hname : p.name = "sample"
    · rw [hname] at hp ⊢
      rw [AllocState.set_pools]
      exact ⟨hidle j, hval.trans (by simpa using hp)⟩
    · rw [Function.update_of_ne hname] at hp
      simp only [AllocState.set, Function.update_of_ne hname]
      exact ⟨rfl, hp⟩
  have htask₁ : (s₀.set "sample" w 0 (.finished (.ok ⟨c₁, [], false⟩))).tasks 1 =
      .trying [p.name] [] := rfl
  obtain ⟨w', hrun', -, -⟩ := AllocStep.solo (twoCandidates p) htask₁ (fun j => (hsecond j).1)
    ((hsecond 0).2 ▸ ha)
  refine ⟨_, hrun.append hrun', ![⟨c₁, [], false⟩, ⟨c₂, [], false⟩], Fin.forall_fin_two.2 ⟨rfl, ?_⟩,
    List.Perm.refl _⟩
  have hlookup : (twoCandidates p 1).pToIPPool.lookup p.name = some p := AList.lookup_insert _
  rw [AllocState.set_tasks, allocationResult_ok c₂ hlookup, hroutes]
  rfl

theorem draws_pool {a : Addr} (h : a ∈ draws pool) : a ∈ Set.Icc (Addr.ofV4 0x0a000001)
    (Addr.ofV4 0x0a000002) := by
  rcases h with ⟨r, hr, x, y, hends, ha⟩ | ⟨k, hk, -⟩
  · obtain rfl := List.mem_singleton.1 hr
    have hpool : rangeEnds "10.0.0.1-10.0.0.2" =
      (some (Addr.ofV4 0x0a000001), some (Addr.ofV4 0x0a000002)) := rfl
    obtain ⟨h1, h2⟩ := Prod.mk.inj (hpool.symm.trans hends)
    rwa [Option.some.inj h1, Option.some.inj h2]
  · exact absurd hk (AList.notMem_empty k)

theorem draws_otherPool {a : Addr} (h : a ∈ draws otherPool) : a = Addr.ofV4 0x0a000101 := by
  rcases h with ⟨r, hr, x, y, hends, hxa, hay⟩ | ⟨k, hk, -⟩
  · obtain rfl := List.mem_singleton.1 hr
    have hpool : rangeEnds "10.0.1.1" =
      (some (Addr.ofV4 0x0a000101), some (Addr.ofV4 0x0a000101)) := rfl
    obtain ⟨h1, h2⟩ := Prod.mk.inj (hpool.symm.trans hends)
    rw [← Option.some.inj h1] at hxa
    rw [← Option.some.inj h2] at hay
    exact le_antisymm hay hxa
  · exact absurd hk (AList.notMem_empty k)

theorem writable_pools {name : String} {p : IPPool} (h : pools name = some p) : Writable p := by
  unfold pools at h
  split_ifs at h
  · obtain rfl := Option.some.inj h
    refine ⟨fun k hk => absurd hk (AList.notMem_empty k), fun a ha v ipNet _ _ => .inl ?_⟩
    obtain ⟨hxa, hay⟩ := draws_pool ha
    rw [Fin.le_def, Addr.val_ofV4 (by norm_num)] at hxa hay
    rw [Addr.is4_iff, Addr.low32]
    omega
  · obtain rfl := Option.some.inj h
    refine ⟨fun k hk => absurd hk (AList.notMem_empty k), fun a ha v ipNet _ _ => .inl ?_⟩
    rw [draws_otherPool ha]
    rfl

theorem names_candidate {c : Candidate} {q : IPPool} {name : String} (hpools : c.pools = [q.name])
    (hmap : c.pToIPPool = AList.insert q.name q ∅) (h : name ∈ c.names) : name = q.name := by
  rcases h with hname | ⟨key, q', hq', rfl⟩
  · exact List.mem_singleton.1 (hpools ▸ hname)
  · rw [hmap, GoMap.lookup_insert_eq] at hq'
    split_ifs at hq'
    · rw [Option.some.inj hq']
    · cases hq'

theorem separate : Separate [] (twoCandidates otherPool) pools where
  apart i j hij name hname name' hname' p hp p' hp' := by
    have hdisjoint : Disjoint (draws pool) (draws otherPool) := by
      refine Set.disjoint_left.2 fun a ha ha' => ?_
      rw [draws_otherPool ha'] at ha
      exact absurd (draws_pool ha).2 (by decide)
    have hnames : ∀ i name, name ∈ (twoCandidates otherPool i).names →
        name = if i = 0 then "sample" else "other" :=
      fun i name => Fin.cases (fun h => names_candidate (q := pool) rfl rfl h)
        (fun i h => by
          obtain rfl := Subsingleton.elim i 0
          exact names_candidate (q := otherPool) rfl rfl h) i
    rw [hnames i name hname] at hp
    rw [hnames j name' hname'] at hp'
    by_cases hi : i = 0
    · rw [if_pos hi] at hp
      rw [if_neg fun hj => hij (hi.trans hj.symm)] at hp'
      rw [← Option.some.inj hp, ← Option.some.inj hp']
      exact hdisjoint
    · have hj : j = 0 := by omega
      rw [if_neg hi] at hp
      rw [if_pos hj] at hp'
      rw [← Option.some.inj hp, ← Option.some.inj hp']
      exact hdisjoint.symm
  writable i name _ p hp := writable_pools hp
  failed r hr := absurd hr List.not_mem_nil

/-- Two interfaces with pools of their own get different addresses. -/
theorem own_pools_distinct : ∃ s results,
    Run (AllocStep config (pod "u1") topController (twoCandidates otherPool))
        (.start (.stored _ _) [] (twoCandidates otherPool) pools) [0, 0, 0, 1, 1, 1] s ∧
      s.Succeeds results ∧ results.length = 2 ∧
      (results.map fun r => recordKey r.ip.address).Nodup := by
  obtain ⟨c₁, hc₁⟩ : ∃ c, genIPConfigResult config (some addr) "eth0" (allocated "u1") = .ok c :=
    ⟨_, rfl⟩
  obtain ⟨c₂, p', hc₂, hgen⟩ : ∃ c₂ p', genIPConfigResult config (some (Addr.ofV4 0x0a000101)) "net1" p' =
      .ok c₂ ∧ genRandomIP config env (pod "u1") topController otherPool =
        .ok (some (Addr.ofV4 0x0a000101), p') := ⟨_, _, rfl, rfl⟩
  obtain ⟨s, hrun, hs⟩ := allocates_both (p := otherPool) rfl rfl hc₁ (hc₂ ▸ PoolAttempt.allocate hgen)
  exact ⟨s, _, hrun, hs, rfl, candidates_distinct _ _ _ _ _ [request "eth0" pool, request "net1" otherPool]
    _ _ _ _ separate hrun hs⟩

/-- Two interfaces with one pool get the same address. -/
theorem one_pool_repeats : ∃ s results,
    Run (AllocStep config (pod "u1") topController (twoCandidates pool))
        (.start (.stored _ _) [] (twoCandidates pool) pools) [0, 0, 0, 1, 1, 1] s ∧
      s.Succeeds results ∧ results.map (fun r => (r.ip.nic, r.ip.address)) =
        [("eth0", "10.0.0.1/24"), ("net1", "10.0.0.1/24")] := by
  obtain ⟨c₁, hc₁, hnic₁⟩ : ∃ c, genIPConfigResult config (some addr) "eth0" (allocated "u1") = .ok c ∧
    (c.nic, c.address) = ("eth0", "10.0.0.1/24") := ⟨_, rfl, rfl⟩
  obtain ⟨c₂, hc₂, hnic₂⟩ : ∃ c, genIPConfigResult config (some addr) "net1" (allocated "u1") = .ok c ∧
    (c.nic, c.address) = ("net1", "10.0.0.1/24") := ⟨_, rfl, rfl⟩
  have hgen : genRandomIP config env (pod "u1") topController (allocated "u1") =
      .ok (some addr, allocated "u1") := rfl
  obtain ⟨s, hrun, hs⟩ := allocates_both (p := pool) rfl rfl hc₁ (hc₂ ▸ PoolAttempt.allocate hgen)
  refine ⟨s, _, hrun, hs, ?_⟩
  rw [List.map_cons, List.map_singleton, hnic₁, hnic₂]

end Sample

end Spiderpool
