/-
# Releasing outdated addresses of a StatefulSet Pod

`releaseStsOutdatedIPIfNeed` of `pkg/ipam/allocate.go`. A Pod of a StatefulSet keeps its addresses
as long as their pools are among the candidates; otherwise the addresses of the interface asked for
are released, or those of all interfaces.

The candidates are filed under the names of the interfaces or, if the annotation leaves these out,
under their indices.
-/

import Spiderpool.IPAM.Annotation
import Spiderpool.IPAM.Static

namespace Spiderpool

def IPAllocationDetail.pools (d : IPAllocationDetail) : List String :=
  ([d.ipv4Pool, d.ipv6Pool].reduceOption).filter (· ≠ "")

namespace IPAM

open EndpointManager

/-- `poolMap`: the names of the candidate pools of each interface. -/
def poolMap (preliminary : List ToBeAllocated) : GoMap String (List String) :=
  preliminary.foldl
    (fun m candidates => AList.insert candidates.nic
      ((m.lookup candidates.nic).getD [] ++ candidates.pools) m) ∅

/-- What the loop over the details does after it has looked at a pool: it goes on with the
detail, takes it to be released and goes on with the next, or ends. -/
inductive PoolCheck where
  | keep
  | release
  | releaseAll
deriving DecidableEq

def checkPool (poolMap : GoMap String (List String)) (ifName : String)
    (isMultipleNicWithNoName : Bool) (index : ℕ) (nic : String) : Option String → PoolCheck
  | none => .keep
  | some pool =>
    if pool = "" then .keep
    else if isMultipleNicWithNoName ∧ pool ∉ (poolMap.lookup (itoa index)).getD [] then .releaseAll
    else if pool ∉ (poolMap.lookup nic).getD [] ∧ nic = ifName then .release
    else .keep

def checkDetail (poolMap : GoMap String (List String)) (ifName : String)
    (isMultipleNicWithNoName : Bool) (index : ℕ) (ip : IPAllocationDetail) : PoolCheck :=
  match checkPool poolMap ifName isMultipleNicWithNoName index ip.nic ip.ipv4Pool with
  | .keep => checkPool poolMap ifName isMultipleNicWithNoName index ip.nic ip.ipv6Pool
  | check => check

structure Outdated where
  releaseEndpointIPsFlag : Bool := false
  needReleaseEndpointIPs : List IPAllocationDetail := []
  noReleaseEndpointIPs : List IPAllocationDetail := []

def outdatedIPs (poolMap : GoMap String (List String)) (ifName : String)
    (isMultipleNicWithNoName : Bool) : ℕ → List IPAllocationDetail → Outdated → Outdated
  | _, [], o => o
  | index, ip :: ips, o =>
    match checkDetail poolMap ifName isMultipleNicWithNoName index ip with
    | .releaseAll => { o with releaseEndpointIPsFlag := true }
    | .release => outdatedIPs poolMap ifName isMultipleNicWithNoName (index + 1) ips { o with
        releaseEndpointIPsFlag := true
        needReleaseEndpointIPs := o.needReleaseEndpointIPs ++ [ip] }
    | .keep => outdatedIPs poolMap ifName isMultipleNicWithNoName (index + 1) ips { o with
        noReleaseEndpointIPs := o.noReleaseEndpointIPs ++ [ip] }

def outdated (preliminary : List ToBeAllocated) (ifName : String) (endpoint : SpiderEndpoint)
    (isMultipleNicWithNoName : Bool) : Outdated :=
  outdatedIPs (poolMap preliminary) ifName isMultipleNicWithNoName 0 endpoint.ips {}

/-- An outdated endpoint is deleted, unless it is being deleted already, and its finalizer
removed. -/
def deleteOutdated (now : ℤ) (endpoint : SpiderEndpoint) : Api SpiderEndpoint := do
  (if endpoint.deletionTimestamp = none then deleteEndpoint now endpoint else pure ())
  Eff.mapErr (.wrap
    "failed to clean statefulset pod's endpoint when expected ippool was changed: " · "")
    (EndpointManager.removeFinalizer endpoint)

/-- `releaseStsOutdatedIPIfNeed`, with the endpoint as it then is. The candidates are those
that `getPoolCandidates` returns. -/
def releaseStsOutdatedIPIfNeed (env : Env) (candidates : Result Err (List ToBeAllocated))
    (ifName : String) (endpoint : SpiderEndpoint) (isMultipleNicWithNoName : Bool) :
    Api (Bool × SpiderEndpoint) := do
  let preliminary ← Eff.lift candidates
  let o := outdated preliminary ifName endpoint isMultipleNicWithNoName
  if o.releaseEndpointIPsFlag then
    if isMultipleNicWithNoName ∨ o.needReleaseEndpointIPs.length = endpoint.ips.length then do
      let endpoint' ← deleteOutdated env.now endpoint
      release env endpoint.uid endpoint.ips
      return (true, endpoint')
    else do
      let endpoint' ← patchEndpointAllocationIPs endpoint o.noReleaseEndpointIPs
      release env endpoint.uid o.needReleaseEndpointIPs
      return (true, endpoint')
  else return (false, endpoint)

/-! ### Which pools count as candidates -/

def IsCandidate (preliminary : List ToBeAllocated) (nic pool : String) : Prop :=
  ∃ t ∈ preliminary, t.nic = nic ∧ pool ∈ t.pools

/-- The recorded pools are all still candidates of their interfaces, which go by their names or
by their indices. -/
def StillCandidates (preliminary : List ToBeAllocated) (isMultipleNicWithNoName : Bool)
    (ips : List IPAllocationDetail) : Prop :=
  ∀ (index : ℕ) (d : IPAllocationDetail), ips[index]? = some d → ∀ pool ∈ d.pools,
    IsCandidate preliminary (if isMultipleNicWithNoName then itoa index else d.nic) pool

section

variable {env : Env} {preliminary : List ToBeAllocated} {ifName nic pool : String}
  {m : GoMap String (List String)} {multiple : Bool} {index : ℕ} {d : IPAllocationDetail}
  {ips : List IPAllocationDetail} {o : Outdated} {endpoint endpoint' : SpiderEndpoint}
  {s s' : ApiServer}

theorem mem_pools : pool ∈ d.pools ↔ (d.ipv4Pool = some pool ∨ d.ipv6Pool = some pool) ∧ pool ≠ "" := by
  simp [IPAllocationDetail.pools, List.reduceOption_mem_iff, @eq_comm _ (some pool)]

theorem mem_poolMap : pool ∈ ((poolMap preliminary).lookup nic).getD [] ↔
    IsCandidate preliminary nic pool := by
  have hloop : ∀ (l : List ToBeAllocated) (m : GoMap String (List String)),
      pool ∈ ((l.foldl (fun (m : GoMap String (List String)) t => AList.insert t.nic
        ((m.lookup t.nic).getD [] ++ t.pools) m) m).lookup nic).getD [] ↔
      pool ∈ (m.lookup nic).getD [] ∨ IsCandidate l nic pool := by
    intro l
    induction l with
    | nil => simp [IsCandidate]
    | cons t l ih =>
      intro m
      have ht : pool ∈ ((AList.insert t.nic ((m.lookup t.nic).getD [] ++ t.pools) m).lookup
          nic).getD [] ↔ pool ∈ (m.lookup nic).getD [] ∨ t.nic = nic ∧ pool ∈ t.pools := by
        rw [GoMap.lookup_insert_eq]
        by_cases hnic : nic = t.nic
        · subst hnic
          simp
        · simp [hnic, Ne.symm hnic]
      rw [List.foldl_cons, ih, ht, or_assoc]
      simp [IsCandidate]
  rw [poolMap, hloop]
  simp

/-- A pool of the detail is none of the candidates it is looked up among. -/
def Changed (m : GoMap String (List String)) (ifName : String) (multiple : Bool) (index : ℕ)
    (d : IPAllocationDetail) : Prop :=
  ∃ pool ∈ d.pools, multiple = true ∧ pool ∉ (m.lookup (itoa index)).getD [] ∨
    d.nic = ifName ∧ pool ∉ (m.lookup d.nic).getD []

theorem checkPool_keep {pool? : Option String} :
    checkPool m ifName multiple index nic pool? = .keep ↔ ∀ pool ∈ pool?, pool ≠ "" →
      ¬ (multiple = true ∧ pool ∉ (m.lookup (itoa index)).getD [] ∨
        nic = ifName ∧ pool ∉ (m.lookup nic).getD []) := by
  cases pool? with
  | none => simp [checkPool]
  | some pool =>
    simp only [checkPool, Option.mem_def, Option.some.injEq, forall_eq']
    split_ifs with hempty hindex hnic
    · simp [hempty]
    · simp [hempty, hindex]
    · simp [hempty, hnic]
    · simp only [true_iff]
      rintro - (h | h)
      · exact hindex h
      · exact hnic h.symm

theorem checkDetail_keep :
    checkDetail m ifName multiple index d = .keep ↔ ¬ Changed m ifName multiple index d := by
  have hboth : checkDetail m ifName multiple index d = .keep ↔
      checkPool m ifName multiple index d.nic d.ipv4Pool = .keep ∧
        checkPool m ifName multiple index d.nic d.ipv6Pool = .keep := by
    unfold checkDetail
    split
    · simp [*]
    · rename_i hne
      exact ⟨fun h => absurd h hne, fun h => absurd h.1 hne⟩
  simp only [hboth, checkPool_keep, Changed, mem_pools, Option.mem_def, not_exists, not_and]
  constructor
  · rintro ⟨h4, h6⟩ pool ⟨hpool | hpool, hne⟩
    · exact h4 pool hpool hne
    · exact h6 pool hpool hne
  · exact fun h => ⟨fun pool hpool hne => h pool ⟨.inl hpool, hne⟩,
      fun pool hpool hne => h pool ⟨.inr hpool, hne⟩⟩

theorem outdatedIPs_flag : (outdatedIPs m ifName multiple index ips o).releaseEndpointIPsFlag = true ↔
    o.releaseEndpointIPsFlag = true ∨
      ∃ i d, ips[i]? = some d ∧ Changed m ifName multiple (index + i) d := by
  induction ips generalizing index o with
  | nil => simp [outdatedIPs]
  | cons ip ips ih =>
    have hsplit : (∃ i d, (ip :: ips)[i]? = some d ∧ Changed m ifName multiple (index + i) d) ↔
        Changed m ifName multiple index ip ∨
          ∃ i d, ips[i]? = some d ∧ Changed m ifName multiple (index + 1 + i) d := by
      rw [← Nat.or_exists_add_one]
      simp [Nat.add_assoc, Nat.add_comm 1]
    rw [hsplit, outdatedIPs]
    have hkeep : checkDetail m ifName multiple index ip = .keep ↔
        ¬ Changed m ifName multiple index ip := checkDetail_keep
    cases hcheck : checkDetail m ifName multiple index ip with
    | keep => simp [ih, hkeep.1 hcheck]
    | release =>
      have hchanged : Changed m ifName multiple index ip := by
        by_contra hnot
        exact absurd (hkeep.2 hnot) (by simp [hcheck])
      simp [ih, hchanged]
    | releaseAll =>
      have hchanged : Changed m ifName multiple index ip := by
        by_contra hnot
        exact absurd (hkeep.2 hnot) (by simp [hcheck])
      simp [hchanged]

theorem releaseSts_ok {released : Bool}
    (h : releaseStsOutdatedIPIfNeed env (.ok preliminary) ifName endpoint multiple s =
      (.ok (released, endpoint'), s')) :
    let o := outdated preliminary ifName endpoint multiple
    o.releaseEndpointIPsFlag = released ∧
      if released then
        if multiple ∨ o.needReleaseEndpointIPs.length = endpoint.ips.length then
          ∃ s₁, deleteOutdated env.now endpoint s = (.ok endpoint', s₁) ∧ s'.endpoints = s₁.endpoints
        else ∃ s₁, patchEndpointAllocationIPs endpoint o.noReleaseEndpointIPs s = (.ok endpoint', s₁) ∧
          s'.endpoints = s₁.endpoints
      else endpoint' = endpoint ∧ s' = s := by
  intro o
  obtain ⟨preliminary', s₀, hlift, h⟩ := Eff.bind_eq_ok.1 h
  obtain ⟨hok, rfl⟩ := Eff.lift_eq_ok.1 hlift
  obtain rfl := Except.ok.inj hok
  change (if o.releaseEndpointIPsFlag = true then _ else _ : Api (Bool × SpiderEndpoint)) s = _ at h
  by_cases hflag : o.releaseEndpointIPsFlag = true
  · rw [if_pos hflag] at h
    by_cases hall : multiple = true ∨ o.needReleaseEndpointIPs.length = endpoint.ips.length
    · rw [if_pos hall] at h
      obtain ⟨e, s₁, hdelete, h⟩ := Eff.bind_eq_ok.1 h
      obtain ⟨_, s₂, hrelease, h⟩ := Eff.bind_eq_ok.1 h
      obtain ⟨heq, rfl⟩ := Eff.pure_eq_ok.1 h
      obtain ⟨rfl, rfl⟩ := Prod.mk.inj heq
      rw [if_pos rfl, if_pos hall]
      exact ⟨hflag, s₁, hdelete, onPools_endpoints hrelease⟩
    · rw [if_neg hall] at h
      obtain ⟨e, s₁, hpatch, h⟩ := Eff.bind_eq_ok.1 h
      obtain ⟨_, s₂, hrelease, h⟩ := Eff.bind_eq_ok.1 h
      obtain ⟨heq, rfl⟩ := Eff.pure_eq_ok.1 h
      obtain ⟨rfl, rfl⟩ := Prod.mk.inj heq
      rw [if_pos rfl, if_neg hall]
      exact ⟨hflag, s₁, hpatch, onPools_endpoints hrelease⟩
  · rw [if_neg hflag] at h
    obtain ⟨heq, rfl⟩ := Eff.pure_eq_ok.1 h
    obtain ⟨rfl, rfl⟩ := Prod.mk.inj heq
    exact ⟨Bool.not_eq_true _ ▸ hflag, rfl, rfl⟩

theorem releaseSts_keeps_iff :
    releaseStsOutdatedIPIfNeed env (.ok preliminary) ifName endpoint multiple s =
      (.ok (false, endpoint), s) ↔
    ∀ i d, endpoint.ips[i]? = some d → ¬ Changed (poolMap preliminary) ifName multiple i d := by
  have hflag : (outdated preliminary ifName endpoint multiple).releaseEndpointIPsFlag = false ↔
      ∀ i d, endpoint.ips[i]? = some d → ¬ Changed (poolMap preliminary) ifName multiple i d := by
    rw [← Bool.not_eq_true, outdated, outdatedIPs_flag]
    simp
  rw [← hflag]
  constructor
  · exact fun h => (releaseSts_ok h).1
  · intro h
    refine Eff.bind_eq_ok.2 ⟨preliminary, s, rfl, ?_⟩
    rw [if_neg (by simp [h])]
    rfl

end

/-- If the pools of a StatefulSet Pod are all still candidates, its addresses and its endpoint
stay as they are exactly if the interfaces are named in the annotation, or the pools recorded
for the interface asked for are candidates under its name too. -/
theorem sts_keeps_iff (env : Env) (preliminary : List ToBeAllocated) (ifName : String)
    (endpoint : SpiderEndpoint) (isMultipleNicWithNoName : Bool) (s : ApiServer)
    (h : StillCandidates preliminary isMultipleNicWithNoName endpoint.ips) :
    releaseStsOutdatedIPIfNeed env (.ok preliminary) ifName endpoint isMultipleNicWithNoName s =
        (.ok (false, endpoint), s) ↔
      (isMultipleNicWithNoName = true → ∀ d ∈ endpoint.ips, d.nic = ifName →
        ∀ pool ∈ d.pools, IsCandidate preliminary d.nic pool) := by
  rw [releaseSts_keeps_iff]
  constructor
  · rintro hkeep - d hd hnic pool hpool
    obtain ⟨i, hi⟩ := List.mem_iff_getElem?.1 hd
    by_contra hnot
    exact hkeep i d hi ⟨pool, hpool, .inr ⟨hnic, fun hmem => hnot (mem_poolMap.1 hmem)⟩⟩
  · rintro hnamed i d hi ⟨pool, hpool, ⟨hmultiple, hlost⟩ | ⟨hnic, hlost⟩⟩
    · refine hlost (mem_poolMap.2 ?_)
      simpa [hmultiple] using h i d hi pool hpool
    · refine hlost (mem_poolMap.2 ?_)
      cases hmultiple : isMultipleNicWithNoName with
      | true => exact hnamed hmultiple d (List.mem_of_getElem? hi) hnic pool hpool
      | false => simpa [hmultiple] using h i d hi pool hpool

theorem unnamed_released {env : Env} {parse : ParseWildcard} {items : List AnnoIPPoolItem}
    {ifName : String} {preliminary : List ToBeAllocated} {endpoint endpoint' : SpiderEndpoint}
    {s s' : ApiServer} {released : Bool} (hitems : ∃ item ∈ items, item.nic = "")
    (hcandidates : getPoolFromPodAnnoPools parse (.doc items) ifName = .ok preliminary)
    (hname : ∀ n, itoa n ≠ ifName)
    (hrecorded : ∃ d ∈ endpoint.ips, d.nic = ifName ∧ d.pools ≠ [])
    (h : releaseStsOutdatedIPIfNeed env (.ok preliminary) ifName endpoint true s =
      (.ok (released, endpoint'), s')) : released = true := by
  obtain ⟨hflag, hrest⟩ := releaseSts_ok h
  rw [← hflag, outdated, outdatedIPs_flag]
  obtain ⟨d, hd, hnic, hpools⟩ := hrecorded
  obtain ⟨i, hi⟩ := List.mem_iff_getElem?.1 hd
  obtain ⟨pool, hpool⟩ := List.exists_mem_of_ne_nil _ hpools
  refine .inr ⟨i, d, hi, pool, hpool, .inr ⟨hnic, fun hmem => ?_⟩⟩
  obtain ⟨t, ht, htnic, -⟩ := mem_poolMap.1 hmem
  have hmem' : t.nic ∈ (List.range items.length).map itoa :=
    annoPools_unnamed hcandidates hitems ▸ List.mem_map_of_mem ht
  obtain ⟨n, -, hn⟩ := List.mem_map.1 hmem'
  exact hname n (hn.trans (htnic.trans hnic))

end IPAM

/-! ### A Pod of a StatefulSet with one interface -/

namespace Sample

open IPAM

def candidates (nic : String) : List ToBeAllocated :=
  [{ nic := nic, poolCandidates := [{ ipVersion := Constant.ipv4, pools := ["sample"] }] }]

theorem still_candidates (nic : String) (multiple : Bool)
    (h : (if multiple then "0" else "eth0") = nic) :
    StillCandidates (candidates nic) multiple endpoint.ips := by
  rintro (_ | i) d hd pool hpool
  · obtain rfl := Option.some.inj hd
    obtain rfl := List.mem_singleton.1 hpool
    exact ⟨_, List.mem_singleton_self _, h.symm, by simp [ToBeAllocated.pools]⟩
  · cases hd

/-- With the interface named, the address is kept. -/
theorem named_keeps_address :
    releaseStsOutdatedIPIfNeed {} (.ok (candidates "eth0")) "eth0" endpoint false
      (server (allocated "u1")) = (.ok (false, endpoint), server (allocated "u1")) :=
  (sts_keeps_iff _ _ _ _ _ _ (still_candidates "eth0" false rfl)).2 (by simp)

/-- The annotation gives the one interface its pool and no name. The endpoint that the first
allocation has written does not outlast the second. -/
theorem unnamed_loses_address : ∃ r endpoint' s',
    getPoolFromPodAnnoPools (fun pools _ => .ok (pools, false))
      (.doc [{ ipv4Pools := ["sample"] }]) "eth0" = .ok (candidates "0") ∧
    r.ip.nic = "0" ∧ convertResultsToIPDetails (.stored _ _) [r] true = endpoint.ips ∧
    StillCandidates (candidates "0") true endpoint.ips ∧
    releaseStsOutdatedIPIfNeed {} (.ok (candidates "0")) "eth0" endpoint true
      (server (allocated "u1")) = (.ok (true, endpoint'), s') ∧
    s'.endpoints.lookup ("default", "web-0") = none ∧
      ∃ p, s'.pools.lookup "sample" = some p ∧ "10.0.0.1" ∉ p.status.records := by
  let r : AllocationResult := { ip := {
    address := "10.0.0.1/24", gateway := "", ipPool := "sample", nic := "0", version := 4
    enableGatewayDetection := false, enableIPConflictDetection := false } }
  have hrun : ∃ e', releaseStsOutdatedIPIfNeed {} (.ok (candidates "0")) "eth0" endpoint true
      (server (allocated "u1")) =
        (.ok (true, e'), ⟨∅, AList.insert "sample" ((pool.setRecords ∅).setCount 0) ∅⟩) := ⟨_, rfl⟩
  obtain ⟨e', hrun⟩ := hrun
  exact ⟨r, e', _, rfl, rfl, rfl, still_candidates "0" true rfl, hrun, rfl, _, rfl,
    AList.lookup_eq_none.1 rfl⟩

end Sample

end Spiderpool
