/-
# Retrieving the addresses of a stateful Pod

`retrieveStaticIPAllocation` of `pkg/ipam/allocate.go`. A Pod of a StatefulSet, or of a virtual
machine, that is created anew gets the addresses its endpoint still names. Their records in the
pools are made out to the new Pod first, but a record that is missing is not missed:
`UpdateAllocatedIPs` passes over it.
-/

import Spiderpool.Endpoint.Addresses
import Spiderpool.IPAM.Types
import Spiderpool.IPPool.Records
import Spiderpool.IPPool.System

namespace Spiderpool
namespace IPAM

open EndpointManager

def isDetectGatewayReachableForKubeVirtPod (cfg : Config) (env : Env) (pod : Pod) :
    Result Err Bool :=
  if cfg.enableIPConflictDetection = false then .ok false
  else
    match getControllerOf pod.ownerReferences with
    | none => .ok true
    | some owner =>
      if cfg.enableKubevirtStaticIP = false ∨ owner.apiVersion ≠ Constant.kubevirtV1 ∨
          owner.kind ≠ Constant.kindKubevirtVMI then .ok true
      else
        match pod.annotations.migrationJobName with
        | none => .ok true
        | some vmimName => do
          let found ← mapErr (.wrap ("failed to get kubevirt vm pod '" ++ pod.ns ++ "/" ++ pod.name ++
            "' corresponding VirtualMachineInstanceMigration '" ++ pod.ns ++ "/" ++ vmimName ++
            "', error: ") · "") (env.hasVMIM pod.ns vmimName)
          return !found

def retrieveStaticIPAllocation (cfg : Config) (env : Env) (nic : String) (pod : Pod)
    (endpoint : Option SpiderEndpoint) : Api (Option IpamAddResponse) :=
  match retrieveIPAllocation pod.uid nic endpoint true with
  | none => pure none
  | some endpoint => do
    Eff.mapErr (.wrap "failed to reallocate IPPool IP records, error: " · "")
      (reallocateIPPoolIPRecords env pod.uid endpoint)
    let endpoint ← Eff.mapErr (.wrap ("failed to refresh the current IP allocation of " ++
      endpoint.ownerControllerType ++ ": ") · "")
      (reallocateCurrentIPAllocation pod.uid pod.nodeName nic endpoint
        (isMultipleNicWithNoName pod.annotations))
    let enableIPConflictDetection ← Eff.lift (isDetectGatewayReachableForKubeVirtPod cfg env pod)
    let (ips, routes) ← Eff.lift (convertIPDetailsToIPConfigsAndAllRoutes enableIPConflictDetection
      cfg.enableGatewayDetection endpoint.ips)
    return some ⟨ips, routes⟩

/-- The address is recorded in its pool, for the Pod of this UID. -/
def Recorded (s : ApiServer) (uid pool key : String) : Prop :=
  ∃ p r, s.pools.lookup pool = some p ∧ p.status.records.lookup key = some r ∧ r.podUID = uid

def HasRecord (s : ApiServer) (pool key : String) : Prop :=
  ∃ p, s.pools.lookup pool = some p ∧ key ∈ p.status.records

section

variable {cfg : Config} {env : Env} {nic : String} {pod : Pod} {s s' : ApiServer}

section

variable {pool uid key : String} {attempt : List IPAndUID → IPPool → Result Err (Option IPPool)}
  {endpoint endpoint' : SpiderEndpoint}

theorem onPool_ok {attempt : IPPool → Result Err (Option IPPool)}
    (h : onPool pool attempt s = (.ok (), s')) :
    (∃ p o, s.pools.lookup pool = some p ∧ attempt p = .ok o ∧
      s'.pools.lookup pool = some (o.getD p)) ∧
      ∀ k ≠ pool, s'.pools.lookup k = s.pools.lookup k := by
  unfold onPool at h
  split at h
  · simp [fail] at h
  · rename_i p hp
    split at h
    · simp at h
    · rename_i hattempt
      obtain rfl := (Prod.mk.inj h).2
      exact ⟨⟨p, none, hp, hattempt, hp⟩, fun _ _ => rfl⟩
    · rename_i p' hattempt
      obtain rfl := (Prod.mk.inj h).2
      exact ⟨⟨p, some p', hp, hattempt, AList.lookup_insert _⟩, fun k hk => AList.lookup_insert_ne hk⟩

theorem joinAll_onPool {l : List (Σ _ : String, List IPAndUID)} (hl : (l.map (·.1)).Nodup)
    (h : Eff.joinAll (fun e : Σ _ : String, List IPAndUID => onPool e.1 (attempt e.2)) l s =
      (.ok [], s')) :
    (∀ e ∈ l, ∃ p o, s.pools.lookup e.1 = some p ∧ attempt e.2 p = .ok o ∧
      s'.pools.lookup e.1 = some (o.getD p)) ∧
      ∀ k ∉ l.map (·.1), s'.pools.lookup k = s.pools.lookup k := by
  induction l generalizing s with
  | nil =>
    obtain ⟨-, rfl⟩ := Prod.mk.inj h
    simp
  | cons e l ih =>
    rw [List.map_cons, List.nodup_cons] at hl
    obtain ⟨s₁, he, h⟩ := Eff.joinAll_cons_nil.1 h
    obtain ⟨⟨p, o, hp, ho, hs₁⟩, hothers⟩ := onPool_ok he
    obtain ⟨hall, hrest⟩ := ih hl.2 h
    refine ⟨List.forall_mem_cons.2 ⟨⟨p, o, hp, ho, (hrest _ hl.1).trans hs₁⟩, fun e' he' => ?_⟩,
      fun k hk => ?_⟩
    · have hne : e'.1 ≠ e.1 := fun heq => hl.1 (heq ▸ List.mem_map_of_mem he')
      obtain ⟨p', o', hp', ho', hs'⟩ := hall e' he'
      exact ⟨p', o', (hothers _ hne) ▸ hp', ho', hs'⟩
    · rw [List.map_cons, List.mem_cons, not_or] at hk
      rw [hrest k hk.2, hothers k hk.1]

theorem onPools_ok {failed : String} {details : List IPAllocationDetail}
    (h : onPools env failed attempt uid details s = (.ok (), s'))
    (hmem : (pool, key) ∈ addresses details) :
    ∃ p o, s.pools.lookup pool = some p ∧
      attempt (addressesOf uid pool (addresses details)) p = .ok o ∧
      s'.pools.lookup pool = some (o.getD p) := by
  obtain ⟨pius, s₁, hlift, hcalls⟩ := Eff.bind_eq_ok.1 h
  obtain ⟨hgroup, rfl⟩ := Eff.lift_eq_ok.1 hlift
  obtain ⟨_, s₂, htickets, hcalls⟩ := Eff.bind_eq_ok.1 hcalls
  obtain ⟨-, rfl⟩ := Eff.lift_eq_ok.1 htickets
  obtain ⟨errs, s₃, hjoin, hcalls⟩ := Eff.bind_eq_ok.1 hcalls
  obtain ⟨hnone, rfl⟩ := Eff.lift_eq_ok.1 hcalls
  rw [failIf_eq_ok, not_not] at hnone
  subst hnone
  have hnodup : ((env.poolOrder.visit pius).map (·.1)).Nodup :=
    ((env.poolOrder.perm pius).map _).nodup_iff.2 pius.keys_nodup
  have hlookup := lookup_group hgroup pool
  have hius : pius.lookup pool = some (addressesOf uid pool (addresses details)) := by
    have hiu : (⟨key, uid⟩ : IPAndUID) ∈ addressesOf uid pool (addresses details) :=
      mem_addressesOf.2 ⟨hmem, rfl⟩
    cases hl : pius.lookup pool with
    | none =>
      rw [hl] at hlookup
      rw [← hlookup] at hiu
      simp at hiu
    | some ius => rw [← hlookup, hl]; rfl
  exact (joinAll_onPool hnodup hjoin).1 ⟨pool, _⟩ (env.poolOrder.mem_visit.2 hius)

theorem reallocate_recorded (h : reallocateIPPoolIPRecords env uid endpoint s = (.ok (), s'))
    (hmem : (pool, key) ∈ addresses endpoint.ips) :
    Recorded s' uid pool key ↔ HasRecord s pool key := by
  obtain ⟨p, o, hp, ho, hp'⟩ := onPools_ok h hmem
  have hrecorded := updateAllocatedIPs_recorded ho
    (fun iu hiu => (mem_addressesOf.1 hiu).2) ⟨key, uid⟩ (mem_addressesOf.2 ⟨hmem, rfl⟩)
  simp only [Recorded, HasRecord, hp, hp', Option.some.injEq, exists_and_left, exists_eq_left']
  exact hrecorded.symm

theorem addresses_nameNIC (nic : String) (ips : List IPAllocationDetail) :
    addresses (nameNIC nic ips) = addresses ips := by
  induction ips with
  | nil => rfl
  | cons d ips ih =>
    rw [nameNIC]
    split_ifs
    · rfl
    · rfl
    · simp only [addresses, List.flatMap_cons] at ih ⊢
      rw [ih]

theorem updateEndpoint_ok (h : updateEndpoint endpoint s = (.ok endpoint', s')) :
    endpoint'.ips = endpoint.ips ∧ s'.pools = s.pools := by
  unfold updateEndpoint at h
  split at h
  · simp [fail] at h
  · obtain ⟨he, rfl⟩ := Prod.mk.inj h
    rw [← Except.ok.inj he]
    exact ⟨rfl, rfl⟩

theorem reallocateCurrent_ok {nodeName : String} {multiple : Bool}
    (h : reallocateCurrentIPAllocation uid nodeName nic endpoint multiple s = (.ok endpoint', s')) :
    addresses endpoint'.ips = addresses endpoint.ips ∧ s'.pools = s.pools := by
  have hnamed : addresses (if multiple then nameNIC nic endpoint.ips else endpoint.ips) =
      addresses endpoint.ips := by
    split_ifs
    · exact addresses_nameNIC nic endpoint.ips
    · rfl
  unfold reallocateCurrentIPAllocation at h
  generalize (if multiple then nameNIC nic endpoint.ips else endpoint.ips) = ips at h hnamed
  split_ifs at h
  · obtain ⟨rfl, rfl⟩ := Eff.pure_eq_ok.1 h
    exact ⟨rfl, rfl⟩
  · obtain ⟨hips, hpools⟩ := updateEndpoint_ok h
    exact ⟨hips ▸ hnamed, hpools⟩

theorem retrieveStatic_ok {resp : IpamAddResponse}
    (h : retrieveStaticIPAllocation cfg env nic pod (some endpoint) s = (.ok (some resp), s')) :
    ∃ s₁, reallocateIPPoolIPRecords env pod.uid endpoint s = (.ok (), s₁) ∧ s'.pools = s₁.pools ∧
      resp.ips.map (fun config => (config.ipPool, recordKey config.address)) =
        addresses endpoint.ips := by
  rw [retrieveStaticIPAllocation] at h
  cases he : retrieveIPAllocation pod.uid nic (some endpoint) true with
  | none =>
    rw [he] at h
    exact absurd (Eff.pure_eq_ok.1 h).1 (by simp)
  | some e =>
    rw [he] at h
    obtain rfl : endpoint = e := Option.some.inj (Option.filter_eq_some_iff.1 he).1
    obtain ⟨_, s₁, hrecords, h⟩ := Eff.bind_eq_ok.1 h
    obtain ⟨endpoint', s₂, hcurrent, h⟩ := Eff.bind_eq_ok.1 h
    obtain ⟨detect, s₃, hdetect, h⟩ := Eff.bind_eq_ok.1 h
    obtain ⟨-, rfl⟩ := Eff.lift_eq_ok.1 hdetect
    obtain ⟨⟨ips, routes⟩, s₄, hlift, h⟩ := Eff.bind_eq_ok.1 h
    obtain ⟨hconvert, rfl⟩ := Eff.lift_eq_ok.1 hlift
    obtain ⟨hresp, rfl⟩ := Eff.pure_eq_ok.1 h
    obtain ⟨haddresses, hpools⟩ := reallocateCurrent_ok (Eff.mapErr_eq_ok.1 hcurrent)
    refine ⟨s₁, Eff.mapErr_eq_ok.1 hrecords, hpools, ?_⟩
    rw [← Option.some.inj hresp, ← haddresses]
    exact convertIPDetails_addresses hconvert

end

/-- The addresses in a response of `retrieveStaticIPAllocation` are all recorded for the Pod in
their pools exactly if those of the endpoint were all recorded there before, for any Pod. -/
theorem static_recorded_iff (cfg : Config) (env : Env) (nic : String) (pod : Pod)
    (endpoint : SpiderEndpoint) (s s' : ApiServer) (resp : IpamAddResponse)
    (h : retrieveStaticIPAllocation cfg env nic pod (some endpoint) s = (.ok (some resp), s')) :
    (∀ config ∈ resp.ips, Recorded s' pod.uid config.ipPool (recordKey config.address)) ↔
      ∀ a ∈ addresses endpoint.ips, HasRecord s a.1 a.2 := by
  obtain ⟨s₁, hrecords, hpools, hips⟩ := retrieveStatic_ok h
  have hrecorded : ∀ a ∈ addresses endpoint.ips,
      (Recorded s' pod.uid a.1 a.2 ↔ HasRecord s a.1 a.2) := fun a ha => by
    rw [← reallocate_recorded hrecords ha, Recorded, hpools]
    rfl
  calc (∀ config ∈ resp.ips, Recorded s' pod.uid config.ipPool (recordKey config.address))
      ↔ ∀ a ∈ resp.ips.map fun config => (config.ipPool, recordKey config.address),
          Recorded s' pod.uid a.1 a.2 := by rw [List.forall_mem_map]
    _ ↔ ∀ a ∈ addresses endpoint.ips, Recorded s' pod.uid a.1 a.2 := by rw [hips]
    _ ↔ ∀ a ∈ addresses endpoint.ips, HasRecord s a.1 a.2 := forall₂_congr hrecorded

end

end IPAM

/-! ### A restarted Pod of a StatefulSet -/

namespace Sample

open IPAM

def endpoint : SpiderEndpoint where
  ns := "default"
  name := "web-0"
  finalizers := [Constant.spiderFinalizer]
  uid := "u1"
  ips := [{ nic := "eth0", ipv4 := some "10.0.0.1/24", ipv4Pool := some "sample", vlan := some 0 }]
  ownerControllerType := Constant.kindStatefulSet

def server (p : IPPool) : ApiServer where
  endpoints := AList.insert ("default", "web-0") endpoint ∅
  pools := AList.insert "sample" p ∅

def refreshed : SpiderEndpoint := { endpoint with uid := "u2" }

def staticResponse : IpamAddResponse where
  ips := [{
    address := "10.0.0.1/24", gateway := "", ipPool := "sample", nic := "eth0", version := 4
    enableGatewayDetection := false, enableIPConflictDetection := false }]
  routes := []

def answered (p : IPPool) : ApiServer where
  endpoints := AList.insert ("default", "web-0") refreshed ∅
  pools := AList.insert "sample" p ∅

/-- The record of the address passes to the Pod that is created anew. -/
theorem static_record_passes : ∃ s', retrieveStaticIPAllocation { enableStatefulSet := true } {} "eth0"
    (pod "u2") (some endpoint) (server (allocated "u1")) = (.ok (some staticResponse), s') ∧
      ∀ config ∈ staticResponse.ips, Recorded s' "u2" config.ipPool (recordKey config.address) := by
  have h : retrieveStaticIPAllocation { enableStatefulSet := true } {} "eth0" (pod "u2")
      (some endpoint) (server (allocated "u1")) =
        (.ok (some staticResponse), answered (allocated "u2")) := rfl
  have hrecord : HasRecord (server (allocated "u1")) "sample" "10.0.0.1" :=
    ⟨allocated "u1", rfl, AList.lookup_isSome.1 rfl⟩
  refine ⟨_, h, (static_recorded_iff _ _ _ _ _ _ _ _ h).2 fun a ha => ?_⟩
  obtain rfl := List.mem_singleton.1 ha
  exact hrecord

/-- A pool whose record is gone has none after the answer either. -/
theorem static_record_missed : ∃ resp s',
    retrieveStaticIPAllocation { enableStatefulSet := true } {} "eth0" (pod "u2") (some endpoint)
      (server pool) = (.ok (some resp), s') ∧
      ∃ config ∈ resp.ips, ¬ Recorded s' "u2" config.ipPool (recordKey config.address) := by
  refine ⟨staticResponse, answered pool, rfl, _, List.mem_singleton_self _, ?_⟩
  rintro ⟨p, r, hp, hr, -⟩
  obtain rfl : pool = p := Option.some.inj hp
  cases hr

end Sample

end Spiderpool
