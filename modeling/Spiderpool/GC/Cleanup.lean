/-
# Endpoints without a record

`cleanOutdateEndpoint` of `pkg/gcmanager/scanAll_IPPool.go` goes through the pools that the details
of an endpoint list, and deletes the endpoint if it has no record there. The check is made for each
pool by itself: one pool without a record is enough, whatever the others hold
(`releaseEndpoint_mem_iff`), while a pool that cannot be read counts for nothing.
-/

import Spiderpool.GC.Live

namespace Spiderpool

/-- The pools that the details of an endpoint list, in the order of the details. -/
def SpiderEndpoint.pools (e : SpiderEndpoint) : List String :=
  e.ips.flatMap fun detail => detail.ipv4Pool.toList ++ detail.ipv6Pool.toList

namespace ScanInput

variable {inp : ScanInput} {e : SpiderEndpoint} {poolName ns name : String}

def recordsOf (inp : ScanInput) (poolName : String) : Option PoolIPAllocations :=
  match inp.pool poolName with
  | .notFound | .failed _ => none
  | .found p => (unmarshalIPPoolAllocatedIPs p.status.allocatedIPs).toOption

/-- In what was read of the pool there is a record of the endpoint. -/
def Records (inp : ScanInput) (e : SpiderEndpoint) (poolName : String) : Prop :=
  ∃ m, inp.recordsOf poolName = some m ∧ ∃ r ∈ m.entries, r.2.namespacedName = e.key

def Lacks (inp : ScanInput) (e : SpiderEndpoint) (poolName : String) : Prop :=
  ∃ m, inp.recordsOf poolName = some m ∧ ∀ r ∈ m.entries, r.2.namespacedName ≠ e.key

theorem checkEndpointExistInIPPool_eq (inp : ScanInput) (e : SpiderEndpoint) (poolName : String) :
    checkEndpointExistInIPPool inp e poolName =
      (inp.recordsOf poolName).elim [] fun m =>
        if m.entries.any fun r => r.2.namespacedName == e.key then []
        else [.releaseEndpoint e.ns e.name] := by
  unfold checkEndpointExistInIPPool recordsOf
  cases inp.pool poolName with
  | notFound => rfl
  | failed err => rfl
  | found p =>
    dsimp only
    cases unmarshalIPPoolAllocatedIPs p.status.allocatedIPs <;> rfl

theorem mem_checkEndpointExistInIPPool :
    .releaseEndpoint ns name ∈ checkEndpointExistInIPPool inp e poolName ↔
      ns = e.ns ∧ name = e.name ∧ inp.Lacks e poolName := by
  rw [checkEndpointExistInIPPool_eq, Lacks]
  cases inp.recordsOf poolName with
  | none => simp
  | some m =>
    by_cases hany : m.entries.any fun r => r.2.namespacedName == e.key
    · obtain ⟨r, hr, hkey⟩ := List.any_eq_true.1 hany
      have hnone : ¬∀ r ∈ m.entries, r.2.namespacedName ≠ e.key :=
        fun h => h r hr (beq_iff_eq.1 hkey)
      simp [hany, hnone]
    · have hnone : ∀ r ∈ m.entries, r.2.namespacedName ≠ e.key := by
        intro r hr hkey
        exact hany (List.any_eq_true.2 ⟨r, hr, beq_iff_eq.2 hkey⟩)
      have hlacks : ∃ m', some m = some m' ∧ ∀ r ∈ m'.entries, r.2.namespacedName ≠ e.key :=
        ⟨m, rfl, hnone⟩
      simp only [Option.elim_some, if_neg hany, List.mem_singleton, GCCall.releaseEndpoint.injEq,
        hlacks, and_true]

theorem releaseEndpoint_mem_iff {suspicious : List SpiderEndpoint} :
    .releaseEndpoint ns name ∈ cleanOutdateEndpoint inp suspicious ↔
      ∃ e ∈ suspicious, ns = e.ns ∧ name = e.name ∧ ∃ p ∈ e.pools, inp.Lacks e p := by
  simp only [cleanOutdateEndpoint, SpiderEndpoint.pools, ← List.flatMap_assoc, List.mem_flatMap,
    mem_checkEndpointExistInIPPool]
  constructor
  · rintro ⟨e, he, p, hp, hns, hname, hlacks⟩
    exact ⟨e, he, hns, hname, p, hp, hlacks⟩
  · rintro ⟨e, he, hns, hname, p, hp, hlacks⟩
    exact ⟨e, he, p, hp, hns, hname, hlacks⟩

end ScanInput

open ScanInput

/-- **An endpoint is deleted only if no pool that it lists holds a record of it**, exactly if no
endpoint has a record in one of its pools and none in another. The suspicious endpoints are kept in
a map, by their names. -/
theorem spares_recorded_iff {inp : ScanInput} {suspicious : List SpiderEndpoint}
    (hkeys : (suspicious.map SpiderEndpoint.key).Nodup) :
    (∀ e ∈ suspicious, .releaseEndpoint e.ns e.name ∈ cleanOutdateEndpoint inp suspicious →
        ∀ p ∈ e.pools, ¬inp.Records e p) ↔
      ∀ e ∈ suspicious, ∀ p ∈ e.pools, inp.Records e p → ∀ q ∈ e.pools, ¬inp.Lacks e q := by
  constructor
  · intro h e he p hp hrecords q hq hlacks
    have hmem := releaseEndpoint_mem_iff.2 ⟨e, he, rfl, rfl, q, hq, hlacks⟩
    exact h e he hmem p hp hrecords
  · intro h e he hmem p hp hrecords
    obtain ⟨e', he', hns, hname, q, hq, hlacks⟩ := releaseEndpoint_mem_iff.1 hmem
    have hkey : e.key = e'.key := by rw [SpiderEndpoint.key, SpiderEndpoint.key, hns, hname]
    obtain rfl := List.inj_on_of_nodup_map hkeys he he' hkey
    exact h e he p hp hrecords q hq hlacks

namespace Sample

def twoPools : SpiderEndpoint where
  ns := "default"
  name := "web-0"
  uid := "u1"
  ownerControllerType := Constant.kindDeployment
  ips := [{ nic := "eth0", ipv4 := some "10.0.0.1/24", ipv4Pool := some "a" },
    { nic := "net1", ipv4 := some "10.1.0.1/24", ipv4Pool := some "b" }]

def cleanupInput (records : String → PoolIPAllocations) : ScanInput where
  endpoints := .ok [twoPools]
  pools := .ok []
  order := .stored _ _
  view _ := viewOf runningPod "u1" Constant.kindDeployment
  pool name := .found {
    name := name
    spec := { subnet := "10.0.0.0/16" }
    status := { allocatedIPs := some (.doc (records name)) } }

/-- No pool has a record of it: it is deleted, as it should be. -/
theorem unrecorded_deleted :
    .releaseEndpoint "default" "web-0" ∈
      cleanOutdateEndpoint (cleanupInput fun _ => ∅) [twoPools] ∧
    ∀ p ∈ twoPools.pools, ¬(cleanupInput fun _ => ∅).Records twoPools p := by
  have hmem : .releaseEndpoint "default" "web-0" ∈
      cleanOutdateEndpoint (cleanupInput fun _ => ∅) [twoPools] := by decide
  have hempty : ∀ p, ¬(cleanupInput fun _ => ∅).Records twoPools p := by
    rintro p ⟨m, hm, r, hr, -⟩
    obtain rfl := Option.some.inj hm
    exact absurd hr List.not_mem_nil
  refine ⟨hmem, (spares_recorded_iff (by decide)).2 ?_ twoPools (List.mem_singleton_self _) hmem⟩
  intro e he p _ hrecords
  obtain rfl := List.mem_singleton.1 he
  exact absurd hrecords (hempty p)

def secondRecorded (poolName : String) : PoolIPAllocations :=
  if poolName = "b" then AList.insert "10.1.0.1" ⟨"default/web-0", "u1"⟩ ∅ else ∅

/-- It is deleted for want of a record in the first. -/
theorem recorded_deleted :
    .releaseEndpoint "default" "web-0" ∈
      cleanOutdateEndpoint (cleanupInput secondRecorded) [twoPools] ∧
    "b" ∈ twoPools.pools ∧ (cleanupInput secondRecorded).Records twoPools "b" := by
  refine ⟨by decide, by decide, _, rfl, ⟨"10.1.0.1", ⟨"default/web-0", "u1"⟩⟩, ?_, rfl⟩
  exact List.mem_singleton_self _

end Sample
end Spiderpool
