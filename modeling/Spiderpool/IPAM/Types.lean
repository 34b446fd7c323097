/-
# What the IPAM of an agent works with

`pkg/ipam/types.go`, `pkg/ipam/config.go`, and what the calls of `pkg/ipam` depend on beside the
objects in the API server (`Env`): the clock, the tickets of the limiter, other objects, and the
order in which loops visit a map.
-/

import Spiderpool.Endpoint.Manager

namespace Spiderpool
namespace IPAM

structure Config extends EndpointManager.Config where
  enableIPv4 : Bool := true
  enableIPv6 : Bool := true
  enableSpiderSubnet : Bool := false
  enableAutoPoolForApplication : Bool := false
  enableReleaseConflictIPsForStateless : Bool := false
  enableIPConflictDetection : Bool := false
  enableGatewayDetection : Bool := false
  multusClusterNetwork : Option String := none
  agentNamespace : String := ""

structure PoolCandidate where
  ipVersion : IPVersion
  pools : List String
  pToIPPool : GoMap String IPPool := ∅

structure ToBeAllocated where
  nic : String
  cleanGateway : Bool := false
  poolCandidates : List PoolCandidate

def ToBeAllocated.pools (t : ToBeAllocated) : List String :=
  t.poolCandidates.flatMap PoolCandidate.pools

structure Env where
  now : ℤ := 0
  acquireTicket : List String → Result Err Unit := fun _ => .ok ()
  /-- `GetVMIMByName`: whether the migration of a virtual machine exists. -/
  hasVMIM : String → String → Result Err Bool := fun _ _ => .ok false
  ticketOrder : RangeOrder String (List IPAndUID) := .stored _ _
  poolOrder : RangeOrder String (List IPAndUID) := .stored _ _
  detailOrder : RangeOrder String IPAllocationDetail := .stored _ _

def isMultipleNicWithNoName (anno : PodAnnotations) : Bool :=
  match anno.ippools with
  | some (.doc items) => items.any (·.nic = "")
  | _ => false

/-- `%+v` of the addresses of a pool. -/
def formatIPAndUIDs (ius : List IPAndUID) : String :=
  formatList (ius.map fun iu => "\x7bIP:" ++ iu.ip ++ " UID:" ++ iu.uid ++ "\x7d")

/-- `%+v` of addresses by pool, which come out in the order of the names. -/
def formatPIUs (pius : PoolNameToIPAndUIDs) : String :=
  "map" ++ formatList ((pius.keys.insertionSort (· ≤ ·)).map fun pool =>
    pool ++ ":" ++ formatIPAndUIDs ((pius.lookup pool).getD []))

/-- The common body of `release` and `reallocateIPPoolIPRecords`: a call for each pool of the
details, under the tickets of all of them. -/
def onPools (env : Env) (failed : String)
    (attempt : List IPAndUID → IPPool → Result Err (Option IPPool)) (uid : String)
    (details : List IPAllocationDetail) : Api Unit := do
  let pius ← Eff.lift (groupIPAllocationDetails uid details)
  Eff.lift (mapErr (.wrap "failed to queue correctly: " · "")
    (env.acquireTicket (PoolNameToIPAndUIDs.pools pius env.ticketOrder)))
  let errs ← Eff.joinAll (fun e : Σ _ : String, List IPAndUID => onPool e.1 (attempt e.2))
    (env.poolOrder.visit pius)
  Eff.lift (failIf (errs ≠ []) (.wrap (failed ++ formatPIUs pius ++ ": ") (.aggregate errs) ""))

def release (env : Env) (uid : String) (details : List IPAllocationDetail) : Api Unit :=
  onPools env "failed to release all allocated IP addresses " releaseIP uid details

def reallocateIPPoolIPRecords (env : Env) (uid : String) (endpoint : SpiderEndpoint) : Api Unit :=
  onPools env "failed to re-allocate all allocated IP addresses "
    (updateAllocatedIPs (metaNamespaceKey endpoint.ns endpoint.name)) uid endpoint.ips

theorem onPools_endpoints {env : Env} {failed : String}
    {attempt : List IPAndUID → IPPool → Result Err (Option IPPool)} {uid : String}
    {details : List IPAllocationDetail} {s s' : ApiServer}
    (h : onPools env failed attempt uid details s = (.ok (), s')) : s'.endpoints = s.endpoints := by
  obtain ⟨pius, s₁, hgroup, h⟩ := Eff.bind_eq_ok.1 h
  obtain ⟨-, rfl⟩ := Eff.lift_eq_ok.1 hgroup
  obtain ⟨_, s₂, htickets, h⟩ := Eff.bind_eq_ok.1 h
  obtain ⟨-, rfl⟩ := Eff.lift_eq_ok.1 htickets
  obtain ⟨errs, s₃, hjoin, h⟩ := Eff.bind_eq_ok.1 h
  obtain ⟨-, rfl⟩ := Eff.lift_eq_ok.1 h
  have hkeep := Eff.joinAll_keeps (I := fun t : ApiServer => t.endpoints = s.endpoints)
    (fun e : Σ _ : String, List IPAndUID => onPool e.1 (attempt e.2)) (env.poolOrder.visit pius)
    (fun e _ t ht => (onPool_endpoints e.1 (attempt e.2) t).trans ht) rfl
  rwa [hjoin] at hkeep

end IPAM
end Spiderpool
