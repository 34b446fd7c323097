/-
# The subnet informer

`syncControlledIPPoolIPs` (`pkg/subnetmanager/subnet_informer.go`) makes the status of a subnet
anew. The entry of an auto-created pool is kept unless its application and the pool are gone;
the entry of another pool is what its `spec` has in common with the subnet's total addresses; and
the total count is the number of addresses that `AssembleTotalIPs` lists.
-/

import Spiderpool.IP.TotalIPs
import Spiderpool.IPPool.Validate
import Spiderpool.Subnet.Controlled

namespace Spiderpool

structure AppNamespacedName where
  apiVersion : String
  kind : String
  ns : String
  name : String

def groupVersionString (group version : String) : String :=
  if group.length > 0 then group ++ "/" ++ version else version

def parseApplicationNamespacedName (appNamespacedNameKey : String) : Option AppNamespacedName :=
  match split appNamespacedNameKey '_' with
  | [version, kind, ns, name] => some ⟨groupVersionString "" version, kind, ns, name⟩
  | [group, version, kind, ns, name] => some ⟨groupVersionString group version, kind, ns, name⟩
  | _ => none

def isThirdController (app : AppNamespacedName) : Bool :=
  if app.apiVersion ∈ Constant.k8sAPIVersions then app.kind ∉ Constant.k8sKinds else true

/-- The application as `%v` prints it. -/
def AppNamespacedName.format (app : AppNamespacedName) : String :=
  "\x7b" ++ app.apiVersion ++ " " ++ app.kind ++ " " ++ app.ns ++ " " ++ app.name ++ "\x7d"

def ipsIntersectionSet (ips1 ips2 : List Addr) : List Addr := (ips2.filter (· ∈ ips1)).dedup

/-- What the informer finds: the applications, its cache of the pools, and the orders in which
its loops visit a map of entries and a set of addresses. -/
structure InformerEnv where
  isAppExist : AppNamespacedName → Result Err Bool
  monitorThirdController : AppNamespacedName → Result Err Unit
  /-- `IPPoolsLister.Get` finds no such pool. -/
  isNotFound : String → Bool
  ipPools : Result Err (List IPPool)
  pools : RangeOrder String PoolIPPreAllocation
  marks : List Addr → List Addr
  marks_perm : ∀ set, (marks set).Perm set

/-- One round of the first loop of `syncControlledIPPoolIPs`: the number of addresses of an entry
that is kept. -/
def keepEntry (env : InformerEnv) (ipVersion : Option IPVersion) (poolName : String)
    (preAllocation : PoolIPPreAllocation) : Result Err (Option ℕ) :=
  match preAllocation.application.bind parseApplicationNamespacedName with
  | none => .ok none
  | some app => do
    let exist ← mapErr (.wrap ("failed to check whether the application " ++ app.format ++
      " corresponding to the auto-created IPPool " ++ poolName ++ " exists: ") · "")
      (env.isAppExist app)
    if exist && isThirdController app then
      mapErr (.wrap ("failed to monitor third-party application " ++ app.format ++
        " for auto-created IPPool " ++ poolName ++ ": ") · "") (env.monitorThirdController app)
    if !exist && env.isNotFound poolName then return none
    let version ← deref ipVersion
    let autoIPPoolIPs ← dropErr (parseIPRanges version preAllocation.ips)
    return autoIPPoolIPs.map List.length

def syncAutoIPPools (env : InformerEnv) (ipVersion : Option IPVersion) :
    List (Σ _ : String, PoolIPPreAllocation) → ℤ × PoolIPPreAllocations →
      Result Err (ℤ × PoolIPPreAllocations)
  | [], acc => .ok acc
  | ⟨poolName, preAllocation⟩ :: rest, (tmpCount, m) => do
    match ← keepEntry env ipVersion poolName preAllocation with
    | none => syncAutoIPPools env ipVersion rest (tmpCount, m)
    | some n => syncAutoIPPools env ipVersion rest (tmpCount + n, m.insert poolName preAllocation)

def syncIPPools (env : InformerEnv) (version : IPVersion) (subnetTotalIPs : List Addr) :
    List IPPool → ℤ × PoolIPPreAllocations → Result Err (ℤ × PoolIPPreAllocations)
  | [], acc => .ok acc
  | ipPool :: rest, (tmpCount, m) =>
    if isAutoCreatedIPPool ipPool then syncIPPools env version subnetTotalIPs rest (tmpCount, m)
    else do
      match ← dropErr (assembleTotalIPs version ipPool.spec.ips ipPool.spec.excludeIPs) with
      | none | some [] => syncIPPools env version subnetTotalIPs rest (tmpCount, m)
      | some poolTotalIPs =>
        let validIPs := env.marks (ipsIntersectionSet subnetTotalIPs poolTotalIPs)
        let poolVersion ← deref ipPool.spec.ipVersion
        let ranges ← dropErr (convertIPsToIPRanges poolVersion validIPs)
        syncIPPools env version subnetTotalIPs rest
          (tmpCount + validIPs.length, m.insert ipPool.name ⟨ranges.getD [], none⟩)

/-- `reflect.DeepEqual` of two maps of entries, neither nil. -/
def sameEntries (m m' : PoolIPPreAllocations) : Bool :=
  (m.keys ++ m'.keys).all fun name => m.lookup name = m'.lookup name

/-- `syncControlledIPPoolIPs`: the subnet whose status is written, if it is. Where the status has
no entries, the map is nil, and never equal to the new one. -/
def syncControlledIPPoolIPs (env : InformerEnv) (subnet : SpiderSubnet) :
    Result Err (Option SpiderSubnet) := do
  let preAllocations ← mapErr (.wrap ("failed to unmarshal the controlled IPPools of Subnet " ++
    subnet.name ++ ": ") · "") (unmarshalSubnetAllocatedIPPools subnet.status.controlledIPPools)
  let autoPools ← syncAutoIPPools env subnet.spec.ipVersion (env.pools.visit preAllocations) (0, ∅)
  let ipPools ← env.ipPools
  let owned := ipPools.filter fun p =>
    p.labels.lookup Constant.labelIPPoolOwnerSpiderSubnet = some subnet.name
  let version ← deref subnet.spec.ipVersion
  let subnetTotalIPs ← assembleTotalIPs version subnet.spec.ips subnet.spec.excludeIPs
  let (tmpCount, newPreAllocations) ← syncIPPools env version subnetTotalIPs owned autoPools
  let equal := subnet.status.controlledIPPools.isSome && sameEntries newPreAllocations preAllocations
  let status : SubnetStatus := if equal then subnet.status else
    { subnet.status with
      controlledIPPools := marshalSubnetAllocatedIPPools newPreAllocations
      allocatedIPCount := some tmpCount }
  let totalIPCount : ℤ := subnetTotalIPs.length
  if equal && subnet.status.totalIPCount = some totalIPCount then return none
  return some { subnet with status := { status with totalIPCount := some totalIPCount } }

namespace Sample

def subnetOf (ipVersion : IPVersion) (subnet ips excludeIPs : String) : SpiderSubnet where
  name := "subnet"
  spec := { ipVersion := some ipVersion, subnet := subnet, ips := [ips], excludeIPs := [excludeIPs] }

def informerEnv : InformerEnv :=
  ⟨fun _ => .ok true, fun _ => .ok (), fun _ => false, .ok [], .stored _ _, id, List.Perm.refl⟩

end Sample

end Spiderpool
