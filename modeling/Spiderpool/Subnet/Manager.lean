/-
# The subnet manager

`pkg/subnetmanager/subnet_manager.go` and `GenSubnetFreeIPs`. `ReconcileAutoIPPool`
brings the pool of an application to the number of addresses it should have. It first
records in the subnet's status which addresses the pool is given, and then writes the pool;
the two writes go to the API server one after the other, so that the second may not happen.

A pool whose recorded addresses are of the right number may have been left behind by such
a failure. If its Pods hold an address that is not recorded for it, the record is made
anew from the pool's own addresses (`reuseOrCorrect`).
-/

import Spiderpool.IP.Merged
import Spiderpool.IP.Subnet
import Spiderpool.IPPool.Manager
import Spiderpool.Subnet.AutoPool

namespace Spiderpool

/-- `UnmarshalSubnetAllocatedIPPools`, with an empty map for a nil one. -/
def unmarshalSubnetAllocatedIPPools :
    Option (Json PoolIPPreAllocations) → Result Err PoolIPPreAllocations
  | none => .ok ∅
  | some (.doc m) => .ok m
  | some (.malformed e) => fail (.new e)

def marshalSubnetAllocatedIPPools (m : PoolIPPreAllocations) : Option (Json PoolIPPreAllocations) :=
  if GoMap.len m = 0 then none else some (.doc m)

/-- What a call finds beside its arguments: the reserved addresses, the orders in which its
loops visit a map, and the room that `append` leaves in a slice of a given length. -/
structure SubnetEnv where
  reservedIPs : Result Err (List ReservedIP)
  pools : RangeOrder String PoolIPPreAllocation
  records : RangeOrder String PoolIPAllocation
  room : ℕ → ℕ
  le_room : ∀ n, n ≤ room n

def genSubnetFreeIPs (env : SubnetEnv) (subnet : SpiderSubnet) : Result Err (List Addr) := do
  let m ← unmarshalSubnetAllocatedIPPools subnet.status.controlledIPPools
  let used := (env.pools.visit m).flatMap fun pool => pool.2.ips
  let version ← deref subnet.spec.ipVersion
  let usedIPs ← parseIPRanges version used
  let totalIPs ← assembleTotalIPs version subnet.spec.ips subnet.spec.excludeIPs
  return ipsDiffSetSorted totalIPs usedIPs

/-- The loop of `subnetStatusCount`. -/
def countPools (ipVersion : Option IPVersion) :
    List (Σ _ : String, PoolIPPreAllocation) → Result Err ℤ
  | [] => .ok 0
  | pool :: pools => do
    let version ← deref ipVersion
    let tmpIPs ← dropErr (parseIPRanges version pool.2.ips)
    let sum ← countPools ipVersion pools
    return (tmpIPs.getD []).length + sum

def subnetStatusCount (env : SubnetEnv) (subnet : SpiderSubnet) : Result Err (ℤ × ℤ) := do
  let s ← dropErr (newCIDR subnet.spec.subnet subnet.spec.ips subnet.spec.excludeIPs)
  match subnet.status.controlledIPPools with
  | none | some (.malformed _) => return (0, 0)
  | some (.doc m) =>
    let allocatedIPCount ← countPools subnet.spec.ipVersion (env.pools.visit m)
    let s ← deref s
    return (s.totalIPInt, allocatedIPCount)

/-- The subnet with `allocation` recorded for the pool, and its counts: what all writes of
the status write. -/
def SpiderSubnet.setAllocation (env : SubnetEnv) (subnet : SpiderSubnet) (m : PoolIPPreAllocations)
    (poolName : String) (allocation : PoolIPPreAllocation) : Result Err SpiderSubnet := do
  let controlled := marshalSubnetAllocatedIPPools (m.insert poolName allocation)
  let subnet := { subnet with status := { subnet.status with controlledIPPools := controlled } }
  let (totalCount, allocatedCount) ← subnetStatusCount env subnet
  return { subnet with status := { subnet.status with
    totalIPCount := some totalCount, allocatedIPCount := some allocatedCount } }

/-- `total` less the first of its addresses that are not `allocated`, as many as there are
too many of them. -/
def discardIPs (env : SubnetEnv) (ipVersion : IPVersion) (total allocated : List Addr)
    (desiredIPNum : ℤ) : Result Err (List String) := do
  let freeIPs := ipsDiffSetSorted total allocated
  let discardedIPs ← sliceTo (env.room freeIPs.length) freeIPs (total.length - desiredIPNum)
  mapErr (.wrongInput "failed to convert ips to ipranges: ")
    (convertIPsToIPRanges ipVersion (ipsDiffSet total discardedIPs))

def poolIPAllocations (pool : IPPool) : Result Err PoolIPAllocations :=
  mapErr (.wrongInput ("failed to parse IPPool " ++ pool.name ++ " Status AllocatedIPs: "))
    (unmarshalIPPoolAllocatedIPs pool.status.allocatedIPs)

def recordedIPs (env : SubnetEnv) (ipVersion : IPVersion) (records : PoolIPAllocations) :
    Result Err (List Addr) :=
  parseIPRanges ipVersion ((env.records.visit records).map Sigma.fst)

def errScaleDown (pool : IPPool) : Err :=
  .wrap ("failed to scale down IPPool " ++ pool.name ++ " IPs: ") (.of .errFreeIPsNotEnough) ""

/-- The branch of `preAllocateIPsFromSubnet` where the pool has as many addresses recorded
as it should. -/
def reuseOrCorrect (env : SubnetEnv) (subnet : SpiderSubnet) (m : PoolIPPreAllocations)
    (pool : IPPool) (allocation : PoolIPPreAllocation) (subnetPoolIPs : List Addr)
    (ipVersion : IPVersion) (desiredIPNum : ℤ) : Result Err (List String × Option SpiderSubnet) := do
  let records ← poolIPAllocations pool
  let poolAllocatedIPs ← recordedIPs env ipVersion records
  if isDiffIPSet poolAllocatedIPs subnetPoolIPs then
    let poolTotalIPs ← mapErr (.wrongInput ("failed to parse IPPool " ++ pool.name ++
      " Spec TotalIPs: ")) (parseIPRanges ipVersion pool.spec.ips)
    failIf ((poolTotalIPs.length : ℤ) - poolAllocatedIPs.length < poolTotalIPs.length - desiredIPNum)
      (errScaleDown pool)
    let newPoolSpecIPRange ← discardIPs env ipVersion poolTotalIPs poolAllocatedIPs desiredIPNum
    let subnet ← subnet.setAllocation env m pool.name { allocation with ips := newPoolSpecIPRange }
    return (newPoolSpecIPRange, some subnet)
  else return (allocation.ips, none)

def shrink (env : SubnetEnv) (subnet : SpiderSubnet) (m : PoolIPPreAllocations) (pool : IPPool)
    (subnetPoolIPs : List Addr) (ipVersion : IPVersion) (desiredIPNum : ℤ)
    (podController : PodTopController) : Result Err (List String × Option SpiderSubnet) := do
  let records ← poolIPAllocations pool
  failIf ((subnetPoolIPs.length : ℤ) - GoMap.len records < subnetPoolIPs.length - desiredIPNum)
    (errScaleDown pool)
  let poolAllocatedIPs ← mapErr (.wrongInput "failed to parse IP ranges '[]', error: ")
    (recordedIPs env ipVersion records)
  let poolIPRange ← discardIPs env ipVersion subnetPoolIPs poolAllocatedIPs desiredIPNum
  let subnet ← subnet.setAllocation env m pool.name
    ⟨poolIPRange, some (applicationNamespacedName podController)⟩
  return (poolIPRange, some subnet)

/-- The rest of `preAllocateIPsFromSubnet`: `ipNum` free addresses are added to those the
pool had. -/
def allocateFree (env : SubnetEnv) (subnet : SpiderSubnet) (m : PoolIPPreAllocations)
    (pool : IPPool) (beforeAllocatedIPs : List Addr) (ipVersion : IPVersion) (ipNum : ℤ)
    (podController : PodTopController) : Result Err (List String × Option SpiderSubnet) := do
  let freeIPs ← mapErr (.wrap ("failed to generate SpiderSubnet '" ++ subnet.name ++
    "' free IPs, error: ") · "") (genSubnetFreeIPs env subnet)
  let reservedIPs ← mapErr (.wrongInput ("failed to filter reservedIPs '[]' by IP version '" ++
    toString ipVersion ++ "', error: ")) (assembleReservedIPs ipVersion env.reservedIPs)
  let freeIPs := if reservedIPs.length ≠ 0 then ipsDiffSetSorted freeIPs reservedIPs else freeIPs
  failIf (freeIPs.length < ipNum) (.new ("insufficient subnet FreeIPs, required '" ++
    toString ipNum ++ "' but only left '" ++ toString freeIPs.length ++ "'"))
  let allocateIPs ← sliceTo (env.room freeIPs.length) freeIPs ipNum
  let allocateIPRange ← mapErr (.wrongInput "failed to convert ips to ipranges: ")
    (convertIPsToIPRanges ipVersion (allocateIPs ++ beforeAllocatedIPs))
  let subnet ← subnet.setAllocation env m pool.name
    ⟨allocateIPRange, some (applicationNamespacedName podController)⟩
  return (allocateIPRange, some subnet)

/-- `preAllocateIPsFromSubnet`: the addresses the pool is given, and the subnet whose
status is written, if it is. -/
def preAllocateIPsFromSubnet (env : SubnetEnv) (subnet : SpiderSubnet) (pool : IPPool)
    (ipVersion : IPVersion) (desiredIPNum : ℤ) (podController : PodTopController) :
    Result Err (List String × Option SpiderSubnet) := do
  let m ← mapErr (.wrongInput ("failed to parse SpiderSubnet " ++ subnet.name ++
    " Status allocations: ")) (unmarshalSubnetAllocatedIPPools subnet.status.controlledIPPools)
  match m.lookup pool.name with
  | none => allocateFree env subnet m pool [] ipVersion desiredIPNum podController
  | some allocation =>
    let subnetPoolIPs ← mapErr (.wrongInput ("failed to parse SpiderSubnet '" ++ subnet.name ++
      "' Status ControlledIPPool '" ++ pool.name ++ "' IPs '" ++ formatList allocation.ips ++
      "', error: ")) (parseIPRanges ipVersion allocation.ips)
    if desiredIPNum = subnetPoolIPs.length then
      reuseOrCorrect env subnet m pool allocation subnetPoolIPs ipVersion desiredIPNum
    else if desiredIPNum < subnetPoolIPs.length then
      shrink env subnet m pool subnetPoolIPs ipVersion desiredIPNum podController
    else
      allocateFree env subnet m pool subnetPoolIPs ipVersion (desiredIPNum - subnetPoolIPs.length)
        podController

/-- What `ReconcileAutoIPPool` goes on to do: nothing, or to write the subnet's status, if
it changed, and then to create or update the pool. -/
inductive Reconciled where
  | unchanged (pool : IPPool)
  | write (subnet : Option SpiderSubnet) (create : Bool) (pool : IPPool)

/-- `ReconcileAutoIPPool` from its call of `preAllocateIPsFromSubnet` on. -/
def applyPool (env : SubnetEnv) (subnet : SpiderSubnet) (create : Bool) (pool : IPPool)
    (podController : PodTopController) (property : AutoPoolProperty) : Result Err Reconciled := do
  let (ips, written) ← mapErr (.wrap ("failed to pre-allocate auto-create IPPool " ++ pool.name ++
    " IPs from SpiderSubnet " ++ subnet.name ++ ": ") · "")
    (preAllocateIPsFromSubnet env subnet pool property.ipVersion property.desiredIPNumber podController)
  return .write written create { pool with spec := { pool.spec with ips := ips } }

/-- `ReconcileAutoIPPool` for a pool that exists. A pool without labels has a nil map of
them, and an assignment to it panics. -/
def reconcileExisting (env : SubnetEnv) (subnet : SpiderSubnet) (pool : IPPool)
    (podController : PodTopController) (property : AutoPoolProperty) : Result Err Reconciled := do
  failIf (pool.spec.subnet ≠ subnet.spec.subnet) (.wrap "" (.of .errWrongInput)
    (": it's invalid to change recoincile auto-created IPPool " ++ pool.name ++
      " with different subnet SpiderSubnet " ++ subnet.name))
  let poolIPs ← mapErr (.wrongInput ("failed to parse IPPool " ++ pool.name ++ " Spec IPs " ++
    formatList pool.spec.ips ++ ": ")) (parseIPRanges property.ipVersion pool.spec.ips)
  let oldAppUID := (pool.labels.lookup Constant.labelIPPoolOwnerApplicationUID).getD ""
  let oldReclaim := (pool.labels.lookup Constant.labelIPPoolReclaimIPPool).getD ""
  let reclaim := isReclaimAutoPoolLabelValue property.isReclaimIPPool
  if poolIPs.length = property.desiredIPNumber ∧ oldAppUID = podController.uid ∧
      oldReclaim = reclaim then
    return .unchanged pool
  else if GoMap.len pool.labels = 0 then .error .panic
  else
    let labels := (pool.labels.insert Constant.labelIPPoolOwnerApplicationUID podController.uid).insert
      Constant.labelIPPoolReclaimIPPool reclaim
    applyPool env subnet false { pool with labels := labels } podController property

/-- `ReconcileAutoIPPool`, up to its writes; `subnet` is what `GetSubnetByName` returns. -/
def reconcileAutoIPPool (env : SubnetEnv) (pool : Option IPPool) (subnetName : String)
    (podController : PodTopController) (property : AutoPoolProperty)
    (subnet : Result Err SpiderSubnet) : Result Err Reconciled := do
  failIf (subnetName.length = 0)
    (.wrap "" (.of .errWrongInput) ": spider subnet name must be specified")
  failIf (property.desiredIPNumber < 0) (.wrap "" (.of .errWrongInput) (": the required IP numbers '" ++
    toString property.desiredIPNumber ++ "' is invalid"))
  let subnet ← mapErr (.wrap ("failed to get SpiderSubnet " ++ subnetName ++ ", error: ") · "") subnet
  failIf (subnet.deletionTimestamp ≠ none) (.wrap "" (.of .errWrongInput) (": SpiderSubnet '" ++
    subnet.name ++ "' is terminating, we can't reconcile an auto-created IPPool from it"))
  match pool with
  | some pool => reconcileExisting env subnet pool podController property
  | none =>
    let pool ← newAutoPool subnet podController property
    applyPool env subnet true pool podController property

end Spiderpool
