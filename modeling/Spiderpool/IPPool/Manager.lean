/-
# The IPPool manager

`pkg/ippoolmanager/ippool_manager.go`: what one attempt of `AllocateIP`, `ReleaseIP`
and `UpdateAllocatedIPs` makes of the pool it has read. The retries around an
attempt, and the condition under which its write commits, are those of
`Spiderpool.Base.Versioned`.
-/

import Spiderpool.IPPool.Types
import Spiderpool.Models

namespace Spiderpool

/-- `IPPoolManagerConfig`, defaults set. The message about the threshold prints the
pointer `MaxAllocatedIPs`, not the number it points to. -/
structure IPPoolManagerConfig where
  maxAllocatedIPs : ℕ
  maxAllocatedIPsPointer : ℕ := 0
  enableKubevirtStaticIP : Bool := false
  enableGatewayDetection : Bool := false
  enableIPConflictDetection : Bool := false

structure ReservedIP where
  ips : List String
  deletionTimestamp : Option ℤ := none

namespace IPPool

/-- The pool with `status.allocatedIPs` set to these records. -/
def setRecords (p : IPPool) (records : PoolIPAllocations) : IPPool :=
  { p with status := { p.status with allocatedIPs := marshalIPPoolAllocatedIPs records } }

def setCount (p : IPPool) (n : ℤ) : IPPool :=
  { p with status := { p.status with allocatedIPCount := some n } }

@[simp] theorem records_setRecords (p : IPPool) (m : PoolIPAllocations) :
    (p.setRecords m).status.records = m :=
  IPPoolStatus.records_of_marshal rfl

@[simp] theorem records_setCount (p : IPPool) (n : ℤ) :
    (p.setCount n).status.records = p.status.records := rfl

end IPPool

/-- `AssembleReservedIPs`, from the reserved addresses of the version or the error of
listing them. -/
def assembleReservedIPs (version : IPVersion) (rIPs : Result Err (List ReservedIP)) :
    Result Err (List Addr) := do
  isIPVersion version
  let rIPs ← rIPs
  parseIPRanges version ((rIPs.filter fun r => r.deletionTimestamp = none).flatMap ReservedIP.ips)

/-- The first loop of `genRandomIP`: the address already recorded for the UID, or the
addresses in use. -/
def scanRecords (uid : String) : List (Σ _ : String, PoolIPAllocation) → String ⊕ List String
  | [] => .inr []
  | ⟨ip, record⟩ :: rest =>
    if record.podUID = uid then .inl ip else (scanRecords uid rest).map id (ip :: ·)

def findAllocatedIPFromRecords (records : List (Σ _ : String, PoolIPAllocation))
    (namespacedName podUID : String) : Option String :=
  (records.find? fun r => r.2.namespacedName = namespacedName ∧ r.2.podUID = podUID).map (·.1)

/-- The key under which `genRandomIP` records the Pod: that of the virtual machine
instance, if it keeps the address of one. -/
def podKey (cfg : IPPoolManagerConfig) (pod : Pod) (podController : PodTopController) : String :=
  if cfg.enableKubevirtStaticIP ∧ podController.apiVersion = Constant.kubevirtV1 ∧
      podController.kind = Constant.kindKubevirtVMI then
    metaNamespaceKey pod.ns podController.name
  else metaNamespaceKey pod.ns pod.name

/-- The addresses `genRandomIP` chooses from: those found available, or else that of a
previous record. -/
def availableIPs (version : IPVersion) (previous : Option String) : List Addr → Result Err (List Addr)
  | [] =>
    match previous with
    | none => fail (.of .errIPUsedOut)
    | some ip => parseIPRange version ip
  | ip :: ips => .ok (ip :: ips)

/-- What `genRandomIP` depends on beside the pool and the Pod: the reserved addresses
listed, and the orders in which its two loops visit the records. -/
structure GenEnv where
  rIPs : Result Err (List ReservedIP)
  order : RangeOrder String PoolIPAllocation
  order' : RangeOrder String PoolIPAllocation

/-- `genRandomIP`: the address, and the pool with its new status. -/
def genRandomIP (cfg : IPPoolManagerConfig) (env : GenEnv) (pod : Pod)
    (podController : PodTopController) (p : IPPool) : Result Err (IP × IPPool) := do
  let version ← deref p.spec.ipVersion
  let reservedIPs ← assembleReservedIPs version env.rIPs
  let allocatedRecords ← unmarshalIPPoolAllocatedIPs p.status.allocatedIPs
  match scanRecords pod.uid (env.order.visit allocatedRecords) with
  | .inl ip => return (parseIP ip, p)
  | .inr used =>
    let usedIPs ← parseIPRanges version used
    let unAvailableIPs ← parseIPRanges version p.spec.excludeIPs
    let key := podKey cfg pod podController
    let ips ← availableIPs version
      (findAllocatedIPFromRecords (env.order'.visit allocatedRecords) key pod.uid)
      (findAvailableIPs p.spec.ips (unAvailableIPs ++ (reservedIPs ++ usedIPs)) 1)
    let resIP ← deref ips.head?
    failIf (cfg.maxAllocatedIPs < usedIPs.length + 1)
      (.wrap "" (.of .errIPUsedOut) (", threshold of IP records(<=" ++
        toString cfg.maxAllocatedIPsPointer ++ ") for IPPool " ++ p.name ++ " exceeded"))
    return (some resIP, (p.setRecords (allocatedRecords.insert resIP.string ⟨key, pod.uid⟩)).setCount
      (usedIPs.length + 1))

/-- `GenIPConfigResult` and the two fields `AllocateIP` sets after it. A subnet that does
not parse leaves a nil network. -/
def genIPConfigResult (cfg : IPPoolManagerConfig) (ip : IP) (nic : String) (p : IPPool) :
    Result Err IPConfig := do
  let version ← deref p.spec.ipVersion
  match parseIPOf version p.spec.subnet true with
  | .error _ => .error .panic
  | .ok ipNet =>
    .ok {
      address := { ipNet with ip := ip }.string
      gateway := p.spec.gateway.getD ""
      ipPool := p.name
      nic := nic
      version := version
      enableGatewayDetection := cfg.enableGatewayDetection
      enableIPConflictDetection := cfg.enableIPConflictDetection }

/-- `AllocateIP` while nobody else writes to the pool: its result, and the pool then stored. -/
def allocateIP (cfg : IPPoolManagerConfig) (env : GenEnv) (nic : String) (pod : Pod)
    (podController : PodTopController) (p : IPPool) : Result Err IPConfig × IPPool :=
  match genRandomIP cfg env pod podController p with
  | .error e => (.error e, p)
  | .ok (ip, p') => (genIPConfigResult cfg ip nic p', p')

/-- The loop of `ReleaseIP`: the records, the count, and whether one was released. -/
def releaseLoop : List IPAndUID → PoolIPAllocations → ℤ → Bool → PoolIPAllocations × ℤ × Bool
  | [], m, n, release => (m, n, release)
  | iu :: ius, m, n, release =>
    match m.lookup iu.ip with
    | some record =>
      if record.podUID = iu.uid then releaseLoop ius (m.erase iu.ip) (GoMap.len (m.erase iu.ip)) true
      else releaseLoop ius m n release
    | none => releaseLoop ius m n release

/-- One attempt of `ReleaseIP`: the pool it writes, if it writes one. -/
def releaseIP (ius : List IPAndUID) (p : IPPool) : Result Err (Option IPPool) := do
  let allocatedRecords ← unmarshalIPPoolAllocatedIPs p.status.allocatedIPs
  match releaseLoop ius allocatedRecords (p.status.allocatedIPCount.getD 0) false with
  | (_, _, false) => return none
  | (m, n, true) => return some ((p.setRecords m).setCount n)

/-- The loop of `UpdateAllocatedIPs`: the records, and whether one was changed. -/
def updateLoop (poolName namespacedName : String) :
    List IPAndUID → PoolIPAllocations → Bool → Result Err (PoolIPAllocations × Bool)
  | [], m, recreate => .ok (m, recreate)
  | iu :: ius, m, recreate =>
    match m.lookup iu.ip with
    | some record =>
      if record.namespacedName ≠ namespacedName then
        fail (.new ("failed to update allocated IP because of data broken: IPPool " ++ poolName ++
          " IP " ++ iu.ip ++ " allocation detail \x7b" ++ record.namespacedName ++ " " ++
          record.podUID ++ "\x7d mistach namespacedName " ++ namespacedName))
      else if record.podUID ≠ iu.uid then
        updateLoop poolName namespacedName ius (m.insert iu.ip { record with podUID := iu.uid }) true
      else updateLoop poolName namespacedName ius m recreate
    | none => updateLoop poolName namespacedName ius m recreate

/-- One attempt of `UpdateAllocatedIPs`: the pool it writes, if it writes one. -/
def updateAllocatedIPs (namespacedName : String) (ius : List IPAndUID) (p : IPPool) :
    Result Err (Option IPPool) := do
  let allocatedRecords ← unmarshalIPPoolAllocatedIPs p.status.allocatedIPs
  let (m, recreate) ← updateLoop p.name namespacedName ius allocatedRecords false
  if recreate then return some (p.setRecords m) else return none

end Spiderpool
