/-
# SpiderSubnet

The fields of `SpiderSubnet` that the modelled functions read or write.
`status.controlledIPPools` is a JSON text, as `status.allocatedIPs` of a pool is: the
ranges the subnet has given to each of its pools.
-/

import Spiderpool.IPPool.Types

namespace Spiderpool

/-- `PoolIPPreAllocation`: what a pool has been given, and for which application. -/
structure PoolIPPreAllocation where
  ips : List String
  application : Option String := none
deriving DecidableEq

abbrev PoolIPPreAllocations := GoMap String PoolIPPreAllocation

structure SubnetSpec where
  ipVersion : Option IPVersion := none
  subnet : String
  ips : List String := []
  excludeIPs : List String := []
  gateway : Option String := none
  routes : List Route := []

structure SubnetStatus where
  controlledIPPools : Option (Json PoolIPPreAllocations) := none
  totalIPCount : Option ℤ := none
  allocatedIPCount : Option ℤ := none

structure SpiderSubnet where
  name : String
  uid : String := ""
  labels : GoMap String String := ∅
  deletionTimestamp : Option ℤ := none
  spec : SubnetSpec
  status : SubnetStatus := {}

end Spiderpool
