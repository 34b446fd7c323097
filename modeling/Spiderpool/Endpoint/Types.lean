/-
# SpiderEndpoint

The fields of `SpiderEndpoint` that the modelled functions read or write. The status is not
a subresource: an update writes it with the rest.
-/

import Spiderpool.IPPool.Types

namespace Spiderpool

/-- `IPAllocationDetail`: what one interface has been given. -/
structure IPAllocationDetail where
  nic : String := ""
  ipv4 : Option String := none
  ipv6 : Option String := none
  ipv4Pool : Option String := none
  ipv6Pool : Option String := none
  vlan : Option ℤ := none
  ipv4Gateway : Option String := none
  ipv6Gateway : Option String := none
  cleanGateway : Option Bool := none
  routes : List Route := []
  mac : Option String := none
deriving DecidableEq

/-- `SpiderEndpoint`. The UID, the node and the addresses are those of
`status.current`. -/
structure SpiderEndpoint where
  ns : String
  name : String
  finalizers : List String := []
  ownerReferences : List OwnerReference := []
  deletionTimestamp : Option ℤ := none
  uid : String
  node : String := ""
  ips : List IPAllocationDetail := []
  ownerControllerType : String
  ownerControllerName : String := ""
deriving DecidableEq

abbrev PoolNameToIPAndUIDs := GoMap String (List IPAndUID)

def PoolNameToIPAndUIDs.pools (pius : PoolNameToIPAndUIDs)
    (o : RangeOrder String (List IPAndUID)) : List String :=
  (o.visit pius).map Sigma.fst

end Spiderpool
