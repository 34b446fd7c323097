/-
# What the agent and its clients exchange

`api/v1/agent/models`, and `AllocationResult` of `pkg/types`. The pointers of these types that
are required are never nil and are left out.
-/

import Spiderpool.Constant

namespace Spiderpool

structure IPConfig where
  address : String
  gateway : String
  ipPool : String
  nic : String
  version : IPVersion
  vlan : ℤ := 0
  mac : String := ""
  enableGatewayDetection : Bool
  enableIPConflictDetection : Bool
deriving DecidableEq

/-- `models.Route`. -/
structure OAIRoute where
  ifName : String
  dst : String
  gw : String
deriving DecidableEq

structure AllocationResult where
  ip : IPConfig
  routes : List OAIRoute := []
  cleanGateway : Bool := false
deriving DecidableEq

structure IpamAddArgs where
  podNamespace : String
  podName : String
  ifName : String
  cleanGateway : Bool := false
  defaultIPV4IPPool : List String := []
  defaultIPV6IPPool : List String := []
  matchMasterSubnet : Bool := false
  netNamespace : String := ""

/-- `models.IpamAddResponse`. A route may be nil. -/
structure IpamAddResponse where
  ips : List IPConfig
  routes : List (Option OAIRoute)
deriving DecidableEq

end Spiderpool
