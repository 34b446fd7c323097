/-
# Conversions between results, details and responses

`pkg/utils/convert/convert.go`. An allocation ends in a list of results, one for each
interface and IP version, in the order in which they were finished. The response of the
first ADD is made from the results (`convertResultsToIPConfigsAndAllRoutes`). The endpoint
keeps one detail for each interface, into which the results of both versions are merged
(`convertResultsToIPDetails`), and the response of a later ADD is made from the details
(`convertIPDetailsToIPConfigsAndAllRoutes`).
-/

import Spiderpool.Base.Group
import Spiderpool.Endpoint.Types
import Spiderpool.Models

namespace Spiderpool

/-- `genDefaultRoute`: nil, if the gateway is not an address. -/
def genDefaultRoute (nic gateway : String) : Option OAIRoute :=
  if isIPv6 gateway then some ⟨nic, "::/0", gateway⟩
  else if isIPv4 gateway then some ⟨nic, "0.0.0.0/0", gateway⟩
  else none

def convertSpecRoutesToOAIRoutes (nic : String) (specRoutes : List Route) : List OAIRoute :=
  specRoutes.map fun r => ⟨nic, r.dst, r.gw⟩

def convertOAIRoutesToSpecRoutes (oaiRoutes : List OAIRoute) : List Route :=
  oaiRoutes.map fun r => ⟨r.dst, r.gw⟩

/-! ### From details -/

abbrev Answer := List IPConfig × List (Option OAIRoute)

/-- One version of a detail: its configuration, and its default route unless the gateway is
cleaned. -/
def convertFamily (enableIPConflictDetection enableGatewayDetection : Bool)
    (d : IPAllocationDetail) (version : IPVersion) :
    (address pool gateway : Option String) → Result Err Answer
  | none, _, _ => .ok ([], [])
  | some address, pool, gateway => do
    let pool ← deref pool
    let vlan ← deref d.vlan
    let config : IPConfig := {
      address := address
      gateway := gateway.getD ""
      ipPool := pool
      nic := d.nic
      version := version
      vlan := vlan
      enableGatewayDetection := enableGatewayDetection
      enableIPConflictDetection := enableIPConflictDetection }
    let routes := match gateway with
      | some gateway => if d.cleanGateway = some true then [] else [genDefaultRoute d.nic gateway]
      | none => []
    return ([config], routes)

/-- The body of the loop of `ConvertIPDetailsToIPConfigsAndAllRoutes`. -/
def convertIPDetail (enableIPConflictDetection enableGatewayDetection : Bool)
    (d : IPAllocationDetail) : Result Err Answer := do
  let v4 ← convertFamily enableIPConflictDetection enableGatewayDetection d Constant.ipv4
    d.ipv4 d.ipv4Pool d.ipv4Gateway
  let v6 ← convertFamily enableIPConflictDetection enableGatewayDetection d Constant.ipv6
    d.ipv6 d.ipv6Pool d.ipv6Gateway
  return (v4.1 ++ v6.1, v4.2 ++ v6.2 ++ (convertSpecRoutesToOAIRoutes d.nic d.routes).map some)

def convertIPDetailsToIPConfigsAndAllRoutes
    (enableIPConflictDetection enableGatewayDetection : Bool) :
    List IPAllocationDetail → Result Err Answer
  | [] => .ok ([], [])
  | d :: details => do
    let a ← convertIPDetail enableIPConflictDetection enableGatewayDetection d
    let rest ← convertIPDetailsToIPConfigsAndAllRoutes enableIPConflictDetection
      enableGatewayDetection details
    return (a.1 ++ rest.1, a.2 ++ rest.2)

/-! ### From results -/

/-- The routes of one result, in `ConvertResultsToIPConfigsAndAllRoutes`. -/
def AllocationResult.allRoutes (r : AllocationResult) : List (Option OAIRoute) :=
  r.routes.map some ++
    if r.cleanGateway then []
    else if r.ip.gateway ≠ "" then [genDefaultRoute r.ip.nic r.ip.gateway]
    else []

def convertResultsToIPConfigsAndAllRoutes (results : List AllocationResult) : Answer :=
  (results.map AllocationResult.ip, results.flatMap AllocationResult.allRoutes)

def AllocationResult.gateway (r : AllocationResult) : Option String :=
  if r.ip.gateway ≠ "" then some r.ip.gateway else none

def AllocationResult.clean (r : AllocationResult) : Option Bool :=
  if r.ip.gateway ≠ "" then some r.cleanGateway else none

/-- The detail with the address of the result, its pool and its gateway, by its version. -/
def setFamily (d : IPAllocationDetail) (r : AllocationResult) : IPAllocationDetail :=
  if r.ip.version = Constant.ipv4 then
    { d with ipv4 := some r.ip.address, ipv4Pool := some r.ip.ipPool, ipv4Gateway := r.gateway }
  else
    { d with ipv6 := some r.ip.address, ipv6Pool := some r.ip.ipPool, ipv6Gateway := r.gateway }

/-- The body of the loop of `ConvertResultsToIPDetails`: the result starts the detail of its
interface, or is merged into it. The clean flag and the VLAN stay those of the first result. -/
def addResult (d : Option IPAllocationDetail) (r : AllocationResult) : IPAllocationDetail :=
  let routes := convertOAIRoutesToSpecRoutes r.routes
  match d with
  | some d =>
    let d := setFamily { d with routes := d.routes ++ routes } r
    if d.mac = none ∧ r.ip.mac ≠ "" then { d with mac := some r.ip.mac } else d
  | none =>
    setFamily {
      nic := r.ip.nic
      vlan := some r.ip.vlan
      cleanGateway := r.clean
      routes := routes
      mac := if r.ip.mac ≠ "" then some r.ip.mac else none } r

/-- The comparison by which unnamed interfaces are sorted; a name that is no number is less
than none. -/
def nicLess (nic nic' : String) : Bool :=
  match atoi nic, atoi nic' with
  | some pre, some latter => decide (pre < latter)
  | _, _ => false

namespace Constant

def clusterDefaultInterfaceName := "eth0"

end Constant

/-- The names that unnamed interfaces are recorded under: the first is the default one, the
others have none yet. -/
def renameNICs : List IPAllocationDetail → List IPAllocationDetail
  | [] => []
  | d :: details =>
    { d with nic := Constant.clusterDefaultInterfaceName } ::
      details.map fun d => { d with nic := "" }

def convertResultsToIPDetails (o : RangeOrder String IPAllocationDetail)
    (results : List AllocationResult) (isMultipleNicWithNoName : Bool) : List IPAllocationDetail :=
  let nicToDetail := GoMap.collect (fun r => r.ip.nic) addResult results
  let details := (o.visit nicToDetail).map Sigma.snd
  if isMultipleNicWithNoName then
    renameNICs (sortSlice (fun d d' => nicLess d.nic d'.nic) details)
  else details

/-! ### Grouping by pool -/

/-- The key under which a pool records the address of a configuration. -/
def recordKey (address : String) : String := (split address '/').head (split_ne_nil address '/')

/-- One address of a detail, filed under its pool; an address without a pool panics. -/
def groupIP (uid : String) (pius : PoolNameToIPAndUIDs) :
    (ip pool : Option String) → Result Err PoolNameToIPAndUIDs
  | none, _ => .ok pius
  | some ip, pool => do
    let pool ← deref pool
    let iu := ⟨(split ip '/').head (split_ne_nil ip '/'), uid⟩
    return pius.insert pool ((pius.lookup pool).getD [] ++ [iu])

def groupIPAllocationDetails (uid : String) (details : List IPAllocationDetail) :
    Result Err PoolNameToIPAndUIDs :=
  details.foldlM (fun pius d => do
    let pius ← groupIP uid pius d.ipv4 d.ipv4Pool
    groupIP uid pius d.ipv6 d.ipv6Pool) ∅

end Spiderpool
