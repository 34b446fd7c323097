/-
# The validating webhook

`pkg/ippoolmanager/ippool_validate.go` and the three methods of `IPPoolWebhook` that
call it. A check that fails rejects the request with field errors; a check that panics
or never returns does not admit it either. The wrappers for SpiderSubnet, which reject more,
are left out.
-/

import Spiderpool.IP.SubnetAddrs
import Spiderpool.IPPool.Mutate

namespace Spiderpool

inductive FieldErrorType where
  | invalid
  | notSupported
  | forbidden
  | internal
deriving DecidableEq, Repr

structure FieldError where
  type : FieldErrorType
  field : String
  badValue : Option String
  detail : String
deriving DecidableEq, Repr

namespace FieldError

def invalid (field value detail : String) : FieldError := ⟨.invalid, field, some value, detail⟩

def forbidden (field detail : String) : FieldError := ⟨.forbidden, field, none, detail⟩

def internal (field detail : String) : FieldError := ⟨.internal, field, none, detail⟩

end FieldError

def ipVersionField := "spec.ipVersion"
def subnetField := "spec.subnet"
def ipsField := "spec.ips"
def gatewayField := "spec.gateway"
def routesField := "spec.routes"
def podAffinityField := "spec.podAffinity"

def indexField (path : String) (i : ℕ) : String := path ++ "[" ++ toString i ++ "]"

abbrev Webhook := IPPoolWebhook FieldError

def validateIPPoolShouldNotBeChanged (oldIPPool newIPPool : IPPool) : Result FieldError Unit := do
  failIf (newIPPool.spec.ipVersion.isSome ∧ oldIPPool.spec.ipVersion.isSome ∧
      newIPPool.spec.ipVersion ≠ oldIPPool.spec.ipVersion)
    (.forbidden ipVersionField "is not changeable")
  failIf (newIPPool.spec.subnet ≠ oldIPPool.spec.subnet) (.forbidden subnetField "is not changeable")

def validateIPPoolIPVersion (iw : Webhook) : Option IPVersion → Result FieldError Unit
  | none => fail (.invalid ipVersionField "null"
      "is not generated correctly, 'spec.subnet' may be invalid")
  | some version => do
    failIf (version ≠ Constant.ipv4 ∧ version ≠ Constant.ipv6)
      ⟨.notSupported, ipVersionField, some (toString version), "supported values: \"4\", \"6\""⟩
    failIf (version = Constant.ipv4 ∧ ¬iw.enableIPv4) (.forbidden ipVersionField "IPv4 is disabled")
    failIf (version = Constant.ipv6 ∧ ¬iw.enableIPv6) (.forbidden ipVersionField "IPv6 is disabled")

/-- The loop of `validateIPPoolCIDR` over the pools there are. -/
def checkCIDRs (version : IPVersion) (p : IPPool) : List IPPool → Result FieldError Unit
  | [] => .ok ()
  | pool :: pools => do
    let v ← deref pool.spec.ipVersion
    if v = version then
      failIf (pool.name = p.name)
        (.internal subnetField ("IPPool " ++ p.name ++ " AlreadyExists"))
      if pool.spec.subnet = p.spec.subnet then checkCIDRs version p pools
      else
        let overlap ← mapErr (fun e => .internal subnetField
          ("failed to compare whether 'spec.subnet' overlaps: " ++ e.text))
          (isCIDROverlap version p.spec.subnet pool.spec.subnet)
        failIf overlap (.invalid subnetField p.spec.subnet
          ("overlap with IPPool " ++ pool.name ++ " which 'spec.subnet' is " ++ pool.spec.subnet))
        checkCIDRs version p pools
    else checkCIDRs version p pools

def validateIPPoolCIDR (iw : Webhook) (p : IPPool) : Result FieldError Unit := do
  let version ← deref p.spec.ipVersion
  mapErr (fun e => .invalid subnetField p.spec.subnet e.text) (isCIDR version p.spec.subnet)
  mapErr (fun e => .invalid subnetField p.spec.subnet e.text) (isFormatCIDR p.spec.subnet)
  let ipPoolList ← mapErr (fun e => .internal subnetField ("failed to list IPPools: " ++ e.text))
    iw.ipPools
  checkCIDRs version p ipPoolList

/-- The loop of `validateIPPoolAvailableIPs` over the pools with the label of the subnet. -/
def checkAvailableIPs (p : IPPool) (newPool : CIDR) : List IPPool → Result FieldError Unit
  | [] => .ok ()
  | pool :: pools =>
    if pool.name = p.name then checkAvailableIPs p newPool pools
    else do
      let existPool ← mapErr (fun e => .invalid subnetField pool.spec.subnet e.text)
        (newCIDR pool.spec.subnet pool.spec.ips pool.spec.excludeIPs)
      failIf (newPool.isOverlapIPRanges existPool.ranges ≠ [])
        (.forbidden ipsField ("overlap with IPPool " ++ pool.name ++ " in IP ranges " ++
          formatList (newPool.isOverlapIPRanges existPool.ranges) ++ ", total IP addresses of an " ++
          "IPPool are jointly determined by 'spec.ips' and 'spec.excludeIPs'"))
      checkAvailableIPs p newPool pools

def validateIPPoolAvailableIPs (iw : Webhook) (p : IPPool) : Result FieldError Unit := do
  let newPool ← mapErr (fun e => .invalid subnetField p.spec.subnet e.text)
    (newCIDR p.spec.subnet p.spec.ips p.spec.excludeIPs)
  let version ← deref p.spec.ipVersion
  let cidr ← mapErr (fun e => .internal ipsField ("failed to parse CIDR " ++ p.spec.subnet ++
    " as a valid label value: " ++ e.text)) (cidrToLabelValue version p.spec.subnet)
  let ipPoolList ← mapErr (fun e => .internal ipsField ("failed to list IPPools: " ++ e.text))
    iw.ipPools
  checkAvailableIPs p newPool
    (ipPoolList.filter fun pool => pool.labels.lookup Constant.labelIPPoolCIDR = some cidr)

def validateContainsIP (fieldPath : String) (version : IPVersion) (subnet ip : String) :
    Result FieldError Unit := do
  let contains ← mapErr (fun e => .invalid fieldPath ip e.text) (containsIP version subnet ip)
  failIf (contains = false)
    (.invalid fieldPath ip ("not pertains to the 'spec.subnet' " ++ subnet ++ " of IPPool"))

/-- `contains, _ := IPRangeContainsIP(...)`: an error reads as false. -/
def rangeHolds (version : IPVersion) (ip ipRange : String) : Bool :=
  match ipRangeContainsIP version ipRange ip with
  | .ok contains => contains
  | .error _ => false

def validateIPPoolGateway (p : IPPool) : Result FieldError Unit :=
  match p.spec.gateway with
  | none => .ok ()
  | some gateway => do
    let version ← deref p.spec.ipVersion
    validateContainsIP gatewayField version p.spec.subnet gateway
    if p.spec.excludeIPs.any (rangeHolds version gateway) then .ok ()
    else
      match p.spec.ips.zipIdx.find? fun r => rangeHolds version gateway r.1 with
      | none => .ok ()
      | some (r, i) => fail (.invalid (indexField ipsField i) r ("conflicts with 'spec.gateway' " ++
          gateway ++ ", add the gateway IP address to 'spec.excludeIPs' or remove it from 'spec.ips'"))

/-- The loop of `validateIPPoolRoutes`, with the destinations seen so far. -/
def checkRoutes (version : IPVersion) (subnet : String) :
    List (Route × ℕ) → List String → Result FieldError Unit
  | [], _ => .ok ()
  | (r, i) :: rs, dsts => do
    let path := indexField routesField i
    failIf (version = Constant.ipv4 ∧ r.dst = "0.0.0.0/0" ∨ version = Constant.ipv6 ∧ r.dst = "::/0")
      (.invalid (path ++ ".dst") r.dst "please specify 'spec.gateway' to configure the default route")
    failIf (r.dst ∈ dsts) (.invalid (path ++ ".dst") r.dst "duplicate route with the same dst")
    mapErr (fun e => .invalid (path ++ ".dst") r.dst e.text) (isCIDR version r.dst)
    validateContainsIP (path ++ ".gw") version subnet r.gw
    checkRoutes version subnet rs (r.dst :: dsts)

def validateIPPoolRoutes (version : IPVersion) (subnet : String) (routes : List Route) :
    Result FieldError Unit :=
  checkRoutes version subnet routes.zipIdx []

def validateIPPoolSpec (iw : Webhook) (p : IPPool) : Result FieldError Unit := do
  validateIPPoolAvailableIPs iw p
  validateIPPoolGateway p
  let version ← deref p.spec.ipVersion
  validateIPPoolRoutes version p.spec.subnet (p.spec.routes.getD [])

/-- `validateIPPoolIPInUse`. Which of the addresses in use the error names depends on the
order in which the records are visited. -/
def validateIPPoolIPInUse (order : RangeOrder String PoolIPAllocation) (p : IPPool) :
    Result FieldError Unit := do
  let allocatedRecords ← mapErr (fun e => .internal ipsField
    ("failed to unmarshal the allocated IP records of IPPool " ++ p.name ++ ": " ++ e.text))
    (unmarshalIPPoolAllocatedIPs p.status.allocatedIPs)
  let version ← deref p.spec.ipVersion
  let totalIPs ← mapErr (fun e => .internal ipsField
    ("failed to assemble the total IP addresses of the IPPool " ++ p.name ++ ": " ++ e.text))
    (assembleTotalIPs version p.spec.ips p.spec.excludeIPs)
  match (order.visit allocatedRecords).find? fun r => r.1 ∉ totalIPs.map Addr.string with
  | none => .ok ()
  | some ⟨ip, allocation⟩ => fail (.forbidden ipsField ("remove an IP address " ++ ip ++
      " that is being used by Pod " ++ allocation.namespacedName ++ ", total IP addresses of an " ++
      "IPPool are jointly determined by 'spec.ips' and 'spec.excludeIPs'"))

def isAutoCreatedIPPool (p : IPPool) : Bool :=
  (p.labels.lookup Constant.labelIPPoolOwnerApplicationName).isSome

def autoPoolPodAffinities : List String :=
  [Constant.autoPoolPodAffinityAppAPIGroup, Constant.autoPoolPodAffinityAppAPIVersion,
    Constant.autoPoolPodAffinityAppKind, Constant.autoPoolPodAffinityAppNS,
    Constant.autoPoolPodAffinityAppName]

def validateIPPoolPodAffinity (iw : Webhook) (p : IPPool) : List FieldError :=
  let error detail : FieldError := ⟨.invalid, podAffinityField, none, detail⟩
  match p.spec.podAffinity with
  | none => []
  | some podAffinity =>
    if isAutoCreatedIPPool p then
      ((podAffinity.matchLabels.keys.filter (· ∉ autoPoolPodAffinities)).map fun _ => error
        "it's invalid to add additional podAffinity matchLabels for auto-created SpiderIPPool") ++
      if podAffinity.matchExpressions = [] then []
      else [error
        "it's invalid to add additional podAffinity matchExpressions for auto-created SpiderIPPool"]
    else
      iw.validateLabelSelector podAffinity ++
        if GoMap.len podAffinity.matchLabels + podAffinity.matchExpressions.length = 0 then
          [error "empty podAffinity is invalid for SpiderIPPool"]
        else []

def errorsOf (r : Result FieldError Unit) : Result (List FieldError) (List FieldError) :=
  match r with
  | .ok () => .ok []
  | .error (.err e) => .ok [e]
  | .error .panic => .error .panic
  | .error .hang => .error .hang

def validateCreateIPPool (iw : Webhook) (p : IPPool) : Result (List FieldError) Unit := do
  mapErr (fun e => [e]) (validateIPPoolIPVersion iw p.spec.ipVersion)
  mapErr (fun e => [e]) (validateIPPoolCIDR iw p)
  let specErrs ← errorsOf (validateIPPoolSpec iw p)
  let errs := specErrs ++ validateIPPoolPodAffinity iw p
  failIf (errs ≠ []) errs

def validateUpdateIPPool (iw : Webhook) (order : RangeOrder String PoolIPAllocation)
    (oldIPPool newIPPool : IPPool) : Result (List FieldError) Unit := do
  mapErr (fun e => [e]) (validateIPPoolShouldNotBeChanged oldIPPool newIPPool)
  mapErr (fun e => [e]) (validateIPPoolIPVersion iw newIPPool.spec.ipVersion)
  mapErr (fun e => [e]) (validateIPPoolSpec iw newIPPool)
  failIf (validateIPPoolPodAffinity iw newIPPool ≠ []) (validateIPPoolPodAffinity iw newIPPool)
  mapErr (fun e => [e]) (validateIPPoolIPInUse order newIPPool)

def validateUpdate (iw : Webhook) (order : RangeOrder String PoolIPAllocation)
    (oldIPPool newIPPool : IPPool) : Result (List FieldError) Unit :=
  if newIPPool.deletionTimestamp.isSome then
    failIf (Constant.spiderFinalizer ∈ newIPPool.finalizers)
      [.forbidden "" "cannot update a terminating IPPool"]
  else validateUpdateIPPool iw order oldIPPool newIPPool

def validateDelete (iw : Webhook) (p : IPPool) : Result Err Unit :=
  failIf (iw.enableValidatingResourcesDeletedWebhook ∧ 0 < p.status.allocatedIPCount.getD 0)
    (.new ("cannot delete an IPPool with allocated IPs(" ++
      toString (p.status.allocatedIPCount.getD 0) ++ ")"))

end Spiderpool
