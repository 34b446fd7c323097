/-
# From the SpiderMultusConfig to the plugin

`setCoordinatorDefaultConfig` of the webhook, `generateCoordinatorCNIConf` of the controller and
`ParseConfig` of the plugin. The first fills in what a user has left out, the second writes the CNI
configuration, and the third completes it from the configuration of the cluster, field by field
where the field is empty.
-/

import Spiderpool.Coordinator.Types

namespace Spiderpool

namespace Constant

def coordinator := "coordinator"

end Constant

namespace Coordinator

open JsonValue

def modeAuto := "auto"
def defaultLogPath := "/var/log/spidernet/coordinator.log"
def defaultOverlayVethName := "eth0"
def defaultUnderlayVethMTU : Int64 := 1500

/-! ### The webhook and the controller -/

def setCoordinatorDefaultConfig : Option CoordinatorSpec → CoordinatorSpec
  | none => {
    mode := some modeAuto
    vethLinkAddress := some ""
    podMACPrefix := some ""
    podDefaultRouteNIC := some ""
    podRPFilter := some 0
    tunePodRoutes := some true }
  | some coordinator => { coordinator with
    mode := some (coordinator.mode.getD modeAuto)
    podMACPrefix := some (coordinator.podMACPrefix.getD "")
    podDefaultRouteNIC := some (coordinator.podDefaultRouteNIC.getD "")
    tunePodRoutes := some (coordinator.tunePodRoutes.getD false)
    txQueueLen := some (coordinator.txQueueLen.getD 0)
    podRPFilter := some (coordinator.podRPFilter.getD 0) }

/-- `generateCoordinatorCNIConf`. The filter is copied if there is a type of Pod CIDRs, and the
table never. -/
def generateCoordinatorCNIConf : Option CoordinatorSpec → CoordinatorNetConf
  | none => { type := Constant.coordinator }
  | some spec => {
    type := Constant.coordinator
    mode := spec.mode.getD ""
    hijackCIDR := spec.hijackCIDR
    policyRoutes := spec.policyRoutes
    macPrefix := spec.podMACPrefix.getD ""
    podDefaultRouteNIC := spec.podDefaultRouteNIC.getD ""
    vethLinkAddress := spec.vethLinkAddress.getD ""
    vethMTU := spec.vethMTU
    tunePodRoutes := spec.tunePodRoutes
    txQueueLen := spec.txQueueLen
    podRPFilter := if spec.podCIDRType.isSome then spec.podRPFilter else none }

/-! ### The plugin -/

/-- `models.CoordinatorConfig`, what the agent answers for the cluster. A nil slice that is looked
at is none. -/
structure CoordinatorConfig where
  hijackCIDR : List String := []
  hostRuleTable : Int64 := 0
  mode : Option String := none
  overlayPodCIDR : Option (List String) := none
  podDefaultRouteNIC : String := ""
  podMACPrefix : String := ""
  podRPFilter : Int64 := 0
  policyRoutes : List (Option Route) := []
  serviceCIDR : Option (List String) := none
  tunePodRoutes : Option Bool := none
  txQueueLen : Int64 := 0
  vethLinkAddress : String := ""
  vethMTU : Int64 := 0

/-- `Validate`: what is required is there. -/
def CoordinatorConfig.validate (m : CoordinatorConfig) : Result Err Unit :=
  let res := [("mode", m.mode.isSome), ("overlayPodCIDR", m.overlayPodCIDR.isSome),
    ("serviceCIDR", m.serviceCIDR.isSome), ("tunePodRoutes", m.tunePodRoutes.isSome)].filter (!·.2)
  failIf (res ≠ []) (.new ("\n".intercalate
    ("validation failure list:" :: res.map (·.1 ++ " in body is required"))))

/-- A prefix as `netip` has it: the text of its address, whether that is an IPv4 address, and the
number of bits. -/
structure NetipPrefix where
  addr : String
  is4 : Bool
  bits : ℕ

def NetipPrefix.string (p : NetipPrefix) : String := p.addr ++ "/" ++ toString p.bits

structure ParseEnv where
  /-- `version.ParsePrevResult`. -/
  parsePrevResult : List (String × JsonValue) → Result Err Unit := fun _ => .ok ()
  /-- `netip.ParseAddr`: the text of the address, and `Is4`. -/
  parseAddr : String → Result Err (String × Bool)
  /-- `netip.ParsePrefix`. -/
  parsePrefix : String → Result Err NetipPrefix

def parseIPOrCIDR (env : ParseEnv) (s : String) : Result Err NetipPrefix :=
  if '/' ∈ s.toList then env.parsePrefix s
  else do
    let (addr, is4) ← env.parseAddr s
    return ⟨addr, is4, if is4 then 32 else 128⟩

def isSpace (c : Char) : Bool :=
  (0x09 ≤ c.toNat && c.toNat ≤ 0x0d) || (0x2000 ≤ c.toNat && c.toNat ≤ 0x200a) ||
    c.toNat ∈ [0x20, 0x85, 0xa0, 0x1680, 0x2028, 0x2029, 0x202f, 0x205f, 0x3000]

def trimSpace (s : String) : String :=
  String.ofList ((s.toList.dropWhile isSpace).reverse.dropWhile isSpace).reverse

/-- `ConvertLogLevel`, as far as there is a level of this name, in whichever case. -/
def convertLogLevel (level : String) : Bool :=
  level.toLower ∈ ["debug", "info", "warn", "error", "fatal", "panic"]

def isHexLetter (c : Char) : Bool := ('a' ≤ c && c ≤ 'f') || ('A' ≤ c && c ≤ 'F')

def isHexDigit (c : Char) : Bool := isHexLetter c || ('0' ≤ c && c ≤ '9')

/-- `validateHwPrefix`; the second class of its expression has a comma. -/
def validateHwPrefix (text : String) : Result Err Unit :=
  if text = "" then .ok ()
  else
    match text.toList with
    | [a, b, sep, c, d] =>
      failIf (¬(isHexDigit a ∧ (isHexLetter b ∨ b = ',' ∨ b = '0' ∨ ('2' ≤ b ∧ b ≤ '9')) ∧
          (sep = ':' ∨ sep = '-') ∧ isHexDigit c ∧ isHexDigit d)) invalid
    | _ => fail invalid
where
  invalid : Err := .new ("mac_prefix format should be match regex: " ++
    "[a-fA-F0-9][a-fA-F,0,2-9][:][a-fA-F0-9]\x7b2\x7d, like '0a:1b'")

def validateRoutes (routes : List String) : Result Err Unit :=
  routes.forM fun route =>
    failIf (netParseCIDR (trimSpace route) = none) (netParseError (trimSpace route))

/-- `%q`, of a text without anything to escape. -/
def quote (s : String) : String := "\"" ++ s ++ "\""

/-- A turn of the loop of `validateCoordinatorPolicyRoutes`: the route as it is then. -/
def validatePolicyRoute (env : ParseEnv) (route : Route) : Result Err Route := do
  let dstText := trimSpace route.dst
  let gwText := trimSpace route.gw
  let dst ← mapErr (.wrap ("invalid route dst " ++ quote dstText ++ ": ") · "")
    (parseIPOrCIDR env dstText)
  match parseIP gwText with
  | none => fail (.new ("invalid route gw " ++ quote gwText))
  | some gw => do
    failIf (dst.is4 ≠ gw.is4) (.new ("route dst " ++ quote dst.string ++ " and gw " ++ quote gwText ++
      " must use the same IP family"))
    return ⟨dst.string, gwText⟩

/-- `validateCoordinatorPolicyRoutes`: the routes as they are then. -/
def validateCoordinatorPolicyRoutes (env : ParseEnv) (routes : List Route) :
    Result Err (List Route) :=
  routes.mapM (validatePolicyRoute env)

/-- `ValidateRoutes`: the configuration with its networks and routes. -/
def validateConfigRoutes (env : ParseEnv) (conf : Config) (cluster : CoordinatorConfig) :
    Result Err Config := do
  let serviceCIDR := if conf.serviceCIDR = [] then cluster.serviceCIDR.getD [] else conf.serviceCIDR
  let overlayPodCIDR :=
    if conf.overlayPodCIDR = [] then cluster.overlayPodCIDR.getD [] else conf.overlayPodCIDR
  let hijackCIDR := if conf.hijackCIDR = [] then cluster.hijackCIDR else conf.hijackCIDR
  let policyRoutes :=
    if conf.policyRoutes = [] then cluster.policyRoutes.filterMap id else conf.policyRoutes
  validateRoutes serviceCIDR
  validateRoutes overlayPodCIDR
  validateRoutes hijackCIDR
  let policyRoutes ← validateCoordinatorPolicyRoutes env policyRoutes
  return { conf with serviceCIDR, overlayPodCIDR, hijackCIDR, policyRoutes }

/-- `validateRPFilterConfig`; the text of its error has the address of the value, which is left
out. -/
def validateRPFilterConfig (rpfilter : Option Int32) (cluster : Int64) : Result Err Int32 := do
  let rpfilter := rpfilter.getD cluster.toInt32
  failIf (0 ≤ rpfilter ∧ rpfilter ∉ ([0, 1, 2] : List Int32))
    (.new "invalid rp_filter value, available options: [-1,0,1,2]")
  return rpfilter

def parseConfig (env : ParseEnv) (stdin : List (String × JsonValue)) (cluster : CoordinatorConfig) :
    Result Err Config := do
  let conf ← mapErr (fun e => .new ("failed to parse config: " ++ e)) (Config.unmarshal stdin)
  mapErr (.wrap "failed to parse prevResult: " · "") (env.parsePrevResult stdin)
  cluster.validate
  let logOptions := conf.logOptions.getD { logLevel := "debug" }
  failIf (convertLogLevel logOptions.logLevel = false)
    (.new ("unsupported log level " ++ logOptions.logLevel))
  let conf := { conf with
    podDefaultCniNic :=
      if conf.podDefaultCniNic = "" then defaultOverlayVethName else conf.podDefaultCniNic
    logOptions := some { logOptions with
      logFilePath := if logOptions.logFilePath = "" then defaultLogPath else logOptions.logFilePath }
    macPrefix := if conf.macPrefix = "" then cluster.podMACPrefix else conf.macPrefix }
  validateHwPrefix conf.macPrefix
  let conf ← validateConfigRoutes env conf cluster
  let podRPFilter ← validateRPFilterConfig conf.podRPFilter cluster.podRPFilter
  let mode ← (if conf.mode = "" then deref cluster.mode else .ok conf.mode)
  failIf (conf.vethMTU.any (· ≤ 0)) (.new "vethMTU must be greater than 0")
  return { conf with
    podRPFilter := some podRPFilter
    hostRuleTable := some (conf.hostRuleTable.getD
      (if 0 < cluster.hostRuleTable then cluster.hostRuleTable else 500))
    txQueueLen := some (conf.txQueueLen.getD cluster.txQueueLen)
    tunePodRoutes := conf.tunePodRoutes <|> cluster.tunePodRoutes
    mode := mode
    podDefaultRouteNIC :=
      if conf.podDefaultRouteNIC = "" then cluster.podDefaultRouteNIC else conf.podDefaultRouteNIC
    vethLinkAddress :=
      if conf.vethLinkAddress = "" then cluster.vethLinkAddress else conf.vethLinkAddress
    vethMTU := some (conf.vethMTU.getD
      (if 0 < cluster.vethMTU then cluster.vethMTU else defaultUnderlayVethMTU)) }

end Coordinator
end Spiderpool
