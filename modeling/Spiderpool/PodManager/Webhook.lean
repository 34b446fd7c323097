/-
# The webhook of Pods

`pkg/podmanager/pod_webhook.go` and `utils.go`. A Pod, or its namespace, can ask for the networks of
all SpiderMultusConfigs with a label. The webhook then writes these networks into the Pod's
annotation and the resources they need into the limits of the first container. For the networks
that a Pod lists it injects, if it is configured to, a resource for each master interface and slots
for the interfaces of the provider.

A map of Go that the webhook writes to is a `Finmap`, so that two Pods are equal if their maps have
the same entries. The order in which `range` goes over the maps of the webhook itself is an argument
(`Orders`).
-/

import Spiderpool.Base.Sort
import Spiderpool.Multus.Networks
import Spiderpool.Multus.Validate

namespace Spiderpool

namespace Constant

def multusDefaultNetAnnot := "v1.multus-cni.io/default-network"
def multusNetworkAttachmentAnnot := "k8s.v1.cni.cncf.io/networks"
def defaultENISlotResourceName := "spidernet.io/sub-eni"
def masterNICResourceSuffix := "-nic"
def spiderpoolResourceDomain := "spidernet.io"

end Constant

namespace PodManager

open Multus

/-- `corev1.ResourceList`, with the values of the quantities. -/
abbrev ResourceList := Finmap fun _ : String => ℚ

structure Container where
  limits : ResourceList := ∅
  requests : ResourceList := ∅
deriving DecidableEq

structure Pod where
  ns : String
  annotations : Finmap fun _ : String => String
  containers : List Container
deriving DecidableEq

structure PodENIResourceInjectConfig where
  providerEnabled : Bool := false
  pluginEnabled : Bool := false
  masterNICEnabled : Bool := false
  injectPodENIResources : Bool := false
  resourceName : String := ""

structure WebhookEnv where
  annotation : AnnotationEnv
  /-- `Get` of a SpiderMultusConfig by namespace and name. -/
  get : String → String → Lookup SpiderMultusConfig
  /-- `List` of the SpiderMultusConfigs whose label has a value, in whichever order. -/
  list : String → String → Result Err (List SpiderMultusConfig)
  /-- The annotations of a namespace, if there is a manager of namespaces. -/
  nsManager : Option (String → Result Err (GoMap String String))

/-- The orders in which `range` visits the maps of the webhook: the resources, once for each
container and once to write them, and the master interfaces. -/
structure Orders where
  scan : ℕ → RangeOrder String Bool
  write : RangeOrder String Bool
  masters : RangeOrder String Unit

/-! ### Resources -/

def podHasResource (pod : Pod) (resourceName : String) : Bool :=
  pod.containers.any fun c =>
    (c.limits.lookup resourceName).isSome || (c.requests.lookup resourceName).isSome

def injectPodResource (pod : Pod) (resourceName : String) (quantity : ℕ) : Pod :=
  match pod.containers with
  | [] => pod
  | c :: cs =>
    if quantity = 0 then pod
    else
      let resource := if resourceName = "" then Constant.defaultENISlotResourceName else resourceName
      if podHasResource pod resource then pod
      else { pod with containers := { c with
        limits := c.limits.insert resource (quantity : ℚ)
        requests := c.requests.insert resource (quantity : ℚ) } :: cs }

/-- A turn of the first loop of `InjectRdmaResourceToPod`. -/
def markFound (c : Container) (resourceMap : GoMap String Bool) (resource : String) :
    GoMap String Bool :=
  if resourceMap.lookup resource = some true then resourceMap
  else if (c.limits.lookup resource).isSome then resourceMap.insert resource true
  else resourceMap

/-- The first loop of `InjectRdmaResourceToPod`: the resources that are in the limits already. -/
def scanContainers (scan : ℕ → RangeOrder String Bool) :
    ℕ → List Container → GoMap String Bool → GoMap String Bool
  | _, [], resourceMap => resourceMap
  | i, c :: cs, resourceMap => scanContainers scan (i + 1) cs
      (((scan i).visit resourceMap).foldl (fun m kv => markFound c m kv.1) resourceMap)

/-- The second loop of `InjectRdmaResourceToPod`: the other resources are added to the first
container, which is there or the function panics. -/
def injectMissing (pod : Pod) : List (Σ _ : String, Bool) → Result Err Pod
  | [] => .ok pod
  | ⟨resource, found⟩ :: rest =>
    if found then injectMissing pod rest
    else
      match pod.containers with
      | [] => .error .panic
      | c :: cs => injectMissing
          { pod with containers := { c with limits := c.limits.insert resource 1 } :: cs } rest

def injectRdmaResourceToPod (orders : Orders) (resourceMap : GoMap String Bool) (pod : Pod) :
    Result Err Pod :=
  injectMissing pod (orders.write.visit (scanContainers orders.scan 0 pod.containers resourceMap))

/-! ### The networks that are injected -/

/-- What `getMultusConfigSortKey` takes of a section with master interfaces. -/
def masterSortKey (c : SpiderMacvlanCniConfig) : String :=
  match c.master, c.bond with
  | _ :: _ :: _, some bond => bond.name
  | master :: _, _ => master
  | [], _ => ""

def getMultusConfigSortKey (mc : SpiderMultusConfig) : String :=
  match mc.spec.cniType.map CniKind.of with
  | some .macvlan => (mc.spec.macvlanConfig.map masterSortKey).getD ""
  | some .ipvlan => (mc.spec.ipvlanConfig.map masterSortKey).getD ""
  | some .vlan => (mc.spec.vlanConfig.map fun c => masterSortKey c.toSpiderMacvlanCniConfig).getD ""
  | some .sriov => (mc.spec.sriovConfig.bind SpiderSRIOVCniConfig.resourceName).getD ""
  | _ => ""

def namespacedName (mc : SpiderMultusConfig) : String := mc.ns ++ "/" ++ mc.name

def lessMultusConfig (left right : SpiderMultusConfig) : Bool :=
  if getMultusConfigSortKey left ≠ getMultusConfigSortKey right then
    getMultusConfigSortKey left < getMultusConfigSortKey right
  else namespacedName left < namespacedName right

/-- `sortMultusConfigs`; an insertion sort is stable. -/
def sortMultusConfigs (multusConfigs : List SpiderMultusConfig) : List SpiderMultusConfig :=
  sortSlice lessMultusConfig multusConfigs

/-- `validateInjectResource`: the text of its error. -/
def validateInjectResource (mc : SpiderMultusConfig) (resourceName : String)
    (ippools : Option SpiderpoolPools) (requireRdmaResource : Bool) : Option String :=
  if requireRdmaResource then validateRdmaResouce mc.name mc.ns resourceName ippools
  else validateNetworkResouce mc.name mc.ns resourceName ippools

/-- A case of `doValidateInjectResource`, whose section has to be there. -/
def validateSectionResource {α : Type} (config : Option α) (text : String)
    (validate : α → Option String) : Option String :=
  match config with
  | none => some (text ++ " config is nil")
  | some c => validate c

/-- `doValidateInjectResource`: the text of its error. -/
def doValidateInjectResource (mc : SpiderMultusConfig) (requireRdmaResource : Bool) : Option String :=
  let validate := fun (resourceName : Option String) ippools =>
    validateInjectResource mc (resourceName.getD "") ippools requireRdmaResource
  match mc.spec.cniType with
  | none => some "cniType is nil"
  | some cniType =>
    match CniKind.of cniType with
    | .macvlan => validateSectionResource mc.spec.macvlanConfig "macvlan" fun c =>
        validate c.rdmaResourceName c.spiderpoolConfigPools
    | .ipvlan => validateSectionResource mc.spec.ipvlanConfig "ipvlan" fun c =>
        validate c.rdmaResourceName c.spiderpoolConfigPools
    | .vlan => validateSectionResource mc.spec.vlanConfig "vlan" fun c =>
        validate c.rdmaResourceName c.spiderpoolConfigPools
    | .sriov => validateSectionResource mc.spec.sriovConfig "sriov" fun c =>
        validate c.resourceName c.spiderpoolConfigPools
    | .ibSriov => validateSectionResource mc.spec.ibSriovConfig "ib-sriov" fun c =>
        validate c.resourceName c.spiderpoolConfigPools
    | .ipoib => validateSectionResource mc.spec.ipoibConfig "ipoib" fun c =>
        validate (some c.master) c.spiderpoolConfigPools
    | _ => some ("RDMA resource injection does not support cniType: " ++ cniType)

def resourceName (mc : SpiderMultusConfig) : Result Err String := do
  let cniType ← deref mc.spec.cniType
  match CniKind.of cniType with
  | .macvlan => return (mc.spec.macvlanConfig.bind SpiderMacvlanCniConfig.rdmaResourceName).getD ""
  | .ipvlan => return (mc.spec.ipvlanConfig.bind SpiderMacvlanCniConfig.rdmaResourceName).getD ""
  | .vlan => return (mc.spec.vlanConfig.bind fun c => c.rdmaResourceName).getD ""
  | .sriov => return (mc.spec.sriovConfig.bind SpiderSRIOVCniConfig.resourceName).getD ""
  | .ibSriov => return (mc.spec.ibSriovConfig.bind SpiderIBSriovCniConfig.resourceName).getD ""
  | _ => return ""

/-- The loop of `injectPodNetwork`: the value of the annotation, and the resources. -/
def injectLoop (requireRdmaResource : Bool) : List SpiderMultusConfig → String → GoMap String Bool →
    Result Err (String × GoMap String Bool)
  | [], multusAnnValue, resourcesMap => .ok (multusAnnValue, resourcesMap)
  | mc :: mcs, multusAnnValue, resourcesMap => do
    ifSome (doValidateInjectResource mc requireRdmaResource) fun text => fail (.new text)
    let multusAnnValue :=
      if multusAnnValue = "" then namespacedName mc else multusAnnValue ++ "," ++ namespacedName mc
    let resourceName ← resourceName mc
    injectLoop requireRdmaResource mcs multusAnnValue
      (if resourceName = "" ∨ (resourcesMap.lookup resourceName).isSome then resourcesMap
      else resourcesMap.insert resourceName false)

/-- The Pod with the annotation for its networks, unless that is empty. -/
def setNetworks (pod : Pod) (multusAnnValue : String) : Pod :=
  if multusAnnValue = "" then pod
  else { pod with
    annotations := pod.annotations.insert Constant.multusNetworkAttachmentAnnot multusAnnValue }

def injectPodNetwork (orders : Orders) (pod : Pod) (multusConfigs : List SpiderMultusConfig)
    (requireRdmaResource : Bool) : Result Err Pod := do
  let (multusAnnValue, resourcesMap) ←
    injectLoop requireRdmaResource (sortMultusConfigs multusConfigs) "" ∅
  injectRdmaResourceToPod orders resourcesMap (setNetworks pod multusAnnValue)

/-- `getEffectiveResourceInjectValue`: the value of the Pod, or else that of its namespace. -/
def getEffectiveResourceInjectValue (env : WebhookEnv) (pod : Pod) (anno : String) :
    Result Err (Option String) :=
  match pod.annotations.lookup anno, env.nsManager with
  | some value, _ => .ok (some value)
  | none, none => .ok none
  | none, some annotationsOf =>
    if pod.ns = "" then .ok none
    else do
      let annotations ← annotationsOf pod.ns
      return annotations.lookup anno

def injectAnnotations : List String :=
  [Constant.annoPodResourceInject, Constant.annoNetworkResourceInject]

/-- The loop of `podNetworkMutatingWebhook`, of which the first annotation that is set counts. -/
def podNetworkLoop (env : WebhookEnv) (orders : Orders) (pod : Pod) : List String → Result Err Pod
  | [] => .ok pod
  | anno :: annos => do
    match ← getEffectiveResourceInjectValue env pod anno with
    | none => podNetworkLoop env orders pod annos
    | some multusLabelValue => do
      let multusConfigs ← env.list anno multusLabelValue
      failIf (multusConfigs.isEmpty) (.new ("no spidermultusconfigs with annotation: " ++ anno ++ ":" ++
        multusLabelValue ++ " found"))
      injectPodNetwork orders pod multusConfigs (anno = Constant.annoPodResourceInject)

def podNetworkMutatingWebhook (env : WebhookEnv) (orders : Orders) (pod : Pod) : Result Err Pod :=
  podNetworkLoop env orders pod injectAnnotations

def needInjectionLoop (env : WebhookEnv) (pod : Pod) : List String → Result Err Bool
  | [] => .ok false
  | anno :: annos => do
    match ← getEffectiveResourceInjectValue env pod anno with
    | none => needInjectionLoop env pod annos
    | some _ => return true

def needPodNetworkInjection (env : WebhookEnv) (pod : Pod) : Result Err Bool :=
  needInjectionLoop env pod injectAnnotations

/-! ### The networks that a Pod lists -/

/-- What `resolvePodReferencedSpiderMultusConfigs` has found so far. -/
structure Resolved where
  seen : List String := []
  result : List SpiderMultusConfig := []

/-- The inner loop of `resolvePodReferencedSpiderMultusConfigs`. A network is looked up once; one
without a SpiderMultusConfig is passed over. -/
def resolveNetworks (env : WebhookEnv) : List NetworkSelectionElement → Resolved → Result Err Resolved
  | [], r => .ok r
  | network :: networks, r =>
    let key := network.ns ++ "/" ++ network.name
    if key ∈ r.seen then resolveNetworks env networks r
    else
      match env.get network.ns network.name with
      | .notFound => resolveNetworks env networks r
      | .failed e => fail e
      | .found mc => resolveNetworks env networks ⟨key :: r.seen, r.result ++ [mc]⟩

/-- The outer loop of `resolvePodReferencedSpiderMultusConfigs`. -/
def resolveAnnotation (env : WebhookEnv) (pod : Pod) (r : Resolved) (anno : String) :
    Result Err Resolved :=
  let value := (pod.annotations.lookup anno).getD ""
  if value = "" then .ok r
  else do
    let networks ← parsePodNetworkAnnotation env.annotation value pod.ns
    resolveNetworks env networks r

/-- `resolvePodReferencedSpiderMultusConfigs`, of a Pod and a client that are there. -/
def resolvePodReferencedSpiderMultusConfigs (env : WebhookEnv) (pod : Pod) :
    Result Err (List SpiderMultusConfig) := do
  let r ← resolveAnnotation env pod {} Constant.multusDefaultNetAnnot
  let r ← resolveAnnotation env pod r Constant.multusNetworkAttachmentAnnot
  return r.result

def isProviderVLANSpiderMultusConfig (mc : SpiderMultusConfig) : Bool :=
  mc.spec.cniType = some Constant.vlanCNI &&
    mc.spec.vlanConfig.bind SpiderVlanCniConfig.vlanMode = some Constant.vlanModeAuto

def podENIResourceMutatingWebhook (env : WebhookEnv) (cfg : PodENIResourceInjectConfig) (pod : Pod) :
    Result Err Pod :=
  if cfg.providerEnabled = false ∨ cfg.pluginEnabled = false ∨ cfg.injectPodENIResources = false then
    .ok pod
  else
    let resourceName :=
      if cfg.resourceName = "" then Constant.defaultENISlotResourceName else cfg.resourceName
    if podHasResource pod resourceName then .ok pod
    else do
      let multusConfigs ← resolvePodReferencedSpiderMultusConfigs env pod
      let eligibleCount := multusConfigs.countP isProviderVLANSpiderMultusConfig
      return if eligibleCount = 0 then pod else injectPodResource pod resourceName eligibleCount

def getSpiderMultusConfigMasters (mc : SpiderMultusConfig) : List String :=
  match mc.spec.cniType.map CniKind.of with
  | some .macvlan => (mc.spec.macvlanConfig.map SpiderMacvlanCniConfig.master).getD []
  | some .ipvlan => (mc.spec.ipvlanConfig.map SpiderMacvlanCniConfig.master).getD []
  | some .vlan => (mc.spec.vlanConfig.map fun c => c.master).getD []
  | some .ipoib =>
    match (mc.spec.ipoibConfig.map SpiderIpoibCniConfig.master).getD "" with
    | "" => []
    | master => [master]
  | _ => []

def collectMasters (multusConfigs : List SpiderMultusConfig) : GoMap String Unit :=
  (multusConfigs.flatMap getSpiderMultusConfigMasters).foldl
    (fun masters master => if master = "" then masters else masters.insert master ()) ∅

def masterNICResource (master : String) : String :=
  Constant.spiderpoolResourceDomain ++ "/" ++ master ++ Constant.masterNICResourceSuffix

def podMasterNICResourceMutatingWebhook (env : WebhookEnv) (orders : Orders)
    (cfg : PodENIResourceInjectConfig) (pod : Pod) : Result Err Pod :=
  if cfg.masterNICEnabled = false ∨ cfg.injectPodENIResources = false then .ok pod
  else do
    let multusConfigs ← resolvePodReferencedSpiderMultusConfigs env pod
    let masters := (orders.masters.visit (collectMasters multusConfigs)).map (·.1)
    let sortedMasters := sortSlice (fun a b => decide (a < b)) masters
    return sortedMasters.foldl (fun pod master => injectPodResource pod (masterNICResource master) 1) pod

def defaultPod (env : WebhookEnv) (orders : Orders) (cfg : PodENIResourceInjectConfig) (pod : Pod) :
    Result Err Pod := do
  let needInject ← needPodNetworkInjection env pod
  let pod ← (if needInject then podNetworkMutatingWebhook env orders pod else .ok pod)
  let pod ← podMasterNICResourceMutatingWebhook env orders cfg pod
  podENIResourceMutatingWebhook env cfg pod

end PodManager
end Spiderpool
