/-
# The endpoint manager

`pkg/workloadendpointmanager`, over the objects that the API server holds (`ApiServer`). An
object with finalizers is only marked when it is deleted, and goes with its last finalizer
(`ApiServer.store`); an update cannot take the mark away.

The server answers every call here, and an endpoint that a caller has in hand is the one it
has read or written last, so that no write conflicts.
-/

import Spiderpool.Base.Effect
import Spiderpool.Endpoint.Convert
import Spiderpool.IPPool.Manager

namespace Spiderpool

structure ApiServer where
  endpoints : GoMap (String × String) SpiderEndpoint
  pools : GoMap String IPPool

abbrev Api (α : Type) := Eff ApiServer Err α

def SpiderEndpoint.namespacedName (e : SpiderEndpoint) : String × String := (e.ns, e.name)

/-- The endpoint is written; one that is being deleted goes with its last finalizer. -/
def ApiServer.store (s : ApiServer) (e : SpiderEndpoint) : ApiServer :=
  { s with
    endpoints := if e.deletionTimestamp.isSome ∧ e.finalizers = [] then s.endpoints.erase e.namespacedName
      else s.endpoints.insert e.namespacedName e }

namespace EndpointManager

/-- `GetEndpointByName`; nil, if there is none. -/
def getEndpointByName (ns name : String) : Api (Option SpiderEndpoint) := fun s =>
  (.ok (s.endpoints.lookup (ns, name)), s)

def deleteEndpoint (now : ℤ) (endpoint : SpiderEndpoint) : Api Unit := fun s =>
  match s.endpoints.lookup endpoint.namespacedName with
  | none => (.ok (), s)
  | some e => (.ok (), s.store { e with deletionTimestamp := some (e.deletionTimestamp.getD now) })

/-- `RemoveFinalizer`: the endpoint as the server then returns it. -/
def removeFinalizer (endpoint : SpiderEndpoint) : Api SpiderEndpoint :=
  if Constant.spiderFinalizer ∉ endpoint.finalizers then pure endpoint
  else fun s =>
    match s.endpoints.lookup endpoint.namespacedName with
    | none =>
      (fail (.wrap ("failed to remove finalizer " ++ Constant.spiderFinalizer ++
        " from Endpoint " ++ endpoint.ns ++ "/" ++ endpoint.name ++ ": ") errNotFound ""), s)
    | some e =>
      let e := { e with finalizers := endpoint.finalizers.filter (· ≠ Constant.spiderFinalizer) }
      (.ok e, s.store e)

/-- `Update` of the client: the endpoint as the server then returns it. -/
def updateEndpoint (endpoint : SpiderEndpoint) : Api SpiderEndpoint := fun s =>
  match s.endpoints.lookup endpoint.namespacedName with
  | none => (fail errNotFound, s)
  | some e =>
    let endpoint := { endpoint with deletionTimestamp := e.deletionTimestamp }
    (.ok endpoint, s.store endpoint)

def createEndpoint (endpoint : SpiderEndpoint) : Api Unit := fun s =>
  match s.endpoints.lookup endpoint.namespacedName with
  | none => (.ok (), s.store endpoint)
  | some _ => (fail errAlreadyExists, s)

structure Config where
  enableStatefulSet : Bool := false
  enableKubevirtStaticIP : Bool := false

/-- The Pod belongs to a StatefulSet whose Pods keep their addresses. -/
def Config.isStatefulSet (em : Config) (pc : PodTopController) :
    Bool :=
  em.enableStatefulSet && pc.apiVersion == Constant.appsV1 && pc.kind == Constant.kindStatefulSet

/-- The Pod belongs to a virtual machine that keeps its addresses. -/
def Config.isKubevirt (em : Config) (pc : PodTopController) : Bool :=
  em.enableKubevirtStaticIP && pc.apiVersion == Constant.kubevirtV1 &&
    pc.kind == Constant.kindKubevirtVMI

/-- The endpoint `PatchIPAllocationResults` creates. Only that of a stateless Pod is owned by
the Pod. -/
def newEndpoint (em : Config) (ips : List IPAllocationDetail) (pod : Pod)
    (podController : PodTopController) : SpiderEndpoint where
  ns := pod.ns
  name := if em.isKubevirt podController then podController.name else pod.name
  finalizers := [Constant.spiderFinalizer]
  ownerReferences :=
    if em.isStatefulSet podController ∨ em.isKubevirt podController then []
    else [⟨Constant.coreV1, Constant.kindPod, pod.name, pod.uid, false⟩]
  uid := pod.uid
  node := pod.nodeName
  ips := ips
  ownerControllerType := podController.kind
  ownerControllerName := podController.name

def addDetails (ips details : List IPAllocationDetail) : List IPAllocationDetail :=
  details.foldl (fun ips d => if ips.any (·.nic = d.nic) then ips else ips ++ [d]) ips

def patchIPAllocationResults (em : Config) (o : RangeOrder String IPAllocationDetail)
    (results : List AllocationResult) (endpoint : Option SpiderEndpoint) (pod : Pod)
    (podController : PodTopController) (isMultipleNicWithNoName : Bool) : Api Unit :=
  let details := convertResultsToIPDetails o results isMultipleNicWithNoName
  match endpoint with
  | none => createEndpoint (newEndpoint em details pod podController)
  | some endpoint =>
    if endpoint.uid ≠ pod.uid then pure ()
    else do
      let _ ← updateEndpoint { endpoint with ips := addDetails endpoint.ips details }

/-- The loop that gives the first unnamed interface its name, unless an interface before it has
that name. -/
def nameNIC (nic : String) : List IPAllocationDetail → List IPAllocationDetail
  | [] => []
  | d :: ds =>
    if d.nic = "" then { d with nic := nic } :: ds
    else if d.nic = nic then d :: ds
    else d :: nameNIC nic ds

/-- `ReallocateCurrentIPAllocation`: the endpoint as it then is. -/
def reallocateCurrentIPAllocation (uid nodeName nic : String) (endpoint : SpiderEndpoint)
    (isMultipleNicWithNoName : Bool) : Api SpiderEndpoint :=
  let endpoint' := { endpoint with
    uid := uid
    node := nodeName
    ips := if isMultipleNicWithNoName then nameNIC nic endpoint.ips else endpoint.ips }
  if endpoint' = endpoint then pure endpoint else updateEndpoint endpoint'

/-- `UpdateAllocationNICName`: the endpoint as it then is. It is updated unless an interface
has the name already. -/
def updateAllocationNICName (endpoint : SpiderEndpoint) (nic : String) : Api SpiderEndpoint :=
  match endpoint.ips.find? fun d => d.nic = "" ∨ d.nic = nic with
  | some d =>
    if d.nic = nic ∧ nic ≠ "" then pure endpoint
    else updateEndpoint { endpoint with ips := nameNIC nic endpoint.ips }
  | none => updateEndpoint endpoint

/-- `PatchEndpointAllocationIPs`: the endpoint as it then is. -/
def patchEndpointAllocationIPs (endpoint : SpiderEndpoint) (newEndpointIPs : List IPAllocationDetail) :
    Api SpiderEndpoint :=
  updateEndpoint { endpoint with ips := newEndpointIPs }

/-- `RetrieveIPAllocation`: the current allocation, if it has an interface with this name or
with none. -/
def retrieveIPAllocation (uid nic : String) (endpoint : Option SpiderEndpoint) (isStatic : Bool) :
    Option SpiderEndpoint :=
  endpoint.filter fun e =>
    (e.uid = uid ∨ isStatic = true) ∧ e.ips.any fun d => d.nic = nic ∨ d.nic = ""

end EndpointManager

/-! ### Pools -/

/-- A call of the pool manager on the pool of this name, which nobody else writes. -/
def onPool (poolName : String) (attempt : IPPool → Result Err (Option IPPool)) : Api Unit := fun s =>
  match s.pools.lookup poolName with
  | none => (fail errNotFound, s)
  | some p =>
    match attempt p with
    | .error e => (.error e, s)
    | .ok none => (.ok (), s)
    | .ok (some p') => (.ok (), { s with pools := s.pools.insert poolName p' })

theorem onPool_endpoints (poolName : String) (attempt : IPPool → Result Err (Option IPPool))
    (s : ApiServer) : (onPool poolName attempt s).2.endpoints = s.endpoints := by
  unfold onPool
  split
  · rfl
  · split <;> rfl

end Spiderpool
