/-
# What the garbage collector sees

The objects that `pkg/gcmanager` reads while it decides about an address, and the two checks
of whether a Pod still stands for a replica of its owner: `IsValidStatefulSetPod` of
`pkg/statefulsetmanager` and `IsValidVMPod` of `pkg/kubevirtmanager`.

A read by name finds an object, finds none, or fails; the three are treated differently
throughout.
-/

import Spiderpool.Endpoint.Types

namespace Spiderpool

inductive Lookup (α : Type) where
  | found (a : α)
  | notFound
  | failed (e : Err)

structure NodeCondition where
  type : String
  status : String

structure Node where
  conditions : List NodeCondition

/-- `appsv1.StatefulSet`; `ordinals` is the start of `spec.ordinals`. -/
structure StatefulSet where
  replicas : Option ℤ
  ordinals : Option ℤ := none

structure VirtualMachineInstance where
  ownerReferences : List OwnerReference := []
  deletionTimestamp : Option ℤ := none

structure VirtualMachine where
  deletionTimestamp : Option ℤ := none

/-- The objects as they are read while one record is handled, the time, and whether this
controller is the leader. -/
structure ClusterView where
  pod : String → String → Lookup Pod
  endpoint : String → String → Lookup SpiderEndpoint
  node : String → Lookup Node
  statefulSet : String → String → Lookup StatefulSet
  vmi : String → String → Lookup VirtualMachineInstance
  vm : String → String → Lookup VirtualMachine
  now : ℤ
  elected : Bool

structure GCConfig where
  enableStatefulSet : Bool
  enableKubevirtStaticIP : Bool
  enableGCStatelessTerminatingPodOnReadyNode : Bool
  enableGCStatelessTerminatingPodOnNotReadyNode : Bool
  enableGCStatelessRunningPodOnEmptyPodStatusIPs : Bool
  enableCleanOutdatedEndpoint : Bool
  additionalGraceDelay : ℤ

namespace Constant

def kindKubevirtVM := "VirtualMachine"
def nodeReady := "Ready"
def conditionTrue := "True"

end Constant

/-- `IsNodeReady`: by the first condition of that type. -/
def isNodeReady (node : Node) : Bool :=
  ((node.conditions.find? fun c => c.type = Constant.nodeReady).map NodeCondition.status) ==
    some Constant.conditionTrue

def isStaticIPPod (enableStatefulSet enableKubevirtStaticIP : Bool) (pod : Pod) : Bool :=
  match getControllerOf pod.ownerReferences with
  | none => false
  | some owner =>
    (enableStatefulSet && owner.apiVersion == Constant.appsV1 &&
      owner.kind == Constant.kindStatefulSet) ||
    (enableKubevirtStaticIP && owner.apiVersion == Constant.kubevirtV1 &&
      owner.kind == Constant.kindKubevirtVMI)

def ofDecimal (digits : List Char) : ℕ := digits.foldl (fun n c => 10 * n + (c.toNat - '0'.toNat)) 0

/-- `getStatefulSetNameAndOrdinal`: the match of `(.*)-([0-9]+)$`, whose number has to fit into 32
bits. -/
def getStatefulSetNameAndOrdinal (podName : String) : Option (String × ℕ) :=
  let reversed := podName.toList.reverse
  let digits := (reversed.takeWhile Char.isDigit).reverse
  match reversed.dropWhile Char.isDigit with
  | '-' :: rest =>
    if digits = [] ∨ 2 ^ 31 ≤ ofDecimal digits then none
    else some (String.ofList (rest.takeWhile (· ≠ '\n')).reverse, ofDecimal digits)
  | _ => none

def isValidStatefulSetPod (view : ClusterView) (ns podName podControllerType : String) :
    Result Err Bool :=
  if podControllerType ≠ Constant.kindStatefulSet then
    fail (.new ("pod '" ++ ns ++ "/" ++ podName ++ "' is controlled by '" ++ podControllerType ++
      "' instead of StatefulSet"))
  else
    match getStatefulSetNameAndOrdinal podName with
    | none => .ok false
    | some (stsName, ordinal) =>
      match view.statefulSet ns stsName with
      | .notFound => .ok false
      | .failed e => fail e
      | .found sts => do
        let replicas ← deref sts.replicas
        match sts.ordinals with
        | some start => return decide (start ≤ ordinal ∧ ordinal ≤ start + replicas - 1)
        | none => return decide ((ordinal : ℤ) ≤ replicas - 1)

def isVMIControlledByVM (vmi : VirtualMachineInstance) : Bool :=
  (getControllerOf vmi.ownerReferences).any fun owner =>
    owner.apiVersion == Constant.kubevirtV1 && owner.kind == Constant.kindKubevirtVM

/-- The second half of `IsValidVMPod`: a virtual machine that is not terminating. -/
def isValidVM (view : ClusterView) (ns name : String) : Result Err Bool :=
  match view.vm ns name with
  | .notFound => .ok false
  | .failed e =>
    fail (.wrap ("failed to get kubevirt vm '" ++ ns ++ "/" ++ name ++ "', error: ") e "")
  | .found vm => .ok vm.deletionTimestamp.isNone

def isValidVMPod (view : ClusterView) (ns podControllerType podControllerName : String) :
    Result Err Bool :=
  if podControllerType ≠ Constant.kindKubevirtVMI then
    fail (.new ("pod is controlled by '" ++ podControllerType ++ "' instead of " ++
      Constant.kindKubevirtVMI))
  else
    match view.vmi ns podControllerName with
    | .notFound => isValidVM view ns podControllerName
    | .failed e => fail (.wrap ("failed to get kubevirt vmi '" ++ ns ++ "/" ++ podControllerName ++
        "', error: ") e "")
    | .found vmi =>
      if vmi.deletionTimestamp.isNone then .ok true
      else if isVMIControlledByVM vmi then isValidVM view ns podControllerName
      else .ok false

def isValidStatefulsetOrKubevirt (cfg : GCConfig) (view : ClusterView)
    (podNS podName ownerControllerType : String) : Result Err Bool := do
  let isValidStsPod ←
    if cfg.enableStatefulSet ∧ ownerControllerType = Constant.kindStatefulSet then
      isValidStatefulSetPod view podNS podName Constant.kindStatefulSet
    else .ok false
  if isValidStsPod then return true
  if cfg.enableKubevirtStaticIP ∧ ownerControllerType = Constant.kindKubevirtVMI then
    isValidVMPod view podNS Constant.kindKubevirtVMI podName
  else return false

def isShouldGCOrTraceStatelessTerminatingPodOnNode (cfg : GCConfig) (view : ClusterView)
    (pod : Pod) : Result Err Bool :=
  match view.node pod.nodeName with
  | .notFound => fail (.wrap ("failed to get terminating Pod '" ++ pod.ns ++ "/" ++ pod.name ++
      "' corredponing Node '" ++ pod.nodeName ++ "', error: ") (.new "not found") "")
  | .failed e => fail (.wrap ("failed to get terminating Pod '" ++ pod.ns ++ "/" ++ pod.name ++
      "' corredponing Node '" ++ pod.nodeName ++ "', error: ") e "")
  | .found node =>
    if isNodeReady node then .ok cfg.enableGCStatelessTerminatingPodOnReadyNode
    else .ok cfg.enableGCStatelessTerminatingPodOnNotReadyNode

def IsStatefulSetPod (pod : Pod) : Prop :=
  ∃ owner, getControllerOf pod.ownerReferences = some owner ∧
    owner.apiVersion = Constant.appsV1 ∧ owner.kind = Constant.kindStatefulSet

theorem IsStatefulSetPod.isStaticIPPod {pod : Pod} (h : IsStatefulSetPod pod) (kubevirt : Bool) :
    isStaticIPPod true kubevirt pod = true := by
  obtain ⟨owner, ho, hv, hk⟩ := h
  simp [Spiderpool.isStaticIPPod, ho, hv, hk]

end Spiderpool
