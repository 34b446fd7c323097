/-
# Kubernetes objects

The fields of Pods, of the applications behind them and of object metadata that the modelled
functions read, and the annotations by which a Pod chooses its pools (`pkg/types`). An
annotation whose value is JSON is held as `json.Unmarshal` takes it.
-/

import Spiderpool.Constant

namespace Spiderpool

structure OwnerReference where
  apiVersion : String
  kind : String
  name : String
  uid : String
  controller : Bool
deriving DecidableEq

/-- `metav1.GetControllerOf`: the first reference marked as controller. -/
def getControllerOf (refs : List OwnerReference) : Option OwnerReference :=
  refs.find? OwnerReference.controller

/-- `corev1.PodPhase`; `unknown` is every other text. -/
inductive PodPhase where
  | pending
  | running
  | succeeded
  | failed
  | unknown
deriving DecidableEq, Repr

structure AnnoIPPoolItem where
  nic : String := ""
  ipv4Pools : List String := []
  ipv6Pools : List String := []
  cleanGateway : Bool := false

structure AnnoPodIPPoolValue where
  ipv4Pools : List String := []
  ipv6Pools : List String := []

structure AnnoRouteItem where
  dst : String
  gw : String

structure AnnoSubnetItem where
  interface : String := ""
  ipv4 : List String := []
  ipv6 : List String := []
deriving DecidableEq

structure PodAnnotations where
  /-- `ipam.spidernet.io/ippools`. -/
  ippools : Option (Json (List AnnoIPPoolItem)) := none
  /-- `ipam.spidernet.io/ippool`. -/
  ippool : Option (Json AnnoPodIPPoolValue) := none
  /-- `ipam.spidernet.io/routes`. -/
  routes : Option (Json (List AnnoRouteItem)) := none
  /-- `ipam.spidernet.io/subnets`. -/
  subnets : Option (Json (List AnnoSubnetItem)) := none
  /-- `ipam.spidernet.io/subnet`; JSON `null` leaves a nil item. -/
  subnet : Option (Json (Option AnnoSubnetItem)) := none
  /-- `ipam.spidernet.io/ippool-ip-number`. -/
  poolIPNumber : Option String := none
  /-- `ipam.spidernet.io/ippool-reclaim`. -/
  reclaimIPPool : Option String := none
  /-- `v1.multus-cni.io/default-network`. -/
  defaultNetwork : Option String := none
  /-- `k8s.v1.cni.cncf.io/networks`. -/
  networks : Option String := none
  /-- `kubevirt.io/migrationJobName`. -/
  migrationJobName : Option String := none

/-- `corev1.Pod`. Times are nanoseconds. -/
structure Pod where
  ns : String
  name : String
  uid : String
  labels : GoMap String String := ∅
  annotations : PodAnnotations := {}
  ownerReferences : List OwnerReference := []
  deletionTimestamp : Option ℤ := none
  deletionGracePeriodSeconds : Option ℤ := none
  phase : PodPhase := .running
  podIPs : List String := []
  nodeName : String := ""

/-- The application behind a Pod, of a type that `getAutoPoolIPNumber` knows or of another. -/
inductive App where
  | deployment (replicas : Option ℤ)
  | replicaSet (replicas : Option ℤ)
  | statefulSet (replicas : Option ℤ)
  | daemonSet (desiredNumberScheduled : ℤ)
  | job (parallelism completions : Option ℤ)
  | cronJob (parallelism completions : Option ℤ)
  | other

structure PodTopController where
  apiVersion : String
  kind : String
  ns : String
  name : String
  uid : String
  app : App := .other

structure IPAndUID where
  ip : String
  uid : String
deriving DecidableEq

/-- `cache.MetaNamespaceKeyFunc`. -/
def metaNamespaceKey (ns name : String) : String := if ns = "" then name else ns ++ "/" ++ name

def splitMetaNamespaceKey (key : String) : Result Err (String × String) :=
  match split key '/' with
  | [name] => .ok ("", name)
  | [ns, name] => .ok (ns, name)
  | _ => fail (.new ("unexpected key format: " ++ "\"" ++ key ++ "\""))

def errNotFound : Err := .new "not found"

def errAlreadyExists : Err := .new "already exists"

/-- The error of updating an object that has been updated since it was read. -/
def errConflict : Err := .new "the object has been modified"

namespace Constant

def kindPod := "Pod"
def kindDeployment := "Deployment"
def kindReplicaSet := "ReplicaSet"
def kindDaemonSet := "DaemonSet"
def kindStatefulSet := "StatefulSet"
def kindJob := "Job"
def kindCronJob := "CronJob"
def kindKubevirtVMI := "VirtualMachineInstance"
def k8sKinds : List String :=
  [kindPod, kindDeployment, kindReplicaSet, kindDaemonSet, kindStatefulSet, kindJob, kindCronJob]

def coreV1 := "v1"
def appsV1 := "apps/v1"
def batchV1 := "batch/v1"
def kubevirtV1 := "kubevirt.io/v1"
def k8sAPIVersions : List String := [coreV1, appsV1, batchV1]

end Constant

end Spiderpool
