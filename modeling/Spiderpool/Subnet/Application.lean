/-
# The controller of auto-created pools

`syncHandler` and `applyAutoIPPool` of `pkg/applicationcontroller/app_controller.go`: an
application in the work queue is read from the lister of its kind, and for each interface and
version that its annotations name a subnet for, `ReconcileAutoIPPool` is called with the number
of addresses that the pool is to have.
-/

import Spiderpool.Subnet.AnnoConfig
import Spiderpool.Subnet.AutoPool

namespace Spiderpool
namespace AppController

structure AppWorkQueueKey where
  metaNamespaceKey : String
  appKind : String
  appUID : String
deriving DecidableEq

/-- An application as its lister holds it: its metadata, the annotations of its Pod template
and what its kind counts Pods with. -/
structure AppObject (α : Type) where
  ns : String
  name : String
  uid : String
  annotations : PodAnnotations
  count : α

/-- A lister, by namespace and name; `none` stands for an application that is not there. -/
abbrev Lister (α : Type) := String → String → Result Err (Option (AppObject α))

/-- The listers of the controller. The replicas are `*int32`, as are the parallelism and the
completions of a Job. -/
structure Listers where
  deployments : Lister (Option Int32) := fun _ _ => .ok none
  replicaSets : Lister (Option Int32) := fun _ _ => .ok none
  daemonSets : Lister Int32 := fun _ _ => .ok none
  statefulSets : Lister (Option Int32) := fun _ _ => .ok none
  jobs : Lister (Option Int32 × Option Int32) := fun _ _ => .ok none
  cronJobs : Lister (Option Int32 × Option Int32) := fun _ _ => .ok none

/-- What `syncHandler` goes on with. -/
structure SyncedApp where
  podController : PodTopController
  podAnno : PodAnnotations
  appReplicas : ℤ

/-- A case of the switch of `syncHandler`. -/
def listed {α : Type} (object : Result Err (Option (AppObject α))) (kind apiVersion : String)
    (app : α → App) (appReplicas : α → ℤ) : Result Err (Option SyncedApp) := do
  let object ← object
  return object.map fun o =>
    { podController :=
        { apiVersion := apiVersion, kind := kind, ns := o.ns, name := o.name, uid := o.uid,
          app := app o.count }
      podAnno := o.annotations
      appReplicas := appReplicas o.count }

/-- The replicas of a Deployment, a ReplicaSet or a StatefulSet. -/
def replicasOf (replicas : Option Int32) : ℤ := getAppReplicas (replicas.map Int32.toInt)

def jobPodsOf (job : Option Int32 × Option Int32) : ℤ :=
  calculateJobPodNum (job.1.map Int32.toInt) (job.2.map Int32.toInt)

/-- The switch of `syncHandler`. -/
def findApp (listers : Listers) (key : AppWorkQueueKey) (ns name : String) :
    Result Err (Option SyncedApp) :=
  if key.appKind = Constant.kindDeployment then
    listed (listers.deployments ns name) key.appKind Constant.appsV1
      (fun r => .deployment (r.map Int32.toInt)) replicasOf
  else if key.appKind = Constant.kindReplicaSet then
    listed (listers.replicaSets ns name) key.appKind Constant.appsV1
      (fun r => .replicaSet (r.map Int32.toInt)) replicasOf
  else if key.appKind = Constant.kindDaemonSet then
    listed (listers.daemonSets ns name) key.appKind Constant.appsV1
      (fun n => .daemonSet n.toInt) Int32.toInt
  else if key.appKind = Constant.kindStatefulSet then
    listed (listers.statefulSets ns name) key.appKind Constant.appsV1
      (fun r => .statefulSet (r.map Int32.toInt)) replicasOf
  else if key.appKind = Constant.kindJob then
    listed (listers.jobs ns name) key.appKind Constant.batchV1
      (fun j => .job (j.1.map Int32.toInt) (j.2.map Int32.toInt)) jobPodsOf
  else if key.appKind = Constant.kindCronJob then
    listed (listers.cronJobs ns name) key.appKind Constant.batchV1
      (fun j => .cronJob (j.1.map Int32.toInt) (j.2.map Int32.toInt)) jobPodsOf
  else
    fail (.wrap "" (.of .errWrongInput) (": unexpected appWorkQueueKey in workQueue '\x7bMetaNamespaceKey:" ++
      key.metaNamespaceKey ++ " AppKind:" ++ key.appKind ++ " AppUID:" ++ key.appUID ++ "\x7d'"))

/-- A call of `ReconcileAutoIPPool`. -/
structure AutoPoolCall where
  pool : Option IPPool
  subnetName : String
  podController : PodTopController
  property : AutoPoolProperty

/-- The configuration of the controller and what it asks of others. -/
structure Env where
  enableIPv4 : Bool := true
  enableIPv6 : Bool := true
  /-- `ClusterSubnetAutoPoolDefaultRedundantIPNumber`. -/
  redundant : Int64
  listers : Listers
  /-- The pools with all of these labels. -/
  listIPPools : GoMap String String → Result Err (List IPPool) := fun _ => .ok []
  reconcileAutoIPPool : AutoPoolCall → Result Err Unit := fun _ => .ok ()

/-- The labels by which the pool of an interface and a version is found. -/
def matchLabels (c : PodTopController) (subnetName : String) (ipVersion : IPVersion)
    (ifName : String) : GoMap String String :=
  [(Constant.labelIPPoolOwnerSpiderSubnet, subnetName),
   (Constant.labelIPPoolOwnerApplicationGV, applicationLabelGV c.apiVersion),
   (Constant.labelIPPoolOwnerApplicationKind, c.kind),
   (Constant.labelIPPoolOwnerApplicationNamespace, c.ns),
   (Constant.labelIPPoolOwnerApplicationName, c.name),
   (Constant.labelIPPoolIPVersion, autoPoolIPVersionLabelValue ipVersion),
   (Constant.labelIPPoolInterface, ifName)].foldl (fun m kv => m.insert kv.1 kv.2) ∅

/-- The pool of an earlier application of the same name, which is about to be reclaimed. -/
def isPrevious (c : PodTopController) (p : IPPool) : Bool :=
  (p.labels.lookup Constant.labelIPPoolReclaimIPPool).getD "" = "true" ∧
    (p.labels.lookup Constant.labelIPPoolOwnerApplicationUID).getD "" ≠ c.uid

/-- `fn` of `applyAutoIPPool`. -/
def applyVersion (env : Env) (config : PodSubnetAnnoConfig) (c : PodTopController)
    (appReplicas : ℤ) (subnetName : String) (ipVersion : IPVersion) (ifName : String) :
    Result Err AutoPoolCall := do
  let labels := matchLabels c subnetName ipVersion ifName
  let pools ← mapErr (.wrap ("failed to get auto-created IPPoolList with matchLabels " ++
    formatMap labels ++ ", error: ") · "") (env.listIPPools labels)
  let call : AutoPoolCall :=
    { pool := pools.find? fun p => ¬isPrevious c p
      subnetName := subnetName
      podController := c
      property :=
        { desiredIPNumber := config.desiredIPNumber appReplicas
          ipVersion := ipVersion
          isReclaimIPPool := config.reclaimIPPool
          ifName := ifName } }
  env.reconcileAutoIPPool call
  return call

def multierr (es : List Err) : Err := ⟨es.flatMap (·.sentinels), "; ".intercalate (es.map (·.text))⟩

/-- `processNext` of `applyAutoIPPool`: the versions of an interface, beside each other. -/
def processNext (env : Env) (config : PodSubnetAnnoConfig) (c : PodTopController)
    (appReplicas : ℤ) (item : AnnoSubnetItem) : Result Err (List AutoPoolCall) :=
  let apply := fun (enabled : Bool) (ipVersion : IPVersion) (subnets : List String) =>
    if enabled then
      (subnets.take 1).map fun subnetName =>
        applyVersion env config c appReplicas subnetName ipVersion item.interface
    else []
  mapErr multierr <| joinResults <|
    apply env.enableIPv4 Constant.ipv4 item.ipv4 ++ apply env.enableIPv6 Constant.ipv6 item.ipv6

/-- `applyAutoIPPool`: the calls it has made when it succeeds. The last error prints the
configuration too. -/
def applyAutoIPPool (env : Env) (config : PodSubnetAnnoConfig) (c : PodTopController)
    (appReplicas : ℤ) : Result Err (List AutoPoolCall) :=
  if config.multipleSubnets ≠ [] then
    List.flatten <$> config.multipleSubnets.mapM (processNext env config c appReplicas)
  else
    match config.singleSubnet with
    | some item => processNext env config c appReplicas item
    | none => fail (.wrap "" (.of .errWrongInput) (": no subnets specified to create or mark " ++
        "auto-created IPPool for application '" ++ c.kind ++ "/" ++ c.ns ++ "/" ++ c.name ++ "'"))

/-- How `syncHandler` ends: the pools of an application that is gone are deleted, or calls have
been made for it. -/
inductive Synced where
  | deleteAutoPools (appUID : String)
  | applied (app : SyncedApp) (calls : List AutoPoolCall)

/-- `syncHandler`. An application without a configuration panics. -/
def syncHandler (env : Env) (key : AppWorkQueueKey) : Result Err Synced := do
  let (ns, name) ← mapErr (.wrongInput ("failed to split meta namespace key '" ++
    key.metaNamespaceKey ++ "', error: ")) (splitMetaNamespaceKey key.metaNamespaceKey)
  match ← findApp env.listers key ns name with
  | none => return .deleteAutoPools key.appUID
  | some app => do
    let subnetConfig ← mapErr (.wrongInput "failed to get pod annotation subnet config, error: ")
      (getSubnetAnnoConfig env.redundant app.podAnno)
    let subnetConfig ← deref subnetConfig
    let calls ← mapErr (.wrap "failed to create or scale IPPool: " · "")
      (applyAutoIPPool env subnetConfig app.podController app.appReplicas)
    return .applied app calls

section

variable {env : Env} {config : PodSubnetAnnoConfig} {c : PodTopController} {appReplicas : ℤ}
  {key : AppWorkQueueKey} {app : SyncedApp} {call : AutoPoolCall} {calls : List AutoPoolCall}

theorem applyVersion_number {subnetName ifName : String} {ipVersion : IPVersion}
    (h : applyVersion env config c appReplicas subnetName ipVersion ifName = .ok call) :
    call.property.desiredIPNumber = config.desiredIPNumber appReplicas := by
  obtain ⟨pools, -, h⟩ := bind_eq_ok.1 h
  obtain ⟨-, h⟩ := seq_eq_ok.1 h
  rw [← Except.ok.inj h]

theorem processNext_number {item : AnnoSubnetItem}
    (h : processNext env config c appReplicas item = .ok calls) (hcall : call ∈ calls) :
    call.property.desiredIPNumber = config.desiredIPNumber appReplicas := by
  have hmem := mem_of_joinResults (mapErr_eq_ok.1 h) hcall
  rcases List.mem_append.1 hmem with hmem | hmem <;>
  · dsimp only at hmem
    split_ifs at hmem
    · obtain ⟨subnetName, -, happly⟩ := List.mem_map.1 hmem
      exact applyVersion_number happly
    · cases hmem

theorem applyAutoIPPool_number (h : applyAutoIPPool env config c appReplicas = .ok calls)
    (hcall : call ∈ calls) :
    call.property.desiredIPNumber = config.desiredIPNumber appReplicas := by
  unfold applyAutoIPPool at h
  split_ifs at h
  · obtain ⟨callss, hcallss, h⟩ := bind_eq_ok.1 ((map_eq_pure_bind _ _).symm.trans h)
    rw [← Except.ok.inj h] at hcall
    obtain ⟨calls', hcalls', hcall⟩ := List.mem_flatten.1 hcall
    obtain ⟨item, -, hitem⟩ := exists_of_mem_mapM hcallss hcalls'
    exact processNext_number hitem hcall
  · split at h
    · exact processNext_number h hcall
    · cases h

theorem syncHandler_ok (h : syncHandler env key = .ok (.applied app calls)) :
    (∃ ns name, findApp env.listers key ns name = .ok (some app)) ∧
      ∀ call ∈ calls, NumberAsked env.redundant app.podAnno.poolIPNumber app.appReplicas
        call.property.desiredIPNumber := by
  obtain ⟨⟨ns, name⟩, -, h⟩ := bind_eq_ok.1 h
  obtain ⟨found, hfound, h⟩ := bind_eq_ok.1 h
  cases found with
  | none => cases h
  | some app' =>
    obtain ⟨config, hconfig, h⟩ := bind_eq_ok.1 h
    obtain ⟨config, hderef, h⟩ := bind_eq_ok.1 h
    obtain ⟨calls', hcalls, h⟩ := bind_eq_ok.1 h
    obtain ⟨rfl, rfl⟩ := Synced.applied.inj (Except.ok.inj h)
    rw [deref_eq_ok.1 hderef] at hconfig
    refine ⟨⟨ns, name, hfound⟩, fun call hcall => ?_⟩
    rw [applyAutoIPPool_number (mapErr_eq_ok.1 hcalls) hcall]
    exact getSubnetAnnoConfig_number (mapErr_eq_ok.1 hconfig) _

end

end AppController
end Spiderpool
