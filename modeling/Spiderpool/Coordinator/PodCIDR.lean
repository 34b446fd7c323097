/-
# The CIDRs of the cluster in the status of the coordinator

`updatePodAndServerCIDR` of the coordinator controller: the networks of the Pods from the Calico or
Cilium pools or from the configuration of the cluster, and those of the services from the
ServiceCIDR objects. The objects are sorted by their creation timestamps "to admit podCIDR has
changed due to the order", and their networks are written one after the other.

Timestamps count whole seconds, and objects of one manifest share theirs: the order of the networks
is then the order in which the objects were listed.
-/

import Spiderpool.Base.SortedConcat
import Spiderpool.Coordinator.Validate

namespace Spiderpool
namespace CoordinatorManager

open Coordinator

/-! ### The objects -/

structure CalicoIPPool where
  name : String
  creationTimestamp : ℤ
  deletionTimestamp : Option ℤ := none
  cidr : String
  disabled : Bool := false
deriving DecidableEq

/-- `CiliumPodIPPool`; an address family without a specification is none. -/
structure CiliumPodIPPool where
  name : String
  creationTimestamp : ℤ
  deletionTimestamp : Option ℤ := none
  ipv4 : Option (List String)
  ipv6 : Option (List String)
deriving DecidableEq

structure ServiceCIDR where
  name : String
  creationTimestamp : ℤ
  deletionTimestamp : Option ℤ := none
  cidrs : List String
deriving DecidableEq

def CalicoIPPool.podCIDR (p : CalicoIPPool) : List String :=
  if p.deletionTimestamp = none ∧ p.disabled = false then [p.cidr] else []

def CiliumPodIPPool.podCIDR (p : CiliumPodIPPool) : List String :=
  if p.deletionTimestamp ≠ none then [] else p.ipv4.getD [] ++ p.ipv6.getD []

def ServiceCIDR.serviceCIDR (p : ServiceCIDR) : List String :=
  if p.deletionTimestamp = none then p.cidrs else []

/-! ### The controller -/

def notReady := "NotReady"
def synced := "Synced"

structure Status where
  phase : String := ""
  reason : String := ""
  overlayPodCIDR : List String := []
  serviceCIDR : List String := []
deriving DecidableEq

structure CidrEnv where
  /-- `utils.GetDefaultCniName`. -/
  defaultCniName : Result Err String
  /-- What `kubeadm-config` tells of the Pods and the services; nothing without it. -/
  kubeadm : List String × List String
  /-- What the first Pod of the kube-controller-manager tells, if there is one. -/
  controllerManager : Result Err (Option (List String × List String))
  calicoPools : Result Err (List CalicoIPPool)
  /-- `cc.CiliumConfigMap`. -/
  ciliumConfigMap : String
  configMap : String → String → Result Err (GoMap String String)
  /-- The lister of the Cilium pools, which may be nil. -/
  ciliumPools : Option (Result Err (List CiliumPodIPPool))
  /-- The lister of the ServiceCIDRs, which may be nil. -/
  serviceCIDRs : Option (Result Err (List ServiceCIDR))

/-- The objects are sorted by their creation timestamps, and what each adds is appended. -/
def sortedCIDRs {α : Type} (S : SliceSort) (creationTimestamp : α → ℤ) (cidrs : α → List String)
    (list : List α) : List String :=
  (S.sort (lessBy creationTimestamp) list).flatMap cidrs

def updateCalicoPodCIDR (S : SliceSort) (ipPoolList : Result Err (List CalicoIPPool)) (st : Status) :
    Result Err Status := do
  let items ← ipPoolList
  let podCIDR := sortedCIDRs S CalicoIPPool.creationTimestamp CalicoIPPool.podCIDR items
  if st.phase = synced ∧ st.overlayPodCIDR = podCIDR then return st
  return { st with overlayPodCIDR := podCIDR }

def fetchCiliumIPPools (S : SliceSort) (ipPoolList : Result Err (List CiliumPodIPPool))
    (st : Status) : Result Err Status := do
  let items ← ipPoolList
  let podCIDR := sortedCIDRs S CiliumPodIPPool.creationTimestamp CiliumPodIPPool.podCIDR items
  if st.phase = synced ∧ st.overlayPodCIDR = podCIDR then return st
  return { st with overlayPodCIDR := podCIDR }

def updateServiceCIDR (S : SliceSort) (svcPoolList : Option (Result Err (List ServiceCIDR)))
    (st : Status) : Result Err Status :=
  match svcPoolList with
  | none => fail (.new "the kubernetes serviceCIDR is disabled")
  | some list => do
    let items ← list
    let serviceCIDR := sortedCIDRs S ServiceCIDR.creationTimestamp ServiceCIDR.serviceCIDR items
    if st.phase = synced ∧ st.serviceCIDR = serviceCIDR then return st
    return { st with serviceCIDR := serviceCIDR }

def parseNsAndName (s : String) : String × String :=
  match split (trimSpace s) '/' with
  | [ns, name] => (ns, name)
  | _ => ("", "")

/-- The networks of a cluster pool. It is the text before trimming that is read and kept for
IPv6. -/
def clusterPool (data : GoMap String String) : Result Err (List String) := do
  let v4 ← (match data.lookup "cluster-pool-ipv4-cidr" with
    | none => .ok []
    | some v4 => do
      failIf (netParseCIDR (trimSpace v4) = none) (netParseError (trimSpace v4))
      return [trimSpace v4])
  let v6 ← (match data.lookup "cluster-pool-ipv6-cidr" with
    | none => .ok []
    | some v6 => do
      failIf (netParseCIDR v6 = none) (netParseError v6)
      return [v6])
  return v4 ++ v6

def updateCiliumPodCIDR (S : SliceSort) (env : CidrEnv) (k8sPodCIDR : List String) (st : Status) :
    Result Err Status := do
  let key := parseNsAndName env.ciliumConfigMap
  failIf (key = ("", "")) (.new ("invalid ENV SPIDERPOOL_CILIUM_CONFIGMAP_NAMESPACE_NAME: " ++
    env.ciliumConfigMap ++ ", unable parse cilium-config configMap"))
  match env.ciliumPools with
  | none => fail (.new "the cilium multi-pool feature is unavailable")
  | some pools => do
    let data ← env.configMap key.1 key.2
    let ipam := (data.lookup "ipam").getD ""
    if ipam = "cluster-pool" ∨ ipam = "cluster-pool-v2beta" then
      let podCIDR ← clusterPool data
      return { st with overlayPodCIDR := podCIDR }
    else if ipam = "multi-pool" then fetchCiliumIPPools S pools st
    else if ipam = "kubernetes" then
      return { st with overlayPodCIDR := k8sPodCIDR, phase := synced }
    else fail (.new ("unsupported CIlium IPAM mode: " ++ ipam))

def fetchType (env : CidrEnv) : Result Err String := do
  let defaultCniName ← env.defaultCniName
  if defaultCniName = "calico" ∨ defaultCniName = "k8s-pod-network" then return "calico"
  else if defaultCniName = "cilium" then return "cilium"
  else if defaultCniName = "flannel" then return "cluster"
  else return "none"

def setStatus2NoReady (reason : String) : Status where
  phase := notReady
  reason := reason
  overlayPodCIDR := []
  serviceCIDR := []

/-- The networks of the Pods and services that the cluster was configured with. -/
def clusterCIDR (env : CidrEnv) : Result Err (List String × List String) := do
  if env.kubeadm.1 = [] ∨ env.kubeadm.2 = [] then
    match ← env.controllerManager with
    | none => fail (.new "No kube-controller-manager pod found, unable to get clusterCIDR")
    | some found => return found
  else return env.kubeadm

def updatePodCIDR (S : SliceSort) (env : CidrEnv) (podCidrType : String) (k8sPodCIDR : List String)
    (st : Status) : Result Err Status :=
  if podCidrType = "cluster" then .ok { st with overlayPodCIDR := k8sPodCIDR }
  else if podCidrType = "calico" then updateCalicoPodCIDR S env.calicoPools st
  else if podCidrType = "cilium" then updateCiliumPodCIDR S env k8sPodCIDR st
  else if podCidrType = "none" then .ok { st with phase := synced, overlayPodCIDR := [] }
  else .ok st

/-- What is done with an error that ends `updatePodAndServerCIDR`. -/
def orNotReady (st : Err → Status) : Result Err Status → Result Err Status
  | .error (.err e) => .ok (st e)
  | r => r

def updatePodAndServerCIDR (S : SliceSort) (env : CidrEnv) (podCIDRType : Option String)
    (st : Status) : Result Err Status := do
  let podCidrType ← deref podCIDRType
  orNotReady (fun e => setStatus2NoReady e.text) do
    let podCidrType ← (if podCidrType = "auto" then fetchType env else .ok podCidrType)
    let k8s ← clusterCIDR env
    orNotReady (fun e => { st with phase := notReady, reason := e.text, overlayPodCIDR := [] }) do
      let st ← updatePodCIDR S env podCidrType k8s.1 st
      let st ← (match updateServiceCIDR S env.serviceCIDRs st with
        | .error (.err _) => .ok { st with serviceCIDR := k8s.2 }
        | r => r)
      return { st with phase := synced, reason := "" }

/-! ### The order of the lists -/

section

variable (S : SliceSort)

theorem updateCalicoPodCIDR_ok (pools : List CalicoIPPool) (st : Status) :
    updateCalicoPodCIDR S (.ok pools) st = .ok { st with
      overlayPodCIDR := sortedCIDRs S CalicoIPPool.creationTimestamp CalicoIPPool.podCIDR pools } := by
  simp only [updateCalicoPodCIDR, bind, Except.bind]
  split_ifs with hsame
  · rw [← hsame.2]
    rfl
  · rfl

theorem fetchCiliumIPPools_ok (pools : List CiliumPodIPPool) (st : Status) :
    fetchCiliumIPPools S (.ok pools) st = .ok { st with
      overlayPodCIDR :=
        sortedCIDRs S CiliumPodIPPool.creationTimestamp CiliumPodIPPool.podCIDR pools } := by
  simp only [fetchCiliumIPPools, bind, Except.bind]
  split_ifs with hsame
  · rw [← hsame.2]
    rfl
  · rfl

theorem updateServiceCIDR_ok (list : List ServiceCIDR) (st : Status) :
    updateServiceCIDR S (some (.ok list)) st = .ok { st with
      serviceCIDR := sortedCIDRs S ServiceCIDR.creationTimestamp ServiceCIDR.serviceCIDR list } := by
  simp only [updateServiceCIDR, bind, Except.bind]
  split_ifs with hsame
  · rw [← hsame.2]
    rfl
  · rfl

theorem sortedCIDRs_perm {α : Type} {key : α → ℤ} {cidrs : α → List String} {xs ys : List α}
    (hties : TiesCommute key cidrs xs) (hperm : ys.Perm xs) :
    sortedCIDRs S key cidrs ys = sortedCIDRs S key cidrs xs :=
  flatMap_sort_perm S hties ys hperm

/-- A function that keeps the networks along a sort and nothing else of the list does not depend on
the order of the list if equal objects commute; of a short list, only then. -/
theorem orderFree_kept {α β : Type} (key : α → ℤ) (cidrs : α → List String)
    (put : List String → β) (hput : put.Injective) {g : List α → β}
    (hg : ∀ l, g l = put (sortedCIDRs S key cidrs l)) (xs : List α) :
    (TiesCommute key cidrs xs → OrderFree g xs) ∧
      (xs.length ≤ 12 → OrderFree g xs → TiesCommute key cidrs xs) := by
  constructor
  · intro hties ys hperm
    rw [hg, hg, sortedCIDRs_perm S hties hperm]
  · intro hlen hfree
    refine tiesCommute_of_orderFree fun ys hperm => ?_
    have heq := hfree ys hperm
    rw [hg, hg] at heq
    have hsort := hput heq
    rwa [sortedCIDRs, sortedCIDRs, S.short _ hlen,
      S.short _ (hperm.length_eq.trans_le hlen)] at hsort

def CidrEnv.listing (env : CidrEnv) (calico : List CalicoIPPool) (cilium : List CiliumPodIPPool)
    (services : List ServiceCIDR) : CidrEnv :=
  { env with
    calicoPools := .ok calico
    ciliumPools := some (.ok cilium)
    serviceCIDRs := some (.ok services) }

theorem updatePodAndServerCIDR_perm (env : CidrEnv) (podCIDRType : Option String) (st : Status)
    {calico calico' : List CalicoIPPool} {cilium cilium' : List CiliumPodIPPool}
    {services services' : List ServiceCIDR} (hcalico : calico'.Perm calico)
    (hcilium : cilium'.Perm cilium) (hservices : services'.Perm services)
    (hties : TiesCommute CalicoIPPool.creationTimestamp CalicoIPPool.podCIDR calico)
    (hties' : TiesCommute CiliumPodIPPool.creationTimestamp CiliumPodIPPool.podCIDR cilium)
    (hties'' : TiesCommute ServiceCIDR.creationTimestamp ServiceCIDR.serviceCIDR services) :
    updatePodAndServerCIDR S (env.listing calico' cilium' services') podCIDRType st =
      updatePodAndServerCIDR S (env.listing calico cilium services) podCIDRType st := by
  have hpod : ∀ (t : String) (k8s : List String) (st : Status),
      updatePodCIDR S (env.listing calico' cilium' services') t k8s st =
        updatePodCIDR S (env.listing calico cilium services) t k8s st := by
    intro t k8s st
    have hc : updateCalicoPodCIDR S (.ok calico') st = updateCalicoPodCIDR S (.ok calico) st := by
      rw [updateCalicoPodCIDR_ok, updateCalicoPodCIDR_ok, sortedCIDRs_perm S hties hcalico]
    have hk : fetchCiliumIPPools S (.ok cilium') st = fetchCiliumIPPools S (.ok cilium) st := by
      rw [fetchCiliumIPPools_ok, fetchCiliumIPPools_ok, sortedCIDRs_perm S hties' hcilium]
    simp only [updatePodCIDR, updateCiliumPodCIDR, CidrEnv.listing, hc, hk]
    rfl
  have hserv : ∀ st : Status, updateServiceCIDR S (some (.ok services')) st =
      updateServiceCIDR S (some (.ok services)) st := by
    intro st
    rw [updateServiceCIDR_ok, updateServiceCIDR_ok, sortedCIDRs_perm S hties'' hservices]
  have htype : fetchType (env.listing calico' cilium' services') =
      fetchType (env.listing calico cilium services) := rfl
  have hcluster : clusterCIDR (env.listing calico' cilium' services') =
      clusterCIDR (env.listing calico cilium services) := rfl
  simp only [updatePodAndServerCIDR, htype, hcluster, hpod]
  simp only [CidrEnv.listing, hserv]

end

/-- The networks of the Pods and services, as each of the three functions computes them, do not depend
on the order of the list if objects with equal timestamps commute; of at most twelve objects, only
then. -/
theorem cidrs_orderFree_iff (S : SliceSort) (st : Status) :
    (∀ pools : List CalicoIPPool,
      (TiesCommute CalicoIPPool.creationTimestamp CalicoIPPool.podCIDR pools →
        OrderFree (fun l => updateCalicoPodCIDR S (.ok l) st) pools) ∧
      (pools.length ≤ 12 → OrderFree (fun l => updateCalicoPodCIDR S (.ok l) st) pools →
        TiesCommute CalicoIPPool.creationTimestamp CalicoIPPool.podCIDR pools)) ∧
    (∀ pools : List CiliumPodIPPool,
      (TiesCommute CiliumPodIPPool.creationTimestamp CiliumPodIPPool.podCIDR pools →
        OrderFree (fun l => fetchCiliumIPPools S (.ok l) st) pools) ∧
      (pools.length ≤ 12 → OrderFree (fun l => fetchCiliumIPPools S (.ok l) st) pools →
        TiesCommute CiliumPodIPPool.creationTimestamp CiliumPodIPPool.podCIDR pools)) ∧
    (∀ list : List ServiceCIDR,
      (TiesCommute ServiceCIDR.creationTimestamp ServiceCIDR.serviceCIDR list →
        OrderFree (fun l => updateServiceCIDR S (some (.ok l)) st) list) ∧
      (list.length ≤ 12 → OrderFree (fun l => updateServiceCIDR S (some (.ok l)) st) list →
        TiesCommute ServiceCIDR.creationTimestamp ServiceCIDR.serviceCIDR list)) := by
  refine ⟨fun pools => ?_, fun pools => ?_, fun list => ?_⟩
  · refine orderFree_kept S _ _ (fun cidrs => .ok { st with overlayPodCIDR := cidrs })
      (fun a b hab => ?_) (fun l => updateCalicoPodCIDR_ok S l st) pools
    exact (Status.mk.inj (Except.ok.inj hab)).2.2.1
  · refine orderFree_kept S _ _ (fun cidrs => .ok { st with overlayPodCIDR := cidrs })
      (fun a b hab => ?_) (fun l => fetchCiliumIPPools_ok S l st) pools
    exact (Status.mk.inj (Except.ok.inj hab)).2.2.1
  · refine orderFree_kept S _ _ (fun cidrs => .ok { st with serviceCIDR := cidrs })
      (fun a b hab => ?_) (fun l => updateServiceCIDR_ok S l st) list
    exact (Status.mk.inj (Except.ok.inj hab)).2.2.2

end CoordinatorManager

namespace Sample

open CoordinatorManager

def firstPool : CalicoIPPool := { name := "pool-a", creationTimestamp := 7, cidr := "10.1.0.0/16" }

def secondPool : CalicoIPPool := { name := "pool-b", creationTimestamp := 7, cidr := "10.2.0.0/16" }

/-- A pool that is not used commutes with every other. -/
theorem disabled_pool_orderFree :
    OrderFree (fun l => updateCalicoPodCIDR .insertion (.ok l) {})
      [firstPool, { secondPool with disabled := true }] := by
  refine ((cidrs_orderFree_iff .insertion {}).1 _).1 ?_
  simp only [TiesCommute, List.forall_mem_cons]
  decide

/-- Two pools of one second, listed in two orders. -/
theorem pools_of_one_second :
    (updateCalicoPodCIDR .insertion (.ok [firstPool, secondPool]) {}).toOption.map
        Status.overlayPodCIDR = some ["10.1.0.0/16", "10.2.0.0/16"] ∧
      (updateCalicoPodCIDR .insertion (.ok [secondPool, firstPool]) {}).toOption.map
        Status.overlayPodCIDR = some ["10.2.0.0/16", "10.1.0.0/16"] := by
  decide

end Sample

end Spiderpool
