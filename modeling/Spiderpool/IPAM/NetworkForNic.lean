/-
# The network behind an interface of a Pod

`GetMultusNetworkForNIC` of `pkg/iaas/utils/multus.go`, which repeats for the IaaS provider what
`selectByPod` does for the pools: the first interface is the one of the default network, and the
others are found in the list of networks by their names or by their indices.
-/

import Spiderpool.IPAM.Selected
import Spiderpool.Multus.Networks

namespace Spiderpool
namespace IPAM

/-- An element as `selectByPod` reads it. -/
def selectElement (n : Multus.NetworkSelectionElement) : NetworkSelectionElement where
  name := n.name
  ns := n.ns
  interfaceRequest := n.interfaceRequest

/-- `ParsePodNetworkAnnotation`, of what is read here. -/
def listNetworks (env : Multus.AnnotationEnv) (podNetworks defaultNamespace : String) :
    Result Err (List NetworkSelectionElement) := do
  let networks ← Multus.parsePodNetworkAnnotation env podNetworks defaultNamespace
  return networks.map selectElement

def getDefaultMultusNetwork (env : Multus.AnnotationEnv) (podAnno : PodAnnotations)
    (agentNamespace : String) (clusterNetwork : Option String) : Result Err (String × String) := do
  let defaultMultusObj ← match podAnno.defaultNetwork.getD "", clusterNetwork with
    | "", none => fail (.new "no default multus network configured")
    | "", some clusterNetwork => .ok clusterNetwork
    | value, _ => .ok value
  let networks ← mapErr (.wrap "failed to parse default network annotation: " · "")
    (listNetworks env defaultMultusObj agentNamespace)
  match networks with
  | [] => fail (.new "empty default network annotation")
  | n :: _ => return (if n.ns = "" then agentNamespace else n.ns, n.name)

def getAdditionalMultusNetwork (env : Multus.AnnotationEnv) (podAnno : PodAnnotations)
    (podNamespace nic : String) : Result Err (String × String) :=
  if podAnno.networks.getD "" = "" then fail (.new "no multus network attachment annotation found")
  else do
    let networks ← mapErr (.wrap "failed to parse network attachment annotation: " · "")
      (listNetworks env (podAnno.networks.getD "") podNamespace)
    match findNetwork nic 0 networks with
    | none => fail (.new ("no matching multus network found for NIC " ++ nic))
    | some n => return (if n.ns = "" then podNamespace else n.ns, n.name)

/-- `GetMultusNetworkForNIC`: the namespace and the name of the network. -/
def getMultusNetworkForNIC (env : Multus.AnnotationEnv) (agentNamespace : String)
    (clusterNetwork : Option String) (pod : Pod) (nic : String) : Result Err (String × String) :=
  if nic = Constant.clusterDefaultInterfaceName ∨ nic = itoa 0 then
    getDefaultMultusNetwork env pod.annotations agentNamespace clusterNetwork
  else getAdditionalMultusNetwork env pod.annotations pod.ns nic

/-- What `selectByPod` asks of others, where the annotations are parsed as they are. -/
def SelectEnv.parsing (select : SelectEnv) (env : Multus.AnnotationEnv) : SelectEnv :=
  { select with parsePodNetworkAnnotation := listNetworks env }

/-! ### Which networks -/

section

variable {env : Multus.AnnotationEnv} {cfg : Config} {select : SelectEnv} {p : IPPool} {pod : Pod}
  {value nic : String} {n : NetworkSelectionElement} {networks : List NetworkSelectionElement}

theorem defaultNetwork_eq (hvalue : pod.annotations.defaultNetwork = some value) (hne : value ≠ "")
    (hlist : listNetworks env value cfg.agentNamespace = .ok (n :: networks)) :
    defaultNetwork cfg (select.parsing env) p pod =
        .ok (if n.ns = "" then cfg.agentNamespace else n.ns, n.name) ∧
      getDefaultMultusNetwork env pod.annotations cfg.agentNamespace cfg.multusClusterNetwork =
        .ok (if n.ns = "" then cfg.agentNamespace else n.ns, n.name) := by
  have hgetD : pod.annotations.defaultNetwork.getD "" = value := by rw [hvalue]; rfl
  have hparse : SelectEnv.parsePodNetworkAnnotation (select.parsing env) value cfg.agentNamespace =
    .ok (n :: networks) := hlist
  unfold defaultNetwork getDefaultMultusNetwork
  rw [hgetD]
  constructor
  · split
    · exact absurd rfl hne
    · exact absurd rfl hne
    · exact bind_eq_ok.2 ⟨_, rfl, bind_eq_ok.2 ⟨n :: networks, mapErr_eq_ok.2 hparse, rfl⟩⟩
  · split
    · exact absurd rfl hne
    · exact absurd rfl hne
    · exact bind_eq_ok.2 ⟨_, rfl, bind_eq_ok.2 ⟨n :: networks, mapErr_eq_ok.2 hlist, rfl⟩⟩

end

/-! ### Which annotations are safe -/

/-- The parser does not read through the null pointers of the list. -/
def NullSafe (env : Multus.AnnotationEnv) (value : String) : Prop :=
  ∀ networks, Multus.Lists env value networks → Multus.NullsBehind env networks

section

variable {env : Multus.AnnotationEnv} {cfg : Config} {select : SelectEnv} {p : IPPool} {pod : Pod}
  {value nic : String}

theorem parse_returns_iff {defaultNamespace : String} :
    Returns ( Multus.parsePodNetworkAnnotation env value defaultNamespace) ↔ NullSafe env value := by
  simp only [Multus.parsePodNetworkAnnotation_returns_iff, Multus.readNetworks_eq_ok, NullSafe]

theorem listNetworks_returns {defaultNamespace : String} (h : NullSafe env value) :
    Returns (listNetworks env value defaultNamespace) :=
  (parse_returns_iff.2 h).seq fun _ _ => returns_ok _

theorem interfaceNetwork_safe (hdefault : NullSafe env (pod.annotations.defaultNetwork.getD ""))
    (hnetworks : NullSafe env (pod.annotations.networks.getD ""))
    (hcluster : ∀ value ∈ cfg.multusClusterNetwork, NullSafe env value) :
    Returns (interfaceNetwork cfg (select.parsing env) p pod nic) :=
  interfaceNetwork_returns p (listNetworks_returns hdefault)
    (fun value hvalue => listNetworks_returns (hcluster value hvalue)) (listNetworks_returns hnetworks)

theorem getMultusNetworkForNIC_safe {agentNamespace : String} {clusterNetwork : Option String}
    (hdefault : NullSafe env (pod.annotations.defaultNetwork.getD ""))
    (hnetworks : NullSafe env (pod.annotations.networks.getD ""))
    (hcluster : ∀ value ∈ clusterNetwork, NullSafe env value) :
    Returns (getMultusNetworkForNIC env agentNamespace clusterNetwork pod nic) := by
  unfold getMultusNetworkForNIC
  split_ifs
  · unfold getDefaultMultusNetwork
    dsimp only
    split
    · exact (returns_fail _).seq fun _ h => nomatch h
    · rename_i value _
      refine Returns.after rfl (((listNetworks_returns (hcluster value rfl)).mapErr _).seq ?_)
      rintro (_ | ⟨n, _⟩) -
      · exact returns_fail _
      · exact returns_ok _
    · refine Returns.after rfl (((listNetworks_returns hdefault).mapErr _).seq ?_)
      rintro (_ | ⟨n, _⟩) -
      · exact returns_fail _
      · exact returns_ok _
  · unfold getAdditionalMultusNetwork
    split_ifs
    · exact returns_fail _
    · refine ((listNetworks_returns hnetworks).mapErr _).seq fun networks _ => ?_
      split
      · exact returns_fail _
      · exact returns_ok _

end

end IPAM
end Spiderpool
