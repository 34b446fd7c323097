/-
# One annotation, three readers

The annotations of Multus are read by the webhook of Pods, by the selection of pools and by the code
for the provider.

All three parse with `ParsePodNetworkAnnotation`, which panics at a null among the elements of a
document (`annotation_safe_iff`). For a default
network that is named without a namespace the selection and the provider take that of the agent, and
the webhook takes that of the Pod; and the webhook takes all networks of the list, the others only
the first (`default_network_agrees_iff`).
-/

import Spiderpool.IPAM.NetworkForNic
import Spiderpool.PodManager.Injected

namespace Spiderpool
namespace PodManager

open Multus
open IPAM (NullSafe parse_returns_iff)

/-- The Pod of the webhook is the one that the agent sees later. -/
structure SamePod (pod : Pod) (seen : Spiderpool.Pod) : Prop where
  ns : seen.ns = pod.ns
  defaultNetwork : seen.annotations.defaultNetwork = pod.annotations.lookup Constant.multusDefaultNetAnnot
  networks : seen.annotations.networks = pod.annotations.lookup Constant.multusNetworkAttachmentAnnot

def networkName (n : NetworkSelectionElement) : String × String := (n.ns, n.name)

def configOf (get : String → String → Lookup SpiderMultusConfig) (name : String × String) :
    Option SpiderMultusConfig :=
  match get name.1 name.2 with
  | .found mc => some mc
  | .notFound | .failed _ => none

/-! ### Who panics -/

section

variable {env : WebhookEnv} {pod : Pod} {r r' : Resolved} {networks : List NetworkSelectionElement}

theorem resolveNetworks_returns (networks : List NetworkSelectionElement) (r : Resolved) :
    Returns (resolveNetworks env networks r) := by
  induction networks generalizing r with
  | nil => exact returns_ok r
  | cons network networks ih =>
    unfold resolveNetworks
    dsimp only
    split_ifs
    · exact ih r
    · cases env.get network.ns network.name with
      | notFound => exact ih r
      | failed e => exact returns_fail e
      | found mc => exact ih _

theorem resolveAnnotation_returns {anno : String}
    (h : NullSafe env.annotation ((pod.annotations.lookup anno).getD "")) :
    Returns ( resolveAnnotation env pod r anno) := by
  unfold resolveAnnotation
  dsimp only
  split_ifs
  · exact returns_ok r
  · exact (parse_returns_iff.2 h).seq fun networks _ => resolveNetworks_returns networks r

theorem resolve_safe
    (hdefault : NullSafe env.annotation
      ((pod.annotations.lookup Constant.multusDefaultNetAnnot).getD ""))
    (hnetworks : NullSafe env.annotation
      ((pod.annotations.lookup Constant.multusNetworkAttachmentAnnot).getD "")) :
    Returns (resolvePodReferencedSpiderMultusConfigs env pod) := by
  refine (resolveAnnotation_returns hdefault).seq fun r _ => ?_
  exact (resolveAnnotation_returns hnetworks).seq fun r _ => returns_ok _

end

/-- Every network has a namespace in the end: that of the caller, or its own. -/
def NamespacesGiven (env : AnnotationEnv) (value defaultNamespace : String) : Prop :=
  defaultNamespace ≠ "" ∨ ∀ elements : List NetworkSelectionElement,
    Lists env value (elements.map some) → (∀ n ∈ elements, checkRequests env n = .ok ()) →
      ∀ n ∈ elements, n.ns ≠ ""

theorem withNamespace_ns_eq_empty {defaultNamespace : String} {n : NetworkSelectionElement} :
    (withNamespace defaultNamespace n).ns = "" ↔ defaultNamespace = "" ∧ n.ns = "" := by
  unfold withNamespace
  split_ifs with h <;> simp [h]

theorem namespacesGiven_iff {env : AnnotationEnv} {value defaultNamespace : String} :
    (∀ networks, parsePodNetworkAnnotation env value defaultNamespace = .ok networks →
      ∀ n ∈ networks, n.ns ≠ "") ↔ NamespacesGiven env value defaultNamespace := by
  simp only [parsePodNetworkAnnotation_eq_ok, readNetworks_eq_ok]
  constructor
  · intro h
    by_cases hns : defaultNamespace = ""
    · refine .inr fun elements hlists hreq n hn hempty => ?_
      exact h _ ⟨elements, hlists, hreq, rfl⟩ _ (List.mem_map_of_mem hn)
        (withNamespace_ns_eq_empty.2 ⟨hns, hempty⟩)
    · exact .inl hns
  · rintro h networks ⟨elements, hlists, hreq, rfl⟩ m hm hempty
    obtain ⟨n, hn, rfl⟩ := List.mem_map.1 hm
    obtain ⟨hns, hempty⟩ := withNamespace_ns_eq_empty.1 hempty
    rcases h with h | h
    · exact h hns
    · exact h elements hlists hreq n hn hempty

/-- **Which annotations are parsed safely.**  The parser returns networks with namespaces, or an error,
exactly if it does not meet a null and no namespace is missing. No Pod whose annotations have no
null in the way makes the webhook, the selection of pools or the code for the provider panic. -/
theorem annotation_safe_iff (env : AnnotationEnv) :
    (∀ value defaultNamespace,
      (Returns ( parsePodNetworkAnnotation env value defaultNamespace) ∧
        ∀ networks, parsePodNetworkAnnotation env value defaultNamespace = .ok networks →
          ∀ n ∈ networks, n.ns ≠ "") ↔
      NullSafe env value ∧ NamespacesGiven env value defaultNamespace) ∧
    ∀ (pod : Pod) (seen : Spiderpool.Pod), SamePod pod seen →
      NullSafe env ((pod.annotations.lookup Constant.multusDefaultNetAnnot).getD "") →
      NullSafe env ((pod.annotations.lookup Constant.multusNetworkAttachmentAnnot).getD "") →
        (∀ webhook : WebhookEnv, webhook.annotation = env →
          Returns (resolvePodReferencedSpiderMultusConfigs webhook pod)) ∧
        ∀ (cfg : IPAM.Config), (∀ value ∈ cfg.multusClusterNetwork, NullSafe env value) →
          (∀ (select : IPAM.SelectEnv) version ipPool pc nic netns matchMaster, select.Answers →
            (∀ p ∈ ipPool, p.spec.disable.isSome) →
            Returns (IPAM.selectByPod cfg (select.parsing env) version ipPool seen pc nic netns
              matchMaster)) ∧
          ∀ nic, Returns (IPAM.getMultusNetworkForNIC env cfg.agentNamespace cfg.multusClusterNetwork
            seen nic) := by
  refine ⟨fun value defaultNamespace => ?_, fun pod seen hsame hdefault hnetworks => ⟨?_, ?_⟩⟩
  · rw [parse_returns_iff, namespacesGiven_iff]
  · rintro webhook rfl
    exact resolve_safe hdefault hnetworks
  · intro cfg hcluster
    have hdefault' : NullSafe env (seen.annotations.defaultNetwork.getD "") := by
      rw [hsame.defaultNetwork]
      exact hdefault
    have hnetworks' : NullSafe env (seen.annotations.networks.getD "") := by
      rw [hsame.networks]
      exact hnetworks
    refine ⟨fun select version ipPool pc nic netns matchMaster hanswers hdisable => ?_, fun nic => ?_⟩
    · refine IPAM.selectByPod_returns_of_network ?_ ?_ ?_ ?_ hdisable
        fun p => IPAM.interfaceNetwork_safe hdefault' hnetworks' hcluster
      exacts [hanswers.nodeLabels, hanswers.namespaceLabels, hanswers.selects, hanswers.pfAddrs]
    · exact IPAM.getMultusNetworkForNIC_safe hdefault' hnetworks' hcluster

end PodManager

namespace Sample

open PodManager

def namespacedAgent : IPAM.Config :=
  { multusClusterNetwork := some "kube-system/default", agentNamespace := "kube-system" }

def annotatedPod (anno value : String) : PodManager.Pod :=
  { plainPod with annotations := Finmap.insert anno value ∅ }

def seenPod (annotations : PodAnnotations) : Pod := { pod "u1" with annotations := annotations }

def bareWebhook (env : Multus.AnnotationEnv) : WebhookEnv where
  annotation := env
  get := fun _ _ => .notFound
  list := fun _ _ => .ok []
  nsManager := none

def nullEnv : Multus.AnnotationEnv where
  json := fun text => if text = "[null]" then .ok (.arr [.null]) else .error text
  readElement := fun _ => .ok {}
  parseMAC := fun _ => none

theorem plain_annotation_safe :
    Returns ( Multus.parsePodNetworkAnnotation annotationEnv "mac1" "default") ∧
      ∀ networks, Multus.parsePodNetworkAnnotation annotationEnv "mac1" "default" = .ok networks →
        ∀ n ∈ networks, n.ns ≠ "" := by
  refine ((annotation_safe_iff annotationEnv).1 "mac1" "default").2 ⟨?_, .inl (by decide)⟩
  rintro networks (⟨-, hjson⟩ | ⟨-, hjson, -⟩ | ⟨-, -, hread⟩)
  · cases hjson
  · cases hjson
  · obtain rfl := Except.ok.inj hread
    intro front rest hsplit
    exact absurd (show none ∈ front ++ none :: rest by simp) (by rw [← hsplit]; decide)

/-- The annotation of a user makes the parser panic, and with it all who call it. -/
theorem null_element_panics :
    Multus.parsePodNetworkAnnotation nullEnv "[null]" "default" = .error .panic ∧
      resolvePodReferencedSpiderMultusConfigs (bareWebhook nullEnv)
        (annotatedPod Constant.multusNetworkAttachmentAnnot "[null]") = .error .panic ∧
      IPAM.selectByPod namespacedAgent (selectEnv.parsing nullEnv) Constant.ipv4 (some openPool)
        (seenPod { networks := some "[null]" }) topController "net1" "" false = .error .panic ∧
      IPAM.getMultusNetworkForNIC nullEnv "kube-system" none
        (seenPod { networks := some "[null]" }) "net1" = .error .panic :=
  ⟨rfl, rfl, rfl, rfl⟩

end Sample

namespace PodManager

open Multus

/-! ### Which network -/

section

variable {env : WebhookEnv} {pod : Pod} {r r' : Resolved} {networks : List NetworkSelectionElement}
  {own : String × String}

theorem resolveNetworks_of_notFound (h : ∀ n ∈ networks, env.get n.ns n.name = .notFound) :
    resolveNetworks env networks r = .ok r := by
  induction networks with
  | nil => rfl
  | cons network networks ih =>
    obtain ⟨hnetwork, hnetworks⟩ := List.forall_mem_cons.1 h
    simp only [resolveNetworks, hnetwork, ih hnetworks, ite_self]

theorem resolveNetworks_of_seen (h : ∀ n ∈ networks, n.ns ++ "/" ++ n.name ∈ r.seen) :
    resolveNetworks env networks r = .ok r := by
  induction networks with
  | nil => rfl
  | cons network networks ih =>
    obtain ⟨hnetwork, hnetworks⟩ := List.forall_mem_cons.1 h
    rw [resolveNetworks, if_pos hnetwork, ih hnetworks]

theorem resolveNetworks_of_same (hne : networks ≠ [])
    (hget : ∀ ns name e, env.get ns name ≠ .failed e) (h : ∀ n ∈ networks, networkName n = own) :
    ∃ r, resolveNetworks env networks {} = .ok r ∧ r.result = (configOf env.get own).toList := by
  cases hown : env.get own.1 own.2 with
  | failed e => exact absurd hown (hget _ _ e)
  | notFound =>
    refine ⟨{}, resolveNetworks_of_notFound fun n hn => ?_, ?_⟩
    · obtain rfl := h n hn
      exact hown
    · simp [configOf, hown]
  | found mc =>
    obtain ⟨n, rest, rfl⟩ := List.exists_cons_of_ne_nil hne
    obtain ⟨rfl, hrest⟩ := List.forall_mem_cons.1 h
    have hfound : env.get n.ns n.name = .found mc := hown
    refine ⟨⟨[n.ns ++ "/" ++ n.name], [mc]⟩, ?_, by simp [configOf, hown]⟩
    rw [resolveNetworks, if_neg List.not_mem_nil, hfound]
    refine resolveNetworks_of_seen fun m hm => ?_
    obtain ⟨hns, hname⟩ := Prod.mk.inj (hrest m hm)
    rw [hns, hname]
    exact List.mem_singleton_self _

theorem resolveNetworks_keeps (h : resolveNetworks env networks r = .ok r') :
    r.result <+: r'.result := by
  induction networks generalizing r with
  | nil =>
    obtain rfl := Except.ok.inj h
    exact List.prefix_rfl
  | cons network networks ih =>
    unfold resolveNetworks at h
    dsimp only at h
    split_ifs at h
    · exact ih h
    · cases hget : env.get network.ns network.name with
      | notFound => rw [hget] at h; exact ih h
      | failed e => rw [hget] at h; cases h
      | found mc =>
        rw [hget] at h
        exact (List.prefix_append _ _).trans (ih h)

theorem resolveNetworks_ne_nil {n : NetworkSelectionElement} (hn : n ∈ networks)
    (hfound : ∃ mc, env.get n.ns n.name = .found mc) (hseen : r.seen = [])
    (h : resolveNetworks env networks r = .ok r') : r'.result ≠ [] := by
  induction networks with
  | nil => cases hn
  | cons network networks ih =>
    unfold resolveNetworks at h
    rw [hseen, if_neg List.not_mem_nil] at h
    cases hget : env.get network.ns network.name with
    | notFound =>
      rw [hget] at h
      rcases List.mem_cons.1 hn with rfl | hn
      · obtain ⟨mc, hmc⟩ := hfound
        rw [hget] at hmc
        cases hmc
      · exact ih hn h
    | failed e => rw [hget] at h; cases h
    | found mc =>
      rw [hget] at h
      intro hnil
      have hprefix := resolveNetworks_keeps h
      rw [hnil, List.prefix_nil] at hprefix
      simp at hprefix

end

/-- The webhook finds the configuration of this network for the default network of a Pod and nothing
else, whatever configurations there are. -/
def ResolvesTo (env : WebhookEnv) (pod : Pod) (own : String × String) : Prop :=
  ∀ get, (∀ ns name e, get ns name ≠ .failed e) →
    ∃ r, resolveAnnotation { env with get := get } pod {} Constant.multusDefaultNetAnnot = .ok r ∧
      r.result = (configOf get own).toList

theorem resolvesTo_iff {env : WebhookEnv} {pod : Pod} {own : String × String} {value : String}
    {networks : List NetworkSelectionElement}
    (hvalue : pod.annotations.lookup Constant.multusDefaultNetAnnot = some value) (hempty : value ≠ "")
    (hparse : parsePodNetworkAnnotation env.annotation value pod.ns = .ok networks)
    (hne : networks ≠ []) : ResolvesTo env pod own ↔ ∀ n ∈ networks, networkName n = own := by
  have hturn : ∀ get, resolveAnnotation { env with get := get } pod {} Constant.multusDefaultNetAnnot =
      resolveNetworks { env with get := get } networks {} := by
    intro get
    unfold resolveAnnotation
    rw [hvalue]
    show (if value = "" then _ else parsePodNetworkAnnotation env.annotation value pod.ns >>= _) = _
    rw [if_neg hempty, hparse]
    rfl
  constructor
  · intro h n hn
    by_contra hother
    -- a cluster that has a configuration of this network only
    let get : String → String → Lookup SpiderMultusConfig := fun ns name =>
      if (ns, name) = networkName n then .found { name := "", ns := "", spec := {} } else .notFound
    have hget : get n.ns n.name = .found { name := "", ns := "", spec := {} } := if_pos rfl
    obtain ⟨r, hr, hresult⟩ := h get fun ns name e => by
      dsimp only [get]
      split_ifs <;> nofun
    have hown : configOf get own = none := by
      have hnot : get own.1 own.2 = .notFound := if_neg fun heq => hother heq.symm
      simp [configOf, hnot]
    rw [hown] at hresult
    exact resolveNetworks_ne_nil hn ⟨_, hget⟩ rfl ((hturn get).symm.trans hr) hresult
  · intro h get hget
    rw [hturn]
    exact resolveNetworks_of_same hne hget h

/-- **Which default networks all readers agree on.**  The first network of the list has its
namespace, or the Pod is in that of the agent, and the other networks of the list are the same. -/
theorem default_network_agrees_iff {env : WebhookEnv} {cfg : IPAM.Config} {select : IPAM.SelectEnv}
    {p : IPPool} {pod : Pod} {seen : Spiderpool.Pod} {value nic : String}
    {first : NetworkSelectionElement} {rest : List NetworkSelectionElement} (hsame : SamePod pod seen)
    (hvalue : pod.annotations.lookup Constant.multusDefaultNetAnnot = some value) (hempty : value ≠ "")
    (hlists : Lists env.annotation value ((first :: rest).map some))
    (haccepted : ∀ n ∈ first :: rest, checkRequests env.annotation n = .ok ())
    (hnic : nic = Constant.clusterDefaultInterfaceName ∨ nic = itoa 0) :
    ∃ own, IPAM.defaultNetwork cfg (select.parsing env.annotation) p seen = .ok own ∧
      IPAM.getMultusNetworkForNIC env.annotation cfg.agentNamespace cfg.multusClusterNetwork seen nic =
        .ok own ∧
      (ResolvesTo env pod own ↔ (first.ns ≠ "" ∨ pod.ns = cfg.agentNamespace) ∧
        ∀ n ∈ rest, networkName (withNamespace pod.ns n) =
          networkName (withNamespace cfg.agentNamespace first)) := by
  have hparse : ∀ ns, parsePodNetworkAnnotation env.annotation value ns =
      .ok ((first :: rest).map (withNamespace ns)) := fun ns =>
    parsePodNetworkAnnotation_eq_ok.2 ⟨first :: rest, readNetworks_eq_ok.2 hlists, haccepted, rfl⟩
  have hlist : IPAM.listNetworks env.annotation value cfg.agentNamespace =
      .ok (((first :: rest).map (withNamespace cfg.agentNamespace)).map IPAM.selectElement) :=
    bind_eq_ok.2 ⟨_, hparse _, rfl⟩
  obtain ⟨hselect, hprovider⟩ := IPAM.defaultNetwork_eq (hsame.defaultNetwork.trans hvalue) hempty hlist
  have hfirst : ∀ ns, networkName (withNamespace ns first) =
      (if first.ns = "" then ns else first.ns, first.name) := by
    intro ns
    unfold withNamespace networkName
    split_ifs <;> rfl
  have hown : ∀ ns, (if (withNamespace ns first).ns = "" then ns else (withNamespace ns first).ns,
      (withNamespace ns first).name) = networkName (withNamespace ns first) := by
    intro ns
    by_cases hns : (withNamespace ns first).ns = ""
    · rw [if_pos hns, networkName, hns, (withNamespace_ns_eq_empty.1 hns).1]
    · rw [if_neg hns, networkName]
  replace hselect := hselect.trans (congrArg Except.ok (hown cfg.agentNamespace))
  replace hprovider := hprovider.trans (congrArg Except.ok (hown cfg.agentNamespace))
  refine ⟨_, hselect, ?_, ?_⟩
  · rw [IPAM.getMultusNetworkForNIC, if_pos hnic]
    exact hprovider
  · rw [resolvesTo_iff hvalue hempty (hparse pod.ns) (by simp), List.forall_mem_map,
      List.forall_mem_cons, hfirst, hfirst]
    refine and_congr_left fun _ => ?_
    by_cases hns : first.ns = "" <;> simp [hns]

end PodManager

namespace Sample

open PodManager

theorem named_default_agrees :
    ∃ own, IPAM.defaultNetwork namespacedAgent (selectEnv.parsing annotationEnv) openPool
        (seenPod { defaultNetwork := some "kube-system/mac1" }) = .ok own ∧
      IPAM.getMultusNetworkForNIC annotationEnv "kube-system" (some "kube-system/default")
        (seenPod { defaultNetwork := some "kube-system/mac1" }) "eth0" = .ok own ∧
      ResolvesTo (bareWebhook annotationEnv)
        (annotatedPod Constant.multusDefaultNetAnnot "kube-system/mac1") own := by
  have hlists : Multus.Lists annotationEnv "kube-system/mac1"
      (([{ name := "mac1", ns := "kube-system" }] : List Multus.NetworkSelectionElement).map some) :=
    .names (by decide) (by decide) rfl
  have hsame : SamePod (annotatedPod Constant.multusDefaultNetAnnot "kube-system/mac1")
      (seenPod { defaultNetwork := some "kube-system/mac1" }) := ⟨rfl, rfl, rfl⟩
  obtain ⟨own, hselect, hprovider, hiff⟩ := @default_network_agrees_iff (bareWebhook annotationEnv)
    namespacedAgent selectEnv openPool _ _ "kube-system/mac1" "eth0" _ _ hsame rfl (by decide) hlists
    (by simp [Multus.checkRequests]; rfl) (.inl rfl)
  exact ⟨own, hselect, hprovider, hiff.2 ⟨.inl (by decide), by simp⟩⟩

/-- A default network without a namespace: the webhook looks for it in the namespace of the Pod, the
others in that of the agent, where it is. -/
theorem unnamed_default_differs :
    IPAM.defaultNetwork namespacedAgent (selectEnv.parsing annotationEnv) openPool
        (seenPod { defaultNetwork := some "mac1" }) = .ok ("kube-system", "mac1") ∧
      IPAM.getMultusNetworkForNIC annotationEnv "kube-system" (some "kube-system/default")
        (seenPod { defaultNetwork := some "mac1" }) "eth0" = .ok ("kube-system", "mac1") ∧
      SamePod (annotatedPod Constant.multusDefaultNetAnnot "mac1")
        (seenPod { defaultNetwork := some "mac1" }) ∧
      ∃ get, get "kube-system" "mac1" = .found (rdmaConfig "mac1") ∧
        resolvePodReferencedSpiderMultusConfigs { bareWebhook annotationEnv with get := get }
          (annotatedPod Constant.multusDefaultNetAnnot "mac1") = .ok [] :=
  ⟨rfl, rfl, ⟨rfl, rfl, rfl⟩,
    fun ns _ => if ns = "kube-system" then .found (rdmaConfig "mac1") else .notFound, rfl, rfl⟩

end Sample

end Spiderpool
