/-
# Reading the annotation that the webhook writes

`injectPodNetwork` writes the namespaces and names of the SpiderMultusConfigs into an annotation, in the
order it has sorted them in, and `ParsePodNetworkAnnotation` reads them. The names of objects may
have dots, and the parser takes none (`injected_read_iff`).
-/

import Spiderpool.Multus.ObjectNames
import Spiderpool.PodManager.Resources

namespace Spiderpool
namespace PodManager

open Multus

variable {pod pod' : Pod} {multusConfigs : List SpiderMultusConfig} {requireRdmaResource : Bool}

def objectName (mc : SpiderMultusConfig) : String × String := (mc.ns, mc.name)

theorem namespacedName_ne_empty (mc : SpiderMultusConfig) : namespacedName mc ≠ "" := by
  intro h
  have hlist := congrArg String.toList h
  simp [namespacedName] at hlist

def joined (value : String) (items : List String) : String :=
  items.foldl (fun value item => if value = "" then item else value ++ "," ++ item) value

theorem joined_of_ne_empty {value : String} (hvalue : value ≠ "") (items : List String) :
    joined value items = ",".intercalate (value :: items) := by
  induction items generalizing value with
  | nil => simp [joined]
  | cons item items ih =>
    have hne : value ++ "," ++ item ≠ "" := by
      intro h
      have hlist := congrArg String.toList h
      simp at hlist
    rw [joined, List.foldl_cons, if_neg hvalue, ← joined, ih hne, String.intercalate_cons_append,
      String.intercalate_cons_cons]

theorem joined_empty {items : List String} (hitems : ∀ item ∈ items, item ≠ "") :
    joined "" items = ",".intercalate items := by
  cases items with
  | nil => rfl
  | cons item items =>
    rw [joined, List.foldl_cons, if_pos rfl, ← joined,
      joined_of_ne_empty (hitems item List.mem_cons_self)]

theorem injectLoop_value {value value' : String} {m m' : GoMap String Bool}
    (h : injectLoop requireRdmaResource multusConfigs value m = .ok (value', m')) :
    value' = joined value (multusConfigs.map namespacedName) := by
  induction multusConfigs generalizing value m with
  | nil => exact (Prod.mk.inj (Except.ok.inj h)).1.symm
  | cons mc mcs ih =>
    obtain ⟨-, h⟩ := seq_eq_ok.1 h
    obtain ⟨resourceName, -, h⟩ := bind_eq_ok.1 h
    exact ih h

theorem lookup_injectPodNetwork {orders : Orders} (hne : multusConfigs ≠ [])
    (h : injectPodNetwork orders pod multusConfigs requireRdmaResource = .ok pod') :
    pod'.annotations.lookup Constant.multusNetworkAttachmentAnnot =
      some (annotationOf ((sortMultusConfigs multusConfigs).map objectName)) := by
  obtain ⟨⟨value, m⟩, hloop, h⟩ := bind_eq_ok.1 h
  have hvalue : value = annotationOf ((sortMultusConfigs multusConfigs).map objectName) := by
    have hitems : ∀ item ∈ (sortMultusConfigs multusConfigs).map namespacedName, item ≠ "" := by
      intro item hitem
      obtain ⟨mc, -, rfl⟩ := List.mem_map.1 hitem
      exact namespacedName_ne_empty mc
    rw [injectLoop_value hloop, joined_empty hitems, annotationOf, List.map_map]
    rfl
  have hsorted : sortMultusConfigs multusConfigs ≠ [] := by
    intro hnil
    have hperm := sortSlice_perm lessMultusConfig multusConfigs
    rw [← sortMultusConfigs, hnil] at hperm
    exact hne hperm.nil_eq.symm
  have hset : setNetworks pod value = { pod with
      annotations := pod.annotations.insert Constant.multusNetworkAttachmentAnnot value } := by
    rw [setNetworks, if_neg]
    rw [hvalue]
    exact annotationOf_ne_empty (by simpa using hsorted)
  rw [(injectRdmaResourceToPod_eq_ok h).1.annotations, hset, Finmap.lookup_insert, hvalue]

/-- **What the webhook injects is read back exactly if no name has a dot.**  The names are valid in
Kubernetes: the namespaces are labels, the objects subdomains. -/
theorem injected_read_iff {orders : Orders} (env : AnnotationEnv) (defaultNamespace : String)
    (hne : multusConfigs ≠ []) (hns : ∀ mc ∈ multusConfigs, IsDNS1123Label mc.ns)
    (hname : ∀ mc ∈ multusConfigs, IsDNS1123Subdomain mc.name)
    (hok : injectPodNetwork orders pod multusConfigs requireRdmaResource = .ok pod') :
    ∃ value, pod'.annotations.lookup Constant.multusNetworkAttachmentAnnot = some value ∧
      ((∃ networks, parsePodNetworkAnnotation env value defaultNamespace = .ok networks ∧
        networks.map (fun n => (n.ns, n.name)) = (sortMultusConfigs multusConfigs).map objectName) ↔
      ∀ mc ∈ multusConfigs, '.' ∉ mc.name.toList) := by
  have hmem : ∀ {P : String × String → Prop},
      (∀ n ∈ (sortMultusConfigs multusConfigs).map objectName, P n) ↔
        ∀ mc ∈ multusConfigs, P (objectName mc) := by
    intro P
    simp only [List.forall_mem_map, sortMultusConfigs, mem_sortSlice]
  refine ⟨_, lookup_injectPodNetwork hne hok, ?_⟩
  rw [parse_annotationOf_iff _ (hmem.2 hns) (hmem.2 hname), hmem]
  · rfl
  · intro hnil
    have hperm := (sortSlice_perm lessMultusConfig multusConfigs).map objectName
    rw [← sortMultusConfigs, hnil] at hperm
    exact hne (by simpa using hperm.nil_eq.symm)

end PodManager

namespace Sample

open PodManager

def storedOrders : Orders :=
  ⟨fun _ => .stored String Bool, .stored String Bool, .stored String Unit⟩

def plainPod : PodManager.Pod := { ns := "default", annotations := ∅, containers := [{}] }

def annotationEnv : Multus.AnnotationEnv where
  json := fun text => .error text
  readElement := fun _ => .ok {}
  parseMAC := fun _ => none

def rdmaConfig (name : String) : Multus.SpiderMultusConfig where
  name := name
  ns := "kube-system"
  spec := {
    cniType := some "macvlan"
    macvlanConfig := some {
      master := ["eth1"], rdmaResourceName := some "rdma/hca"
      spiderpoolConfigPools := some { ipv4IPPool := ["pool"] } } }

def rdmaPod (name : String) : PodManager.Pod where
  ns := "default"
  annotations := Finmap.insert Constant.multusNetworkAttachmentAnnot ("kube-system/" ++ name) ∅
  containers := [{ limits := Finmap.insert "rdma/hca" 1 ∅ }]

theorem label_read_back :
    injectPodNetwork storedOrders plainPod [rdmaConfig "mac1"] true = .ok (rdmaPod "mac1") ∧
      ∃ value, (rdmaPod "mac1").annotations.lookup Constant.multusNetworkAttachmentAnnot = some value ∧
        ∃ networks, Multus.parsePodNetworkAnnotation annotationEnv value "default" = .ok networks ∧
          networks.map (fun n => (n.ns, n.name)) = [("kube-system", "mac1")] := by
  have hok : injectPodNetwork storedOrders plainPod [rdmaConfig "mac1"] true = .ok (rdmaPod "mac1") :=
    rfl
  obtain ⟨value, hvalue, hiff⟩ := injected_read_iff annotationEnv "default" (by simp)
    (by decide) (by decide) hok
  exact ⟨hok, value, hvalue, hiff.2 (by decide)⟩

/-- The name is valid in Kubernetes, and the annotation that has been written is refused. -/
theorem dotted_name_refused :
    Multus.IsDNS1123Subdomain "mac1.lan" ∧
      injectPodNetwork storedOrders plainPod [rdmaConfig "mac1.lan"] true = .ok (rdmaPod "mac1.lan") ∧
      (rdmaPod "mac1.lan").annotations.lookup Constant.multusNetworkAttachmentAnnot =
        some "kube-system/mac1.lan" ∧
      ∃ e, Multus.parsePodNetworkAnnotation annotationEnv "kube-system/mac1.lan" "default" = fail e :=
  ⟨by decide, rfl, rfl, _, rfl⟩

end Sample

end Spiderpool
