/-
# The webhook of Pods, called again

The API server may call a webhook again on what it has returned, and it lists objects in whichever
order. `Default` of the webhook is a sequence of three steps, of which the later ones read what the
earlier ones have written. Each step leaves a Pod as it is that has been through it, and that later
steps have only added resources to (`injectPodNetwork_again`, `masters_again`, `slots_again`); so
does the whole. The order of the listed configurations does not count because they are sorted by
their names (`sortMultusConfigs_perm`).
-/

import Spiderpool.PodManager.Injected

namespace Spiderpool
namespace PodManager

open Multus

variable {env : WebhookEnv} {orders orders' : Orders} {cfg : PodENIResourceInjectConfig}
  {pod pod' again : Pod}

/-! ### The listed configurations -/

/-- Objects of the API server: their names are theirs alone, and a namespace has no slash. -/
structure Objects (multusConfigs : List SpiderMultusConfig) : Prop where
  nodup : (multusConfigs.map objectName).Nodup
  plain : ∀ mc ∈ multusConfigs, '/' ∉ mc.ns.toList

def SameList (r r' : Result Err (List SpiderMultusConfig)) : Prop :=
  (∃ fault, r = .error fault ∧ r' = .error fault) ∨ ∃ l l', r = .ok l ∧ r' = .ok l' ∧ l.Perm l'

theorem lessMultusConfig_eq (left right : SpiderMultusConfig) : lessMultusConfig left right =
    decide (toLex (getMultusConfigSortKey left, namespacedName left) <
      toLex (getMultusConfigSortKey right, namespacedName right)) := by
  rw [Bool.eq_iff_iff, decide_eq_true_iff, Prod.Lex.toLex_lt_toLex, lessMultusConfig]
  split_ifs with h
  · simp [h]
  · simp [not_not.1 h]

theorem objectName_of_namespacedName {mc mc' : SpiderMultusConfig} (h : '/' ∉ mc.ns.toList)
    (h' : '/' ∉ mc'.ns.toList) (heq : namespacedName mc = namespacedName mc') :
    objectName mc = objectName mc' := by
  have hcut := cut_append h mc.name
  have hcut' := cut_append h' mc'.name
  have htext : mc.ns ++ String.ofList ['/'] ++ mc.name = mc'.ns ++ String.ofList ['/'] ++ mc'.name := heq
  rw [htext, hcut'] at hcut
  obtain ⟨hns, hname⟩ := Prod.mk.inj hcut
  exact Prod.ext hns.symm (Option.some.inj hname).symm

section

variable {l l' : List SpiderMultusConfig} {requireRdmaResource : Bool} {annos : List String}

/-- **The order of the listed configurations makes no difference.** -/
theorem sortMultusConfigs_perm (hl : Objects l) (h : l.Perm l') :
    sortMultusConfigs l = sortMultusConfigs l' := by
  have hless : lessMultusConfig = fun left right : SpiderMultusConfig =>
      decide (toLex (getMultusConfigSortKey left, namespacedName left) <
        toLex (getMultusConfigSortKey right, namespacedName right)) := by
    funext left right
    exact lessMultusConfig_eq left right
  unfold sortMultusConfigs
  rw [hless]
  refine sortSlice_eq_of_perm (weakOrder_lt _) h fun x hx y hy hxy hyx => ?_
  simp only [decide_eq_false_iff_not, not_lt] at hxy hyx
  have hname := congrArg Prod.snd (toLex_inj.1 (le_antisymm hyx hxy))
  exact List.inj_on_of_nodup_map hl.nodup hx hy
    (objectName_of_namespacedName (hl.plain x hx) (hl.plain y hy) hname)

theorem injectPodNetwork_perm (hl : Objects l) (h : l.Perm l')
    (requireRdmaResource : Bool) : injectPodNetwork orders pod l requireRdmaResource =
      injectPodNetwork orders' pod l' requireRdmaResource := by
  unfold injectPodNetwork
  rw [sortMultusConfigs_perm hl h]
  congr 1
  funext r
  exact injectRdmaResourceToPod_orders orders orders' _ _

/-! ### The injected networks -/

theorem injectPodNetwork_frame (h : injectPodNetwork orders pod l requireRdmaResource = .ok pod') :
    pod'.ns = pod.ns ∧ ∀ anno ≠ Constant.multusNetworkAttachmentAnnot,
      pod'.annotations.lookup anno = pod.annotations.lookup anno := by
  obtain ⟨⟨value, m⟩, -, h⟩ := bind_eq_ok.1 h
  have hgrows := (injectRdmaResourceToPod_eq_ok h).1
  unfold setNetworks at hgrows
  split_ifs at hgrows with hempty
  · exact ⟨hgrows.ns, fun anno _ => by rw [hgrows.annotations]⟩
  · refine ⟨hgrows.ns, fun anno hanno => ?_⟩
    rw [hgrows.annotations]
    exact Finmap.lookup_insert_of_ne _ hanno

theorem injectPodNetwork_again
    (h : injectPodNetwork orders pod l requireRdmaResource = .ok pod') (hagain : Grows pod' again) :
    injectPodNetwork orders' again l requireRdmaResource = .ok again := by
  obtain ⟨⟨value, m⟩, hloop, h⟩ := bind_eq_ok.1 h
  obtain ⟨hgrows, hlimited⟩ := injectRdmaResourceToPod_eq_ok h
  have hset : setNetworks again value = again := by
    unfold setNetworks
    split_ifs with hempty
    · rfl
    · have hvalue : again.annotations.lookup Constant.multusNetworkAttachmentAnnot = some value := by
        rw [hagain.annotations, hgrows.annotations, setNetworks, if_neg hempty]
        exact Finmap.lookup_insert _
      have hinsert : again.annotations.insert Constant.multusNetworkAttachmentAnnot value =
          again.annotations := by
        refine Finmap.ext_lookup fun anno => ?_
        by_cases hanno : anno = Constant.multusNetworkAttachmentAnnot
        · subst hanno
          rw [Finmap.lookup_insert, hvalue]
        · rw [Finmap.lookup_insert_of_ne _ hanno]
      rw [hinsert]
  refine bind_eq_ok.2 ⟨(value, m), hloop, ?_⟩
  show injectRdmaResourceToPod orders' m (setNetworks again value) = .ok again
  rw [hset]
  exact injectRdmaResourceToPod_of_limited fun r hr => hagain.limited r (hlimited r hr)

theorem getEffectiveResourceInjectValue_congr {anno : String} (hns : pod'.ns = pod.ns)
    (hanno : pod'.annotations.lookup anno = pod.annotations.lookup anno) :
    getEffectiveResourceInjectValue env pod' anno = getEffectiveResourceInjectValue env pod anno := by
  unfold getEffectiveResourceInjectValue
  rw [hns, hanno]

theorem needInjectionLoop_congr (hns : pod'.ns = pod.ns)
    (hannos : ∀ anno ∈ annos, pod'.annotations.lookup anno = pod.annotations.lookup anno) :
    needInjectionLoop env pod' annos = needInjectionLoop env pod annos := by
  induction annos with
  | nil => rfl
  | cons anno annos ih =>
    obtain ⟨hanno, hannos⟩ := List.forall_mem_cons.1 hannos
    rw [needInjectionLoop, needInjectionLoop, getEffectiveResourceInjectValue_congr hns hanno, ih hannos]

theorem podNetworkLoop_frame (h : podNetworkLoop env orders pod annos = .ok pod') :
    pod'.ns = pod.ns ∧ ∀ anno ≠ Constant.multusNetworkAttachmentAnnot,
      pod'.annotations.lookup anno = pod.annotations.lookup anno := by
  induction annos with
  | nil =>
    obtain rfl := Except.ok.inj h
    exact ⟨rfl, fun _ _ => rfl⟩
  | cons anno annos ih =>
    obtain ⟨value, -, h⟩ := bind_eq_ok.1 h
    cases value with
    | none => exact ih h
    | some value =>
      obtain ⟨l, -, h⟩ := bind_eq_ok.1 h
      exact injectPodNetwork_frame (seq_eq_ok.1 h).2

theorem podNetworkLoop_again (hannos : ∀ anno ∈ annos, anno ≠ Constant.multusNetworkAttachmentAnnot)
    (h : podNetworkLoop env orders pod annos = .ok pod') (hagain : Grows pod' again) :
    podNetworkLoop env orders' again annos = .ok again := by
  have hframe := podNetworkLoop_frame h
  induction annos with
  | nil => rfl
  | cons anno annos ih =>
    obtain ⟨hanno, hannos⟩ := List.forall_mem_cons.1 hannos
    obtain ⟨value, hvalue, h⟩ := bind_eq_ok.1 h
    have hsame : getEffectiveResourceInjectValue env again anno = .ok value := by
      rw [← hvalue]
      refine getEffectiveResourceInjectValue_congr (hagain.ns.trans hframe.1) ?_
      rw [hagain.annotations, hframe.2 anno hanno]
    refine bind_eq_ok.2 ⟨value, hsame, ?_⟩
    cases value with
    | none => exact ih hannos h
    | some value =>
      obtain ⟨l, hl, h⟩ := bind_eq_ok.1 h
      obtain ⟨hne, h⟩ := seq_eq_ok.1 h
      exact bind_eq_ok.2 ⟨l, hl, seq_eq_ok.2 ⟨hne, injectPodNetwork_again h hagain⟩⟩

end

/-! ### The master interfaces -/

theorem resolve_congr (hns : pod'.ns = pod.ns) (hannos : pod'.annotations = pod.annotations) :
    resolvePodReferencedSpiderMultusConfigs env pod' = resolvePodReferencedSpiderMultusConfigs env pod := by
  unfold resolvePodReferencedSpiderMultusConfigs resolveAnnotation
  rw [hns, hannos]

theorem masterNICResource_ne_empty (master : String) : masterNICResource master ≠ "" := by
  intro h
  have hlist := congrArg String.toList h
  simp [masterNICResource, Constant.spiderpoolResourceDomain] at hlist

def injectMasters (masters : List String) (pod : Pod) : Pod :=
  masters.foldl (fun pod master => injectPodResource pod (masterNICResource master) 1) pod

theorem grows_injectMasters (masters : List String) (pod : Pod) :
    Grows pod (injectMasters masters pod) := by
  induction masters generalizing pod with
  | nil => exact .refl pod
  | cons master masters ih =>
    exact (grows_injectPodResource one_ne_zero (masterNICResource_ne_empty master)).trans (ih _)

section

variable {masters : List String} {list' : String → String → Result Err (List SpiderMultusConfig)}

theorem podHasResource_injectMasters (hpod : pod.containers ≠ []) : ∀ master ∈ masters,
      podHasResource (injectMasters masters pod) (masterNICResource master) = true := by
  induction masters generalizing pod with
  | nil => simp
  | cons first masters ih =>
    have hne := masterNICResource_ne_empty first
    have hgrows : Grows pod (injectPodResource pod (masterNICResource first) 1) :=
      grows_injectPodResource one_ne_zero hne
    intro master hmaster
    rcases List.mem_cons.1 hmaster with rfl | hmaster
    · exact (grows_injectMasters masters _).has _
        (podHasResource_injectPodResource hpod one_ne_zero hne)
    · exact ih (mt hgrows.containers.1 hpod) master hmaster

theorem injectMasters_of_has
    (h : pod.containers = [] ∨ ∀ master ∈ masters, podHasResource pod (masterNICResource master) = true) :
    injectMasters masters pod = pod := by
  induction masters with
  | nil => rfl
  | cons master masters ih =>
    have hfirst : injectPodResource pod (masterNICResource master) 1 = pod := by
      rcases h with h | h
      · exact injectPodResource_of_nil h
      · exact injectPodResource_of_has (masterNICResource_ne_empty master) (h master List.mem_cons_self)
    rw [injectMasters, List.foldl_cons, hfirst, ← injectMasters]
    exact ih (h.imp_right fun h m hm => h m (List.mem_cons_of_mem _ hm))

theorem sortedMasters_orders (orders orders' : Orders) (m : GoMap String Unit) :
    sortSlice (fun a b : String => decide (a < b)) ((orders.masters.visit m).map (·.1)) =
      sortSlice (fun a b : String => decide (a < b)) ((orders'.masters.visit m).map (·.1)) := by
  refine sortSlice_eq_of_perm (weakOrder_lt id) ?_ fun x _ y _ hxy hyx => ?_
  · exact ((orders.masters.perm m).trans (orders'.masters.perm m).symm).map _
  · simp only [decide_eq_false_iff_not, not_lt] at hxy hyx
    exact le_antisymm hyx hxy

theorem masters_orders (orders orders' : Orders) :
    podMasterNICResourceMutatingWebhook env orders cfg pod =
      podMasterNICResourceMutatingWebhook env orders' cfg pod := by
  unfold podMasterNICResourceMutatingWebhook
  split_ifs
  · rfl
  · congr 1
    funext multusConfigs
    simp only [sortedMasters_orders orders orders']

theorem masters_again (orders' : Orders)
    (h : podMasterNICResourceMutatingWebhook env orders cfg pod = .ok pod') :
    Grows pod pod' ∧
      ∀ again, Grows pod' again →
        podMasterNICResourceMutatingWebhook env orders' cfg again = .ok again := by
  unfold podMasterNICResourceMutatingWebhook at h
  split_ifs at h with hoff
  · obtain rfl := Except.ok.inj h
    refine ⟨.refl pod, fun again _ => ?_⟩
    rw [podMasterNICResourceMutatingWebhook, if_pos hoff]
  · obtain ⟨multusConfigs, hresolve, h⟩ := bind_eq_ok.1 h
    have hgrows := grows_injectMasters (sortSlice (fun a b : String => decide (a < b))
      ((orders.masters.visit (collectMasters multusConfigs)).map (·.1))) pod
    have hpod' := Except.ok.inj h
    rw [← injectMasters] at hpod'
    refine ⟨hpod' ▸ hgrows, fun again hagain => ?_⟩
    have hall := hgrows.trans (hpod' ▸ hagain)
    rw [masters_orders orders' orders, podMasterNICResourceMutatingWebhook,
      if_neg hoff, resolve_congr hall.ns hall.annotations, hresolve]
    refine congrArg Except.ok (injectMasters_of_has ?_)
    by_cases hpod : pod.containers = []
    · exact .inl (hall.containers.2 hpod)
    · exact .inr fun master hmaster =>
        (hpod' ▸ hagain).has _ (podHasResource_injectMasters hpod master hmaster)

/-! ### The slots -/

theorem eniResourceName_ne_empty (name : String) :
    (if name = "" then Constant.defaultENISlotResourceName else name) ≠ "" := by
  split_ifs with h
  · decide
  · exact h

theorem slots_again (h : podENIResourceMutatingWebhook env cfg pod = .ok pod') :
    Grows pod pod' ∧ podENIResourceMutatingWebhook env cfg pod' = .ok pod' := by
  have hne := eniResourceName_ne_empty cfg.resourceName
  unfold podENIResourceMutatingWebhook at h ⊢
  generalize (if cfg.resourceName = "" then _ else _ : String) = name at h hne ⊢
  by_cases hoff : cfg.providerEnabled = false ∨ cfg.pluginEnabled = false ∨
      cfg.injectPodENIResources = false
  · rw [if_pos hoff] at h ⊢
    obtain rfl := Except.ok.inj h
    exact ⟨.refl pod, rfl⟩
  rw [if_neg hoff] at h ⊢
  cases hhas : podHasResource pod name with
  | true =>
    rw [if_pos hhas] at h
    obtain rfl := Except.ok.inj h
    exact ⟨.refl pod, if_pos hhas⟩
  | false =>
    rw [if_neg (by rw [hhas]; decide)] at h
    obtain ⟨multusConfigs, hresolve, h⟩ := bind_eq_ok.1 h
    have hpod' := Except.ok.inj h
    by_cases hcount : multusConfigs.countP isProviderVLANSpiderMultusConfig = 0
    · -- nothing is to be injected, now or later
      rw [if_pos hcount] at hpod'
      subst hpod'
      refine ⟨.refl pod, ?_⟩
      rw [if_neg (by rw [hhas]; decide), hresolve]
      exact congrArg Except.ok (if_pos hcount)
    · rw [if_neg hcount] at hpod'
      have hgrows : Grows pod pod' := hpod' ▸ grows_injectPodResource hcount hne
      refine ⟨hgrows, ?_⟩
      by_cases hpod : pod.containers = []
      · rw [injectPodResource_of_nil hpod] at hpod'
        subst hpod'
        rw [if_neg (by rw [hhas]; decide), hresolve]
        exact congrArg Except.ok ((if_neg hcount).trans (injectPodResource_of_nil hpod))
      · rw [if_pos (hpod' ▸ podHasResource_injectPodResource hpod hcount hne)]

/-! ### The whole -/

theorem injectAnnotations_ne : ∀ anno ∈ injectAnnotations, anno ≠ Constant.multusNetworkAttachmentAnnot := by
  decide

theorem resolveNetworks_list (list' : String → String → Result Err (List SpiderMultusConfig))
    (networks : List NetworkSelectionElement) (r : Resolved) :
    resolveNetworks { env with list := list' } networks r = resolveNetworks env networks r := by
  induction networks generalizing r with
  | nil => rfl
  | cons network networks ih => simp only [resolveNetworks, ih]

theorem resolve_list (list' : String → String → Result Err (List SpiderMultusConfig)) :
    resolvePodReferencedSpiderMultusConfigs { env with list := list' } pod =
      resolvePodReferencedSpiderMultusConfigs env pod := by
  simp only [resolvePodReferencedSpiderMultusConfigs, resolveAnnotation, resolveNetworks_list]

theorem podNetworkLoop_list (hobjects : ∀ anno value l, env.list anno value = .ok l → Objects l)
    (hsame : ∀ anno value, SameList (env.list anno value) (list' anno value)) (annos : List String) :
    podNetworkLoop { env with list := list' } orders' pod annos = podNetworkLoop env orders pod annos := by
  induction annos with
  | nil => rfl
  | cons anno annos ih =>
    have hvalue : getEffectiveResourceInjectValue { env with list := list' } pod anno =
      getEffectiveResourceInjectValue env pod anno := rfl
    rw [podNetworkLoop, podNetworkLoop, hvalue]
    congr 1
    funext value
    cases value with
    | none => exact ih
    | some value =>
      rcases hsame anno value with ⟨fault, hfault, hfault'⟩ | ⟨l, l', hl, hl', hperm⟩
      · simp only [hfault, hfault']
        rfl
      · have hempty : l'.isEmpty = l.isEmpty := by
          rw [Bool.eq_iff_iff, List.isEmpty_iff_length_eq_zero, List.isEmpty_iff_length_eq_zero,
            hperm.length_eq]
        simp only [hl, hl']
        show (failIf _ _ >>= fun _ => injectPodNetwork orders' pod l' _) =
          (failIf _ _ >>= fun _ => injectPodNetwork orders pod l _)
        rw [hempty, injectPodNetwork_perm (hobjects anno value l hl) hperm]

theorem defaultPod_list (hobjects : ∀ anno value l, env.list anno value = .ok l → Objects l)
    (hsame : ∀ anno value, SameList (env.list anno value) (list' anno value)) :
    defaultPod { env with list := list' } orders' cfg pod = defaultPod env orders cfg pod := by
  have hneed : needPodNetworkInjection { env with list := list' } pod = needPodNetworkInjection env pod :=
    rfl
  have hnetworks : podNetworkMutatingWebhook { env with list := list' } orders' pod =
      podNetworkMutatingWebhook env orders pod := podNetworkLoop_list hobjects hsame injectAnnotations
  have hmasters : podMasterNICResourceMutatingWebhook { env with list := list' } orders' cfg =
      podMasterNICResourceMutatingWebhook env orders cfg := by
    funext pod
    rw [masters_orders orders' orders, podMasterNICResourceMutatingWebhook, resolve_list]
    rfl
  have hslots : podENIResourceMutatingWebhook { env with list := list' } cfg =
      podENIResourceMutatingWebhook env cfg := by
    funext pod
    rw [podENIResourceMutatingWebhook, resolve_list]
    rfl
  unfold defaultPod
  rw [hneed, hnetworks, hmasters, hslots]

end

theorem defaultPod_again (h : defaultPod env orders cfg pod = .ok pod') :
    defaultPod env orders' cfg pod' = .ok pod' := by
  obtain ⟨needInject, hneed, h⟩ := bind_eq_ok.1 h
  obtain ⟨pod₁, hnetworks, h⟩ := bind_eq_ok.1 h
  obtain ⟨pod₂, hmasters, hslots⟩ := bind_eq_ok.1 h
  obtain ⟨hgrows₁, hmasters'⟩ := masters_again orders' hmasters
  obtain ⟨hgrows₂, hslots'⟩ := slots_again hslots
  have hgrows := hgrows₁.trans hgrows₂
  have hframe : pod₁.ns = pod.ns ∧ ∀ anno ≠ Constant.multusNetworkAttachmentAnnot,
      pod₁.annotations.lookup anno = pod.annotations.lookup anno := by
    cases needInject with
    | false =>
      obtain rfl := Except.ok.inj hnetworks
      exact ⟨rfl, fun _ _ => rfl⟩
    | true => exact podNetworkLoop_frame hnetworks
  have hneed' : needPodNetworkInjection env pod' = .ok needInject := by
    rw [← hneed]
    refine needInjectionLoop_congr (hgrows.ns.trans hframe.1) fun anno hanno => ?_
    rw [hgrows.annotations, hframe.2 anno (injectAnnotations_ne anno hanno)]
  refine bind_eq_ok.2 ⟨needInject, hneed', bind_eq_ok.2 ⟨pod', ?_, ?_⟩⟩
  · cases needInject with
    | false => rfl
    | true => exact podNetworkLoop_again injectAnnotations_ne hnetworks hgrows
  · exact bind_eq_ok.2 ⟨pod', hmasters' pod' hgrows₂, hslots'⟩

/-- **The webhook of Pods depends on no order, and a second call changes nothing.**  The second call may
list the objects in another order. -/
theorem defaultPod_idempotent {list' : String → String → Result Err (List SpiderMultusConfig)}
    (hobjects : ∀ anno value l, env.list anno value = .ok l → Objects l)
    (hsame : ∀ anno value, SameList (env.list anno value) (list' anno value)) :
    defaultPod { env with list := list' } orders' cfg pod = defaultPod env orders cfg pod ∧
      ∀ pod', defaultPod env orders cfg pod = .ok pod' →
        defaultPod { env with list := list' } orders' cfg pod' = .ok pod' := by
  refine ⟨defaultPod_list hobjects hsame, fun pod' h => ?_⟩
  have hagain : defaultPod env orders cfg pod' = .ok pod' := defaultPod_again h
  exact (defaultPod_list hobjects hsame).trans hagain

end PodManager

namespace Sample

open PodManager

def injectedPod : PodManager.Pod where
  ns := "default"
  annotations := Finmap.insert Constant.annoPodResourceInject "rdma-network" ∅
  containers := [{}]

def webhookEnv (names : List String) : WebhookEnv where
  annotation := annotationEnv
  get := fun ns name =>
    if ns = "kube-system" ∧ name ∈ names then .found (rdmaConfig name) else .notFound
  list := fun _ _ => .ok (names.map rdmaConfig)
  nsManager := none

def injectConfig : PodENIResourceInjectConfig where
  masterNICEnabled := true
  injectPodENIResources := true

def defaultedPod : PodManager.Pod where
  ns := "default"
  annotations := Finmap.insert Constant.multusNetworkAttachmentAnnot "kube-system/mac1,kube-system/mac2"
    (Finmap.insert Constant.annoPodResourceInject "rdma-network" ∅)
  containers := [{
    limits := Finmap.insert "spidernet.io/eth1-nic" 1 (Finmap.insert "rdma/hca" 1 ∅)
    requests := Finmap.insert "spidernet.io/eth1-nic" 1 ∅ }]

theorem webhook_called_again :
    defaultPod (webhookEnv ["mac1", "mac2"]) storedOrders injectConfig injectedPod = .ok defaultedPod ∧
      defaultPod { webhookEnv ["mac1", "mac2"] with
        list := fun _ _ => .ok [rdmaConfig "mac2", rdmaConfig "mac1"] } storedOrders injectConfig
          defaultedPod = .ok defaultedPod := by
  have h : defaultPod (webhookEnv ["mac1", "mac2"]) storedOrders injectConfig injectedPod =
    .ok defaultedPod := rfl
  refine ⟨h, (defaultPod_idempotent (fun _ _ l hl => ?_) fun _ _ => ?_).2 _ h⟩
  · obtain rfl := Except.ok.inj hl
    exact ⟨by decide, by decide⟩
  · exact .inr ⟨_, _, rfl, rfl, List.Perm.swap _ _ _⟩

end Sample

end Spiderpool
