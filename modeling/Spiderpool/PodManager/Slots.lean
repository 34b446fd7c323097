/-
# The slots of a Pod's interfaces

The webhook injects a slot for each network of the provider that a Pod lists, and the agent asks the
provider for an address of each interface whose network is the provider's. The webhook takes
a network once, however many interfaces it is listed for (`slots_iff`).
-/

import Spiderpool.IPAM.ParentNic
import Spiderpool.PodManager.Annotated
import Spiderpool.PodManager.Idempotent

namespace Spiderpool

namespace IPAM

/-! ### The agent -/

/-- The provider's code, where the annotations are parsed as they are and the configurations are
those that the webhook gets. -/
def ProviderEnv.reading (penv : ProviderEnv) (env : PodManager.WebhookEnv) (agentNamespace : String)
    (clusterNetwork : Option String) : ProviderEnv :=
  { penv with
    getMultusNetworkForNIC := IPAM.getMultusNetworkForNIC env.annotation agentNamespace clusterNetwork
    getSpiderMultusConfig := fun netInfo =>
      match env.get netInfo.1 netInfo.2 with
      | .found mc => .found mc.ipam
      | .notFound => .notFound
      | .failed e => .failed e }

def nicName (idx : ℕ) (n : Multus.NetworkSelectionElement) : String :=
  if n.interfaceRequest = "" then "net" ++ itoa (idx + 1) else n.interfaceRequest

def nicNames (networks : List Multus.NetworkSelectionElement) : List String :=
  networks.zipIdx.map fun x => nicName x.2 x.1

/-- The interfaces have names of their own: they are different, none is the first interface, and none
is a number, which would be taken for an index. -/
structure NicsApart (networks : List Multus.NetworkSelectionElement) : Prop where
  nodup : (nicNames networks).Nodup
  additional : Constant.clusterDefaultInterfaceName ∉ nicNames networks
  named : ∀ idx, itoa idx ∉ nicNames networks

section

variable {networks : List Multus.NetworkSelectionElement} {n : Multus.NetworkSelectionElement}
  {nic : String}

theorem findNetwork_eq_some {i idx : ℕ} (hn : networks[i]? = some n) (hnic : nic = nicName (idx + i) n)
    (hfront : ∀ j m, j < i → networks[j]? = some m →
      nic ≠ nicName (idx + j) m ∧ nic ≠ itoa (idx + j + 1)) :
    findNetwork nic idx (networks.map selectElement) = some (selectElement n) := by
  induction networks generalizing i idx with
  | nil => simp at hn
  | cons m networks ih =>
    rw [List.map_cons, findNetwork]
    cases i with
    | zero =>
      obtain rfl : m = n := by simpa using hn
      exact if_pos (.inl hnic)
    | succ i =>
      have hm := hfront 0 m (by omega) rfl
      refine (if_neg (not_or.2 hm)).trans ?_
      refine ih (by simpa using hn) (by rw [hnic]; congr 1; omega) fun j m' hj hm' => ?_
      have hnext := hfront (j + 1) m' (by omega) (by simpa using hm')
      rwa [← Nat.add_assoc, Nat.add_right_comm] at hnext

theorem findNetwork_nicName (h : NicsApart networks) {i : ℕ} (hn : networks[i]? = some n) :
    findNetwork (nicName i n) 0 (networks.map selectElement) = some (selectElement n) := by
  have hmem : (n, i) ∈ networks.zipIdx := List.mem_zipIdx_iff_getElem?.2 hn
  refine findNetwork_eq_some hn (by rw [Nat.zero_add]) fun j m hj hm => ⟨fun heq => ?_, fun heq => ?_⟩
  · have hmem' : (m, j) ∈ networks.zipIdx := List.mem_zipIdx_iff_getElem?.2 hm
    have hsame := List.inj_on_of_nodup_map h.nodup hmem hmem' (by simpa using heq)
    exact hj.ne (Prod.mk.inj hsame).2.symm
  · refine h.named (0 + j + 1) ?_
    rw [← heq]
    exact List.mem_map_of_mem hmem

theorem getMultusNetworkForNIC_nicName {env : Multus.AnnotationEnv} {pod : Pod} {agentNamespace : String}
    {clusterNetwork : Option String} {value : String} (h : NicsApart networks)
    (hvalue : pod.annotations.networks = some value) (hempty : value ≠ "")
    (hparse : Multus.parsePodNetworkAnnotation env value pod.ns = .ok networks) {i : ℕ}
    (hn : networks[i]? = some n) :
    IPAM.getMultusNetworkForNIC env agentNamespace clusterNetwork pod (nicName i n) =
      .ok (PodManager.networkName n) := by
  have hmem : nicName i n ∈ nicNames networks :=
    List.mem_map.2 ⟨(n, i), List.mem_zipIdx_iff_getElem?.2 hn, rfl⟩
  have hgetD : pod.annotations.networks.getD "" = value := by rw [hvalue]; rfl
  have hlist : listNetworks env value pod.ns = .ok (networks.map selectElement) :=
    bind_eq_ok.2 ⟨networks, hparse, rfl⟩
  have hns : n.ns = "" → pod.ns = "" := by
    obtain ⟨elements, -, -, rfl⟩ := Multus.parsePodNetworkAnnotation_eq_ok.1 hparse
    obtain ⟨e, -, rfl⟩ := List.mem_map.1 (List.mem_of_getElem? hn)
    exact fun hempty => (PodManager.withNamespace_ns_eq_empty.1 hempty).1
  rw [IPAM.getMultusNetworkForNIC, if_neg]
  · rw [getAdditionalMultusNetwork, hgetD, if_neg hempty]
    refine bind_eq_ok.2 ⟨_, mapErr_eq_ok.2 hlist, ?_⟩
    rw [findNetwork_nicName h hn]
    refine congrArg Except.ok (Prod.ext ?_ rfl)
    show (if n.ns = "" then pod.ns else n.ns) = n.ns
    split_ifs with hempty
    · rw [hns hempty, hempty]
    · rfl
  · rintro (heq | heq)
    · exact h.additional (heq ▸ hmem)
    · exact h.named 0 (heq ▸ hmem)

end

/-! ### What the agent asks of the provider -/

section

variable {env : ProviderEnv} {cache cache' : MacCache} {pod : Pod} {nic subnet : String}

theorem parentNicMac_isSome {parentMac : Option String}
    (h : getProviderParentNicMacFromMultus env cache pod nic subnet = .ok (parentMac, cache')) :
    parentMac.isSome = (ownConfig env pod nic).isSome := by
  unfold getProviderParentNicMacFromMultus at h
  obtain ⟨hreader, h⟩ := seq_eq_ok.1 h
  obtain ⟨netInfo, hnet, h⟩ := bind_eq_ok.1 h
  have hreader := failIf_eq_ok.1 hreader
  have hnet := mapErr_eq_ok.1 hnet
  cases hsmc : env.getSpiderMultusConfig netInfo with
  | notFound =>
    simp only [hsmc] at h
    obtain ⟨rfl, -⟩ := Prod.mk.inj (Except.ok.inj h)
    simp [ownConfig, hnet, hsmc]
  | failed e =>
    simp only [hsmc] at h
    cases h
  | found smc =>
    simp only [hsmc] at h
    cases hvlan : isProviderVLANSpiderMultusConfig smc with
    | false =>
      rw [if_pos hvlan] at h
      obtain ⟨rfl, -⟩ := Prod.mk.inj (Except.ok.inj h)
      simp [ownConfig, hnet, hsmc, hvlan]
    | true =>
      have hown : ownConfig env pod nic = some (netInfo, smc) := by
        simp [ownConfig, hreader, hnet, hsmc, hvlan]
      rw [if_neg (by rw [hvlan]; decide)] at h
      rw [hown]
      split at h
      · obtain ⟨rfl, -⟩ := Prod.mk.inj (Except.ok.inj h)
        rfl
      · obtain ⟨rfl, -⟩ := Prod.mk.inj (Except.ok.inj h)
        rfl
      · obtain ⟨masterIface, -, h⟩ := bind_eq_ok.1 h
        obtain ⟨mac, -, h⟩ := bind_eq_ok.1 h
        obtain ⟨rfl, -⟩ := Prod.mk.inj (Except.ok.inj h)
        rfl

theorem iaasAllocationItems_own {results : List AllocationResult} {items : List IaaSIPAllocationItem}
    (h : iaasAllocationItems env pod results cache = .ok items) :
    List.Forall₂ (fun result item => ∃ ip net, netParseCIDR result.ip.address = some (ip, net) ∧
        item.ipAddress = ip.string)
      (results.filter fun result => (ownConfig env pod result.ip.nic).isSome) items := by
  induction results generalizing cache items with
  | nil =>
    obtain rfl := Except.ok.inj h
    exact .nil
  | cons result results ih =>
    unfold iaasAllocationItems at h
    split at h
    · cases h
    · rename_i ip net hparse
      obtain ⟨⟨parentMac, cache'⟩, hfound, h⟩ := bind_eq_ok.1 h
      obtain ⟨items', hitems, h⟩ := bind_eq_ok.1 h
      have hown := parentNicMac_isSome (mapErr_eq_ok.1 hfound)
      cases parentMac with
      | none =>
        rw [List.filter_cons_of_neg (by rw [← hown]; decide)]
        obtain rfl := Except.ok.inj h
        exact ih hitems
      | some mac =>
        rw [List.filter_cons_of_pos (by rw [← hown]; rfl)]
        obtain rfl := Except.ok.inj h
        exact .cons ⟨ip, net, hparse, rfl⟩ (ih hitems)

end

end IPAM

namespace PodManager

open Multus

def managed (env : WebhookEnv) (n : NetworkSelectionElement) : Bool :=
  (configOf env.get (networkName n)).any isProviderVLANSpiderMultusConfig

/-- The networks that the annotation for additional networks lists. -/
def listedNetworks (env : WebhookEnv) (pod : Pod) : Result Err (List NetworkSelectionElement) :=
  let value := (pod.annotations.lookup Constant.multusNetworkAttachmentAnnot).getD ""
  if value = "" then .ok [] else parsePodNetworkAnnotation env.annotation value pod.ns

def slotResource (cfg : PodENIResourceInjectConfig) : String :=
  if cfg.resourceName = "" then Constant.defaultENISlotResourceName else cfg.resourceName

def slots (pod : Pod) (resource : String) : ℚ :=
  (pod.containers.map fun c => (c.limits.lookup resource).getD 0).sum

def NamespacesPlain (env : WebhookEnv) : Prop :=
  ∀ ns name mc, env.get ns name = .found mc → '/' ∉ ns.toList

/-! ### The interfaces of the provider -/

section

variable {env : WebhookEnv} {pod : Pod} {seen : Spiderpool.Pod} {penv : IPAM.ProviderEnv}
  {agentNamespace : String} {clusterNetwork : Option String} {networks : List NetworkSelectionElement}

theorem isProviderVLAN_ipam (mc : SpiderMultusConfig) :
    IPAM.isProviderVLANSpiderMultusConfig mc.ipam = isProviderVLANSpiderMultusConfig mc := by
  unfold IPAM.isProviderVLANSpiderMultusConfig isProviderVLANSpiderMultusConfig SpiderMultusConfig.ipam
  cases mc.spec.vlanConfig <;> rfl

theorem ownConfig_isSome {nic : String} {n : NetworkSelectionElement} (hreader : penv.apiReader = true)
    (hnic : IPAM.getMultusNetworkForNIC env.annotation agentNamespace clusterNetwork seen nic =
      .ok (networkName n)) :
    (IPAM.ownConfig (penv.reading env agentNamespace clusterNetwork) seen nic).isSome =
      managed env n := by
  have hnic : (penv.reading env agentNamespace clusterNetwork).getMultusNetworkForNIC seen nic =
    .ok (networkName n) := hnic
  have hreader : (penv.reading env agentNamespace clusterNetwork).apiReader = true := hreader
  unfold IPAM.ownConfig managed configOf
  cases hget : env.get (networkName n).1 (networkName n).2 with
  | found mc =>
    have hsmc : (penv.reading env agentNamespace clusterNetwork).getSpiderMultusConfig (networkName n) =
        .found mc.ipam := by
      simp only [IPAM.ProviderEnv.reading, hget]
    cases hvlan : isProviderVLANSpiderMultusConfig mc <;>
      simp [hreader, hnic, hsmc, isProviderVLAN_ipam, hvlan]
  | notFound =>
    have hsmc : (penv.reading env agentNamespace clusterNetwork).getSpiderMultusConfig (networkName n) =
        .notFound := by
      simp only [IPAM.ProviderEnv.reading, hget]
    simp [hreader, hnic, hsmc]
  | failed e =>
    have hsmc : (penv.reading env agentNamespace clusterNetwork).getSpiderMultusConfig (networkName n) =
        .failed e := by
      simp only [IPAM.ProviderEnv.reading, hget]
    simp [hreader, hnic, hsmc]

theorem countP_ownConfig (hsame : SamePod pod seen) (hreader : penv.apiReader = true)
    (hlisted : listedNetworks env pod = .ok networks) (hnics : IPAM.NicsApart networks) :
    (IPAM.nicNames networks).countP (fun nic =>
      (IPAM.ownConfig (penv.reading env agentNamespace clusterNetwork) seen nic).isSome) =
      networks.countP (managed env) := by
  have hown : ∀ x ∈ networks.zipIdx, (IPAM.ownConfig (penv.reading env agentNamespace clusterNetwork) seen
      (IPAM.nicName x.2 x.1)).isSome = managed env x.1 := by
    rintro ⟨n, i⟩ hx
    have hn := List.mem_zipIdx_iff_getElem?.1 hx
    unfold listedNetworks at hlisted
    dsimp only at hlisted
    split_ifs at hlisted with hempty
    · obtain rfl := Except.ok.inj hlisted
      simp at hn
    · refine ownConfig_isSome hreader ?_
      refine IPAM.getMultusNetworkForNIC_nicName hnics ?_ hempty (hsame.ns ▸ hlisted) hn
      rw [hsame.networks]
      cases hlookup : pod.annotations.lookup Constant.multusNetworkAttachmentAnnot with
      | none => simp [hlookup] at hempty
      | some value => rfl
  have hfst : networks.countP (managed env) = networks.zipIdx.countP fun x => managed env x.1 := by
    conv_lhs => rw [← List.zipIdx_map_fst 0 networks]
    rw [List.countP_map]
    rfl
  rw [IPAM.nicNames, List.countP_map, hfst]
  refine List.countP_congr fun x hx => ?_
  rw [Function.comp_apply, hown x hx]

end

/-! ### The networks that the webhook counts -/

/-- The key of a network in the set of those that have been seen. -/
def networkKey (n : NetworkSelectionElement) : String := n.ns ++ "/" ++ n.name

section

variable {env : WebhookEnv} {pod pod' : Pod} {r r' : Resolved} {networks : List NetworkSelectionElement}

theorem managed_of_get {n : NetworkSelectionElement} {mc : SpiderMultusConfig}
    (h : env.get n.ns n.name = .found mc) : managed env n = isProviderVLANSpiderMultusConfig mc := by
  have hget : env.get (networkName n).1 (networkName n).2 = .found mc := h
  simp [managed, configOf, hget]

theorem get_of_managed {n : NetworkSelectionElement} (h : managed env n = true) :
    ∃ mc, env.get n.ns n.name = .found mc ∧ isProviderVLANSpiderMultusConfig mc = true := by
  cases hget : env.get n.ns n.name with
  | found mc => exact ⟨mc, rfl, managed_of_get hget ▸ h⟩
  | notFound =>
    have hget : env.get (networkName n).1 (networkName n).2 = .notFound := hget
    simp [managed, configOf, hget] at h
  | failed e =>
    have hget : env.get (networkName n).1 (networkName n).2 = .failed e := hget
    simp [managed, configOf, hget] at h

theorem networkKey_injective (hplain : NamespacesPlain env) {n n' : NetworkSelectionElement}
    {mc mc' : SpiderMultusConfig} (h : env.get n.ns n.name = .found mc)
    (h' : env.get n'.ns n'.name = .found mc') (hkey : networkKey n = networkKey n') :
    networkName n = networkName n' := by
  have hcut := cut_append (hplain _ _ _ h) n.name
  have hcut' := cut_append (hplain _ _ _ h') n'.name
  have htext : n.ns ++ String.ofList ['/'] ++ n.name = n'.ns ++ String.ofList ['/'] ++ n'.name := hkey
  rw [htext, hcut'] at hcut
  obtain ⟨hns, hname⟩ := Prod.mk.inj hcut
  exact Prod.ext hns.symm (Option.some.inj hname).symm

def managedKeys (env : WebhookEnv) (networks : List NetworkSelectionElement) : Finset String :=
  ((networks.filter (managed env)).map networkKey).toFinset

theorem countP_resolveNetworks (hplain : NamespacesPlain env)
    (h : resolveNetworks env networks r = .ok r') :
    r'.result.countP isProviderVLANSpiderMultusConfig =
      r.result.countP isProviderVLANSpiderMultusConfig +
        (managedKeys env networks \ r.seen.toFinset).card := by
  induction networks generalizing r with
  | nil =>
    obtain rfl := Except.ok.inj h
    simp [managedKeys]
  | cons n networks ih =>
    have hcons : managedKeys env (n :: networks) =
        if managed env n then insert (networkKey n) (managedKeys env networks)
        else managedKeys env networks := by
      unfold managedKeys
      split_ifs with hn
      · rw [List.filter_cons_of_pos hn, List.map_cons, List.toFinset_cons]
      · rw [List.filter_cons_of_neg hn]
    rw [hcons]
    unfold resolveNetworks at h
    dsimp only at h
    split_ifs at h with hseen
    · -- it has been seen
      have hmem : networkKey n ∈ r.seen.toFinset := List.mem_toFinset.2 hseen
      rw [ih h]
      split_ifs
      · rw [Finset.insert_sdiff_of_mem _ hmem]
      · rfl
    · have hmem : networkKey n ∉ r.seen.toFinset := mt List.mem_toFinset.1 hseen
      cases hget : env.get n.ns n.name with
      | notFound =>
        rw [hget] at h
        have hn : managed env n = false := by
          by_contra hn
          obtain ⟨mc, hmc, -⟩ := get_of_managed (Bool.of_not_eq_false hn)
          rw [hget] at hmc
          cases hmc
        rw [ih h, hn]
        rfl
      | failed e => rw [hget] at h; cases h
      | found mc =>
        rw [hget] at h
        have hih := ih h
        rw [List.countP_append, List.countP_singleton, List.toFinset_cons, ← managed_of_get hget,
          Finset.sdiff_insert, ← networkKey] at hih
        rw [hih]
        cases hn : managed env n with
        | true =>
          have hcard := Finset.card_erase_add_one
            (Finset.mem_insert_self (networkKey n) (managedKeys env networks \ r.seen.toFinset))
          rw [Finset.erase_insert_eq_erase] at hcard
          rw [if_pos rfl, if_pos rfl, Finset.insert_sdiff_of_notMem _ hmem]
          omega
        | false =>
          -- no other network has this key
          have hfresh : networkKey n ∉ managedKeys env networks := by
            intro hkey
            obtain ⟨m, hm, hkey⟩ := List.mem_map.1 (List.mem_toFinset.1 hkey)
            obtain ⟨mc', hget', -⟩ := get_of_managed (List.mem_filter.1 hm).2
            have hname := networkKey_injective hplain hget' hget hkey
            have hmanaged : managed env m = managed env n := by rw [managed, managed, hname]
            rw [(List.mem_filter.1 hm).2, hn] at hmanaged
            cases hmanaged
          rw [Finset.erase_eq_of_notMem fun hkey => hfresh (Finset.mem_sdiff.1 hkey).1]
          rfl

theorem countP_resolve (hplain : NamespacesPlain env) (h : resolveNetworks env networks {} = .ok r) :
    r.result.countP isProviderVLANSpiderMultusConfig =
      ((networks.filter (managed env)).map networkName).dedup.length := by
  have hkeys : managedKeys env networks = ((networks.filter (managed env)).map networkName).toFinset.image
      fun name => name.1 ++ "/" ++ name.2 := by
    ext key
    simp [managedKeys, networkKey, networkName]
  have hinj : Set.InjOn (fun name : String × String => name.1 ++ "/" ++ name.2)
      ((networks.filter (managed env)).map networkName).toFinset := by
    intro x hx y hy hkey
    simp only [List.coe_toFinset, Set.mem_ofPred_eq, List.mem_map, List.mem_filter] at hx hy
    obtain ⟨n, ⟨-, hn⟩, rfl⟩ := hx
    obtain ⟨m, ⟨-, hm⟩, rfl⟩ := hy
    obtain ⟨mc, hget, -⟩ := get_of_managed hn
    obtain ⟨mc', hget', -⟩ := get_of_managed hm
    exact networkKey_injective hplain hget hget' hkey
  rw [countP_resolveNetworks hplain h, List.countP_nil, Nat.zero_add, List.toFinset_nil,
    Finset.sdiff_empty, hkeys, Finset.card_image_of_injOn hinj, List.card_toFinset]

theorem length_dedup_iff (env : WebhookEnv) (networks : List NetworkSelectionElement) :
    ((networks.filter (managed env)).map networkName).dedup.length = networks.countP (managed env) ↔
      ((networks.filter (managed env)).map networkName).Nodup := by
  rw [List.countP_eq_length_filter, ← List.length_map networkName, ← List.dedup_eq_self]
  exact ⟨(List.dedup_sublist _).eq_of_length, congrArg List.length⟩

end

/-! ### The slots that are injected -/

section

variable {env : WebhookEnv} {cfg : PodENIResourceInjectConfig} {pod pod' : Pod} {resource : String}

theorem lookup_of_not_has (h : podHasResource pod resource = false) {c : Container}
    (hc : c ∈ pod.containers) : c.limits.lookup resource = none := by
  cases hlimit : c.limits.lookup resource with
  | none => rfl
  | some q =>
    have hhas := podHasResource_iff.2 ⟨c, hc, .inl (by rw [hlimit]; rfl)⟩
    rw [h] at hhas
    cases hhas

theorem slots_of_not_has (h : podHasResource pod resource = false) : slots pod resource = 0 := by
  refine List.sum_eq_zero fun q hq => ?_
  obtain ⟨c, hc, rfl⟩ := List.mem_map.1 hq
  rw [lookup_of_not_has h hc]
  rfl

theorem slots_injectPodResource {quantity : ℕ} (hpod : pod.containers ≠ []) (hquantity : quantity ≠ 0)
    (hne : resource ≠ "") (h : podHasResource pod resource = false) :
    slots (injectPodResource pod resource quantity) resource = quantity := by
  obtain ⟨c, cs, hpod⟩ := List.exists_cons_of_ne_nil hpod
  have hrest : (cs.map fun c => (c.limits.lookup resource).getD 0).sum = 0 := by
    refine List.sum_eq_zero fun q hq => ?_
    obtain ⟨d, hd, rfl⟩ := List.mem_map.1 hq
    rw [lookup_of_not_has h (hpod ▸ List.mem_cons_of_mem _ hd)]
    rfl
  rw [injectPodResource_of_not_has hpod hquantity hne h, slots, List.map_cons, List.sum_cons, hrest,
    Finmap.lookup_insert, add_zero]
  rfl

theorem podENIResource_eq_ok (hprovider : cfg.providerEnabled = true) (hplugin : cfg.pluginEnabled = true)
    (hinject : cfg.injectPodENIResources = true)
    (hfree : podHasResource pod (slotResource cfg) = false) (hpod : pod.containers ≠ [])
    (hdefault : (pod.annotations.lookup Constant.multusDefaultNetAnnot).getD "" = "")
    (h : podENIResourceMutatingWebhook env cfg pod = .ok pod') :
    ∃ networks r, listedNetworks env pod = .ok networks ∧ resolveNetworks env networks {} = .ok r ∧
      slots pod' (slotResource cfg) = (r.result.countP isProviderVLANSpiderMultusConfig : ℚ) := by
  have hne : slotResource cfg ≠ "" := eniResourceName_ne_empty cfg.resourceName
  unfold podENIResourceMutatingWebhook at h
  rw [if_neg (by simp [hprovider, hplugin, hinject])] at h
  dsimp only at h
  rw [← slotResource, if_neg (by rw [hfree]; decide)] at h
  obtain ⟨multusConfigs, hresolve, h⟩ := bind_eq_ok.1 h
  obtain ⟨r₀, hr₀, hresolve⟩ := bind_eq_ok.1 hresolve
  obtain ⟨r, hr, hresolve⟩ := bind_eq_ok.1 hresolve
  obtain rfl := Except.ok.inj hresolve
  rw [ resolveAnnotation, hdefault] at hr₀
  obtain rfl := Except.ok.inj hr₀
  have hslots : slots pod' (slotResource cfg) =
      (r.result.countP isProviderVLANSpiderMultusConfig : ℚ) := by
    rw [← Except.ok.inj h]
    split_ifs with hcount
    · rw [slots_of_not_has hfree, hcount]
      rfl
    · exact slots_injectPodResource hpod hcount hne hfree
  unfold resolveAnnotation at hr
  unfold listedNetworks
  dsimp only at hr ⊢
  split_ifs at hr ⊢ with hempty
  · exact ⟨[], r, rfl, hr, hslots⟩
  · obtain ⟨networks, hparse, hr⟩ := bind_eq_ok.1 hr
    exact ⟨networks, r, hparse, hr, hslots⟩

/-- **When a Pod gets a slot for each interface of the provider.**  The webhook injects as many slots as
the annotation lists networks of the provider. That is the number of their entries exactly if none of
the networks is listed twice. The agent asks the provider for the addresses of as many interfaces as there are such entries, if the
interfaces have names of their own. -/
theorem slots_iff (hprovider : cfg.providerEnabled = true) (hplugin : cfg.pluginEnabled = true)
    (hinject : cfg.injectPodENIResources = true)
    (hfree : podHasResource pod (slotResource cfg) = false) (hpod : pod.containers ≠ [])
    (hdefault : (pod.annotations.lookup Constant.multusDefaultNetAnnot).getD "" = "")
    (hplain : NamespacesPlain env) (h : podENIResourceMutatingWebhook env cfg pod = .ok pod') :
    ∃ networks, listedNetworks env pod = .ok networks ∧
      slots pod' (slotResource cfg) =
        (((networks.filter (managed env)).map networkName).dedup.length : ℚ) ∧
      (slots pod' (slotResource cfg) = (networks.countP (managed env) : ℚ) ↔
        ((networks.filter (managed env)).map networkName).Nodup) ∧
      ∀ (seen : Spiderpool.Pod) (penv : IPAM.ProviderEnv) agentNamespace clusterNetwork,
        SamePod pod seen → penv.apiReader = true → IPAM.NicsApart networks →
          (IPAM.nicNames networks).countP (fun nic =>
            (IPAM.ownConfig (penv.reading env agentNamespace clusterNetwork) seen nic).isSome) =
            networks.countP (managed env) ∧
          ∀ results cache items, IPAM.iaasAllocationItems
              (penv.reading env agentNamespace clusterNetwork) seen results cache = .ok items →
            List.Forall₂ (fun result item => ∃ ip net,
                netParseCIDR result.ip.address = some (ip, net) ∧ item.ipAddress = ip.string)
              (results.filter fun result => (IPAM.ownConfig
                (penv.reading env agentNamespace clusterNetwork) seen result.ip.nic).isSome) items := by
  obtain ⟨networks, r, hlisted, hr, hslots⟩ :=
    podENIResource_eq_ok hprovider hplugin hinject hfree hpod hdefault h
  rw [countP_resolve hplain hr] at hslots
  refine ⟨networks, hlisted, hslots, ?_,
    fun seen penv agentNamespace clusterNetwork hsame hreader hnics => ⟨?_, ?_⟩⟩
  · rw [hslots, Nat.cast_inj]
    exact length_dedup_iff env networks
  · exact countP_ownConfig hsame hreader hlisted hnics
  · exact fun results cache items hitems => IPAM.iaasAllocationItems_own hitems

end

end PodManager

namespace Sample

open PodManager

def providerConfig (name : String) : Multus.SpiderMultusConfig where
  name := name
  ns := "kube-system"
  spec := {
    cniType := some "vlan"
    vlanConfig := some { master := ["eth1"], vlanMode := some "auto" } }

def providerWebhook : WebhookEnv where
  annotation := annotationEnv
  get := fun ns name => if ns = "kube-system" then .found (providerConfig name) else .notFound
  list := fun _ _ => .ok []
  nsManager := none

def slotConfig : PodENIResourceInjectConfig where
  providerEnabled := true
  pluginEnabled := true
  injectPodENIResources := true

def listingPod (value : String) : PodManager.Pod :=
  annotatedPod Constant.multusNetworkAttachmentAnnot value

def slottedPod (value : String) (n : ℚ) : PodManager.Pod :=
  { listingPod value with containers := [{
    limits := Finmap.insert "spidernet.io/sub-eni" n ∅
    requests := Finmap.insert "spidernet.io/sub-eni" n ∅ }] }

theorem two_networks_slots :
    podENIResourceMutatingWebhook providerWebhook slotConfig (listingPod "kube-system/a,kube-system/b") =
        .ok (slottedPod "kube-system/a,kube-system/b" 2) ∧
      ∃ networks, listedNetworks providerWebhook (listingPod "kube-system/a,kube-system/b") =
          .ok networks ∧
        slots (slottedPod "kube-system/a,kube-system/b" 2) "spidernet.io/sub-eni" =
          (networks.countP (managed providerWebhook) : ℚ) := by
  have hok : podENIResourceMutatingWebhook providerWebhook slotConfig
      (listingPod "kube-system/a,kube-system/b") = .ok (slottedPod "kube-system/a,kube-system/b" 2) := rfl
  have hplain : NamespacesPlain providerWebhook := by
    intro ns name mc h
    by_cases hns : ns = "kube-system"
    · rw [hns]
      decide
    · simp [providerWebhook, hns] at h
  have hnetworks : listedNetworks providerWebhook (listingPod "kube-system/a,kube-system/b") =
    .ok [{ name := "a", ns := "kube-system" }, { name := "b", ns := "kube-system" }] := rfl
  obtain ⟨networks, hlisted, -, hiff, -⟩ := slots_iff rfl rfl rfl rfl (by decide) rfl hplain hok
  refine ⟨hok, networks, hlisted, hiff.2 ?_⟩
  rw [Except.ok.inj (hlisted.symm.trans hnetworks)]
  decide

/-- One network for two interfaces: two interfaces of the provider, and one slot. -/
theorem network_twice_one_slot :
    podENIResourceMutatingWebhook providerWebhook slotConfig (listingPod "kube-system/a,kube-system/a") =
        .ok (slottedPod "kube-system/a,kube-system/a" 1) ∧
      ∃ networks, listedNetworks providerWebhook (listingPod "kube-system/a,kube-system/a") =
          .ok networks ∧ networks.countP (managed providerWebhook) = 2 ∧
        IPAM.nicNames networks = ["net1", "net2"] ∧
        ∀ nic ∈ ["net1", "net2"], (IPAM.ownConfig ((nicEnv .notFound).reading providerWebhook "" none)
          (seenPod { networks := some "kube-system/a,kube-system/a" }) nic).isSome :=
  ⟨rfl, [{ name := "a", ns := "kube-system" }, { name := "a", ns := "kube-system" }], rfl, rfl,
    by decide, by decide +kernel⟩

end Sample

end Spiderpool
