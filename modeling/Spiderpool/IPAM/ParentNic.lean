/-
# The parent NICs that the client remembers

`pkg/ipam/iaas.go`. The client of the IaaS provider remembers the MAC of a parent NIC under the name
of the SpiderMultusConfig that names the NIC as its master, and under the subnet of the address that
it was looked up for (`Resolves`). `getProviderParentNicMacFromMultus` asks first whether the
network of an interface is the provider's, and then looks under the subnet; `callIaaSRelease` looks
under the subnet first (`releases_managed_iff`).
-/

import Spiderpool.IP.Networks
import Spiderpool.IPAM.Provider

namespace Spiderpool

namespace IPAM

/-- The key of a SpiderMultusConfig in the memory of the client. -/
def cacheKey (netInfo : String × String) : String := netInfo.1 ++ "/" ++ netInfo.2

/-- The namespaces of SpiderMultusConfigs are labels: they have no dot, colon or slash. -/
def NamespacesPlain (env : ProviderEnv) : Prop :=
  ∀ netInfo smc, env.getSpiderMultusConfig netInfo = .found smc →
    ∀ c ∈ ['.', ':', '/'], c ∉ netInfo.1.toList

/-- The SpiderMultusConfig of a network of the provider that the interface of the Pod resolves to. -/
def ownConfig (env : ProviderEnv) (pod : Pod) (nic : String) :
    Option ((String × String) × SpiderMultusConfig) :=
  if env.apiReader = false then none
  else
    match env.getMultusNetworkForNIC pod nic with
    | .error _ => none
    | .ok netInfo =>
      match env.getSpiderMultusConfig netInfo with
      | .found smc => if isProviderVLANSpiderMultusConfig smc then some (netInfo, smc) else none
      | .notFound | .failed _ => none

/-- The MAC of the master interface that the configuration names. -/
def masterMac (env : ProviderEnv) (smc : SpiderMultusConfig) : Option String :=
  ((getMasterIfaceFromMultusConfig smc).toOption).bind fun master => (env.linkByName master).toOption

/-- The MAC of the master interface that the interface's own configuration names. -/
def ownMac (env : ProviderEnv) (pod : Pod) (nic : String) : Option String :=
  (ownConfig env pod nic).bind fun c => masterMac env c.2

/-! ### One lookup -/

/-- What a call of `getProviderParentNicMacFromMultus` finds, and what the client remembers then.
After an error it remembers what it did before. -/
def lookupTurn (env : ProviderEnv) (cache : MacCache) (pod : Pod) (nic subnet : String) :
    Option String × MacCache :=
  match getProviderParentNicMacFromMultus env cache pod nic subnet with
  | .ok found => found
  | .error _ => (none, cache)

inductive Resolves (env : ProviderEnv) (cache : MacCache) (subnet : String) (netInfo : String × String)
    (smc : SpiderMultusConfig) : Option String × MacCache → Prop
  | bySubnet {mac : String} (hsubnet : cache.lookup subnet = some mac) :
      Resolves env cache subnet netInfo smc (some mac, cache)
  | byConfig {mac : String} (hsubnet : cache.lookup subnet = none)
      (hkey : cache.lookup (cacheKey netInfo) = some mac) :
      Resolves env cache subnet netInfo smc (some mac, cache.insert subnet mac)
  | byLink {mac : String} (hsubnet : cache.lookup subnet = none)
      (hkey : cache.lookup (cacheKey netInfo) = none) (hmac : masterMac env smc = some mac) :
      Resolves env cache subnet netInfo smc
        (some mac, (cache.insert subnet mac).insert (cacheKey netInfo) mac)
  | unresolved (hsubnet : cache.lookup subnet = none)
      (hkey : cache.lookup (cacheKey netInfo) = none) (hmac : masterMac env smc = none) :
      Resolves env cache subnet netInfo smc (none, cache)

section

variable {env : ProviderEnv} {cache : MacCache} {pod : Pod} {nic subnet : String}
  {netInfo : String × String} {smc : SpiderMultusConfig}

theorem ownConfig_eq_some (h : ownConfig env pod nic = some (netInfo, smc)) :
    env.apiReader = true ∧ env.getMultusNetworkForNIC pod nic = .ok netInfo ∧
      env.getSpiderMultusConfig netInfo = .found smc ∧
      isProviderVLANSpiderMultusConfig smc = true := by
  unfold ownConfig at h
  split_ifs at h with hreader
  split at h
  · cases h
  · split at h
    · split_ifs at h with hvlan
      obtain ⟨rfl, rfl⟩ := Prod.mk.inj (Option.some.inj h)
      exact ⟨by simpa using hreader, ‹_›, ‹_›, hvlan⟩
    · cases h
    · cases h

theorem lookupTurn_of_none (h : ownConfig env pod nic = none) :
    lookupTurn env cache pod nic subnet = (none, cache) := by
  unfold ownConfig at h
  unfold lookupTurn getProviderParentNicMacFromMultus
  by_cases hreader : env.apiReader = false
  · simp only [failIf, if_pos hreader]
    rfl
  · rw [if_neg hreader] at h
    simp only [failIf, if_neg hreader, bind, Except.bind]
    cases hnet : env.getMultusNetworkForNIC pod nic with
    | error fault => rcases fault with e | _ | _ <;> rfl
    | ok netInfo =>
      simp only [hnet] at h
      simp only [mapErr]
      cases hsmc : env.getSpiderMultusConfig netInfo with
      | notFound => rfl
      | failed e => rfl
      | found smc =>
        simp only [hsmc] at h
        split_ifs at h with hvlan
        simp [hvlan, pure, Except.pure]

theorem lookupTurn_resolves (cache : MacCache) (hsubnet : subnet ≠ "")
    (h : ownConfig env pod nic = some (netInfo, smc)) :
    Resolves env cache subnet netInfo smc (lookupTurn env cache pod nic subnet) := by
  obtain ⟨hreader, hnet, hsmc, hvlan⟩ := ownConfig_eq_some h
  unfold lookupTurn getProviderParentNicMacFromMultus
  simp only [failIf, hreader, hnet, hsmc, hvlan, mapErr, bind, Except.bind, Bool.true_eq_false,
    if_false, if_pos hsubnet, cacheSubnet]
  cases hlookup : cache.lookup subnet with
  | some mac => exact .bySubnet hlookup
  | none =>
    cases hkey : cache.lookup (netInfo.1 ++ "/" ++ netInfo.2) with
    | some mac => exact .byConfig hlookup hkey
    | none =>
      dsimp only
      cases hmaster : getMasterIfaceFromMultusConfig smc with
      | error fault =>
        have hmac : masterMac env smc = none := by rw [masterMac, hmaster]; rfl
        rcases fault with e | _ | _ <;> exact .unresolved hlookup hkey hmac
      | ok master =>
        simp only
        cases hlink : env.linkByName master with
        | error fault =>
          have hmac : masterMac env smc = none := by
            rw [masterMac, hmaster]
            exact congrArg Except.toOption hlink
          rcases fault with e | _ | _ <;> exact .unresolved hlookup hkey hmac
        | ok mac =>
          have hmac : masterMac env smc = some mac := by
            rw [masterMac, hmaster]
            exact congrArg Except.toOption hlink
          exact .byLink hlookup hkey hmac

end

/-! ### Keys -/

theorem marked_string (a : Addr) : '.' ∈ a.string.toList ∨ ':' ∈ a.string.toList := by
  have hparse := parseIP_string a
  unfold parseIP Text.parseAddr at hparse
  cases hfind : a.string.toList.find? fun c => c = '.' ∨ c = ':' ∨ c = '%' with
  | none =>
    rw [hfind] at hparse
    cases hparse
  | some c =>
    rw [hfind] at hparse
    have hmem := List.mem_of_find?_eq_some hfind
    dsimp only at hparse
    split_ifs at hparse with hdot hcolon
    · exact .inl (hdot ▸ hmem)
    · exact .inr (hcolon ▸ hmem)
    · cases hparse

section

variable {env : ProviderEnv} {netInfo netInfo' : String × String} {smc smc' : SpiderMultusConfig}

theorem cut_cacheKey (hplain : NamespacesPlain env)
    (h : env.getSpiderMultusConfig netInfo = .found smc) :
    cut (cacheKey netInfo) '/' = (netInfo.1, some netInfo.2) :=
  cut_append (hplain netInfo smc h '/' (by simp)) netInfo.2

theorem cacheKey_injective (hplain : NamespacesPlain env)
    (h : env.getSpiderMultusConfig netInfo = .found smc)
    (h' : env.getSpiderMultusConfig netInfo' = .found smc')
    (hkey : cacheKey netInfo = cacheKey netInfo') :
    netInfo = netInfo' := by
  have hcut := cut_cacheKey hplain h
  rw [hkey, cut_cacheKey hplain h'] at hcut
  obtain ⟨hns, hname⟩ := Prod.mk.inj hcut
  exact Prod.ext hns.symm (Option.some.inj hname).symm

theorem subnet_ne_cacheKey (hplain : NamespacesPlain env)
    (h : env.getSpiderMultusConfig netInfo = .found smc) {address : String} {ip : Addr}
    {net : IPNet} (hnet : netParseCIDR address = some (ip, net)) :
    net.string ≠ cacheKey netInfo := by
  intro hkey
  obtain ⟨b, k, w, rfl, -, hform, -⟩ := netParseCIDR_form hnet
  have hhead : (split (IPNet.string ⟨some b, k, w⟩) '/').head (split_ne_nil _ _) = b.string :=
    IPNet.head_split_string rfl (hform.imp (·.2) (·.1))
  have hns : (split (cacheKey netInfo) '/').head (split_ne_nil _ _) = netInfo.1 :=
    head_split_append (hplain netInfo smc h '/' (by simp)) netInfo.2
  simp only [hkey] at hhead
  rw [hhead] at hns
  rcases marked_string b with hmark | hmark
  · exact hplain netInfo smc h '.' (by simp) (hns ▸ hmark)
  · exact hplain netInfo smc h ':' (by simp) (hns ▸ hmark)

end

/-! ### Which addresses are released -/

def ipv4Subnet (detail : IPAllocationDetail) : Option String :=
  (detail.ipv4.bind netParseCIDR).map fun parsed => parsed.2.string

/-- What a turn of `callIaaSRelease` finds for a detail, and what the client remembers then. -/
def releaseTurn (env : ProviderEnv) (endpoint : SpiderEndpoint) (cache : MacCache)
    (nic subnet : String) : Option String × MacCache :=
  match findParentNic env endpoint cache nic subnet with
  | .skip _ => (none, cache)
  | .found mac cache => (some mac, cache)

/-- The requests that the loop of `callIaaSRelease` sends, with their details. -/
def releaseRequests (env : ProviderEnv) (endpoint : SpiderEndpoint) :
    List IPAllocationDetail → MacCache → List (IPAllocationDetail × ReleaseIPRequest)
  | [], _ => []
  | detail :: details, cache =>
    match detail.ipv4.bind netParseCIDR with
    | none => releaseRequests env endpoint details cache
    | some (ip, subnetCIDR) =>
      let (mac, cache) := releaseTurn env endpoint cache detail.nic subnetCIDR.string
      (mac.map fun mac => (detail, releaseRequest endpoint ip subnetCIDR.string mac)).toList ++
        releaseRequests env endpoint details cache

/-- The program sends these requests for releases one after the other, whatever becomes of them, and
makes no other call. -/
inductive SendsReleases {α : Type} : Prog Cloud Err α → List ReleaseIPRequest → Prop
  | ret (r : Result Err α) : SendsReleases (.ret r) []
  | call {req : ReleaseIPRequest} {reqs : List ReleaseIPRequest}
      {k : Result Err Unit → Prog Cloud Err α} (h : ∀ r, Returns r → SendsReleases (k r) reqs) :
      SendsReleases (.call (providerReleaseIP req) k) (req :: reqs)

/-- The parent NIC of the interface can be found for a subnet that is not remembered: the Pod is
there, the network is the provider's, and the configuration is remembered or its master has a
MAC. -/
def Resolvable (env : ProviderEnv) (endpoint : SpiderEndpoint) (cache : MacCache) (nic : String) :
    Prop :=
  ∃ pod netInfo smc, env.getPodByName endpoint.ns endpoint.name = .found pod ∧
    ownConfig env pod nic = some (netInfo, smc) ∧
    (cacheKey netInfo ∈ cache ∨ (masterMac env smc).isSome)

def IsSubnet (subnet : String) : Prop :=
  ∃ address ip net, netParseCIDR address = some (ip, net) ∧ net.string = subnet

/-- The client remembers what it did before, the subnets `added`, and configurations whose master has
a MAC. -/
structure Grown (env : ProviderEnv) (before : MacCache) (added : String → Prop) (cache : MacCache) :
    Prop where
  retains : ∀ k ∈ before, k ∈ cache
  remembers : ∀ k, added k → k ∈ cache
  adds : ∀ k ∈ cache, k ∈ before ∨ added k ∨ ∃ netInfo smc,
    env.getSpiderMultusConfig netInfo = .found smc ∧ k = cacheKey netInfo ∧ (masterMac env smc).isSome

section

variable {env : ProviderEnv} {endpoint : SpiderEndpoint} {before cache : MacCache} {pod : Pod}
  {nic subnet : String} {added : String → Prop}

theorem IsSubnet.ne_empty (h : IsSubnet subnet) : subnet ≠ "" := by
  rintro rfl
  obtain ⟨address, ip, net, hnet, hstring⟩ := h
  obtain ⟨b, k, w, rfl, -, hform, -⟩ := netParseCIDR_form hnet
  have hhead : (split (IPNet.string ⟨some b, k, w⟩) '/').head (split_ne_nil _ _) = b.string :=
    IPNet.head_split_string rfl (hform.imp (·.2) (·.1))
  simp only [hstring] at hhead
  have hempty : b.string = "" := by rw [← hhead]; rfl
  have hmark := marked_string b
  rw [hempty] at hmark
  simp at hmark

theorem IsSubnet.ne_cacheKey (h : IsSubnet subnet) (hplain : NamespacesPlain env)
    {netInfo : String × String} {smc : SpiderMultusConfig}
    (hsmc : env.getSpiderMultusConfig netInfo = .found smc) : subnet ≠ cacheKey netInfo := by
  obtain ⟨address, ip, net, hnet, rfl⟩ := h
  exact subnet_ne_cacheKey hplain hsmc hnet

theorem getProvider_none {cache' : MacCache}
    (h : getProviderParentNicMacFromMultus env cache pod nic subnet = .ok (none, cache')) :
    cache' = cache := by
  obtain ⟨-, h⟩ := seq_eq_ok.1 h
  obtain ⟨netInfo, -, h⟩ := bind_eq_ok.1 h
  dsimp only at h
  split at h
  · exact (Prod.mk.inj (Except.ok.inj h)).2.symm
  · cases h
  · split at h
    · exact (Prod.mk.inj (Except.ok.inj h)).2.symm
    · split at h
      · cases (Prod.mk.inj (Except.ok.inj h)).1
      · cases (Prod.mk.inj (Except.ok.inj h)).1
      · obtain ⟨_, -, h⟩ := bind_eq_ok.1 h
        obtain ⟨_, -, h⟩ := bind_eq_ok.1 h
        cases (Prod.mk.inj (Except.ok.inj h)).1

theorem releaseTurn_cached {mac : String} (h : cache.lookup subnet = some mac) :
    releaseTurn env endpoint cache nic subnet = (some mac, cache) := by
  simp only [releaseTurn, findParentNic, h]

theorem releaseTurn_found (h : cache.lookup subnet = none)
    (hpod : env.getPodByName endpoint.ns endpoint.name = .found pod) :
    releaseTurn env endpoint cache nic subnet = lookupTurn env cache pod nic subnet := by
  simp only [releaseTurn, findParentNic, h, hpod, lookupTurn]
  cases hget : getProviderParentNicMacFromMultus env cache pod nic subnet with
  | error fault => rfl
  | ok found =>
    obtain ⟨mac | mac, cache'⟩ := found
    · rw [getProvider_none hget]
    · rfl

theorem releaseTurn_gone (h : cache.lookup subnet = none)
    (hpod : ∀ pod, env.getPodByName endpoint.ns endpoint.name ≠ .found pod) :
    releaseTurn env endpoint cache nic subnet = (none, cache) := by
  simp only [releaseTurn, findParentNic, h]
  cases hget : env.getPodByName endpoint.ns endpoint.name with
  | found pod => exact absurd hget (hpod pod)
  | notFound => rfl
  | failed e => rfl

theorem releaseTurn_none (h : (releaseTurn env endpoint cache nic subnet).1 = none) :
    releaseTurn env endpoint cache nic subnet = (none, cache) := by
  unfold releaseTurn at h ⊢
  split at h
  · rfl
  · cases h

namespace Grown

theorem subnet_mem_iff (h : Grown env before added cache) (hplain : NamespacesPlain env)
    (hsubnet : IsSubnet subnet) : subnet ∈ cache ↔ subnet ∈ before ∨ added subnet := by
  constructor
  · intro hmem
    rcases h.adds subnet hmem with hmem | hmem | ⟨netInfo, smc, hsmc, hkey, -⟩
    · exact .inl hmem
    · exact .inr hmem
    · exact absurd hkey (hsubnet.ne_cacheKey hplain hsmc)
  · rintro (hmem | hmem)
    · exact h.retains subnet hmem
    · exact h.remembers subnet hmem

theorem key_mem (h : Grown env before added cache) (hplain : NamespacesPlain env)
    (hadded : ∀ k, added k → IsSubnet k) {netInfo : String × String} {smc : SpiderMultusConfig}
    (hsmc : env.getSpiderMultusConfig netInfo = .found smc) (hmem : cacheKey netInfo ∈ cache) :
    cacheKey netInfo ∈ before ∨ (masterMac env smc).isSome := by
  rcases h.adds _ hmem with hmem | hmem | ⟨netInfo', smc', hsmc', hkey, hmac⟩
  · exact .inl hmem
  · exact absurd rfl ((hadded _ hmem).ne_cacheKey hplain hsmc)
  · obtain rfl := cacheKey_injective hplain hsmc hsmc' hkey
    obtain rfl : smc = smc' := Lookup.found.inj (hsmc.symm.trans hsmc')
    exact .inr hmac

theorem resolves (h : Grown env before added cache) {netInfo : String × String}
    {smc : SpiderMultusConfig} {mac : String} {cache' : MacCache}
    (hsmc : env.getSpiderMultusConfig netInfo = .found smc)
    (hres : Resolves env cache subnet netInfo smc (some mac, cache')) :
    Grown env before (fun k => added k ∨ k = subnet) cache' := by
  have hinsert : Grown env before (fun k => added k ∨ k = subnet) (cache.insert subnet mac) := by
    refine ⟨fun k hk => ?_, ?_, fun k hk => ?_⟩
    · exact (AList.mem_insert _).2 (.inr (h.retains k hk))
    · rintro k (hk | rfl)
      · exact (AList.mem_insert _).2 (.inr (h.remembers k hk))
      · exact (AList.mem_insert _).2 (.inl rfl)
    · rcases (AList.mem_insert _).1 hk with rfl | hk
      · exact .inr (.inl (.inr rfl))
      · exact (h.adds k hk).imp_right (Or.imp_left .inl)
  cases hres with
  | bySubnet hsubnet =>
    refine ⟨h.retains, ?_, fun k hk => (h.adds k hk).imp_right (Or.imp_left .inl)⟩
    rintro k (hk | rfl)
    · exact h.remembers k hk
    · exact GoMap.mem_of_lookup hsubnet
  | byConfig hsubnet hkey => exact hinsert
  | byLink hsubnet hkey hmac =>
    refine ⟨fun k hk => (AList.mem_insert _).2 (.inr (hinsert.retains k hk)),
      fun k hk => (AList.mem_insert _).2 (.inr (hinsert.remembers k hk)), fun k hk => ?_⟩
    rcases (AList.mem_insert _).1 hk with rfl | hk
    · exact .inr (.inr ⟨netInfo, smc, hsmc, rfl, by rw [hmac]; rfl⟩)
    · exact hinsert.adds k hk

theorem congr (h : Grown env before added cache) {added' : String → Prop}
    (hiff : ∀ k, added' k ↔ added k) : Grown env before added' cache := by
  obtain rfl : added' = added := funext fun k => propext (hiff k)
  exact h

/-- Without a memory of the subnet, a turn finds the parent NIC if and only if it is resolvable from
what the client remembered at first. -/
theorem turn_isSome_iff (h : Grown env before added cache) (hplain : NamespacesPlain env)
    (hadded : ∀ k, added k → IsSubnet k) (hsubnet : IsSubnet subnet)
    (hfresh : cache.lookup subnet = none) (endpoint : SpiderEndpoint) (nic : String) :
    (releaseTurn env endpoint cache nic subnet).1.isSome ↔ Resolvable env endpoint before nic := by
  constructor
  · intro hsome
    cases hpod : env.getPodByName endpoint.ns endpoint.name with
    | notFound => rw [releaseTurn_gone hfresh (by simp [hpod])] at hsome; cases hsome
    | failed e => rw [releaseTurn_gone hfresh (by simp [hpod])] at hsome; cases hsome
    | found pod =>
      rw [releaseTurn_found hfresh hpod] at hsome
      cases hconfig : ownConfig env pod nic with
      | none => rw [lookupTurn_of_none hconfig] at hsome; cases hsome
      | some config =>
        obtain ⟨netInfo, smc⟩ := config
        have hres := lookupTurn_resolves cache hsubnet.ne_empty hconfig
        refine ⟨pod, netInfo, smc, hpod, hconfig, ?_⟩
        generalize lookupTurn env cache pod nic subnet = found at hsome hres
        cases hres with
        | bySubnet hlookup => cases hfresh.symm.trans hlookup
        | byConfig _ hkey =>
          exact h.key_mem hplain hadded (ownConfig_eq_some hconfig).2.2.1 (GoMap.mem_of_lookup hkey)
        | byLink _ _ hmac => exact .inr (by rw [hmac]; rfl)
        | unresolved => cases hsome
  · rintro ⟨pod, netInfo, smc, hpod, hconfig, hknown⟩
    rw [releaseTurn_found hfresh hpod]
    have hres := lookupTurn_resolves cache hsubnet.ne_empty hconfig
    generalize lookupTurn env cache pod nic subnet = found at hres
    cases hres with
    | bySubnet | byConfig | byLink => rfl
    | unresolved _ hkey hmac =>
      rcases hknown with hknown | hknown
      · have hmem := h.retains _ hknown
        rw [← AList.lookup_isSome, hkey] at hmem
        cases hmem
      · rw [hmac] at hknown
        cases hknown

theorem turn (h : Grown env before added cache) (hplain : NamespacesPlain env)
    (hadded : ∀ k, added k → IsSubnet k) (hsubnet : IsSubnet subnet) :
    Grown env before (fun k => added k ∨ k = subnet ∧ Resolvable env endpoint before nic)
      (releaseTurn env endpoint cache nic subnet).2 := by
  cases hlookup : cache.lookup subnet with
  | some mac =>
    rw [releaseTurn_cached hlookup]
    refine ⟨h.retains, ?_, fun k hk => (h.adds k hk).imp_right (Or.imp_left .inl)⟩
    rintro k (hk | ⟨rfl, -⟩)
    · exact h.remembers k hk
    · exact GoMap.mem_of_lookup hlookup
  | none =>
    have hiff := h.turn_isSome_iff hplain hadded hsubnet hlookup endpoint nic
    by_cases hres : Resolvable env endpoint before nic
    · have hsome := hiff.2 hres
      obtain ⟨pod, netInfo, smc, hpod, hconfig, -⟩ := id hres
      have hturn := lookupTurn_resolves cache hsubnet.ne_empty hconfig
      rw [releaseTurn_found hlookup hpod] at hsome ⊢
      generalize lookupTurn env cache pod nic subnet = turn at hsome hturn
      obtain ⟨mac | mac, cache'⟩ := turn
      · cases hsome
      · exact (h.resolves (ownConfig_eq_some hconfig).2.2.1 hturn).congr (by simp [hres])
    · rw [releaseTurn_none (Option.not_isSome_iff_eq_none.1 (mt hiff.1 hres))]
      exact h.congr (by simp [hres])

end Grown

theorem forall_split_cons {α : Type} {P : List α → α → Prop} {a : α} {l : List α} :
    (∀ front x rest, a :: l = front ++ x :: rest → P front x) ↔
      P [] a ∧ ∀ front x rest, l = front ++ x :: rest → P (a :: front) x := by
  constructor
  · intro h
    refine ⟨h [] a l rfl, fun front x rest hl => h (a :: front) x rest ?_⟩
    rw [hl, List.cons_append]
  · rintro ⟨ha, hl⟩ front x rest heq
    cases front with
    | nil =>
      obtain ⟨rfl, -⟩ := List.cons.inj heq
      exact ha
    | cons b front =>
      obtain ⟨rfl, hrest⟩ := List.cons.inj heq
      exact hl front x rest hrest

theorem releaseRequests_of_none {detail : IPAllocationDetail} (details : List IPAllocationDetail)
    (h : ipv4Subnet detail = none) :
    releaseRequests env endpoint (detail :: details) cache =
      releaseRequests env endpoint details cache := by
  have hnone : detail.ipv4.bind netParseCIDR = none := Option.map_eq_none_iff.1 h
  simp only [releaseRequests, hnone]

theorem isSubnet_of_ipv4Subnet {detail : IPAllocationDetail} (h : ipv4Subnet detail = some subnet) :
    IsSubnet subnet := by
  obtain ⟨⟨ip, net⟩, hparse, rfl⟩ := Option.map_eq_some_iff.1 h
  obtain ⟨address, -, hnet⟩ := Option.bind_eq_some_iff.1 hparse
  exact ⟨address, ip, net, hnet, rfl⟩

theorem releaseRequests_of_some (env : ProviderEnv) (endpoint : SpiderEndpoint) (cache : MacCache)
    {detail : IPAllocationDetail} (details : List IPAllocationDetail)
    (h : ipv4Subnet detail = some subnet) :
    ∃ request, releaseRequests env endpoint (detail :: details) cache =
      ((releaseTurn env endpoint cache detail.nic subnet).1.map request).toList ++
        releaseRequests env endpoint details (releaseTurn env endpoint cache detail.nic subnet).2 ∧
      ∀ mac, (request mac).1 = detail := by
  obtain ⟨⟨ip, net⟩, hparse, rfl⟩ := Option.map_eq_some_iff.1 h
  refine ⟨fun mac => (detail, releaseRequest endpoint ip net.string mac), ?_, fun _ => rfl⟩
  simp only [releaseRequests, hparse]

def resolvedSubnets (env : ProviderEnv) (endpoint : SpiderEndpoint) (cache : MacCache)
    (details : List IPAllocationDetail) (subnet : String) : Prop :=
  ∃ d ∈ details, ipv4Subnet d = some subnet ∧ Resolvable env endpoint cache d.nic

/-- An interface that is not the provider's has a subnet that is neither remembered nor that of an earlier
detail whose parent NIC is resolvable. -/
def Unshared (env : ProviderEnv) (endpoint : SpiderEndpoint) (pod : Pod) (cache : MacCache)
    (earlier : List IPAllocationDetail) (detail : IPAllocationDetail) : Prop :=
  ∀ subnet, ipv4Subnet detail = some subnet → ownConfig env pod detail.nic = none →
    subnet ∉ cache ∧ ¬resolvedSubnets env endpoint cache earlier subnet

section

variable {earlier : List IPAllocationDetail} {detail : IPAllocationDetail}

theorem Grown.resolvedSubnets_snoc (hplain : NamespacesPlain env)
    (h : Grown env before (resolvedSubnets env endpoint before earlier) cache)
    (hdetail : ipv4Subnet detail = some subnet) (hsubnet : IsSubnet subnet) :
    Grown env before (resolvedSubnets env endpoint before (earlier ++ [detail]))
      (releaseTurn env endpoint cache detail.nic subnet).2 := by
  have hadded : ∀ k, resolvedSubnets env endpoint before earlier k → IsSubnet k := by
    rintro k ⟨d, -, hd, -⟩
    exact isSubnet_of_ipv4Subnet hd
  refine (h.turn hplain hadded hsubnet).congr fun k => ?_
  simp only [resolvedSubnets, List.mem_append, List.mem_singleton, or_and_right, exists_or,
    exists_eq_left, hdetail, Option.some.injEq, eq_comm (a := subnet)]

theorem turn_managed_iff (hplain : NamespacesPlain env)
    (hpod : ∀ p, env.getPodByName endpoint.ns endpoint.name = .found p → p = pod)
    (h : Grown env before (resolvedSubnets env endpoint before earlier) cache)
    (hdetail : ipv4Subnet detail = some subnet) (hsubnet : IsSubnet subnet) :
    ((releaseTurn env endpoint cache detail.nic subnet).1.isSome →
        (ownConfig env pod detail.nic).isSome) ↔
      Unshared env endpoint pod before earlier detail := by
  have hmem := h.subnet_mem_iff hplain hsubnet
  cases hlookup : cache.lookup subnet with
  | some mac =>
    rw [releaseTurn_cached hlookup]
    have hin := hmem.1 (GoMap.mem_of_lookup hlookup)
    constructor
    · intro hown subnet' _ hnone
      rw [hnone] at hown
      cases hown rfl
    · intro hunshared _
      by_contra hnone
      have hout := hunshared subnet hdetail (Option.not_isSome_iff_eq_none.1 hnone)
      exact hin.elim hout.1 hout.2
  | none =>
    have hout : subnet ∉ cache := by
      rw [← AList.lookup_isSome, hlookup]
      simp
    rw [hmem, not_or] at hout
    constructor
    · rintro - subnet' hsubnet' -
      obtain rfl := Option.some.inj (hdetail.symm.trans hsubnet')
      exact hout
    · rintro - hsome
      cases hget : env.getPodByName endpoint.ns endpoint.name with
      | notFound => rw [releaseTurn_gone hlookup (by simp [hget])] at hsome; cases hsome
      | failed e => rw [releaseTurn_gone hlookup (by simp [hget])] at hsome; cases hsome
      | found p =>
        obtain rfl := hpod p hget
        rw [releaseTurn_found hlookup hget] at hsome
        by_contra hnone
        rw [lookupTurn_of_none (Option.not_isSome_iff_eq_none.1 hnone)] at hsome
        cases hsome

end

theorem loop_managed_iff (hplain : NamespacesPlain env)
    (hpod : ∀ p, env.getPodByName endpoint.ns endpoint.name = .found p → p = pod)
    (earlier details : List IPAllocationDetail)
    (h : Grown env before (resolvedSubnets env endpoint before earlier) cache) :
    (∀ x ∈ releaseRequests env endpoint details cache, (ownConfig env pod x.1.nic).isSome) ↔
      ∀ front detail rest, details = front ++ detail :: rest →
        Unshared env endpoint pod before (earlier ++ front) detail := by
  induction details generalizing earlier cache with
  | nil => simp [releaseRequests]
  | cons detail details ih =>
    rw [forall_split_cons, List.append_nil]
    have ih' := fun (cache' : MacCache) (h' : Grown env before
      (resolvedSubnets env endpoint before (earlier ++ [detail])) cache') => ih (earlier ++ [detail]) h'
    simp only [List.append_assoc, List.singleton_append] at ih'
    cases hdetail : ipv4Subnet detail with
    | none =>
      have hunshared : Unshared env endpoint pod before earlier detail := by
        intro subnet hsubnet
        cases hdetail.symm.trans hsubnet
      rw [releaseRequests_of_none details hdetail, and_iff_right hunshared]
      refine ih' cache (h.congr fun k => ?_)
      simp [resolvedSubnets, or_and_right, exists_or, hdetail]
    | some subnet =>
      have hsubnet := isSubnet_of_ipv4Subnet hdetail
      obtain ⟨request, hrequests, hfst⟩ := releaseRequests_of_some env endpoint cache details hdetail
      rw [hrequests, List.forall_mem_append, ih' _ (h.resolvedSubnets_snoc hplain hdetail hsubnet),
        ← turn_managed_iff hplain hpod h hdetail hsubnet]
      refine and_congr_left' ?_
      cases (releaseTurn env endpoint cache detail.nic subnet).1 with
      | none => simp
      | some mac => simp [hfst]

theorem loop_sends {α : Type} (details : List IPAllocationDetail) (cache : MacCache)
    (k : List Err → Prog Cloud Err α) (hk : ∀ errs, SendsReleases (k errs) []) :
    SendsReleases (iaasReleaseLoop env endpoint details cache >>= k)
      ((releaseRequests env endpoint details cache).map (·.2)) := by
  induction details generalizing cache k with
  | nil => exact hk []
  | cons detail details ih =>
    have hrest : ∀ errs cache', SendsReleases
        ((iaasReleaseLoop env endpoint details cache' >>= fun rest => pure (errs ++ rest)) >>= k)
        ((releaseRequests env endpoint details cache').map (·.2)) := by
      intro errs cache'
      rw [Prog.bind_assoc]
      exact ih cache' _ fun rest => hk (errs ++ rest)
    unfold iaasReleaseLoop iaasReleaseTurn releaseRequests releaseTurn
    cases hipv4 : detail.ipv4 with
    | none => exact hrest [] cache
    | some ipv4 =>
      dsimp only [Option.bind_some]
      cases hparse : netParseCIDR ipv4 with
      | none => exact hrest _ cache
      | some parsed =>
        obtain ⟨ip, subnetCIDR⟩ := parsed
        dsimp only
        cases hnic : findParentNic env endpoint cache detail.nic subnetCIDR.string with
        | skip err => exact hrest _ cache
        | found mac cache' =>
          refine .call fun r hr => ?_
          rcases r with (e | - | -) | ⟨⟩
          · exact hrest _ cache'
          · exact absurd rfl hr.1
          · exact absurd rfl hr.2
          · exact hrest [] cache'

/-- **Which addresses are released at the provider.**  For every endpoint, Pod and content of the
client's memory, `callIaaSRelease` sends its requests for addresses of interfaces that resolve to a
configuration of the provider only, if and only if each of the other interfaces has a subnet that
the client does not remember, neither from before nor from an interface of the endpoint that comes
first and whose parent NIC is resolvable. -/
theorem releases_managed_iff (hplain : NamespacesPlain env)
    (hpod : ∀ p, env.getPodByName endpoint.ns endpoint.name = .found p → p = pod) :
    SendsReleases (callIaaSRelease (some cache) env endpoint)
        ((releaseRequests env endpoint endpoint.ips cache).map (·.2)) ∧
      ((∀ x ∈ releaseRequests env endpoint endpoint.ips cache, (ownConfig env pod x.1.nic).isSome) ↔
        ∀ front detail rest, endpoint.ips = front ++ detail :: rest →
          Unshared env endpoint pod cache front detail) := by
  refine ⟨loop_sends endpoint.ips cache _ fun _ => .ret _, ?_⟩
  have hgrown : Grown env cache (resolvedSubnets env endpoint cache []) cache :=
    ⟨fun _ hk => hk, by simp [resolvedSubnets], fun _ hk => .inl hk⟩
  exact loop_managed_iff hplain hpod [] endpoint.ips hgrown

end

end IPAM

namespace Sample

open IPAM

def autoVlan (master : String) : SpiderMultusConfig where
  cniType := some Constant.vlanCNI
  vlanConfig := some { vlanMode := some Constant.vlanModeAuto, master := [master] }

def threeNetworks (netInfo : String × String) : Lookup SpiderMultusConfig :=
  if netInfo = ("kube-system", "vlan-a") then .found (autoVlan "ens1")
  else if netInfo = ("kube-system", "vlan-b") then .found (autoVlan "ens2")
  else if netInfo = ("kube-system", "macvlan") then .found { cniType := some "macvlan" }
  else .notFound

def nicEnv (answer : Lookup Pod) : ProviderEnv where
  getPodByName := fun _ _ => answer
  getMultusNetworkForNIC := fun _ nic =>
    .ok ("kube-system", if nic = "eth0" then "vlan-a" else if nic = "net1" then "vlan-b" else "macvlan")
  getSpiderMultusConfig := threeNetworks
  linkByName := fun name => .ok (if name = "ens1" then "00:00:00:00:00:01" else "00:00:00:00:00:02")

theorem nicEnv_plain (answer : Lookup Pod) : NamespacesPlain (nicEnv answer) := by
  intro netInfo smc h
  have hns : netInfo.1 = "kube-system" := by
    simp only [nicEnv, threeNetworks] at h
    split_ifs at h with h₁ h₂ h₃
    · rw [h₁]
    · rw [h₂]
    · rw [h₃]
  rw [hns, List.forall_mem_cons, List.forall_mem_cons, List.forall_mem_singleton]
  exact ⟨by decide, by decide, by decide⟩

def nicPod : Pod where
  ns := "default"
  name := "web-0"
  uid := "u1"

def nicEndpoint (nic : String) : SpiderEndpoint where
  ns := "default"
  name := "web-0"
  uid := "u1"
  ips := [{ nic := nic, ipv4 := some "10.0.0.5/24" }]
  ownerControllerType := "Pod"

def vlanMemory : MacCache := AList.insert "10.0.0.0/24" "00:00:00:00:00:01" ∅

theorem nicEndpoint_subnet : (netParseCIDR "10.0.0.5/24").map (·.2.string) = some "10.0.0.0/24" := by
  decide +kernel

theorem nicRequests (nic : String) (answer : Lookup Pod) : ∃ request,
    releaseRequests (nicEnv answer) (nicEndpoint nic) (nicEndpoint nic).ips vlanMemory = [request] ∧
      request.1.nic = nic := by
  obtain ⟨request, hrequests, hfst⟩ := releaseRequests_of_some (nicEnv answer) (nicEndpoint nic) vlanMemory
    [] (show ipv4Subnet { nic := nic, ipv4 := some "10.0.0.5/24" } = _ from nicEndpoint_subnet)
  rw [releaseTurn_cached (show vlanMemory.lookup "10.0.0.0/24" = some _ from rfl)] at hrequests
  exact ⟨request "00:00:00:00:00:01", hrequests, by rw [hfst]⟩

/-- The address of an interface of the provider is released, and no other. -/
theorem vlan_released :
    (releaseRequests (nicEnv (.found nicPod)) (nicEndpoint "eth0") (nicEndpoint "eth0").ips
      vlanMemory).length = 1 ∧
    ∀ x ∈ releaseRequests (nicEnv (.found nicPod)) (nicEndpoint "eth0") (nicEndpoint "eth0").ips
      vlanMemory, (ownConfig (nicEnv (.found nicPod)) nicPod x.1.nic).isSome := by
  obtain ⟨request, hrequests, -⟩ := nicRequests "eth0" (.found nicPod)
  refine ⟨by rw [hrequests]; rfl, (releases_managed_iff (nicEnv_plain _) fun p hp => ?_).2.2 ?_⟩
  · exact (Lookup.found.inj hp).symm
  · intro front detail rest hips subnet _ hnone
    have hdetail : detail ∈ (nicEndpoint "eth0").ips := by simp [hips]
    rw [List.mem_singleton.1 hdetail] at hnone
    cases hnone

/-- The address of an interface that is in another network is released too, once its subnet is
remembered for a VLAN of the provider. -/
theorem macvlan_released :
    (lookupTurn (nicEnv .notFound) ∅ nicPod "eth0" "10.0.0.0/24").1 =
      vlanMemory.lookup "10.0.0.0/24" ∧
    ∃ x ∈ releaseRequests (nicEnv (.found nicPod)) (nicEndpoint "net2") (nicEndpoint "net2").ips
      vlanMemory, ownConfig (nicEnv (.found nicPod)) nicPod x.1.nic = none := by
  obtain ⟨request, hrequests, hnic⟩ := nicRequests "net2" (.found nicPod)
  refine ⟨rfl, request, by rw [hrequests]; exact List.mem_cons_self, ?_⟩
  rw [hnic]
  rfl

end Sample

end Spiderpool
