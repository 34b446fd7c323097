/-
# The IaaS provider

`pkg/ipam/iaas.go`. With a provider configured, the agent registers the addresses of a Pod with it
(`callIaaSAllocate`) and releases them there again (`callIaaSRelease`). The provider binds an
address to the UID of a Pod until it is released for that UID; `Cloud` is the API server together
with what the provider has bound.

The networks of an interface, the SpiderMultusConfigs and the links of the host are parameters. What
the provider answers to a registration, the MAC and the VLAN of the results, is left out.
-/

import Spiderpool.Base.Prog
import Spiderpool.GC.View
import Spiderpool.IPAM.Types

namespace Spiderpool

namespace Constant

def vlanCNI := "vlan"
def vlanModeAuto := "auto"

end Constant

/-- The API server, and the addresses the provider has bound, each with the UID of a Pod. -/
structure Cloud where
  api : ApiServer
  bound : List (String × String)

def onApi {α : Type} (m : Api α) : Eff Cloud Err α := fun c =>
  ((m c.api).1, { c with api := (m c.api).2 })

namespace IPAM

/-- `VlanConfig` of a SpiderMultusConfig, with the name of its bond. -/
structure VlanConfig where
  vlanMode : Option String := none
  master : List String := []
  bond : Option String := none

structure SpiderMultusConfig where
  cniType : Option String := none
  vlanConfig : Option VlanConfig := none

structure ProviderEnv where
  apiReader : Bool := true
  /-- `GetPodByName`, which returns a Pod where it returns no error. -/
  getPodByName : String → String → Lookup Pod
  /-- `GetMultusNetworkForNIC`: the namespace and the name of the network. -/
  getMultusNetworkForNIC : Pod → String → Result Err (String × String)
  getSpiderMultusConfig : String × String → Lookup SpiderMultusConfig
  /-- The MAC of the link with this name. -/
  linkByName : String → Result Err String

/-- The parent NICs in the memory of the client, by subnet and by SpiderMultusConfig. -/
abbrev MacCache := GoMap String String

def isProviderVLANSpiderMultusConfig (smc : SpiderMultusConfig) : Bool :=
  smc.cniType = some Constant.vlanCNI &&
    (smc.vlanConfig.bind VlanConfig.vlanMode) = some Constant.vlanModeAuto

def getMasterIfaceFromMultusConfig (smc : SpiderMultusConfig) : Result Err String :=
  match smc.cniType with
  | none => fail (.new "CniType is nil")
  | some cniType =>
    if cniType ≠ "vlan" then
      fail (.new ("unsupported CniType " ++ cniType ++ ", only support 'vlan'"))
    else
      match smc.vlanConfig with
      | some { master := [master], .. } => .ok master
      | some { master := [_, _], bond := some bond, .. } => .ok bond
      | _ => fail (.new ("no master interface found for CniType " ++ cniType))

/-- `CacheParentNicMac` of a subnet, unless it is empty. -/
def cacheSubnet (subnet mac : String) (cache : MacCache) : MacCache :=
  if subnet ≠ "" then cache.insert subnet mac else cache

/-- `getProviderParentNicMacFromMultus`: the MAC of the parent NIC, or nothing for a network
that is not the provider's, and what the client then has in its memory. -/
def getProviderParentNicMacFromMultus (env : ProviderEnv) (cache : MacCache) (pod : Pod)
    (nic subnet : String) : Result Err (Option String × MacCache) := do
  failIf (env.apiReader = false) (.new "APIReader is not configured")
  let netInfo ← mapErr (.wrap ("failed to get multus network for NIC " ++ nic ++ ": ") · "")
    (env.getMultusNetworkForNIC pod nic)
  let cacheKey := netInfo.1 ++ "/" ++ netInfo.2
  match env.getSpiderMultusConfig netInfo with
  | .notFound => return (none, cache)
  | .failed e => fail (.wrap ("failed to get SpiderMultusConfig " ++ cacheKey ++ ": ") e "")
  | .found smc =>
    if isProviderVLANSpiderMultusConfig smc = false then return (none, cache)
    else
      match if subnet ≠ "" then cache.lookup subnet else none, cache.lookup cacheKey with
      | some mac, _ => return (some mac, cache)
      | none, some mac => return (some mac, cacheSubnet subnet mac cache)
      | none, none => do
        let masterIface ← mapErr (.wrap ("failed to get master interface from SpiderMultusConfig " ++
          cacheKey ++ ": ") · "") (getMasterIfaceFromMultusConfig smc)
        let mac ← mapErr (.wrap ("failed to get link " ++ masterIface ++ ": ") · "")
          (env.linkByName masterIface)
        return (some mac, (cacheSubnet subnet mac cache).insert cacheKey mac)

/-! ### Registering addresses -/

structure IaaSIPAllocationItem where
  ipAddress : String
  subnet : String
  parentNicMac : String
deriving DecidableEq

/-- The loop of `callIaaSAllocate` that builds the request. -/
def iaasAllocationItems (env : ProviderEnv) (pod : Pod) :
    List AllocationResult → MacCache → Result Err (List IaaSIPAllocationItem)
  | [], _ => .ok []
  | result :: results, cache =>
    match netParseCIDR result.ip.address with
    | none => fail (.wrap "failed to parse IP address: " (netParseError result.ip.address) "")
    | some (ip, ipNet) => do
      let (parentMac, cache) ← mapErr (.wrap "failed to get parent NIC MAC: " · "")
        (getProviderParentNicMacFromMultus env cache pod result.ip.nic ipNet.string)
      let items ← iaasAllocationItems env pod results cache
      match parentMac with
      | none => return items
      | some parentMac => return ⟨ip.string, ipNet.string, parentMac⟩ :: items

/-- `AllocateIPs` of the client: the provider binds the addresses to the Pod. -/
def providerAllocateIPs (podUID : String) (items : List IaaSIPAllocationItem) :
    Eff Cloud Err Unit := fun c =>
  (.ok (), { c with bound := items.map (fun item => (item.ipAddress, podUID)) ++ c.bound })

def callIaaSAllocate (client : Option MacCache) (env : ProviderEnv) (pod : Pod)
    (results : List AllocationResult) : Prog Cloud Err Unit :=
  match client with
  | none => pure ()
  | some cache => do
    let items ← .ret (iaasAllocationItems env pod results cache)
    if items = [] then pure ()
    else
      Prog.mapErr (.wrap "iaas allocate failed: " · "") (.request (providerAllocateIPs pod.uid items))

/-! ### Releasing addresses -/

structure ReleaseIPRequest where
  podName : String
  podNamespace : String
  podUID : String
  nodeName : String
  ipAddress : String
  subnet : String
  parentNicMac : String := ""

/-- `ReleaseIP` of the client: the provider no longer binds the address to the UID. -/
def providerReleaseIP (req : ReleaseIPRequest) : Eff Cloud Err Unit := fun c =>
  (.ok (), { c with bound := c.bound.filter (· ≠ (req.ipAddress, req.podUID)) })

/-- How the loop of `callIaaSRelease` goes on after it has looked for the parent NIC: it leaves
the address out, with or without an error, or releases it. -/
inductive ParentNic where
  | skip (err : Option Err)
  | found (mac : String) (cache : MacCache)

/-- The search for the parent NIC of an interface. The Pod is only needed for a subnet that is
not in the memory of the client. -/
def findParentNic (env : ProviderEnv) (endpoint : SpiderEndpoint) (cache : MacCache)
    (nic subnet : String) : ParentNic :=
  match cache.lookup subnet with
  | some mac => .found mac cache
  | none =>
    let text := "failed to get pod " ++ endpoint.ns ++ "/" ++ endpoint.name ++ ": "
    match env.getPodByName endpoint.ns endpoint.name with
    | .notFound => .skip (some (.wrap text errNotFound ""))
    | .failed e => .skip (some (.wrap text e ""))
    | .found pod =>
      match getProviderParentNicMacFromMultus env cache pod nic subnet with
      | .ok (some mac, cache) => .found mac cache
      | _ => .skip none

/-- The request of `callIaaSRelease` for an address of the endpoint. -/
def releaseRequest (endpoint : SpiderEndpoint) (ip : Addr) (subnet parentNicMac : String) :
    ReleaseIPRequest where
  podName := endpoint.name
  podNamespace := endpoint.ns
  podUID := endpoint.uid
  nodeName := endpoint.node
  ipAddress := ip.string
  subnet := subnet
  parentNicMac := parentNicMac

/-- One turn of the loop of `callIaaSRelease`: the errors it collects, and what the client then
has in its memory. -/
def iaasReleaseTurn (env : ProviderEnv) (endpoint : SpiderEndpoint) (detail : IPAllocationDetail)
    (cache : MacCache) : Prog Cloud Err (List Err × MacCache) :=
  match detail.ipv4 with
  | none => pure ([], cache)
  | some ipv4 =>
    match netParseCIDR ipv4 with
    | none => pure ([.wrap ("failed to parse CIDR " ++ ipv4 ++ ": ") (netParseError ipv4) ""], cache)
    | some (ip, subnetCIDR) =>
      match findParentNic env endpoint cache detail.nic subnetCIDR.string with
      | .skip err => pure (err.toList, cache)
      | .found mac cache => do
        let req := releaseRequest endpoint ip subnetCIDR.string mac
        match ← Prog.tryErr (.request (providerReleaseIP req)) with
        | .inl () => return ([], cache)
        | .inr e => return ([.wrap ("failed to release IP " ++ ip.string ++ ": ") e ""], cache)

/-- The loop of `callIaaSRelease`: the errors it collects. -/
def iaasReleaseLoop (env : ProviderEnv) (endpoint : SpiderEndpoint) :
    List IPAllocationDetail → MacCache → Prog Cloud Err (List Err)
  | [], _ => pure []
  | detail :: details, cache => do
    let (errs, cache) ← iaasReleaseTurn env endpoint detail cache
    let rest ← iaasReleaseLoop env endpoint details cache
    return errs ++ rest

def callIaaSRelease (client : Option MacCache) (env : ProviderEnv) (endpoint : SpiderEndpoint) :
    Prog Cloud Err Unit :=
  match client with
  | none => pure ()
  | some cache => do
    let errs ← iaasReleaseLoop env endpoint endpoint.ips cache
    .ret (failIf (errs ≠ []) (.new ("iaas release failed for " ++ toString errs.length ++
      " IP(s): " ++ formatList (errs.map Err.text))))

/-- The loop of `callIaaSRelease` gets to the address of this text: it is an IPv4 address of a
detail, and its parent NIC is found whatever the client has in its memory. -/
def AtProvider (env : ProviderEnv) (endpoint : SpiderEndpoint) (details : List IPAllocationDetail)
    (key : String) : Prop :=
  ∃ detail ∈ details, ∃ ipv4 ip subnetCIDR, detail.ipv4 = some ipv4 ∧
    netParseCIDR ipv4 = some (ip, subnetCIDR) ∧ ip.string = key ∧
    ∀ cache, ∃ mac cache', findParentNic env endpoint cache detail.nic subnetCIDR.string =
      .found mac cache'

section

variable {client : Option MacCache} {env : ProviderEnv} {endpoint : SpiderEndpoint}
  {I : Cloud → Prop} {c : Cloud}

theorem findParentNic_found {pod : Pod} {netInfo : String × String} {smc : SpiderMultusConfig}
    {nic master mac : String} (hreader : env.apiReader = true)
    (hpod : env.getPodByName endpoint.ns endpoint.name = .found pod)
    (hnet : env.getMultusNetworkForNIC pod nic = .ok netInfo)
    (hsmc : env.getSpiderMultusConfig netInfo = .found smc)
    (hvlan : isProviderVLANSpiderMultusConfig smc = true)
    (hmaster : getMasterIfaceFromMultusConfig smc = .ok master)
    (hlink : env.linkByName master = .ok mac) (cache : MacCache) (subnet : String) :
    ∃ mac' cache', findParentNic env endpoint cache nic subnet = .found mac' cache' := by
  unfold findParentNic
  cases hsubnet : cache.lookup subnet with
  | some mac' => exact ⟨mac', cache, rfl⟩
  | none =>
    have hmac : ∃ mac' cache', getProviderParentNicMacFromMultus env cache pod nic subnet =
        .ok (some mac', cache') := by
      simp only [getProviderParentNicMacFromMultus, hreader, hnet, hsmc, hvlan, hmaster, hlink, hsubnet,
        ite_self, mapErr, failIf, bind, Except.bind, Bool.true_eq_false, if_false]
      cases cache.lookup (netInfo.1 ++ "/" ++ netInfo.2) with
      | some mac' => exact ⟨mac', _, rfl⟩
      | none => exact ⟨mac, _, rfl⟩
    obtain ⟨mac', cache', hmac⟩ := hmac
    simp only [hpod, hmac]
    exact ⟨mac', cache', rfl⟩
theorem iaasReleaseTurn_holds (hkeep : ∀ req c, I c → I (providerReleaseIP req c).2)
    (detail : IPAllocationDetail) (cache : MacCache) (hc : I c) :
    Prog.Holds I (fun r c' => (∀ b ∈ c'.bound, b ∈ c.bound) ∧ ∀ cache', r = .ok ([], cache') →
      ∀ key, AtProvider env endpoint [detail] key → (key, endpoint.uid) ∉ c'.bound)
      (iaasReleaseTurn env endpoint detail cache) c := by
  have hat : ∀ key, AtProvider env endpoint [detail] key → ∃ ipv4 ip subnetCIDR,
      detail.ipv4 = some ipv4 ∧ netParseCIDR ipv4 = some (ip, subnetCIDR) ∧ ip.string = key ∧
      ∃ mac cache', findParentNic env endpoint cache detail.nic subnetCIDR.string =
        .found mac cache' := by
    rintro key ⟨d, hd, ipv4, ip, subnetCIDR, hipv4, hparse, hkey, hfound⟩
    obtain rfl := List.mem_singleton.1 hd
    exact ⟨ipv4, ip, subnetCIDR, hipv4, hparse, hkey, hfound cache⟩
  unfold iaasReleaseTurn
  cases hipv4 : detail.ipv4 with
  | none =>
    refine ⟨hc, fun _ h => h, fun _ _ key hkey => ?_⟩
    obtain ⟨ipv4, -, -, hsome, -⟩ := hat key hkey
    cases hipv4.symm.trans hsome
  | some ipv4 =>
    dsimp only
    cases hparse : netParseCIDR ipv4 with
    | none => exact ⟨hc, fun _ h => h, nofun⟩
    | some parsed =>
      obtain ⟨ip, subnetCIDR⟩ := parsed
      have hhere : ∀ key, AtProvider env endpoint [detail] key → ip.string = key ∧
          ∃ mac cache', findParentNic env endpoint cache detail.nic subnetCIDR.string =
            .found mac cache' := by
        intro key hkey
        obtain ⟨ipv4', ip', subnetCIDR', hsome, hparse', hstring, hfound⟩ := hat key hkey
        obtain rfl := Option.some.inj (hipv4.symm.trans hsome)
        obtain ⟨rfl, rfl⟩ := Prod.mk.inj (Option.some.inj (hparse.symm.trans hparse'))
        exact ⟨hstring, hfound⟩
      dsimp only
      cases hnic : findParentNic env endpoint cache detail.nic subnetCIDR.string with
      | skip err =>
        refine ⟨hc, fun _ h => h, fun _ _ key hkey => ?_⟩
        obtain ⟨-, mac, cache', hfound⟩ := hhere key hkey
        cases hnic.symm.trans hfound
      | found mac cache' =>
        let req := releaseRequest endpoint ip subnetCIDR.string mac
        have hreq := hkeep req c hc
        have hfewer : ∀ b ∈ (providerReleaseIP req c).2.bound, b ∈ c.bound :=
          fun b hb => List.mem_of_mem_filter hb
        refine Prog.Holds.bind (Prog.Holds.tryErr (Prog.Holds.request hc hreq ⟨hreq, hfewer, ?_⟩
          fun e => ⟨⟨hc, fun _ h => h, nofun⟩, hreq, hfewer, nofun⟩))
        rintro - - key hkey hmem
        obtain ⟨rfl, -⟩ := hhere key hkey
        simpa [req, releaseRequest] using (List.mem_filter.1 hmem).2

theorem iaasReleaseLoop_holds (hkeep : ∀ req c, I c → I (providerReleaseIP req c).2)
    (details : List IPAllocationDetail) (cache : MacCache) (hc : I c) :
    Prog.Holds I (fun r c' => (∀ b ∈ c'.bound, b ∈ c.bound) ∧ (r = .ok [] →
      ∀ key, AtProvider env endpoint details key → (key, endpoint.uid) ∉ c'.bound))
      (iaasReleaseLoop env endpoint details cache) c := by
  induction details generalizing cache c with
  | nil => exact ⟨hc, fun _ h => h, by simp [AtProvider]⟩
  | cons detail details ih =>
    refine (iaasReleaseTurn_holds hkeep detail cache hc).seq (fun turn c₁ hc₁ hturn => ?_)
      fun _ _ _ hturn => ⟨hturn.1, nofun⟩
    obtain ⟨errs, cache₁⟩ := turn
    refine (ih cache₁ hc₁).seq (fun rest c₂ hc₂ hrest => ⟨hc₂, fun b hb => hturn.1 b (hrest.1 b hb),
      fun hnil key hkey hmem => ?_⟩) fun _ _ _ hrest => ⟨fun b hb => hturn.1 b (hrest.1 b hb), nofun⟩
    obtain ⟨rfl, rfl⟩ := List.append_eq_nil_iff.1 (Except.ok.inj hnil)
    obtain ⟨d, hd, hkey⟩ := hkey
    rcases List.mem_cons.1 hd with rfl | hd
    · exact hturn.2 cache₁ rfl key ⟨d, List.mem_singleton_self _, hkey⟩ (hrest.1 _ hmem)
    · exact hrest.2 rfl key ⟨d, hd, hkey⟩ hmem

theorem callIaaSRelease_holds (hkeep : ∀ req c, I c → I (providerReleaseIP req c).2) (hc : I c) :
    Prog.Holds I (fun r c' => r = .ok () → client.isSome → ∀ key,
      AtProvider env endpoint endpoint.ips key → (key, endpoint.uid) ∉ c'.bound)
      (callIaaSRelease client env endpoint) c := by
  unfold callIaaSRelease
  split
  · exact ⟨hc, nofun⟩
  · refine (iaasReleaseLoop_holds hkeep _ _ hc).seq (fun errs c' hc' hloop => ⟨hc', ?_⟩)
      fun _ _ _ _ => nofun
    rintro hok -
    rw [failIf_eq_ok, not_not] at hok
    exact hloop.2 (congrArg _ hok)

end

end IPAM
end Spiderpool
