/-
# The MACs that the provider is sent

`pkg/ipam/iaas.go`. The memory of the client is filled by name when the agent starts
(`prewarmParentNicMacCache`), and by name and by subnet with each parent NIC that is looked up for
an address that is registered or released. What is remembered for a subnet is the MAC of the first
parent NIC that was looked up for it (`Remembers.events`), and every later interface of the provider
with an address in the subnet is given that one.
-/

import Spiderpool.IPAM.ParentNic

namespace Spiderpool
namespace IPAM

abbrev SpiderMultusConfigList := List ((String × String) × SpiderMultusConfig)

/-- The loop of `prewarmParentNicMacCache`. -/
def prewarmTurn (env : ProviderEnv) (cache : MacCache)
    (item : (String × String) × SpiderMultusConfig) : MacCache :=
  if isProviderVLANSpiderMultusConfig item.2 = false then cache
  else
    match getMasterIfaceFromMultusConfig item.2 with
    | .error _ => cache
    | .ok masterIface =>
      if (cache.lookup (cacheKey item.1)).isSome then cache
      else
        match env.linkByName masterIface with
        | .error _ => cache
        | .ok mac => cache.insert (cacheKey item.1) mac

/-- `prewarmParentNicMacCache`, where `list` is what the API server lists. -/
def prewarmParentNicMacCache (env : ProviderEnv) (list : Result Err SpiderMultusConfigList)
    (cache : MacCache) : MacCache :=
  if env.apiReader = false then cache
  else
    match list with
    | .error _ => cache
    | .ok items => items.foldl (prewarmTurn env) cache

/-- What is done with the memory: it is warmed up, or a turn of the loop of `callIaaSAllocate` or of
that of `callIaaSRelease` handles an address of an interface. A release reads the Pod of the endpoint
again. -/
inductive MacEvent where
  | prewarm (list : Result Err SpiderMultusConfigList)
  | allocate (pod : Pod) (nic address : String)
  | release (endpoint : SpiderEndpoint) (pod : Pod) (answer : Lookup Pod) (nic address : String)

structure Target where
  pod : Pod
  nic : String
  subnet : String

namespace MacEvent

def target : MacEvent → Option Target
  | prewarm _ => none
  | allocate pod nic address => (netParseCIDR address).map fun parsed => ⟨pod, nic, parsed.2.string⟩
  | release _ pod _ nic address =>
    (netParseCIDR address).map fun parsed => ⟨pod, nic, parsed.2.string⟩

/-- The MAC that goes into the request to the provider, and what the client then remembers. -/
def turn (env : ProviderEnv) (cache : MacCache) : MacEvent → Option String × MacCache
  | prewarm list => (none, prewarmParentNicMacCache env list cache)
  | allocate pod nic address =>
    match netParseCIDR address with
    | none => (none, cache)
    | some (_, net) => lookupTurn env cache pod nic net.string
  | release endpoint _ answer nic address =>
    match netParseCIDR address with
    | none => (none, cache)
    | some (_, net) =>
      releaseTurn { env with getPodByName := fun _ _ => answer } endpoint cache nic net.string

/-- The configurations that are listed are those that are read, and the Pod that is read is that of the
endpoint. -/
def Fits (env : ProviderEnv) : MacEvent → Prop
  | prewarm list => ∀ items, list = .ok items →
      ∀ item ∈ items, env.getSpiderMultusConfig item.1 = .found item.2
  | allocate _ _ _ => True
  | release _ pod answer _ _ => ∀ p, answer = .found p → p = pod

def podAtHand : MacEvent → Bool
  | prewarm _ => false
  | allocate _ _ _ => true
  | release _ _ (.found _) _ _ => true
  | release _ _ _ _ _ => false

/-- The MAC of the own master of the interface, if it has an address in this subnet and the Pod is at
hand. -/
def answers (env : ProviderEnv) (subnet : String) (e : MacEvent) : Option String :=
  if e.podAtHand then
    e.target.bind fun t => if t.subnet = subnet then ownMac env t.pod t.nic else none
  else none

end MacEvent

/-- What the client remembers after these events, when it has started with nothing. -/
def remembered (env : ProviderEnv) (es : List MacEvent) : MacCache :=
  es.foldl (fun cache e => (e.turn env cache).2) ∅

/-- The first MAC of an own master that was looked up for the subnet. -/
def firstMac (env : ProviderEnv) (es : List MacEvent) (subnet : String) : Option String :=
  es.findSome? fun e => e.answers env subnet

/-- What the client remembers: for a subnet the MAC `macs` says, for a configuration that of its
master. -/
structure Remembers (env : ProviderEnv) (macs : String → Option String) (cache : MacCache) : Prop where
  subnets : ∀ subnet, IsSubnet subnet → cache.lookup subnet = macs subnet
  configs : ∀ netInfo smc mac, env.getSpiderMultusConfig netInfo = .found smc →
    cache.lookup (cacheKey netInfo) = some mac → masterMac env smc = some mac

section

variable {env : ProviderEnv} {cache : MacCache} {macs : String → Option String} {pod : Pod}
  {nic subnet : String}

theorem ownMac_eq {netInfo : String × String} {smc : SpiderMultusConfig}
    (h : ownConfig env pod nic = some (netInfo, smc)) : ownMac env pod nic = masterMac env smc := by
  rw [ownMac, h, Option.bind_some]

theorem firstMac_snoc (es : List MacEvent) (e : MacEvent) (subnet : String) :
    firstMac env (es ++ [e]) subnet = (firstMac env es subnet).or (e.answers env subnet) := by
  unfold firstMac
  rw [List.findSome?_append, List.findSome?_cons]
  cases e.answers env subnet <;> rfl

namespace Remembers

section

variable {netInfo : String × String} {smc : SpiderMultusConfig} {mac : String} {e : MacEvent}

theorem insert_config (h : Remembers env macs cache) (hplain : NamespacesPlain env)
    (hsmc : env.getSpiderMultusConfig netInfo = .found smc) (hmac : masterMac env smc = some mac) :
    Remembers env macs (cache.insert (cacheKey netInfo) mac) := by
  refine ⟨fun subnet hsubnet => ?_, fun netInfo' smc' mac' hsmc' hlookup => ?_⟩
  · rw [GoMap.lookup_insert_eq, if_neg (hsubnet.ne_cacheKey hplain hsmc)]
    exact h.subnets subnet hsubnet
  · rw [GoMap.lookup_insert_eq] at hlookup
    split_ifs at hlookup with hkey
    · obtain rfl := cacheKey_injective hplain hsmc' hsmc hkey
      obtain rfl : smc' = smc := Lookup.found.inj (hsmc'.symm.trans hsmc)
      rw [hmac, hlookup]
    · exact h.configs netInfo' smc' mac' hsmc' hlookup

theorem insert_subnet (h : Remembers env macs cache) (hplain : NamespacesPlain env)
    (hsubnet : IsSubnet subnet) :
    Remembers env (Function.update macs subnet (some mac)) (cache.insert subnet mac) := by
  refine ⟨fun subnet' hsubnet' => ?_, fun netInfo smc mac' hsmc hlookup => ?_⟩
  · rw [GoMap.lookup_insert_eq, Function.update_apply, h.subnets subnet' hsubnet']
  · rw [GoMap.lookup_insert_eq, if_neg (hsubnet.ne_cacheKey hplain hsmc).symm] at hlookup
    exact h.configs netInfo smc mac' hsmc hlookup

theorem congr (h : Remembers env macs cache) {macs' : String → Option String}
    (heq : ∀ subnet, macs' subnet = macs subnet) : Remembers env macs' cache := by
  obtain rfl : macs' = macs := funext heq
  exact h

theorem lookupTurn (h : Remembers env macs cache) (hplain : NamespacesPlain env)
    (hsubnet : IsSubnet subnet)
    (hconfig : ownConfig env pod nic = some (netInfo, smc)) :
    (IPAM.lookupTurn env cache pod nic subnet).1 = (macs subnet).or (ownMac env pod nic) ∧
      Remembers env (Function.update macs subnet ((macs subnet).or (ownMac env pod nic)))
        (IPAM.lookupTurn env cache pod nic subnet).2 := by
  have hres := lookupTurn_resolves cache hsubnet.ne_empty hconfig
  have hsmc := (ownConfig_eq_some hconfig).2.2.1
  rw [ownMac_eq hconfig]
  generalize IPAM.lookupTurn env cache pod nic subnet = turn at hres
  cases hres with
  | bySubnet hlookup =>
    rw [h.subnets subnet hsubnet] at hlookup
    rw [hlookup, Option.some_or]
    exact ⟨rfl, h.congr fun k => by rw [← hlookup, Function.update_eq_self]⟩
  | @byConfig mac hlookup hkey =>
    rw [h.subnets subnet hsubnet] at hlookup
    have hmac := h.configs netInfo smc mac hsmc hkey
    rw [hlookup, hmac, Option.none_or]
    exact ⟨rfl, h.insert_subnet hplain hsubnet⟩
  | byLink hlookup hkey hmac =>
    rw [h.subnets subnet hsubnet] at hlookup
    rw [hlookup, hmac, Option.none_or]
    exact ⟨rfl, (h.insert_subnet hplain hsubnet).insert_config hplain hsmc hmac⟩
  | unresolved hlookup hkey hmac =>
    rw [h.subnets subnet hsubnet] at hlookup
    rw [hlookup, hmac, Option.none_or]
    exact ⟨rfl, h.congr fun k => by rw [← hlookup, Function.update_eq_self]⟩

theorem prewarmTurn (h : Remembers env macs cache) (hplain : NamespacesPlain env)
    {item : (String × String) × SpiderMultusConfig}
    (hitem : env.getSpiderMultusConfig item.1 = .found item.2) :
    Remembers env macs (IPAM.prewarmTurn env cache item) := by
  unfold IPAM.prewarmTurn
  split
  · exact h
  split
  · exact h
  rename_i master hmaster
  split
  · exact h
  split
  · exact h
  rename_i mac hlink
  refine h.insert_config hplain hitem ?_
  rw [masterMac, hmaster]
  exact congrArg Except.toOption hlink

theorem prewarm (h : Remembers env macs cache) (hplain : NamespacesPlain env)
    {list : Result Err SpiderMultusConfigList} (hlist : (MacEvent.prewarm list).Fits env) :
    Remembers env macs (prewarmParentNicMacCache env list cache) := by
  unfold prewarmParentNicMacCache
  split_ifs
  · exact h
  · cases list with
    | error fault => exact h
    | ok items =>
      have hitems := hlist items rfl
      clear hlist
      induction items generalizing cache with
      | nil => exact h
      | cons item items ih =>
        rw [List.forall_mem_cons] at hitems
        exact ih (h.prewarmTurn hplain hitems.1) hitems.2

theorem asked (h : Remembers env macs cache) (hplain : NamespacesPlain env)
    (hsubnet : IsSubnet subnet) (pod : Pod) (nic : String) :
    Remembers env (fun k => (macs k).or (if subnet = k then ownMac env pod nic else none))
      (IPAM.lookupTurn env cache pod nic subnet).2 := by
  cases hconfig : ownConfig env pod nic with
  | none =>
    rw [lookupTurn_of_none hconfig]
    exact h.congr fun k => by simp [ownMac, hconfig]
  | some config =>
    obtain ⟨netInfo, smc⟩ := config
    refine (h.lookupTurn hplain hsubnet hconfig).2.congr fun k => ?_
    rw [Function.update_apply]
    by_cases hk : k = subnet
    · rw [if_pos hk, hk, if_pos rfl]
    · rw [if_neg hk, if_neg (Ne.symm hk), Option.or_none]

theorem event (h : Remembers env macs cache) (hplain : NamespacesPlain env) (hfits : e.Fits env) :
    Remembers env (fun k => (macs k).or (e.answers env k)) (e.turn env cache).2 := by
  have hsame : ∀ e : MacEvent, (∀ k, (macs k).or (e.answers env k) = macs k) →
      Remembers env (fun k => (macs k).or (e.answers env k)) cache := fun e he => h.congr he
  cases e with
  | prewarm list =>
    refine (h.prewarm hplain hfits).congr fun k => ?_
    simp [MacEvent.answers, MacEvent.podAtHand]
  | allocate pod nic address =>
    cases hparse : netParseCIDR address with
    | none =>
      simp only [MacEvent.turn, hparse]
      exact hsame _ fun k => by simp [MacEvent.answers, MacEvent.target, hparse]
    | some parsed =>
      obtain ⟨ip, net⟩ := parsed
      simp only [MacEvent.turn, hparse, MacEvent.answers, MacEvent.target, MacEvent.podAtHand]
      exact h.asked hplain ⟨address, ip, net, hparse, rfl⟩ pod nic
  | release endpoint pod answer nic address =>
    cases hparse : netParseCIDR address with
    | none =>
      simp only [MacEvent.turn, hparse]
      exact hsame _ fun k => by simp [MacEvent.answers, MacEvent.target, hparse]
    | some parsed =>
      obtain ⟨ip, net⟩ := parsed
      have hsubnet : IsSubnet net.string := ⟨address, ip, net, hparse, rfl⟩
      simp only [MacEvent.turn, hparse]
      cases hlookup : cache.lookup net.string with
      | some mac =>
        rw [releaseTurn_cached hlookup]
        refine hsame _ fun k => ?_
        rw [h.subnets _ hsubnet] at hlookup
        simp only [MacEvent.answers, MacEvent.target, hparse, Option.map_some, Option.bind_some]
        by_cases hk : net.string = k
        · rw [← hk, hlookup, Option.some_or]
        · simp [hk]
      | none =>
        cases answer with
        | found p =>
          obtain rfl := hfits p rfl
          rw [releaseTurn_found hlookup (show _ = Lookup.found p from rfl)]
          simp only [MacEvent.answers, MacEvent.target, MacEvent.podAtHand, hparse]
          exact h.asked hplain hsubnet p nic
        | notFound =>
          rw [releaseTurn_gone hlookup (by rintro _ ⟨⟩)]
          exact hsame _ fun k => by simp [MacEvent.answers, MacEvent.podAtHand]
        | failed err =>
          rw [releaseTurn_gone hlookup (by rintro _ ⟨⟩)]
          exact hsame _ fun k => by simp [MacEvent.answers, MacEvent.podAtHand]

theorem events (hplain : NamespacesPlain env) (es : List MacEvent) (hfits : ∀ e ∈ es, e.Fits env) :
    Remembers env (firstMac env es) (remembered env es) := by
  induction es using List.reverseRecOn with
  | nil => exact ⟨fun _ _ => rfl, fun _ _ _ _ => nofun⟩
  | append_singleton es e ih =>
    simp only [List.forall_mem_append, List.forall_mem_singleton] at hfits
    have hevent := (ih hfits.1).event hplain hfits.2
    simp only [remembered, List.foldl_append, List.foldl_cons, List.foldl_nil]
    refine hevent.congr fun subnet => ?_
    rw [firstMac_snoc]

theorem turn_eq (h : Remembers env macs cache) (hplain : NamespacesPlain env)
    (hfits : e.Fits env) {t : Target} (htarget : e.target = some t)
    (hown : (ownConfig env t.pod t.nic).isSome) :
    (e.turn env cache).1 = (macs t.subnet).or (e.answers env t.subnet) := by
  obtain ⟨⟨netInfo, smc⟩, hconfig⟩ := Option.isSome_iff_exists.1 hown
  cases e with
  | prewarm list => cases htarget
  | allocate pod nic address =>
    obtain ⟨⟨ip, net⟩, hparse, rfl⟩ := Option.map_eq_some_iff.1 htarget
    simp only [MacEvent.turn, hparse, MacEvent.answers, MacEvent.target, MacEvent.podAtHand, if_true,
      Option.map_some, Option.bind_some]
    exact (h.lookupTurn hplain ⟨address, ip, net, hparse, rfl⟩ hconfig).1
  | release endpoint pod answer nic address =>
    obtain ⟨⟨ip, net⟩, hparse, rfl⟩ := Option.map_eq_some_iff.1 htarget
    have hsubnet : IsSubnet net.string := ⟨address, ip, net, hparse, rfl⟩
    simp only [MacEvent.turn, hparse]
    cases hlookup : cache.lookup net.string with
    | some mac =>
      rw [releaseTurn_cached hlookup, ← h.subnets _ hsubnet, hlookup, Option.some_or]
    | none =>
      rw [← h.subnets _ hsubnet, hlookup, Option.none_or]
      cases answer with
      | found p =>
        obtain rfl := hfits p rfl
        rw [releaseTurn_found hlookup (show _ = Lookup.found p from rfl)]
        have hfirst := (h.lookupTurn hplain hsubnet hconfig).1
        rw [← h.subnets _ hsubnet, hlookup, Option.none_or] at hfirst
        simp only [MacEvent.answers, MacEvent.target, MacEvent.podAtHand, hparse, if_true,
          Option.map_some, Option.bind_some]
        exact hfirst
      | notFound => rw [releaseTurn_gone hlookup (by rintro _ ⟨⟩)]; rfl
      | failed err => rw [releaseTurn_gone hlookup (by rintro _ ⟨⟩)]; rfl

end

end Remembers

/-- Two events of one subnet are those of configurations whose masters have one MAC, if the first has
found its own. -/
def SameParent (env : ProviderEnv) (e e' : MacEvent) : Prop :=
  ∀ t t' mac, e.target = some t → e'.target = some t' → t.subnet = t'.subnet → e.podAtHand = true →
    ownMac env t.pod t.nic = some mac → (ownConfig env t'.pod t'.nic).isSome →
    ownMac env t'.pod t'.nic = some mac

theorem answers_eq_some {e : MacEvent} {mac : String} :
    e.answers env subnet = some mac ↔ e.podAtHand = true ∧
      ∃ t, e.target = some t ∧ t.subnet = subnet ∧ ownMac env t.pod t.nic = some mac := by
  unfold MacEvent.answers
  by_cases hpod : e.podAtHand = true
  · rw [if_pos hpod, Option.bind_eq_some_iff, and_iff_right hpod]
    refine exists_congr fun t => and_congr_right fun _ => ?_
    split_ifs with hsubnet
    · exact (and_iff_right hsubnet).symm
    · exact iff_of_false nofun fun h => hsubnet h.1
  · rw [if_neg hpod]
    exact iff_of_false nofun fun h => hpod h.1

/-- **Whose MAC the provider is sent.**  Along every sequence of turns of allocations and releases, with
the memory warmed up at any time, the MAC for each interface of the provider is that of the master
its own configuration names, if and only if any two interfaces of the provider with addresses in one
subnet have masters of one MAC, as far as the first of them was looked up with success. -/
theorem own_mac_iff (hplain : NamespacesPlain env) (es : List MacEvent)
    (hfits : ∀ e ∈ es, e.Fits env) :
    (∀ front e rest, es = front ++ e :: rest → ∀ t mac, e.target = some t →
        (ownConfig env t.pod t.nic).isSome → (e.turn env (remembered env front)).1 = some mac →
        ownMac env t.pod t.nic = some mac) ↔
      ∀ front e' rest, es = front ++ e' :: rest → ∀ e ∈ front, SameParent env e e' := by
  have hturn : ∀ front e rest, es = front ++ e :: rest → ∀ t, e.target = some t →
      (ownConfig env t.pod t.nic).isSome → (e.turn env (remembered env front)).1 =
        (firstMac env front t.subnet).or (e.answers env t.subnet) := by
    rintro front e rest rfl t htarget hown
    rw [List.forall_mem_append, List.forall_mem_cons] at hfits
    exact (Remembers.events hplain front hfits.1).turn_eq hplain hfits.2.1 htarget hown
  constructor
  · rintro hall front e' rest rfl e he t t' mac htarget htarget' hsubnet hpod hmac hown'
    -- the first MAC of the subnet is sent for both
    obtain ⟨front₁, front₂, rfl⟩ := List.append_of_mem he
    have hanswer : e.answers env t.subnet = some mac := answers_eq_some.2 ⟨hpod, t, htarget, rfl, hmac⟩
    have hown : (ownConfig env t.pod t.nic).isSome := by
      cases hconfig : ownConfig env t.pod t.nic with
      | none => simp [ownMac, hconfig] at hmac
      | some config => rfl
    have hfirst : firstMac env (front₁ ++ e :: front₂) t.subnet = some mac := by
      have hkept : (firstMac env front₁ t.subnet).or (some mac) = some mac := by
        have hsent := hturn front₁ e (front₂ ++ e' :: rest) (by simp) t htarget hown
        rw [hanswer] at hsent
        obtain ⟨mac₀, hmac₀⟩ := Option.isSome_iff_exists.1
          (show ((firstMac env front₁ t.subnet).or (some mac)).isSome by simp)
        have hown₀ := hall front₁ e (front₂ ++ e' :: rest) (by simp) t mac₀ htarget hown
          (hsent.trans hmac₀)
        rw [hmac₀, ← hown₀, hmac]
      rw [firstMac, List.findSome?_append, List.findSome?_cons, hanswer]
      exact hkept
    have hsent' := hturn _ e' rest rfl t' htarget' hown'
    rw [← hsubnet, hfirst, Option.some_or] at hsent'
    exact hall _ e' rest rfl t' mac htarget' hown' hsent'
  · intro hsame front e rest hes t mac htarget hown hmac
    rw [hturn front e rest hes t htarget hown, Option.or_eq_some_iff] at hmac
    rcases hmac with hfirst | ⟨-, hanswer⟩
    · obtain ⟨e₀, he₀, hanswer⟩ := List.exists_of_findSome?_eq_some hfirst
      obtain ⟨hpod, t₀, htarget₀, hsubnet, hmac₀⟩ := answers_eq_some.1 hanswer
      exact hsame front e rest hes e₀ he₀ t₀ t mac htarget₀ htarget hsubnet hpod hmac₀ hown
    · obtain ⟨-, t', htarget', -, hmac'⟩ := answers_eq_some.1 hanswer
      obtain rfl := Option.some.inj (htarget.symm.trans htarget')
      exact hmac'

/-! ### The calls are made of such turns -/

def sentMacs (env : ProviderEnv) : List MacEvent → MacCache → List String
  | [], _ => []
  | e :: es, cache => (e.turn env cache).1.toList ++ sentMacs env es (e.turn env cache).2

/-- The turns of the loop of `callIaaSAllocate`. -/
def allocateTurns (pod : Pod) (results : List AllocationResult) : List MacEvent :=
  results.map fun result => .allocate pod result.ip.nic result.ip.address

/-- The turns of the loop of `callIaaSRelease`. -/
def releaseTurns (endpoint : SpiderEndpoint) (pod : Pod) (answer : Lookup Pod)
    (details : List IPAllocationDetail) : List MacEvent :=
  details.filterMap fun detail =>
    detail.ipv4.map fun ipv4 => .release endpoint pod answer detail.nic ipv4

theorem iaasAllocationItems_macs {results : List AllocationResult}
    {items : List IaaSIPAllocationItem} (h : iaasAllocationItems env pod results cache = .ok items) :
    items.map (·.parentNicMac) = sentMacs env (allocateTurns pod results) cache := by
  induction results generalizing cache items with
  | nil => rw [← Except.ok.inj h]; rfl
  | cons result results ih =>
    unfold iaasAllocationItems at h
    split at h
    · cases h
    · rename_i ip net hparse
      obtain ⟨⟨parentMac, cache'⟩, hfound, h⟩ := bind_eq_ok.1 h
      obtain ⟨items', hitems, h⟩ := bind_eq_ok.1 h
      have hturn : (MacEvent.allocate pod result.ip.nic result.ip.address).turn env cache =
          (parentMac, cache') := by
        simp only [MacEvent.turn, hparse, lookupTurn, mapErr_eq_ok.1 hfound]
      rw [allocateTurns, List.map_cons, sentMacs, hturn, ← allocateTurns, ← ih hitems]
      cases parentMac with
      | none => rw [← Except.ok.inj h]; rfl
      | some mac => rw [← Except.ok.inj h]; rfl

theorem releaseRequests_macs (endpoint : SpiderEndpoint) (pod : Pod) (answer : Lookup Pod)
    (details : List IPAllocationDetail) (cache : MacCache) :
    (releaseRequests { env with getPodByName := fun _ _ => answer } endpoint details cache).map
        (·.2.parentNicMac) =
      sentMacs env (releaseTurns endpoint pod answer details) cache := by
  induction details generalizing cache with
  | nil => rfl
  | cons detail details ih =>
    unfold releaseRequests releaseTurns
    cases hipv4 : detail.ipv4 with
    | none =>
      rw [List.filterMap_cons_none (by rw [hipv4]; rfl)]
      exact ih cache
    | some ipv4 =>
      rw [List.filterMap_cons_some (by rw [hipv4]; rfl)]
      simp only [sentMacs, MacEvent.turn, Option.bind_some]
      cases netParseCIDR ipv4 with
      | none => exact ih cache
      | some parsed =>
        simp only [List.map_append, ih]
        generalize releaseTurn _ endpoint cache detail.nic parsed.2.string = turn
        obtain ⟨mac | mac, cache'⟩ := turn <;> rfl

end

end IPAM

namespace Sample

open IPAM

def registers (nic : String) : MacEvent := .allocate nicPod nic "10.0.0.5/24"

/-- If one VLAN is used for the subnet, the MAC of its master is sent each time. -/
theorem own_master_sent :
    ((registers "eth0").turn (nicEnv .notFound) (remembered (nicEnv .notFound) [registers "eth0"])).1 =
      some "00:00:00:00:00:01" ∧
    ∀ front e rest, [registers "eth0", registers "eth0"] = front ++ e :: rest →
      ∀ t mac, e.target = some t → (ownConfig (nicEnv .notFound) t.pod t.nic).isSome →
        (e.turn (nicEnv .notFound) (remembered (nicEnv .notFound) front)).1 = some mac →
        ownMac (nicEnv .notFound) t.pod t.nic = some mac := by
  refine ⟨by decide +kernel, (own_mac_iff (nicEnv_plain _) _ ?_).2 ?_⟩
  · simp [registers, MacEvent.Fits]
  · intro front e' rest hes e he t t' mac htarget htarget' _ _ hmac _
    have hall : ∀ e ∈ front ++ e' :: rest, e = registers "eth0" := by
      rw [← hes]
      simp
    rw [hall e (List.mem_append_left _ he)] at htarget
    rw [hall e' (by simp), htarget] at htarget'
    rw [← Option.some.inj htarget', hmac]

/-- The second of two VLANs that are used for the subnet is sent with the MAC of the master of the
first. -/
theorem other_master_sent :
    ((registers "net1").turn (nicEnv .notFound) (remembered (nicEnv .notFound) [registers "eth0"])).1 =
      some "00:00:00:00:00:01" ∧
    (ownConfig (nicEnv .notFound) nicPod "net1").isSome ∧
    ownMac (nicEnv .notFound) nicPod "net1" = some "00:00:00:00:00:02" := by
  decide +kernel

end Sample

end Spiderpool
