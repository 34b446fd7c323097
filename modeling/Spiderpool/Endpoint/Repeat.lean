/-
# The answer to a repeated ADD

A container that asks again is answered from its endpoint. The addresses are those of the
first answer exactly if no result has a MAC and the results of an interface share their VLAN
(`retrieved_configs_iff`), and the routes are if the clean flag of each result with a gateway
is the one that was kept for its interface (`retrieved_routes_perm`).
-/

import Spiderpool.Endpoint.Merge

namespace Spiderpool

/-! ### The addresses -/

/-- What a container is told of an address: its interface and version, the address, the
gateway, the pool, the VLAN and the MAC. -/
def IPConfig.fields (config : IPConfig) :
    String × IPVersion × String × String × String × ℤ × String :=
  (config.nic, config.version, config.address, config.gateway, config.ipPool, config.vlan,
    config.mac)

section

variable {results : List AllocationResult}

theorem OnePerVersion.eq (h : OnePerVersion results) {r r' : AllocationResult} (hr : r ∈ results)
    (hr' : r' ∈ results) (hnic : r.ip.nic = r'.ip.nic) (hversion : r.ip.version = r'.ip.version) :
    r = r' := by
  by_contra hne
  have hsymm : Std.Symm fun r r' : AllocationResult =>
      r.ip.nic = r'.ip.nic → r.ip.version ≠ r'.ip.version :=
    ⟨fun _ _ h hnic => (h hnic.symm).symm⟩
  exact h.unique.forall hr hr' hne hnic hversion

/-- A repeated ADD answers with the addresses of the first one, field by field, exactly if no
result has a MAC and the results of an interface share their VLAN. -/
theorem retrieved_configs_iff (h : OnePerVersion results)
    (o : RangeOrder String IPAllocationDetail) (c g : Bool) :
    ∃ a, convertIPDetailsToIPConfigsAndAllRoutes c g (convertResultsToIPDetails o results false) =
        .ok a ∧
      ((a.1.map IPConfig.fields).Perm
          ((convertResultsToIPConfigsAndAllRoutes results).1.map IPConfig.fields) ↔
        ∀ r ∈ results, r.ip.mac = "" ∧ r.ip.vlan = (firstOf results r).ip.vlan) := by
  obtain ⟨a, ha, hconfigs, -⟩ := convert_details (c := c) (g := g) h o
  have hmap := hconfigs.map IPConfig.fields
  rw [List.map_map] at hmap
  refine ⟨a, ha, ?_⟩
  rw [convertResultsToIPConfigsAndAllRoutes, List.map_map]
  constructor
  · -- what comes back for `r` is what was said for a result of its interface and version
    intro hperm r hr
    have hmem := (hmap.symm.trans hperm).mem_iff.1 (List.mem_map_of_mem hr)
    obtain ⟨r', hr', heq⟩ := List.mem_map.1 hmem
    simp only [Function.comp_apply, IPConfig.fields, retrievedConfig, Prod.mk.injEq] at heq
    obtain ⟨hnic, hversion, -, -, -, hvlan, hmac⟩ := heq
    obtain rfl := h.eq hr' hr hnic hversion
    exact ⟨hmac, hvlan⟩
  · intro hkept
    refine hmap.trans (.of_eq (List.map_congr_left fun r hr => ?_))
    simp [IPConfig.fields, retrievedConfig, hkept r hr]

namespace Sample

def result (version : IPVersion) (address gateway mac : String) (cleanGateway : Bool) :
    AllocationResult where
  ip := {
    address := address
    gateway := gateway
    ipPool := "p"
    nic := "eth0"
    version := version
    mac := mac
    enableGatewayDetection := false
    enableIPConflictDetection := false }
  cleanGateway := cleanGateway

theorem onePerVersion_dual (a a' g g' m m' : String) (c c' : Bool) :
    OnePerVersion [result Constant.ipv4 a g m c, result Constant.ipv6 a' g' m' c'] where
  version := by simp [result]
  unique := by simp [result, Constant.ipv4, Constant.ipv6]

def dualStack : List AllocationResult :=
  [result Constant.ipv4 "10.0.0.7/24" "10.0.0.1" "" false,
    result Constant.ipv6 "fd00::7/64" "fd00::1" "" false]

theorem dualStack_configs : ∃ a, convertIPDetailsToIPConfigsAndAllRoutes false false
      (convertResultsToIPDetails (.stored _ _) dualStack false) = .ok a ∧
    (a.1.map IPConfig.fields).Perm
      ((convertResultsToIPConfigsAndAllRoutes dualStack).1.map IPConfig.fields) := by
  have hone : OnePerVersion dualStack := onePerVersion_dual ..
  obtain ⟨a, ha, hiff⟩ := retrieved_configs_iff hone (.stored _ _) false false
  exact ⟨a, ha, hiff.2 (by simp [dualStack, firstOf, result])⟩

def withMAC : List AllocationResult :=
  [result Constant.ipv4 "10.0.0.7/24" "10.0.0.1" "fa:16:3e:00:00:07" false]

/-- The MAC is recorded in the endpoint, but a repeated ADD answers without it. -/
theorem mac_not_retrieved : OnePerVersion withMAC ∧
    ∃ a, convertIPDetailsToIPConfigsAndAllRoutes false false
        (convertResultsToIPDetails (.stored _ _) withMAC false) = .ok a ∧
      ¬(a.1.map IPConfig.fields).Perm
        ((convertResultsToIPConfigsAndAllRoutes withMAC).1.map IPConfig.fields) :=
  ⟨⟨by decide, by decide⟩,
    ([(result Constant.ipv4 "10.0.0.7/24" "10.0.0.1" "" false).ip],
      [some ⟨"eth0", "0.0.0.0/0", "10.0.0.1"⟩]), by decide,
    by simp [convertResultsToIPConfigsAndAllRoutes, withMAC, result, IPConfig.fields]⟩

end Sample

/-! ### The routes -/

/-- Every route of a result is for the interface of the result. -/
def RoutesNamed (results : List AllocationResult) : Prop :=
  ∀ r ∈ results, ∀ route ∈ r.routes, route.ifName = r.ip.nic

def GatewaysTyped (results : List AllocationResult) : Prop :=
  ∀ r ∈ results, r.ip.gateway ≠ "" →
    (r.ip.version = Constant.ipv4 → isIPv4 r.ip.gateway = true ∧ isIPv6 r.ip.gateway = false) ∧
    (r.ip.version = Constant.ipv6 → isIPv6 r.ip.gateway = true)

/-- Every result with a gateway has the clean flag that is kept for its interface. -/
def CleanKept (results : List AllocationResult) : Prop :=
  ∀ r ∈ results, r.ip.gateway ≠ "" → (r.cleanGateway = true ↔ KeptClean results r)

def AllocationResult.defaultRoutes : AllocationResult → List (Option OAIRoute) :=
  defaultIf fun r => r.cleanGateway = false

theorem AllocationResult.allRoutes_eq (r : AllocationResult) :
    r.allRoutes = r.routes.map some ++ r.defaultRoutes := by
  rw [AllocationResult.allRoutes, AllocationResult.defaultRoutes, defaultIf]
  cases r.cleanGateway <;> simp

section

variable {r : AllocationResult}

theorem retrievedOwn_eq (h : ∀ route ∈ r.routes, route.ifName = r.ip.nic) :
    retrievedOwn r = r.routes.map some := by
  rw [retrievedOwn, convertSpecRoutesToOAIRoutes, convertOAIRoutesToSpecRoutes, List.map_map,
    List.map_map]
  refine List.map_congr_left fun route hroute => ?_
  simp [← h route hroute]

theorem allRoutes_perm_iff (h : RoutesNamed results) :
    (results.flatMap (retrievedRoutes results)).Perm (results.flatMap AllocationResult.allRoutes) ↔
      (results.flatMap (retrievedDefault results)).Perm
        (results.flatMap AllocationResult.defaultRoutes) := by
  have hsplit : (results.flatMap AllocationResult.allRoutes).Perm
      (results.flatMap AllocationResult.defaultRoutes ++ results.flatMap retrievedOwn) := by
    refine .trans ?_ (List.flatMap_append_perm _ _ _).symm
    refine List.Perm.flatMap_left _ fun r hr => ?_
    rw [r.allRoutes_eq, retrievedOwn_eq (h r hr)]
    exact List.perm_append_comm
  have hsplit' : (results.flatMap (retrievedRoutes results)).Perm
      (results.flatMap (retrievedDefault results) ++ results.flatMap retrievedOwn) :=
    (List.flatMap_append_perm _ _ _).symm
  rw [hsplit.congr_right, hsplit'.congr_left, List.perm_append_right_iff]

theorem retrievedDefault_eq (h : CleanKept results) (hr : r ∈ results) :
    retrievedDefault results r = r.defaultRoutes := by
  rw [retrievedDefault, AllocationResult.defaultRoutes, defaultIf, defaultIf]
  by_cases hgw : r.ip.gateway = ""
  · simp [hgw]
  · simp [hgw, ← h r hr hgw]

theorem genDefaultRoute_typed (h : OnePerVersion results) (ht : GatewaysTyped results)
    (hr : r ∈ results) (hgw : r.ip.gateway ≠ "") :
    genDefaultRoute r.ip.nic r.ip.gateway =
      some ⟨r.ip.nic, if r.ip.version = Constant.ipv4 then "0.0.0.0/0" else "::/0",
        r.ip.gateway⟩ := by
  obtain ⟨h4, h6⟩ := ht r hr hgw
  rw [genDefaultRoute]
  rcases h.version r hr with hv | hv
  · simp [hv, h4 hv]
  · simp [hv, h6 hv, Constant.ipv4, Constant.ipv6]

theorem eq_of_genDefaultRoute (h : OnePerVersion results) (ht : GatewaysTyped results)
    {r' : AllocationResult} (hr : r ∈ results) (hr' : r' ∈ results) (hgw : r.ip.gateway ≠ "")
    (hgw' : r'.ip.gateway ≠ "")
    (heq : genDefaultRoute r.ip.nic r.ip.gateway = genDefaultRoute r'.ip.nic r'.ip.gateway) :
    r = r' := by
  rw [genDefaultRoute_typed h ht hr hgw, genDefaultRoute_typed h ht hr' hgw'] at heq
  simp only [Option.some.injEq, OAIRoute.mk.injEq] at heq
  refine h.eq hr hr' heq.1 ?_
  have hdst := heq.2.1
  rcases h.version r hr with hv | hv <;> rcases h.version r' hr' with hv' | hv' <;>
    rw [hv, hv'] at hdst ⊢ <;> simp [Constant.ipv4, Constant.ipv6] at hdst

theorem mem_flatMap_defaultIf (h : OnePerVersion results) (ht : GatewaysTyped results)
    {cond : AllocationResult → Prop} [DecidablePred cond] (hr : r ∈ results)
    (hgw : r.ip.gateway ≠ "") :
    genDefaultRoute r.ip.nic r.ip.gateway ∈ results.flatMap (defaultIf cond) ↔ cond r := by
  refine ⟨fun hmem => ?_, fun hcond => List.mem_flatMap.2 ⟨r, hr, by simp [defaultIf, hgw, hcond]⟩⟩
  obtain ⟨r', hr', hroute⟩ := List.mem_flatMap.1 hmem
  rw [defaultIf] at hroute
  split_ifs at hroute with hdefault
  · obtain rfl := eq_of_genDefaultRoute h ht hr hr' hgw hdefault.1 (List.mem_singleton.1 hroute)
    exact hdefault.2
  · simp at hroute

end

/-- A repeated ADD answers with the routes of the first one, a default route for each result
that has a gateway and does not ask for it to be cleaned, if the clean flag of each result is
the one that is kept for its interface; and, gateways being addresses of their version, only
then. -/
theorem retrieved_routes_perm (h : OnePerVersion results)
    (o : RangeOrder String IPAllocationDetail) (c g : Bool) :
    ∃ a, convertIPDetailsToIPConfigsAndAllRoutes c g (convertResultsToIPDetails o results false) =
        .ok a ∧
      (RoutesNamed results → CleanKept results →
        a.2.Perm (convertResultsToIPConfigsAndAllRoutes results).2 ∧
        a.2.Perm (results.flatMap fun r => r.routes.map some ++
          if r.ip.gateway ≠ "" ∧ r.cleanGateway = false then
            [genDefaultRoute r.ip.nic r.ip.gateway] else [])) ∧
      (RoutesNamed results → GatewaysTyped results →
        a.2.Perm (convertResultsToIPConfigsAndAllRoutes results).2 → CleanKept results) := by
  obtain ⟨a, ha, -, hroutes⟩ := convert_details (c := c) (g := g) h o
  refine ⟨a, ha, fun hnamed hkept => ?_, fun hnamed ht hperm => ?_⟩
  · have hfirst : a.2.Perm (results.flatMap AllocationResult.allRoutes) := by
      refine hroutes.trans ((allRoutes_perm_iff hnamed).2 (.of_eq ?_))
      exact List.flatMap_congr fun r hr => retrievedDefault_eq hkept hr
    refine ⟨hfirst, hfirst.trans (.of_eq (List.flatMap_congr fun r _ => ?_))⟩
    rw [r.allRoutes_eq]
    rfl
  · have hdefaults := (allRoutes_perm_iff hnamed).1 (hroutes.symm.trans hperm)
    intro r hr hgw
    have hiff := hdefaults.mem_iff (a := genDefaultRoute r.ip.nic r.ip.gateway)
    rw [retrievedDefault, AllocationResult.defaultRoutes, mem_flatMap_defaultIf h ht hr hgw,
      mem_flatMap_defaultIf h ht hr hgw] at hiff
    rw [← not_iff_not, hiff, Bool.not_eq_true]

namespace Sample

theorem dualStack_routes : ∃ a, convertIPDetailsToIPConfigsAndAllRoutes false false
      (convertResultsToIPDetails (.stored _ _) dualStack false) = .ok a ∧
    a.2.Perm (convertResultsToIPConfigsAndAllRoutes dualStack).2 := by
  have hone : OnePerVersion dualStack := onePerVersion_dual ..
  obtain ⟨a, ha, hperm, -⟩ := retrieved_routes_perm hone (.stored _ _) false false
  exact ⟨a, ha, (hperm (by simp [RoutesNamed, dualStack, result])
    (by simp [CleanKept, KeptClean, dualStack, firstOf, result])).1⟩

def cleaned : List AllocationResult :=
  [result Constant.ipv4 "10.0.0.7/24" "" "" true,
    result Constant.ipv6 "fd00::7/64" "fd00::1" "" true]

/-- The request to clean the gateway is forgotten: the repeated ADD answers with the default
route that the first one left out. -/
theorem cleaned_gateway_returns : OnePerVersion cleaned ∧
    (convertResultsToIPConfigsAndAllRoutes cleaned).2 = [] ∧
    ∃ a, convertIPDetailsToIPConfigsAndAllRoutes false false
        (convertResultsToIPDetails (.stored _ _) cleaned false) = .ok a ∧
      a.2 = [some ⟨"eth0", "::/0", "fd00::1"⟩] :=
  ⟨onePerVersion_dual .., rfl, _, rfl, by decide⟩

end Sample

end

end Spiderpool
