/-
# Allocate

`Allocate` of `pkg/ipam/allocate.go`, for a Pod that is alive and whose top controller is
known. The Pod is answered from its endpoint, or addresses are allocated in standard mode and
patched to the endpoint (`untilPatch_ok`); an endpoint of another UID is given up before that.

What standard mode does before it patches the endpoint (selecting candidates, allocating from
them, grouping custom routes) changes no endpoint; it is a parameter here.
-/

import Spiderpool.IPAM.Outdated

namespace Spiderpool

def onlyPools {α : Type} (f : GoMap String IPPool → Result Err α × GoMap String IPPool) : Api α :=
  fun s => ((f s.pools).1, { s with pools := (f s.pools).2 })

namespace IPAM

open EndpointManager

def endpointName (cfg : Config) (pod : Pod) (pc : PodTopController) : String :=
  if cfg.isKubevirt pc then pc.name else pod.name

def retrieveExistingIPAllocation (cfg : Config) (env : Env) (uid nic : String)
    (endpoint : Option SpiderEndpoint) (isMultipleNicWithNoName : Bool) :
    Api (Option IpamAddResponse) :=
  match endpoint with
  | none => pure none
  | some endpoint =>
    if endpoint.uid ≠ uid then do
      let _ ← deleteOutdated env.now endpoint
      return none
    else
      match retrieveIPAllocation uid nic (some endpoint) false with
      | none => pure none
      | some allocation => do
        let allocation ← (
          if isMultipleNicWithNoName then
            Eff.mapErr (.wrap ("failed to update SpiderEndpoint allocation details NIC name " ++ nic ++
              ", error: ") · "") (updateAllocationNICName endpoint nic)
          else pure allocation)
        let (ips, routes) ← Eff.lift (convertIPDetailsToIPConfigsAndAllRoutes
          cfg.enableIPConflictDetection cfg.enableGatewayDetection allocation.ips)
        return some ⟨ips, routes⟩

/-- The part of `Allocate` that releases outdated addresses, for Pods of StatefulSets only.
It tells whether it has, and the endpoint as it then is. -/
def releaseOutdated (cfg : Config) (env : Env) (candidates : Result Err (List ToBeAllocated))
    (ifName : String) (pod : Pod) (pc : PodTopController) (endpoint : Option SpiderEndpoint) :
    Api (Bool × Option SpiderEndpoint) :=
  match endpoint with
  | none => pure (false, none)
  | some e =>
    if cfg.isStatefulSet pc then do
      let (released, e) ← releaseStsOutdatedIPIfNeed env candidates ifName e
        (isMultipleNicWithNoName pod.annotations)
      return (released, some e)
    else pure (false, some e)

/-- The part of `Allocate` that looks for an allocation there is. -/
def retrieve (cfg : Config) (env : Env) (ifName : String) (pod : Pod) (pc : PodTopController)
    (endpoint : Option SpiderEndpoint) (released : Bool) : Api (Option IpamAddResponse) :=
  let retrieveStatic := Eff.mapErr (.wrap ("failed to retrieve the IP allocation of " ++ pc.kind ++
    "/" ++ pc.ns ++ "/" ++ pc.name ++ ": ") · "")
    (retrieveStaticIPAllocation cfg env ifName pod endpoint)
  if cfg.isStatefulSet pc then
    if released then pure none else retrieveStatic
  else if cfg.isKubevirt pc then retrieveStatic
  else Eff.mapErr (.wrap "failed to retrieve the existing IP allocation: " · "")
    (retrieveExistingIPAllocation cfg env pod.uid ifName endpoint
      (isMultipleNicWithNoName pod.annotations))

/-- `Allocate` up to `PatchIPAllocationResults`: the answer from the endpoint, or what
`PatchIPAllocationResults` is called with. -/
def allocateUntilPatch (cfg : Config) (env : Env) (candidates : Result Err (List ToBeAllocated))
    (allocateIPs : GoMap String IPPool → Result Err (List AllocationResult) × GoMap String IPPool)
    (ifName : String) (pod : Pod) (pc : PodTopController) :
    Api (IpamAddResponse ⊕ List AllocationResult × Option SpiderEndpoint) := do
  let endpoint ← getEndpointByName pod.ns (endpointName cfg pod pc)
  let (released, endpoint) ← releaseOutdated cfg env candidates ifName pod pc endpoint
  let resp ← retrieve cfg env ifName pod pc endpoint released
  match resp with
  | some resp => return .inl resp
  | none => do
    let results ← Eff.mapErr (.wrap "failed to allocate IP addresses in standard mode: " · "")
      (onlyPools allocateIPs)
    return .inr (results, endpoint.filter fun e => e.uid = pod.uid)

/-- The new names of unnamed interfaces in the answer of standard mode. -/
def renameResult (r : AllocationResult) : AllocationResult :=
  if r.ip.nic = itoa 0 then
    { r with
      ip := { r.ip with nic := Constant.clusterDefaultInterfaceName }
      routes := r.routes.map fun route =>
        { route with ifName := Constant.clusterDefaultInterfaceName } }
  else r

def standardResponse (results : List AllocationResult) (isMultipleNicWithNoName : Bool) :
    IpamAddResponse :=
  let results :=
    if isMultipleNicWithNoName then
      (sortSlice (fun r r' => nicLess r.ip.nic r'.ip.nic) results).map renameResult
    else results
  let (ips, routes) := convertResultsToIPConfigsAndAllRoutes results
  ⟨ips, routes⟩

def allocate (cfg : Config) (env : Env) (candidates : Result Err (List ToBeAllocated))
    (allocateIPs : GoMap String IPPool → Result Err (List AllocationResult) × GoMap String IPPool)
    (ifName : String) (pod : Pod) (pc : PodTopController) : Api IpamAddResponse := do
  match ← allocateUntilPatch cfg env candidates allocateIPs ifName pod pc with
  | .inl resp => return resp
  | .inr (results, endpoint) => do
    Eff.mapErr (.wrap ("failed to allocate IP addresses in standard mode: " ++
      "failed to patch IP allocation results to Endpoint: ") · "")
      (patchIPAllocationResults cfg.toConfig env.detailOrder results endpoint pod pc
        (isMultipleNicWithNoName pod.annotations))
    return standardResponse results (isMultipleNicWithNoName pod.annotations)

section

variable {s s' : ApiServer} {e : SpiderEndpoint}

theorem retrieveStatic_none {cfg : Config} {env : Env} {nic : String} {pod : Pod}
    {endpoint : Option SpiderEndpoint}
    (h : retrieveStaticIPAllocation cfg env nic pod endpoint s = (.ok none, s')) : s' = s := by
  rw [retrieveStaticIPAllocation] at h
  cases hretrieve : retrieveIPAllocation pod.uid nic endpoint true with
  | none =>
    rw [hretrieve] at h
    exact (Eff.pure_eq_ok.1 h).2.symm
  | some e =>
    rw [hretrieve] at h
    obtain ⟨_, _, -, h⟩ := Eff.bind_eq_ok.1 h
    obtain ⟨_, _, -, h⟩ := Eff.bind_eq_ok.1 h
    obtain ⟨_, _, -, h⟩ := Eff.bind_eq_ok.1 h
    obtain ⟨_, _, -, h⟩ := Eff.bind_eq_ok.1 h
    exact absurd (Eff.pure_eq_ok.1 h).1 (by simp)

theorem retrieveExisting_none {cfg : Config} {env : Env} {uid nic : String} {multiple : Bool}
    (h : retrieveExistingIPAllocation cfg env uid nic (some e) multiple s = (.ok none, s')) :
    if e.uid = uid then s' = s else ∃ e', deleteOutdated env.now e s = (.ok e', s') := by
  change (if e.uid ≠ uid then _ else _ : Api (Option IpamAddResponse)) s = _ at h
  by_cases huid : e.uid = uid
  · rw [if_pos huid]
    rw [if_neg (not_not.2 huid)] at h
    cases hretrieve : retrieveIPAllocation uid nic (some e) false with
    | none =>
      rw [hretrieve] at h
      exact (Eff.pure_eq_ok.1 h).2.symm
    | some e' =>
      rw [hretrieve] at h
      obtain ⟨_, _, -, h⟩ := Eff.bind_eq_ok.1 h
      obtain ⟨_, _, -, h⟩ := Eff.bind_eq_ok.1 h
      exact absurd (Eff.pure_eq_ok.1 h).1 (by simp)
  · rw [if_neg huid]
    rw [if_pos huid] at h
    obtain ⟨e', s₁, hdelete, h⟩ := Eff.bind_eq_ok.1 h
    obtain ⟨-, rfl⟩ := Eff.pure_eq_ok.1 h
    exact ⟨e', hdelete⟩

variable {cfg : Config} {env : Env} {candidates : Result Err (List ToBeAllocated)}
  {allocateIPs : GoMap String IPPool → Result Err (List AllocationResult) × GoMap String IPPool}
  {ifName : String} {pod : Pod} {pc : PodTopController} {results : List AllocationResult}
  {endpoint : Option SpiderEndpoint} {released : Bool}

theorem untilPatch_ok
    (h : allocateUntilPatch cfg env candidates allocateIPs ifName pod pc s =
      (.ok (.inr (results, endpoint)), s')) :
    ∃ released endpoint' s₁ s₂,
      releaseOutdated cfg env candidates ifName pod pc
        (s.endpoints.lookup (pod.ns, endpointName cfg pod pc)) s = (.ok (released, endpoint'), s₁) ∧
      retrieve cfg env ifName pod pc endpoint' released s₁ = (.ok none, s₂) ∧
      endpoint = endpoint'.filter (fun e => e.uid = pod.uid) ∧ s'.endpoints = s₂.endpoints := by
  obtain ⟨endpoint₀, s₀, hget, h⟩ := Eff.bind_eq_ok.1 h
  obtain ⟨hlookup, rfl⟩ := Prod.mk.inj hget
  obtain rfl := Except.ok.inj hlookup
  obtain ⟨⟨released, endpoint'⟩, s₁, hrelease, h⟩ := Eff.bind_eq_ok.1 h
  obtain ⟨resp, s₂, hretrieve, h⟩ := Eff.bind_eq_ok.1 h
  cases resp with
  | some resp => exact absurd (Eff.pure_eq_ok.1 h).1 (by simp)
  | none =>
    obtain ⟨results', s₃, hpools, h⟩ := Eff.bind_eq_ok.1 h
    obtain ⟨hpatch, rfl⟩ := Eff.pure_eq_ok.1 h
    obtain ⟨-, rfl⟩ := Prod.mk.inj (Eff.mapErr_eq_ok.1 hpools)
    exact ⟨released, endpoint', s₁, s₂, hrelease, hretrieve,
      (Prod.mk.inj (Sum.inr.inj hpatch)).2.symm, rfl⟩

theorem retrieve_stateful (hpc : cfg.isStatefulSet pc = true ∨ cfg.isKubevirt pc = true)
    (h : retrieve cfg env ifName pod pc endpoint released s = (.ok none, s')) : s' = s := by
  unfold retrieve at h
  split_ifs at h with hsts hreleased hkubevirt
  · exact (Eff.pure_eq_ok.1 h).2.symm
  · exact retrieveStatic_none (Eff.mapErr_eq_ok.1 h)
  · exact retrieveStatic_none (Eff.mapErr_eq_ok.1 h)
  · exact absurd hpc (by simp [hsts, hkubevirt])

end

end IPAM
end Spiderpool
