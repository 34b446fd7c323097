/-
# What standard mode remembers of an attempt that fails

`allocateInStandardMode` of `pkg/ipam/allocate.go` with its exits. A deferred function caches the
results under the UID of the Pod (`failureCache` of `pkg/ipam/ipam.go`) if the variable `err` is set
when the function returns, and takes them out of the cache if it is not. Every step that may fail
after the addresses are allocated sets that variable, apart from the call of the provider, whose
error is a variable of its own (`keeps_results_iff`).
-/

import Spiderpool.IPAM.CustomRoutes

namespace Spiderpool
namespace IPAM

/-- `failureCache`: the results of failed attempts, by the UIDs of their Pods. -/
abbrev FailureCache := GoMap String (List AllocationResult)

def FailureCache.addFailureIPs (c : FailureCache) (uid : String) (results : List AllocationResult) :
    FailureCache := c.insert uid results

def FailureCache.getFailureIPs (c : FailureCache) (uid : String) : List AllocationResult :=
  (c.lookup uid).getD []

def FailureCache.rmFailureIPs (c : FailureCache) (uid : String) : FailureCache :=
  if c.getFailureIPs uid = [] then c else c.erase uid

/-- What `callIaaSAllocate` does: the MACs and VLANs that the results have then, and its error. -/
structure IaaSReply where
  mac : AllocationResult → String := (·.ip.mac)
  vlan : AllocationResult → ℤ := (·.ip.vlan)
  err : Option Err := none

def IaaSReply.merge (reply : IaaSReply) (r : AllocationResult) : AllocationResult :=
  { r with ip := { r.ip with mac := reply.mac r, vlan := reply.vlan r } }

/-- What the steps of one call of `allocateInStandardMode` do. Those that return nothing but an
error are given by it. -/
structure StandardSteps where
  genToBeAllocatedSet : Result Err (List ToBeAllocated)
  /-- `allocateIPsFromAllCandidates`, with what is cached: the results, and an error beside them. -/
  allocateIPsFromAllCandidates :
    List AllocationResult → List ToBeAllocated → List AllocationResult × Option Err
  /-- `callIaaSAllocate`, if there is a client. -/
  callIaaSAllocate : Option (List AllocationResult → IaaSReply) := none
  patchIPAllocationResults : List AllocationResult → Option Err := fun _ => none
  marshalBinary : IpamAddResponse → Option Err := fun _ => none

/-- What is returned, and the variables `results` and `err` that the deferred function looks at. -/
structure Exit where
  returned : Result Err IpamAddResponse
  results : List AllocationResult
  err : Option Err

/-- `allocateInStandardMode` from where the custom routes are grouped. -/
def StandardSteps.exitFromGroup (steps : StandardSteps) (customRoutes : List OAIRoute)
    (isMultipleNicWithNoName : Bool) (results : List AllocationResult) : Exit :=
  let grouped := groupInPlace customRoutes results
  match grouped.err with
  | some err => ⟨fail (.wrap "failed to group custom routes: " err ""), grouped.results, some err⟩
  | none =>
    match steps.patchIPAllocationResults grouped.results with
    | some err =>
      ⟨fail (.wrap "failed to patch IP allocation results to Endpoint: " err ""), grouped.results,
        some err⟩
    | none =>
      let addResp := standardResponse grouped.results isMultipleNicWithNoName
      -- the error of `MarshalBinary` decides what is logged, but it is in `err`
      ⟨.ok addResp, grouped.results, steps.marshalBinary addResp⟩

/-- `allocateInStandardMode` from where the addresses are allocated. -/
def StandardSteps.exit (steps : StandardSteps) (customRoutes : List OAIRoute)
    (isMultipleNicWithNoName : Bool) : List AllocationResult × Option Err → Exit
  | (results, some err) => ⟨fail err, results, some err⟩
  | (results, none) =>
    match steps.callIaaSAllocate with
    | none => steps.exitFromGroup customRoutes isMultipleNicWithNoName results
    | some call =>
      let reply := call results
      let results := results.map reply.merge
      match reply.err with
      -- `iaasErr` is returned, and `err` is still nil
      | some iaasErr => ⟨fail (.wrap "IaaS IP allocate failed: " iaasErr ""), results, none⟩
      | none => steps.exitFromGroup customRoutes isMultipleNicWithNoName results

def Exit.deferred (exit : Exit) (uid : String) (isMultipleNicWithNoName : Bool)
    (failure : FailureCache) : FailureCache :=
  if exit.err.isSome ∧ ¬isMultipleNicWithNoName then
    if exit.results ≠ [] then failure.addFailureIPs uid exit.results else failure
  else failure.rmFailureIPs uid

/-- `allocateInStandardMode`, and the cache afterwards. -/
def StandardSteps.allocateInStandardMode (steps : StandardSteps) (pod : Pod)
    (failure : FailureCache) : Result Err IpamAddResponse × FailureCache :=
  match getCustomRoutes pod.annotations with
  | .error fault => (.error fault, failure)
  | .ok customRoutes =>
    match steps.genToBeAllocatedSet with
    | .error fault => (.error fault, failure)
    | .ok toBeAllocatedSet =>
      let multiple := isMultipleNicWithNoName pod.annotations
      let allocated :=
        steps.allocateIPsFromAllCandidates (failure.getFailureIPs pod.uid) toBeAllocatedSet
      let exit := steps.exit customRoutes multiple allocated
      (exit.returned, exit.deferred pod.uid multiple failure)

/-! ### The cache -/

section

variable {c : FailureCache} {uid : String} {results : List AllocationResult}

@[simp] theorem FailureCache.getFailureIPs_add :
    (c.addFailureIPs uid results).getFailureIPs uid = results := by
  rw [getFailureIPs, addFailureIPs, AList.lookup_insert]
  rfl

@[simp] theorem FailureCache.getFailureIPs_rm : (c.rmFailureIPs uid).getFailureIPs uid = [] := by
  unfold rmFailureIPs
  split_ifs with hnil
  · exact hnil
  · rw [getFailureIPs, AList.lookup_erase]
    rfl

def identity (r : AllocationResult) : String × String × String :=
  (r.ip.ipPool, r.ip.nic, r.ip.address)

theorem exists_reuse {order : RangeOrder String IPPool} {candidate : Candidate} {pool : String}
    {p : IPPool} {r : AllocationResult} (hr : r ∈ results) (hnic : r.ip.nic = candidate.nic)
    (hp : candidate.pToIPPool.lookup pool = some p) (hpool : r.ip.ipPool = p.name) :
    ∃ r', Task.start order results candidate = .finished (.ok r') ∧
      identity r' ∈ results.map identity := by
  unfold Task.start
  cases hreuse : reuseFailed order results candidate with
  | none =>
    have hnone := List.findSome?_eq_none_iff.1 hreuse r hr
    rw [Option.map_eq_none_iff, List.find?_eq_none] at hnone
    exact absurd (decide_eq_true ⟨hpool, hnic⟩) (hnone ⟨pool, p⟩ (order.mem_visit.2 hp))
  | some r' =>
    obtain ⟨old, hold, hmap⟩ := List.exists_of_findSome?_eq_some hreuse
    obtain ⟨e, -, rfl⟩ := Option.map_eq_some_iff.1 hmap
    exact ⟨_, rfl, List.mem_map.2 ⟨old, hold, rfl⟩⟩

end

/-! ### The exits -/

section

variable {steps : StandardSteps} {customRoutes : List OAIRoute} {multiple : Bool}
  {results : List AllocationResult} {err : Option Err} {pod : Pod} {failure : FailureCache}

/-- The provider refuses what all candidates together have given. -/
def StandardSteps.Refused (steps : StandardSteps) (allocated : List AllocationResult × Option Err) :
    Prop :=
  allocated.2 = none ∧ ∃ call ∈ steps.callIaaSAllocate, (call allocated.1).err ≠ none

/-- The exits of `allocateInStandardMode` once addresses are allocated. -/
inductive Exits (steps : StandardSteps) (allocated : List AllocationResult × Option Err) :
    Exit → Prop
  | refused {e : Err} {results : List AllocationResult} (h : steps.Refused allocated) :
      Exits steps allocated ⟨fail e, results, none⟩
  | failed {e err : Err} {results : List AllocationResult} (h : ¬steps.Refused allocated)
      (hresults : results.map identity = allocated.1.map identity) :
      Exits steps allocated ⟨fail e, results, some err⟩
  | answered {resp : IpamAddResponse} {results : List AllocationResult}
      (h : ¬steps.Refused allocated) (hall : allocated.2 = none) :
      Exits steps allocated ⟨.ok resp, results, steps.marshalBinary resp⟩

theorem groupInPlace_identity :
    (groupInPlace customRoutes results).results.map identity = results.map identity := by
  have hloop : ∀ (customRoutes : List OAIRoute) (results : List AllocationResult),
      (groupLoop customRoutes results).results.map identity = results.map identity := by
    intro customRoutes results
    induction results generalizing customRoutes with
    | nil => rfl
    | cons res results ih =>
      cases hparse : netParseCIDR res.ip.address with
      | none => rw [groupLoop, hparse]
      | some parsed =>
        rw [groupLoop_cons hparse]
        exact congrArg (identity res :: ·) (ih _)
  unfold groupInPlace
  split_ifs
  · rfl
  · exact hloop customRoutes results

theorem exits_fromGroup {allocated : List AllocationResult × Option Err}
    (h : ¬steps.Refused allocated) (hall : allocated.2 = none)
    (hresults : results.map identity = allocated.1.map identity) :
    Exits steps allocated (steps.exitFromGroup customRoutes multiple results) := by
  unfold StandardSteps.exitFromGroup
  dsimp only
  cases (groupInPlace customRoutes results).err with
  | some e => exact .failed h (groupInPlace_identity.trans hresults)
  | none =>
    cases steps.patchIPAllocationResults (groupInPlace customRoutes results).results with
    | some e => exact .failed h (groupInPlace_identity.trans hresults)
    | none => exact .answered h hall

theorem exits_exit (allocated : List AllocationResult × Option Err) :
    Exits steps allocated (steps.exit customRoutes multiple allocated) := by
  obtain ⟨results, _ | e⟩ := allocated
  · unfold StandardSteps.exit
    cases hclient : steps.callIaaSAllocate with
    | none =>
      have hrefused : ¬steps.Refused (results, none) := by
        rintro ⟨-, call, hcall, -⟩
        rw [hclient] at hcall
        cases hcall
      exact exits_fromGroup hrefused rfl rfl
    | some call =>
      dsimp only
      cases hreply : (call results).err with
      | some e => exact .refused ⟨rfl, call, hclient, by simp [hreply]⟩
      | none =>
        have hrefused : ¬steps.Refused (results, none) := by
          rintro ⟨-, call', hcall, hne⟩
          obtain rfl := Option.some.inj (hclient.symm.trans hcall)
          exact hne hreply
        exact exits_fromGroup hrefused rfl (by simp [identity, IaaSReply.merge])
  · exact .failed (fun h => nomatch h.1) rfl

/-- What `allocateIPsFromAllCandidates` returns in the call. -/
def StandardSteps.allocated (steps : StandardSteps) (pod : Pod) (failure : FailureCache)
    (toBeAllocatedSet : List ToBeAllocated) : List AllocationResult × Option Err :=
  steps.allocateIPsFromAllCandidates (failure.getFailureIPs pod.uid) toBeAllocatedSet

def StandardSteps.cached (steps : StandardSteps) (pod : Pod) (failure : FailureCache) :
    List AllocationResult :=
  (steps.allocateInStandardMode pod failure).2.getFailureIPs pod.uid

/-- After an error, exactly the results that have been allocated are cached, and the next attempt
takes them over; after a success nothing is cached. -/
structure KeepsResults (steps : StandardSteps) (pod : Pod) (failure : FailureCache) : Prop where
  failed : ∀ e customRoutes tt, (steps.allocateInStandardMode pod failure).1 = fail e →
    getCustomRoutes pod.annotations = .ok customRoutes → steps.genToBeAllocatedSet = .ok tt →
    (steps.allocated pod failure tt).1 ≠ [] →
    (steps.cached pod failure).map identity = (steps.allocated pod failure tt).1.map identity ∧
    ∀ order (candidate : Candidate) pool p, ∀ r ∈ (steps.allocated pod failure tt).1,
      r.ip.nic = candidate.nic → candidate.pToIPPool.lookup pool = some p → r.ip.ipPool = p.name →
      ∃ r', Task.start order (steps.cached pod failure) candidate = .finished (.ok r') ∧
        identity r' ∈ (steps.allocated pod failure tt).1.map identity
  answered : ∀ resp, (steps.allocateInStandardMode pod failure).1 = .ok resp →
    steps.cached pod failure = []

theorem allocateInStandardMode_eq (failure : FailureCache) {tt : List ToBeAllocated}
    (hroutes : getCustomRoutes pod.annotations = .ok customRoutes)
    (hgen : steps.genToBeAllocatedSet = .ok tt) :
    ∃ exit, Exits steps (steps.allocated pod failure tt) exit ∧
      steps.allocateInStandardMode pod failure = (exit.returned,
        exit.deferred pod.uid (isMultipleNicWithNoName pod.annotations) failure) := by
  refine ⟨steps.exit customRoutes (isMultipleNicWithNoName pod.annotations) _, exits_exit _, ?_⟩
  rw [StandardSteps.allocateInStandardMode, hroutes, hgen]
  rfl

theorem cached_ending {tt : List ToBeAllocated} (hmarshal : ∀ resp, steps.marshalBinary resp = none)
    (hroutes : getCustomRoutes pod.annotations = .ok customRoutes)
    (hgen : steps.genToBeAllocatedSet = .ok tt) :
    ∃ ending : Ending, (steps.cached pod failure).map identity =
        (ending.cache (isMultipleNicWithNoName pod.annotations) (steps.allocated pod failure tt).1
          (failure.getFailureIPs pod.uid)).map identity ∧
      ((steps.allocated pod failure tt).2 ≠ none → ending = .failed) := by
  obtain ⟨exit, hexit, heq⟩ := allocateInStandardMode_eq failure hroutes hgen
  rw [StandardSteps.cached, heq]
  cases hexit with
  | refused h =>
    exact ⟨.iaasFailed, by simp [Exit.deferred, Ending.cache], fun herr => absurd h.1 herr⟩
  | @failed e err results h hresults =>
    refine ⟨.failed, ?_, fun _ => rfl⟩
    have hnil : results = [] ↔ (steps.allocated pod failure tt).1 = [] := by
      rw [← List.map_eq_nil_iff (f := identity), hresults, List.map_eq_nil_iff]
    cases hmultiple : isMultipleNicWithNoName pod.annotations with
    | true => simp [Exit.deferred, Ending.cache]
    | false =>
      by_cases hresults' : results = []
      · simp [Exit.deferred, Ending.cache, hresults', hnil.1 hresults']
      · have hne := hnil.not.1 hresults'
        simp [Exit.deferred, Ending.cache, hresults', hne, hresults]
  | answered h hall =>
    exact ⟨.answered, by simp [Exit.deferred, Ending.cache, hmarshal], fun herr => absurd hall herr⟩

/-- **What standard mode remembers.**  In named mode, whenever `allocateInStandardMode` fails after an
address has been allocated exactly the results are cached, for the next attempt to take over, and
whenever it succeeds nothing is; if and only if it is not the provider that refuses the addresses. -/
theorem keeps_results_iff (steps : StandardSteps) (pod : Pod) (failure : FailureCache)
    (hnamed : isMultipleNicWithNoName pod.annotations = false)
    (hmarshal : ∀ resp, steps.marshalBinary resp = none) :
    KeepsResults steps pod failure ↔ ∀ customRoutes tt,
      getCustomRoutes pod.annotations = .ok customRoutes → steps.genToBeAllocatedSet = .ok tt →
      (steps.allocated pod failure tt).1 ≠ [] →
      ¬steps.Refused (steps.allocated pod failure tt) := by
  constructor
  · intro hkeeps customRoutes tt hroutes hgen hsome hrefused
    obtain ⟨exit, hexit, heq⟩ := allocateInStandardMode_eq failure hroutes hgen
    cases hexit with
    | refused h =>
      have hcached := (hkeeps.failed _ customRoutes tt (by rw [heq]) hroutes hgen hsome).1
      rw [StandardSteps.cached, heq] at hcached
      simp [Exit.deferred] at hcached
      exact hsome hcached
    | failed h => exact h hrefused
    | answered h => exact h hrefused
  · intro haccepted
    constructor
    · intro e customRoutes tt hfails hroutes hgen hsome
      have hidentity : (steps.cached pod failure).map identity =
          (steps.allocated pod failure tt).1.map identity := by
        obtain ⟨exit, hexit, heq⟩ := allocateInStandardMode_eq failure hroutes hgen
        rw [StandardSteps.cached, heq]
        rw [heq] at hfails
        cases hexit with
        | refused h => exact absurd h (haccepted customRoutes tt hroutes hgen hsome)
        | @failed _ _ results h hresults =>
          have hne : results ≠ [] := by
            rintro rfl
            exact hsome (List.map_eq_nil_iff.1 hresults.symm)
          simp [Exit.deferred, hnamed, hne, hresults]
        | answered => cases hfails
      refine ⟨hidentity, fun order candidate pool p r hr hnic hp hpool => ?_⟩
      -- the cache has a result with the same pool and interface
      obtain ⟨r', hr', heq⟩ := List.mem_map.1 (hidentity ▸ List.mem_map_of_mem hr)
      obtain ⟨hpool', hnic'⟩ := Prod.mk.inj heq
      obtain ⟨hnic', -⟩ := Prod.mk.inj hnic'
      rw [← hidentity]
      exact exists_reuse hr' (hnic'.trans hnic) hp (hpool'.trans hpool)
    · intro resp hok
      rw [StandardSteps.cached]
      cases hroutes : getCustomRoutes pod.annotations with
      | error fault =>
        rw [StandardSteps.allocateInStandardMode, hroutes] at hok
        cases hok
      | ok customRoutes =>
        cases hgen : steps.genToBeAllocatedSet with
        | error fault =>
          rw [StandardSteps.allocateInStandardMode, hroutes, hgen] at hok
          cases hok
        | ok tt =>
          obtain ⟨exit, hexit, heq⟩ := allocateInStandardMode_eq failure hroutes hgen
          rw [heq] at hok ⊢
          cases hexit with
          | refused | failed => cases hok
          | answered => simp [Exit.deferred, hmarshal]

end

end IPAM

namespace Sample

open IPAM

def patchFails : StandardSteps where
  genToBeAllocatedSet := .ok [request "eth0" openPool]
  allocateIPsFromAllCandidates _ _ := ([attemptResult], none)
  patchIPAllocationResults _ := some (.new "conflict")

/-- The result is cached. -/
theorem patch_failure_cached : ∃ e, (patchFails.allocateInStandardMode named ∅).1 = fail e ∧
    (patchFails.cached named ∅).map identity = [identity attemptResult] := by
  have hkeeps : KeepsResults patchFails named ∅ :=
    (keeps_results_iff patchFails named ∅ rfl fun _ => rfl).2 fun _ _ _ _ _ h => by
      obtain ⟨-, call, hcall, -⟩ := h
      cases hcall
  exact ⟨_, rfl, (hkeeps.failed _ [] _ rfl rfl rfl (List.cons_ne_nil _ _)).1⟩

def providerRefuses : StandardSteps where
  genToBeAllocatedSet := .ok [request "eth0" openPool]
  allocateIPsFromAllCandidates _ _ := ([attemptResult], none)
  callIaaSAllocate := some fun _ => { err := some (.new "quota exceeded") }

/-- Nothing is cached, and the next attempt allocates again. -/
theorem refused_forgotten : ∃ e, (providerRefuses.allocateInStandardMode named ∅).1 = fail e ∧
    (providerRefuses.allocated named ∅ [request "eth0" openPool]).1 = [attemptResult] ∧
    providerRefuses.cached named ∅ = [] ∧ ¬KeepsResults providerRefuses named ∅ ∧
    ∀ c ∈ allCandidates [request "eth0" openPool],
      Task.start (.stored _ _) (providerRefuses.cached named ∅) c = .trying c.pools [] := by
  refine ⟨_, rfl, rfl, rfl, fun hkeeps => ?_, fun c _ => rfl⟩
  have hcached := (hkeeps.failed _ [] _ rfl rfl rfl (List.cons_ne_nil _ _)).1
  exact absurd hcached (by decide)

end Sample

end Spiderpool
