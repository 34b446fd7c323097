/-
# Whether an interface is answered

`Allocate` of `pkg/ipam/allocate.go` for a Pod without an endpoint, from the selection of
candidates to the answer: standard mode allocates from all candidates, groups the custom routes of
the Pod to the results (`getCustomRoutes` and `groupCustomRoutes` of `pkg/ipam/utils.go`), and
answers all of them.
-/

import Spiderpool.IPAM.Allocate
import Spiderpool.IPAM.Closing
import Spiderpool.IPAM.FailureCache
import Spiderpool.IPAM.PoolSelection

namespace Spiderpool
namespace IPAM

open EndpointManager Versioned

/-! ### Custom routes -/

def isRouteWithoutIPVersion (dst gw : String) : Result Err Unit :=
  failIf (¬ ((isIPv4CIDR dst ∧ isIPv4 gw) ∨ (isIPv6CIDR dst ∧ isIPv6 gw)))
    (.new ("invalid route format 'dst: " ++ dst ++ ", gw: " ++ gw ++ "'"))

/-- `getCustomRoutes`. The routes have no interface yet. -/
def getCustomRoutes (anno : PodAnnotations) : Result Err (List OAIRoute) :=
  let invalid := invalidAnnoErr "ipam.spidernet.io/routes"
  match anno.routes with
  | none => .ok []
  | some (.malformed error) => fail (invalid (.new error))
  | some (.doc routes) => do
    let _ ← mapErr invalid (routes.mapM fun route => isRouteWithoutIPVersion route.dst route.gw)
    return routes.map fun route => ⟨"", route.dst, route.gw⟩

/-- The loop of `groupCustomRoutes`: each result takes the routes whose gateway is in its subnet,
and leaves the others to the results behind it. -/
def groupRoutes : List OAIRoute → List AllocationResult → Result Err (List AllocationResult)
  | _, [] => .ok []
  | customRoutes, res :: results =>
    match netParseCIDR res.ip.address with
    | none => fail (netParseError res.ip.address)
    | some (_, ipNet) => do
      let (own, others) := customRoutes.partition fun route =>
        (parseIP route.gw).any ipNet.contains
      let results ← groupRoutes others results
      let own := own.map fun route => { route with ifName := res.ip.nic }
      return { res with routes := res.routes ++ own } :: results

def groupCustomRoutes (customRoutes : List OAIRoute) (results : List AllocationResult) :
    Result Err (List AllocationResult) :=
  if customRoutes = [] then .ok results else groupRoutes customRoutes results

theorem groupCustomRoutes_ips {customRoutes : List OAIRoute} {results results' : List AllocationResult}
    (h : groupCustomRoutes customRoutes results = .ok results') :
    results'.map (·.ip) = results.map (·.ip) := by
  have hloop : ∀ (results results' : List AllocationResult) (customRoutes : List OAIRoute),
      groupRoutes customRoutes results = .ok results' →
      results'.map (·.ip) = results.map (·.ip) := by
    intro results
    induction results with
    | nil =>
      intro results' customRoutes h
      obtain rfl := Except.ok.inj h
      rfl
    | cons res results ih =>
      intro results' customRoutes h
      rw [groupRoutes] at h
      split at h
      · cases h
      · obtain ⟨rest, hrest, h⟩ := bind_eq_ok.1 h
        rw [← Except.ok.inj h, List.map_cons, List.map_cons, ih _ _ hrest]
  unfold groupCustomRoutes at h
  split_ifs at h
  · rw [Except.ok.inj h]
  · exact hloop _ _ _ h

/-! ### The interfaces of the results -/

/-- Every goroutine of the attempt that has a result has one of its interface. -/
structure NicInv {κ : Type} (s : AgentState κ) : Prop where
  shown : ∀ name, (s.pools name).Shown
  nic : ∀ a ∈ s.attempt, ∀ i < a.candidates.length, ∀ r, s.tasks (.inl i) = .finished (.ok r) →
    r.ip.nic = (a.candidate (.inl i : ℕ ⊕ κ)).nic

section

variable {κ : Type} [DecidableEq κ] {cfg : IPPoolManagerConfig} {uid : String}
  {pools : String → Option IPPool} {s s' : AgentState κ} {l : AgentEvent κ}

theorem Task.start_nic {order : RangeOrder String IPPool} {failed : List AllocationResult}
    {c : Candidate} {r : AllocationResult} (h : Task.start order failed c = .finished (.ok r)) :
    r.ip.nic = c.nic := by
  unfold Task.start at h
  split at h
  · rename_i r' hreuse
    obtain ⟨old, -, hreuse⟩ := List.exists_of_findSome?_eq_some hreuse
    obtain ⟨e, he, hreuse⟩ := Option.map_eq_some_iff.1 hreuse
    have hnic := List.find?_some he
    rw [decide_eq_true_eq] at hnic
    rw [← Except.ok.inj (Task.finished.inj h), ← hreuse]
    exact hnic.2
  · cases h

theorem PoolAttempt.allocated_nic {pod : Pod} {pc : PodTopController} {nic : String} {ip : IP}
    {config : IPConfig} {v v' : Option IPPool}
    (h : PoolAttempt cfg (.allocateIP nic pod pc) v (.write v' (.allocated ip (.ok config)))) :
    config.nic = nic := by
  generalize hreply : PoolReply.allocated ip (.ok config) = reply at h
  cases h with
  | allocate h =>
    obtain ⟨-, hconfig⟩ := PoolReply.allocated.inj hreply
    obtain ⟨v, -, hconfig⟩ := bind_eq_ok.1 hconfig.symm
    split at hconfig
    · cases hconfig
    · rw [← Except.ok.inj hconfig]

theorem NicInv.step (hI : NicInv s) (h : AgentStep cfg uid s l s') : NicInv s' := by
  refine ⟨fun name => ?_, ?_⟩
  · rcases h.pool name with heq | ⟨e, hw, -, -⟩
    · exact heq ▸ hI.shown name
    · exact hw.shown (hI.shown name)
  · cases h with
    | start a order hidle huid =>
      rintro _ ⟨⟩ i hi r hr
      exact Task.start_nic hr
    | @goroutine a i t ha hi h =>
      intro a' ha' i' hi' r hr
      by_cases hii : i' = i
      · subst hii
        obtain rfl := Option.some.inj (ha.symm.trans ha')
        cases h with
        | call => simp at hr
        | @event pool names errs e w ht hclient hop hw =>
          simp only [AllocState.set_tasks] at hr
          obtain ⟨j, op, ip, config, rfl, rfl⟩ := Task.after_ok hr
          obtain rfl : op = _ := hop
          exact PoolAttempt.allocated_nic (hw.commit_attempt (hI.shown pool))
        | exhausted => simp [fail] at hr
      · refine hI.nic a' ha' i' hi' r ?_
        rw [← hr]
        exact (AllocStep.tasks_ne h (by simpa using hii)).symm
    | finish => exact fun a ha => absurd ha (Option.not_mem_none a)
    | other => exact hI.nic

end

/-- The results that standard mode patches to the endpoint: an attempt has got them from these
candidates while others were at work, and the custom routes are grouped to them. -/
def Obtained (κ : Type) [DecidableEq κ] (mgr : IPPoolManagerConfig) (pod : Pod)
    (pc : PodTopController) (tt : List ToBeAllocated) (results : List AllocationResult) : Prop :=
  ∃ (pools : String → Option IPPool) (es : List (AgentEvent κ)) (s : AgentState κ)
    (allocated : List AllocationResult) (customRoutes : List OAIRoute),
    Run (AgentStep mgr pod.uid) (.init pools) es s ∧
    s.attempt = some ⟨pod, pc, allCandidates tt⟩ ∧
    (∀ i < (allCandidates tt).length, ∃ r, s.tasks (.inl i) = .finished (.ok r)) ∧
    allocated.Perm (s.results ⟨pod, pc, allCandidates tt⟩) ∧
    getCustomRoutes pod.annotations = .ok customRoutes ∧
    groupCustomRoutes customRoutes allocated = .ok results

theorem Obtained.exists_nic_iff {κ : Type} [DecidableEq κ] {mgr : IPPoolManagerConfig} {pod : Pod}
    {pc : PodTopController} {tt : List ToBeAllocated} {results : List AllocationResult}
    (h : Obtained κ mgr pod pc tt results) (P : String → Prop) :
    (∃ r ∈ results, P r.ip.nic) ↔ ∃ t ∈ tt, P t.nic ∧ t.poolCandidates ≠ [] := by
  obtain ⟨pools, es, s, allocated, customRoutes, hrun, hattempt, hok, hperm, -, hgroup⟩ := h
  have hinit : NicInv (AgentState.init pools : AgentState κ) :=
    ⟨fun _ => World.shown_of_idle fun _ => rfl, fun a ha => absurd ha (Option.not_mem_none a)⟩
  have hI : NicInv s := hrun.inv _ hinit fun _ _ _ hI h => hI.step h
  have hcandidate : ∀ i (hi : i < (allCandidates tt).length),
      (Attempt.candidate ⟨pod, pc, allCandidates tt⟩ (.inl i : ℕ ⊕ κ)) = (allCandidates tt)[i] :=
    fun i hi => List.getD_eq_getElem _ _ hi
  calc (∃ r ∈ results, P r.ip.nic)
      ↔ ∃ config ∈ allocated.map (·.ip), P config.nic := by
        rw [← groupCustomRoutes_ips hgroup]
        simp only [List.mem_map, exists_exists_and_eq_and]
    _ ↔ ∃ r ∈ s.results ⟨pod, pc, allCandidates tt⟩, P r.ip.nic := by
        simp only [List.mem_map, exists_exists_and_eq_and, hperm.mem_iff]
    _ ↔ ∃ c ∈ allCandidates tt, P c.nic := by
        constructor
        · rintro ⟨r, hr, hP⟩
          obtain ⟨i, hi, htask⟩ := mem_results.1 hr
          rw [hI.nic _ hattempt i hi r htask, hcandidate i hi] at hP
          exact ⟨_, List.getElem_mem hi, hP⟩
        · rintro ⟨c, hc, hP⟩
          obtain ⟨i, hi, rfl⟩ := List.getElem_of_mem hc
          obtain ⟨r, htask⟩ := hok i hi
          refine ⟨r, mem_results.2 ⟨i, hi, htask⟩, ?_⟩
          rwa [hI.nic _ hattempt i hi r htask, hcandidate i hi]
    _ ↔ ∃ t ∈ tt, P t.nic ∧ t.poolCandidates ≠ [] := by
        simp only [allCandidates, List.mem_flatMap, List.mem_map]
        constructor
        · rintro ⟨c, ⟨t, ht, c', hc', rfl⟩, hP⟩
          exact ⟨t, ht, hP, List.ne_nil_of_mem hc'⟩
        · rintro ⟨t, ht, hP, hne⟩
          obtain ⟨c', hc'⟩ := List.exists_mem_of_ne_nil _ hne
          exact ⟨_, ⟨t, ht, c', hc', rfl⟩, hP⟩

/-! ### The answer -/

def shownNIC (anno : PodAnnotations) (nic : String) : String :=
  if isMultipleNicWithNoName anno ∧ nic = itoa 0 then Constant.clusterDefaultInterfaceName else nic

section

variable {cfg : Config} {env : Env} {candidates : Result Err (List ToBeAllocated)}
  {allocateIPs : GoMap String IPPool → Result Err (List AllocationResult) × GoMap String IPPool}
  {ifName : String} {pod : Pod} {pc : PodTopController} {results : List AllocationResult}
  {resp : IpamAddResponse} {s s' : ApiServer}

theorem exists_standardResponse {nic : String} :
    (∃ config ∈ (standardResponse results (isMultipleNicWithNoName pod.annotations)).ips,
      config.nic = nic) ↔ ∃ r ∈ results, shownNIC pod.annotations r.ip.nic = nic := by
  cases hmultiple : isMultipleNicWithNoName pod.annotations with
  | false =>
    have hips : (standardResponse results false).ips = results.map (·.ip) := rfl
    simp [hips, shownNIC, hmultiple]
  | true =>
    have hrename : ∀ r : AllocationResult,
        (renameResult r).ip.nic = shownNIC pod.annotations r.ip.nic := by
      intro r
      simp only [renameResult, shownNIC, hmultiple, true_and]
      split_ifs <;> rfl
    have hips : (standardResponse results true).ips = ((sortSlice
        (fun r r' => nicLess r.ip.nic r'.ip.nic) results).map renameResult).map (·.ip) := rfl
    simp only [hips, List.mem_map, exists_exists_and_eq_and, hrename, mem_sortSlice]

theorem allocate_noEndpoint
    (hnone : s.endpoints.lookup (pod.ns, endpointName cfg pod pc) = none)
    (h : allocate cfg env candidates allocateIPs ifName pod pc s = (.ok resp, s')) :
    ∃ results, (allocateIPs s.pools).1 = .ok results ∧
      resp = standardResponse results (isMultipleNicWithNoName pod.annotations) := by
  obtain ⟨x, s₁, huntil, h⟩ := Eff.bind_eq_ok.1 h
  obtain ⟨endpoint, s₂, hget, huntil⟩ := Eff.bind_eq_ok.1 huntil
  obtain ⟨hlookup, rfl⟩ := Prod.mk.inj hget
  obtain rfl := hnone.symm.trans (Except.ok.inj hlookup)
  obtain ⟨⟨released, endpoint⟩, s₃, hrelease, huntil⟩ := Eff.bind_eq_ok.1 huntil
  obtain ⟨hreleased, rfl⟩ := Eff.pure_eq_ok.1 hrelease
  obtain ⟨rfl, rfl⟩ := Prod.mk.inj hreleased
  obtain ⟨x', s₄, hretrieve, huntil⟩ := Eff.bind_eq_ok.1 huntil
  have hnothing : retrieve cfg env ifName pod pc none false s = (.ok none, s) := by
    unfold retrieve
    split_ifs <;> rfl
  obtain ⟨hx', rfl⟩ := Prod.mk.inj (hnothing.symm.trans hretrieve)
  obtain rfl := Except.ok.inj hx'
  obtain ⟨results, s₅, hresults, huntil⟩ := Eff.bind_eq_ok.1 huntil
  obtain ⟨rfl, rfl⟩ := Eff.pure_eq_ok.1 huntil
  obtain ⟨-, s₆, -, h⟩ := Eff.bind_eq_ok.1 h
  refine ⟨results, (Prod.mk.inj (Eff.mapErr_eq_ok.1 hresults)).1, (Eff.pure_eq_ok.1 h).1.symm⟩

end

/-- `Allocate` for a Pod without an endpoint answers the interface that it is asked for exactly if
the rules give the interface a candidate of a version that is switched on. -/
theorem answers_interface_iff (κ : Type) [DecidableEq κ] (cfg : Config) (env : Env)
    (rules : RuleEnv) (select : SelectEnv) (mgr : IPPoolManagerConfig)
    (order : RangeOrder String IPPool) (addArgs : IpamAddArgs) (pod : Pod) (pc : PodTopController)
    (tt : List ToBeAllocated) (results : List AllocationResult)
    (candidates : Result Err (List ToBeAllocated))
    (allocateIPs : GoMap String IPPool → Result Err (List AllocationResult) × GoMap String IPPool)
    (s s' : ApiServer) (resp : IpamAddResponse)
    (hgen : genToBeAllocatedSet cfg rules select order addArgs pod pc = .ok tt)
    (hobtained : Obtained κ mgr pod pc tt results)
    (hresults : (allocateIPs s.pools).1 = .ok results)
    (hnone : s.endpoints.lookup (pod.ns, endpointName cfg pod pc) = none)
    (h : allocate cfg env candidates allocateIPs addArgs.ifName pod pc s = (.ok resp, s')) :
    ∃ preliminary, getPoolCandidates cfg rules addArgs pod pc = .ok preliminary ∧
      ((∃ config ∈ resp.ips, config.nic = addArgs.ifName) ↔
        ∃ t ∈ preliminary, shownNIC pod.annotations t.nic = addArgs.ifName ∧
          ∃ c ∈ t.poolCandidates, cfg.enablesVersion c.ipVersion = true) := by
  obtain ⟨results', hresults', rfl⟩ := allocate_noEndpoint hnone h
  obtain rfl := Except.ok.inj (hresults.symm.trans hresults')
  obtain ⟨preliminary, hpreliminary, hkeys⟩ := genToBeAllocatedSet_keys hgen
  refine ⟨preliminary, hpreliminary, ?_⟩
  rw [exists_standardResponse,
    hobtained.exists_nic_iff fun nic => shownNIC pod.annotations nic = addArgs.ifName]
  have hkey : ∀ l : List ToBeAllocated,
      (∃ t ∈ l, shownNIC pod.annotations t.nic = addArgs.ifName ∧ t.poolCandidates ≠ []) ↔
        ∃ k ∈ l.map ToBeAllocated.key, shownNIC pod.annotations k.1 = addArgs.ifName ∧ k.2 ≠ 0 := by
    intro l
    simp only [List.mem_map, exists_exists_and_eq_and, ToBeAllocated.key, ne_eq,
      List.length_eq_zero_iff]
  rw [hkey, hkeys, ← hkey]
  simp [checkIPVersionEnable, filterPoolMisspecified]

end IPAM
/-! ### A Pod that names a pool, and one that names none -/

namespace Sample

open IPAM Versioned

def annotated (value : AnnoPodIPPoolValue) : Pod :=
  { pod "u1" with annotations := { ippool := some (.doc value) } }

def named : Pod := annotated { ipv4Pools := ["sample"] }

def addArgs : IpamAddArgs where
  podNamespace := "default"
  podName := "web-0"
  ifName := "eth0"

theorem named_obtained :
    Obtained ℕ config named topController [request "eth0" openPool] [attemptResult] := by
  let a : Attempt := ⟨named, topController, allCandidates [request "eth0" openPool]⟩
  let s₁ : AgentState ℕ := { AgentState.init fun _ => some openPool with
    attempt := some a
    tasks := fun j => Task.start (.stored _ _) [] (a.candidate j) }
  have hstart : AgentStep config "u1" (.init fun _ => some openPool) (.start a) s₁ :=
    .start a (.stored _ _) rfl rfl
  have htask : s₁.tasks (.inl 0) = .trying ["sample"] [] := rfl
  obtain ⟨p', hgen, hconfig⟩ : ∃ p', genRandomIP config env named topController openPool =
      .ok (some addr, p') ∧ genIPConfigResult config (some addr) "eth0" p' = .ok attemptResult.ip :=
    ⟨_, rfl, rfl⟩
  have hattempt : PoolAttempt config (.allocateIP "eth0" named topController) (some openPool)
      (.write (some p') (.allocated (some addr) (.ok attemptResult.ip))) :=
    hconfig ▸ PoolAttempt.allocate hgen
  obtain ⟨w, hrun, -, -⟩ := AllocStep.solo a.candidate htask (fun _ => rfl) hattempt
  let s₂ : AgentState ℕ := { s₁ with
    toAllocState := s₁.set "sample" w (.inl 0) (.finished (.ok attemptResult)) }
  have hgoroutine : Run (AgentStep config "u1") s₁ [.goroutine 0, .goroutine 0, .goroutine 0] s₂ :=
    goroutine_run (a := a) (n := 3) rfl Nat.one_pos hrun
  have hreturned : s₂.tasks (.inl 0) = .finished (.ok attemptResult) := s₁.set_tasks ..
  refine ⟨_, _, s₂, [attemptResult], [], .cons hstart hgoroutine, rfl, fun i hi => ?_, ?_, rfl, rfl⟩
  · obtain rfl : i = 0 := Nat.lt_one_iff.1 hi
    exact ⟨_, hreturned⟩
  · have hone : s₂.results a = [0].filterMap fun i => (s₂.tasks (.inl i)).result := rfl
    rw [hone, List.filterMap_cons, hreturned]
    exact .refl _

/-- A pool that is named gives the interface an address. -/
theorem named_answered : ∃ resp s', IPAM.allocate agent {} (.ok [])
      (fun m => (.ok [attemptResult], m)) "eth0" named topController ⟨∅, ∅⟩ = (.ok resp, s') ∧
    ∃ config ∈ resp.ips, config.nic = "eth0" := by
  obtain ⟨resp, s', hrun⟩ : ∃ resp s', IPAM.allocate agent {} (.ok [])
      (fun m => (.ok [attemptResult], m)) "eth0" named topController ⟨∅, ∅⟩ = (.ok resp, s') :=
    ⟨_, _, rfl⟩
  obtain ⟨preliminary, hpreliminary, hiff⟩ := answers_interface_iff ℕ agent {} {} selectEnv config
    (.stored _ _) addArgs named topController [request "eth0" openPool] [attemptResult] (.ok [])
    (fun m => (.ok [attemptResult], m)) ⟨∅, ∅⟩ s' resp rfl named_obtained rfl rfl hrun
  obtain rfl := Except.ok.inj hpreliminary
  exact ⟨resp, s', hrun, hiff.2 ⟨_, List.mem_singleton.2 rfl, rfl, _, List.mem_singleton.2 rfl, rfl⟩⟩

/-- A Pod whose annotation names no pool is answered without an address, and without an error. -/
theorem unnamed_unanswered : ∃ resp s',
    genToBeAllocatedSet agent {} selectEnv (.stored _ _) addArgs (annotated {}) topController =
      .ok [{ nic := "eth0", poolCandidates := [] }] ∧
    Obtained ℕ config (annotated {}) topController [{ nic := "eth0", poolCandidates := [] }] [] ∧
    IPAM.allocate agent {} (.ok []) (fun m => (.ok [], m)) "eth0" (annotated {}) topController
      ⟨∅, ∅⟩ = (.ok resp, s') ∧
    resp.ips = [] := by
  refine ⟨_, _, rfl, ?_, rfl, rfl⟩
  let a : Attempt := ⟨annotated {}, topController, []⟩
  have hstart : AgentStep config "u1" (.init fun _ => some openPool : AgentState ℕ) (.start a) _ :=
    .start a (.stored _ _) rfl rfl
  exact ⟨_, _, _, [], [], .single hstart, rfl, fun i hi => absurd hi (Nat.not_lt_zero i), .refl _,
    rfl, rfl⟩

end Sample

end Spiderpool
