/-
# Releasing, call by call

`releaseForAllNICs` and `ReleaseIPs` of `pkg/ipam/release.go`, and `releaseStsOutdatedIPIfNeed`
again, as programs on the cloud, any call of which may fail.
-/

import Spiderpool.IPAM.Outdated
import Spiderpool.IPAM.Provider

namespace Spiderpool

namespace EndpointManager

/-- `ReleaseEndpointIPs`: the details the endpoint had. -/
def releaseEndpointIPs (endpoint : SpiderEndpoint) (podUID : String) :
    Prog Cloud Err (List IPAllocationDetail) :=
  if endpoint.uid ≠ podUID then
    .ret (fail (.new ("the SpiderEndpoint recorded PodUID '" ++ endpoint.uid ++
      "' is unmacthed with the given PodUID '" ++ podUID ++ "'")))
  else if endpoint.ips = [] then pure []
  else do
    let _ ← Prog.request (onApi (updateEndpoint { endpoint with ips := [] }))
    return endpoint.ips

end EndpointManager

namespace IPAM

open EndpointManager

namespace Stepwise

def release (env : Env) (uid : String) (details : List IPAllocationDetail) :
    Prog Cloud Err Unit := do
  let pius ← .ret (groupIPAllocationDetails uid details)
  .ret (mapErr (.wrap "failed to queue correctly: " · "")
    (env.acquireTicket (PoolNameToIPAndUIDs.pools pius env.ticketOrder)))
  let errs ← Prog.joinAll (fun e : Σ _ : String, List IPAndUID =>
    .request (onApi (onPool e.1 (releaseIP e.2)))) (env.poolOrder.visit pius)
  .ret (failIf (errs ≠ []) (.wrap ("failed to release all allocated IP addresses " ++
    formatPIUs pius ++ ": ") (.aggregate errs) ""))

def deleteOutdated (now : ℤ) (endpoint : SpiderEndpoint) : Prog Cloud Err SpiderEndpoint := do
  (if endpoint.deletionTimestamp = none then .request (onApi (deleteEndpoint now endpoint))
    else pure ())
  Prog.mapErr (.wrap
    "failed to clean statefulset pod's endpoint when expected ippool was changed: " · "")
    (.request (onApi (EndpointManager.removeFinalizer endpoint)))

def releaseStsOutdatedIPIfNeed (env : Env) (candidates : Result Err (List ToBeAllocated))
    (ifName : String) (endpoint : SpiderEndpoint) (isMultipleNicWithNoName : Bool) :
    Prog Cloud Err (Bool × SpiderEndpoint) := do
  let preliminary ← .ret candidates
  let o := outdated preliminary ifName endpoint isMultipleNicWithNoName
  if o.releaseEndpointIPsFlag then
    if isMultipleNicWithNoName ∨ o.needReleaseEndpointIPs.length = endpoint.ips.length then do
      let endpoint' ← deleteOutdated env.now endpoint
      release env endpoint.uid endpoint.ips
      return (true, endpoint')
    else do
      let endpoint' ← .request (onApi (patchEndpointAllocationIPs endpoint o.noReleaseEndpointIPs))
      release env endpoint.uid o.needReleaseEndpointIPs
      return (true, endpoint')
  else return (false, endpoint)

/-! ### What is true while addresses are released -/

section

variable {env : Env} {uid : String} {details : List IPAllocationDetail} {c : Cloud} {I : Cloud → Prop}

theorem releaseIP_recorded (pool : String) (ius : List IPAndUID) (s : ApiServer) :
    (∀ u k key, Recorded (onPool pool (releaseIP ius) s).2 u k key → Recorded s u k key) ∧
      (∀ u k key, Recorded s u k key → (k = pool → (⟨key, u⟩ : IPAndUID) ∉ ius) →
        Recorded (onPool pool (releaseIP ius) s).2 u k key) ∧
      ((onPool pool (releaseIP ius) s).1 = .ok () →
        ∀ iu ∈ ius, ¬ Recorded (onPool pool (releaseIP ius) s).2 iu.uid pool iu.ip) := by
  unfold onPool
  cases hp : s.pools.lookup pool with
  | none => exact ⟨fun _ _ _ h => h, fun _ _ _ h _ => h, nofun⟩
  | some p =>
    dsimp only
    cases hattempt : releaseIP ius p with
    | error e => exact ⟨fun _ _ _ h => h, fun _ _ _ h _ => h, nofun⟩
    | ok o =>
      have hlookup : ∀ k r, (o.getD p).status.records.lookup k = some r ↔
          p.status.records.lookup k = some r ∧ (⟨k, r.podUID⟩ : IPAndUID) ∉ ius :=
        fun _ _ => releaseIP_lookup hattempt
      cases o with
      | none =>
        refine ⟨fun _ _ _ h => h, fun _ _ _ h _ => h, ?_⟩
        rintro - iu hiu ⟨p', r, hp', hr, hu⟩
        obtain rfl := Option.some.inj (hp.symm.trans hp')
        exact ((hlookup _ _).1 hr).2 (hu ▸ hiu)
      | some p' =>
        refine ⟨?_, ?_, ?_⟩
        · rintro u k key ⟨q, r, hq, hr, hu⟩
          rw [GoMap.lookup_insert_eq] at hq
          split_ifs at hq with hk
          · obtain rfl := Option.some.inj hq
            exact ⟨p, r, hk ▸ hp, ((hlookup _ _).1 hr).1, hu⟩
          · exact ⟨q, r, hq, hr, hu⟩
        · rintro u k key ⟨q, r, hq, hr, rfl⟩ hother
          by_cases hk : k = pool
          · subst hk
            obtain rfl := Option.some.inj (hp.symm.trans hq)
            exact ⟨p', r, AList.lookup_insert _, (hlookup _ _).2 ⟨hr, hother rfl⟩, rfl⟩
          · exact ⟨q, r, (AList.lookup_insert_ne hk).trans hq, hr, rfl⟩
        · rintro - iu hiu ⟨q, r, hq, hr, hu⟩
          rw [AList.lookup_insert] at hq
          obtain rfl := Option.some.inj hq
          exact ((hlookup _ _).1 hr).2 (hu ▸ hiu)

theorem mem_visit_group {pius : PoolNameToIPAndUIDs} {o : RangeOrder String (List IPAndUID)}
    (hgroup : groupIPAllocationDetails uid details = .ok pius) {x : Σ _ : String, List IPAndUID}
    (hx : x ∈ o.visit pius) : ∀ iu ∈ x.2, iu.uid = uid ∧ (x.1, iu.ip) ∈ addresses details := by
  intro iu hiu
  have hius := lookup_group hgroup x.1
  rw [o.mem_visit.1 hx] at hius
  exact (mem_addressesOf.1 (hius ▸ hiu)).symm

/-- While addresses are released nothing is true less that the calls for them keep true; no
record is added, and if all ends well none of those addresses is left to the Pod. -/
theorem release_holds (hI : I c)
    (hkeep : ∀ pool ius, (∀ iu ∈ ius, iu.uid = uid ∧ (pool, iu.ip) ∈ addresses details) →
      ∀ c, I c → I (onApi (onPool pool (releaseIP ius)) c).2) :
    Prog.Holds I (fun r c' => (∀ u k key, Recorded c'.api u k key → Recorded c.api u k key) ∧
      (r = .ok () → ∀ a ∈ addresses details, ¬ Recorded c'.api uid a.1 a.2))
      (release env uid details) c := by
  refine Prog.Holds.ret_bind hI (fun pius hgroup => ?_) fun _ _ => ⟨fun _ _ _ h => h, nofun⟩
  refine Prog.Holds.ret_bind hI (fun _ _ => ?_) fun _ _ => ⟨fun _ _ _ h => h, nofun⟩
  refine Prog.Holds.seq (Prog.Holds.joinAll
    (J := fun c' => I c' ∧ ∀ u k key, Recorded c'.api u k key → Recorded c.api u k key)
    (P := fun (e : Σ _ : String, List IPAndUID) c' => ∀ iu ∈ e.2, ¬ Recorded c'.api iu.uid e.1 iu.ip)
    (fun e he c₁ hc₁ => ?_) ⟨hI, fun _ _ _ h => h⟩ hI) (fun errs c₂ hI₂ hr => ?_)
    fun _ _ _ hr => ⟨hr.1.2, nofun⟩
  · obtain ⟨hfewer, -, hgone⟩ := releaseIP_recorded e.1 e.2 c₁.api
    have hI' := hkeep e.1 e.2 (mem_visit_group hgroup he) c₁ hc₁.1
    have hJ' : ∀ u k key, Recorded (onPool e.1 (releaseIP e.2) c₁.api).2 u k key →
        Recorded c.api u k key := fun u k key h => hc₁.2 u k key (hfewer u k key h)
    have hP' : ∀ y : Σ _ : String, List IPAndUID, (∀ iu ∈ y.2, ¬ Recorded c₁.api iu.uid y.1 iu.ip) →
        ∀ iu ∈ y.2, ¬ Recorded (onPool e.1 (releaseIP e.2) c₁.api).2 iu.uid y.1 iu.ip :=
      fun y hy iu hiu h => hy iu hiu (hfewer _ _ _ h)
    exact Prog.Holds.request hc₁.1 hI' ⟨⟨hI', hJ'⟩, hP', hgone⟩
      fun e => ⟨⟨hc₁, fun _ h => h, nofun⟩, ⟨hI', hJ'⟩, hP', nofun⟩
  · obtain ⟨⟨-, hfewer⟩, -, hgone⟩ := hr
    refine ⟨hI₂, hfewer, fun hok a ha => ?_⟩
    rw [failIf_eq_ok, not_not] at hok
    subst hok
    have hiu : (⟨a.2, uid⟩ : IPAndUID) ∈ addressesOf uid a.1 (addresses details) :=
      mem_addressesOf.2 ⟨ha, rfl⟩
    rw [← lookup_group hgroup] at hiu
    cases hius : pius.lookup a.1 with
    | none => simp [hius] at hiu
    | some ius =>
      rw [hius] at hiu
      exact hgone rfl ⟨a.1, ius⟩ (env.poolOrder.mem_visit.2 hius) ⟨a.2, uid⟩ hiu

end

end Stepwise

/-- What a release asks of others: the objects of the cluster, and the provider if there is one. -/
structure ReleaseEnv extends Env where
  view : ClusterView
  provider : ProviderEnv
  client : Option MacCache := none

/-- The check whether a stateful Pod keeps its addresses, before its endpoint is deleted. -/
def keepsAddresses (cfg : Config) (env : ReleaseEnv) (endpoint : SpiderEndpoint) :
    Prog Cloud Err Bool := do
  let text kind := "failed to check pod '" ++ endpoint.ns ++ "/" ++ endpoint.name ++
    "' whether is a valid " ++ kind ++ " pod, error: "
  let check (valid : Result Err Bool) (kind : String) : Prog Cloud Err Bool := do
    if ← .ret (mapErr (.wrap (text kind) · "") valid) then return true
    else
      .request (onApi (deleteEndpoint env.now endpoint))
      return false
  if cfg.enableStatefulSet ∧ endpoint.ownerControllerType = Constant.kindStatefulSet then
    check (isValidStatefulSetPod env.view endpoint.ns endpoint.name endpoint.ownerControllerType)
      "StatefulSet"
  else if cfg.enableKubevirtStaticIP ∧ endpoint.ownerControllerType = Constant.kindKubevirtVMI then
    check (isValidVMPod env.view endpoint.ns endpoint.ownerControllerType
      endpoint.ownerControllerName) "kubevirt VM"
  else return false

theorem keepsAddresses_keeps {cfg : Config} {env : ReleaseEnv} {endpoint : SpiderEndpoint}
    {I : Cloud → Prop} {c : Cloud} (hI : I c)
    (hdelete : I (onApi (deleteEndpoint env.now endpoint) c).2) :
    Prog.Holds I (fun _ _ => True) (keepsAddresses cfg env endpoint) c := by
  have hcheck : ∀ valid : Result Err Bool, Prog.Holds I (fun _ _ => True) (do
      if ← .ret valid then return true
      else
        .request (onApi (deleteEndpoint env.now endpoint))
        return false : Prog Cloud Err Bool) c := by
    refine fun valid => Prog.Holds.ret_bind hI (fun b _ => ?_) fun _ _ => trivial
    cases b with
    | true => exact ⟨hI, trivial⟩
    | false =>
      exact (Prog.Holds.request_keeps hI hdelete).andThen fun _ _ hc' _ => ⟨hc', trivial⟩
  unfold keepsAddresses
  split_ifs
  · exact hcheck _
  · exact hcheck _
  · exact ⟨hI, trivial⟩

def releaseForAllNICs (cfg : Config) (env : ReleaseEnv) (uid nic : String)
    (endpoint : SpiderEndpoint) : Prog Cloud Err Unit := do
  if ← keepsAddresses cfg env endpoint then return ()
  else
    match retrieveIPAllocation uid nic (some endpoint) false with
    | none => return ()
    | some allocation => do
      callIaaSRelease env.client env.provider endpoint
      Stepwise.release env.toEnv allocation.uid allocation.ips
      let _ ← Prog.mapErr (.wrap "failed to clean Endpoint: " · "")
        (.request (onApi (EndpointManager.removeFinalizer endpoint)))

theorem releaseForAllNICs_holds {cfg : Config} {env : ReleaseEnv} {uid nic : String}
    {endpoint : SpiderEndpoint} {I A : Cloud → Prop} {c : Cloud} (hA : ∀ c, A c → I c) (hc : A c)
    (hdelete : A (onApi (deleteEndpoint env.now endpoint) c).2)
    (hprovider : ∀ req c, A c → A (providerReleaseIP req c).2)
    (hrelease : ∀ c, A c → (env.client.isSome → ∀ key,
        AtProvider env.provider endpoint endpoint.ips key → (key, endpoint.uid) ∉ c.bound) →
      Prog.Holds I (fun r c' => r = .ok () →
        I c' ∧ I (onApi (EndpointManager.removeFinalizer endpoint) c').2)
        (Stepwise.release env.toEnv endpoint.uid endpoint.ips) c) :
    Prog.Holds I (fun _ _ => True) (releaseForAllNICs cfg env uid nic endpoint) c := by
  refine ((keepsAddresses_keeps hc hdelete).imp hA).andThen fun keeps c₁ _ hc₁ => ?_
  cases keeps with
  | true => exact ⟨hA c₁ hc₁.1, trivial⟩
  | false =>
    rw [if_neg (by simp)]
    cases hallocation : retrieveIPAllocation uid nic (some endpoint) false with
    | none => exact ⟨hA c₁ hc₁.1, trivial⟩
    | some allocation =>
      obtain rfl : endpoint = allocation :=
        Option.some.inj (Option.filter_eq_some_iff.1 hallocation).1
      refine ((callIaaSRelease_holds hprovider hc₁.1).imp hA).andThen fun _ c₂ _ hc₂ => ?_
      refine (hrelease c₂ hc₂.1 (hc₂.2 rfl)).andThen fun _ c₃ _ hc₃ => ?_
      obtain ⟨hI, hremove⟩ := hc₃ rfl
      exact (Prog.Holds.mapErr (Prog.Holds.request_keeps hI hremove)).andThen
        (Q := fun _ _ => True) fun _ _ h _ => ⟨h, trivial⟩

structure IpamBatchDelArgs where
  containerID : String
  isReleaseConflictIPs : Bool := false
  netNamespace : String := ""
  podName : String
  podNamespace : String
  podUID : String

/-- `GetPodTopController`, and the Pods as the API server shows them. -/
structure PodClient where
  getPodByName : String → String → Lookup Pod
  getPodTopController : Pod → Result Err PodTopController

/-- The first part of `ReleaseIPs`: the UID, and the Pod if it was needed for that; nothing, if
there is no way to find the UID out. -/
def batchPodUID (pods : PodClient) (delArgs : IpamBatchDelArgs) :
    Result Err (Option (String × Option Pod)) :=
  if delArgs.podUID ≠ "" then .ok (some (delArgs.podUID, none))
  else
    match pods.getPodByName delArgs.podNamespace delArgs.podName with
    | .notFound => .ok none
    | .failed e => fail (.wrap ("failed to get Pod '" ++ delArgs.podNamespace ++ "/" ++
        delArgs.podName ++ "', error: ") e "")
    | .found pod => .ok (some (pod.uid, some pod))

/-- The Pod of the second part: the one at hand, or else the one of this name. -/
def batchPod (pods : PodClient) (delArgs : IpamBatchDelArgs) : Option Pod → Result Err Pod
  | some pod => .ok pod
  | none =>
    let text := "failed to get Pod '" ++ delArgs.podNamespace ++ "/" ++ delArgs.podName ++ "', error: "
    match pods.getPodByName delArgs.podNamespace delArgs.podName with
    | .found pod => .ok pod
    | .notFound => fail (.wrap text errNotFound "")
    | .failed e => fail (.wrap text e "")

/-- The second part: which addresses may be released because of a conflict. -/
def checkReleaseConflictIPs (cfg : Config) (pods : PodClient) (delArgs : IpamBatchDelArgs)
    (pod : Option Pod) : Result Err Unit :=
  if delArgs.isReleaseConflictIPs = false then .ok ()
  else if cfg.enableReleaseConflictIPsForStateless = false then
    fail (.of .errForbidReleasingStatelessWorkload)
  else do
    let pod ← batchPod pods delArgs pod
    let podTopController ← mapErr (.wrap ("failed to get the top controller of the Pod " ++ pod.ns ++
      "/" ++ pod.name ++ ", error: ") · "") (pods.getPodTopController pod)
    failIf (cfg.isStatefulSet podTopController ∨ cfg.isKubevirt podTopController)
      (.of .errForbidReleasingStatefulWorkload)

def releaseIPs (cfg : Config) (env : Env) (pods : PodClient) (delArgs : IpamBatchDelArgs) :
    Prog Cloud Err Unit := do
  match ← .ret (batchPodUID pods delArgs) with
  | none => return ()
  | some (podUID, pod) => do
    .ret (checkReleaseConflictIPs cfg pods delArgs pod)
    let text := "failed to get SpiderEndpoint '" ++ delArgs.podNamespace ++ "/" ++
      delArgs.podName ++ "', error: "
    match ← Prog.mapErr (.wrap text · "")
      (.request (onApi (getEndpointByName delArgs.podNamespace delArgs.podName))) with
    | none => .ret (fail (.wrap text errNotFound ""))
    | some endpoint => do
      let details ← Prog.mapErr (.wrap "failed to release SpiderEndpoint IPs, error: " · "")
        (releaseEndpointIPs endpoint podUID)
      if details = [] then return () else Stepwise.release env podUID details

end IPAM
end Spiderpool
