/-
# Cleaning up after a conflict

When the CNI plugin finds that an address it was given is in use, or that the gateway cannot be
reached, it asks the agent to release the Pod's addresses: `deleteIpamIps` of `cmd/spiderpool/cmd`,
answered by `ReleaseIPs`. Whether the addresses may be released depends on the kind of the Pod and
on the configuration of the agent (`MayRelease`).

`ReleaseIPs` sees to that for requests that say they are about a conflict (`flagged_kept`). The
requests of `deleteIpamIps` do not say so (`cleanUp_permitted_iff`).
-/

import Spiderpool.IPAM.Recreate
import Spiderpool.IPAM.Release

namespace Spiderpool

/-- `skel.CmdArgs`, of what the plugin passes on. -/
structure CmdArgs where
  containerID : String
  netns : String

structure K8sArgs where
  podName : String
  podNamespace : String
  podUID : String

namespace IPAM

open EndpointManager

def deleteIpamIps (agent : IpamBatchDelArgs → Prog Cloud Err Unit) (args : CmdArgs)
    (k8sArgs : K8sArgs) : Prog Cloud Err Unit :=
  agent {
    containerID := args.containerID
    netNamespace := args.netns
    podName := k8sArgs.podName
    podNamespace := k8sArgs.podNamespace
    podUID := k8sArgs.podUID }

/-- `filteredErrResponder`, and the error that the client makes of its response. -/
def filteredErrResponder (e : Err) : Err :=
  if .errForbidReleasingStatelessWorkload ∈ e.sentinels then
    .new ("[DELETE /ipam/ips][521] deleteIpamIpsStatus521  " ++ e.text)
  else if .errForbidReleasingStatefulWorkload ∈ e.sentinels then
    .new ("[DELETE /ipam/ips][522] deleteIpamIpsStatus522  " ++ e.text)
  else .new ("[DELETE /ipam/ips][500] deleteIpamIpsFailure  " ++ e.text)

def agentReleaseIPs (cfg : Config) (env : Env) (pods : PodClient) (delArgs : IpamBatchDelArgs) :
    Prog Cloud Err Unit :=
  Prog.mapErr filteredErrResponder (releaseIPs cfg env pods delArgs)

/-- What `CmdAdd` does with the result of `DetectIPConflictAndGatewayReachable`. -/
def cleanUp (agent : IpamBatchDelArgs → Prog Cloud Err Unit) (args : CmdArgs) (k8sArgs : K8sArgs)
    (detected : Result Err Unit) : Prog Cloud Err Unit :=
  match detected with
  | .error (.err err) =>
    if .errIPConflict ∈ err.sentinels ∨ .errGatewayUnreachable ∈ err.sentinels then do
      Prog.mapErr (fun e => ⟨err.sentinels ++ e.sentinels, err.text ++ "; " ++ e.text⟩)
        (deleteIpamIps agent args k8sArgs)
      .ret (fail err)
    else .ret (fail err)
  | detected => .ret detected

/-- The addresses of the Pod may be released because of a conflict: it is neither a Pod of a
StatefulSet nor of a virtual machine that keep their addresses, and the agent is configured to
release those of others. -/
def MayRelease (cfg : Config) (pods : PodClient) (pod : Pod) : Prop :=
  ∃ pc, pods.getPodTopController pod = .ok pc ∧ cfg.isStatefulSet pc = false ∧
    cfg.isKubevirt pc = false ∧ cfg.enableReleaseConflictIPsForStateless = true

section

variable {cfg : Config} {env : Env} {pods : PodClient} {delArgs : IpamBatchDelArgs} {pod : Pod}
  {c : Cloud}

theorem checkReleaseConflictIPs_ok {pod? : Option Pod} (hflag : delArgs.isReleaseConflictIPs = true)
    (hpod : pods.getPodByName delArgs.podNamespace delArgs.podName = .found pod)
    (hpod? : ∀ p ∈ pod?, p = pod) (h : checkReleaseConflictIPs cfg pods delArgs pod? = .ok ()) :
    MayRelease cfg pods pod := by
  unfold checkReleaseConflictIPs at h
  rw [if_neg (by simp [hflag])] at h
  split_ifs at h with henabled
  · cases h
  · obtain ⟨pod', hpod', h⟩ := bind_eq_ok.1 h
    obtain rfl : pod = pod' := by
      cases pod? with
      | none =>
        rw [batchPod, hpod] at hpod'
        exact Except.ok.inj hpod'
      | some p => exact (hpod? p rfl).symm.trans (Except.ok.inj hpod')
    obtain ⟨pc, hpc, h⟩ := bind_eq_ok.1 h
    rw [failIf_eq_ok, not_or, Bool.not_eq_true, Bool.not_eq_true] at h
    exact ⟨pc, mapErr_eq_ok.1 hpc, h.1, h.2, by simpa using henabled⟩

theorem flagged_kept (hflag : delArgs.isReleaseConflictIPs = true)
    (hpod : pods.getPodByName delArgs.podNamespace delArgs.podName = .found pod)
    (hnot : ¬ MayRelease cfg pods pod) :
    Prog.Holds (fun c' => c' = c) (fun _ _ => True) (releaseIPs cfg env pods delArgs) c := by
  refine Prog.Holds.ret_bind rfl (fun found huid => ?_) fun _ _ => trivial
  cases found with
  | none => exact ⟨rfl, trivial⟩
  | some uidPod =>
    obtain ⟨podUID, pod?⟩ := uidPod
    have hpod? : ∀ p ∈ pod?, p = pod := by
      intro p hp
      unfold batchPodUID at huid
      split_ifs at huid
      · obtain ⟨-, rfl⟩ := Prod.mk.inj (Option.some.inj (Except.ok.inj huid))
        cases hp
      · rw [hpod] at huid
        obtain ⟨-, rfl⟩ := Prod.mk.inj (Option.some.inj (Except.ok.inj huid))
        exact (Option.some.inj hp).symm
    refine Prog.Holds.ret_bind rfl (fun _ hcheck => ?_) fun _ _ => trivial
    exact absurd (checkReleaseConflictIPs_ok hflag hpod hpod? hcheck) hnot

theorem releaseEndpointIPs_run {e : SpiderEndpoint} (hvalid : c.api.Valid)
    (he : c.api.endpoints.lookup (delArgs.podNamespace, delArgs.podName) = some e)
    (hips : e.ips ≠ []) :
    ∃ c', (releaseEndpointIPs e e.uid).run c = (.ok e.ips, c') ∧
      c'.api.endpoints.lookup (delArgs.podNamespace, delArgs.podName) = some { e with ips := [] } := by
  obtain ⟨hname, hheld⟩ := hvalid _ _ he
  have hupdate : updateEndpoint { e with ips := [] } c.api =
      (.ok { e with ips := [] }, c.api.store { e with ips := [] }) := by
    unfold updateEndpoint
    have hkey : SpiderEndpoint.namespacedName { e with ips := [] } =
        (delArgs.podNamespace, delArgs.podName) := hname
    rw [hkey, he]
  have hlookup := ApiServer.lookup_store (s := c.api) (e := { e with ips := [] }) hname
  rw [if_neg fun h => hheld h.1 h.2] at hlookup
  refine ⟨{ c with api := c.api.store { e with ips := [] } }, ?_, hlookup⟩
  rw [releaseEndpointIPs, if_neg (not_not.2 rfl), if_neg hips, Prog.run_bind,
    Prog.run_request]
  refine Eff.bind_eq_ok.2 ⟨{ e with ips := [] }, _, ?_, rfl⟩
  rw [onApi, hupdate]

theorem unflagged_kept_iff {podUID : String} {pod? : Option Pod} (hvalid : c.api.Valid)
    (hflag : delArgs.isReleaseConflictIPs = false)
    (huid : batchPodUID pods delArgs = .ok (some (podUID, pod?))) :
    ((releaseIPs cfg env pods delArgs).run c).2 = c ↔
      ∀ e, c.api.endpoints.lookup (delArgs.podNamespace, delArgs.podName) = some e →
        e.uid = podUID → e.ips = [] := by
  have hcheck : checkReleaseConflictIPs cfg pods delArgs pod? = .ok () := if_pos hflag
  have hget : ∀ f : Err → Err,
      Eff.mapErr f (onApi (getEndpointByName delArgs.podNamespace delArgs.podName)) c =
      (.ok (c.api.endpoints.lookup (delArgs.podNamespace, delArgs.podName)), c) := fun _ => rfl
  rw [releaseIPs, huid, Prog.ret_ok_bind]
  dsimp only
  rw [hcheck, Prog.ret_ok_bind, Prog.run_bind, Prog.run_mapErr, Prog.run_request,
    Eff.bind_of_ok _ (hget _)]
  cases he : c.api.endpoints.lookup (delArgs.podNamespace, delArgs.podName) with
  | none => exact iff_of_true rfl nofun
  | some e =>
    rw [Prog.run_bind, Prog.run_mapErr]
    by_cases hu : e.uid = podUID
    · subst hu
      by_cases hips : e.ips = []
      · have hnone : releaseEndpointIPs e e.uid = pure [] :=
          (if_neg (not_not.2 rfl)).trans (if_pos hips)
        rw [hnone]
        exact iff_of_true rfl fun e' he' _ => Option.some.inj he' ▸ hips
      · obtain ⟨c₁, hrun, hc₁⟩ := releaseEndpointIPs_run hvalid he hips
        refine iff_of_false (fun hkept => ?_) fun h => hips (h e rfl rfl)
        rw [Eff.bind_of_ok _ (Eff.mapErr_eq_ok.2 hrun), if_neg hips] at hkept
        have hlost := ((Stepwise.release_holds (I := fun c' => c'.api.endpoints = c₁.api.endpoints)
          rfl fun pool ius _ c' hc' => (onPool_endpoints pool _ c'.api).trans hc').reaches
          (Prog.reaches_run (Stepwise.release env e.uid e.ips) c₁)).1
        rw [hkept] at hlost
        rw [← hlost, he] at hc₁
        exact hips (congrArg SpiderEndpoint.ips (Option.some.inj hc₁))
    · have hother : ∃ err, releaseEndpointIPs e podUID = .ret (fail err) := ⟨_, if_pos hu⟩
      obtain ⟨err, hother⟩ := hother
      rw [hother]
      exact iff_of_true rfl fun e' he' hu' => absurd (Option.some.inj he' ▸ hu') hu

theorem cleanUp_run {args : CmdArgs} {k8sArgs : K8sArgs} {err : Err}
    (herr : .errIPConflict ∈ err.sentinels ∨ .errGatewayUnreachable ∈ err.sentinels) :
    ((cleanUp (agentReleaseIPs cfg env pods) args k8sArgs (fail err)).run c).2 =
      ((deleteIpamIps (releaseIPs cfg env pods) args k8sArgs).run c).2 := by
  have hseq : ∀ (m : Eff Cloud Err Unit) (r : Result Err Unit),
      ((m >>= fun _ => Eff.lift r) c).2 = (m c).2 := by
    intro m r
    rcases hm : m c with ⟨e | a, c'⟩
    · rw [Eff.bind_of_error _ hm]
    · rw [Eff.bind_of_ok _ hm]
      rfl
  have hclean : cleanUp (agentReleaseIPs cfg env pods) args k8sArgs (fail err) = _ := if_pos herr
  rw [hclean, Prog.run_bind, Prog.run_mapErr]
  refine (hseq _ _).trans ?_
  change ((agentReleaseIPs cfg env pods _).run c).2 = _
  rw [agentReleaseIPs, Prog.run_mapErr]
  rfl

end

/-- When the CNI plugin cleans up after a conflict, the agent keeps to what may be released
exactly if the addresses of the Pod may be released anyway, or there is none to release. -/
theorem cleanUp_permitted_iff (cfg : Config) (env : Env) (pods : PodClient) (args : CmdArgs)
    (k8sArgs : K8sArgs) (err : Err) (pod : Pod) (c : Cloud) (hvalid : c.api.Valid)
    (herr : .errIPConflict ∈ err.sentinels ∨ .errGatewayUnreachable ∈ err.sentinels)
    (hpod : pods.getPodByName k8sArgs.podNamespace k8sArgs.podName = .found pod) :
    (((cleanUp (agentReleaseIPs cfg env pods) args k8sArgs (fail err)).run c).2 ≠ c →
        MayRelease cfg pods pod) ↔
      MayRelease cfg pods pod ∨
        ∀ e, c.api.endpoints.lookup (k8sArgs.podNamespace, k8sArgs.podName) = some e →
          e.uid = (if k8sArgs.podUID = "" then pod.uid else k8sArgs.podUID) → e.ips = [] := by
  have hkept : ((cleanUp (agentReleaseIPs cfg env pods) args k8sArgs (fail err)).run c).2 = c ↔
      ∀ e, c.api.endpoints.lookup (k8sArgs.podNamespace, k8sArgs.podName) = some e →
        e.uid = (if k8sArgs.podUID = "" then pod.uid else k8sArgs.podUID) → e.ips = [] := by
    rw [cleanUp_run herr]
    refine unflagged_kept_iff hvalid rfl (?_ : batchPodUID pods _ = .ok (some (_,
      if k8sArgs.podUID = "" then some pod else none)))
    unfold batchPodUID
    by_cases huid : k8sArgs.podUID = ""
    · simp [huid, hpod]
    · simp [huid]
  rw [← hkept]
  tauto

end IPAM

/-! ### A Pod of a StatefulSet, and a Pod of its own -/

namespace Sample

open IPAM

def pods (pc : PodTopController) : PodClient where
  getPodByName _ _ := .found (pod "u1")
  getPodTopController _ := .ok pc

def k8sArgs : K8sArgs where
  podName := "web-0"
  podNamespace := "default"
  podUID := "u1"

def conflict (cfg : Config) (pc : PodTopController) : Prog Cloud Err Unit :=
  cleanUp (agentReleaseIPs cfg {} (pods pc)) ⟨"c1", "/proc/1/ns/net"⟩ k8sArgs
    (fail (.of .errIPConflict))

/-- The addresses of a Pod of its own are released by an agent that is configured for that. -/
theorem stateless_permitted :
    ((conflict { enableReleaseConflictIPsForStateless := true } topController).run
      ⟨server (allocated "u1"), []⟩).2 ≠ ⟨server (allocated "u1"), []⟩ ∧
      MayRelease { enableReleaseConflictIPsForStateless := true } (pods topController) (pod "u1") := by
  have hchanged : ((conflict { enableReleaseConflictIPsForStateless := true } topController).run
      ⟨server (allocated "u1"), []⟩).2 ≠ ⟨server (allocated "u1"), []⟩ := by
    intro h
    have hcount : some (0 : ℤ) = some 1 := congrArg (fun c : Cloud =>
      (c.api.pools.lookup "sample").bind (·.status.allocatedIPCount)) h
    exact absurd hcount (by decide)
  refine ⟨hchanged, (cleanUp_permitted_iff _ _ _ _ k8sArgs _ (pod "u1")
    ⟨server (allocated "u1"), []⟩ (server_valid _) (.inl (List.mem_singleton_self _)) rfl).2 ?_
    hchanged⟩
  exact .inl ⟨topController, rfl, rfl, rfl, rfl⟩

/-- The agent keeps the addresses of StatefulSets and is not configured to release any because of
a conflict. That of the Pod is released. -/
theorem stateful_released :
    ¬ MayRelease { enableStatefulSet := true } (pods statefulSet) (pod "u1") ∧
    Recorded (server (allocated "u1")) "u1" "sample" "10.0.0.1" ∧
    ¬ Recorded ((conflict { enableStatefulSet := true } statefulSet).run
      ⟨server (allocated "u1"), []⟩).2.api "u1" "sample" "10.0.0.1" := by
  refine ⟨?_, ⟨allocated "u1", ⟨"default/web-0", "u1"⟩, rfl, rfl, rfl⟩, ?_⟩
  · rintro ⟨pc, -, -, -, h⟩
    cases h
  · rintro ⟨p, r, hp, hr, -⟩
    have hpool : ((conflict { enableStatefulSet := true } statefulSet).run
        ⟨server (allocated "u1"), []⟩).2.api.pools.lookup "sample" =
          some ((pool.setRecords ∅).setCount 0) := rfl
    obtain rfl := Option.some.inj (hpool.symm.trans hp)
    cases hr

end Sample

end Spiderpool
