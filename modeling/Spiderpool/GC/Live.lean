/-
# Pods that live

When `executeScanAll` releases the address of a Pod that is pending, or that runs with an address,
is not being deleted, and has the UID of the record. Its status never asks for that, nor does the
record. But the comparison with the endpoint of the Pod's name does, if the Pod is stateless and the
endpoint carries another UID (`live_kept_iff`).
-/

import Spiderpool.GC.Calls

namespace Spiderpool

section

variable {cfg : GCConfig} {view : ClusterView} {podNS podName : String} {v : Visit} {pod : Pod}

theorem shouldGCOnNode_ok {static : Bool} :
    (∃ shouldGC, shouldGCOnNode cfg view pod static = .ok shouldGC) ↔
      static = true ∨ ∃ node, view.node pod.nodeName = .found node := by
  unfold shouldGCOnNode isShouldGCOrTraceStatelessTerminatingPodOnNode
  cases static
  · cases view.node pod.nodeName with
    | found node =>
      refine iff_of_true ?_ (.inr ⟨node, rfl⟩)
      dsimp only
      rw [← apply_ite Except.ok]
      exact ⟨_, rfl⟩
    | notFound => simp [mapErr, fail]
    | failed e => simp [mapErr, fail]
  · simp [pure, Except.pure]

theorem endpointFlags_releases {static s : Bool} {e : Lookup SpiderEndpoint} :
    (∃ b, endpointFlags cfg view podNS podName pod static s e = .ok (true, b)) ↔
      static = false ∧ ∃ endpoint, e = .found endpoint ∧ endpoint.uid ≠ pod.uid := by
  cases e with
  | notFound => simp [endpointFlags, pure, Except.pure]
  | failed e => simp [endpointFlags, pure, Except.pure]
  | found endpoint =>
    unfold endpointFlags
    dsimp only
    by_cases huid : pod.uid = endpoint.uid
    · simp [huid, pure, Except.pure]
    · cases static
      · simp [huid, Ne.symm huid, pure, Except.pure]
      · by_cases hips : pod.podIPs = []
        · cases checkStatic cfg view podNS podName pod <;>
            simp [huid, hips, bind, Except.bind, pure, Except.pure]
        · simp [huid, hips, pure, Except.pure]

theorem podStatusFlags_live (static shouldGC : Bool) (hlive : pod.deletionTimestamp = none)
    (hphase : pod.phase = .pending ∨ pod.phase = .running ∧ pod.podIPs ≠ []) :
    podStatusFlags cfg view podNS podName pod static shouldGC = .ok (false, false) := by
  rcases hphase with hphase | ⟨hphase, hips⟩
  · simp [podStatusFlags, hphase, pure, Except.pure]
  · simp [podStatusFlags, hphase, hips, hlive, pure, Except.pure]

theorem poolFlag_of_uid {static s : Bool} {record : PoolIPAllocation}
    (huid : pod.uid = record.podUID) :
    poolFlag cfg view podNS podName pod static s record = .ok s :=
  if_neg (not_not.2 huid)

/-- A Pod that is pending, or running with addresses, and not being deleted keeps the address that
is recorded for its UID exactly if it is static, its node is not found, or the endpoint of
its name, if there is one, carries its UID. -/
theorem live_kept_iff
    (hkey : splitMetaNamespaceKey v.record.namespacedName = .ok (podNS, podName))
    (hpod : view.pod podNS podName = .found pod) (huid : pod.uid = v.record.podUID)
    (hlive : pod.deletionTimestamp = none)
    (hphase : pod.phase = .pending ∨ pod.phase = .running ∧ pod.podIPs ≠ []) :
    ¬Releases cfg view v ↔
      isStaticIPPod cfg.enableStatefulSet cfg.enableKubevirtStaticIP pod = true ∨
      (∀ node, view.node pod.nodeName ≠ .found node) ∨
      ∀ endpoint, view.endpoint podNS podName = .found endpoint → endpoint.uid = pod.uid := by
  have hrel : Releases cfg view v ↔
      (∃ shouldGC, shouldGCOnNode cfg view pod
        (isStaticIPPod cfg.enableStatefulSet cfg.enableKubevirtStaticIP pod) = .ok shouldGC) ∧
      ∃ b, endpointFlags cfg view podNS podName pod
        (isStaticIPPod cfg.enableStatefulSet cfg.enableKubevirtStaticIP pod) false
        (view.endpoint podNS podName) = .ok (true, b) := by
    rw [releases_iff hkey hpod, scanPod_iff (Q := fun f => f.releaseIP = true) (by simp) rfl]
    constructor
    · rintro ⟨g, status, inPool, ep, hg, hst, hpool, hep, hor⟩
      rw [podStatusFlags_live _ _ hlive hphase] at hst
      obtain rfl := Except.ok.inj hst
      rw [poolFlag_of_uid huid] at hpool
      obtain rfl := Except.ok.inj hpool
      obtain ⟨e, b⟩ := ep
      obtain rfl : e = true := by simpa using hor
      exact ⟨⟨g, hg⟩, b, hep⟩
    · rintro ⟨⟨g, hg⟩, b, hep⟩
      exact ⟨g, _, _, _, hg, podStatusFlags_live _ _ hlive hphase, poolFlag_of_uid huid, hep, rfl⟩
  rw [hrel, shouldGCOnNode_ok, endpointFlags_releases]
  cases isStaticIPPod cfg.enableStatefulSet cfg.enableKubevirtStaticIP pod
  · simp only [Bool.false_eq_true, false_or, true_and, not_and_or, not_exists, ne_eq, not_not,
      imp_iff_not_or]
  · simp

end

namespace Sample

def gcConfig : GCConfig where
  enableStatefulSet := true
  enableKubevirtStaticIP := false
  enableGCStatelessTerminatingPodOnReadyNode := false
  enableGCStatelessTerminatingPodOnNotReadyNode := false
  enableGCStatelessRunningPodOnEmptyPodStatusIPs := false
  enableCleanOutdatedEndpoint := false
  additionalGraceDelay := 0

def visit : Visit where
  pool := { name := "sample", spec := { subnet := "10.0.0.0/24" } }
  ip := "10.0.0.1"
  record := ⟨"default/web-0", "u1"⟩

theorem visit_key : splitMetaNamespaceKey visit.record.namespacedName = .ok ("default", "web-0") :=
  rfl

def runningPod : Pod where
  ns := "default"
  name := "web-0"
  uid := "u1"
  podIPs := ["10.0.0.1"]
  nodeName := "node-1"

def viewOf (pod : Pod) (endpointUID ownerControllerType : String) : ClusterView where
  pod _ _ := .found pod
  endpoint _ _ := .found {
    ns := "default", name := "web-0", uid := endpointUID
    ownerControllerType := ownerControllerType }
  node _ := .found ⟨[⟨Constant.nodeReady, Constant.conditionTrue⟩]⟩
  statefulSet _ _ := .found ⟨some 1, none⟩
  vmi _ _ := .notFound
  vm _ _ := .notFound
  now := 0
  elected := true

/-- A running Pod whose endpoint carries its UID keeps its address. -/
theorem running_kept : ¬Releases gcConfig (viewOf runningPod "u1" "Deployment") visit := by
  have hpod : (viewOf runningPod "u1" "Deployment").pod "default" "web-0" = .found runningPod := rfl
  refine (live_kept_iff visit_key hpod rfl rfl (.inr ⟨rfl, by decide⟩)).2 (.inr (.inr ?_))
  rintro endpoint ⟨⟩
  rfl

/-- A running Pod with addresses loses its address to an endpoint with another UID. -/
theorem running_released :
    runningPod.uid = visit.record.podUID ∧ runningPod.deletionTimestamp = none ∧
    runningPod.phase = .running ∧ runningPod.podIPs ≠ [] ∧
    Releases gcConfig (viewOf runningPod "u0" "Deployment") visit := by
  refine ⟨rfl, rfl, rfl, by decide, [.releaseIP "sample" ⟨"10.0.0.1", "u1"⟩,
    .releaseEndpoint "default" "web-0"], rfl, ?_⟩
  exact List.mem_cons_self

end Sample

end Spiderpool
