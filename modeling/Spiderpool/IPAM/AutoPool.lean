/-
# The number of addresses the agent expects of an auto-created pool

`getAutoPoolIPNumber` and `isPoolIPsDesired` of `pkg/ipam/utils.go` and `findAppAutoPool` of
`pkg/ipam/pool_selections.go`. The agent computes the number of addresses from the Pod's
annotation and the application, apart from the controller, and takes a pool at once only if it
has exactly that number; otherwise it asks again until its retries are used up.
-/

import Spiderpool.Subnet.Application

namespace Spiderpool
namespace IPAM

open AppController (AppWorkQueueKey AppObject AutoPoolCall Listers SyncedApp matchLabels)

/-- The switch of `getAutoPoolIPNumber` behind the Pod's case. An object of another type than the
kind's panics; `none` is a third-party controller. -/
def kindReplicas (c : PodTopController) : Result Err (Option ℤ) :=
  if c.kind = Constant.kindDeployment then
    match c.app with
    | .deployment replicas => .ok (some (getAppReplicas replicas))
    | _ => .error .panic
  else if c.kind = Constant.kindReplicaSet then
    match c.app with
    | .replicaSet replicas => .ok (some (getAppReplicas replicas))
    | _ => .error .panic
  else if c.kind = Constant.kindStatefulSet then
    match c.app with
    | .statefulSet replicas => .ok (some (getAppReplicas replicas))
    | _ => .error .panic
  else if c.kind = Constant.kindDaemonSet then
    match c.app with
    | .daemonSet desiredNumberScheduled => .ok (some desiredNumberScheduled)
    | _ => .error .panic
  else if c.kind = Constant.kindJob then
    match c.app with
    | .job parallelism completions => .ok (some (calculateJobPodNum parallelism completions))
    | _ => .error .panic
  else if c.kind = Constant.kindCronJob then
    match c.app with
    | .cronJob parallelism completions => .ok (some (calculateJobPodNum parallelism completions))
    | _ => .error .panic
  else .ok none

def getAutoPoolIPNumber (anno : PodAnnotations) (c : PodTopController) : Result Err ℤ :=
  if c.apiVersion ∈ Constant.k8sAPIVersions ∧ c.kind = Constant.kindPod then .ok 1
  else do
    let appReplicas ← (if c.apiVersion ∈ Constant.k8sAPIVersions then kindReplicas c else .ok none)
    match anno.poolIPNumber with
    | some value => do
      let (isFlexible, ipNum) ← checkedPoolIPNumber value
      return if isFlexible then addInt (appReplicas.getD 0) ipNum else ipNum
    | none =>
      match appReplicas with
      | none => fail (.new (c.kind ++ "/" ++ c.ns ++ "/" ++ c.name ++
          " only supports fixed auto-created IPPool IP Number"))
      | some replicas => .ok (addInt replicas 0)

def isPoolIPsDesired (pool : IPPool) (desiredIPCount : ℤ) : Result Err Bool := do
  let ipVersion ← deref pool.spec.ipVersion
  let totalIPs ← dropErr (assembleTotalIPs ipVersion pool.spec.ips pool.spec.excludeIPs)
  match totalIPs with
  | none => return false
  | some ips => return decide ((ips.length : ℤ) = desiredIPCount)

/-- The loop of `findAppAutoPool` over what the cache answers in each round. A pool without the
desired number is kept in case no later round has it. -/
def retryLoop (desiredIPNumber : ℤ) (listErr : Err → Err) (manyErr : Err) :
    List (Result Err (List IPPool)) → Option IPPool → Result Err (Option IPPool)
  | [], pool => .ok pool
  | answer :: answers, pool => do
    match ← mapErr listErr answer with
    | [] => retryLoop desiredIPNumber listErr manyErr answers pool
    | [p] => do
      let desired ← isPoolIPsDesired p desiredIPNumber
      if desired then .ok (some p) else retryLoop desiredIPNumber listErr manyErr answers (some p)
    | _ => fail manyErr

/-- `findAppAutoPool`. `listIPPools` is what the cache answers in each of the rounds
`1, …, retries`; the pools that the last error prints are left out. -/
def findAppAutoPool (retries : ℕ) (listIPPools : GoMap String String → ℕ → Result Err (List IPPool))
    (subnetName ifName : String) (ipVersion : IPVersion) (desiredIPNumber : ℤ)
    (c : PodTopController) : Result Err IPPool := do
  let labels := (matchLabels c subnetName ipVersion ifName).insert
    Constant.labelIPPoolOwnerApplicationUID c.uid
  let pool ← retryLoop desiredIPNumber
    (.wrap ("failed to get auto-created IPPoolList with labels '" ++ formatMap labels ++
      "', error: ") · "")
    (.new ("it's invalid for '" ++ c.kind ++ "/" ++ c.ns ++ "/" ++ c.name ++
      "' corresponding SpiderSubnet '" ++ subnetName ++ "' owns multiple matchLables '" ++
      formatMap labels ++ "' corresponding IPPools for one specify application"))
    ((List.range' 1 retries).map (listIPPools labels)) none
  match pool with
  | none => fail (.new ("no matching auto-created IPPool candidate with matchLables '" ++
      formatMap labels ++ "'"))
  | some p => return p

section

variable {listers : Listers} {key : AppWorkQueueKey} {app : SyncedApp} {c : PodTopController}

/-- What the listers of the controller say about an application, seen with the eyes of the
agent. -/
structure CountedApp (app : SyncedApp) : Prop where
  notPod : app.podController.kind ≠ Constant.kindPod
  replicas : kindReplicas app.podController = .ok (some app.appReplicas)
  inRange : -2 ^ 63 ≤ app.appReplicas ∧ app.appReplicas < 2 ^ 63

theorem replicasOf_inRange (r : Option Int32) :
    -2 ^ 63 ≤ AppController.replicasOf r ∧ AppController.replicasOf r < 2 ^ 63 := by
  cases r with
  | none => exact ⟨by decide, by decide⟩
  | some r =>
    have hlt := r.toInt_lt
    have hle := r.le_toInt
    simp only [AppController.replicasOf, getAppReplicas, Option.map_some, Option.getD_some]
    omega

theorem jobPodsOf_inRange (j : Option Int32 × Option Int32) :
    -2 ^ 63 ≤ AppController.jobPodsOf j ∧ AppController.jobPodsOf j < 2 ^ 63 := by
  have hbound : ∀ n : Int32, -2 ^ 63 ≤ (if n.toInt = 0 then 1 else n.toInt) ∧
      (if n.toInt = 0 then 1 else n.toInt) < 2 ^ 63 := by
    intro n
    have hlt := n.toInt_lt
    have hle := n.le_toInt
    split_ifs <;> omega
  rcases j with ⟨_ | p, _ | c⟩
  · exact ⟨by decide, by decide⟩
  · exact hbound c
  · exact hbound p
  · exact hbound c

theorem listed_counted {α : Type} {object : Result Err (Option (AppObject α))}
    {kind apiVersion : String} {toApp : α → App} {replicas : α → ℤ}
    (h : AppController.listed object kind apiVersion toApp replicas = .ok (some app))
    (hpod : kind ≠ Constant.kindPod)
    (hkind : ∀ x, ∀ c : PodTopController, c.kind = kind → c.app = toApp x →
      kindReplicas c = .ok (some (replicas x)))
    (hrange : ∀ x, -2 ^ 63 ≤ replicas x ∧ replicas x < 2 ^ 63) : CountedApp app := by
  obtain ⟨object, -, h⟩ := bind_eq_ok.1 h
  obtain ⟨o, -, rfl⟩ := Option.map_eq_some_iff.1 (Except.ok.inj h)
  exact ⟨hpod, hkind o.count _ rfl rfl, hrange o.count⟩

theorem findApp_counted {ns name : String}
    (h : AppController.findApp listers key ns name = .ok (some app)) : CountedApp app := by
  unfold AppController.findApp at h
  have hint32 : ∀ n : Int32, -2 ^ 63 ≤ n.toInt ∧ n.toInt < 2 ^ 63 := fun n =>
    ⟨by have := n.le_toInt; omega, by have := n.toInt_lt; omega⟩
  split_ifs at h with h₁ h₂ h₃ h₄ h₅ h₆
  · refine listed_counted h (by rw [h₁]; decide) (fun x c hk ha => ?_) replicasOf_inRange
    simp [kindReplicas, hk, h₁, ha, AppController.replicasOf]
  · refine listed_counted h (by rw [h₂]; decide) (fun x c hk ha => ?_) replicasOf_inRange
    rw [h₂] at hk
    simp [kindReplicas, hk, ha, AppController.replicasOf, Constant.kindReplicaSet,
      Constant.kindDeployment]
  · refine listed_counted h (by rw [h₃]; decide) (fun x c hk ha => ?_) hint32
    rw [h₃] at hk
    simp [kindReplicas, hk, ha, Constant.kindReplicaSet, Constant.kindDeployment,
      Constant.kindStatefulSet, Constant.kindDaemonSet]
  · refine listed_counted h (by rw [h₄]; decide) (fun x c hk ha => ?_) replicasOf_inRange
    rw [h₄] at hk
    simp [kindReplicas, hk, ha, AppController.replicasOf, Constant.kindReplicaSet,
      Constant.kindDeployment, Constant.kindStatefulSet]
  · refine listed_counted h (by rw [h₅]; decide) (fun x c hk ha => ?_) jobPodsOf_inRange
    rw [h₅] at hk
    simp [kindReplicas, hk, ha, AppController.jobPodsOf, Constant.kindReplicaSet,
      Constant.kindDeployment, Constant.kindStatefulSet, Constant.kindDaemonSet, Constant.kindJob]
  · refine listed_counted h (by rw [h₆]; decide) (fun x c hk ha => ?_) jobPodsOf_inRange
    rw [h₆] at hk
    simp [kindReplicas, hk, ha, AppController.jobPodsOf, Constant.kindReplicaSet,
      Constant.kindDeployment, Constant.kindStatefulSet, Constant.kindDaemonSet, Constant.kindJob,
      Constant.kindCronJob]

  · exact absurd h fail_ne_ok

/-- The number that the agent takes from the annotation: it is as if no redundant addresses were
configured, and a third-party controller had no replicas. -/
theorem getAutoPoolIPNumber_ok {anno : PodAnnotations} {n : ℤ} (hpod : c.kind ≠ Constant.kindPod)
    (h : getAutoPoolIPNumber anno c = .ok n) :
    ∃ replicas, (if c.apiVersion ∈ Constant.k8sAPIVersions then kindReplicas c else .ok none) =
        .ok replicas ∧ (anno.poolIPNumber = none → replicas ≠ none) ∧
      NumberAsked 0 anno.poolIPNumber (replicas.getD 0) n := by
  unfold getAutoPoolIPNumber at h
  rw [if_neg fun hc => hpod hc.2] at h
  obtain ⟨replicas, hreplicas, h⟩ := bind_eq_ok.1 h
  refine ⟨replicas, hreplicas, ?_⟩
  cases hvalue : anno.poolIPNumber with
  | none =>
    rw [hvalue] at h
    cases replicas with
    | none => cases h
    | some r =>
      obtain rfl := Except.ok.inj h
      exact ⟨nofun, rfl⟩
  | some value =>
    rw [hvalue] at h
    obtain ⟨⟨isFlexible, ipNum⟩, hnumber, h⟩ := bind_eq_ok.1 h
    exact ⟨nofun, isFlexible, ipNum, hnumber, (Except.ok.inj h).symm⟩

/-- When the number of the agent, which sees the application under an API version, is that of the
controller. -/
def Agrees (redundant : Int64) (apiVersion : String) (app : SyncedApp) : Prop :=
  match app.podAnno.poolIPNumber with
  | none => redundant = 0
  | some value =>
    (cut value '+').2 = none ∨ apiVersion ∈ Constant.k8sAPIVersions ∨ app.appReplicas = 0

/-- **The agent and the controller agree** on the number of addresses of an auto-created pool
exactly if the annotation is there or no redundant addresses are configured. For an API version
that the agent does not know the annotation has to be a fixed number, or there are no replicas. -/
theorem desired_agree_iff {env : AppController.Env} {calls : List AutoPoolCall} {pod : Pod} {n : ℤ}
    (hsync : AppController.syncHandler env key = .ok (.applied app calls))
    (hkind : c.kind = app.podController.kind)
    (happ : c.apiVersion ∈ Constant.k8sAPIVersions → c.app = app.podController.app)
    (hanno : pod.annotations.poolIPNumber = app.podAnno.poolIPNumber)
    (hagent : getAutoPoolIPNumber pod.annotations c = .ok n) :
    ∀ call ∈ calls, call.property.desiredIPNumber = n ↔ Agrees env.redundant c.apiVersion app := by
  intro call hcall
  obtain ⟨⟨ns, name, hfind⟩, hcalls⟩ := AppController.syncHandler_ok hsync
  have hcounted := findApp_counted hfind
  have hcontroller := hcalls call hcall
  obtain ⟨replicas, hreplicas, hknown, hexpected⟩ :=
    getAutoPoolIPNumber_ok (hkind ▸ hcounted.notPod) hagent
  rw [hanno] at hknown hexpected
  have hzero : -2 ^ 63 ≤ (0 : ℤ) ∧ (0 : ℤ) < 2 ^ 63 := ⟨by decide, by decide⟩
  by_cases hapi : c.apiVersion ∈ Constant.k8sAPIVersions
  · -- the agent has counted the same replicas
    have hsame : kindReplicas c = kindReplicas app.podController := by
      simp only [kindReplicas, hkind, happ hapi]
    rw [if_pos hapi, hsame, hcounted.replicas] at hreplicas
    obtain rfl := Except.ok.inj hreplicas
    cases hvalue : app.podAnno.poolIPNumber with
    | none =>
      rw [hvalue] at hcontroller hexpected
      rw [numberAsked_none_iff hcontroller hexpected, Agrees, hvalue]
    | some value =>
      rw [hvalue] at hcontroller hexpected
      rw [numberAsked_some_iff hcounted.inRange hcounted.inRange hcontroller hexpected, Agrees,
        hvalue]
      simp [hapi]
  · rw [if_neg hapi] at hreplicas
    obtain rfl := Except.ok.inj hreplicas
    cases hvalue : app.podAnno.poolIPNumber with
    | none => exact absurd rfl (hknown hvalue)
    | some value =>
      rw [hvalue] at hcontroller hexpected
      rw [numberAsked_some_iff hcounted.inRange hzero hcontroller hexpected, Agrees, hvalue]
      simp [hapi]

end

end IPAM

namespace Sample

open AppController (AppObject AppWorkQueueKey AutoPoolCall SyncedApp)
open IPAM

def webDeployment (poolIPNumber : Option String) : AppObject (Option Int32) where
  ns := "default"
  name := "web"
  uid := "web-uid"
  annotations :=
    { subnet := some (.doc (some { ipv4 := ["sample"] })), poolIPNumber := poolIPNumber }
  count := some 2

def webCluster (poolIPNumber : Option String) : AppController.Env where
  redundant := 1
  listers := { deployments := fun _ _ => .ok (some (webDeployment poolIPNumber)) }

def webKey : AppWorkQueueKey := ⟨"default/web", "Deployment", "web-uid"⟩

def webApp (poolIPNumber : Option String) : SyncedApp where
  podController :=
    { apiVersion := "apps/v1", kind := "Deployment", ns := "default", name := "web",
      uid := "web-uid", app := .deployment (some 2) }
  podAnno := (webDeployment poolIPNumber).annotations
  appReplicas := 2

def webPod (poolIPNumber : Option String) : Pod where
  ns := "default"
  name := "web-0"
  uid := "web-0-uid"
  annotations := (webDeployment poolIPNumber).annotations

def webCall (poolIPNumber : Option String) : AutoPoolCall where
  pool := none
  subnetName := "sample"
  podController := (webApp poolIPNumber).podController
  property := ⟨3, 4, true, "eth0"⟩

theorem annotated_number_agrees :
    AppController.syncHandler (webCluster (some "+1")) webKey =
        .ok (.applied (webApp (some "+1")) [webCall (some "+1")]) ∧
      getAutoPoolIPNumber (webPod (some "+1")).annotations (webApp (some "+1")).podController =
        .ok 3 ∧
      (∀ call ∈ [webCall (some "+1")], call.property.desiredIPNumber = 3 ↔
        Agrees (webCluster (some "+1")).redundant "apps/v1" (webApp (some "+1"))) := by
  have hsync : AppController.syncHandler (webCluster (some "+1")) webKey =
      .ok (.applied (webApp (some "+1")) [webCall (some "+1")]) := rfl
  have hagent : getAutoPoolIPNumber (webPod (some "+1")).annotations
      (webApp (some "+1")).podController = .ok 3 := by decide
  exact ⟨hsync, hagent, desired_agree_iff hsync rfl (fun _ => rfl) rfl hagent⟩

/-- Without the annotation the controller gives the pool three addresses and the agent waits for
two. -/
theorem default_number_differs :
    AppController.syncHandler (webCluster none) webKey = .ok (.applied (webApp none) [webCall none]) ∧
      (webCall none).property.desiredIPNumber = 3 ∧
      getAutoPoolIPNumber (webPod none).annotations (webApp none).podController = .ok 2 :=
  ⟨rfl, rfl, rfl⟩

end Sample
end Spiderpool
