/-
# The endpoint of a Pod that is created anew

When `Allocate` finds an endpoint of another UID under the Pod's name, it comes to create one of that
name (`create_clear_iff`). The old one is not gone by then if a StatefulSet Pod has lost only some of
its interfaces, if the interface asked for is not recorded for a stateful Pod, or if somebody else
holds a finalizer.
-/

import Spiderpool.IPAM.Allocate

namespace Spiderpool

/-- The endpoints are stored under their names, and none that is being deleted has lost its
last finalizer. -/
def ApiServer.Valid (s : ApiServer) : Prop :=
  ∀ k e, s.endpoints.lookup k = some e →
    e.namespacedName = k ∧ (e.deletionTimestamp.isSome → e.finalizers ≠ [])

section

variable {s s' : ApiServer} {e e' : SpiderEndpoint}

theorem ApiServer.lookup_store {k : String × String} (hk : e.namespacedName = k) :
    (s.store e).endpoints.lookup k =
      if e.deletionTimestamp.isSome ∧ e.finalizers = [] then none else some e := by
  subst hk
  unfold ApiServer.store
  split_ifs
  · exact AList.lookup_erase _ _
  · exact AList.lookup_insert _

theorem ApiServer.Valid.store (hs : s.Valid) (e : SpiderEndpoint) : (s.store e).Valid := by
  intro k e' hk
  by_cases hkey : k = e.namespacedName
  · subst hkey
    rw [ApiServer.lookup_store rfl] at hk
    split_ifs at hk with hgone
    obtain rfl := Option.some.inj hk
    exact ⟨rfl, fun hdel hnil => hgone ⟨hdel, hnil⟩⟩
  · refine hs k e' ?_
    unfold ApiServer.store at hk
    split_ifs at hk
    · rwa [AList.lookup_erase_ne hkey] at hk
    · rwa [AList.lookup_insert_ne hkey] at hk

namespace IPAM

open EndpointManager

def OnlyOurs (e : SpiderEndpoint) : Prop := ∀ f ∈ e.finalizers, f = Constant.spiderFinalizer

theorem removeFinalizer_gone {t : ℤ} (he : e.finalizers ≠ [])
    (hlookup : s.endpoints.lookup e.namespacedName = some { e with deletionTimestamp := some t })
    (h : EndpointManager.removeFinalizer e s = (.ok e', s')) :
    s'.endpoints.lookup e.namespacedName = none ↔ OnlyOurs e := by
  by_cases hheld : Constant.spiderFinalizer ∈ e.finalizers
  · have hremove : EndpointManager.removeFinalizer e = _ := if_neg (not_not.2 hheld)
    rw [hremove] at h
    simp only [hlookup] at h
    obtain ⟨-, rfl⟩ := Prod.mk.inj h
    rw [ApiServer.lookup_store]
    · simp [OnlyOurs]
    · rfl
  · have hremove : EndpointManager.removeFinalizer e = pure e := if_pos hheld
    rw [hremove] at h
    obtain ⟨-, rfl⟩ := Eff.pure_eq_ok.1 h
    obtain ⟨f, hf⟩ := List.exists_mem_of_ne_nil _ he
    rw [hlookup]
    refine iff_of_false (by simp) fun hours => hheld ?_
    rw [← hours f hf]
    exact hf

theorem deleteOutdated_gone {now : ℤ} (hs : s.Valid)
    (hlookup : s.endpoints.lookup e.namespacedName = some e)
    (h : deleteOutdated now e s = (.ok e', s')) :
    s'.endpoints.lookup e.namespacedName = none ↔ OnlyOurs e := by
  obtain ⟨_, s₁, hdelete, h⟩ := Eff.bind_eq_ok.1 h
  replace h := Eff.mapErr_eq_ok.1 h
  cases hdel : e.deletionTimestamp with
  | some t =>
    rw [if_neg (by simp [hdel])] at hdelete
    obtain ⟨-, rfl⟩ := Eff.pure_eq_ok.1 hdelete
    refine removeFinalizer_gone (t := t) ((hs _ _ hlookup).2 (by simp [hdel])) ?_ h
    rw [hlookup, ← hdel]
  | none =>
    rw [if_pos hdel] at hdelete
    have hs₁ : s₁ = s.store { e with deletionTimestamp := some now } := by
      simpa [deleteEndpoint, hlookup, hdel, eq_comm] using hdelete
    have hlookup₁ : s₁.endpoints.lookup e.namespacedName =
        if e.finalizers = [] then none else some { e with deletionTimestamp := some now } := by
      rw [hs₁, ApiServer.lookup_store]
      · simp
      · rfl
    by_cases hnil : e.finalizers = []
    · have hremove : EndpointManager.removeFinalizer e = pure e := if_pos (by simp [hnil])
      rw [hremove] at h
      obtain ⟨-, rfl⟩ := Eff.pure_eq_ok.1 h
      simp [hlookup₁, hnil, OnlyOurs]
    · rw [if_neg hnil] at hlookup₁
      exact removeFinalizer_gone hnil hlookup₁ h

theorem updateEndpoint_stays (hs : s.Valid) (hlookup : s.endpoints.lookup e.namespacedName = some e)
    {ips : List IPAllocationDetail} (h : updateEndpoint { e with ips := ips } s = (.ok e', s')) :
    s'.endpoints.lookup e.namespacedName ≠ none := by
  have hupdate : updateEndpoint { e with ips := ips } s =
      (.ok { e with ips := ips }, s.store { e with ips := ips }) := by
    unfold updateEndpoint
    rw [show s.endpoints.lookup (SpiderEndpoint.namespacedName { e with ips := ips }) = some e
      from hlookup]
  rw [hupdate] at h
  obtain ⟨-, rfl⟩ := Prod.mk.inj h
  rw [ApiServer.lookup_store, if_neg fun hgone => (hs _ _ hlookup).2 hgone.1 hgone.2]
  · simp
  · rfl

variable {cfg : Config} {env : Env} {candidates : Result Err (List ToBeAllocated)}
  {allocateIPs : GoMap String IPPool → Result Err (List AllocationResult) × GoMap String IPPool}
  {ifName : String} {pod : Pod} {pc : PodTopController} {results : List AllocationResult}
  {endpoint : Option SpiderEndpoint} {released : Bool}

/-- The addresses of all interfaces of the endpoint are taken to be outdated. -/
def ReleasesAll (preliminary : List ToBeAllocated) (ifName : String) (e : SpiderEndpoint)
    (isMultipleNicWithNoName : Bool) : Prop :=
  let o := outdated preliminary ifName e isMultipleNicWithNoName
  o.releaseEndpointIPsFlag = true ∧
    (isMultipleNicWithNoName = true ∨ o.needReleaseEndpointIPs.length = e.ips.length)

/-- The endpoint of another Pod is cleared away: nobody else holds it, and the Pod is stateless,
or is of a StatefulSet and loses all its addresses. -/
def Cleared (cfg : Config) (candidates : Result Err (List ToBeAllocated)) (ifName : String)
    (pod : Pod) (pc : PodTopController) (e : SpiderEndpoint) : Prop :=
  OnlyOurs e ∧
    if cfg.isStatefulSet pc then ∃ preliminary, candidates = .ok preliminary ∧
      ReleasesAll preliminary ifName e (isMultipleNicWithNoName pod.annotations)
    else cfg.isKubevirt pc = false

theorem releaseOutdated_gone (hs : s.Valid) (hsts : cfg.isStatefulSet pc = true)
    (hlookup : s.endpoints.lookup e.namespacedName = some e)
    (h : releaseOutdated cfg env candidates ifName pod pc (some e) s = (.ok (released, endpoint), s')) :
    s'.endpoints.lookup e.namespacedName = none ↔ Cleared cfg candidates ifName pod pc e := by
  have hsteps : releaseOutdated cfg env candidates ifName pod pc (some e) = _ := if_pos hsts
  rw [hsteps] at h
  obtain ⟨⟨released', e'⟩, s₁, hrelease, h⟩ := Eff.bind_eq_ok.1 h
  obtain ⟨-, rfl⟩ := Eff.pure_eq_ok.1 h
  rw [Cleared, if_pos hsts]
  cases candidates with
  | error err => cases congrArg Prod.fst hrelease
  | ok preliminary =>
    simp only [Except.ok.injEq, exists_eq_left', ReleasesAll]
    obtain ⟨hflag, hrest⟩ := releaseSts_ok hrelease
    rw [hflag]
    cases released' with
    | false =>
      rw [if_neg Bool.false_ne_true] at hrest
      rw [hrest.2, hlookup]
      simp
    | true =>
      rw [if_pos rfl] at hrest
      split_ifs at hrest with hall
      · obtain ⟨s₂, hdelete, hendpoints⟩ := hrest
        rw [hendpoints, deleteOutdated_gone hs hlookup hdelete]
        simp [hall]
      · obtain ⟨s₂, hpatch, hendpoints⟩ := hrest
        rw [hendpoints]
        exact iff_of_false (updateEndpoint_stays hs hlookup hpatch) fun hcleared => hall hcleared.2.2

/-- When `Allocate` comes to create an endpoint, there is none of that name exactly if the one
there was at the start, if any, has been cleared away. -/
theorem create_clear_iff (cfg : Config) (env : Env) (candidates : Result Err (List ToBeAllocated))
    (allocateIPs : GoMap String IPPool → Result Err (List AllocationResult) × GoMap String IPPool)
    (ifName : String) (pod : Pod) (pc : PodTopController) (results : List AllocationResult)
    (s s' : ApiServer) (hs : s.Valid)
    (h : allocateUntilPatch cfg env candidates allocateIPs ifName pod pc s =
      (.ok (.inr (results, none)), s')) :
    s'.endpoints.lookup (pod.ns, endpointName cfg pod pc) = none ↔
      ∀ e, s.endpoints.lookup (pod.ns, endpointName cfg pod pc) = some e →
        Cleared cfg candidates ifName pod pc e := by
  obtain ⟨released, endpoint', s₁, s₂, hrelease, hretrieve, hnil, hendpoints⟩ := untilPatch_ok h
  rw [hendpoints]
  cases hlookup : s.endpoints.lookup (pod.ns, endpointName cfg pod pc) with
  | none =>
    rw [hlookup] at hrelease
    obtain ⟨heq, rfl⟩ := Eff.pure_eq_ok.1 hrelease
    obtain ⟨rfl, rfl⟩ := Prod.mk.inj heq
    have hsame : s₂ = s := by
      by_cases hpc : cfg.isStatefulSet pc = true ∨ cfg.isKubevirt pc = true
      · exact retrieve_stateful hpc hretrieve
      · rw [not_or] at hpc
        unfold retrieve at hretrieve
        rw [if_neg hpc.1, if_neg hpc.2] at hretrieve
        exact (Eff.pure_eq_ok.1 (Eff.mapErr_eq_ok.1 hretrieve)).2.symm
    simp [hsame, hlookup]
  | some e =>
    rw [hlookup] at hrelease
    have hkey := (hs _ _ hlookup).1
    simp only [Option.some.injEq, forall_eq']
    rw [← hkey] at hlookup ⊢
    by_cases hsts : cfg.isStatefulSet pc = true
    · rw [retrieve_stateful (.inl hsts) hretrieve]
      exact releaseOutdated_gone hs hsts hlookup hrelease
    · have hpure : releaseOutdated cfg env candidates ifName pod pc (some e) = pure (false, some e) :=
        if_neg hsts
      rw [hpure] at hrelease
      obtain ⟨heq, rfl⟩ := Eff.pure_eq_ok.1 hrelease
      obtain ⟨rfl, rfl⟩ := Prod.mk.inj heq
      rw [Cleared, if_neg hsts]
      by_cases hkubevirt : cfg.isKubevirt pc = true
      · rw [retrieve_stateful (.inr hkubevirt) hretrieve, hlookup]
        simp [hkubevirt]
      · unfold retrieve at hretrieve
        rw [if_neg hsts, if_neg hkubevirt] at hretrieve
        have hexisting := retrieveExisting_none (Eff.mapErr_eq_ok.1 hretrieve)
        have huid : e.uid ≠ pod.uid := by simpa [Option.filter] using hnil.symm
        rw [if_neg huid] at hexisting
        obtain ⟨e', hdelete⟩ := hexisting
        rw [deleteOutdated_gone hs hlookup hdelete]
        simp [hkubevirt]

end IPAM

end

/-! ### A Pod that is created anew under its old name -/

namespace Sample

open IPAM

def standardResult : AllocationResult where
  ip := {
    address := "10.0.0.2/24", gateway := "", ipPool := "sample", nic := "eth0", version := 4
    enableGatewayDetection := false, enableIPConflictDetection := false }

def allocateIPs (pools : GoMap String IPPool) :
    Result Err (List AllocationResult) × GoMap String IPPool :=
  (.ok [standardResult], pools.insert "sample" (allocated "u2"))

theorem server_valid (p : IPPool) : (server p).Valid := by
  intro k e hk
  rw [server, GoMap.lookup_insert_eq] at hk
  split_ifs at hk with hkey
  · obtain rfl := Option.some.inj hk
    exact ⟨hkey.symm, by simp [endpoint]⟩
  · cases hk

/-- The endpoint of the stateless Pod before is gone when another is created. -/
theorem stateless_clear : ∃ s',
    allocateUntilPatch {} {} (.ok []) allocateIPs "eth0" (pod "u2") topController
      (server (allocated "u1")) = (.ok (.inr ([standardResult], none)), s') ∧
    s'.endpoints.lookup ("default", "web-0") = none := by
  have h : allocateUntilPatch {} {} (.ok []) allocateIPs "eth0" (pod "u2") topController
      (server (allocated "u1")) =
        (.ok (.inr ([standardResult], none)), ⟨∅, AList.insert "sample" (allocated "u2") ∅⟩) := rfl
  refine ⟨_, h, (create_clear_iff _ _ _ _ _ _ _ _ _ _ (server_valid _) h).2 fun e he => ?_⟩
  obtain rfl : endpoint = e := Option.some.inj he
  exact ⟨by simp [OnlyOurs, endpoint], rfl⟩

def statefulSet : PodTopController where
  apiVersion := Constant.appsV1
  kind := Constant.kindStatefulSet
  ns := "default"
  name := "web"
  uid := "sts"

def twoNICs : SpiderEndpoint :=
  { endpoint with
    ips := endpoint.ips ++
      [{ nic := "net1", ipv4 := some "10.1.0.1/24", ipv4Pool := some "other", vlan := some 0 }] }

/-- The pool of the first interface has been replaced. Its address is released, but the
endpoint stays for the other interface; as it has another UID, a new one is to be created under
its name, which fails. -/
theorem per_nic_release_blocks :
    let cfg : Config := { enableStatefulSet := true }
    let candidates : List ToBeAllocated :=
      [{ nic := "eth0", poolCandidates := [{ ipVersion := Constant.ipv4, pools := ["new"] }] }]
    let s : ApiServer := ⟨AList.insert ("default", "web-0") twoNICs ∅,
      AList.insert "sample" (allocated "u1") ∅⟩
    (∃ s', allocateUntilPatch cfg {} (.ok candidates) allocateIPs "eth0" (pod "u2") statefulSet s =
        (.ok (.inr ([standardResult], none)), s') ∧ s'.endpoints.lookup ("default", "web-0") ≠ none) ∧
      (IPAM.allocate cfg {} (.ok candidates) allocateIPs "eth0" (pod "u2") statefulSet s).1 =
        fail (.wrap ("failed to allocate IP addresses in standard mode: " ++
          "failed to patch IP allocation results to Endpoint: ") errAlreadyExists "") := by
  intro cfg candidates s
  have h : allocateUntilPatch cfg {} (.ok candidates) allocateIPs "eth0" (pod "u2") statefulSet s =
      (.ok (.inr ([standardResult], none)),
        ⟨AList.insert ("default", "web-0") { twoNICs with ips := twoNICs.ips.drop 1 } ∅,
          AList.insert "sample" (allocated "u2") ∅⟩) := rfl
  exact ⟨⟨_, h, Option.some_ne_none _⟩, rfl⟩

end Sample

end Spiderpool
