/-
# What becomes of the UID of an endpoint

`retrieveStaticIPAllocation` again, as a program on the cloud, any call of which may fail, beside
`releaseIPPoolIPExecutor`. Whatever the calls of either program are answered, and
whatever others do in between, what a worker does to an endpoint keeps the UID that it finds there
(`executor_keepsUID`), and what an ADD does writes the UID of its Pod (`retrieveStatic_writesUID`).
-/

import Spiderpool.Base.Within
import Spiderpool.GC.ProviderOrder

namespace Spiderpool

open EndpointManager IPAM

/-! ### `retrieveStaticIPAllocation`, call by call -/

namespace IPAM.Stepwise

/-- The calls of the pool manager for the addresses of the details. -/
def onPools (env : Env) (failed : String)
    (attempt : List IPAndUID → IPPool → Result Err (Option IPPool)) (uid : String)
    (details : List IPAllocationDetail) : Prog Cloud Err Unit := do
  let pius ← .ret (groupIPAllocationDetails uid details)
  .ret (mapErr (.wrap "failed to queue correctly: " · "")
    (env.acquireTicket (PoolNameToIPAndUIDs.pools pius env.ticketOrder)))
  let errs ← Prog.joinAll (fun e : Σ _ : String, List IPAndUID =>
    .request (onApi (onPool e.1 (attempt e.2)))) (env.poolOrder.visit pius)
  .ret (failIf (errs ≠ []) (.wrap (failed ++ formatPIUs pius ++ ": ") (.aggregate errs) ""))

def reallocateIPPoolIPRecords (env : Env) (uid : String) (endpoint : SpiderEndpoint) :
    Prog Cloud Err Unit :=
  onPools env "failed to re-allocate all allocated IP addresses "
    (updateAllocatedIPs (metaNamespaceKey endpoint.ns endpoint.name)) uid endpoint.ips

def retrieveStaticIPAllocation (cfg : IPAM.Config) (env : Env) (nic : String) (pod : Pod)
    (endpoint : Option SpiderEndpoint) : Prog Cloud Err (Option IpamAddResponse) :=
  match retrieveIPAllocation pod.uid nic endpoint true with
  | none => pure none
  | some endpoint => do
    Prog.mapErr (.wrap "failed to reallocate IPPool IP records, error: " · "")
      (reallocateIPPoolIPRecords env pod.uid endpoint)
    let endpoint ← Prog.mapErr (.wrap ("failed to refresh the current IP allocation of " ++
      endpoint.ownerControllerType ++ ": ") · "")
      (.request (onApi (reallocateCurrentIPAllocation pod.uid pod.nodeName nic endpoint
        (isMultipleNicWithNoName pod.annotations))))
    let enableIPConflictDetection ← .ret (isDetectGatewayReachableForKubeVirtPod cfg env pod)
    let (ips, routes) ← .ret (convertIPDetailsToIPConfigsAndAllRoutes enableIPConflictDetection
      cfg.enableGatewayDetection endpoint.ips)
    return some ⟨ips, routes⟩

end IPAM.Stepwise

/-! ### What the calls do to the endpoint -/

def Cloud.endpoint (c : Cloud) (key : String × String) : Option SpiderEndpoint :=
  c.api.endpoints.lookup key

/-- The endpoints stay valid, and `P` says what becomes of that of this name. -/
def Moves (key : String × String) (P : Option SpiderEndpoint → Option SpiderEndpoint → Prop)
    (c c' : Cloud) : Prop :=
  c.api.Valid → c'.api.Valid ∧ P (c.endpoint key) (c'.endpoint key)

def KeepsUID (o o' : Option SpiderEndpoint) : Prop :=
  ∀ e', o' = some e' → ∃ e, o = some e ∧ e.uid = e'.uid

def WritesUID (uid : String) (o o' : Option SpiderEndpoint) : Prop :=
  o' ≠ o → ∀ e', o' = some e' → e'.uid = uid

theorem KeepsUID.refl (o : Option SpiderEndpoint) : KeepsUID o o := fun e' h => ⟨e', h, rfl⟩

theorem WritesUID.refl (uid : String) (o : Option SpiderEndpoint) : WritesUID uid o o :=
  fun h => absurd rfl h

section

variable {key : String × String} {P : Option SpiderEndpoint → Option SpiderEndpoint → Prop}
  {c c' : Cloud} {e : SpiderEndpoint}

theorem Moves.refl (hP : ∀ o, P o o) (c : Cloud) : Moves key P c c := fun hc => ⟨hc, hP _⟩

theorem Moves.of_endpoints (hP : ∀ o, P o o) (h : c'.api.endpoints = c.api.endpoints) :
    Moves key P c c' := by
  intro hc
  refine ⟨fun k e he => hc k e (h ▸ he), ?_⟩
  rw [Cloud.endpoint, Cloud.endpoint, h]
  exact hP _

theorem Moves.store {s : ApiServer} (hP : ∀ o, P o o)
    (hkey : e.namespacedName = key → s.Valid →
      P (s.endpoints.lookup key) none ∧ P (s.endpoints.lookup key) (some e))
    (b : List (String × String)) :
    Moves key P ⟨s, b⟩ ⟨s.store e, b⟩ := by
  intro hs
  refine ⟨hs.store e, ?_⟩
  show P (s.endpoints.lookup key) ((s.store e).endpoints.lookup key)
  by_cases hk : e.namespacedName = key
  · rw [ApiServer.lookup_store hk]
    split_ifs
    · exact (hkey hk hs).1
    · exact (hkey hk hs).2
  · have hne : (s.store e).endpoints.lookup key = s.endpoints.lookup key := by
      unfold ApiServer.store
      split_ifs
      · exact AList.lookup_erase_ne (Ne.symm hk)
      · exact AList.lookup_insert_ne (Ne.symm hk)
    rw [hne]
    exact hP _

theorem Moves.onPool (hP : ∀ o, P o o) (pool : String)
    (attempt : IPPool → Result Err (Option IPPool)) (c : Cloud) :
    Moves key P c (onApi (onPool pool attempt) c).2 :=
  .of_endpoints hP (onPool_endpoints pool attempt c.api)

theorem Moves.store_found {s : ApiServer} {k : String × String} {e' : SpiderEndpoint}
    (hfound : s.endpoints.lookup k = some e) (hname : e'.namespacedName = e.namespacedName)
    (huid : e'.uid = e.uid) (b : List (String × String)) :
    Moves key KeepsUID ⟨s, b⟩ ⟨s.store e', b⟩ := by
  refine Moves.store KeepsUID.refl (fun hkey hs => ⟨nofun, ?_⟩) b
  rintro _ ⟨⟩
  refine ⟨e, ?_, huid.symm⟩
  rwa [← hkey, hname, (hs k e hfound).1]

theorem Moves.deleteEndpoint (now : ℤ) (endpoint : SpiderEndpoint) (c : Cloud) :
    Moves key KeepsUID c (onApi (deleteEndpoint now endpoint) c).2 := by
  show Moves key KeepsUID c { c with api := (EndpointManager.deleteEndpoint now endpoint c.api).2 }
  unfold EndpointManager.deleteEndpoint
  split
  · exact .refl KeepsUID.refl c
  · rename_i e hfound
    refine .store_found hfound ?_ ?_ c.bound
    · rfl
    · rfl

theorem Moves.removeFinalizer (endpoint : SpiderEndpoint) (c : Cloud) :
    Moves key KeepsUID c (onApi (EndpointManager.removeFinalizer endpoint) c).2 := by
  show Moves key KeepsUID c { c with api := (EndpointManager.removeFinalizer endpoint c.api).2 }
  by_cases hheld : Constant.spiderFinalizer ∈ endpoint.finalizers
  · have hremove : EndpointManager.removeFinalizer endpoint = _ := if_neg (not_not.2 hheld)
    rw [hremove]
    dsimp only
    split
    · exact .refl KeepsUID.refl c
    · rename_i e hfound
      refine .store_found hfound ?_ ?_ c.bound
      · rfl
      · rfl
  · have hremove : EndpointManager.removeFinalizer endpoint = pure endpoint := if_pos hheld
    rw [hremove]
    exact .refl KeepsUID.refl c

theorem Moves.reallocateCurrent {uid nodeName nic : String} {multiple : Bool}
    (endpoint : SpiderEndpoint) (c : Cloud) :
    Moves key (WritesUID uid) c
      (onApi (reallocateCurrentIPAllocation uid nodeName nic endpoint multiple) c).2 := by
  show Moves key (WritesUID uid) c { c with api :=
    (reallocateCurrentIPAllocation uid nodeName nic endpoint multiple c.api).2 }
  let endpoint' : SpiderEndpoint := { endpoint with
    uid := uid
    node := nodeName
    ips := if multiple then nameNIC nic endpoint.ips else endpoint.ips }
  by_cases heq : endpoint' = endpoint
  · have hcall : reallocateCurrentIPAllocation uid nodeName nic endpoint multiple = pure endpoint :=
      if_pos heq
    rw [hcall]
    exact .refl (WritesUID.refl uid) c
  · have hcall : reallocateCurrentIPAllocation uid nodeName nic endpoint multiple =
        updateEndpoint endpoint' := if_neg heq
    rw [hcall]
    unfold updateEndpoint
    split
    · exact .refl (WritesUID.refl uid) c
    · refine Moves.store (WritesUID.refl uid) (fun _ _ => ⟨fun _ => nofun, ?_⟩) c.bound
      rintro - e' ⟨⟩
      rfl

theorem executor_keepsUID {iaasClient : Bool} {env : Env} {podCache : PodEntry} :
    (releaseIPPoolIPExecutor iaasClient env podCache).Within (Moves key KeepsUID) := by
  refine (Prog.Within.request fun c => .refl KeepsUID.refl c).bind fun o => ?_
  cases o with
  | none => exact .ret _
  | some endpoint =>
    have hpool : ∀ x : Σ _ : String, List IPAndUID, Prog.Within (Moves key KeepsUID)
        (ignoreNotFound (.request (onApi (onPool x.1 (releaseIP x.2))))) := by
      intro x
      refine (Prog.Within.request (Moves.onPool KeepsUID.refl _ _)).tryErr.bind fun r => ?_
      cases r with
      | inl _ => exact .ret _
      | inr e => exact .ite (.ret _) (.ret _)
    have hprovider : ∀ details, Prog.Within (Moves key KeepsUID)
        (traceProviderLoop podCache endpoint.node details) := by
      intro details
      induction details with
      | nil => exact .ret _
      | cons detail details ih =>
        rw [traceProviderLoop]
        split
        · exact ih
        · exact (Prog.Within.request fun c => .of_endpoints KeepsUID.refl rfl).bind fun _ => ih
    refine .ite (.ret _) ((Prog.Within.ret _).bind fun podUsedIPs => ?_)
    refine (Prog.Within.joinAll hpool).bind fun errs => (Prog.Within.ret _).bind fun _ => ?_
    refine (Prog.Within.ite (hprovider _) (.ret _)).bind fun _ => ?_
    have hdelete : Prog.Within (Moves key KeepsUID)
        (.request (onApi (deleteEndpoint env.now endpoint)) : Prog Cloud Err Unit) :=
      .request (Moves.deleteEndpoint env.now endpoint)
    refine (Prog.Within.ite hdelete (.ret _)).bind fun _ => ?_
    exact (Prog.Within.request (Moves.removeFinalizer endpoint)).bind fun _ => .ret _

theorem retrieveStatic_writesUID {cfg : IPAM.Config} {env : Env} {nic : String} {pod : Pod}
    {endpoint : Option SpiderEndpoint} :
    (Stepwise.retrieveStaticIPAllocation cfg env nic pod endpoint).Within
      (Moves key (WritesUID pod.uid)) := by
  unfold Stepwise.retrieveStaticIPAllocation
  split
  · exact .ret _
  · refine Prog.Within.bind (Prog.Within.mapErr ?_) fun _ => ?_
    · refine (Prog.Within.ret _).bind fun _ => (Prog.Within.ret _).bind fun _ => ?_
      refine (Prog.Within.joinAll fun x => ?_).bind fun _ => .ret _
      exact .request (Moves.onPool (WritesUID.refl _) _ _)
    · refine (Prog.Within.request (Moves.reallocateCurrent _)).mapErr.bind fun _ => ?_
      exact (Prog.Within.ret _).bind fun _ => (Prog.Within.ret _).bind fun _ => .ret _

end

end Spiderpool
