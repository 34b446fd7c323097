/-
# The provider is to be asked first

An address that the provider binds to a Pod must not be given to another. So its record should
leave the pool only after the provider has released it, whichever calls fail (`Ordered`). There
are four ways to release an address:

* a CNI DEL (`releaseForAllNICs`) asks the provider first, but only for IPv4 addresses whose parent
  NIC it finds out;
* a batch release (`releaseIPs`) does not ask it at all;
* the trace of a Pod (`releaseIPPoolIPExecutor`) and the scan (`gcIP`) release the record first.
-/

import Spiderpool.GC.Live
import Spiderpool.IPAM.Conflict
import Spiderpool.IPAM.Forgotten

namespace Spiderpool

open EndpointManager IPAM

/-! ### Garbage collection, call by call -/

/-- `client.IgnoreNotFound` of the error of a call. -/
def ignoreNotFound (p : Prog Cloud Err Unit) : Prog Cloud Err Unit := do
  match ← Prog.tryErr p with
  | .inl () => return ()
  | .inr e => if e = errNotFound then return () else .ret (fail e)

/-- `PodEntry`, of what the executor reads. -/
structure PodEntry where
  ns : String
  podName : String
  uid : String

/-- The loop of `releaseIPPoolIPExecutor` over the details. An address that does not parse is
left out. -/
def traceProviderLoop (podCache : PodEntry) (node : String) :
    List IPAllocationDetail → Prog Cloud Err Unit
  | [] => return ()
  | detail :: details =>
    match detail.ipv4.bind netParseCIDR with
    | none => traceProviderLoop podCache node details
    | some (ip, subnet) => do
      .request (providerReleaseIP {
        podName := podCache.podName
        podNamespace := podCache.ns
        podUID := podCache.uid
        nodeName := node
        ipAddress := ip.string
        subnet := subnet.string })
      traceProviderLoop podCache node details

/-- What `releaseIPPoolIPExecutor` does for an entry, after a signal; `iaasClient` says whether
there is a provider. -/
def releaseIPPoolIPExecutor (iaasClient : Bool) (env : Env) (podCache : PodEntry) :
    Prog Cloud Err Unit := do
  match ← .request (onApi (getEndpointByName podCache.ns podCache.podName)) with
  | none => return ()
  | some endpoint =>
    if endpoint.uid ≠ podCache.uid then return ()
    else do
      let podUsedIPs ← .ret (groupIPAllocationDetails endpoint.uid endpoint.ips)
      let errs ← Prog.joinAll (fun e : Σ _ : String, List IPAndUID =>
        ignoreNotFound (.request (onApi (onPool e.1 (releaseIP e.2))))) (env.poolOrder.visit podUsedIPs)
      .ret (failIf (errs ≠ []) (.new "requeue"))
      (if iaasClient then traceProviderLoop podCache endpoint.node endpoint.ips else return ())
      (if (endpoint.ownerControllerType = Constant.kindStatefulSet ∨
          endpoint.ownerControllerType = Constant.kindKubevirtVMI) ∧ endpoint.deletionTimestamp = none
        then .request (onApi (deleteEndpoint env.now endpoint)) else return ())
      let _ ← .request (onApi (EndpointManager.removeFinalizer endpoint))

def releaseEndpointAndFinalizer (now : ℤ) (ns podName : String) : Prog Cloud Err Unit := do
  match ← .request (onApi (getEndpointByName ns podName)) with
  | none => return ()
  | some endpoint => do
    (if endpoint.deletionTimestamp = none then .request (onApi (deleteEndpoint now endpoint))
      else return ())
    let _ ← .request (onApi (EndpointManager.removeFinalizer endpoint))

/-- The call of the provider in a turn of `executeScanAll`, an error of which is only logged. -/
def askProvider (iaasClient : Bool) (view : ClusterView) (v : Visit) (podNS podName : String) :
    Prog Cloud Err Unit :=
  if iaasClient then do
    let nodeName := match view.endpoint podNS podName with
      | .found endpoint => endpoint.node
      | _ => ""
    let _ ← Prog.tryErr (.request (providerReleaseIP {
      podName := podName
      podNamespace := podNS
      podUID := v.record.podUID
      nodeName := nodeName
      ipAddress := v.ip
      subnet := v.pool.spec.subnet }))
  else return ()

/-- The end of a turn of `executeScanAll`, with the flags it has come to. Errors are only
logged. -/
def gcIP (iaasClient : Bool) (view : ClusterView) (v : Visit) (podNS podName : String)
    (flags : GCFlags) : Prog Cloud Err Unit := do
  (if flags.releaseIP then do
    let _ ← Prog.tryErr (.request (onApi (onPool v.pool.name (releaseIP [⟨v.ip, v.record.podUID⟩]))))
    askProvider iaasClient view v podNS podName
  else return ())
  (if flags.releaseEndpoint then do
    let _ ← Prog.tryErr (releaseEndpointAndFinalizer view.now podNS podName)
  else return ())

/-- A turn of `executeScanAll` for a record. -/
def scanTurn (cfg : GCConfig) (iaasClient : Bool) (view : ClusterView) (v : Visit) :
    Prog Cloud Err Unit := do
  let flags ← .ret (mapErr Empty.elim (scanRecord cfg view v.record))
  match splitMetaNamespaceKey v.record.namespacedName with
  | .error _ => return ()
  | .ok (podNS, podName) => gcIP iaasClient view v podNS podName flags

/-! ### The order -/

/-- What the provider has bound to a Pod and binds to it still is still recorded for the Pod. -/
def Ordered (c c' : Cloud) : Prop :=
  ∀ pool key uid, Recorded c.api uid pool key → (key, uid) ∈ c.bound → (key, uid) ∈ c'.bound →
    Recorded c'.api uid pool key

/-- Whether the address is recorded for the Pod can be looked up. -/
instance Recorded.decidable (s : ApiServer) (uid pool key : String) :
    Decidable (Recorded s uid pool key) :=
  decidable_of_iff (((s.pools.lookup pool).bind fun p => p.status.records.lookup key).map
    PoolIPAllocation.podUID = some uid) (by simp [Recorded, Option.bind_eq_some_iff])

section

variable {cfg : IPAM.Config} {env : ReleaseEnv} {c c' : Cloud} {e : SpiderEndpoint} {uid nic : String}

theorem Ordered.of_pools (h : c'.api.pools = c.api.pools) : Ordered c c' :=
  fun _ _ _ hrecorded _ _ => hrecorded.of_pools h.symm

theorem Ordered.trans_pools {c₁ : Cloud} (h : Ordered c c₁) (hpools : c'.api.pools = c₁.api.pools)
    (hbound : ∀ b ∈ c'.bound, b ∈ c₁.bound) : Ordered c c' :=
  fun pool key u hrecorded hb hb' =>
    (h pool key u hrecorded hb (hbound _ hb')).of_pools hpools.symm

theorem Ordered.release {pool : String} {ius : List IPAndUID} (h : Ordered c c')
    (hius : ∀ iu ∈ ius, (iu.ip, iu.uid) ∈ c.bound → (iu.ip, iu.uid) ∉ c'.bound) :
    Ordered c (onApi (onPool pool (releaseIP ius)) c').2 := by
  intro k key u hrecorded hbound hstill
  refine (Stepwise.releaseIP_recorded pool ius c'.api).2.1 u k key (h k key u hrecorded hbound hstill) ?_
  exact fun _ hiu => hius _ hiu hbound hstill

theorem releaseForAllNICs_ordered (hclient : env.client.isSome)
    (hall : ∀ a ∈ addresses e.ips, (a.2, e.uid) ∈ c.bound → AtProvider env.provider e e.ips a.2) :
    Prog.Holds (Ordered c) (fun _ _ => True) (releaseForAllNICs cfg env uid nic e) c := by
  refine releaseForAllNICs_holds (A := fun c' => c'.api.pools = c.api.pools) (fun _ h => .of_pools h)
    rfl (deleteEndpoint_pools env.now) (fun _ _ h => h) fun c₂ hc₂ hreleased => ?_
  -- the provider now binds none of the addresses that are released in the pools
  let J (c' : Cloud) : Prop := Ordered c c' ∧ c'.bound = c₂.bound
  have hkeep : ∀ pool ius, (∀ iu ∈ ius, iu.uid = e.uid ∧ (pool, iu.ip) ∈ addresses e.ips) →
      ∀ c', J c' → J (onApi (onPool pool (releaseIP ius)) c').2 := by
    refine fun pool ius hius c' hc' => ⟨hc'.1.release fun iu hiu hbound => ?_, hc'.2⟩
    obtain ⟨hu, hmem⟩ := hius iu hiu
    rw [hc'.2, hu]
    exact hreleased hclient iu.ip (hall (pool, iu.ip) hmem (hu ▸ hbound))
  refine ((Stepwise.release_holds (I := J) ⟨.of_pools hc₂, rfl⟩ hkeep).imp fun _ h => h.1).mono
    fun _ c₃ hc₃ _ _ => ⟨hc₃, hc₃.trans_pools removeFinalizer_pools fun _ h => h⟩

theorem getEndpointByName_holds {I : Cloud → Prop} {ns name : String} (hc : I c) :
    Prog.Holds I (fun r c' => c' = c ∧ ∀ o, r = .ok o → o = c.api.endpoints.lookup (ns, name))
      (.request (onApi (getEndpointByName ns name))) c :=
  Prog.Holds.request hc hc ⟨rfl, fun _ h => (Except.ok.inj h).symm⟩ fun _ => ⟨⟨rfl, nofun⟩, rfl, nofun⟩

theorem updateEndpoint_pools {s : ApiServer} : (updateEndpoint e s).2.pools = s.pools := by
  unfold updateEndpoint
  split <;> rfl

theorem request_ordered {α : Type} {m : Api α} (h : Ordered c c')
    (hpools : (m c'.api).2.pools = c'.api.pools) :
    Prog.Holds (Ordered c) (fun _ _ => True) (.request (onApi m)) c' :=
  Prog.Holds.request_keeps h (h.trans_pools hpools fun _ hb => hb)

theorem tryErr_ordered {p : Prog Cloud Err Unit} (h : Prog.Holds (Ordered c) (fun _ _ => True) p c') :
    Prog.Holds (Ordered c) (fun _ _ => True) (Prog.tryErr p) c' :=
  Prog.Holds.tryErr (h.mono fun r _ _ _ => by rcases r with (_ | _ | _) | _ <;> trivial)

section

variable {details : List IPAllocationDetail} {now : ℤ} {podCache : PodEntry} {iaasClient : Bool}

theorem release_ordered {env : Env} (h : Ordered c c')
    (hnone : ∀ a ∈ addresses details, (a.2, uid) ∉ c.bound) :
    Prog.Holds (Ordered c) (fun _ _ => True) (Stepwise.release env uid details) c' := by
  refine (Stepwise.release_holds h fun pool ius hius c₁ hc₁ => ?_).mono fun _ _ _ _ => trivial
  refine hc₁.release fun iu hiu hbound => ?_
  obtain ⟨hu, hmem⟩ := hius iu hiu
  exact absurd (hu ▸ hbound) (hnone _ hmem)

theorem releaseIPs_ordered {env : Env} {pods : PodClient} {delArgs : IpamBatchDelArgs}
    (hnone : ∀ e, c.api.endpoints.lookup (delArgs.podNamespace, delArgs.podName) = some e →
      ∀ a ∈ addresses e.ips, (a.2, e.uid) ∉ c.bound) :
    Prog.Holds (Ordered c) (fun _ _ => True) (releaseIPs cfg env pods delArgs) c := by
  have hhere : Ordered c c := .of_pools rfl
  refine Prog.Holds.ret_bind hhere (fun found _ => ?_) fun _ _ => trivial
  cases found with
  | none => exact ⟨hhere, trivial⟩
  | some uidPod =>
    obtain ⟨podUID, pod⟩ := uidPod
    refine Prog.Holds.ret_bind hhere (fun _ _ => ?_) fun _ _ => trivial
    have hread : ∀ f : Err → Err, Prog.Holds (Ordered c) (fun r c' => c' = c ∧ ∀ o, r = .ok o →
        o = c.api.endpoints.lookup (delArgs.podNamespace, delArgs.podName)) (Prog.mapErr f
          (.request (onApi (getEndpointByName delArgs.podNamespace delArgs.podName)))) c := fun f =>
      Prog.Holds.mapErr ((getEndpointByName_holds hhere).mono fun r c' _ h =>
        ⟨h.1, fun o ho => h.2 o (mapErr_eq_ok.1 ho)⟩)
    refine (hread _).andThen fun o c' _ hread => ?_
    obtain ⟨rfl, ho⟩ := hread
    cases o with
    | none => exact ⟨hhere, trivial⟩
    | some e =>
      have hips : Prog.Holds (Ordered c') (fun r _ => ∀ details, r = .ok details →
          details = [] ∨ e.uid = podUID ∧ details = e.ips) (releaseEndpointIPs e podUID) c' := by
        unfold releaseEndpointIPs
        split_ifs with hu hnil
        · exact ⟨hhere, nofun⟩
        · exact ⟨hhere, fun _ h => .inl (Except.ok.inj h).symm⟩
        · exact (request_ordered hhere updateEndpoint_pools).seq
            (fun _ _ h _ => ⟨h, fun _ h => .inr ⟨not_not.1 hu, (Except.ok.inj h).symm⟩⟩)
            fun _ _ _ _ => nofun
      refine (Prog.Holds.mapErr (hips.mono fun r _ _ h details hr =>
        h details (mapErr_eq_ok.1 hr))).andThen (Q := fun r _ => ∀ details, r = .ok details →
          details = [] ∨ e.uid = podUID ∧ details = e.ips) fun details c₁ hc₁ hdetails => ?_
      rcases hdetails details rfl with rfl | ⟨rfl, rfl⟩
      · exact ⟨hc₁, trivial⟩
      · split_ifs
        · exact ⟨hc₁, trivial⟩
        · exact release_ordered hc₁ (hnone e (ho _ rfl).symm)

theorem deleteAndRemove_ordered {q : Prop} [Decidable q] (h : Ordered c c') :
    Prog.Holds (Ordered c) (fun _ _ => True) (do
      (if q then .request (onApi (deleteEndpoint now e)) else return ())
      let _ ← .request (onApi (EndpointManager.removeFinalizer e)) : Prog Cloud Err Unit) c' := by
  have hdelete : Prog.Holds (Ordered c) (fun _ _ => True)
      (if q then .request (onApi (deleteEndpoint now e)) else pure ()) c' := by
    split_ifs
    · exact request_ordered h (deleteEndpoint_pools now)
    · exact ⟨h, trivial⟩
  exact hdelete.andThen fun _ _ h₁ _ => (request_ordered h₁ removeFinalizer_pools).andThen
    fun _ _ h₂ _ => ⟨h₂, trivial⟩

theorem traceProviderLoop_ordered {node : String} (h : Ordered c c') :
    Prog.Holds (Ordered c) (fun _ _ => True) (traceProviderLoop podCache node details) c' := by
  induction details generalizing c' with
  | nil => exact ⟨h, trivial⟩
  | cons detail details ih =>
    rw [traceProviderLoop]
    split
    · exact ih h
    · exact (Prog.Holds.request_keeps h (h.trans_pools rfl fun b hb => List.mem_of_mem_filter hb)).andThen
        fun _ _ h' _ => ih h'

theorem executor_ordered {env : Env}
    (hnone : ∀ e, c.api.endpoints.lookup (podCache.ns, podCache.podName) = some e →
      ∀ a ∈ addresses e.ips, (a.2, e.uid) ∉ c.bound) :
    Prog.Holds (Ordered c) (fun _ _ => True) (releaseIPPoolIPExecutor iaasClient env podCache) c := by
  have hhere : Ordered c c := .of_pools rfl
  refine (getEndpointByName_holds hhere).andThen fun o c' _ hread => ?_
  obtain ⟨rfl, ho⟩ := hread
  cases o with
  | none => exact ⟨hhere, trivial⟩
  | some endpoint =>
    have hendpoint := hnone endpoint (ho _ rfl).symm
    dsimp only
    by_cases hu : endpoint.uid ≠ podCache.uid
    · rw [if_pos hu]
      exact ⟨hhere, trivial⟩
    rw [if_neg hu]
    refine Prog.Holds.ret_bind hhere (fun podUsedIPs hgroup => ?_) fun _ _ => trivial
    have hpool : ∀ x ∈ env.poolOrder.visit podUsedIPs, ∀ c₁, Ordered c' c₁ →
        Prog.Holds (Ordered c') (fun _ _ => True)
          (ignoreNotFound (.request (onApi (onPool x.1 (releaseIP x.2))))) c₁ := by
      intro x hx c₁ hc₁
      have hrelease : Ordered c' (onApi (onPool x.1 (releaseIP x.2)) c₁).2 := by
        refine hc₁.release fun iu hiu hbound => ?_
        obtain ⟨huid, hmem⟩ := Stepwise.mem_visit_group hgroup hx iu hiu
        exact absurd (huid ▸ hbound) (hendpoint _ hmem)
      refine (tryErr_ordered (Prog.Holds.request_keeps hc₁ hrelease)).andThen fun r c₂ hc₂ _ => ?_
      rcases r with ⟨⟩ | err
      · exact ⟨hc₂, trivial⟩
      · dsimp only
        split_ifs
        · exact ⟨hc₂, trivial⟩
        · exact ⟨hc₂, trivial⟩
    refine (Prog.Holds.joinAll_keeps hpool hhere).andThen fun errs c₁ hc₁ _ => ?_
    refine Prog.Holds.ret_bind hc₁ (fun _ _ => ?_) fun _ _ => trivial
    have hprovider : Prog.Holds (Ordered c') (fun _ _ => True) (if iaasClient = true then
        traceProviderLoop podCache endpoint.node endpoint.ips else pure ()) c₁ := by
      split_ifs
      · exact traceProviderLoop_ordered hc₁
      · exact ⟨hc₁, trivial⟩
    refine hprovider.andThen fun _ c₂ hc₂ _ => ?_
    exact deleteAndRemove_ordered hc₂

theorem releaseEndpointAndFinalizer_ordered {ns podName : String} (h : Ordered c c') :
    Prog.Holds (Ordered c) (fun _ _ => True) (releaseEndpointAndFinalizer now ns podName) c' := by
  refine (getEndpointByName_holds h).andThen fun o c₁ hc₁ _ => ?_
  cases o with
  | none => exact ⟨hc₁, trivial⟩
  | some endpoint => exact deleteAndRemove_ordered hc₁

theorem scanTurn_ordered {cfg : GCConfig} {view : ClusterView} {v : Visit}
    (hnone : (v.ip, v.record.podUID) ∉ c.bound) :
    Prog.Holds (Ordered c) (fun _ _ => True) (scanTurn cfg iaasClient view v) c := by
  have hhere : Ordered c c := .of_pools rfl
  refine Prog.Holds.ret_bind hhere (fun flags _ => ?_) fun _ _ => trivial
  cases splitMetaNamespaceKey v.record.namespacedName with
  | error _ => exact ⟨hhere, trivial⟩
  | ok key =>
    obtain ⟨podNS, podName⟩ := key
    have hrelease : Ordered c (onApi (onPool v.pool.name (releaseIP [⟨v.ip, v.record.podUID⟩])) c).2 := by
      refine hhere.release fun iu hiu hbound => ?_
      obtain rfl := List.mem_singleton.1 hiu
      exact absurd hbound hnone
    have haddress : Prog.Holds (Ordered c) (fun _ _ => True) (if flags.releaseIP = true then do
        let _ ← Prog.tryErr (.request (onApi (onPool v.pool.name
          (releaseIP [⟨v.ip, v.record.podUID⟩]))))
        askProvider iaasClient view v podNS podName
      else return () : Prog Cloud Err Unit) c := by
      split_ifs
      · refine (tryErr_ordered (Prog.Holds.request_keeps hhere hrelease)).andThen fun _ c₁ hc₁ _ => ?_
        unfold askProvider
        split_ifs
        · exact (tryErr_ordered (Prog.Holds.request_keeps hc₁ (hc₁.trans_pools rfl
            fun b hb => List.mem_of_mem_filter hb))).andThen fun _ _ hc₂ _ => ⟨hc₂, trivial⟩
        · exact ⟨hc₁, trivial⟩
      · exact ⟨hhere, trivial⟩
    refine haddress.andThen fun _ c₁ hc₁ _ => ?_
    split_ifs
    · exact (tryErr_ordered (releaseEndpointAndFinalizer_ordered hc₁)).andThen
        fun _ _ hc₂ _ => ⟨hc₂, trivial⟩
    · exact ⟨hc₁, trivial⟩

end

end

/-- Whichever calls fail, the record of an address that the provider binds to a Pod is not removed
before the provider has released the address: on a CNI DEL, if the provider is asked about all it
binds of the endpoint, and in a batch release, a trace or a scan, if it binds none of what they
release. -/
theorem ordered_at (cfg : IPAM.Config) (gc : GCConfig) (env : ReleaseEnv) (pods : PodClient)
    (c : Cloud) (hclient : env.client.isSome) :
    (∀ uid nic e, (∀ a ∈ addresses e.ips, (a.2, e.uid) ∈ c.bound →
        AtProvider env.provider e e.ips a.2) →
      ∀ p c', Prog.Reaches (releaseForAllNICs cfg env uid nic e, c) (p, c') → Ordered c c') ∧
    (∀ delArgs : IpamBatchDelArgs, (∀ e, c.api.endpoints.lookup
        (delArgs.podNamespace, delArgs.podName) = some e →
          ∀ a ∈ addresses e.ips, (a.2, e.uid) ∉ c.bound) →
      ∀ p c', Prog.Reaches (releaseIPs cfg env.toEnv pods delArgs, c) (p, c') → Ordered c c') ∧
    (∀ podCache : PodEntry, (∀ e, c.api.endpoints.lookup (podCache.ns, podCache.podName) = some e →
        ∀ a ∈ addresses e.ips, (a.2, e.uid) ∉ c.bound) →
      ∀ p c', Prog.Reaches (releaseIPPoolIPExecutor true env.toEnv podCache, c) (p, c') →
        Ordered c c') ∧
    ∀ v : Visit, (v.ip, v.record.podUID) ∉ c.bound →
      ∀ p c', Prog.Reaches (scanTurn gc true env.view v, c) (p, c') → Ordered c c' := by
  refine ⟨fun uid nic e h p c' hreach => ?_, fun delArgs h p c' hreach => ?_,
    fun podCache h p c' hreach => ?_, fun v h p c' hreach => ?_⟩
  · exact ((releaseForAllNICs_ordered hclient h).reaches hreach).1
  · exact ((releaseIPs_ordered h).reaches hreach).1
  · exact ((executor_ordered h).reaches hreach).1
  · exact ((scanTurn_ordered h).reaches hreach).1

/-! ### An address registered with the provider -/

namespace Sample

def providerEnv (config : Lookup SpiderMultusConfig) : ProviderEnv where
  getPodByName _ _ := .found (pod "u1")
  getMultusNetworkForNIC _ _ := .ok ("kube-system", "vlan")
  getSpiderMultusConfig _ := config
  linkByName _ := .ok "02:00:00:00:00:01"

def vlanNetwork : SpiderMultusConfig where
  cniType := some "vlan"
  vlanConfig := some { vlanMode := some "auto", master := ["eth1"] }

def providerRelease (config : Lookup SpiderMultusConfig) : ReleaseEnv where
  view := emptyView
  provider := providerEnv config
  client := some ∅

def allocatedAddress (address pool : String) (version : IPVersion) : AllocationResult where
  ip := {
    address := address, gateway := "", ipPool := pool, nic := "eth0", version := version
    enableGatewayDetection := false, enableIPConflictDetection := false }

def registered (results : List AllocationResult) (s : ApiServer) : Cloud :=
  ((callIaaSAllocate (some ∅) (providerEnv (.found vlanNetwork)) (pod "u1") results).run ⟨s, []⟩).2

def registered4 : Cloud :=
  registered [allocatedAddress "10.0.0.1/24" "sample" 4] (server (allocated "u1"))

def endpoint6 : SpiderEndpoint :=
  { endpoint with ips := [{ nic := "eth0", ipv6 := some "fd00::1/64", ipv6Pool := some "sample" }] }

def allocated6 : IPPool :=
  (pool.setRecords (AList.insert "fd00::1" ⟨"default/web-0", "u1"⟩ ∅)).setCount 1

def registered6 : Cloud :=
  registered [allocatedAddress "fd00::1/64" "sample" 6] ⟨AList.insert ("default", "web-0") endpoint6 ∅,
    AList.insert "sample" allocated6 ∅⟩

theorem at_provider : AtProvider (providerEnv (.found vlanNetwork)) endpoint endpoint.ips "10.0.0.1" := by
  have hparse : (netParseCIDR "10.0.0.1/24").map (fun x => x.1.string) = some "10.0.0.1" := by
    decide +kernel
  obtain ⟨⟨ip, subnetCIDR⟩, hcidr, hip⟩ := Option.map_eq_some_iff.1 hparse
  exact ⟨_, List.mem_singleton_self _, _, ip, subnetCIDR, rfl, hcidr, hip, fun cache =>
    findParentNic_found rfl rfl rfl rfl rfl rfl rfl cache subnetCIDR.string⟩

/-- A CNI DEL that finds the network ends with the record gone, and in order. -/
theorem provider_first : ∃ p c', Prog.Reaches
      (releaseForAllNICs {} (providerRelease (.found vlanNetwork)) "u1" "eth0" endpoint, registered4)
      (p, c') ∧ ¬ Recorded c'.api "u1" "sample" "10.0.0.1" ∧ Ordered registered4 c' := by
  have hat : ∀ a ∈ addresses endpoint.ips, a.2 = "10.0.0.1" := fun a ha => by
    obtain rfl := List.mem_singleton.1 ha
    rfl
  have hreach := Prog.reaches_run (releaseForAllNICs {} (providerRelease (.found vlanNetwork)) "u1"
    "eth0" endpoint) registered4
  refine ⟨_, _, hreach, by decide +kernel, ?_⟩
  exact (ordered_at {} gcConfig (providerRelease (.found vlanNetwork)) (pods topController)
    registered4 rfl).1 "u1" "eth0" endpoint (fun a ha _ => hat a ha ▸ at_provider) _ _ hreach

def batch : IpamBatchDelArgs where
  containerID := "c1"
  podName := "web-0"
  podNamespace := "default"
  podUID := "u1"

/-- A record is gone that the provider still binds: after a CNI DEL that cannot read the
SpiderMultusConfig, after one of a Pod with an IPv6 address, after a batch release, and in a trace
and a scan before they ask the provider. -/
theorem pool_first :
    (∃ p c', Prog.Reaches (releaseForAllNICs {} (providerRelease (.failed (.new "timeout"))) "u1"
      "eth0" endpoint, registered4) (p, c') ∧ ¬ Ordered registered4 c') ∧
    (∃ p c', Prog.Reaches (releaseForAllNICs {} (providerRelease (.found vlanNetwork)) "u1"
      "eth0" endpoint6, registered6) (p, c') ∧ ¬ Ordered registered6 c') ∧
    (∃ p c', Prog.Reaches (releaseIPs {} {} (pods topController) batch, registered4) (p, c') ∧
      ¬ Ordered registered4 c') ∧
    (∃ p c', Prog.Reaches (releaseIPPoolIPExecutor true {} ⟨"default", "web-0", "u1"⟩, registered4)
      (p, c') ∧ ¬ Ordered registered4 c') ∧
    ∃ p c', Prog.Reaches (scanTurn gcConfig true emptyView visit, registered4) (p, c') ∧
      ¬ Ordered registered4 c' := by
  have hpool : ∀ (key : String) (p : Prog Cloud Err Unit) (c : Cloud) (x : Prog Cloud Err Unit × Cloud),
      Prog.Reaches (p, c) x → Recorded c.api "u1" "sample" key ∧ (key, "u1") ∈ c.bound ∧
        (key, "u1") ∈ x.2.bound ∧ ¬ Recorded x.2.api "u1" "sample" key →
      ∃ p' c', Prog.Reaches (p, c) (p', c') ∧ ¬ Ordered c c' := fun key p c x hreach h =>
    ⟨x.1, x.2, hreach, fun hordered => h.2.2.2 (hordered "sample" key "u1" h.1 h.2.1 h.2.2.1)⟩
  refine ⟨?_, ?_, ?_, ?_, ?_⟩
  · exact hpool "10.0.0.1" _ _ _ (Prog.reaches_run _ _) (by decide +kernel)
  · exact hpool "fd00::1" _ _ _ (Prog.reaches_run _ _) (by decide +kernel)
  · exact hpool "10.0.0.1" _ _ _ (Prog.reaches_run _ _) (by decide +kernel)
  · exact hpool "10.0.0.1" _ _ _ (Prog.reaches_runWith [.answered, .answered] _ _) (by decide +kernel)
  · exact hpool "10.0.0.1" _ _ _ (Prog.reaches_runWith [.answered] _ _) (by decide +kernel)

end Sample

end Spiderpool
