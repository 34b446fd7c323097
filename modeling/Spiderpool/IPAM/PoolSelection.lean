/-
# The rules that select candidate pools

`getPoolCandidates` of `pkg/ipam/pool_selections.go` asks six rules in turn: the subnets of the
Pod's annotations, its annotations `ippools` and `ippool`, the default pools of its namespace, those
of the CNI configuration, and those of the cluster. The first rule that applies decides, whether it
has named a pool or not.

`genToBeAllocatedSet` of `pkg/ipam/allocate.go` drops the candidates of a version that is switched
off (`checkIPVersionEnable` of `pkg/ipam/config.go`), reads and filters the pools of the others, and
sorts them by priority.
-/

import Spiderpool.IPAM.Annotation
import Spiderpool.IPAM.AutoPool
import Spiderpool.IPAM.Select

namespace Spiderpool
namespace IPAM

open AppController (AutoPoolCall isPrevious matchLabels multierr)

structure NamespaceAnnotations where
  /-- `ipam.spidernet.io/default-ipv4-ippool`. -/
  defaultIPv4IPPool : Option (Json (List String)) := none
  /-- `ipam.spidernet.io/default-ipv6-ippool`. -/
  defaultIPv6IPPool : Option (Json (List String)) := none

/-- How a call of `ReconcileAutoIPPool` ends for `applyThirdControllerAutoPool`: with a pool, with
a conflict or a pool of that name, or with another error. -/
inductive AutoPoolReply where
  | applied (pool : IPPool)
  | conflict
  | failed (e : Err)

structure RuleEnv where
  /-- `ClusterSubnetAutoPoolDefaultRedundantIPNumber`. -/
  redundant : Int64 := 0
  parse : ParseWildcard := fun names _ => .ok (names, false)
  operationRetries : ℕ := 0
  /-- The pools with all of these labels, as the cache shows them in each round. -/
  listIPPools : GoMap String String → ℕ → Result Err (List IPPool) := fun _ _ => .ok []
  reconcileAutoIPPool : AutoPoolCall → ℕ → AutoPoolReply := fun _ _ => .conflict
  namespaceAnnotations : String → Result Err NamespaceAnnotations := fun _ => .ok {}
  /-- The pools whose `spec.default` is true. -/
  defaultIPPools : Result Err (List IPPool) := .ok []

/-! ### Pools of subnets -/

def isDefaultIPPoolMode : Option PodSubnetAnnoConfig → Bool
  | none => true
  | some _ => false

def hasSubnetsAnnotation (anno : PodAnnotations) : Bool := anno.subnets.isSome || anno.subnet.isSome

/-- The loop of `applyThirdControllerAutoPool` over the rounds. After a conflict there is no pool. -/
def applyLoop (c : PodTopController) (call : Option IPPool → AutoPoolCall)
    (listErr reconcileErr : Err → Err) :
    List (Result Err (List IPPool) × (AutoPoolCall → AutoPoolReply)) → Result Err (Option IPPool)
  | [] => .ok none
  | (answer, reconcile) :: rounds => do
    let pools ← mapErr listErr answer
    match reconcile (call (pools.find? fun p => ¬isPrevious c p)) with
    | .applied pool => .ok (some pool)
    | .conflict => applyLoop c call listErr reconcileErr rounds
    | .failed e => fail (reconcileErr e)

def applyThirdControllerAutoPool (env : RuleEnv) (subnetName : String) (c : PodTopController)
    (property : AutoPoolProperty) : Result Err IPPool := do
  let labels := matchLabels c subnetName property.ipVersion property.ifName
  let pool ← applyLoop c (fun pool => ⟨pool, subnetName, c, property⟩)
    (.wrap ("failed to get third-party auto-created IPPoolList with matchLabels " ++
      formatMap labels ++ ", error: ") · "")
    (.wrap ("failed to check SpiderSubnet " ++ subnetName ++
      " third-party controller auto-created IPPool whether need to be scaled: ") · "")
    ((List.range' 1 env.operationRetries).map fun j =>
      (env.listIPPools labels j, (env.reconcileAutoIPPool · j)))
  match pool with
  | none => fail (.new ("no matching third-party controller auto-created IPPool candidate with " ++
      "matchLables '" ++ formatMap labels ++ "'"))
  | some pool => return pool

/-- The goroutine of `getPoolFromSubnetAnno` for a version. -/
def subnetPool (env : RuleEnv) (c : PodTopController) (nic : String) (reclaimIPPool : Bool)
    (poolIPNum : ℤ) (ipVersion : IPVersion) (subnetName : String) : Result Err PoolCandidate := do
  let pool ← (
    if c.apiVersion ∉ Constant.k8sAPIVersions ∨ c.kind ∉ Constant.k8sKinds then
      applyThirdControllerAutoPool env subnetName c
        { desiredIPNumber := poolIPNum, ipVersion := ipVersion, isReclaimIPPool := reclaimIPPool
          ifName := nic }
    else findAppAutoPool env.operationRetries env.listIPPools subnetName nic ipVersion poolIPNum c)
  return { ipVersion := ipVersion, pools := [pool.name], pToIPPool := AList.insert pool.name pool ∅ }

/-- The subnets of an interface. An interface that the annotation does not name has none. -/
def subnetItemOf (config : PodSubnetAnnoConfig) (nic : String) : Result Err AnnoSubnetItem :=
  if config.multipleSubnets ≠ [] then
    .ok ((config.multipleSubnets.find? (·.interface = nic)).getD {})
  else
    match config.singleSubnet with
    | some item => .ok item
    | none => fail (.new ("there are no subnet specified: " ++ config.string))

def getPoolFromSubnetAnno (cfg : Config) (env : RuleEnv) (pod : Pod) (nic : String)
    (cleanGateway : Bool) (c : PodTopController) : Result Err (Option ToBeAllocated) := do
  let subnetAnnoConfig ← getSubnetAnnoConfig env.redundant pod.annotations
  if isDefaultIPPoolMode subnetAnnoConfig then return none
  else do
    let config ← deref subnetAnnoConfig
    failIf (c.apiVersion = Constant.coreV1 ∧ c.kind = Constant.kindPod)
      (.new "SpiderSubnet feature doesn't support no-controller pod")
    let subnetItem ← subnetItemOf config nic
    let poolIPNum ← getAutoPoolIPNumber pod.annotations c
    let candidates := fun (enabled : Bool) (ipVersion : IPVersion) (subnets : List String) =>
      if enabled then
        (subnets.take 1).map (subnetPool env c nic config.reclaimIPPool poolIPNum ipVersion)
      else []
    let poolCandidates ← mapErr multierr <| joinResults <|
      candidates cfg.enableIPv4 Constant.ipv4 subnetItem.ipv4 ++
        candidates cfg.enableIPv6 Constant.ipv6 subnetItem.ipv6
    return some { nic := nic, cleanGateway := cleanGateway, poolCandidates := poolCandidates }

/-! ### Pools by their names -/

/-- What is to be allocated from pools that are named, once wildcards are replaced. -/
def poolsByName (parse : ParseWildcard) (nic : String) (cleanGateway : Bool)
    (ipv4Pools ipv6Pools : List String) : Result Err ToBeAllocated := do
  let item ← expandItem parse
    { nic := nic, ipv4Pools := ipv4Pools, ipv6Pools := ipv6Pools, cleanGateway := cleanGateway }
  return AnnoIPPoolItem.toBeAllocated item

def invalidAnnoErr (anno : String) (e : Err) : Err :=
  ⟨.errWrongInput :: e.sentinels, Sentinel.errWrongInput.text ++
    ", invalid format of Pod annotation '" ++ anno ++ "': " ++ e.text⟩

def getPoolFromPodAnnoPool (parse : ParseWildcard) (anno : Json AnnoPodIPPoolValue) (nic : String)
    (cleanGateway : Bool) : Result Err ToBeAllocated :=
  match anno with
  | .malformed error => fail (invalidAnnoErr "ipam.spidernet.io/ippool" (.new error))
  | .doc value => poolsByName parse nic cleanGateway value.ipv4Pools value.ipv6Pools

def getNSDefaultPools (anno : NamespaceAnnotations) : Result Err (List String × List String) := do
  let names : Option (Json (List String)) → Result Err (List String) := fun
    | none => .ok []
    | some (.malformed error) => fail (.new error)
    | some (.doc names) => .ok names
  let ipv4Pools ← names anno.defaultIPv4IPPool
  let ipv6Pools ← names anno.defaultIPv6IPPool
  return (ipv4Pools, ipv6Pools)

def getPoolFromNetConf (parse : ParseWildcard) (nic : String) (ipv4Pools ipv6Pools : List String)
    (cleanGateway : Bool) : Result Err (Option ToBeAllocated) :=
  if ipv4Pools = [] ∧ ipv6Pools = [] then .ok none
  else some <$> poolsByName parse nic cleanGateway ipv4Pools ipv6Pools

/-- `getPoolFromNS`, which goes on as `getPoolFromNetConf` does. -/
def getPoolFromNS (env : RuleEnv) (ns nic : String) (cleanGateway : Bool) :
    Result Err (Option ToBeAllocated) := do
  let anno ← env.namespaceAnnotations ns
  let (ipv4Pools, ipv6Pools) ← getNSDefaultPools anno
  getPoolFromNetConf env.parse nic ipv4Pools ipv6Pools cleanGateway

def poolsCandidate (ipVersion : IPVersion) (pools : List IPPool) : List PoolCandidate :=
  if pools = [] then []
  else
    [{ ipVersion := ipVersion, pools := pools.map (·.name)
       pToIPPool := pools.foldl (fun m p => m.insert p.name p) ∅ }]

def getClusterDefaultPools (env : RuleEnv) (nic : String) (cleanGateway : Bool) :
    Result Err ToBeAllocated := do
  let pools ← env.defaultIPPools
  failIf (pools = []) (.wrap "" (.of .errNoAvailablePool)
    ", no pool selection rules of any type are specified")
  let versioned ← pools.mapM fun p => do
    let ipVersion ← deref p.spec.ipVersion
    return (p, ipVersion)
  let (v4, v6) := versioned.partition (·.2 = Constant.ipv4)
  return {
    nic := nic
    cleanGateway := cleanGateway
    poolCandidates := poolsCandidate Constant.ipv4 (v4.map (·.1)) ++
      poolsCandidate Constant.ipv6 (v6.map (·.1)) }

/-! ### The rules together -/

/-- The first rule of `getPoolCandidates`. -/
def getPoolFromSubnet (cfg : Config) (env : RuleEnv) (addArgs : IpamAddArgs) (pod : Pod)
    (c : PodTopController) : Result Err (Option ToBeAllocated) :=
  if cfg.enableSpiderSubnet then
    if cfg.enableAutoPoolForApplication then
      mapErr (.wrap "failed to get IPPool candidates from Subnet: " · "")
        (getPoolFromSubnetAnno cfg env pod addArgs.ifName addArgs.cleanGateway c)
    else if hasSubnetsAnnotation pod.annotations then
      fail (.new ("it's invalid to use 'ipam.spidernet.io/subnets' or 'ipam.spidernet.io/subnet' " ++
        "annotation when Auto-Pool feature is disabled"))
    else .ok none
  else .ok none

/-- The last three rules of `getPoolCandidates`. -/
def getDefaultPools (env : RuleEnv) (addArgs : IpamAddArgs) (pod : Pod) :
    Result Err ToBeAllocated := do
  match ← getPoolFromNS env pod.ns addArgs.ifName addArgs.cleanGateway with
  | some t => return t
  | none =>
    match ← getPoolFromNetConf env.parse addArgs.ifName addArgs.defaultIPV4IPPool
      addArgs.defaultIPV6IPPool addArgs.cleanGateway with
    | some t => return t
    | none => getClusterDefaultPools env addArgs.ifName addArgs.cleanGateway

def getPoolCandidates (cfg : Config) (env : RuleEnv) (addArgs : IpamAddArgs) (pod : Pod)
    (c : PodTopController) : Result Err (List ToBeAllocated) := do
  match ← getPoolFromSubnet cfg env addArgs pod c with
  | some fromSubnet => return [fromSubnet]
  | none =>
    match pod.annotations.ippools, pod.annotations.ippool with
    | some anno, _ => getPoolFromPodAnnoPools env.parse anno addArgs.ifName
    | none, some anno => do
      let t ← getPoolFromPodAnnoPool env.parse anno addArgs.ifName addArgs.cleanGateway
      return [t]
    | none, none => do
      let t ← getDefaultPools env addArgs pod
      return [t]

def Config.enablesVersion (cfg : Config) (ipVersion : IPVersion) : Bool :=
  (ipVersion = Constant.ipv4 ∧ cfg.enableIPv4) ∨ (ipVersion = Constant.ipv6 ∧ cfg.enableIPv6)

/-- `filterPoolMisspecified`. The checks behind its loop are commented out, and so it returns no
error. -/
def filterPoolMisspecified (cfg : Config) (t : ToBeAllocated) : ToBeAllocated :=
  { t with poolCandidates := t.poolCandidates.filter fun c => cfg.enablesVersion c.ipVersion }

def checkIPVersionEnable (cfg : Config) (tt : List ToBeAllocated) : List ToBeAllocated :=
  tt.map (filterPoolMisspecified cfg)

/-- `Less` of `ByPoolPriority`: the first restriction that one of two pools has and the other has
not decides for the one that has it. -/
def byPoolPriority (p q : IPPool) : Bool :=
  let restrictions : List (IPPool → Bool) :=
    [(·.spec.podAffinity.isSome), (·.spec.nodeName ≠ []), (·.spec.nodeAffinity.isSome),
     (·.spec.namespaceName ≠ []), (·.spec.namespaceAffinity.isSome), (·.spec.multusName ≠ [])]
  match restrictions.find? fun has => has p ≠ has q with
  | some has => has p
  | none => false

def sortPoolCandidates (order : RangeOrder String IPPool) (tt : List ToBeAllocated) :
    List ToBeAllocated :=
  tt.map fun t => { t with
    poolCandidates := t.poolCandidates.map fun c => { c with
      pools := (sortSlice byPoolPriority ((order.visit c.pToIPPool).map (·.2))).map (·.name) } }

def genToBeAllocatedSet (cfg : Config) (env : RuleEnv) (select : SelectEnv)
    (order : RangeOrder String IPPool) (addArgs : IpamAddArgs) (pod : Pod) (c : PodTopController) :
    Result Err (List ToBeAllocated) := do
  let preliminary ← getPoolCandidates cfg env addArgs pod c
  let prechecked ← (checkIPVersionEnable cfg preliminary).mapM (precheckPoolCandidates select)
  let filtered ← prechecked.mapM fun t => filterPoolCandidates cfg select t pod c addArgs
  return sortPoolCandidates order filtered

/-! ### What is left of an interface -/

def ToBeAllocated.key (t : ToBeAllocated) : String × ℕ := (t.nic, t.poolCandidates.length)

section

variable {cfg : Config} {env : RuleEnv} {select : SelectEnv} {order : RangeOrder String IPPool}
  {addArgs : IpamAddArgs} {pod : Pod} {c : PodTopController}

theorem key_of_mapM {t t' : ToBeAllocated} {f : PoolCandidate → Result Err PoolCandidate}
    (h : (do return { t with poolCandidates := ← t.poolCandidates.mapM f }) = .ok t') :
    t'.key = t.key := by
  obtain ⟨cs, hcs, h⟩ := bind_eq_ok.1 h
  obtain rfl := Except.ok.inj h
  have hlength := congrArg List.length (map_of_mapM (g := fun _ => ()) (fun _ _ _ => rfl) hcs)
  simpa [ToBeAllocated.key] using hlength

theorem precheckPoolCandidates_key {t t' : ToBeAllocated}
    (h : precheckPoolCandidates select t = .ok t') : t'.key = t.key :=
  key_of_mapM h

theorem filterPoolCandidates_key {t t' : ToBeAllocated}
    (h : filterPoolCandidates cfg select t pod c addArgs = .ok t') : t'.key = t.key :=
  key_of_mapM h

theorem genToBeAllocatedSet_keys {tt : List ToBeAllocated}
    (h : genToBeAllocatedSet cfg env select order addArgs pod c = .ok tt) :
    ∃ preliminary, getPoolCandidates cfg env addArgs pod c = .ok preliminary ∧
      tt.map ToBeAllocated.key =
        (checkIPVersionEnable cfg preliminary).map ToBeAllocated.key := by
  obtain ⟨preliminary, hpreliminary, h⟩ := bind_eq_ok.1 h
  obtain ⟨prechecked, hprecheck, h⟩ := bind_eq_ok.1 h
  obtain ⟨filtered, hfilter, h⟩ := bind_eq_ok.1 h
  obtain rfl := Except.ok.inj h
  have hsort : (sortPoolCandidates order filtered).map ToBeAllocated.key =
      filtered.map ToBeAllocated.key := by
    simp [sortPoolCandidates, ToBeAllocated.key, Function.comp_def]
  refine ⟨preliminary, hpreliminary, ?_⟩
  rw [hsort, map_of_mapM (fun _ _ => filterPoolCandidates_key) hfilter,
    map_of_mapM (fun _ _ => precheckPoolCandidates_key) hprecheck]

end

end IPAM
end Spiderpool
