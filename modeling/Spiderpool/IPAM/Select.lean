/-
# Which candidates a Pod may use

`precheckPoolCandidates`, `filterPoolCandidates` and `selectByPod` of `pkg/ipam/allocate.go`.
The candidates are read through the informer's cache, and those are dropped that are
terminating or disabled, of the wrong version, or not meant for the Pod, its node, its namespace
or its network (`filter_selected`).
-/

import Spiderpool.IPAM.Types
import Spiderpool.IPPool.Validate

namespace Spiderpool
namespace IPAM

structure NetworkSelectionElement where
  name : String
  ns : String := ""
  interfaceRequest : String := ""

structure SelectEnv where
  /-- `GetIPPoolByName`, through the cache. -/
  getIPPoolByName : String → Result Err IPPool
  nodeLabels : String → Result Err (GoMap String String) := fun _ => .ok ∅
  namespaceLabels : String → Result Err (GoMap String String) := fun _ => .ok ∅
  /-- `LabelSelectorAsSelector`, and `Matches` of its result. -/
  selects : LabelSelector → GoMap String String → Result Err Bool := fun _ _ => .ok true
  /-- `ParsePodNetworkAnnotation`, of a value and a default namespace. -/
  parsePodNetworkAnnotation : String → String → Result Err (List NetworkSelectionElement)
  /-- The physical function behind an interface in a network namespace, and its addresses. -/
  pfAddrs : String → String → Result Err (String × List Addr) := fun _ _ => .ok ("", [])

/-- `IsMatchAutoPoolAffinity`. Without a slash the API version is taken for the group. -/
def isMatchAutoPoolAffinity (podAffinity : LabelSelector) (pc : PodTopController) : Bool :=
  let (group, version) := cut pc.apiVersion '/'
  [(Constant.autoPoolPodAffinityAppAPIGroup, group),
   (Constant.autoPoolPodAffinityAppAPIVersion, version.getD ""),
   (Constant.autoPoolPodAffinityAppKind, pc.kind),
   (Constant.autoPoolPodAffinityAppNS, pc.ns),
   (Constant.autoPoolPodAffinityAppName, pc.name)].all fun kv =>
    (podAffinity.matchLabels.lookup kv.1).getD "" = kv.2

/-- The checks by node and by namespace: a list of names, or else a selector. -/
def selectByNames (env : SelectEnv) (what : String) (names : List String) (name : String)
    (affinity : Option LabelSelector) (labels : String → Result Err (GoMap String String))
    (pool : String) : Result Err Unit :=
  if names ≠ [] then
    failIf (name ∉ names) (.new ("unmatched " ++ what ++ " name of IPPool " ++ pool))
  else
    match affinity with
    | none => .ok ()
    | some affinity => do
      let labels ← labels name
      let found ← env.selects affinity labels
      failIf (found = false) (.new ("unmatched " ++ what ++ " affinity of IPPool " ++ pool))

/-- The check by the affinity of the Pod. It tells whether the pool is selected already, as one
created for the Pod's application is. -/
def selectByPodAffinity (env : SelectEnv) (p : IPPool) (pod : Pod) (pc : PodTopController) :
    Result Err Bool :=
  match p.spec.podAffinity with
  | none => .ok false
  | some affinity =>
    if isAutoCreatedIPPool p then
      if isMatchAutoPoolAffinity affinity pc then .ok true
      else fail (.new ("unmatched Pod annifity of auto-created IPool " ++ p.name))
    else do
      let found ← env.selects affinity pod.labels
      failIf (found = false) (.new ("unmatched Pod affinity of IPPool " ++ p.name))
      return false

def defaultNetwork (cfg : Config) (env : SelectEnv) (p : IPPool) (pod : Pod) :
    Result Err (String × String) := do
  let value ← match pod.annotations.defaultNetwork.getD "", cfg.multusClusterNetwork with
    | "", none => fail (.new ("cluster-network multus isn't set, the IPPool " ++ p.name ++
        " specified multusName " ++ formatList p.spec.multusName ++ " unmatched"))
    | "", some clusterNetwork => .ok clusterNetwork
    | value, _ => .ok value
  let parsed := "failed to parse Annotation 'v1.multus-cni.io/default-network' value '" ++ value ++ "'"
  let networks ← mapErr (.wrap (parsed ++ ", error: ") · "")
    ( env.parsePodNetworkAnnotation value cfg.agentNamespace)
  match networks with
  | [] => fail (.new (parsed ++ ": empty result"))
  | n :: _ => return (if n.ns = "" then cfg.agentNamespace else n.ns, n.name)

/-- The first network of an additional interface, by its name or by its index. -/
def findNetwork (nic : String) : ℕ → List NetworkSelectionElement → Option NetworkSelectionElement
  | _, [] => none
  | idx, n :: ns =>
    let interfaceRequest :=
      if n.interfaceRequest = "" then "net" ++ itoa (idx + 1) else n.interfaceRequest
    if nic = interfaceRequest ∨ nic = itoa (idx + 1) then some n else findNetwork nic (idx + 1) ns

/-- The network of an additional interface, as namespace and name. -/
def additionalNetwork (env : SelectEnv) (pod : Pod) (nic : String) : Result Err (String × String) := do
  let value := pod.annotations.networks.getD ""
  let networks ← mapErr (.wrap "failed to parse pod network annotation: " · "")
    ( env.parsePodNetworkAnnotation value pod.ns)
  match findNetwork nic 0 networks with
  | none => fail (.wrap "" (.of .errUnknown) (": no matched multus object for NIC '" ++ nic ++
      "'. The multus network-attachments: " ++ value))
  | some n => return (if n.ns = "" then pod.ns else n.ns, n.name)

def filterPoolCandidatesByPfSubnet (env : SelectEnv) (p : IPPool) (podNetNamespace nic : String) :
    Result Err Unit :=
  let text := "filterPoolCandidatesByPfSubnet: "
  if p.spec.subnet = "" then fail (.new (text ++ "subnet is empty"))
  else do
    let (pfName, addrs) ← env.pfAddrs podNetNamespace nic
    match netParseCIDR p.spec.subnet with
    | none => fail (.new (text ++ "failed to parse subnet " ++ p.spec.subnet))
    | some (_, ipNet) =>
      failIf (addrs.any ipNet.contains = false)
        (.new (text ++ "the ippool's subnet " ++ p.spec.subnet ++ " not found on pod's PF " ++ pfName))

def selectByNetwork (cfg : Config) (env : SelectEnv) (p : IPPool) (pod : Pod) (nic : String)
    (podNetNamespace : String) (matchMasterSubnet : Bool) : Result Err Unit := do
  let (multusNS, multusName) ←
    if nic = Constant.clusterDefaultInterfaceName ∨ nic = itoa 0 then defaultNetwork cfg env p pod
    else additionalNetwork env pod nic
  if p.spec.multusName ≠ [] then
    let expected := p.spec.multusName.map fun name =>
      if '/' ∈ name.toList then name else cfg.agentNamespace ++ "/" ++ name
    failIf (multusNS ++ "/" ++ multusName ∉ expected) (.new ("the spec.multusName " ++
      formatList p.spec.multusName ++ " in the IPPool " ++ p.name ++ " used by the Pod interface " ++
      nic ++ " is not matched with the multusCR " ++ multusNS ++ "/" ++ multusName ++
      " specified by the Pod"))
  else if matchMasterSubnet = false then return ()
  else if podNetNamespace = "" then
    fail (.new "filterPoolCandidatesByPfSubnet: podNetNamespace is empty")
  else filterPoolCandidatesByPfSubnet env p podNetNamespace nic

def selectByPod (cfg : Config) (env : SelectEnv) (version : IPVersion) (ipPool : Option IPPool)
    (pod : Pod) (pc : PodTopController) (nic podNetNamespace : String) (matchMasterSubnet : Bool) :
    Result Err Unit :=
  match ipPool with
  | none => fail (.new "nil IPPool")
  | some p => do
    failIf (p.deletionTimestamp.isSome) (.new ("terminating IPPool " ++ p.name))
    let disable ← deref p.spec.disable
    failIf (disable = true) (.new ("disabled IPPool " ++ p.name))
    match p.spec.ipVersion with
    | none => fail (.new "nil ippool ipVersion")
    | some ipVersion => do
      failIf (ipVersion ≠ version) (.new ("expect an IPv" ++ toString version ++
        " IPPool, but the version of the IPPool " ++ p.name ++ " is IPv" ++ toString ipVersion))
      selectByNames env "Node" p.spec.nodeName pod.nodeName p.spec.nodeAffinity env.nodeLabels p.name
      selectByNames env "Namespace" p.spec.namespaceName pod.ns p.spec.namespaceAffinity
        env.namespaceLabels p.name
      let selected ← selectByPodAffinity env p pod pc
      if selected then return ()
      else selectByNetwork cfg env p pod nic podNetNamespace matchMasterSubnet

/-! ### All candidates of an interface -/

/-- The loop of `precheckPoolCandidates` over the pools of a candidate. -/
def precheckLoop (env : SelectEnv) (nic : String) : List String → List String → GoMap String IPPool →
    Result Err (GoMap String IPPool)
  | _, [], m => .ok m
  | marks, pool :: pools, m => do
    failIf (pool ∈ marks) (.wrap "" (.of .errWrongInput)
      (", duplicate IPPool " ++ pool ++ " specified for NIC " ++ nic))
    match m.lookup pool with
    | some _ => precheckLoop env nic (pool :: marks) pools m
    | none => do
      let ipPool ← mapErr (.wrap ("failed to get original IPPool " ++ pool ++ ": ") · "")
        (env.getIPPoolByName pool)
      precheckLoop env nic (pool :: marks) pools (m.insert pool ipPool)

def precheckPoolCandidates (env : SelectEnv) (t : ToBeAllocated) : Result Err ToBeAllocated := do
  let poolCandidates ← t.poolCandidates.mapM fun c => do
    let pToIPPool ← precheckLoop env t.nic [] c.pools c.pToIPPool
    return { c with pToIPPool := pToIPPool }
  return { t with poolCandidates := poolCandidates }

/-- The loop of `filterPoolCandidates` over the pools of a candidate: those that are left, and
the errors of the others. -/
def filterLoop (select : Option IPPool → Result Err Unit) : List String → GoMap String IPPool →
    Result Err (List String × GoMap String IPPool × List Err)
  | [], m => .ok ([], m, [])
  | pool :: pools, m =>
    match select (m.lookup pool) with
    | .ok () => do
      let (left, m, errs) ← filterLoop select pools m
      return (pool :: left, m, errs)
    | .error (.err e) => do
      let (left, m, errs) ← filterLoop select pools (m.erase pool)
      return (left, m, e :: errs)
    | .error fault => .error fault

/-- The body of `filterPoolCandidates`. -/
def filterCandidate (select : IPVersion → Option IPPool → Result Err Unit) (nic : String)
    (c : PoolCandidate) : Result Err PoolCandidate := do
  let (left, pToIPPool, errs) ← filterLoop (select c.ipVersion) c.pools c.pToIPPool
  failIf (left = []) ⟨.errNoAvailablePool :: (Err.aggregate errs).sentinels,
    Sentinel.errNoAvailablePool.text ++ ", all IPv" ++ toString c.ipVersion ++ " IPPools " ++
      formatList c.pools ++ " of " ++ nic ++ " filtered out: " ++ (Err.aggregate errs).text⟩
  return { c with pools := left, pToIPPool := pToIPPool }

def filterPoolCandidates (cfg : Config) (env : SelectEnv) (t : ToBeAllocated) (pod : Pod)
    (pc : PodTopController) (addArgs : IpamAddArgs) : Result Err ToBeAllocated := do
  let poolCandidates ← t.poolCandidates.mapM (filterCandidate
    (fun version p => selectByPod cfg env version p pod pc t.nic addArgs.netNamespace
      addArgs.matchMasterSubnet) t.nic)
  return { t with poolCandidates := poolCandidates }

section

variable {cfg : Config} {env : SelectEnv} {version : IPVersion} {p : IPPool} {pod : Pod}
  {pc : PodTopController} {nic netns : String} {matchMaster : Bool}

theorem selectByPod_ok
    (h : selectByPod cfg env version (some p) pod pc nic netns matchMaster = .ok ()) :
    p.deletionTimestamp = none ∧ p.spec.disable = some false ∧ p.spec.ipVersion = some version := by
  unfold selectByPod at h
  obtain ⟨hterminating, h⟩ := seq_eq_ok.1 h
  obtain ⟨disable, hdisable, h⟩ := bind_eq_ok.1 h
  obtain ⟨henabled, h⟩ := seq_eq_ok.1 h
  cases hversion : p.spec.ipVersion with
  | none => simp [hversion, fail] at h
  | some ipVersion =>
    simp only [hversion] at h
    obtain ⟨hsame, -⟩ := seq_eq_ok.1 h
    rw [failIf_eq_ok] at hterminating henabled hsame
    rw [not_not.1 hsame]
    rw [Bool.not_eq_true] at henabled
    exact ⟨by simpa using hterminating, henabled ▸ deref_eq_ok.1 hdisable, rfl⟩

theorem filterLoop_selected {select : Option IPPool → Result Err Unit} {pools : List String}
    {m₀ m : GoMap String IPPool} {x : List String × GoMap String IPPool × List Err}
    (hnil : ∀ u, select none ≠ .ok u) (hm : ∀ k p, m.lookup k = some p → m₀.lookup k = some p)
    (h : filterLoop select pools m = .ok x) :
    ∀ pool ∈ x.1, ∃ p, m₀.lookup pool = some p ∧ select (some p) = .ok () := by
  induction pools generalizing m x with
  | nil =>
    obtain rfl := Except.ok.inj h
    simp
  | cons pool pools ih =>
    rw [filterLoop] at h
    split at h
    · rename_i hselect
      obtain ⟨⟨left, m', errs⟩, hrest, h⟩ := bind_eq_ok.1 h
      obtain rfl := Except.ok.inj h
      refine List.forall_mem_cons.2 ⟨?_, ih hm hrest⟩
      cases hlookup : m.lookup pool with
      | none => exact absurd (hlookup ▸ hselect) (hnil ())
      | some p => exact ⟨p, hm pool p hlookup, hlookup ▸ hselect⟩
    · obtain ⟨⟨left, m', errs⟩, hrest, h⟩ := bind_eq_ok.1 h
      obtain rfl := Except.ok.inj h
      have herase : ∀ k p, (m.erase pool).lookup k = some p → m₀.lookup k = some p := by
        intro k p hk
        rw [GoMap.lookup_erase_eq] at hk
        split_ifs at hk
        exact hm k p hk
      have hleft := ih herase hrest
      exact hleft
    · cases h

theorem filter_selected {t t' : ToBeAllocated} {addArgs : IpamAddArgs}
    (h : filterPoolCandidates cfg env t pod pc addArgs = .ok t') :
    ∀ c' ∈ t'.poolCandidates, ∃ c ∈ t.poolCandidates, ∀ pool ∈ c'.pools,
      ∃ p, c.pToIPPool.lookup pool = some p ∧ p.deletionTimestamp = none ∧
        p.spec.disable = some false := by
  obtain ⟨cs, hcs, h⟩ := bind_eq_ok.1 h
  obtain rfl := Except.ok.inj h
  intro c' hc'
  obtain ⟨c, hc, hfilter⟩ := exists_of_mem_mapM hcs hc'
  refine ⟨c, hc, fun pool hpool => ?_⟩
  obtain ⟨⟨left, m, errs⟩, hloop, hfilter⟩ := bind_eq_ok.1 hfilter
  obtain ⟨-, hfilter⟩ := seq_eq_ok.1 hfilter
  obtain rfl := Except.ok.inj hfilter
  obtain ⟨p, hp, hselect⟩ := filterLoop_selected (by simp [selectByPod, fail]) (fun _ _ => id) hloop
    pool hpool
  obtain ⟨hlive, henabled, -⟩ := selectByPod_ok hselect
  exact ⟨p, hp, hlive, henabled⟩

end

end IPAM
end Spiderpool
