/-
# What becomes of the candidates

`genToBeAllocatedSet` reads the pools of the candidates whose version is enabled, drops those that
`selectByPod` rejects, and sorts the others.

`ByPoolPriority` is a strict weak order, so that `genToBeAllocatedSet_exact` is true of whatever
`sort.Sort` does with pools that rank equal: the sort is a parameter here.
-/

import Spiderpool.IPAM.CandidateOrder
import Spiderpool.IPAM.Restrictions

namespace Spiderpool
namespace IPAM

def sortPoolCandidatesBy (sort : (IPPool → IPPool → Bool) → List IPPool → List IPPool)
    (order : RangeOrder String IPPool) (tt : List ToBeAllocated) : List ToBeAllocated :=
  tt.map fun t => { t with
    poolCandidates := t.poolCandidates.map fun c => { c with
      pools := (sort byPoolPriority ((order.visit c.pToIPPool).map (·.2))).map (·.name) } }

def genToBeAllocatedSetBy (sort : (IPPool → IPPool → Bool) → List IPPool → List IPPool)
    (cfg : Config) (env : RuleEnv) (select : SelectEnv) (order : RangeOrder String IPPool)
    (addArgs : IpamAddArgs) (pod : Pod) (c : PodTopController) : Result Err (List ToBeAllocated) := do
  let preliminary ← getPoolCandidates cfg env addArgs pod c
  let prechecked ← (checkIPVersionEnable cfg preliminary).mapM (precheckPoolCandidates select)
  let filtered ← prechecked.mapM fun t => filterPoolCandidates cfg select t pod c addArgs
  return sortPoolCandidatesBy sort order filtered

theorem genToBeAllocatedSet_eq : genToBeAllocatedSet = genToBeAllocatedSetBy sortSlice := rfl

/-- What `selectByPod` asks of others is answered. -/
structure SelectEnv.Answers (select : SelectEnv) : Prop where
  nodeLabels : ∀ name, Returns (select.nodeLabels name)
  namespaceLabels : ∀ name, Returns (select.namespaceLabels name)
  selects : ∀ selector labels, Returns (select.selects selector labels)
  parsePodNetworkAnnotation : ∀ value ns, Returns ( select.parsePodNetworkAnnotation value ns)
  pfAddrs : ∀ netns nic, Returns (select.pfAddrs netns nic)

/-- The pool that a candidate has at hand under a name, or else the one that is read. -/
def poolOf (select : SelectEnv) (c : PoolCandidate) (name : String) : Option IPPool :=
  c.pToIPPool.lookup name <|> (select.getIPPoolByName name).toOption

/-! ### `selectByPod` returns -/

section

variable {cfg : Config} {select : SelectEnv} {pod : Pod} {pc : PodTopController}
  {nic netns : String} {matchMaster : Bool}

theorem selectByNames_returns (hselects : ∀ selector labels, Returns (select.selects selector labels))
    {what name pool : String} {names : List String} {affinity : Option LabelSelector}
    {labels : String → Result Err (GoMap String String)} (hlabels : ∀ name, Returns (labels name)) :
    Returns (selectByNames select what names name affinity labels pool) := by
  unfold selectByNames
  split_ifs
  · exact returns_failIf _ _
  · cases affinity with
    | none => exact returns_ok ()
    | some affinity =>
      exact (hlabels name).bind fun labels _ =>
        (hselects affinity labels).bind fun _ _ => returns_failIf _ _

theorem selectByPodAffinity_returns
    (hselects : ∀ selector labels, Returns (select.selects selector labels)) (p : IPPool) :
    Returns (selectByPodAffinity select p pod pc) := by
  unfold selectByPodAffinity
  cases p.spec.podAffinity with
  | none => exact returns_ok _
  | some affinity =>
    dsimp only
    split_ifs
    · exact returns_ok _
    · exact returns_fail _
    · exact (hselects _ _).bind fun _ _ => (returns_failIf _ _).bind fun _ _ => returns_ok _

theorem interfaceNetwork_returns (p : IPPool)
    (hdefault : Returns ( select.parsePodNetworkAnnotation (pod.annotations.defaultNetwork.getD "")
      cfg.agentNamespace))
    (hcluster : ∀ value ∈ cfg.multusClusterNetwork,
      Returns ( select.parsePodNetworkAnnotation value cfg.agentNamespace))
    (hadditional : Returns ( select.parsePodNetworkAnnotation (pod.annotations.networks.getD "") pod.ns)) :
    Returns (interfaceNetwork cfg select p pod nic) := by
  unfold interfaceNetwork
  split_ifs
  · unfold defaultNetwork
    dsimp only
    split
    · exact (returns_fail _).bind fun _ h => nomatch h
    · rename_i clusterNetwork _ hcfg
      refine (returns_ok clusterNetwork).bind fun value hvalue => ?_
      obtain rfl := Except.ok.inj hvalue
      refine ((hcluster _ hcfg).mapErr _).bind ?_
      rintro (_ | ⟨n, _⟩) -
      · exact returns_fail _
      · exact returns_ok _
    · refine (returns_ok _).bind fun value hvalue => ?_
      obtain rfl := Except.ok.inj hvalue
      refine (hdefault.mapErr _).bind ?_
      rintro (_ | ⟨n, _⟩) -
      · exact returns_fail _
      · exact returns_ok _
  · unfold additionalNetwork
    refine (hadditional.mapErr _).bind fun networks _ => ?_
    split
    · exact returns_fail _
    · exact returns_ok _

theorem selectByNetwork_returns (hpf : ∀ netns nic, Returns (select.pfAddrs netns nic)) (p : IPPool)
    (hnetwork : Returns (interfaceNetwork cfg select p pod nic)) :
    Returns (selectByNetwork cfg select p pod nic netns matchMaster) := by
  have hsubnet : Returns (filterPoolCandidatesByPfSubnet select p netns nic) := by
    unfold filterPoolCandidatesByPfSubnet
    dsimp only
    split_ifs
    · exact returns_fail _
    · refine (hpf _ _).bind fun found _ => ?_
      split
      · exact returns_fail _
      · exact returns_failIf _ _
  unfold interfaceNetwork at hnetwork
  unfold selectByNetwork
  dsimp only
  split <;> rename_i hnic
  · rw [if_pos hnic] at hnetwork
    refine hnetwork.bind fun network _ => ?_
    split_ifs
    exacts [returns_failIf _ _, returns_ok _, returns_fail _, hsubnet]
  · rw [if_neg hnic] at hnetwork
    refine hnetwork.bind fun network _ => ?_
    split_ifs
    exacts [returns_failIf _ _, returns_ok _, returns_fail _, hsubnet]

theorem selectByPod_returns_of_network (hnode : ∀ name, Returns (select.nodeLabels name))
    (hns : ∀ name, Returns (select.namespaceLabels name))
    (hselects : ∀ selector labels, Returns (select.selects selector labels))
    (hpf : ∀ netns nic, Returns (select.pfAddrs netns nic)) {version : IPVersion} {ipPool : Option IPPool}
    (hdisable : ∀ p ∈ ipPool, p.spec.disable.isSome)
    (hnetwork : ∀ p, Returns (interfaceNetwork cfg select p pod nic)) :
    Returns (selectByPod cfg select version ipPool pod pc nic netns matchMaster) := by
  cases ipPool with
  | none => exact returns_fail _
  | some p =>
    obtain ⟨disable, hset⟩ := Option.isSome_iff_exists.1 (hdisable p rfl)
    refine (returns_failIf _ _).bind fun _ _ => ?_
    rw [hset]
    refine (returns_ok disable).bind fun _ _ => (returns_failIf _ _).bind fun _ _ => ?_
    cases p.spec.ipVersion with
    | none => exact returns_fail _
    | some ipVersion =>
      refine (returns_failIf _ _).bind fun _ _ =>
        (selectByNames_returns hselects hnode).bind fun _ _ =>
        (selectByNames_returns hselects hns).bind fun _ _ =>
        (selectByPodAffinity_returns hselects p).bind fun selected _ => ?_
      cases selected
      · exact selectByNetwork_returns hpf p (hnetwork p)
      · exact returns_ok ()

theorem selectByPod_returns (h : select.Answers) {version : IPVersion} {ipPool : Option IPPool}
    (hdisable : ∀ p ∈ ipPool, p.spec.disable.isSome) :
    Returns (selectByPod cfg select version ipPool pod pc nic netns matchMaster) :=
  selectByPod_returns_of_network h.nodeLabels h.namespaceLabels h.selects h.pfAddrs hdisable fun p =>
    interfaceNetwork_returns p ( h.parsePodNetworkAnnotation _ _)
      (fun _ _ => h.parsePodNetworkAnnotation _ _) ( h.parsePodNetworkAnnotation _ _)

end

/-! ### The loops -/

def duplicateErr (pool nic : String) : Err :=
  .wrap "" (.of .errWrongInput) (", duplicate IPPool " ++ pool ++ " specified for NIC " ++ nic)

theorem precheckLoop_spec {select : SelectEnv} {nic : String} {marks pools : List String}
    {m : GoMap String IPPool}
    (hfound : ∀ x ∈ pools, (m.lookup x).isSome ∨ ∃ p, select.getIPPoolByName x = .ok p) :
    (pools.Nodup ∧ (∀ x ∈ pools, x ∉ marks) ∧ ∃ m', precheckLoop select nic marks pools m = .ok m' ∧
      ∀ k, m'.lookup k = if k ∈ pools then m.lookup k <|> (select.getIPPoolByName k).toOption
        else m.lookup k) ∨
    ¬(pools.Nodup ∧ ∀ x ∈ pools, x ∉ marks) ∧
      ∃ pool, precheckLoop select nic marks pools m = fail (duplicateErr pool nic) := by
  induction pools generalizing marks m with
  | nil => exact .inl ⟨.nil, by simp, m, rfl, by simp⟩
  | cons pool pools ih =>
    rw [List.forall_mem_cons] at hfound
    by_cases hmark : pool ∈ marks
    · refine .inr ⟨fun h => h.2 pool List.mem_cons_self hmark, ?_⟩
      rw [precheckLoop, failIf, if_pos hmark]
      exact ⟨pool, rfl⟩
    -- the rest of the pools is read from a map that has this one
    obtain ⟨m₁, heq, hm₁⟩ : ∃ m₁, precheckLoop select nic marks (pool :: pools) m =
          precheckLoop select nic (pool :: marks) pools m₁ ∧
        ∀ k, m₁.lookup k = if k = pool then m.lookup k <|> (select.getIPPoolByName k).toOption
          else m.lookup k := by
      cases hlookup : m.lookup pool with
      | some p =>
        refine ⟨m, ?_, fun k => ?_⟩
        · rw [precheckLoop, failIf, if_neg hmark, hlookup]
          rfl
        · split_ifs with hk
          · rw [hk, hlookup]
            rfl
          · rfl
      | none =>
        obtain ⟨p, hp⟩ := hfound.1.resolve_left (by simp [hlookup])
        refine ⟨m.insert pool p, ?_, fun k => ?_⟩
        · rw [precheckLoop, failIf, if_neg hmark, hlookup, hp]
          rfl
        · rw [GoMap.lookup_insert_eq]
          split_ifs with hk
          · rw [hk, hlookup, hp]
            rfl
          · rfl
    have hfound₁ : ∀ x ∈ pools, (m₁.lookup x).isSome ∨ ∃ p, select.getIPPoolByName x = .ok p := by
      intro x hx
      rw [hm₁]
      rcases hfound.2 x hx with hsome | hp
      · obtain ⟨p, hp⟩ := Option.isSome_iff_exists.1 hsome
        split_ifs <;> simp [hp]
      · exact .inr hp
    have hnodup : ((pool :: pools).Nodup ∧ ∀ x ∈ pool :: pools, x ∉ marks) ↔
        pools.Nodup ∧ ∀ x ∈ pools, x ∉ pool :: marks := by
      rw [List.nodup_cons, List.forall_mem_cons]
      simp only [List.mem_cons, not_or]
      constructor
      · rintro ⟨⟨hpool, hpools⟩, -, hmarks⟩
        exact ⟨hpools, fun x hx => ⟨fun hxp => hpool (hxp ▸ hx), hmarks x hx⟩⟩
      · rintro ⟨hpools, hmarks⟩
        exact ⟨⟨fun hin => (hmarks pool hin).1 rfl, hpools⟩, hmark, fun x hx => (hmarks x hx).2⟩
    rw [heq]
    rcases ih hfound₁ with ⟨hpools, hmarks, m', hm', hlookup⟩ | ⟨hdup, hfail⟩
    · obtain ⟨hpools', hmarks'⟩ := hnodup.2 ⟨hpools, hmarks⟩
      refine .inl ⟨hpools', hmarks', m', hm', fun k => ?_⟩
      rw [hlookup, hm₁]
      by_cases hk : k = pool
      · subst hk
        have hnot : k ∉ pools := (List.nodup_cons.1 hpools').1
        simp [hnot]
      · simp [hk]
    · exact .inr ⟨fun h => hdup (hnodup.1 h), hfail⟩

theorem filterLoop_spec (check : Option IPPool → Result Err Unit) {pools : List String}
    {m : GoMap String IPPool} (hpools : pools.Nodup)
    (hreturns : ∀ x ∈ pools, Returns (check (m.lookup x))) :
    ∃ m' errs, filterLoop check pools m =
        .ok (pools.filter fun x => check (m.lookup x) = .ok (), m', errs) ∧
      ∀ k, m'.lookup k = if k ∈ pools ∧ check (m.lookup k) ≠ .ok () then none else m.lookup k := by
  induction pools generalizing m with
  | nil => exact ⟨m, [], rfl, by simp⟩
  | cons pool pools ih =>
    rw [List.nodup_cons] at hpools
    rw [List.forall_mem_cons] at hreturns
    rw [filterLoop]
    rcases hcheck : check (m.lookup pool) with (e | - | -) | ⟨⟩
    · -- the pool is taken out of the map, which leaves the others
      have herase : ∀ x ∈ pools, (m.erase pool).lookup x = m.lookup x := by
        intro x hx
        have hne : x ≠ pool := fun heq => hpools.1 (heq ▸ hx)
        rw [GoMap.lookup_erase_eq, if_neg hne]
      obtain ⟨m', errs, hloop, hlookup⟩ := ih hpools.2 (m := m.erase pool) fun x hx => by
        rw [herase x hx]
        exact hreturns.2 x hx
      have hfilter : (pools.filter fun x => check ((m.erase pool).lookup x) = .ok ()) =
          (pool :: pools).filter fun x => check (m.lookup x) = .ok () := by
        rw [List.filter_cons_of_neg (by simp [hcheck])]
        exact List.filter_congr fun x hx => by rw [herase x hx]
      refine ⟨m', e :: errs, ?_, fun k => ?_⟩
      · dsimp only
        rw [hloop, hfilter]
        rfl
      · rw [hlookup, GoMap.lookup_erase_eq]
        by_cases hk : k = pool
        · subst hk
          simp [hcheck]
        · simp [hk]
    · exact absurd hcheck hreturns.1.1
    · exact absurd hcheck hreturns.1.2
    · obtain ⟨m', errs, hloop, hlookup⟩ := ih hpools.2 hreturns.2
      refine ⟨m', errs, ?_, fun k => ?_⟩
      · dsimp only
        rw [hloop, List.filter_cons_of_pos (by simp [hcheck])]
        rfl
      · rw [hlookup]
        by_cases hk : k = pool
        · subst hk
          simp [hcheck]
        · simp [hk]

/-! ### One candidate -/

section

variable {cfg : Config} {env : RuleEnv} {select : SelectEnv} {addArgs : IpamAddArgs} {pod : Pod}
  {pc : PodTopController} {sort : (IPPool → IPPool → Bool) → List IPPool → List IPPool}
  {order : RangeOrder String IPPool} {nic : String} {c : PoolCandidate}

/-- `selectByPod` accepts the pool that a candidate has under a name. -/
def accepts (cfg : Config) (select : SelectEnv) (addArgs : IpamAddArgs) (pod : Pod)
    (pc : PodTopController) (nic : String) (c : PoolCandidate) (name : String) : Bool :=
  selectByPod cfg select c.ipVersion (poolOf select c name) pod pc nic addArgs.netNamespace
    addArgs.matchMasterSubnet = .ok ()

/-- What comes out of a candidate: the pools that are accepted, once each, by their ranks, and a map
with these. -/
structure Selected (cfg : Config) (select : SelectEnv) (addArgs : IpamAddArgs) (pod : Pod)
    (pc : PodTopController) (nic : String) (c c' : PoolCandidate) : Prop where
  ipVersion : c'.ipVersion = c.ipVersion
  distinct : c.pools.Nodup
  perm : c'.pools.Perm (c.pools.filter (accepts cfg select addArgs pod pc nic c))
  nodup : c'.pools.Nodup
  nonempty : c'.pools ≠ []
  ranked : c'.pools.Pairwise fun a b => ∀ p q, poolOf select c a = some p →
    poolOf select c b = some q → byPoolPriority q p = false
  keys : ∀ k, k ∈ c'.pToIPPool ↔ k ∈ c'.pools
  pools : ∀ k ∈ c'.pools, c'.pToIPPool.lookup k = poolOf select c k

/-- Every pool that a candidate lists is at hand, or is found; and its `disable` is set, as the API
server sets it by default. -/
structure LookedUp (select : SelectEnv) (c : PoolCandidate) : Prop where
  found : ∀ x ∈ c.pools, (c.pToIPPool.lookup x).isSome ∨ ∃ p, select.getIPPoolByName x = .ok p
  disable : ∀ x p, poolOf select c x = some p → p.spec.disable.isSome

def Prechecked (select : SelectEnv) (c c₁ : PoolCandidate) : Prop :=
  c.pools.Nodup ∧ ∃ m, c₁ = { c with pToIPPool := m } ∧
    ∀ k, m.lookup k = if k ∈ c.pools then poolOf select c k else none

/-- The candidate after those that are rejected have been dropped. -/
def Filtered (cfg : Config) (select : SelectEnv) (addArgs : IpamAddArgs) (pod : Pod)
    (pc : PodTopController) (nic : String) (c c₂ : PoolCandidate) : Prop :=
  c.pools.Nodup ∧ c.pools.filter (accepts cfg select addArgs pod pc nic c) ≠ [] ∧
    c₂.ipVersion = c.ipVersion ∧ ∀ k, c₂.pToIPPool.lookup k =
      if k ∈ c.pools.filter (accepts cfg select addArgs pod pc nic c) then poolOf select c k else none

def precheckTurn (select : SelectEnv) (nic : String) (c : PoolCandidate) :
    Result Err PoolCandidate := do
  let pToIPPool ← precheckLoop select nic [] c.pools c.pToIPPool
  return { c with pToIPPool := pToIPPool }

theorem precheckPoolCandidates_eq (select : SelectEnv) (t : ToBeAllocated) :
    precheckPoolCandidates select t = (do
      let poolCandidates ← t.poolCandidates.mapM (precheckTurn select t.nic)
      return { t with poolCandidates := poolCandidates }) := rfl

theorem precheck_candidate (hc : Filed c) (hlooked : LookedUp select c) :
    (∃ c₁, precheckTurn select nic c = .ok c₁ ∧ Prechecked select c c₁) ∨
      ∃ e, precheckTurn select nic c = fail e ∧ ¬c.pools.Nodup := by
  unfold precheckTurn
  rcases precheckLoop_spec hlooked.found with ⟨hnodup, -, m, hm, hlookup⟩ | ⟨hdup, pool, he⟩
  · refine .inl ⟨{ c with pToIPPool := m }, by rw [hm]; rfl, hnodup, m, rfl, fun k => ?_⟩
    rw [hlookup]
    split_ifs with hk
    · rfl
    · exact AList.lookup_eq_none.2 fun hin => hk (hc.listed k hin)
  · exact .inr ⟨duplicateErr pool nic, by rw [he]; rfl, fun h => hdup ⟨h, by simp⟩⟩

theorem filter_candidate (cfg : Config) (addArgs : IpamAddArgs) (pod : Pod) (pc : PodTopController)
    (nic : String) {c₁ : PoolCandidate} (hanswers : select.Answers)
    (hlooked : LookedUp select c) (hchecked : Prechecked select c c₁) :
    let result := filterCandidate (fun version p => selectByPod cfg select version p pod pc nic
      addArgs.netNamespace addArgs.matchMasterSubnet) nic c₁
    (∃ c₂, result = .ok c₂ ∧ Filtered cfg select addArgs pod pc nic c c₂) ∨
      ∃ e, result = fail e ∧ ∀ x ∈ c.pools, accepts cfg select addArgs pod pc nic c x = false := by
  obtain ⟨hnodup, m, rfl, hm⟩ := hchecked
  have hpool : ∀ x ∈ c.pools, m.lookup x = poolOf select c x := fun x hx => by
    rw [hm, if_pos hx]
  obtain ⟨m', errs, hloop, hlookup⟩ := filterLoop_spec
    (fun p => selectByPod cfg select c.ipVersion p pod pc nic addArgs.netNamespace
      addArgs.matchMasterSubnet) hnodup fun x hx => by
    rw [hpool x hx]
    exact selectByPod_returns hanswers fun p hp => hlooked.disable x p hp
  have hleft : (c.pools.filter fun x => selectByPod cfg select c.ipVersion (m.lookup x) pod pc nic
      addArgs.netNamespace addArgs.matchMasterSubnet = .ok ()) =
      c.pools.filter (accepts cfg select addArgs pod pc nic c) :=
    List.filter_congr fun x hx => by rw [hpool x hx, accepts]
  rw [hleft] at hloop
  dsimp only
  rw [filterCandidate]
  dsimp only
  rw [hloop]
  by_cases hnil : c.pools.filter (accepts cfg select addArgs pod pc nic c) = []
  · have hrejected : ∀ x ∈ c.pools, accepts cfg select addArgs pod pc nic c x = false := by
      simpa [List.filter_eq_nil_iff] using hnil
    right
    simp only [hnil, bind, Except.bind, failIf, if_true]
    exact ⟨_, rfl, hrejected⟩
  · refine .inl ⟨
      { c with
        pools := c.pools.filter (accepts cfg select addArgs pod pc nic c), pToIPPool := m' },
      ?_, hnodup, hnil, rfl, fun k => ?_⟩
    · simp only [bind, Except.bind, failIf, if_neg hnil]
      rfl
    · dsimp only
      rw [hlookup, hm]
      by_cases hk : k ∈ c.pools
      · simp only [hk, if_true, true_and, List.mem_filter, accepts, decide_eq_true_eq, ite_not]
      · simp [hk]

theorem selected_of_filtered {c' : PoolCandidate} (hsort : Sorts sort) (hc : Filed c)
    (hget : ∀ n p, select.getIPPoolByName n = .ok p → p.name = n)
    (hfiltered : Filtered cfg select addArgs pod pc nic c c') :
    Selected cfg select addArgs pod pc nic c { c' with
      pools := (sort byPoolPriority ((order.visit c'.pToIPPool).map (·.2))).map (·.name) } := by
  obtain ⟨hnodup, hleft, hversion, hlookup⟩ := hfiltered
  have hnamed : ∀ k p, poolOf select c k = some p → p.name = k := by
    intro k p hp
    unfold poolOf at hp
    cases hk : c.pToIPPool.lookup k with
    | some q =>
      rw [hk] at hp
      obtain rfl := Option.some.inj hp
      exact hc.named k q hk
    | none =>
      rw [hk] at hp
      cases hread : select.getIPPoolByName k with
      | error e =>
        rw [hread] at hp
        cases hp
      | ok q =>
        rw [hread] at hp
        obtain rfl := Option.some.inj hp
        exact hget k q hread
  have hm : ∀ k p, c'.pToIPPool.lookup k = some p → p.name = k := by
    intro k p hp
    rw [hlookup] at hp
    split_ifs at hp
    exact hnamed k p hp
  -- a pool that is accepted is there
  have hkeys : ∀ k, k ∈ c'.pToIPPool ↔
      k ∈ c.pools.filter (accepts cfg select addArgs pod pc nic c) := by
    intro k
    rw [← AList.lookup_isSome, hlookup]
    by_cases hk : k ∈ c.pools.filter (accepts cfg select addArgs pod pc nic c)
    · refine iff_of_true ?_ hk
      rw [if_pos hk]
      have haccepts := of_decide_eq_true (List.mem_filter.1 hk).2
      cases hpool : poolOf select c k with
      | none =>
        rw [hpool] at haccepts
        cases haccepts
      | some p => rfl
    · simp [hk]
  have hperm : ((sort byPoolPriority ((order.visit c'.pToIPPool).map (·.2))).map (·.name)).Perm
      (c.pools.filter (accepts cfg select addArgs pod pc nic c)) :=
    (names_perm hsort hm).trans
      ((List.perm_ext_iff_of_nodup (AList.keys_nodup _) (hnodup.filter _)).2 hkeys)
  have hsame : ∀ k ∈ c.pools.filter (accepts cfg select addArgs pod pc nic c),
      c'.pToIPPool.lookup k = poolOf select c k := fun k hk => by rw [hlookup, if_pos hk]
  refine ⟨hversion, hnodup, hperm, hperm.nodup_iff.2 (hnodup.filter _), ?_, ?_, fun k => ?_,
    fun k hk => hsame k (hperm.mem_iff.1 hk)⟩
  · intro hnil
    dsimp only at hnil
    rw [hnil] at hperm
    exact hleft hperm.symm.eq_nil
  · refine (pairwise_names hsort hm).imp_of_mem fun {a b} ha hb h p q hp hq => ?_
    exact h p q ((hsame a (hperm.mem_iff.1 ha)).trans hp) ((hsame b (hperm.mem_iff.1 hb)).trans hq)
  · rw [hkeys]
    exact hperm.mem_iff.symm

/-! ### All candidates -/

def enabledCandidates (cfg : Config) (t : ToBeAllocated) : List PoolCandidate :=
  t.poolCandidates.filter fun c => cfg.enablesVersion c.ipVersion

theorem precheck_interface {t : ToBeAllocated}
    (ht : ∀ c ∈ enabledCandidates cfg t, Filed c ∧ LookedUp select c) :
    (∃ t₁, precheckPoolCandidates select (filterPoolMisspecified cfg t) = .ok t₁ ∧ t₁.nic = t.nic ∧
      List.Forall₂ (Prechecked select) (enabledCandidates cfg t) t₁.poolCandidates) ∨
    ∃ e, precheckPoolCandidates select (filterPoolMisspecified cfg t) = fail e ∧
      ∃ c ∈ enabledCandidates cfg t, ¬c.pools.Nodup := by
  simp only [precheckPoolCandidates_eq]
  rcases mapM_forall₂ (List.forall₂_same.2 fun c hc =>
      precheck_candidate (ht c hc).1 (ht c hc).2) with ⟨cs, hcs, hall⟩ | ⟨e, he, hdup⟩
  · refine .inl ⟨{ filterPoolMisspecified cfg t with poolCandidates := cs }, ?_, rfl, hall⟩
    exact bind_eq_ok.2 ⟨cs, hcs, rfl⟩
  · refine .inr ⟨e, ?_, hdup⟩
    dsimp only [filterPoolMisspecified, enabledCandidates] at he ⊢
    rw [he]
    rfl

theorem filter_interface (addArgs : IpamAddArgs) (pod : Pod) (pc : PodTopController)
    {t t₁ : ToBeAllocated} (hanswers : select.Answers)
    (ht : ∀ c ∈ enabledCandidates cfg t, LookedUp select c) (hnic : t₁.nic = t.nic)
    (hchecked : List.Forall₂ (Prechecked select) (enabledCandidates cfg t) t₁.poolCandidates) :
    (∃ t₂, filterPoolCandidates cfg select t₁ pod pc addArgs = .ok t₂ ∧ t₂.nic = t.nic ∧
      List.Forall₂ (Filtered cfg select addArgs pod pc t.nic) (enabledCandidates cfg t)
        t₂.poolCandidates) ∨
    ∃ e, filterPoolCandidates cfg select t₁ pod pc addArgs = fail e ∧
      ∃ c ∈ enabledCandidates cfg t, ∀ x ∈ c.pools,
        accepts cfg select addArgs pod pc t.nic c x = false := by
  have hturn := ((List.forall₂_and_left _ _).2 ⟨ht, hchecked⟩).imp fun c c₁ h =>
    filter_candidate cfg addArgs pod pc t.nic hanswers h.1 h.2
  unfold filterPoolCandidates
  rw [hnic]
  rcases mapM_forall₂ hturn with ⟨cs, hcs, hall⟩ | ⟨e, he, hrejected⟩
  · exact .inl ⟨{ t₁ with nic := t.nic, poolCandidates := cs }, bind_eq_ok.2 ⟨cs, hcs, rfl⟩, rfl, hall⟩
  · refine .inr ⟨e, ?_, hrejected⟩
    rw [he]
    rfl

/-- **What `genToBeAllocatedSet` makes of the candidates.**  If the pools of all candidates of an
enabled version are found, it fails because one of these names a pool twice or has all its pools
rejected by `selectByPod`; or it returns for each of them exactly the pools that are accepted, without
repetition, none before one that ranks before it, and a map of these pools. -/
theorem genToBeAllocatedSet_exact {preliminary : List ToBeAllocated} (hsort : Sorts sort)
    (hanswers : select.Answers) (hget : ∀ n p, select.getIPPoolByName n = .ok p → p.name = n)
    (hpreliminary : getPoolCandidates cfg env addArgs pod pc = .ok preliminary)
    (hlooked : ∀ t ∈ preliminary, ∀ c ∈ enabledCandidates cfg t, LookedUp select c) :
    (∃ e, genToBeAllocatedSetBy sort cfg env select order addArgs pod pc = fail e ∧
      ∃ t ∈ preliminary, ∃ c ∈ enabledCandidates cfg t, ¬c.pools.Nodup ∨
        ∀ x ∈ c.pools, accepts cfg select addArgs pod pc t.nic c x = false) ∨
    ∃ tt, genToBeAllocatedSetBy sort cfg env select order addArgs pod pc = .ok tt ∧
      List.Forall₂ (fun t t' => t'.nic = t.nic ∧
        List.Forall₂ (Selected cfg select addArgs pod pc t.nic) (enabledCandidates cfg t)
          t'.poolCandidates) preliminary tt := by
  have hfiled : ∀ t ∈ preliminary, ∀ c ∈ enabledCandidates cfg t, Filed c := fun t ht c hc =>
    filed_getPoolCandidates hpreliminary t ht c (List.mem_filter.1 hc).1
  unfold genToBeAllocatedSetBy
  rw [hpreliminary]
  dsimp only [bind, Except.bind]
  -- the pools are read
  have hprecheck : List.Forall₂ (fun t t₀ => (∃ t₁, precheckPoolCandidates select t₀ = .ok t₁ ∧
        t₁.nic = t.nic ∧
        List.Forall₂ (Prechecked select) (enabledCandidates cfg t) t₁.poolCandidates) ∨
      ∃ e, precheckPoolCandidates select t₀ = fail e ∧ ∃ c ∈ enabledCandidates cfg t, ¬c.pools.Nodup)
      preliminary (checkIPVersionEnable cfg preliminary) :=
    List.forall₂_map_right_iff.2 (List.forall₂_same.2 fun t ht =>
      precheck_interface fun c hc => ⟨hfiled t ht c hc, hlooked t ht c hc⟩)
  rcases mapM_forall₂ hprecheck with
    ⟨prechecked, hprechecked, hchecked⟩ | ⟨e, he, t, ht, c, hc, hdup⟩
  swap
  · refine .inl ⟨e, ?_, t, ht, c, hc, .inl hdup⟩
    rw [he]
    rfl
  rw [hprechecked]
  dsimp only
  -- those that are rejected are dropped
  have hfilter := ((List.forall₂_and_left _ _).2 ⟨hlooked, hchecked⟩).imp fun t t₁ h =>
    filter_interface addArgs pod pc hanswers h.1 h.2.1 h.2.2
  rcases mapM_forall₂ hfilter with ⟨filtered, hfiltered, hall⟩ | ⟨e, he, t, ht, c, hc, hrejected⟩
  swap
  · refine .inl ⟨e, ?_, t, ht, c, hc, .inr hrejected⟩
    rw [he]
    rfl
  rw [hfiltered]
  -- the others are sorted
  refine .inr ⟨sortPoolCandidatesBy sort order filtered, rfl, ?_⟩
  refine List.forall₂_map_right_iff.2 (((List.forall₂_and_left _ _).2 ⟨hfiled, hall⟩).imp ?_)
  rintro t t₂ ⟨hc, hnic, hcandidates⟩
  refine ⟨hnic, List.forall₂_map_right_iff.2
    (((List.forall₂_and_left _ _).2 ⟨hc, hcandidates⟩).imp ?_)⟩
  rintro c c₂ ⟨hc, hfiltered⟩
  exact selected_of_filtered hsort hc hget hfiltered

end

end IPAM

namespace Sample

open IPAM

theorem namesakes_answers : namesakes.Answers where
  nodeLabels _ := returns_ok _
  namespaceLabels _ := returns_ok _
  selects _ _ := returns_ok _
  parsePodNetworkAnnotation _ _ := returns_ok _
  pfAddrs _ _ := returns_ok _

theorem namesakes_lookedUp {c : PoolCandidate} (hc : c.pToIPPool = ∅) : LookedUp namesakes c where
  found _ _ := .inr ⟨_, rfl⟩
  disable x p hp := by
    rw [poolOf, hc] at hp
    obtain rfl := Option.some.inj hp
    rfl

/-- Both pools of the Pod are accepted, and come out. -/
theorem two_selected : ∃ preliminary tt,
    getPoolCandidates agent {} addArgs namesTwo topController = .ok preliminary ∧
    genToBeAllocatedSetBy sortSlice agent {} namesakes (.stored _ _) addArgs namesTwo topController =
      .ok tt ∧
    List.Forall₂ (fun t t' => t'.nic = t.nic ∧
      List.Forall₂ (Selected agent namesakes addArgs namesTwo topController t.nic)
        (enabledCandidates agent t) t'.poolCandidates) preliminary tt := by
  obtain ⟨tt, htt⟩ : ∃ tt, genToBeAllocatedSetBy sortSlice agent {} namesakes (.stored _ _) addArgs
      namesTwo topController = .ok tt := ⟨_, rfl⟩
  obtain ⟨t₀, ht₀, hc₀⟩ : ∃ t₀,
      getPoolCandidates agent {} addArgs namesTwo topController = .ok [t₀] ∧
      ∀ c ∈ enabledCandidates agent t₀, c.pToIPPool = ∅ :=
    ⟨_, rfl, List.forall_mem_singleton.2 rfl⟩
  have hlooked : ∀ t ∈ [t₀], ∀ c ∈ enabledCandidates agent t, LookedUp namesakes c := by
    intro t ht c hc
    obtain rfl := List.mem_singleton.1 ht
    exact namesakes_lookedUp (hc₀ c hc)
  rcases genToBeAllocatedSet_exact sorts_sortSlice namesakes_answers namesakes_named ht₀ hlooked with
    ⟨e, he, -⟩ | ⟨tt', htt', hall⟩
  · cases htt.symm.trans he
  · exact ⟨_, tt', ht₀, htt', hall⟩

def namesOneTwice : Pod := annotated { ipv4Pools := ["first", "first"] }

/-- The pool is found and accepted, but it is named twice. -/
theorem named_twice_fails : ∃ e t c,
    getPoolCandidates agent {} addArgs namesOneTwice topController = .ok [t] ∧
    enabledCandidates agent t = [c] ∧ LookedUp namesakes c ∧
    genToBeAllocatedSetBy sortSlice agent {} namesakes (.stored _ _) addArgs namesOneTwice
      topController = fail e ∧
    ∀ x ∈ c.pools, accepts agent namesakes addArgs namesOneTwice topController t.nic c x = true :=
  ⟨_, _, _, rfl, rfl, namesakes_lookedUp rfl, rfl, by decide⟩

end Sample

end Spiderpool
