/-
# Wildcards in the names of pools

`ParseWildcardPoolNameList` of `pkg/ippoolmanager/ippool_manager.go` replaces each pattern of a list
by the names of the pools that it matches, and leaves the other entries as they are. Each entry is
expanded on its own, so that a pool comes out as often as there are entries that stand for it; and
`precheckPoolCandidates` rejects a list with a pool that is there twice.

`filepath.Match` and the listing of the pools are parameters.
-/

import Spiderpool.IPAM.Selected

namespace Spiderpool
namespace IPAM

def hasWildcardInStr (str : String) : Bool :=
  '?' ∈ str.toList || '*' ∈ str.toList || ('[' ∈ str.toList && ']' ∈ str.toList)

def hasWildcardInSlice (arr : List String) : Bool := arr.any hasWildcardInStr

structure WildcardEnv where
  /-- `ListIPPools`, by the field `spec.ipVersion`. -/
  listIPPools : String → Result Err (List IPPool)
  /-- `filepath.Match`. -/
  filepathMatch : String → String → Result Err Bool

def ipVersionStr (ipVersion : IPVersion) : String :=
  if ipVersion = Constant.ipv4 then "4" else "6"

def matchErr (ipVersion : IPVersion) (pattern name : String) (e : Err) : Err :=
  .wrap ("failed to match wildcard: IPv" ++ toString ipVersion ++ " PoolName pattern '" ++ pattern ++
    "', character '" ++ name ++ "', error: ") e ""

def matchPools (env : WildcardEnv) (ipVersion : IPVersion) (tmpStr : String) :
    List IPPool → Result Err (List String)
  | [] => .ok []
  | tmpPool :: items => do
    let isMatch ← mapErr (matchErr ipVersion tmpStr tmpPool.name)
      (env.filepathMatch tmpStr tmpPool.name)
    let names ← matchPools env ipVersion tmpStr items
    return if isMatch then tmpPool.name :: names else names

def parseWildcardPoolNameList (env : WildcardEnv) : ParseWildcard := fun poolNamesArr ipVersion =>
  if hasWildcardInSlice poolNamesArr then do
    let poolList ← env.listIPPools (ipVersionStr ipVersion)
    let newPoolNamesArr ← poolNamesArr.mapM fun tmpStr =>
      if hasWildcardInStr tmpStr then matchPools env ipVersion tmpStr poolList
      else .ok [tmpStr]
    return (newPoolNamesArr.flatten, true)
  else .ok (poolNamesArr, false)

/-- An entry stands for a pool: it is a pattern that matches the pool, or its name. -/
def StandsFor (env : WildcardEnv) (pools : List IPPool) (entry name : String) : Prop :=
  if hasWildcardInStr entry then
    name ∈ pools.map (·.name) ∧ env.filepathMatch entry name = .ok true
  else name = entry

def Apart (env : WildcardEnv) (ipVersion : IPVersion) (entries : List String) : Prop :=
  ∀ pools, env.listIPPools (ipVersionStr ipVersion) = .ok pools →
    entries.Pairwise fun a b => ∀ name, ¬(StandsFor env pools a name ∧ StandsFor env pools b name)

def expansion (env : WildcardEnv) (pools : List IPPool) (entry : String) : List String :=
  if hasWildcardInStr entry then
    (pools.map (·.name)).filter fun name => env.filepathMatch entry name = .ok true
  else [entry]

section

variable {env : WildcardEnv} {ipVersion : IPVersion} {pools : List IPPool} {entry : String}

theorem mem_expansion {name : String} :
    name ∈ expansion env pools entry ↔ StandsFor env pools entry name := by
  unfold expansion StandsFor
  split_ifs
  · rw [List.mem_filter, decide_eq_true_eq]
  · exact List.mem_singleton

theorem nodup_expansion (hpools : (pools.map (·.name)).Nodup) :
    (expansion env pools entry).Nodup := by
  unfold expansion
  split_ifs
  · exact hpools.filter _
  · exact List.nodup_singleton entry

theorem matchPools_ok {names : List String} (h : matchPools env ipVersion entry pools = .ok names) :
    names = (pools.map (·.name)).filter fun name => env.filepathMatch entry name = .ok true := by
  induction pools generalizing names with
  | nil => exact (Except.ok.inj h).symm
  | cons pool pools ih =>
    obtain ⟨isMatch, hmatch, h⟩ := bind_eq_ok.1 h
    obtain ⟨names', hnames, h⟩ := bind_eq_ok.1 h
    obtain rfl := Except.ok.inj h
    rw [mapErr_eq_ok] at hmatch
    rw [List.map_cons, List.filter_cons, ih hnames, hmatch]
    cases isMatch <;> rfl

theorem expand_ok {entries : List String} {lists : List (List String)}
    (h : (entries.mapM fun tmpStr =>
      if hasWildcardInStr tmpStr then matchPools env ipVersion tmpStr pools
      else .ok [tmpStr]) = .ok lists) :
    lists = entries.map (expansion env pools) := by
  have hall : List.Forall₂ (fun entry names => names = expansion env pools entry) entries lists := by
    refine (mapM_eq_ok.1 h).imp fun entry names hnames => ?_
    unfold expansion
    split_ifs at hnames ⊢
    · exact matchPools_ok hnames
    · exact (Except.ok.inj hnames).symm
  exact (List.forall₂_eq_eq_eq ▸ List.forall₂_map_left_iff.2 (hall.imp fun _ _ => Eq.symm)).symm

theorem nodup_parse_iff {entries names : List String} {hasWildcard : Bool} (hentries : entries.Nodup)
    (hpools : ∀ pools, env.listIPPools (ipVersionStr ipVersion) = .ok pools →
      (pools.map (·.name)).Nodup)
    (h : parseWildcardPoolNameList env entries ipVersion = .ok (names, hasWildcard)) :
    names.Nodup ↔ Apart env ipVersion entries := by
  unfold parseWildcardPoolNameList at h
  split_ifs at h with hwildcard
  · obtain ⟨pools, hlist, h⟩ := bind_eq_ok.1 h
    obtain ⟨lists, hlists, h⟩ := bind_eq_ok.1 h
    obtain ⟨rfl, -⟩ := Prod.mk.inj (Except.ok.inj h)
    rw [expand_ok hlists, ← List.flatMap_def, List.nodup_flatMap]
    have hnodup : ∀ entry ∈ entries, (expansion env pools entry).Nodup :=
      fun entry _ => nodup_expansion (hpools pools hlist)
    have hdisjoint : ∀ a b, (expansion env pools a).Disjoint (expansion env pools b) ↔
        ∀ name, ¬(StandsFor env pools a name ∧ StandsFor env pools b name) := by
      intro a b
      refine forall_congr' fun name => ?_
      rw [mem_expansion, mem_expansion, not_and]
    constructor
    · rintro ⟨-, hpairwise⟩ pools' hlist'
      obtain rfl := Except.ok.inj (hlist.symm.trans hlist')
      exact hpairwise.imp fun h => (hdisjoint _ _).1 h
    · exact fun hapart => ⟨hnodup, (hapart pools hlist).imp fun h => (hdisjoint _ _).2 h⟩
  · -- without a pattern, the entries are names
    obtain ⟨rfl, -⟩ := Prod.mk.inj (Except.ok.inj h)
    refine iff_of_true hentries fun pools _ => hentries.imp_of_mem fun {a b} ha hb hne name => ?_
    have hplain : ∀ entry ∈ entries, hasWildcardInStr entry = false := by
      simpa [hasWildcardInSlice] using hwildcard
    rintro ⟨hname, hname'⟩
    rw [StandsFor, hplain a ha] at hname
    rw [StandsFor, hplain b hb] at hname'
    exact hne (hname.symm.trans hname')

end

/-! ### `precheckPoolCandidates` -/

theorem precheckLoop_ne_duplicate {select : SelectEnv} {nic pool : String} {marks pools : List String}
    {m : GoMap String IPPool} (hpools : pools.Nodup) (hmarks : ∀ x ∈ pools, x ∉ marks) :
    precheckLoop select nic marks pools m ≠ fail (duplicateErr pool nic) := by
  induction pools generalizing marks m with
  | nil => rintro ⟨⟩
  | cons x pools ih =>
    rw [List.nodup_cons] at hpools
    rw [List.forall_mem_cons] at hmarks
    have hrest : ∀ y ∈ pools, y ∉ x :: marks := by
      intro y hy hin
      rcases List.mem_cons.1 hin with rfl | hin
      · exact hpools.1 hy
      · exact hmarks.2 y hy hin
    rw [precheckLoop, failIf, if_neg hmarks.1]
    cases hlookup : m.lookup x with
    | some p => exact ih hpools.2 hrest
    | none =>
      rcases hget : select.getIPPoolByName x with (e | - | -) | p
      · -- the error for a pool that is not found reads otherwise
        intro heq
        have htext := congrArg Err.text (Fault.err.inj (Except.error.inj heq))
        have hhead := congrArg (fun s : String => s.toList.head?) htext
        simp [duplicateErr, Err.wrap, Err.of, Sentinel.text] at hhead
      · rintro ⟨⟩
      · rintro ⟨⟩
      · exact ih hpools.2 hrest

def everyPool : SelectEnv where
  getIPPoolByName n := .ok { name := n, spec := { subnet := "" } }
  parsePodNetworkAnnotation _ _ := .ok []

theorem precheck_ne_duplicate_iff {t : ToBeAllocated} :
    (∀ select pool, precheckPoolCandidates select t ≠ fail (duplicateErr pool t.nic)) ↔
      ∀ c ∈ t.poolCandidates, c.pools.Nodup := by
  constructor
  · intro hnever
    have hturn : List.Forall₂ (fun c c₀ => (∃ c₁, precheckTurn everyPool t.nic c₀ = .ok c₁ ∧
        c.pools.Nodup) ∨ ∃ e, precheckTurn everyPool t.nic c₀ = fail e ∧
          ∃ pool, e = duplicateErr pool t.nic) t.poolCandidates t.poolCandidates := by
      refine List.forall₂_same.2 fun c _ => ?_
      have hfound : ∀ x ∈ c.pools, (c.pToIPPool.lookup x).isSome ∨
          ∃ p, everyPool.getIPPoolByName x = .ok p := fun x _ => .inr ⟨_, rfl⟩
      rcases precheckLoop_spec hfound with ⟨hnodup, -, m, hm, -⟩ | ⟨-, pool, hpool⟩
      · exact .inl ⟨{ c with pToIPPool := m }, bind_eq_ok.2 ⟨m, hm, rfl⟩, hnodup⟩
      · exact .inr ⟨_, by rw [precheckTurn, hpool]; rfl, pool, rfl⟩
    rcases mapM_forall₂ hturn with ⟨cs, -, hall⟩ | ⟨e, he, -, -, pool, rfl⟩
    · have hboth := hall.imp fun c c₁ h => (⟨h, trivial⟩ : c.pools.Nodup ∧ True)
      exact ((List.forall₂_and_left _ _).1 hboth).1
    · refine absurd ?_ (hnever everyPool pool)
      rw [precheckPoolCandidates_eq, he]
      rfl
  · intro hnodup select pool h
    rw [precheckPoolCandidates_eq] at h
    rcases hcs : t.poolCandidates.mapM (precheckTurn select t.nic) with fault | cs
    · rw [hcs] at h
      obtain rfl := Except.error.inj h
      obtain ⟨c, hc, hfail⟩ := exists_of_mapM_fail hcs
      rw [precheckTurn] at hfail
      rcases hloop : precheckLoop select t.nic [] c.pools c.pToIPPool with fault | m
      · rw [hloop] at hfail
        obtain rfl := Except.error.inj hfail
        exact precheckLoop_ne_duplicate (hnodup c hc) (by simp) hloop
      · rw [hloop] at hfail
        cases hfail
    · rw [hcs] at h
      cases h

section

variable {env : WildcardEnv} {nic : String} {cleanGateway : Bool} {value : AnnoPodIPPoolValue}
  {t : ToBeAllocated}

theorem nodup_expandPools_iff {ipVersion : IPVersion} {entries names : List String}
    (hentries : entries.Nodup)
    (hpools : ∀ pools, env.listIPPools (ipVersionStr ipVersion) = .ok pools →
      (pools.map (·.name)).Nodup)
    (h : expandPools (parseWildcardPoolNameList env) ipVersion entries = .ok names) :
    names.Nodup ↔ Apart env ipVersion entries := by
  unfold expandPools at h
  split_ifs at h with hnil
  · obtain rfl := Except.ok.inj h
    subst hnil
    exact iff_of_true .nil fun _ _ => .nil
  · obtain ⟨⟨newPoolNames, hasWildcard⟩, hparse, h⟩ := bind_eq_ok.1 h
    obtain rfl := Except.ok.inj h
    rw [← nodup_parse_iff hentries hpools hparse]
    cases hasWildcard with
    | true => rfl
    | false =>
      -- without a pattern, the entries come back
      unfold parseWildcardPoolNameList at hparse
      split_ifs at hparse
      · obtain ⟨_, -, hparse⟩ := bind_eq_ok.1 hparse
        obtain ⟨_, -, hparse⟩ := bind_eq_ok.1 hparse
        cases hparse
      · cases hparse
        rfl

/-- **Distinct entries, distinct pools.**  The list that `ParseWildcardPoolNameList` makes of distinct
entries has no pool twice, and `precheckPoolCandidates` never rejects an annotation of distinct
entries as one that specifies a pool twice, if and only if no two of the entries stand for the same
pool. -/
theorem wildcards_distinct_iff (env : WildcardEnv)
    (hpools : ∀ version pools, env.listIPPools version = .ok pools →
      (pools.map (·.name)).Nodup) :
    (∀ ipVersion entries names hasWildcard, entries.Nodup →
      parseWildcardPoolNameList env entries ipVersion = .ok (names, hasWildcard) →
      (names.Nodup ↔ Apart env ipVersion entries)) ∧
    ∀ value nic cleanGateway t, value.ipv4Pools.Nodup → value.ipv6Pools.Nodup →
      getPoolFromPodAnnoPool (parseWildcardPoolNameList env) (.doc value) nic cleanGateway = .ok t →
      ((∀ select pool, precheckPoolCandidates select t ≠ fail (duplicateErr pool t.nic)) ↔
        Apart env Constant.ipv4 value.ipv4Pools ∧ Apart env Constant.ipv6 value.ipv6Pools) := by
  refine ⟨fun ipVersion entries names hasWildcard hentries h =>
    nodup_parse_iff hentries (hpools _) h, ?_⟩
  intro value nic cleanGateway t hipv4 hipv6 h
  obtain ⟨item, hitem, h⟩ := bind_eq_ok.1 h
  obtain ⟨ipv4Pools, h4, hitem⟩ := bind_eq_ok.1 hitem
  obtain ⟨ipv6Pools, h6, hitem⟩ := bind_eq_ok.1 hitem
  obtain rfl := Except.ok.inj hitem
  obtain rfl := Except.ok.inj h
  rw [precheck_ne_duplicate_iff, ← nodup_expandPools_iff hipv4 (hpools _) h4,
    ← nodup_expandPools_iff hipv6 (hpools _) h6]
  -- a version without a pool has no candidate
  dsimp only [AnnoIPPoolItem.toBeAllocated]
  constructor
  · intro hall
    constructor
    · by_cases hnil : ipv4Pools = []
      · exact hnil ▸ .nil
      · exact hall _ (List.mem_append_left _ (by rw [if_pos hnil]; exact List.mem_singleton.2 rfl))
    · by_cases hnil : ipv6Pools = []
      · exact hnil ▸ .nil
      · exact hall _ (List.mem_append_right _ (by rw [if_pos hnil]; exact List.mem_singleton.2 rfl))
  · rintro ⟨hnodup4, hnodup6⟩ c hc
    rcases List.mem_append.1 hc with hc | hc
    · split_ifs at hc
      · rw [List.mem_singleton.1 hc]
        exact hnodup4
      · cases hc
    · split_ifs at hc
      · rw [List.mem_singleton.1 hc]
        exact hnodup6
      · cases hc

end

end IPAM

namespace Sample

open IPAM

def starMatch : List Char → List Char → Bool
  | [], name => name.isEmpty
  | c :: pattern, name =>
    if c = '*' then name.tails.any (starMatch pattern)
    else
      match name with
      | [] => false
      | d :: name => c = d && starMatch pattern name

def backups : WildcardEnv where
  listIPPools _ := .ok [{ openPool with name := "demo" }, { openPool with name := "backup-1" },
    { openPool with name := "backup-2" }]
  filepathMatch pattern name := .ok (starMatch pattern.toList name.toList)

theorem backups_nodup (version : String) (pools : List IPPool)
    (h : backups.listIPPools version = .ok pools) : (pools.map (·.name)).Nodup := by
  obtain rfl := Except.ok.inj h
  decide

/-- A name and a pattern that does not match it. -/
theorem demo_or_backups : ∃ names,
    parseWildcardPoolNameList backups ["demo", "backup-*"] Constant.ipv4 = .ok (names, true) ∧
    names.length = 3 ∧ names.Nodup := by
  refine ⟨_, rfl, rfl, ((wildcards_distinct_iff backups backups_nodup).1 Constant.ipv4
    ["demo", "backup-*"] _ true (by decide) rfl).2 fun pools hpools => ?_⟩
  rw [List.pairwise_pair]
  rintro name ⟨hname, hmatch⟩
  obtain rfl : name = "demo" := hname
  exact absurd (show _ ∧ _ from hmatch).2 (by decide)

def backupFirst : AnnoPodIPPoolValue := { ipv4Pools := ["backup-1", "backup-*"] }

/-- The entries are distinct, but the first is the name of a pool that the second matches. -/
theorem backup_twice : ∃ names t,
    backupFirst.ipv4Pools.Nodup ∧
    parseWildcardPoolNameList backups backupFirst.ipv4Pools Constant.ipv4 = .ok (names, true) ∧
    names = ["backup-1", "backup-1", "backup-2"] ∧ ¬names.Nodup ∧
    getPoolFromPodAnnoPool (parseWildcardPoolNameList backups) (.doc backupFirst) "eth0" false =
      .ok t ∧
    precheckPoolCandidates namesakes t = fail (duplicateErr "backup-1" "eth0") :=
  ⟨_, _, by decide, rfl, rfl, by decide, rfl, rfl⟩

end Sample

end Spiderpool
