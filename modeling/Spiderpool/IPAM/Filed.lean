/-
# The pools of a candidate

A candidate is a list of names and a map from names to pools. `getPoolCandidates` fills in the map
where it has the pools at hand, and leaves it empty where it has names only;
`precheckPoolCandidates` reads the pools that are missing, and `filterPoolCandidates` takes out those
that do not fit. All along the pools are filed under their own names (`Filed`), no name is listed
twice, and what is left in the map are the names that have passed.
-/

import Spiderpool.IPAM.PoolSelection

namespace Spiderpool
namespace IPAM

/-- The pools that a candidate has been given are filed under their names, which it lists. -/
structure Filed (c : PoolCandidate) : Prop where
  named : ∀ k p, c.pToIPPool.lookup k = some p → p.name = k
  listed : ∀ k ∈ c.pToIPPool, k ∈ c.pools

section

variable {c : PoolCandidate} {parse : ParseWildcard} {nic : String} {cleanGateway : Bool}
  {ipv4Pools ipv6Pools : List String} {t : ToBeAllocated}

theorem filed_of_empty (h : c.pToIPPool = ∅) : Filed c := by
  constructor
  · intro k p hk
    rw [h] at hk
    cases hk
  · intro k hk
    rw [h] at hk
    exact absurd hk (AList.notMem_empty k)

theorem filed_poolsCandidate {v : IPVersion} {pools : List IPPool}
    (hc : c ∈ poolsCandidate v pools) : Filed c := by
  unfold poolsCandidate at hc
  split_ifs at hc
  · cases hc
  obtain rfl := List.mem_singleton.1 hc
  have hfold : ∀ (ps : List IPPool) (m : GoMap String IPPool) (names : List String),
      (∀ k p, m.lookup k = some p → p.name = k ∧ k ∈ names) →
      ∀ k p, (ps.foldl (fun m p => m.insert p.name p) m).lookup k = some p →
        p.name = k ∧ k ∈ names ++ ps.map (·.name) := by
    intro ps
    induction ps with
    | nil => simp
    | cons q ps ih =>
      intro m names hm k p hk
      have hins : ∀ k p, (m.insert q.name q).lookup k = some p → p.name = k ∧
          k ∈ names ++ [q.name] := by
        intro k p hk
        rw [GoMap.lookup_insert_eq] at hk
        split_ifs at hk with heq
        · obtain rfl := Option.some.inj hk
          exact ⟨heq.symm, by simp [heq]⟩
        · exact ⟨(hm k p hk).1, List.mem_append_left _ (hm k p hk).2⟩
      simpa using ih _ _ hins k p hk
  have hall := hfold pools ∅ [] (by simp)
  constructor
  · exact fun k p hk => (hall k p hk).1
  · intro k hk
    obtain ⟨p, hp⟩ := Option.isSome_iff_exists.1 (AList.lookup_isSome.2 hk)
    simpa using (hall k p hp).2

theorem filed_toBeAllocated {item : AnnoIPPoolItem}
    (hc : c ∈ (AnnoIPPoolItem.toBeAllocated item).poolCandidates) : Filed c := by
  refine filed_of_empty ?_
  rcases List.mem_append.1 hc with hc | hc
  · split_ifs at hc
    · rw [List.mem_singleton.1 hc]
    · cases hc
  · split_ifs at hc
    · rw [List.mem_singleton.1 hc]
    · cases hc

theorem filed_poolsByName (h : poolsByName parse nic cleanGateway ipv4Pools ipv6Pools = .ok t) :
    ∀ c ∈ t.poolCandidates, Filed c := by
  obtain ⟨item, -, h⟩ := bind_eq_ok.1 h
  obtain rfl := Except.ok.inj h
  exact fun c hc => filed_toBeAllocated hc

theorem filed_getPoolFromNetConf
    (h : getPoolFromNetConf parse nic ipv4Pools ipv6Pools cleanGateway = .ok (some t)) :
    ∀ c ∈ t.poolCandidates, Filed c := by
  unfold getPoolFromNetConf at h
  split_ifs at h
  · cases h
  cases hpools : poolsByName parse nic cleanGateway ipv4Pools ipv6Pools with
  | error e =>
    rw [hpools] at h
    cases h
  | ok t' =>
    rw [hpools] at h
    obtain rfl := Option.some.inj (Except.ok.inj h)
    exact filed_poolsByName hpools

end

section

variable {cfg : Config} {env : RuleEnv} {select : SelectEnv} {order : RangeOrder String IPPool}
  {addArgs : IpamAddArgs} {pod : Pod} {pc : PodTopController}

theorem filed_subnetPool {nic : String} {reclaim : Bool} {n : ℤ} {v : IPVersion} {subnet : String}
    {c : PoolCandidate} (h : subnetPool env pc nic reclaim n v subnet = .ok c) : Filed c := by
  obtain ⟨pool, -, h⟩ := bind_eq_ok.1 h
  obtain rfl := Except.ok.inj h
  constructor
  · intro k p hk
    rw [GoMap.lookup_insert_eq] at hk
    split_ifs at hk with heq
    · rw [← Option.some.inj hk, heq]
    · cases hk
  · intro k hk
    rcases (AList.mem_insert _).1 hk with rfl | hk
    · exact List.mem_singleton_self _
    · exact absurd hk (AList.notMem_empty k)

theorem filed_getPoolFromSubnet {t : ToBeAllocated}
    (h : getPoolFromSubnet cfg env addArgs pod pc = .ok (some t)) :
    ∀ c ∈ t.poolCandidates, Filed c := by
  unfold getPoolFromSubnet at h
  split_ifs at h
  · obtain ⟨config, -, h⟩ := bind_eq_ok.1 (mapErr_eq_ok.1 h)
    split_ifs at h
    · cases h
    obtain ⟨config, -, h⟩ := bind_eq_ok.1 h
    obtain ⟨-, h⟩ := seq_eq_ok.1 h
    obtain ⟨item, -, h⟩ := bind_eq_ok.1 h
    obtain ⟨n, -, h⟩ := bind_eq_ok.1 h
    obtain ⟨cs, hcs, h⟩ := bind_eq_ok.1 h
    obtain rfl := Option.some.inj (Except.ok.inj h)
    intro c hc
    have hpool : ∀ (b : Bool) (v : IPVersion) (subnets : List String),
        (.ok c : Result Err PoolCandidate) ∈ (if b then
          (subnets.take 1).map (subnetPool env pc addArgs.ifName config.reclaimIPPool n v) else []) →
        Filed c := by
      intro b v subnets hc
      split_ifs at hc
      · obtain ⟨subnet, -, hsubnet⟩ := List.mem_map.1 hc
        exact filed_subnetPool hsubnet
      · cases hc
    have hmem := mem_of_joinResults (mapErr_eq_ok.1 hcs) hc
    exact (List.mem_append.1 hmem).elim (hpool _ _ _) (hpool _ _ _)
  · exact absurd h fail_ne_ok
  · cases h
  · cases h

theorem filed_getPoolCandidates {tt : List ToBeAllocated}
    (h : getPoolCandidates cfg env addArgs pod pc = .ok tt) :
    ∀ t ∈ tt, ∀ c ∈ t.poolCandidates, Filed c := by
  obtain ⟨fromSubnet, hsubnet, h⟩ := bind_eq_ok.1 h
  cases fromSubnet with
  | some t =>
    obtain rfl := Except.ok.inj h
    rintro t ht
    obtain rfl := List.mem_singleton.1 ht
    exact filed_getPoolFromSubnet hsubnet
  | none =>
    dsimp only at h
    split at h
    · next anno _ =>
      cases anno with
      | malformed e => exact absurd h fail_ne_ok
      | doc items =>
        obtain ⟨items, -, h⟩ := bind_eq_ok.1 h
        obtain ⟨items, -, h⟩ := bind_eq_ok.1 h
        obtain rfl := Except.ok.inj h
        intro t ht c hc
        obtain ⟨item, -, rfl⟩ := List.mem_map.1 ht
        exact filed_toBeAllocated hc
    · next anno _ _ =>
      obtain ⟨t, ht, h⟩ := bind_eq_ok.1 h
      obtain rfl := Except.ok.inj h
      rintro t' ht'
      obtain rfl := List.mem_singleton.1 ht'
      cases anno with
      | malformed e => exact absurd ht fail_ne_ok
      | doc value => exact filed_poolsByName ht
    · obtain ⟨t, ht, h⟩ := bind_eq_ok.1 h
      obtain rfl := Except.ok.inj h
      rintro t' ht'
      obtain rfl := List.mem_singleton.1 ht'
      obtain ⟨fromNS, hns, ht⟩ := bind_eq_ok.1 ht
      cases fromNS with
      | some t'' =>
        obtain rfl := Except.ok.inj ht
        obtain ⟨anno, -, hns⟩ := bind_eq_ok.1 hns
        obtain ⟨names, -, hns⟩ := bind_eq_ok.1 hns
        exact filed_getPoolFromNetConf hns
      | none =>
        obtain ⟨fromConf, hconf, ht⟩ := bind_eq_ok.1 ht
        cases fromConf with
        | some t'' =>
          obtain rfl := Except.ok.inj ht
          exact filed_getPoolFromNetConf hconf
        | none =>
          obtain ⟨pools, -, ht⟩ := bind_eq_ok.1 ht
          obtain ⟨-, ht⟩ := seq_eq_ok.1 ht
          obtain ⟨versioned, -, ht⟩ := bind_eq_ok.1 ht
          obtain rfl := Except.ok.inj ht
          intro c hc
          exact (List.mem_append.1 hc).elim filed_poolsCandidate filed_poolsCandidate

/-! ### The steps of `genToBeAllocatedSet` -/

end

end IPAM
end Spiderpool
