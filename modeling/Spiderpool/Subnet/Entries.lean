/-
# What a sync makes of the entries

The two loops of `syncControlledIPPoolIPs` collect entries: the first keeps some of those of
auto-created pools (`keepEntry`), the second makes one for each of the other pools
(`newEntry`). So which entries there are afterwards depends on what is found of the applications and
of the pools, and not on the orders in which the loops go through them (`Syncs.lookup_new`).
-/

import Spiderpool.Base.Collect
import Spiderpool.Subnet.Informer

namespace Spiderpool

def keptEntry (env : InformerEnv) (ipVersion : Option IPVersion)
    (e : Σ _ : String, PoolIPPreAllocation) : Result Err (Option (ℕ × PoolIPPreAllocation)) :=
  (keepEntry env ipVersion e.1 e.2).map fun kept => kept.map fun n => (n, e.2)

/-- The entry of a pool that is not auto-created, with the number of its addresses in the subnet. -/
def newEntry (env : InformerEnv) (version : IPVersion) (subnetTotalIPs : List Addr) (ipPool : IPPool) :
    Result Err (Option (ℕ × PoolIPPreAllocation)) :=
  if isAutoCreatedIPPool ipPool then .ok none
  else do
    match ← dropErr (assembleTotalIPs version ipPool.spec.ips ipPool.spec.excludeIPs) with
    | none | some [] => return none
    | some poolTotalIPs =>
      let validIPs := env.marks (ipsIntersectionSet subnetTotalIPs poolTotalIPs)
      let poolVersion ← deref ipPool.spec.ipVersion
      let ranges ← dropErr (convertIPsToIPRanges poolVersion validIPs)
      return some (validIPs.length, ⟨ranges.getD [], none⟩)

variable {env env' : InformerEnv} {subnet : SpiderSubnet}

def PoolIPPreAllocation.size (v : IPVersion) (e : PoolIPPreAllocation) : ℕ :=
  ((parseIPRanges v e.ips).toOption.getD []).length

/-- The entry is for an application that exists, or whose pool does, and its ranges can be read. -/
def ForApplication (env : InformerEnv) (v : IPVersion) (name : String) (e : PoolIPPreAllocation) :
    Prop :=
  ∃ app, e.application.bind parseApplicationNamespacedName = some app ∧
    (env.isAppExist app = .ok true ∨ env.isNotFound name = false) ∧
    ∃ l, parseIPRanges v e.ips = .ok l

/-- The pool is not auto-created, and its ranges can be read and have an address. -/
def HasAddresses (v : IPVersion) (p : IPPool) : Prop :=
  isAutoCreatedIPPool p = false ∧
    ∃ l, assembleTotalIPs v p.spec.ips p.spec.excludeIPs = .ok l ∧ l ≠ []

theorem dropErr_eq_ok {ε ε' α : Type} {r : Result ε α} {o : Option α}
    (h : (dropErr r : Result ε' _) = .ok o) : ∀ a, o = some a ↔ r = .ok a := by
  intro a
  rcases r with (e | - | -) | b
  · obtain rfl := Except.ok.inj h
    simp
  · cases h
  · cases h
  · obtain rfl := Except.ok.inj h
    simp

theorem keepEntry_spec {env : InformerEnv} {v : IPVersion} {name : String}
    {e : PoolIPPreAllocation} {kept : Option ℕ}
    (h : keepEntry env (some v) name e = .ok kept) :
    ∀ n, kept = some n ↔ ForApplication env v name e ∧ n = e.size v := by
  intro n
  unfold keepEntry at h
  unfold ForApplication
  cases happ : e.application.bind parseApplicationNamespacedName with
  | none =>
    rw [happ] at h
    obtain rfl := Except.ok.inj h
    simp
  | some app =>
    rw [happ] at h
    obtain ⟨exist, hexist, h⟩ := bind_eq_ok.1 h
    replace hexist := mapErr_eq_ok.1 hexist
    -- whether a controller is watched makes no difference to what is kept
    have htail : ((if !exist && env.isNotFound name then pure none else do
        let version ← deref (some v)
        let autoIPPoolIPs ← dropErr (parseIPRanges version e.ips)
        return autoIPPoolIPs.map List.length) : Result Err (Option ℕ)) = .ok kept := by
      dsimp only at h
      split at h
      · exact (seq_eq_ok.1 h).2
      · exact h
    have hstays : (env.isAppExist app = .ok true ∨ env.isNotFound name = false) ↔
        ¬(!exist && env.isNotFound name) = true := by
      rw [hexist]
      cases exist <;> simp
    simp only [Option.some.injEq, exists_eq_left', hstays]
    split_ifs at htail with hgone
    · obtain rfl := Except.ok.inj htail
      simp [hgone]
    · obtain ⟨version, hversion, htail⟩ := bind_eq_ok.1 htail
      obtain rfl := Except.ok.inj hversion
      obtain ⟨listed, hlisted, htail⟩ := bind_eq_ok.1 htail
      obtain rfl := Except.ok.inj htail
      have hread := dropErr_eq_ok hlisted
      constructor
      · intro hn
        obtain ⟨l, hl, rfl⟩ := Option.map_eq_some_iff.1 hn
        have hparse := (hread l).1 hl
        exact ⟨⟨hgone, l, hparse⟩, by rw [PoolIPPreAllocation.size, hparse]; rfl⟩
      · rintro ⟨⟨-, l, hparse⟩, rfl⟩
        rw [(hread l).2 hparse, PoolIPPreAllocation.size, hparse]
        rfl

theorem newEntry_spec {env : InformerEnv} {v : IPVersion} {total : List Addr} {p : IPPool}
    {made : Option (ℕ × PoolIPPreAllocation)} (h : newEntry env v total p = .ok made) :
    (made.isSome ↔ HasAddresses v p) ∧ ∀ n e, made = some (n, e) → ∃ l poolVersion ranges,
      assembleTotalIPs v p.spec.ips p.spec.excludeIPs = .ok l ∧ p.spec.ipVersion = some poolVersion ∧
      (dropErr (convertIPsToIPRanges poolVersion (env.marks (ipsIntersectionSet total l))) :
        Result Err _) = .ok ranges ∧
      n = (env.marks (ipsIntersectionSet total l)).length ∧ e = ⟨ranges.getD [], none⟩ := by
  unfold newEntry at h
  unfold HasAddresses
  split_ifs at h with hauto
  · obtain rfl := Except.ok.inj h
    simp [hauto]
  · obtain ⟨o, ho, h⟩ := bind_eq_ok.1 h
    have hread := dropErr_eq_ok ho
    rw [Bool.not_eq_true] at hauto
    rcases o with _ | _ | ⟨a, l⟩
    · obtain rfl := Except.ok.inj h
      have hnone : ∀ l, assembleTotalIPs v p.spec.ips p.spec.excludeIPs ≠ .ok l :=
        fun l hl => nomatch (hread l).2 hl
      simp [hnone]
    · obtain rfl := Except.ok.inj h
      simp [(hread []).1 rfl]
    · obtain ⟨poolVersion, hversion, h⟩ := bind_eq_ok.1 h
      obtain ⟨ranges, hranges, h⟩ := bind_eq_ok.1 h
      obtain rfl := Except.ok.inj h
      have hlist := (hread (a :: l)).1 rfl
      refine ⟨iff_of_true rfl ⟨hauto, a :: l, hlist, by simp⟩, ?_⟩
      rintro n e ⟨⟩
      exact ⟨a :: l, poolVersion, ranges, hlist, deref_eq_ok.1 hversion, hranges, rfl, rfl⟩

theorem syncAutoIPPools_eq (ipVersion : Option IPVersion)
    (es : List (Σ _ : String, PoolIPPreAllocation)) (acc : ℤ × PoolIPPreAllocations) :
    syncAutoIPPools env ipVersion es acc = collect (keptEntry env ipVersion) Sigma.fst es acc := by
  induction es generalizing acc with
  | nil => rfl
  | cons e es ih =>
    obtain ⟨tmpCount, m⟩ := acc
    simp only [syncAutoIPPools, collect, keptEntry]
    cases keepEntry env ipVersion e.1 e.2 with
    | error err => rfl
    | ok kept =>
      cases kept with
      | none => exact ih (tmpCount, m)
      | some n => exact ih (tmpCount + n, m.insert e.1 e.2)

theorem syncIPPools_eq (version : IPVersion) (total : List Addr) (ipPools : List IPPool)
    (acc : ℤ × PoolIPPreAllocations) :
    syncIPPools env version total ipPools acc =
      collect (newEntry env version total) IPPool.name ipPools acc := by
  induction ipPools generalizing acc with
  | nil => rfl
  | cons p ps ih =>
    obtain ⟨tmpCount, m⟩ := acc
    simp only [syncIPPools, collect, newEntry]
    split_ifs
    · exact ih (tmpCount, m)
    · cases dropErr (assembleTotalIPs version p.spec.ips p.spec.excludeIPs) with
      | error err => rfl
      | ok o =>
        rcases o with _ | _ | ⟨x, xs⟩
        · exact ih (tmpCount, m)
        · exact ih (tmpCount, m)
        · simp only [bind, Except.bind]
          cases (deref p.spec.ipVersion : Result Err IPVersion) with
          | error err => rfl
          | ok v =>
            dsimp only
            cases dropErr (convertIPsToIPRanges v
                (env.marks (ipsIntersectionSet total (x :: xs)))) with
            | error err => rfl
            | ok ranges => exact ih _

def SpiderSubnet.owned (subnet : SpiderSubnet) (ipPools : List IPPool) : List IPPool :=
  ipPools.filter fun p => p.labels.lookup Constant.labelIPPoolOwnerSpiderSubnet = some subnet.name

/-- The end of a sync: the subnet whose status is written, if it is. -/
def SpiderSubnet.synced (subnet : SpiderSubnet) (m : PoolIPPreAllocations) (total : List Addr)
    (new : ℤ × PoolIPPreAllocations) : Option SpiderSubnet :=
  let equal := subnet.status.controlledIPPools.isSome && sameEntries new.2 m
  let status : SubnetStatus := if equal then subnet.status else
    { subnet.status with
      controlledIPPools := marshalSubnetAllocatedIPPools new.2
      allocatedIPCount := some new.1 }
  if equal && subnet.status.totalIPCount = some (total.length : ℤ) then none
  else some { subnet with status := { status with totalIPCount := some (total.length : ℤ) } }

/-- What a sync goes through: the version, the entries before, the pools, the total addresses of the
subnet, and what the two loops collect. -/
structure Syncs (env : InformerEnv) (subnet : SpiderSubnet) (v : IPVersion)
    (m : PoolIPPreAllocations) (ipPools : List IPPool) (total : List Addr)
    (auto new : ℤ × PoolIPPreAllocations) : Prop where
  version : subnet.spec.ipVersion = some v
  entries : unmarshalSubnetAllocatedIPPools subnet.status.controlledIPPools = .ok m
  listed : env.ipPools = .ok ipPools
  assembled : assembleTotalIPs v subnet.spec.ips subnet.spec.excludeIPs = .ok total
  kept : collect (keptEntry env (some v)) Sigma.fst (env.pools.visit m) (0, ∅) = .ok auto
  collected : collect (newEntry env v total) IPPool.name (subnet.owned ipPools) auto = .ok new

theorem syncControlledIPPoolIPs_ok {written : Option SpiderSubnet} :
    syncControlledIPPoolIPs env subnet = .ok written ↔
      ∃ v m ipPools total auto new, Syncs env subnet v m ipPools total auto new ∧
        written = subnet.synced m total new := by
  unfold syncControlledIPPoolIPs
  simp only [bind_eq_ok, mapErr_eq_ok, deref_eq_ok]
  constructor
  · rintro ⟨m, hm, auto, hauto, ipPools, hpools, v, hv, total, htotal, new, hnew, h⟩
    rw [hv, syncAutoIPPools_eq] at hauto
    rw [syncIPPools_eq] at hnew
    refine ⟨v, m, ipPools, total, auto, new, ⟨hv, hm, hpools, htotal, hauto, hnew⟩, ?_⟩
    unfold SpiderSubnet.synced
    dsimp only
    split_ifs at h ⊢
    all_goals exact (Except.ok.inj h).symm
  · rintro ⟨v, m, ipPools, total, auto, new, h, rfl⟩
    refine ⟨m, h.entries, auto, ?_, ipPools, h.listed, v, h.version, total, h.assembled, new, ?_, ?_⟩
    · rw [h.version, syncAutoIPPools_eq]
      exact h.kept
    · rw [syncIPPools_eq]
      exact h.collected
    · unfold SpiderSubnet.synced
      dsimp only
      split_ifs
      all_goals rfl

section

variable {v : IPVersion} {m : PoolIPPreAllocations} {ipPools : List IPPool} {total : List Addr}
  {auto new : ℤ × PoolIPPreAllocations} {name : String} {e : PoolIPPreAllocation}

theorem nodup_visit (order : RangeOrder String PoolIPPreAllocation) (m : PoolIPPreAllocations) :
    ((order.visit m).map Sigma.fst).Nodup :=
  ((order.perm m).map _).nodup_iff.2 (AList.keys_nodup m)

section

variable {x : Σ _ : String, PoolIPPreAllocation}

theorem keptEntry_eq_some {n : ℕ} {e' : PoolIPPreAllocation} :
    keptEntry env (some v) x = .ok (some (n, e')) ↔
      keepEntry env (some v) x.1 x.2 = .ok (some n) ∧ x.2 = e' := by
  unfold keptEntry
  cases keepEntry env (some v) x.1 x.2 with
  | error err => simp [Except.map]
  | ok kept => cases kept <;> simp [Except.map]

theorem keptEntry_eq_ok {kept : Option ℕ} (h : keepEntry env (some v) x.1 x.2 = .ok kept) :
    keptEntry env (some v) x = .ok (kept.map fun n => (n, x.2)) := by
  rw [keptEntry, h]
  rfl

theorem kept_of_keptEntry (h : ∃ made, keptEntry env (some v) x = .ok made) :
    ∃ kept, keepEntry env (some v) x.1 x.2 = .ok kept := by
  obtain ⟨made, hmade⟩ := h
  unfold keptEntry at hmade
  cases hkeep : keepEntry env (some v) x.1 x.2 with
  | error err =>
    rw [hkeep] at hmade
    cases hmade
  | ok kept => exact ⟨kept, rfl⟩

end

theorem Syncs.lookup_auto (h : Syncs env subnet v m ipPools total auto new) :
    auto.2.lookup name = some e ↔ m.lookup name = some e ∧ ForApplication env v name e := by
  rw [lookup_collect h.kept (nodup_visit _ _)]
  constructor
  · rintro (⟨⟨name', e'⟩, hx, rfl, n, hn⟩ | ⟨hempty, -⟩)
    · obtain ⟨hkeep, rfl⟩ := keptEntry_eq_some.1 hn
      exact ⟨(env.pools.mem_visit).1 hx, ((keepEntry_spec hkeep n).1 rfl).1⟩
    · rw [AList.lookup_empty] at hempty
      cases hempty
  · rintro ⟨hlookup, happ⟩
    have hx := (env.pools.mem_visit).2 hlookup
    obtain ⟨kept, hkept⟩ := kept_of_keptEntry (made_of_collect h.kept _ hx)
    refine .inl ⟨⟨name, e⟩, hx, rfl, e.size v, keptEntry_eq_some.2 ⟨?_, rfl⟩⟩
    rw [hkept, (keepEntry_spec hkept _).2 ⟨happ, rfl⟩]

theorem nodup_owned (hnames : (ipPools.map IPPool.name).Nodup) :
    ((subnet.owned ipPools).map IPPool.name).Nodup :=
  hnames.sublist (List.filter_sublist.map _)

theorem Syncs.lookup_new (h : Syncs env subnet v m ipPools total auto new)
    (hnames : (ipPools.map IPPool.name).Nodup) :
    new.2.lookup name = some e ↔
      (∃ p ∈ subnet.owned ipPools, p.name = name ∧ ∃ n, newEntry env v total p = .ok (some (n, e))) ∨
      (m.lookup name = some e ∧ ForApplication env v name e) ∧
        ∀ p ∈ subnet.owned ipPools, p.name = name → newEntry env v total p = .ok none := by
  rw [lookup_collect h.collected (nodup_owned hnames), h.lookup_auto]

theorem unmarshal_marshalSubnet (m : PoolIPPreAllocations) :
    unmarshalSubnetAllocatedIPPools (marshalSubnetAllocatedIPPools m) = .ok m := by
  unfold marshalSubnetAllocatedIPPools
  split_ifs with h
  · have hempty : m = ∅ := AList.ext (GoMap.len_eq_zero.1 h)
    rw [hempty]
    rfl
  · rfl

theorem sameEntries_iff {m m' : PoolIPPreAllocations} :
    sameEntries m m' = true ↔ ∀ name, m.lookup name = m'.lookup name := by
  unfold sameEntries
  rw [List.all_eq_true]
  constructor
  · intro h name
    by_cases hmem : name ∈ m.keys ++ m'.keys
    · exact of_decide_eq_true (h name hmem)
    · rw [List.mem_append, not_or] at hmem
      rw [AList.lookup_eq_none.2 hmem.1, AList.lookup_eq_none.2 hmem.2]
  · intro h name _
    exact decide_eq_true (h name)

theorem Syncs.stored (h : Syncs env subnet v m ipPools total auto new) :
    ∃ m', unmarshalSubnetAllocatedIPPools
        ((subnet.synced m total new).getD subnet).status.controlledIPPools = .ok m' ∧
      ∀ name, m'.lookup name = new.2.lookup name := by
  unfold SpiderSubnet.synced
  dsimp only
  by_cases hequal : (subnet.status.controlledIPPools.isSome && sameEntries new.2 m) = true
  · have hsame := sameEntries_iff.1 (Bool.and_eq_true_iff.1 hequal).2
    refine ⟨m, ?_, fun name => (hsame name).symm⟩
    simp only [hequal, if_true, Bool.true_and]
    split_ifs <;> exact h.entries
  · rw [Bool.not_eq_true] at hequal
    rw [hequal]
    exact ⟨new.2, unmarshal_marshalSubnet new.2, fun _ => rfl⟩

end

end Spiderpool
