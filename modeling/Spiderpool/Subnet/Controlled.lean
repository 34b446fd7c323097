/-
# Which pool is given which addresses

The entries of a subnet's `status.controlledIPPools`, and where `preAllocateIPsFromSubnet`
takes the addresses of a new entry from (`preAllocate_entry`): the pool's old entry, the
addresses that are in no entry, or, in the recovery branch, the pool's `spec.ips`. So the
entries stay apart, unless that branch is taken for a pool whose `spec.ips` meets the entry
of another (`preAllocate_disjoint`).
-/

import Spiderpool.Subnet.Manager

namespace Spiderpool

def SpiderSubnet.entries (subnet : SpiderSubnet) : PoolIPPreAllocations :=
  match subnet.status.controlledIPPools with
  | some (.doc m) => m
  | _ => ∅

theorem SpiderSubnet.entries_of_unmarshal {subnet : SpiderSubnet} {m : PoolIPPreAllocations}
    (h : unmarshalSubnetAllocatedIPPools subnet.status.controlledIPPools = .ok m) :
    subnet.entries = m := by
  unfold entries
  rcases hc : subnet.status.controlledIPPools with _ | _ | _ <;> rw [hc] at h
  · exact Except.ok.inj h
  · exact Except.ok.inj h
  · exact absurd h fail_ne_ok

def EntriesDisjoint (m : PoolIPPreAllocations) : Prop :=
  ∀ name name' e e' a, name ≠ name' → m.lookup name = some e → m.lookup name' = some e' →
    Listed e.ips a → ¬Listed e'.ips a

theorem entriesDisjoint_empty : EntriesDisjoint ∅ := nofun

theorem EntriesDisjoint.insert {m : PoolIPPreAllocations} (h : EntriesDisjoint m) {name : String}
    {e : PoolIPPreAllocation}
    (hnew : ∀ name' e' a, name' ≠ name → m.lookup name' = some e' → Listed e.ips a →
      ¬Listed e'.ips a) :
    EntriesDisjoint (m.insert name e) := by
  intro n₁ n₂ e₁ e₂ a hne h₁ h₂ ha₁ ha₂
  rw [GoMap.lookup_insert_eq] at h₁ h₂
  split_ifs at h₁ h₂ with heq₁ heq₂ heq₂
  · exact hne (heq₁.trans heq₂.symm)
  · obtain rfl := Option.some.inj h₁
    exact hnew n₂ e₂ a heq₂ h₂ ha₁ ha₂
  · obtain rfl := Option.some.inj h₂
    exact hnew n₁ e₁ a heq₁ h₁ ha₂ ha₁
  · exact h n₁ n₂ e₁ e₂ a hne h₁ h₂ ha₁ ha₂

/-- The recovery branch is taken: the pool's entry has the number of addresses it should
have, and a record of the pool is for an address that is not in it. -/
def Recovers (m : PoolIPPreAllocations) (pool : IPPool) (ipVersion : IPVersion)
    (desiredIPNum : ℤ) : Prop :=
  ∃ entry l, m.lookup pool.name = some entry ∧ parseIPRanges ipVersion entry.ips = .ok l ∧
    desiredIPNum = l.length ∧
      ∃ k ∈ pool.status.records, ∃ r a, parseIPRange ipVersion k = .ok r ∧ a ∈ r ∧ a ∉ l

theorem mem_ipsDiffSetSorted {xs ys : List Addr} {a : Addr} :
    a ∈ ipsDiffSetSorted xs ys ↔ a ∈ xs ∧ a ∉ ys := by
  simp [ipsDiffSetSorted, ipsDiffSet, List.mem_insertionSort]

theorem mem_of_sliceTo {ε α : Type} {c : ℕ} {xs ys : List α} {n : ℤ}
    (h : sliceTo c xs n = (.ok ys : Result ε (List α))) {a : α} (ha : a ∈ ys) : a ∈ xs := by
  unfold sliceTo at h
  split_ifs at h
  exact List.mem_of_mem_take (Except.ok.inj h ▸ ha)

variable {env : SubnetEnv} {subnet subnet' : SpiderSubnet} {m : PoolIPPreAllocations}
  {pool : IPPool} {ipVersion : IPVersion} {desiredIPNum : ℤ} {podController : PodTopController}
  {ips : List String}

section

variable {poolName : String} {allocation : PoolIPPreAllocation} {a : Addr}
  {subnetPoolIPs : List Addr}

theorem setAllocation_of_written {range : List String}
    (h : (subnet.setAllocation env m poolName allocation >>= fun s => pure (range, some s)) =
      .ok (ips, some subnet')) :
    subnet.setAllocation env m poolName allocation = .ok subnet' ∧ range = ips := by
  obtain ⟨subnet₁, hset, hret⟩ := bind_eq_ok.1 h
  obtain ⟨hrange, hwritten⟩ := Prod.mk.inj (Except.ok.inj hret)
  exact ⟨Option.some.inj hwritten ▸ hset, hrange⟩

theorem setAllocation_ok (h : subnet.setAllocation env m poolName allocation = .ok subnet') :
    ∃ counts, subnetStatusCount env { subnet with status := { subnet.status with
        controlledIPPools := some (.doc (m.insert poolName allocation)) } } = .ok counts ∧
      subnet' = { subnet with status :=
        ⟨some (.doc (m.insert poolName allocation)), some counts.1, some counts.2⟩ } := by
  have hlen : GoMap.len (m.insert poolName allocation) ≠ 0 := by
    rw [Ne, GoMap.len_eq_zero]
    simp
  obtain ⟨counts, hcounts, h⟩ := bind_eq_ok.1 h
  rw [marshalSubnetAllocatedIPPools, if_neg hlen] at hcounts h
  exact ⟨counts, hcounts, (Except.ok.inj h).symm⟩

theorem setAllocation_entries (h : subnet.setAllocation env m poolName allocation = .ok subnet') :
    subnet'.entries = m.insert poolName allocation := by
  obtain ⟨counts, -, rfl⟩ := setAllocation_ok h
  rfl

theorem listed_discardIPs {total allocated : List Addr}
    (h : discardIPs env ipVersion total allocated desiredIPNum = .ok ips)
    (ha : Listed ips a) : a ∈ total := by
  obtain ⟨discarded, -, h⟩ := bind_eq_ok.1 h
  exact (List.mem_filter.1 (mem_of_listed_convert (mapErr_eq_ok.1 h) ha)).1

theorem genSubnetFreeIPs_free {l : List Addr} (h : genSubnetFreeIPs env subnet = .ok l)
    (ha : a ∈ l) {name : String} {e : PoolIPPreAllocation}
    (he : subnet.entries.lookup name = some e) : ¬Listed e.ips a := by
  obtain ⟨m, hm, h⟩ := bind_eq_ok.1 h
  obtain ⟨v, -, h⟩ := bind_eq_ok.1 h
  obtain ⟨used, hused, h⟩ := bind_eq_ok.1 h
  obtain ⟨total, -, h⟩ := bind_eq_ok.1 h
  rw [← Except.ok.inj h, mem_ipsDiffSetSorted] at ha
  rw [SpiderSubnet.entries_of_unmarshal hm] at he
  have hsub : e.ips ⊆ (env.pools.visit m).flatMap fun pool => pool.2.ips := by
    intro r hr
    exact List.mem_flatMap.2 ⟨⟨name, e⟩, env.pools.mem_visit.2 he, hr⟩
  exact fun hlisted => ha.2 (hlisted.mem_of_subset hsub hused)

/-! ### Where the addresses of a new entry come from -/

theorem reuseOrCorrect_entry
    (h : reuseOrCorrect env subnet m pool allocation subnetPoolIPs ipVersion desiredIPNum =
      .ok (ips, some subnet')) (hentry : m.lookup pool.name = some allocation)
    (hips : parseIPRanges ipVersion allocation.ips = .ok subnetPoolIPs)
    (hnum : desiredIPNum = subnetPoolIPs.length) :
    ∃ e, subnet.setAllocation env m pool.name e = .ok subnet' ∧ e.ips = ips ∧
      Recovers m pool ipVersion desiredIPNum ∧ ∀ a, Listed e.ips a → Listed pool.spec.ips a := by
  obtain ⟨records, hrecords, h⟩ := bind_eq_ok.1 h
  obtain ⟨allocated, hallocated, h⟩ := bind_eq_ok.1 h
  split_ifs at h with hdiff
  · obtain ⟨total, htotal, h⟩ := bind_eq_ok.1 h
    obtain ⟨-, h⟩ := seq_eq_ok.1 h
    obtain ⟨range, hrange, h⟩ := bind_eq_ok.1 h
    obtain ⟨hset, hips'⟩ := setAllocation_of_written h
    refine ⟨_, hset, hips', ?_, fun a ha => ?_⟩
    · obtain ⟨a, ha, hout⟩ := List.any_eq_true.1 hdiff
      obtain ⟨k, hk, r, hr, har⟩ := exists_range_of_mem hallocated ha
      obtain ⟨⟨_, v⟩, hv, rfl⟩ := List.mem_map.1 hk
      have hmem := GoMap.mem_of_lookup (env.records.mem_visit.1 hv)
      rw [← IPPoolStatus.records_eq (mapErr_eq_ok.1 hrecords)] at hmem
      exact ⟨allocation, subnetPoolIPs, hentry, hips, hnum, _, hmem, r, a, hr, har, by simpa using hout⟩
    · exact (listed_of_parse (mapErr_eq_ok.1 htotal)).2 (listed_discardIPs hrange ha)
  · cases h

theorem shrink_entry
    (h : shrink env subnet m pool subnetPoolIPs ipVersion desiredIPNum podController =
      .ok (ips, some subnet')) :
    ∃ e, subnet.setAllocation env m pool.name e = .ok subnet' ∧ e.ips = ips ∧
      ∀ a, Listed e.ips a → a ∈ subnetPoolIPs := by
  obtain ⟨records, -, h⟩ := bind_eq_ok.1 h
  obtain ⟨-, h⟩ := seq_eq_ok.1 h
  obtain ⟨allocated, -, h⟩ := bind_eq_ok.1 h
  obtain ⟨range, hrange, h⟩ := bind_eq_ok.1 h
  obtain ⟨hset, hips⟩ := setAllocation_of_written h
  exact ⟨_, hset, hips, fun a ha => listed_discardIPs hrange ha⟩

end

theorem allocateFree_entry {before : List Addr} {ipNum : ℤ}
    (h : allocateFree env subnet m pool before ipVersion ipNum podController =
      .ok (ips, some subnet')) :
    ∃ e, subnet.setAllocation env m pool.name e = .ok subnet' ∧ e.ips = ips ∧ ∀ a, Listed e.ips a →
      a ∈ before ∨ ∀ name e', subnet.entries.lookup name = some e' → ¬Listed e'.ips a := by
  obtain ⟨free, hfree, h⟩ := bind_eq_ok.1 h
  obtain ⟨reserved, -, h⟩ := bind_eq_ok.1 h
  obtain ⟨-, h⟩ := seq_eq_ok.1 h
  obtain ⟨taken, htaken, h⟩ := bind_eq_ok.1 h
  obtain ⟨range, hrange, h⟩ := bind_eq_ok.1 h
  obtain ⟨hset, hips⟩ := setAllocation_of_written h
  refine ⟨_, hset, hips, fun a ha => ?_⟩
  rcases List.mem_append.1 (mem_of_listed_convert (mapErr_eq_ok.1 hrange) ha) with ha | ha
  · have hmem := mem_of_sliceTo htaken ha
    have : a ∈ free := by
      split_ifs at hmem
      · exact (mem_ipsDiffSetSorted.1 hmem).1
      · exact hmem
    exact .inr fun name e' => genSubnetFreeIPs_free (mapErr_eq_ok.1 hfree) this
  · exact .inl ha

/-- The address was the pool's, or nobody's, or the recovery branch took it from the pool's
own addresses. -/
def Given (m : PoolIPPreAllocations) (pool : IPPool) (ipVersion : IPVersion) (desiredIPNum : ℤ)
    (a : Addr) : Prop :=
  (∃ old, m.lookup pool.name = some old ∧ Listed old.ips a) ∨
    (∀ name e, m.lookup name = some e → ¬Listed e.ips a) ∨
      Recovers m pool ipVersion desiredIPNum ∧ Listed pool.spec.ips a

theorem preAllocate_entry
    (h : preAllocateIPsFromSubnet env subnet pool ipVersion desiredIPNum podController =
      .ok (ips, some subnet')) :
    ∃ e, subnet.setAllocation env subnet.entries pool.name e = .ok subnet' ∧ e.ips = ips ∧
      ∀ a, Listed e.ips a → Given subnet.entries pool ipVersion desiredIPNum a := by
  obtain ⟨m, hm, h⟩ := bind_eq_ok.1 h
  have hentries := SpiderSubnet.entries_of_unmarshal (mapErr_eq_ok.1 hm)
  rw [hentries]
  split at h
  · obtain ⟨e, he, hips, hfree⟩ := allocateFree_entry h
    refine ⟨e, he, hips, fun a ha => ?_⟩
    rcases hfree a ha with ha | ha
    · exact absurd ha List.not_mem_nil
    · exact .inr (.inl (hentries ▸ ha))
  · next allocation hallocation =>
    obtain ⟨subnetPoolIPs, hips, h⟩ := bind_eq_ok.1 h
    have hips := mapErr_eq_ok.1 hips
    have hold : ∀ a ∈ subnetPoolIPs, Given m pool ipVersion desiredIPNum a := fun a ha =>
      .inl ⟨allocation, hallocation, (listed_of_parse hips).2 ha⟩
    split_ifs at h with heq hlt
    · obtain ⟨e, he, hips', hrecovers, hspec⟩ := reuseOrCorrect_entry h hallocation hips heq
      exact ⟨e, he, hips', fun a ha => .inr (.inr ⟨hrecovers, hspec a ha⟩)⟩
    · obtain ⟨e, he, hips', hsub⟩ := shrink_entry h
      exact ⟨e, he, hips', fun a ha => hold a (hsub a ha)⟩
    · obtain ⟨e, he, hips', hfree⟩ := allocateFree_entry h
      refine ⟨e, he, hips', fun a ha => ?_⟩
      rcases hfree a ha with ha | ha
      · exact hold a ha
      · exact .inr (.inl (hentries ▸ ha))

theorem preAllocate_disjoint
    (h : preAllocateIPsFromSubnet env subnet pool ipVersion desiredIPNum podController =
      .ok (ips, some subnet')) (hdisjoint : EntriesDisjoint subnet.entries)
    (hspec : Recovers subnet.entries pool ipVersion desiredIPNum → ∀ name e a, name ≠ pool.name →
      subnet.entries.lookup name = some e → Listed pool.spec.ips a → ¬Listed e.ips a) :
    EntriesDisjoint subnet'.entries := by
  obtain ⟨e, he, -, hgiven⟩ := preAllocate_entry h
  rw [setAllocation_entries he]
  refine hdisjoint.insert fun name e' a hne he' ha => ?_
  rcases hgiven a ha with ⟨old, hold, ha⟩ | hfree | ⟨hrecovers, ha⟩
  · exact hdisjoint _ _ old e' a hne.symm hold he' ha
  · exact hfree name e' he'
  · exact hspec hrecovers name e' a hne he' ha

end Spiderpool
