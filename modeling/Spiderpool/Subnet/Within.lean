/-
# Entries stay in their subnet

The entries in the status of a subnet are written by calls for auto-created pools and by syncs, and
its ranges are changed by users. A call gives a pool free addresses of the subnet or addresses of
its old entry, a sync those that a pool and the subnet have in common, and a change of the ranges is
compared with the entries first (`validateSubnetIPInUse`). So all addresses of the entries are the
subnet's own (`entries_within`), unless a call recovers a pool that lists others.
-/

import Spiderpool.Subnet.AllocatedCount

namespace Spiderpool

def controlledIPPoolsField := "status.controlledIPPools"

/-- The check of `validateUpdateSubnet` that looks at the entries. The others only refuse more. -/
def validateSubnetIPInUse (order : RangeOrder String PoolIPPreAllocation) (subnet : SpiderSubnet) :
    Result FieldError Unit := do
  let version ← deref subnet.spec.ipVersion
  let totalIPs ← mapErr (fun e => .internal ipsField
    ("failed to assemble the total IP addresses of the Subnet " ++ subnet.name ++ ": " ++ e.text))
    (assembleTotalIPs version subnet.spec.ips subnet.spec.excludeIPs)
  let preAllocations ← mapErr (fun e => .internal controlledIPPoolsField
    ("failed to unmarshal the controlled IPPools of Subnet " ++ subnet.name ++ ": " ++ e.text))
    (unmarshalSubnetAllocatedIPPools subnet.status.controlledIPPools)
  (order.visit preAllocations).forM fun ⟨poolName, preAllocation⟩ => do
    let poolTotalIPs ← mapErr (fun e => .internal controlledIPPoolsField
      ("failed to parse the pre-allocation of the IPPool " ++ poolName ++ ": " ++ e.text))
      (parseIPRanges version preAllocation.ips)
    let invalidIPs := ipsDiffSet poolTotalIPs totalIPs
    if invalidIPs ≠ [] then
      let ranges ← dropErr (convertIPsToIPRanges version invalidIPs)
      fail (.forbidden ipsField ("remove some IP ranges " ++ formatList (ranges.getD []) ++
        " that is being used by IPPool " ++ poolName ++ ", total IP addresses of an Subnet are " ++
        "jointly determined by 'spec.ips' and 'spec.excludeIPs'"))

/-- The address is one of `spec.ips` and not of `spec.excludeIPs`. -/
def SubnetSpec.Has (spec : SubnetSpec) (a : Addr) : Prop :=
  ∃ v total, assembleTotalIPs v spec.ips spec.excludeIPs = .ok total ∧ a ∈ total

def SpiderSubnet.Within (subnet : SpiderSubnet) : Prop :=
  ∀ name e a, subnet.entries.lookup name = some e → Listed e.ips a → subnet.spec.Has a

section

variable {subnet subnet' : SpiderSubnet}

theorem validateSubnetIPInUse_within {order : RangeOrder String PoolIPPreAllocation}
    (h : validateSubnetIPInUse order subnet = .ok ()) : subnet.Within := by
  intro name e a he ha
  simp only [validateSubnetIPInUse, bind_eq_ok, mapErr_eq_ok] at h
  obtain ⟨v, -, total, htotal, m, hm, h⟩ := h
  rw [SpiderSubnet.entries_of_unmarshal hm] at he
  obtain ⟨l, hl, h⟩ := bind_eq_ok.1 (forM_eq_ok h ⟨name, e⟩ (order.mem_visit.2 he))
  have hin := (listed_of_parse (mapErr_eq_ok.1 hl)).1 ha
  refine ⟨v, total, htotal, by_contra fun hout => ?_⟩
  have hne : ipsDiffSet l total ≠ [] :=
    List.ne_nil_of_mem (List.mem_filter.2 ⟨hin, decide_eq_true hout⟩)
  rw [if_pos hne] at h
  obtain ⟨ranges, -, h⟩ := bind_eq_ok.1 h
  exact absurd h fail_ne_ok

/-! ### A call -/

section

variable {env : SubnetEnv} {pool : IPPool} {v : IPVersion} {n : ℤ} {c : PodTopController}
  {ips : List String} {a : Addr}

theorem allocateFree_has {m : PoolIPPreAllocations} {before : List Addr}
    (h : allocateFree env subnet m pool before v n c = .ok (ips, some subnet'))
    (ha : Listed ips a) : a ∈ before ∨ subnet.spec.Has a := by
  simp only [allocateFree, genSubnetFreeIPs, bind_eq_ok, mapErr_eq_ok] at h
  obtain ⟨free, ⟨_, -, v, -, _, -, total, htotal, hfree⟩, _, -, _, -, taken, htaken, range, hrange,
    _, -, h⟩ := h
  obtain ⟨rfl, -⟩ := Prod.mk.inj (Except.ok.inj h)
  refine (List.mem_append.1 (mem_of_listed_convert hrange ha)).symm.imp_right fun ha => ?_
  have hmem := mem_of_sliceTo htaken ha
  rw [← Except.ok.inj hfree] at hmem
  refine ⟨v, total, htotal, ?_⟩
  split_ifs at hmem
  · exact (mem_ipsDiffSetSorted.1 (mem_ipsDiffSetSorted.1 hmem).1).1
  · exact (mem_ipsDiffSetSorted.1 hmem).1

variable (h : preAllocateIPsFromSubnet env subnet pool v n c = .ok (ips, some subnet'))
  (hs : subnet.Within)
  (hrec : Recovers subnet.entries pool v n → ∀ a, Listed pool.spec.ips a → subnet.spec.Has a)

include h hs hrec

theorem preAllocate_has (ha : Listed ips a) : subnet.spec.Has a := by
  obtain ⟨m, hm, h⟩ := bind_eq_ok.1 h
  rw [SpiderSubnet.Within, SpiderSubnet.entries_of_unmarshal (mapErr_eq_ok.1 hm)] at *
  split at h
  · exact (allocateFree_has h ha).resolve_left List.not_mem_nil
  · next e he =>
    obtain ⟨l, hl, h⟩ := bind_eq_ok.1 h
    have hl := mapErr_eq_ok.1 hl
    have hold : a ∈ l → subnet.spec.Has a := fun ha => hs _ e a he ((listed_of_parse hl).2 ha)
    split_ifs at h with heq
    · obtain ⟨e', -, rfl, hrecovers, hspec⟩ := reuseOrCorrect_entry h he hl heq
      exact hrec hrecovers a (hspec a ha)
    · obtain ⟨e', -, rfl, hsub⟩ := shrink_entry h
      exact hold (hsub a ha)
    · exact (allocateFree_has h ha).elim hold id

theorem preAllocate_within : subnet'.Within := by
  intro name e a he ha
  obtain ⟨e', hset, rfl, -⟩ := preAllocate_entry h
  rw [setAllocation_entries hset, GoMap.lookup_insert_eq] at he
  have hhas : subnet.spec.Has a := by
    split_ifs at he
    · obtain rfl := Option.some.inj he
      exact preAllocate_has h hs hrec ha
    · exact hs name e a he ha
  obtain ⟨_, -, rfl⟩ := setAllocation_ok hset
  exact hhas

end

/-! ### A sync -/

theorem sync_within {env : InformerEnv} {written : Option SpiderSubnet}
    (hnames : ∀ l, env.ipPools = .ok l → (l.map IPPool.name).Nodup)
    (h : syncControlledIPPoolIPs env subnet = .ok written) (hs : subnet.Within) :
    (written.getD subnet).Within := by
  obtain ⟨v, m, ipPools, total, auto, new, hsyncs, rfl⟩ := syncControlledIPPoolIPs_ok.1 h
  obtain ⟨m', hm', hsame⟩ := hsyncs.stored
  have hspec : ((subnet.synced m total new).getD subnet).spec = subnet.spec := by
    unfold SpiderSubnet.synced
    dsimp only
    split_ifs <;> rfl
  intro name e a he ha
  rw [SpiderSubnet.entries_of_unmarshal hm', hsame,
    hsyncs.lookup_new (hnames ipPools hsyncs.listed)] at he
  rw [hspec]
  rcases he with ⟨p, -, -, n, hmade⟩ | ⟨⟨hold, -⟩, -⟩
  · obtain ⟨l, _, ranges, -, -, hranges, -, rfl⟩ := (newEntry_spec hmade).2 n e rfl
    cases ranges with
    | none =>
      obtain ⟨_, _, ⟨⟩, ha⟩ := ha
      exact absurd ha List.not_mem_nil
    | some ranges =>
      have hmem := mem_of_listed_convert ((dropErr_eq_ok hranges ranges).1 rfl) ha
      rw [(env.marks_perm _).mem_iff, ipsIntersectionSet, List.mem_dedup, List.mem_filter] at hmem
      exact ⟨v, total, hsyncs.assembled, of_decide_eq_true hmem.2⟩
  · exact hs name e a (SpiderSubnet.entries_of_unmarshal hsyncs.entries ▸ hold) ha

end

namespace AllocatedCount

/-- A write of the status, or an update that the webhook lets pass, with the status as it is. -/
inductive Change : SpiderSubnet → Option Event → SpiderSubnet → Prop
  | status {s s' : SpiderSubnet} {ev : Event} (h : Step s ev s') : Change s (some ev) s'
  | update {s s' : SpiderSubnet} {order : RangeOrder String PoolIPPreAllocation}
      (hstatus : s'.status = s.status) (h : validateSubnetIPInUse order s' = .ok ()) :
      Change s none s'

/-- A pool that is recovered lists addresses of the subnet only. -/
def SpecWithin (s : SpiderSubnet) : Option Event → Prop
  | some (.preAllocate _ pool v n _) =>
    Recovers s.entries pool v n → ∀ a, Listed pool.spec.ips a → s.spec.Has a
  | _ => True

/-- **All addresses of the entries are the subnet's own.**  From a subnet with an empty status this
is so after every run of calls, syncs and updates, whatever becomes of the pools in between, as long
as every pool that is recovered lists addresses of the subnet only. -/
theorem entries_within {s s' : SpiderSubnet} {evs : List (Option Event)} (hempty : s.status = {})
    (h : Run (fun s ev s' => Change s ev s' ∧ SpecWithin s ev) s evs s') : s'.Within := by
  refine Run.inv SpiderSubnet.Within h ?_ ?_
  · intro name e a he
    rw [SpiderSubnet.entries, hempty] at he
    cases he
  · rintro s ev s' hs ⟨hchange, hwithin⟩
    cases hchange with
    | update hstatus h => exact validateSubnetIPInUse_within h
    | status h =>
      cases h with
      | nothing => exact hs
      | @preAllocate _ _ _ _ _ _ written h =>
        cases written with
        | none => exact hs
        | some s' => exact preAllocate_within h hs hwithin
      | sync hnames h => exact sync_within hnames h hs

end AllocatedCount

namespace Sample

open AllocatedCount

def narrowed : SubnetSpec := { plainSubnet.spec with ips := ["10.0.0.1-10.0.0.3"] }

/-- A pool is given two addresses, and the subnet is left with one more. -/
theorem narrowed_within : ∃ s, Run (fun s ev s' => Change s ev s' ∧ SpecWithin s ev) plainSubnet
      [some (.preAllocate plainEnv (emptyPool "auto") Constant.ipv4 2 countedApp), none] s ∧
    s.spec = narrowed ∧ s.Within := by
  obtain ⟨ips, s, h, hin⟩ : ∃ ips s, preAllocateTwo "auto" plainSubnet = .ok (ips, some s) ∧
      validateSubnetIPInUse (.stored _ _) { s with spec := narrowed } = .ok () :=
    ⟨_, _, rfl, rfl⟩
  have hrun : Run (fun s ev s' => Change s ev s' ∧ SpecWithin s ev) plainSubnet _
      { s with spec := narrowed } :=
    .cons ⟨.status (.preAllocate h), by rintro ⟨_, _, ⟨⟩, -⟩⟩
      (.single ⟨.update rfl hin, trivial⟩)
  exact ⟨_, hrun, rfl, entries_within rfl hrun⟩

end Sample

end Spiderpool
