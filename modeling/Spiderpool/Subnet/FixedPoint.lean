/-
# A second sync

Once the status of a subnet has been synced, a sync that finds the same applications and the same
pools makes the same entries again, in whatever order its loops go (`Unchanged.lookup_eq`). It
writes nothing then, but for one case: where there are no entries, the status has no text for them,
which is read as a nil map and is not equal to the empty map that the sync makes. So such a status
is written by every sync (`second_sync_iff`).
-/

import Spiderpool.IP.MergeRanges
import Spiderpool.Subnet.Entries

namespace Spiderpool

/-- The second sync finds what the first has found. The lister may give the pools in another order,
and the loops over maps may take other orders. -/
structure Unchanged (env env' : InformerEnv) : Prop where
  isAppExist : env'.isAppExist = env.isAppExist
  monitorThirdController : env'.monitorThirdController = env.monitorThirdController
  isNotFound : env'.isNotFound = env.isNotFound
  /-- No two pools have one name. -/
  pools : ∃ l l', env.ipPools = .ok l ∧ env'.ipPools = .ok l' ∧ l'.Perm l ∧
    (l.map IPPool.name).Nodup

variable {env env' : InformerEnv} {subnet : SpiderSubnet} {v : IPVersion}
  {m m' : PoolIPPreAllocations} {ipPools ipPools' : List IPPool} {total : List Addr}
  {auto new auto' new' : ℤ × PoolIPPreAllocations}

theorem dropErr_convert {ε : Type} {ips ips' : List Addr} (h : ∀ a, a ∈ ips ↔ a ∈ ips') :
    (dropErr (convertIPsToIPRanges v ips) : Result ε _) = dropErr (convertIPsToIPRanges v ips') := by
  have htransfer : ∀ {ips ips' : List Addr}, (∀ a, a ∈ ips ↔ a ∈ ips') → ∀ {rs},
      convertIPsToIPRanges v ips = .ok rs → convertIPsToIPRanges v ips' = .ok rs := by
    intro ips ips' h rs hrs
    obtain ⟨hv, hips, rfl⟩ := convertIPsToIPRanges_eq_ok.1 hrs
    refine convertIPsToIPRanges_eq_ok.2 ⟨hv, fun a ha => hips a ((h a).2 ha), ?_⟩
    rw [sortTexts_eq (List.Perm.refl _) (List.Perm.refl _) h]
  have hfails : ∀ {ips : List Addr} {e}, convertIPsToIPRanges v ips = .error e → ∃ x, e = .err x := by
    intro ips e he
    unfold convertIPsToIPRanges isIPVersion failIf at he
    split_ifs at he
    · exact ⟨_, (Except.error.inj he).symm⟩
    · simp only [bind, Except.bind] at he
      split at he
      · exact ⟨_, (Except.error.inj he).symm⟩
      · split at he <;> cases he
  cases hips : convertIPsToIPRanges v ips with
  | ok rs => rw [htransfer h hips]
  | error e =>
    obtain ⟨x, rfl⟩ := hfails hips
    cases hips' : convertIPsToIPRanges v ips' with
    | ok rs =>
      rw [htransfer (fun a => (h a).symm) hips'] at hips
      cases hips
    | error e' =>
      obtain ⟨x', rfl⟩ := hfails hips'
      rfl

theorem Unchanged.keepEntry_eq (h : Unchanged env env') (name : String) (e : PoolIPPreAllocation) :
    keepEntry env' (some v) name e = keepEntry env (some v) name e := by
  unfold keepEntry
  rw [h.isAppExist, h.monitorThirdController, h.isNotFound]

theorem newEntry_eq (env env' : InformerEnv) (v : IPVersion) (total : List Addr) (p : IPPool) :
    newEntry env' v total p = newEntry env v total p := by
  unfold newEntry
  split_ifs
  · rfl
  · cases (dropErr (assembleTotalIPs v p.spec.ips p.spec.excludeIPs) : Result Err _) with
    | error err => rfl
    | ok o =>
      rcases o with _ | _ | ⟨x, xs⟩
      · rfl
      · rfl
      · have hperm := (env'.marks_perm (ipsIntersectionSet total (x :: xs))).trans
          (env.marks_perm (ipsIntersectionSet total (x :: xs))).symm
        simp only [bind, Except.bind, hperm.length_eq]
        cases (deref p.spec.ipVersion : Result Err IPVersion) with
        | error err => rfl
        | ok version =>
          dsimp only
          rw [dropErr_convert fun a => hperm.mem_iff]

theorem application_of_newEntry {p : IPPool} {n : ℕ} {e : PoolIPPreAllocation}
    (h : newEntry env v total p = .ok (some (n, e))) : e.application = none := by
  obtain ⟨l, poolVersion, ranges, -, -, -, -, rfl⟩ := (newEntry_spec h).2 n e rfl
  rfl

theorem SpiderSubnet.synced_spec (subnet : SpiderSubnet) (m : PoolIPPreAllocations)
    (total : List Addr) (new : ℤ × PoolIPPreAllocations) :
    ((subnet.synced m total new).getD subnet).spec = subnet.spec ∧
    ((subnet.synced m total new).getD subnet).name = subnet.name ∧
    ((subnet.synced m total new).getD subnet).status.totalIPCount = some (total.length : ℤ) := by
  unfold SpiderSubnet.synced
  dsimp only
  split_ifs with h₁ h₂
  · refine ⟨rfl, rfl, ?_⟩
    simpa using (Bool.and_eq_true_iff.1 h₁).2
  all_goals exact ⟨rfl, rfl, rfl⟩

theorem Unchanged.syncs (h : Unchanged env env')
    (hsyncs : Syncs env subnet v m ipPools total auto new) :
    ∃ m' ipPools' auto' new',
      Syncs env' ((subnet.synced m total new).getD subnet) v m' ipPools' total auto' new' ∧
      ∀ name, new'.2.lookup name = m'.lookup name := by
  obtain ⟨l, l', hl, hl', hperm, hnames⟩ := h.pools
  obtain rfl := Except.ok.inj (hl.symm.trans hsyncs.listed)
  obtain ⟨m', hm', hlookup⟩ := hsyncs.stored
  obtain ⟨hspec, hname, -⟩ := subnet.synced_spec m total new
  set subnet' := (subnet.synced m total new).getD subnet with hsubnet'
  -- what is found of a name in the status after the first sync
  have hentry : ∀ {name e}, m'.lookup name = some e ↔
      (∃ p ∈ subnet.owned l, p.name = name ∧ ∃ n, newEntry env v total p = .ok (some (n, e))) ∨
      (m.lookup name = some e ∧ ForApplication env v name e) ∧
        ∀ p ∈ subnet.owned l, p.name = name → newEntry env v total p = .ok none := by
    intro name e
    rw [hlookup, hsyncs.lookup_new hnames]
  have howned : (subnet'.owned l').Perm (subnet.owned l) := by
    unfold SpiderSubnet.owned
    rw [hname]
    exact hperm.filter _
  obtain ⟨auto', hauto'⟩ : ∃ auto', collect (keptEntry env' (some v)) Sigma.fst
      (env'.pools.visit m') (0, ∅) = .ok auto' := by
    refine exists_collect (fun x hx => ?_) _
    rcases hentry.1 ((env'.pools.mem_visit).1 hx) with ⟨p, -, -, n, hn⟩ | ⟨⟨hold, -⟩, -⟩
    · have hkeep : keepEntry env' (some v) x.1 x.2 = .ok none := by
        rw [keepEntry, application_of_newEntry hn]
        rfl
      exact ⟨_, keptEntry_eq_ok hkeep⟩
    · have hx := (env.pools.mem_visit).2 hold
      obtain ⟨kept, hkept⟩ := kept_of_keptEntry (made_of_collect hsyncs.kept _ hx)
      exact ⟨_, keptEntry_eq_ok ((h.keepEntry_eq _ _).trans hkept)⟩
  obtain ⟨new', hnew'⟩ : ∃ new', collect (newEntry env' v total) IPPool.name
      (subnet'.owned l') auto' = .ok new' := by
    refine exists_collect (fun p hp => ?_) _
    rw [newEntry_eq env env']
    exact made_of_collect hsyncs.collected p (howned.mem_iff.1 hp)
  have hsyncs' : Syncs env' subnet' v m' l' total auto' new' :=
    ⟨hspec ▸ hsyncs.version, hm', hl', hspec ▸ hsyncs.assembled, hauto', hnew'⟩
  refine ⟨m', l', auto', new', hsyncs', fun name => Option.ext fun e => ?_⟩
  have hkept : ForApplication env' v name e ↔ ForApplication env v name e := by
    unfold ForApplication
    rw [h.isAppExist, h.isNotFound]
  have hnames' : (l'.map IPPool.name).Nodup := (hperm.map _).nodup_iff.2 hnames
  simp only [hsyncs'.lookup_new hnames', howned.mem_iff, newEntry_eq env env', hkept]
  constructor
  · rintro (hnew | ⟨⟨hold, -⟩, -⟩)
    · exact hentry.2 (.inl hnew)
    · exact hold
  · intro hold
    rcases hentry.1 hold with hnew | ⟨⟨-, hkeep⟩, hnone⟩
    · exact .inl hnew
    · exact .inr ⟨⟨hold, hkeep⟩, hnone⟩

/-! ### Where there are entries -/

/-- A sync leaves entries: there is one for an application, or a pool that is not auto-created has
addresses. An empty map that is stored as such counts as well. -/
def KeepsEntries (env : InformerEnv) (subnet : SpiderSubnet) : Prop :=
  subnet.status.controlledIPPools = some (.doc ∅) ∨
    ∃ v ipPools, subnet.spec.ipVersion = some v ∧ env.ipPools = .ok ipPools ∧
      ((∃ name e, subnet.entries.lookup name = some e ∧ ForApplication env v name e) ∨
        ∃ p ∈ subnet.owned ipPools, HasAddresses v p)

theorem Syncs.exists_new (h : Syncs env subnet v m ipPools total auto new)
    (hnames : (ipPools.map IPPool.name).Nodup) :
    (∃ name e, new.2.lookup name = some e) ↔
      (∃ name e, m.lookup name = some e ∧ ForApplication env v name e) ∨
        ∃ p ∈ subnet.owned ipPools, HasAddresses v p := by
  constructor
  · rintro ⟨name, e, he⟩
    rcases (h.lookup_new hnames).1 he with ⟨p, hp, -, n, hn⟩ | ⟨hkept, -⟩
    · exact .inr ⟨p, hp, (newEntry_spec hn).1.1 rfl⟩
    · exact .inl ⟨name, e, hkept⟩
  · rintro (⟨name, e, hkept⟩ | ⟨p, hp, haddresses⟩)
    · -- a pool of this name may have put its entry there
      by_cases hnone : ∀ p ∈ subnet.owned ipPools, p.name = name → newEntry env v total p = .ok none
      · exact ⟨name, e, (h.lookup_new hnames).2 (.inr ⟨hkept, hnone⟩)⟩
      · push Not at hnone
        obtain ⟨p, hp, rfl, hne⟩ := hnone
        obtain ⟨made, hmade⟩ := made_of_collect h.collected p hp
        cases made with
        | none => exact absurd hmade hne
        | some made => exact ⟨p.name, made.2, (h.lookup_new hnames).2 (.inl ⟨p, hp, rfl, _, hmade⟩)⟩
    · obtain ⟨made, hmade⟩ := made_of_collect h.collected p hp
      obtain ⟨⟨n, e⟩, rfl⟩ := Option.isSome_iff_exists.1 ((newEntry_spec hmade).1.2 haddresses)
      exact ⟨p.name, e, (h.lookup_new hnames).2 (.inl ⟨p, hp, rfl, n, hmade⟩)⟩

theorem marshal_ne_none {m : PoolIPPreAllocations} :
    marshalSubnetAllocatedIPPools m ≠ none ↔ ∃ name e, m.lookup name = some e := by
  have hempty : GoMap.len m = 0 ↔ ¬∃ name e, m.lookup name = some e := by
    rw [GoMap.len_eq_zero]
    constructor
    · rintro hnil ⟨name, e, he⟩
      have hmem := GoMap.mem_entries_iff.2 he
      rw [hnil] at hmem
      cases hmem
    · intro hnone
      refine List.eq_nil_iff_forall_not_mem.2 fun x hx => hnone ⟨x.1, x.2, ?_⟩
      exact GoMap.mem_entries_iff.1 hx
  unfold marshalSubnetAllocatedIPPools
  split_ifs with h
  · exact iff_of_false (by simp) (hempty.1 h)
  · exact iff_of_true (by simp) (not_not.1 fun hnone => h (hempty.2 hnone))

theorem Syncs.stored_iff (h : Syncs env subnet v m ipPools total auto new)
    (hnames : (ipPools.map IPPool.name).Nodup) :
    ((subnet.synced m total new).getD subnet).status.controlledIPPools ≠ none ↔
      KeepsEntries env subnet := by
  have hentries := SpiderSubnet.entries_of_unmarshal h.entries
  have hkeeps : KeepsEntries env subnet ↔ subnet.status.controlledIPPools = some (.doc ∅) ∨
      ∃ name e, new.2.lookup name = some e := by
    unfold KeepsEntries
    rw [h.exists_new hnames, hentries]
    simp [h.version, h.listed]
  rw [hkeeps]
  unfold SpiderSubnet.synced
  dsimp only
  by_cases hequal : (subnet.status.controlledIPPools.isSome && sameEntries new.2 m) = true
  · obtain ⟨hsome, hsame⟩ := Bool.and_eq_true_iff.1 hequal
    rw [sameEntries_iff] at hsame
    simp only [hequal, if_true, Bool.true_and]
    have hstays : ∀ b : Bool, (((if b then none else some { subnet with status :=
        { subnet.status with totalIPCount := some (total.length : ℤ) } }).getD
          subnet).status.controlledIPPools) = subnet.status.controlledIPPools := by
      rintro (- | -) <;> rfl
    rw [hstays]
    refine iff_of_true (Option.isSome_iff_ne_none.1 hsome) ?_
    -- the stored map is empty, or has an entry that is there after the sync too
    obtain ⟨doc, hdoc⟩ := Option.isSome_iff_exists.1 hsome
    have hread := h.entries
    rw [hdoc] at hread
    cases doc with
    | malformed err => cases hread
    | doc m' =>
      obtain rfl := Except.ok.inj hread
      by_cases hex : ∃ name e, m'.lookup name = some e
      · obtain ⟨name, e, he⟩ := hex
        exact .inr ⟨name, e, (hsame name).trans he⟩
      · have hnil : m' = ∅ := by
          refine AList.ext (List.eq_nil_iff_forall_not_mem.2 fun x hx => hex ⟨x.1, x.2, ?_⟩)
          exact GoMap.mem_entries_iff.1 hx
        exact .inl (hnil ▸ hdoc)
  · rw [Bool.not_eq_true] at hequal
    rw [hequal]
    show marshalSubnetAllocatedIPPools new.2 ≠ none ↔ _
    rw [marshal_ne_none]
    refine ⟨.inr, ?_⟩
    rintro (hdoc | hex)
    · -- the stored map is empty, and what is collected is not the same
      have hread := h.entries
      rw [hdoc] at hread
      obtain rfl := Except.ok.inj hread
      by_contra hnone
      have hsame : sameEntries new.2 ∅ = true := by
        refine sameEntries_iff.2 fun name => ?_
        rw [AList.lookup_empty]
        exact Option.eq_none_iff_forall_ne_some.2 fun e he => hnone ⟨name, e, he⟩
      rw [hdoc, hsame] at hequal
      cases hequal
    · exact hex

/-- **After a sync that has succeeded, a second one writes nothing**, if the subnet, the pools and the
applications are as before, exactly if the first leaves entries. -/
theorem second_sync_iff {written : Option SpiderSubnet} (h : Unchanged env env')
    (hsync : syncControlledIPPoolIPs env subnet = .ok written) :
    syncControlledIPPoolIPs env' (written.getD subnet) = .ok none ↔ KeepsEntries env subnet := by
  obtain ⟨v, m, ipPools, total, auto, new, hsyncs, rfl⟩ := syncControlledIPPoolIPs_ok.1 hsync
  obtain ⟨m', ipPools', auto', new', hsyncs', hsame⟩ := h.syncs hsyncs
  obtain ⟨-, -, htotal⟩ := subnet.synced_spec m total new
  obtain ⟨l, l', hl, -, -, hnames⟩ := h.pools
  obtain rfl := Except.ok.inj (hl.symm.trans hsyncs.listed)
  rw [← hsyncs.stored_iff hnames]
  set subnet' := (subnet.synced m total new).getD subnet with hsubnet'
  have hresult : syncControlledIPPoolIPs env' subnet' = .ok (subnet'.synced m' total new') :=
    syncControlledIPPoolIPs_ok.2 ⟨v, m', ipPools', total, auto', new', hsyncs', rfl⟩
  rw [hresult, Except.ok.injEq, SpiderSubnet.synced, sameEntries_iff.2 hsame, htotal]
  cases subnet'.status.controlledIPPools with
  | none => simp
  | some doc => simp

namespace Sample

def manualPool : IPPool where
  name := "manual"
  labels := (∅ : GoMap String String).insert Constant.labelIPPoolOwnerSpiderSubnet "subnet"
  spec := { ipVersion := some Constant.ipv4, subnet := "10.0.0.0/24", ips := ["10.0.0.1-10.0.0.2"] }

def plainSubnet : SpiderSubnet := subnetOf Constant.ipv4 "10.0.0.0/24" "10.0.0.1-10.0.0.9" "10.0.0.4"

def manualEnv : InformerEnv := { informerEnv with ipPools := .ok [manualPool] }

/-- With a pool that has addresses, the second sync has nothing to write. -/
theorem second_sync_idle : ∃ written,
    syncControlledIPPoolIPs manualEnv plainSubnet = .ok (some written) ∧
    written.status.allocatedIPCount = some 2 ∧
    syncControlledIPPoolIPs manualEnv written = .ok none := by
  have hrun : (syncControlledIPPoolIPs manualEnv plainSubnet).toOption.map
      (·.map fun s => s.status.allocatedIPCount) = some (some (some 2)) := by
    decide +kernel
  obtain ⟨result, hsync, hstatus⟩ := exists_ok_of_map hrun
  obtain ⟨written, rfl, hcount⟩ := Option.map_eq_some_iff.1 hstatus
  have hsame : Unchanged manualEnv manualEnv :=
    ⟨rfl, rfl, rfl, _, _, rfl, rfl, .refl _, by decide⟩
  have haddresses : HasAddresses Constant.ipv4 manualPool :=
    ⟨by decide, [Addr.ofV4 0x0a000001, Addr.ofV4 0x0a000002], by decide +kernel, by simp⟩
  refine ⟨written, hsync, hcount, (second_sync_iff hsame hsync).2 (.inr ?_)⟩
  exact ⟨_, _, rfl, rfl, .inr ⟨manualPool, List.mem_singleton_self _, haddresses⟩⟩

/-- A subnet without pools: the first sync writes the status, and so does the second, and every one
after it, for what it writes is what is there. -/
theorem synced_forever : ∃ written,
    syncControlledIPPoolIPs informerEnv plainSubnet = .ok (some written) ∧
    syncControlledIPPoolIPs informerEnv written = .ok (some written) :=
  ⟨_, rfl, rfl⟩

end Sample
end Spiderpool
