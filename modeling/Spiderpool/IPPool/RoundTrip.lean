/-
# An allocation and its release

An address is recorded in its pool under the text `IP.String` writes, goes to the endpoint as
the text of a network with the mask of the pool, and is released under what stands before the
slash there. The two are the same text, and so a release of what was allocated gives the
records back as they were (`release_restores`).

The masked text is no address at all where the mask has four bytes and the address is not
IPv4. That the ranges of a stored pool lie in its subnet (`Admitted`) rules this out.
-/

import Spiderpool.Endpoint.Convert
import Spiderpool.IPPool.Disjoint
import Spiderpool.IPPool.Records

namespace Spiderpool

section

variable {cfg : IPPoolManagerConfig} {env : GenEnv} {pod : Pod} {pc : PodTopController}
  {p p' : IPPool} {v : IPVersion} {nic : String}

theorem Admitted.is4_of_range (h : Admitted p v) {b : Addr} {k : ℕ}
    (hbase : netParseCIDR p.spec.subnet = some (b, ⟨some b, k, if b.is4 then 32 else 128⟩))
    (h4 : b.is4 = true) {a : Addr} {r : String} (hr : r ∈ p.spec.ips) (ha : a ∈ rangeSet r) :
    a.is4 = true := by
  obtain ⟨c, hc⟩ := h.ranges
  obtain ⟨x, y, hends, hx, hy⟩ := newCIDR_ends hc hbase hr
  obtain ⟨x', y', hends', hbetween⟩ := ha
  obtain ⟨h1, h2⟩ := Prod.mk.inj (hends.symm.trans hends')
  obtain rfl := Option.some.inj h1
  obtain rfl := Option.some.inj h2
  exact hx.is4_between hy (Set.mem_uIcc.2 (.inl hbetween)) h4

theorem Admitted.address_eq (h : Admitted p v) {a : Addr} {r : String} (hr : r ∈ p.spec.ips)
    (ha : a ∈ rangeSet r) {config : IPConfig}
    (hconfig : genIPConfigResult cfg (some a) nic p = .ok config) :
    config.ipPool = p.name ∧ config.version = v ∧
      (split config.address '/').head (split_ne_nil _ _) = a.string := by
  obtain ⟨b, k, -, hbase⟩ := isFormatCIDR_ok h.formatted
  rw [genIPConfigResult, h.ipVersion] at hconfig
  simp only [deref, bind, Except.bind] at hconfig
  cases hparse : parseIPOf v p.spec.subnet true with
  | error e => simp [hparse] at hconfig
  | ok ipNet =>
    simp only [hparse] at hconfig
    obtain rfl := Except.ok.inj hconfig
    obtain ⟨-, hnet⟩ := seq_eq_ok.1 hparse
    rw [hbase] at hnet
    obtain rfl := Except.ok.inj hnet
    refine ⟨rfl, rfl, ?_⟩
    refine IPNet.head_split_string rfl ?_
    by_cases hb4 : b.is4 = true
    · exact .inl (h.is4_of_range hbase hb4 hr ha)
    · exact .inr (if_neg hb4)

theorem convertResultsToIPDetails_one (o : RangeOrder String IPAllocationDetail)
    (r : AllocationResult) (isMultipleNicWithNoName : Bool) :
    ∃ nic, convertResultsToIPDetails o [r] isMultipleNicWithNoName =
      [{ addResult none r with nic := nic }] := by
  have hentries : (GoMap.collect (fun r => r.ip.nic) addResult [r]).entries =
      [⟨r.ip.nic, addResult none r⟩] := rfl
  have hvisit : o.visit (GoMap.collect (fun r => r.ip.nic) addResult [r]) =
      [⟨r.ip.nic, addResult none r⟩] :=
    List.perm_singleton.1 (hentries ▸ o.perm _)
  rw [convertResultsToIPDetails, hvisit]
  cases isMultipleNicWithNoName with
  | false => exact ⟨(addResult none r).nic, rfl⟩
  | true => exact ⟨Constant.clusterDefaultInterfaceName, rfl⟩

theorem groupIPAllocationDetails_one (uid nic : String) (r : AllocationResult) :
    groupIPAllocationDetails uid [{ addResult none r with nic := nic }] =
      .ok (AList.singleton r.ip.ipPool
        [⟨(split r.ip.address '/').head (split_ne_nil _ _), uid⟩]) := by
  by_cases hv : r.ip.version = Constant.ipv4
  · simp only [addResult, setFamily, if_pos hv]
    rfl
  · simp only [addResult, setFamily, if_neg hv]
    rfl

theorem releaseIP_record {m : PoolIPAllocations} {k : String} (hk : k ∉ m) (namespacedName : String)
    (uid : String) (n : ℤ) :
    releaseIP [⟨k, uid⟩] ((p.setRecords (m.insert k ⟨namespacedName, uid⟩)).setCount n) =
      .ok (some ((p.setRecords m).setCount (GoMap.len m))) := by
  have hloop : ∀ n, releaseLoop [⟨k, uid⟩] (m.insert k ⟨namespacedName, uid⟩) n false =
      (m, (GoMap.len m : ℤ), true) := by
    intro n
    rw [releaseLoop, AList.lookup_insert]
    simp only [if_true, GoMap.erase_insert_of_notMem _ hk]
    rfl
  have hrecords := unmarshal_marshal (m.insert k ⟨namespacedName, uid⟩)
  simp only [releaseIP, IPPool.setRecords, IPPool.setCount, hrecords, bind, Except.bind, hloop]
  rfl

theorem GenNew.string_notMem {m : PoolIPAllocations} {a : Addr} {ks : List String}
    {used ex res : List Addr} (h : GenNew cfg pod pc p p' v m a ks used ex res) : a.string ∉ m := by
  intro ha
  obtain ⟨l, hl, hsub⟩ := mem_parseIPRanges h.used (h.keys.mem_iff.2 (AList.mem_keys.1 ha))
  obtain rfl := parseIPRange_string hl
  have hused : a ∈ used := hsub (by simp)
  exact (mem_findAvailableIPs h.found).1 (by simp [hused])

/-- An allocated address, put into the details of an endpoint and grouped by its pool, is
released under the key it was recorded with: the records are what they were before. -/
theorem release_restores (h : Admitted p v)
    (hother : ∀ k r, p.status.records.lookup k = some r → r.podUID ≠ pod.uid) {config : IPConfig}
    (halloc : allocateIP cfg env nic pod pc p = (.ok config, p'))
    (o : RangeOrder String IPAllocationDetail) (isMultipleNicWithNoName : Bool)
    (vlan : ℤ) (mac : String) (routes : List OAIRoute) (cleanGateway : Bool) :
    ∃ ius p'', groupIPAllocationDetails pod.uid (convertResultsToIPDetails o
        [⟨{ config with vlan := vlan, mac := mac }, routes, cleanGateway⟩]
        isMultipleNicWithNoName) = .ok (AList.singleton p.name ius) ∧
      releaseIP ius p' = .ok (some p'') ∧ p''.status.records = p.status.records ∧
      p''.status.allocatedIPCount = some (GoMap.len p''.status.records : ℤ) ∧
      p'' = { p with status := { p.status with
        allocatedIPs := p''.status.allocatedIPs
        allocatedIPCount := p''.status.allocatedIPCount } } := by
  rw [allocateIP] at halloc
  cases hgen : genRandomIP cfg env pod pc p with
  | error e => simp [hgen] at halloc
  | ok r =>
    obtain ⟨ip, p₁⟩ := r
    rw [hgen] at halloc
    obtain ⟨hconfig, rfl⟩ := Prod.mk.inj halloc
    obtain ⟨w, m, hw, hm, ⟨-, k, rec, hk, huid, -⟩ | ⟨a, ks, used, ex, res, rfl, hnew⟩⟩ :=
      genRandomIP_ok hgen
    · rw [← IPPoolStatus.records_eq hm] at hk
      exact absurd huid (hother k rec hk)
    · obtain ⟨-, r, hr, x, y, hends, hxa, hay⟩ := mem_findAvailableIPs hnew.found
      have hresult := hnew.result
      subst hresult
      -- the result reads the spec and the name of the pool alone
      have hconfig : genIPConfigResult cfg (some a) nic p = .ok config := hconfig
      obtain ⟨hpool, -, haddress⟩ := h.address_eq hr ⟨x, y, hends, hxa, hay⟩ hconfig
      obtain ⟨nic', hdetails⟩ := convertResultsToIPDetails_one o
        ⟨{ config with vlan := vlan, mac := mac }, routes, cleanGateway⟩ isMultipleNicWithNoName
      rw [hdetails, groupIPAllocationDetails_one]
      simp only [hpool, haddress]
      refine ⟨_, _, rfl, releaseIP_record hnew.string_notMem _ _ _, ?_, ?_, rfl⟩
      · rw [IPPool.records_setCount, IPPool.records_setRecords, IPPoolStatus.records_eq hm]
      · rw [IPPool.records_setCount, IPPool.records_setRecords]
        rfl

end

namespace Sample

theorem admitted_pool : Admitted (mutated pool) Constant.ipv4 := by
  have hrun : Run ClusterStep [] [.create pool] [mutated pool] :=
    .single (.create (show ({} : Webhook).ipPools = .ok [] from rfl) (by simp) rfl rfl rfl)
  obtain ⟨v, hv⟩ := (ClusterInv.of_run hrun).admitted _ List.mem_cons_self
  obtain rfl : v = Constant.ipv4 := (Option.some.inj hv.ipVersion).symm
  exact hv

/-- A Pod is allocated an address, and the address is released. -/
theorem pool_restored : ∃ config' p' ius p'',
    allocateIP config env "eth0" (pod "u1") topController (mutated pool) = (.ok config', p') ∧
    groupIPAllocationDetails "u1" (convertResultsToIPDetails (.stored _ _)
      [⟨{ config' with vlan := 0, mac := "" }, [], false⟩] false) =
        .ok (AList.singleton "sample" ius) ∧
    releaseIP ius p' = .ok (some p'') ∧ p''.status.records = ∅ := by
  obtain ⟨config', p', halloc⟩ : ∃ config' p',
      allocateIP config env "eth0" (pod "u1") topController (mutated pool) = (.ok config', p') :=
    ⟨_, _, rfl⟩
  obtain ⟨ius, p'', hgroup, hrelease, hrecords, -⟩ := release_restores admitted_pool
    (fun k r hk => by cases hk) halloc (.stored _ _) false 0 "" [] false
  exact ⟨config', p', ius, p'', halloc, hgroup, hrelease, hrecords⟩

end Sample

end Spiderpool
