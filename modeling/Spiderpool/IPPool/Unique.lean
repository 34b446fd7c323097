/-
# An address is recorded in one pool

`AllocateIP` looks at the records of its own pool, and the webhook at the ranges of the others, not
at their records. An address is still in the records of one pool only (`recorded_once`), for the
records of a pool are of its addresses (`RecordsInTotal`), and those of two pools are apart.
-/

import Spiderpool.IPPool.Gateway

namespace Spiderpool

def RecordsInTotal (p : IPPool) : Prop :=
  ∀ k ∈ p.status.records, ∃ a ∈ p.spec.totalIPs, k = a.string

/-- No range of several addresses starts inside `::/96`. -/
def LowRangesSingle (p : IPPool) : Prop :=
  ∀ r ∈ p.spec.ips ++ p.spec.excludeIPs, LowRangeSingle r

section

variable {cfg : IPPoolManagerConfig} {p p' : IPPool} {op : PoolOp} {r : PoolReply}

theorem GenNew.mem_totalIPs {pod : Pod} {pc : PodTopController} {v : IPVersion}
    {m : PoolIPAllocations} {a : Addr} {ks : List String} {used ex res : List Addr}
    (h : GenNew cfg pod pc p p' v m a ks used ex res) (hlow : LowRangesSingle p) :
    a ∈ p.spec.totalIPs := by
  obtain ⟨hfree, r, hr, x, y, hends, hxa, hay⟩ := mem_findAvailableIPs h.found
  refine ⟨⟨r, hr, x, y, hends, Set.mem_uIcc.2 (.inl ⟨hxa, hay⟩)⟩, ?_⟩
  rintro r' hr' ⟨x', y', hends', hxa', hay'⟩
  obtain ⟨l, hl, hsub⟩ := mem_parseIPRanges h.excluded hr'
  have hmem := mem_of_parseIPRange hl (hlow r' (List.mem_append_right _ hr')) hends' hxa' hay'
  exact hfree (List.mem_append_left _ (hsub hmem))

theorem PoolAttempt.recordsInTotal (h : PoolAttempt cfg op (some p) (.write (some p') r))
    (hp : RecordsInTotal p) (hlow : LowRangesSingle p) (hlow' : LowRangesSingle p') :
    RecordsInTotal p' := by
  obtain ⟨_, ⟨⟩, ⟨hspec, hsub⟩ | ⟨nic, pod, pc, env, ip, -, hgen⟩ | ⟨iw, order, hval⟩⟩ :=
    h.write_cases rfl
  · intro k hk
    rw [hspec]
    exact hp k (hsub k hk)
  · obtain ⟨v, m, -, hm, ⟨rfl, -⟩ | ⟨a, ks, used, ex, res, -, hnew⟩⟩ := genRandomIP_ok hgen
    · exact hp
    · intro k hk
      rw [hnew.result, IPPool.records_setCount, IPPool.records_setRecords] at hk
      rw [hnew.result]
      rcases (AList.mem_insert m).1 hk with rfl | hk
      · exact ⟨a, hnew.mem_totalIPs hlow, rfl⟩
      · exact hp k (IPPoolStatus.records_eq hm ▸ hk)
  · -- the webhook has compared the stored records with the new spec
    intro k hk
    obtain ⟨c, -, hc, -⟩ := (GatewayPassed.of_spec (validateUpdateIPPool_spec hval)).covers
    obtain ⟨-, -, -, huse⟩ := validateUpdateIPPool_ok hval
    obtain ⟨v, total, -, htotal, hkeys⟩ := validateIPPoolIPInUse_ok huse
    obtain ⟨a, ha, rfl⟩ := hkeys k hk
    exact ⟨a, mem_totalSet_of_assemble hc htotal hlow' ha, rfl⟩

theorem PoolAttempt.frame {v : Option IPPool} (h : PoolAttempt cfg op (some p) (.write v r))
    (hop : ∀ request, op ≠ .updateSpec request) :
    ∀ p' ∈ v, p'.name = p.name ∧ p'.labels = p.labels ∧ p'.spec = p.spec := by
  cases h with
  | allocate h =>
    rintro _ ⟨⟩
    obtain ⟨v, m, -, -, ⟨rfl, -⟩ | ⟨a, ks, used, ex, res, -, hnew⟩⟩ := genRandomIP_ok h
    · exact ⟨rfl, rfl, rfl⟩
    · rw [hnew.result]
      exact ⟨rfl, rfl, rfl⟩
  | release h =>
    obtain ⟨m, m', n, -, -, rfl⟩ := releaseIP_ok h
    rintro _ ⟨⟩
    exact ⟨rfl, rfl, rfl⟩
  | update h =>
    obtain ⟨m, m', -, -, rfl⟩ := updateAllocatedIPs_ok h
    rintro _ ⟨⟩
    exact ⟨rfl, rfl, rfl⟩
  | sync h =>
    rcases syncHandler_ok h with ⟨-, -, -, rfl⟩ | ⟨total, rfl⟩
    · unfold PoolWrite.stored
      dsimp only
      split_ifs <;> rintro _ ⟨⟩
      exact ⟨rfl, rfl, rfl⟩
    · rintro _ ⟨⟩
      exact ⟨rfl, rfl, rfl⟩
  | @updateSpec request => exact absurd rfl (hop request)
  | delete h =>
    unfold deleteIPPool
    split_ifs <;> rintro _ ⟨⟩
    exact ⟨rfl, rfl, rfl⟩

end

/-- An admitted request, a removal, or a write that a call makes of the pool it has read: it is
conditional, so that is the stored one. The API server drops the status of a new pool. -/
inductive UseStep (cfg : IPPoolManagerConfig) : List IPPool → ClusterEvent → List IPPool → Prop
  | request {pools pools' : List IPPool} {e : ClusterEvent} (h : ClusterStep pools e pools')
      (hwrite : ∀ p, e ≠ .write p) (hnew : ∀ p, e = .create p → p.status = {}) :
      UseStep cfg pools e pools'
  | call {pools : List IPPool} {op : PoolOp} {old p : IPPool} {r : PoolReply} (hold : old ∈ pools)
      (hop : ∀ request, op ≠ .updateSpec request)
      (h : PoolAttempt cfg op (some old) (.write (some p) r)) :
      UseStep cfg pools (.write p) (replacePool p pools)

section

variable {cfg : IPPoolManagerConfig} {pools pools' : List IPPool} {e : ClusterEvent}

theorem UseStep.clusterStep (h : UseStep cfg pools e pools') : ClusterStep pools e pools' := by
  cases h with
  | request h => exact h
  | call hold hop h =>
    obtain ⟨hname, hlabels, hspec⟩ := h.frame hop _ rfl
    exact .write hold hname hlabels hspec

theorem UseStep.recordsInTotal (h : UseStep cfg pools e pools')
    (hp : ∀ p ∈ pools, LowRangesSingle p ∧ RecordsInTotal p)
    (hlow : ∀ p ∈ pools', LowRangesSingle p) : ∀ p ∈ pools', RecordsInTotal p := by
  intro x hx
  cases h with
  | call hold hop h =>
    rcases mem_replacePool hx with rfl | ⟨hx', -⟩
    · exact h.recordsInTotal (hp _ hold).2 (hp _ hold).1 (hlow x hx)
    · exact (hp x hx').2
  | request h hwrite hnew =>
    cases h with
    | create hlist hname hlive hd hv =>
      rcases List.mem_cons.1 hx with rfl | hx
      · have hempty : x.status = {} := by
          rw [(defaultIPPool_ok hd hlive).1.status, ← hnew _ rfl]
          unfold addFinalizer
          split_ifs <;> rfl
        intro k hk
        rw [hempty] at hk
        exact absurd hk (AList.notMem_empty k)
      · exact (hp x hx).2
    | update hlist hold hlive hd hv =>
      rcases mem_replacePool hx with rfl | ⟨hx', -⟩
      · have h : PoolAttempt cfg _ _ _ := .updateSpec hlive hd hv
        exact h.recordsInTotal (hp _ hold).2 (hp _ hold).1 (hlow x hx)
      · exact (hp x hx').2
    | write => exact absurd rfl (hwrite _)
    | remove name => exact (hp x (List.mem_filter.1 hx).1).2

/-- **An address is recorded in one pool.**  After any sequence of admitted requests, calls on the
pools and removals, no address is in the records of two pools of one version. -/
theorem recorded_once {es : List ClusterEvent}
    (h : Run (fun pools e pools' => UseStep cfg pools e pools' ∧ ∀ p ∈ pools', LowRangesSingle p)
      [] es pools) :
    ∀ p ∈ pools, ∀ q ∈ pools, p.spec.ipVersion = q.spec.ipVersion →
      ∀ k ∈ p.status.records, k ∈ q.status.records → p.name = q.name := by
  obtain ⟨hinv, hrecords⟩ := h.inv
    (fun pools => ClusterInv pools ∧ ∀ p ∈ pools, LowRangesSingle p ∧ RecordsInTotal p)
    ⟨⟨by simp, by simp⟩, by simp⟩ fun pools e pools' ⟨hinv, hp⟩ ⟨hstep, hlow⟩ =>
      ⟨hstep.clusterStep.inv hinv, fun p hmem =>
        ⟨hlow p hmem, hstep.recordsInTotal hp hlow p hmem⟩⟩
  intro p hp q hq hv k hkp hkq
  by_contra hne
  obtain ⟨a, ha, rfl⟩ := (hrecords p hp).2 k hkp
  obtain ⟨b, hb, hab⟩ := (hrecords q hq).2 _ hkq
  obtain rfl := Addr.string_injective hab
  exact Set.disjoint_left.1 (hinv.apart p hp q hq hne hv).2 ha hb

end

namespace Sample

def recorded : IPPool :=
  ((mutated pool).setRecords (AList.insert "10.0.0.1" ⟨"default/web-0", "u1"⟩ ∅)).setCount 1

theorem lowRangesSingle {p : IPPool} {s : String} {a : Addr}
    (h : p.spec.ips ++ p.spec.excludeIPs = [s]) (ha : (rangeEnds s).1 = some a)
    (hlow : 2 ^ 32 ≤ a.val) : LowRangesSingle p := by
  intro r hr x y hends hx
  rw [h] at hr
  obtain rfl := List.mem_singleton.1 hr
  rw [hends] at ha
  obtain rfl := Option.some.inj ha
  omega

/-- Two pools are created, and a Pod gets an address of the first. -/
theorem recorded_in_one : "10.0.0.1" ∈ recorded.status.records ∧
    "10.0.0.1" ∉ (mutated nextRequest).status.records := by
  have hfirst : ClusterStep [] (.create pool) [mutated pool] :=
    .create (show ({} : Webhook).ipPools = .ok [] from rfl) (by simp) rfl rfl rfl
  have hsecond : ClusterStep [mutated pool] (.create nextRequest)
      [mutated nextRequest, mutated pool] :=
    .create (show ({ ipPools := .ok [mutated pool] } : Webhook).ipPools = _ from rfl) (by decide)
      rfl rfl rfl
  have hgen : genRandomIP config env (pod "u1") topController (mutated pool) =
      .ok (some addr, recorded) := rfl
  have hcall : UseStep config [mutated nextRequest, mutated pool] (.write recorded)
      [mutated nextRequest, recorded] :=
    .call (by simp) (by simp) (.allocate hgen : PoolAttempt _ (allocate "u1") _ _)
  have hpool : LowRangesSingle (mutated pool) := lowRangesSingle rfl rfl (by decide)
  have hnext : LowRangesSingle (mutated nextRequest) := lowRangesSingle rfl rfl (by decide)
  have hlow : LowRangesSingle recorded := hpool
  have hrun : Run (fun pools e pools' => UseStep config pools e pools' ∧
      ∀ p ∈ pools', LowRangesSingle p) [] _ [mutated nextRequest, recorded] :=
    .cons ⟨.request hfirst (by simp) (by simp [pool]), by simpa⟩
      (.cons ⟨.request hsecond (by simp) (by simp [nextRequest]), by simp [hpool, hnext]⟩
        (.single ⟨hcall, by simp [hlow, hnext]⟩))
  have hmem : "10.0.0.1" ∈ recorded.status.records := by decide
  refine ⟨hmem, fun hk => ?_⟩
  have hname := recorded_once hrun recorded (by simp) (mutated nextRequest) (by simp) rfl _ hmem hk
  exact absurd hname (by decide)

end Sample

end Spiderpool
