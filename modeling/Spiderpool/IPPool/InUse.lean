/-
# Records and the addresses of the spec

The records of a pool have to stay among the addresses of its spec. The webhook rejects an update
that takes a recorded address away (`validateIPPoolIPInUse`), and `AllocateIP` chooses from the
ranges. But the one lists the addresses with `AssembleTotalIPs`, the other with `FindAvailableIPs`.

Where a range runs backwards, the first fails as a whole, while the second skips that range.
`AllocateIP` then records addresses of the other ranges, with no total addresses that they could be
among (`recorded_unlisted`). And inside `::/96` the first goes on with IPv4 addresses. Where neither
happens, records stay among the total addresses (`keys_in_total`).
-/

import Spiderpool.IPPool.Admission
import Spiderpool.IPPool.WellFormed

namespace Spiderpool

open Versioned

variable {cfg : IPPoolManagerConfig}

/-- Every key of the records is one of the addresses that `AssembleTotalIPs` lists for the
spec of the pool. -/
def KeysInTotal (p : IPPool) : Prop :=
  ∀ k ∈ p.status.records, ∃ v total, p.spec.ipVersion = some v ∧
    assembleTotalIPs v p.spec.ips p.spec.excludeIPs = .ok total ∧ ∃ a ∈ total, k = a.string

/-- `AssembleTotalIPs` accepts the spec, and no range of several addresses starts inside
`::/96`. -/
structure Listable (p : IPPool) : Prop where
  total : ∃ v l, p.spec.ipVersion = some v ∧
    assembleTotalIPs v p.spec.ips p.spec.excludeIPs = .ok l
  low : ∀ r ∈ p.spec.ips, LowRangeSingle r

section

variable {p p' : IPPool} {op : PoolOp} {v v' : Option IPPool} {r : PoolReply}

theorem KeysInTotal.of_subset (h : KeysInTotal p) (hspec : p'.spec = p.spec)
    (hsub : ∀ k ∈ p'.status.records, k ∈ p.status.records) : KeysInTotal p' := by
  intro k hk
  rw [hspec]
  exact h k (hsub k hk)

theorem Listable.mem_total (hp : Listable p) {v : IPVersion} {ex l : List Addr}
    {a : Addr} (hv : p.spec.ipVersion = some v)
    (hex : parseIPRanges v p.spec.excludeIPs = .ok ex)
    (ha : a ∈ findAvailableIPs p.spec.ips (ex ++ l) 1) :
    ∃ total, assembleTotalIPs v p.spec.ips p.spec.excludeIPs = .ok total ∧ a ∈ total := by
  obtain ⟨w, total, hw, htotal⟩ := hp.total
  obtain rfl : v = w := Option.some.inj (hv.symm.trans hw)
  refine ⟨total, htotal, ?_⟩
  obtain ⟨ips, hips, h⟩ := bind_eq_ok.1 htotal
  obtain ⟨ex', hex', h⟩ := bind_eq_ok.1 h
  obtain rfl := Except.ok.inj (hex.symm.trans hex')
  obtain rfl := Except.ok.inj h
  refine List.mem_filter.2 ⟨mem_parseIPRanges_of_find hips hp.low ha, ?_⟩
  have hfree := (mem_findAvailableIPs ha).1
  exact decide_eq_true fun hmem => hfree (List.mem_append_left _ hmem)

theorem genRandomIP_keysInTotal {env : GenEnv} {pod : Pod} {pc : PodTopController}
    {ip : IP} (h : genRandomIP cfg env pod pc p = .ok (ip, p')) (hp : KeysInTotal p)
    (hlist : Listable p) : KeysInTotal p' := by
  obtain ⟨v, m, hv, hm, ⟨rfl, -⟩ | ⟨a, ks, used, ex, res, -, hnew⟩⟩ := genRandomIP_ok h
  · exact hp
  · obtain ⟨total, htotal, ha⟩ := hlist.mem_total hv hnew.excluded hnew.found
    intro k hk
    rw [hnew.result, IPPool.records_setCount, IPPool.records_setRecords] at hk
    rw [hnew.result]
    rcases (AList.mem_insert m).1 hk with rfl | hk
    · exact ⟨v, total, hv, htotal, a, ha, rfl⟩
    · rw [← IPPoolStatus.records_eq hm] at hk
      exact hp k hk

/-- What a write does: it keeps the spec and adds no key to the records, or records an address, or
changes the spec as the webhook admits it. -/
theorem PoolAttempt.write_cases (h : PoolAttempt cfg op v (.write v' r)) (hp' : p' ∈ v') :
    ∃ p ∈ v, (p'.spec = p.spec ∧ ∀ k ∈ p'.status.records, k ∈ p.status.records) ∨
      (∃ nic pod pc env ip, op = .allocateIP nic pod pc ∧
        genRandomIP cfg env pod pc p = .ok (ip, p')) ∨
      ∃ iw order, validateUpdateIPPool iw order p p' = .ok () := by
  cases h with
  | @allocate nic pod pc env p q ip h =>
    obtain rfl := Option.some.inj hp'
    exact ⟨p, rfl, .inr (.inl ⟨nic, pod, pc, env, ip, rfl, h⟩)⟩
  | @release ius p q h =>
    obtain ⟨m, m', n, hm, hloop, rfl⟩ := releaseIP_ok h
    have hsub := releaseLoop_subset ius m (p.status.allocatedIPCount.getD 0) false
    rw [hloop, ← IPPoolStatus.records_eq hm] at hsub
    obtain rfl := Option.some.inj hp'
    refine ⟨p, rfl, .inl ⟨rfl, ?_⟩⟩
    rw [IPPool.records_setCount, IPPool.records_setRecords]
    exact hsub
  | @update nn ius p q h =>
    obtain ⟨m, m', hm, hloop, rfl⟩ := updateAllocatedIPs_ok h
    obtain rfl := Option.some.inj hp'
    refine ⟨p, rfl, .inl ⟨rfl, fun k hk => ?_⟩⟩
    rw [IPPool.records_setRecords] at hk
    rw [IPPoolStatus.records_eq hm]
    exact ((updateLoop_keys hloop).1 k).1 hk
  | @sync p w h =>
    rcases syncHandler_ok h with ⟨-, -, -, rfl⟩ | ⟨total, rfl⟩
    · unfold PoolWrite.stored at hp'
      dsimp only at hp'
      split_ifs at hp'
      · cases hp'
      · obtain rfl := Option.some.inj hp'
        exact ⟨p, rfl, .inl ⟨rfl, fun _ hk => hk⟩⟩
    · obtain rfl := Option.some.inj hp'
      exact ⟨p, rfl, .inl ⟨rfl, fun _ hk => hk⟩⟩
  | @updateSpec request iw order p q hp hd hval =>
    obtain rfl := Option.some.inj hp'
    exact ⟨p, rfl, .inr (.inr ⟨iw, order, hval⟩)⟩
  | @delete now iw p h =>
    unfold deleteIPPool at hp'
    split_ifs at hp'
    · cases hp'
    · obtain rfl := Option.some.inj hp'
      exact ⟨p, rfl, .inl ⟨rfl, fun _ hk => hk⟩⟩

theorem PoolAttempt.keysInTotal
    (h : PoolAttempt cfg op v (.write v' r)) (hv : ∀ p ∈ v, KeysInTotal p)
    (hlist : ∀ nic pod pc, op = .allocateIP nic pod pc → ∀ p ∈ v, Listable p) :
    ∀ p ∈ v', KeysInTotal p := by
  intro p' hp'
  obtain ⟨p, hp, ⟨hspec, hsub⟩ | ⟨nic, pod, pc, env, ip, hop, hgen⟩ | ⟨iw, order, hval⟩⟩ :=
    h.write_cases hp'
  · exact (hv p hp).of_subset hspec hsub
  · exact genRandomIP_keysInTotal hgen (hv p hp) (hlist nic pod pc hop p hp)
  · -- the webhook has compared the stored records with the new spec
    intro k hk
    obtain ⟨-, -, -, huse⟩ := validateUpdateIPPool_ok hval
    obtain ⟨v, total, hv, htotal, hkeys⟩ := validateIPPoolIPInUse_ok huse
    exact ⟨v, total, hv, htotal, hkeys k hk⟩

end

/-! ### Whole runs -/

section

variable {ι : Type*} [DecidableEq ι]

/-- If the event is the commit of an `AllocateIP`, the stored pool is listable. -/
def AllocatesListable (w : PoolWorld ι) (e : Event ι PoolOp PoolReply) : Prop :=
  ∀ i nic pod pc r, e = .commit i (.allocateIP nic pod pc) r → ∀ p ∈ w.val, Listable p

/-- In any interleaving of the calls on a pool in which `AllocateIP` commits only against
listable specs, the keys of the records stay among the total addresses of the spec. -/
theorem keys_in_total {w₀ w : PoolWorld ι} {es : List (Event ι PoolOp PoolReply)}
    (hidle : ∀ i, w₀.phase i = .idle) (hkeys : ∀ p ∈ w₀.val, KeysInTotal p)
    (hrun : Run (fun w e w' => PoolStep cfg w e w' ∧ AllocatesListable w e) w₀ es w) :
    ∀ p ∈ w.val, KeysInTotal p := by
  refine (hrun.inv (fun w => w.Shown ∧ ∀ p ∈ w.val, KeysInTotal p)
    ⟨World.shown_of_idle hidle, hkeys⟩ ?_).2
  rintro w e w' ⟨hshown, hw⟩ ⟨hstep, hlist⟩
  refine ⟨hstep.shown hshown, ?_⟩
  by_cases hcommit : ∃ i op r, e = .commit i op r
  · obtain ⟨i, op, r, rfl⟩ := hcommit
    refine PoolAttempt.keysInTotal (hstep.commit_attempt hshown) hw ?_
    rintro nic pod pc rfl
    exact hlist i nic pod pc r rfl
  · rw [hstep.val_eq fun i op r heq => hcommit ⟨i, op, r, heq⟩]
    exact hw

end

namespace Sample

theorem pool_listable : Listable pool := by
  refine ⟨⟨4, _, rfl, rfl⟩, ?_⟩
  rintro r hr x y hends hlow
  obtain rfl := List.mem_singleton.1 hr
  have hx : some x = some addr := congrArg Prod.fst hends.symm
  obtain rfl := Option.some.inj hx
  exact absurd hlow (by decide)

/-- The record that the first allocation makes in the sample pool is among its addresses. -/
theorem keysInTotal_allocated : ∃ w : PoolWorld ℕ,
    w.val = some (allocated "u1") ∧ KeysInTotal (allocated "u1") := by
  obtain ⟨w₁, w₂, hrun, hval₁, hcommit, hval, -⟩ := World.solo (C := poolCalls config)
    (w := World.init (some pool)) (fun (_ : ℕ) => rfl) 0 (by decide) (allocates "u1")
  have hempty : ∀ p ∈ (World.init (some pool) : PoolWorld ℕ).val, KeysInTotal p := by
    rintro _ ⟨⟩ k hk
    exact absurd hk (AList.notMem_empty k)
  have hrun' : Run (fun w e w' => PoolStep config w e w' ∧ AllocatesListable w e)
      (World.init (some pool)) _ w₁ := hrun.restrict (by simp [AllocatesListable])
  have hlist : ∀ e, AllocatesListable w₁ e := by
    intro e i nic pod pc r _ p hp
    rw [hval₁] at hp
    obtain rfl := Option.some.inj hp
    exact pool_listable
  exact ⟨w₂, hval, keys_in_total (fun _ => rfl) hempty (hrun'.snoc ⟨hcommit, hlist _⟩) _ hval⟩

def reversedRequest : IPPool where
  name := "reversed"
  spec := { subnet := "10.0.0.0/24", ips := ["10.0.0.7", "10.0.0.5-10.0.0.1"] }

def reversedPool : IPPool :=
  { reversedRequest with
    labels := AList.insert Constant.labelIPPoolCIDR "10-0-0-0-24" ∅
    finalizers := [Constant.spiderFinalizer]
    spec := { reversedRequest.spec with ipVersion := some Constant.ipv4 } }

def reversedAllocated : IPPool :=
  (reversedPool.setRecords (AList.insert "10.0.0.7" ⟨"default/web-0", "u1"⟩ ∅)).setCount 1

/-- The webhook admits the creation of a pool with a range that runs backwards; `AllocateIP`
then records an address for which `AssembleTotalIPs` has no list. -/
theorem recorded_unlisted :
    defaultIPPool ({} : Webhook) reversedRequest = .ok reversedPool ∧
    validateCreateIPPool {} reversedPool = .ok () ∧ KeysInTotal reversedPool ∧
    ∃ (es : List (Event ℕ PoolOp PoolReply)) (w : PoolWorld ℕ) (p : IPPool),
      Run (PoolStep config) (World.init (some reversedPool)) es w ∧ w.val = some p ∧
      ¬KeysInTotal p := by
  refine ⟨rfl, rfl, fun k hk => absurd hk (AList.notMem_empty k), ?_⟩
  have hgen : genRandomIP config env (pod "u1") topController reversedPool =
      .ok (some (Addr.ofV4 0x0a000007), reversedAllocated) := rfl
  obtain ⟨w₁, w₂, hrun, -, hcommit, hval, -⟩ := World.solo (C := poolCalls config)
    (w := World.init (some reversedPool)) (fun (_ : ℕ) => rfl) 0 (by decide)
    (.allocate hgen : PoolAttempt config (allocate "u1") _ _)
  refine ⟨_, w₂, _, hrun.snoc hcommit, hval, fun hkeys => ?_⟩
  obtain ⟨v, total, hv, htotal, -⟩ := hkeys "10.0.0.7" (by decide)
  obtain rfl : (4 : IPVersion) = v := Option.some.inj hv
  have hnone : ∃ e, assembleTotalIPs 4 reversedPool.spec.ips [] = .error e := ⟨_, rfl⟩
  obtain ⟨e, he⟩ := hnone
  exact absurd (he.symm.trans htotal) (by simp)

end Sample

end Spiderpool
