/-
# The counter and the finalizer of a pool

`status.allocatedIPCount` is set by three writers, each from an expression of its own:
`AllocateIP` from the number of addresses it has read from the keys, `ReleaseIP` from what is
left in the map, and the informer to zero if it is not set. All of them keep it the number of records (`Counted`), the
informer because a pool without a counter has no records.

And the informer takes the finalizer from a terminating pool when its copy has no
`status.allocatedIPs`. The copy may be stale, but then the write does not commit
(`finalizer_removed`), so a pool with records does not disappear.
-/

import Spiderpool.IPPool.WellFormed

namespace Spiderpool

open Versioned

variable {cfg : IPPoolManagerConfig}

/-! ### The counter -/

/-- The status is that of some records: nil for none, and counted, if there is a counter. -/
structure CountedAs (cfg : IPPoolManagerConfig) (st : IPPoolStatus) (m : PoolIPAllocations) :
    Prop where
  records : st.allocatedIPs = marshalIPPoolAllocatedIPs m
  canonical : Canonical m
  len_le : GoMap.len m ≤ cfg.maxAllocatedIPs
  count : st.allocatedIPCount = some (GoMap.len m : ℤ) ∨ st.allocatedIPCount = none ∧ m = ∅

def Counted (cfg : IPPoolManagerConfig) (p : IPPool) : Prop := ∃ m, CountedAs cfg p.status m

theorem CountedAs.unmarshal {st : IPPoolStatus} {m m' : PoolIPAllocations} (h : CountedAs cfg st m)
    (hm' : unmarshalIPPoolAllocatedIPs st.allocatedIPs = .ok m') : m' = m := by
  rw [h.records, unmarshal_marshal] at hm'
  exact (Except.ok.inj hm').symm

section

variable {p p' : IPPool} {ius : List IPAndUID}

theorem Counted.spec (h : Counted cfg p) : (∀ n, p.status.allocatedIPCount = some n →
      n = GoMap.len p.status.records ∧ n ≤ cfg.maxAllocatedIPs) ∧
      (p.status.allocatedIPs = none ↔ p.status.records = ∅) := by
  obtain ⟨m, hm⟩ := h
  rw [IPPoolStatus.records_of_marshal hm.records, hm.records]
  refine ⟨fun n hn => ?_, marshal_eq_none⟩
  rcases hm.count with hcount | ⟨hcount, -⟩
  · obtain rfl := Option.some.inj (hcount.symm.trans hn)
    exact ⟨rfl, by exact_mod_cast hm.len_le⟩
  · simp [hcount] at hn

theorem counted_of_empty (hips : p.status.allocatedIPs = none)
    (hcount : p.status.allocatedIPCount = none) : Counted cfg p :=
  ⟨∅, by rw [hips]; rfl, canonical_empty, Nat.zero_le _, .inr ⟨hcount, rfl⟩⟩

theorem genRandomIP_counted {env : GenEnv} {pod : Pod} {pc : PodTopController}
    {ip : IP} (h : genRandomIP cfg env pod pc p = .ok (ip, p')) (hp : Counted cfg p) :
    Counted cfg p' := by
  obtain ⟨m, hm⟩ := hp
  obtain ⟨v, m', -, hm', ⟨rfl, -⟩ | ⟨a, ks, used, ex, res, -, hnew⟩⟩ := genRandomIP_ok h
  · exact ⟨m, hm⟩
  · obtain rfl := hm.unmarshal hm'
    obtain ⟨hfree, hused⟩ := hnew.notMem hm.canonical
    have hlen := GoMap.len_insert_of_notMem ⟨podKey cfg pod pc, pod.uid⟩ hfree
    have hmax := hnew.count
    rw [hnew.result]
    refine ⟨_, rfl, hm.canonical.insert a _, ?_, .inl ?_⟩
    · omega
    · show some ((used.length : ℤ) + 1) = _
      rw [hlen, hused]
      norm_cast

theorem releaseIP_counted
    (h : releaseIP ius p = .ok (some p')) (hp : Counted cfg p) : Counted cfg p' := by
  obtain ⟨m, hm⟩ := hp
  obtain ⟨m', m'', n, hm', hloop, rfl⟩ := releaseIP_ok h
  obtain rfl := hm.unmarshal hm'
  have hsub := releaseLoop_subset ius m' (p.status.allocatedIPCount.getD 0) false
  have hlen := releaseLoop_len_le ius m' (p.status.allocatedIPCount.getD 0) false
  have hcount := releaseLoop_count ius m' (p.status.allocatedIPCount.getD 0) false (by simp)
  rw [hloop] at hsub hlen hcount
  refine ⟨m'', rfl, hm.canonical.of_subset hsub, hlen.trans hm.len_le, .inl ?_⟩
  exact congrArg some (hcount rfl)

theorem updateAllocatedIPs_counted {nn : String}
    (h : updateAllocatedIPs nn ius p = .ok (some p')) (hp : Counted cfg p) : Counted cfg p' := by
  obtain ⟨m, hm⟩ := hp
  obtain ⟨m', m'', hm', hloop, rfl⟩ := updateAllocatedIPs_ok h
  obtain rfl := hm.unmarshal hm'
  obtain ⟨hkeys, hlen⟩ := updateLoop_keys hloop
  have hempty : m' = ∅ → m'' = ∅ := by
    rintro rfl
    exact AList.ext (GoMap.len_eq_zero.1 hlen)
  refine ⟨m'', rfl, hm.canonical.of_subset fun k hk => (hkeys k).1 hk, hlen ▸ hm.len_le, ?_⟩
  rcases hm.count with hcount | ⟨hcount, hm'⟩
  · exact .inl (hcount.trans (by rw [hlen]))
  · exact .inr ⟨hcount, hempty hm'⟩

theorem syncHandler_counted {w : PoolWrite} (h : syncHandler p = .ok (some w))
    (hw : w.stored = some p') (hp : Counted cfg p) : Counted cfg p' := by
  obtain ⟨m, hm⟩ := hp
  rcases syncHandler_ok h with ⟨-, -, -, rfl⟩ | ⟨total, rfl⟩
  · unfold PoolWrite.stored at hw
    dsimp only at hw
    split_ifs at hw
    obtain rfl := Option.some.inj hw
    exact ⟨m, hm⟩
  · obtain rfl := Option.some.inj hw
    refine ⟨m, hm.records, hm.canonical, hm.len_le, .inl ?_⟩
    rcases hm.count with hcount | ⟨hcount, rfl⟩
    · simp [hcount]
    · rw [hcount]
      rfl

end

theorem PoolAttempt.counted {op : PoolOp} {v v' : Option IPPool} {r : PoolReply}
    (h : PoolAttempt cfg op v (.write v' r)) (hv : ∀ p ∈ v, Counted cfg p) :
    ∀ p ∈ v', Counted cfg p := by
  cases h with
  | allocate h => simpa using genRandomIP_counted h (hv _ rfl)
  | release h => simpa using releaseIP_counted h (hv _ rfl)
  | update h => simpa using updateAllocatedIPs_counted h (hv _ rfl)
  | sync h => exact fun p' hw => syncHandler_counted h hw (hv _ rfl)
  | updateSpec hp hd hval =>
    obtain ⟨m, hm⟩ := hv _ rfl
    simpa [Counted, updateSpec_status hd hp] using ⟨m, hm⟩
  | @delete now iw p h =>
    intro p' hp'
    unfold deleteIPPool at hp'
    split_ifs at hp'
    · cases hp'
    · obtain rfl := Option.some.inj hp'
      exact hv p rfl

/-- In every state that is reached from a pool without records and without a counter, by any
interleaving of the calls, the counter is the number of records if it is set, and
`status.allocatedIPs` is nil exactly when there is no record. -/
theorem allocatedIPCount_eq_records {ι : Type*} [DecidableEq ι] {w₀ w : PoolWorld ι} {p₀ : IPPool}
    {es : List (Event ι PoolOp PoolReply)} (hidle : ∀ i, w₀.phase i = .idle)
    (hp₀ : w₀.val = some p₀) (hips : p₀.status.allocatedIPs = none)
    (hcount : p₀.status.allocatedIPCount = none) (hrun : Run (PoolStep cfg) w₀ es w) :
    ∀ p ∈ w.val,
      (∀ n, p.status.allocatedIPCount = some n →
        n = GoMap.len p.status.records ∧ n ≤ cfg.maxAllocatedIPs) ∧
      (p.status.allocatedIPs = none ↔ p.status.records = ∅) := by
  have hinit : ∀ p ∈ w₀.val, Counted cfg p := by
    rw [hp₀]
    simpa using counted_of_empty hips hcount
  have hinv := World.run_inv (fun v => ∀ p ∈ v, Counted cfg p)
    (fun op v v' r hv ha => PoolAttempt.counted ha hv) hrun (World.shown_of_idle hidle) hinit
  exact fun p hp => (hinv.2 p hp).spec

namespace Sample

/-- After a Pod got the first address of the sample pool, the counter is one. -/
theorem count_allocated : ∃ (w : PoolWorld ℕ) (p : IPPool), w.val = some p ∧
    p.status.allocatedIPCount = some 1 ∧ (1 : ℤ) = GoMap.len p.status.records := by
  obtain ⟨w₁, w₂, hrun, -, hcommit, hval, -⟩ := World.solo (C := poolCalls config)
    (w := World.init (some pool)) (fun (_ : ℕ) => rfl) 0 (by decide) (allocates "u1")
  have hinv := allocatedIPCount_eq_records (fun _ => rfl) rfl rfl rfl (hrun.snoc hcommit)
  exact ⟨w₂, allocated "u1", hval, rfl, ((hinv _ hval).1 1 rfl).1⟩

end Sample

/-! ### The finalizer -/

theorem PoolAttempt.finalizer {op : PoolOp} {p : IPPool} {v' : Option IPPool} {r : PoolReply}
    (h : PoolAttempt cfg op (some p) (.write v' r)) (hfin : Constant.spiderFinalizer ∈ p.finalizers)
    (hno : ∀ p' ∈ v', Constant.spiderFinalizer ∉ p'.finalizers) : p.status.allocatedIPs = none := by
  cases h with
  | allocate h =>
    have hno' := hno _ rfl
    rw [genRandomIP_frame h] at hno'
    exact (hno' hfin).elim
  | release h =>
    obtain ⟨m, m', n, -, -, rfl⟩ := releaseIP_ok h
    have hno' := hno _ rfl
    exact (hno' hfin).elim
  | update h =>
    obtain ⟨m, m', -, -, rfl⟩ := updateAllocatedIPs_ok h
    have hno' := hno _ rfl
    exact (hno' hfin).elim
  | sync h =>
    rcases syncHandler_ok h with ⟨-, hnone, -, -⟩ | ⟨total, rfl⟩
    · exact hnone
    · have hno' := hno _ rfl
      exact (hno' hfin).elim
  | updateSpec hp hd hval => exact absurd (defaultIPPool_ok hd hp).2.1 (hno _ rfl)
  | @delete now iw p h =>
    -- the request only marks a pool that has a finalizer
    have hdel : deleteIPPool now p = some { p with
        deletionTimestamp := some (p.deletionTimestamp.getD now) } :=
      if_neg (List.ne_nil_of_mem hfin)
    have hno' := hno _ hdel
    exact (hno' hfin).elim

theorem PoolAttempt.disappears {op : PoolOp} {p : IPPool} {r : PoolReply}
    (h : PoolAttempt cfg op (some p) (.write none r)) (hp : Guarded p) :
    p.status.allocatedIPs = none := by
  generalize hv' : (none : Option IPPool) = v' at h
  cases h with
  | sync h =>
    rcases syncHandler_stored h with ⟨p', hw, -⟩ | ⟨-, hnone⟩
    · simp [hw] at hv'
    · exact hnone
  | @delete now =>
    obtain ⟨p', hw, -⟩ := deleteIPPool_stored now hp
    simp [hw] at hv'
  | _ => cases hv'

/-- In any interleaving of the calls on a pool, also with the informer acting on stale copies,
the write that takes the finalizer from a pool commits only while the stored pool has no
`status.allocatedIPs`, and so does the one with which the pool disappears. -/
theorem finalizer_removed {ι : Type*} [DecidableEq ι] {w₀ w w' : PoolWorld ι} {p₀ p : IPPool}
    {es : List (Event ι PoolOp PoolReply)} {e : Event ι PoolOp PoolReply}
    (hidle : ∀ i, w₀.phase i = .idle) (hp₀ : w₀.val = some p₀)
    (hfin₀ : Constant.spiderFinalizer ∈ p₀.finalizers) (hrun : Run (PoolStep cfg) w₀ es w)
    (hp : w.val = some p) (hstep : PoolStep cfg w e w') :
    (Constant.spiderFinalizer ∈ p.finalizers →
      (∀ p' ∈ w'.val, Constant.spiderFinalizer ∉ p'.finalizers) → p.status.allocatedIPs = none) ∧
    (w'.val = none → p.status.allocatedIPs = none) := by
  have hinit : ∀ p ∈ w₀.val, Guarded p := by
    rw [hp₀]
    simpa using .inl hfin₀
  obtain ⟨hshown, hguard⟩ := World.run_inv (fun v => ∀ p ∈ v, Guarded p)
    (fun op v v' r hv ha => PoolAttempt.guarded ha hv) hrun (World.shown_of_idle hidle) hinit
  by_cases hcommit : ∃ i op r, e = .commit i op r
  · obtain ⟨i, op, r, rfl⟩ := hcommit
    have hatt : PoolAttempt cfg op w.val (.write w'.val r) := hstep.commit_attempt hshown
    rw [hp] at hatt
    refine ⟨hatt.finalizer, fun hgone => ?_⟩
    rw [hgone] at hatt
    exact hatt.disappears (hguard p hp)
  · have hval := hstep.val_eq fun i op r heq => hcommit ⟨i, op, r, heq⟩
    rw [hval, hp]
    exact ⟨fun hfin hno => absurd hfin (hno p rfl), by simp⟩

namespace Sample

def terminating : IPPool := { pool with deletionTimestamp := some 0 }

/-- A pool without records is removed by a delete request and the informer. -/
theorem pool_disappears : ∃ w w' : PoolWorld ℕ,
    w.val = some terminating ∧ PoolStep config w (.commit 0 .syncHandler .ok) w' ∧
    w'.val = none ∧ terminating.status.allocatedIPs = none := by
  have hdelete : PoolAttempt config (.delete 0) (some pool) (.write (some terminating) .ok) :=
    .delete (show validateDelete {} pool = .ok () from rfl)
  have hsync : PoolAttempt config .syncHandler (some terminating) (.write none .ok) :=
    .sync (w := .object { terminating with finalizers := [] }) rfl
  obtain ⟨w₁, w₂, hrun, -, hcommit, hval, hidle⟩ := World.solo (C := poolCalls config)
    (w := World.init (some pool)) (fun (_ : ℕ) => rfl) 0 (by decide) hdelete
  rw [← hval] at hsync
  obtain ⟨w₃, w₄, hrun', hval', hcommit', hgone, -⟩ := World.solo (C := poolCalls config)
    hidle 0 (by decide) hsync
  have hinv := finalizer_removed (fun _ => rfl) rfl List.mem_cons_self
    ((hrun.snoc hcommit).append hrun') (hval'.trans hval) hcommit'
  exact ⟨w₃, w₄, hval'.trans hval, hcommit', hgone, hinv.2 hgone⟩

end Sample

end Spiderpool
