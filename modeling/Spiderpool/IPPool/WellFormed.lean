/-
# What every write keeps

Two facts about the pools in the API server (`WellFormed`): the keys of the records are the
texts `IP.String` writes, and the object cannot disappear under its records.
-/

import Spiderpool.IPPool.MutFrame
import Spiderpool.IPPool.Records
import Spiderpool.IPPool.System

namespace Spiderpool

open Versioned

/-- The pool has the finalizer, or another one keeps it while it is terminating. -/
def Guarded (p : IPPool) : Prop :=
  Constant.spiderFinalizer ∈ p.finalizers ∨ p.deletionTimestamp.isSome ∧ p.finalizers ≠ []

structure WellFormed (p : IPPool) : Prop where
  canonical : Canonical p.status.records
  guarded : Guarded p

variable {cfg : IPPoolManagerConfig}

theorem Canonical.of_subset {m m' : PoolIPAllocations} (h : Canonical m) (hsub : ∀ k ∈ m', k ∈ m) :
    Canonical m' :=
  fun k hk => h k (hsub k hk)

theorem releaseLoop_subset (ius : List IPAndUID) (m : PoolIPAllocations) (n : ℤ) (release : Bool) :
    ∀ k ∈ (releaseLoop ius m n release).1, k ∈ m := by
  induction ius generalizing m n release with
  | nil => exact fun _ h => h
  | cons iu ius ih =>
    rcases releaseLoop_cons iu ius m n release with h | ⟨-, h⟩
    · rw [h]
      exact ih m n release
    · rw [h]
      exact fun k hk => (AList.mem_erase.1 (ih _ _ _ k hk)).2

section

variable {env : GenEnv} {pod : Pod} {pc : PodTopController} {p p' : IPPool} {ip : IP}
  {ius : List IPAndUID} {op : PoolOp} {v v' : Option IPPool} {r : PoolReply}

theorem genRandomIP_frame (h : genRandomIP cfg env pod pc p = .ok (ip, p')) :
    p' = { p with status := p'.status } := by
  obtain ⟨v, m, -, -, ⟨rfl, -⟩ | ⟨a, ks, used, ex, res, -, hnew⟩⟩ := genRandomIP_ok h
  · rfl
  · rw [hnew.result]
    rfl

theorem genRandomIP_canonical (h : genRandomIP cfg env pod pc p = .ok (ip, p'))
    (hp : Canonical p.status.records) :
    Canonical p'.status.records := by
  obtain ⟨v, m, -, hm, ⟨rfl, -⟩ | ⟨a, ks, used, ex, res, -, hnew⟩⟩ := genRandomIP_ok h
  · exact hp
  · rw [IPPoolStatus.records_eq hm] at hp
    rw [hnew.result, IPPool.records_setCount, IPPool.records_setRecords]
    exact hp.insert a _

theorem releaseIP_canonical
    (h : releaseIP ius p = .ok (some p')) (hp : Canonical p.status.records) :
    Canonical p'.status.records := by
  obtain ⟨m, m', n, hm, hloop, rfl⟩ := releaseIP_ok h
  rw [IPPoolStatus.records_eq hm] at hp
  rw [IPPool.records_setCount, IPPool.records_setRecords]
  have hsub := releaseLoop_subset ius m (p.status.allocatedIPCount.getD 0) false
  rw [hloop] at hsub
  exact hp.of_subset hsub

theorem updateAllocatedIPs_canonical {nn : String}
    (h : updateAllocatedIPs nn ius p = .ok (some p')) (hp : Canonical p.status.records) :
    Canonical p'.status.records := by
  obtain ⟨m, m', hm, hloop, rfl⟩ := updateAllocatedIPs_ok h
  rw [IPPoolStatus.records_eq hm] at hp
  rw [IPPool.records_setRecords]
  exact hp.of_subset fun k hk => ((updateLoop_keys hloop).1 k).1 hk

theorem updateSpec_status {request : IPPool} {iw : Webhook}
    (hd : defaultIPPool iw (requested request p) = .ok p') (hp : p.deletionTimestamp = none) :
    p'.status = p.status := by
  rw [(defaultIPPool_ok hd hp).1.status]
  unfold addFinalizer requested
  split_ifs <;> rfl

theorem syncHandler_stored {w : PoolWrite} (h : syncHandler p = .ok (some w)) :
    (∃ p', w.stored = some p' ∧ p'.status.records = p.status.records ∧ (Guarded p → Guarded p')) ∨
      w.stored = none ∧ p.status.allocatedIPs = none := by
  rcases syncHandler_ok h with ⟨hterm, hnone, -, rfl⟩ | ⟨total, rfl⟩
  · simp only [PoolWrite.stored]
    split_ifs with hfin
    · exact .inr ⟨rfl, hnone⟩
    · exact .inl ⟨_, rfl, rfl, fun _ => .inr ⟨hterm, fun he => hfin ⟨hterm, he⟩⟩⟩
  · exact .inl ⟨_, rfl, rfl, id⟩

theorem deleteIPPool_stored (now : ℤ) (hp : Guarded p) :
    ∃ p', deleteIPPool now p = some p' ∧ p'.status = p.status ∧ Guarded p' := by
  have hne : p.finalizers ≠ [] := by
    rcases hp with h | h
    · exact List.ne_nil_of_mem h
    · exact h.2
  unfold deleteIPPool
  rw [if_neg hne]
  exact ⟨_, rfl, rfl, .inr ⟨rfl, hne⟩⟩

theorem PoolAttempt.guarded
    (h : PoolAttempt cfg op v (.write v' r)) (hv : ∀ p ∈ v, Guarded p) : ∀ p ∈ v', Guarded p := by
  cases h with
  | @allocate nic pod pc env p p' ip h =>
    rintro _ ⟨⟩
    rw [genRandomIP_frame h]
    exact hv p rfl
  | @release ius p p' h =>
    obtain ⟨m, m', n, -, -, rfl⟩ := releaseIP_ok h
    rintro _ ⟨⟩
    exact hv p rfl
  | @update nn ius p p' h =>
    obtain ⟨m, m', -, -, rfl⟩ := updateAllocatedIPs_ok h
    rintro _ ⟨⟩
    exact hv p rfl
  | sync h =>
    rcases syncHandler_stored h with ⟨p', hw, -, hp'⟩ | ⟨hw, -⟩
    · simpa [hw] using hp' (hv _ rfl)
    · simp [hw]
  | updateSpec hp hd hval => simpa using .inl (defaultIPPool_ok hd hp).2.1
  | @delete now iw p h =>
    obtain ⟨p', hw, -, hp'⟩ := deleteIPPool_stored now (hv p rfl)
    simpa [hw] using hp'

theorem PoolAttempt.wellFormed
    (h : PoolAttempt cfg op v (.write v' r)) (hv : ∀ p ∈ v, WellFormed p) :
    ∀ p ∈ v', WellFormed p := by
  have hguard := h.guarded fun p hp => (hv p hp).guarded
  suffices hcan : ∀ p ∈ v', Canonical p.status.records from
    fun p hp => ⟨hcan p hp, hguard p hp⟩
  cases h with
  | allocate h => simpa using genRandomIP_canonical h (hv _ rfl).canonical
  | release h => simpa using releaseIP_canonical h (hv _ rfl).canonical
  | update h => simpa using updateAllocatedIPs_canonical h (hv _ rfl).canonical
  | sync h =>
    rcases syncHandler_stored h with ⟨p', hw, hrec, -⟩ | ⟨hw, -⟩
    · simpa [hw, hrec] using (hv _ rfl).canonical
    · simp [hw]
  | updateSpec hp hd hval => simpa [updateSpec_status hd hp] using (hv _ rfl).canonical
  | @delete now iw p h =>
    obtain ⟨p', hw, hst, -⟩ := deleteIPPool_stored now (hv p rfl).guarded
    simpa [hw, hst] using (hv p rfl).canonical

end

end Spiderpool
