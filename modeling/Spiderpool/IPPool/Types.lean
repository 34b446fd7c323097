/-
# SpiderIPPool

The fields of `SpiderIPPool` that the modelled functions read or write, and the
records of `status.allocatedIPs`. The records are a JSON text in the object;
`MarshalIPPoolAllocatedIPs` writes no text at all for an empty map.

The keys of the records are texts of addresses, and `AllocateIP` writes each of
them as `IP.String` does. `Canonical` says so of a whole map.
-/

import Spiderpool.IP.Find
import Spiderpool.K8s

namespace Spiderpool

/-- `PoolIPAllocation`: the Pod that holds an address. -/
structure PoolIPAllocation where
  namespacedName : String
  podUID : String
deriving DecidableEq

/-- `PoolIPAllocations`, by the text of the address. -/
abbrev PoolIPAllocations := GoMap String PoolIPAllocation

structure Route where
  dst : String
  gw : String
deriving DecidableEq

structure LabelSelectorRequirement where
  key : String
  operator : String
  values : List String
deriving DecidableEq

structure LabelSelector where
  matchLabels : GoMap String String
  matchExpressions : List LabelSelectorRequirement

/-- `IPPoolSpec`. Of the routes, nil and empty are told apart. -/
structure IPPoolSpec where
  ipVersion : Option IPVersion := none
  subnet : String
  ips : List String := []
  excludeIPs : List String := []
  gateway : Option String := none
  routes : Option (List Route) := none
  podAffinity : Option LabelSelector := none
  namespaceAffinity : Option LabelSelector := none
  namespaceName : List String := []
  nodeAffinity : Option LabelSelector := none
  nodeName : List String := []
  multusName : List String := []
  disable : Option Bool := none

structure IPPoolStatus where
  allocatedIPs : Option (Json PoolIPAllocations) := none
  totalIPCount : Option ℤ := none
  allocatedIPCount : Option ℤ := none

structure IPPool where
  name : String
  labels : GoMap String String := ∅
  finalizers : List String := []
  ownerReferences : List OwnerReference := []
  deletionTimestamp : Option ℤ := none
  spec : IPPoolSpec
  status : IPPoolStatus := {}

def unmarshalIPPoolAllocatedIPs : Option (Json PoolIPAllocations) → Result Err PoolIPAllocations
  | none => .ok ∅
  | some (.doc records) => .ok records
  | some (.malformed e) => fail (.new e)

def marshalIPPoolAllocatedIPs (records : PoolIPAllocations) : Option (Json PoolIPAllocations) :=
  if GoMap.len records = 0 then none else some (.doc records)

def IPPoolStatus.records (st : IPPoolStatus) : PoolIPAllocations :=
  match st.allocatedIPs with
  | some (.doc records) => records
  | _ => ∅

theorem unmarshal_marshal (records : PoolIPAllocations) :
    unmarshalIPPoolAllocatedIPs (marshalIPPoolAllocatedIPs records) = .ok records := by
  unfold marshalIPPoolAllocatedIPs
  split_ifs with h
  · have : records = ∅ := AList.ext (GoMap.len_eq_zero.1 h)
    rw [this]
    rfl
  · rfl

theorem marshal_eq_none {records : PoolIPAllocations} :
    marshalIPPoolAllocatedIPs records = none ↔ records = ∅ := by
  unfold marshalIPPoolAllocatedIPs
  split_ifs with h
  · exact iff_of_true rfl (AList.ext (GoMap.len_eq_zero.1 h))
  · exact iff_of_false (by simp) fun he => h (by rw [he]; rfl)

section

variable {st : IPPoolStatus} {m : PoolIPAllocations}

theorem IPPoolStatus.records_eq
    (h : unmarshalIPPoolAllocatedIPs st.allocatedIPs = .ok m) : st.records = m := by
  unfold records
  unfold unmarshalIPPoolAllocatedIPs at h
  split at h
  · rename_i heq
    rw [heq]
    exact Except.ok.inj h
  · rename_i heq
    rw [heq]
    exact Except.ok.inj h
  · simp at h

theorem IPPoolStatus.records_of_marshal
    (h : st.allocatedIPs = marshalIPPoolAllocatedIPs m) : st.records = m :=
  records_eq (by rw [h, unmarshal_marshal])

/-- Every key is the text of an address, as `IP.String` writes it. -/
def Canonical (m : PoolIPAllocations) : Prop := ∀ k ∈ m, ∃ a : Addr, k = a.string

theorem canonical_empty : Canonical ∅ := fun k hk => absurd hk (AList.notMem_empty k)

theorem Canonical.insert (h : Canonical m) (a : Addr)
    (r : PoolIPAllocation) : Canonical (m.insert a.string r) := by
  intro k hk
  rcases (AList.mem_insert m).1 hk with rfl | hk
  · exact ⟨a, rfl⟩
  · exact h k hk

theorem Canonical.exists_addrs (h : Canonical m) {ks : List String}
    (hks : ks.Perm m.keys) : ∃ as : List Addr, ks = as.map Addr.string := by
  have hall : ∀ k ∈ ks, ∃ a : Addr, k = a.string := fun k hk =>
    h k (AList.mem_keys.2 (hks.mem_iff.1 hk))
  clear hks
  induction ks with
  | nil => exact ⟨[], rfl⟩
  | cons k ks ih =>
    obtain ⟨a, rfl⟩ := hall k List.mem_cons_self
    obtain ⟨as, rfl⟩ := ih fun k hk => hall k (List.mem_cons_of_mem _ hk)
    exact ⟨a :: as, rfl⟩

end

end Spiderpool
