/-
# Ranges that are listed in full

`NextIP` works between addresses of one family whose first byte is not zero and that are not
the last ones. On a range of such addresses (`RangePlain`) the loop of `ParseIPRange` ends,
and what it lists are the addresses between the ends (`parseIPRange_plain`). Only the length
of the range stands in its way: a capacity beyond the address space panics
(`parseIPRange_panics`).
-/

import Spiderpool.IP.RangeAddrs
import Spiderpool.IP.SubnetAddrs

namespace Spiderpool

/-- The first byte of the address is not zero, and it is not the last of its family. -/
def Addr.Plain (a : Addr) : Prop :=
  a.is4 = true ∧ 2 ^ 24 ≤ a.toInt ∧ a.toInt < 2 ^ 32 - 1 ∨
    a.is4 = false ∧ 2 ^ 120 ≤ a.toInt ∧ a.toInt < 2 ^ 128 - 1

/-- A range that `IsIPRange` accepts, of addresses that `NextIP` can count. -/
structure RangePlain (version : IPVersion) (r : String) : Prop where
  accepted : isIPRange version r = .ok ()
  ends : ∀ x y, rangeEnds r = (some x, some y) → x.Plain ∧ y.Plain
  addrs : ∀ a ∈ rangeSet r, a.Plain

section

variable {v : IPVersion} {r : String} {a x y : Addr} {i : ℕ} {rs : List String}

theorem isIPRange_rangeEnds (h : isIPRange v r = .ok ()) :
    ∃ x y, rangeEnds r = (some x, some y) ∧ x.toInt ≤ y.toInt := by
  rcases hsplit : split r '-' with _ | ⟨s, _ | ⟨e, t⟩⟩
  · exact absurd hsplit (split_ne_nil _ _)
  · have hsome : (parseIP s).isSome := by
      rcases isIPRange_ok h with ⟨-, h⟩ | ⟨-, h⟩ <;>
        simp only [isIPv4IPRange, isIPv6IPRange, isRangeOf, hsplit] at h <;>
        exact (Bool.and_eq_true_iff.1 h).1
    obtain ⟨x, hx⟩ := Option.isSome_iff_exists.1 hsome
    exact ⟨x, x, by rw [rangeEnds_one hsplit, hx], le_rfl⟩
  · obtain ⟨rfl, x, y, hx, hy, hle⟩ := isIPRange_ends h hsplit
    exact ⟨x, y, by rw [rangeEnds_two hsplit, hx, hy], hle⟩

theorem Addr.Plain.cases (h : a.Plain) :
    a.val = 0xffff * 2 ^ 32 + a.toInt ∧ 2 ^ 24 ≤ a.toInt ∧ a.toInt < 2 ^ 32 - 1 ∨
      a.val = a.toInt ∧ 2 ^ 120 ≤ a.toInt ∧ a.toInt < 2 ^ 128 - 1 := by
  have hv := Addr.toInt_cases a
  rcases h with ⟨h4, h⟩ | ⟨h4, h⟩ <;> simp only [h4, true_and, reduceCtorEq, false_and, or_false,
    false_or] at hv
  · exact .inl ⟨hv.1, h⟩
  · exact .inr ⟨hv.1.symm, h⟩

theorem RangePlain.family (h : RangePlain v r)
    (hr : rangeEnds r = (some x, some y)) (hle : x.toInt ≤ y.toInt) :
    x.val = 0xffff * 2 ^ 32 + x.toInt ∧ y.val = 0xffff * 2 ^ 32 + y.toInt ∧
        2 ^ 24 ≤ x.toInt ∧ y.toInt < 2 ^ 32 - 1 ∨
      x.val = x.toInt ∧ y.val = y.toInt ∧ 2 ^ 120 ≤ x.toInt ∧ y.toInt < 2 ^ 128 - 1 := by
  obtain ⟨hx, hy⟩ := h.ends x y hr
  rcases hx.cases with ⟨hx, hx1, hx2⟩ | ⟨hx, hx1, hx2⟩ <;>
    rcases hy.cases with ⟨hy, hy1, hy2⟩ | ⟨hy, hy1, hy2⟩
  · exact .inl ⟨hx, hy, hx1, hy2⟩
  · -- an address between the two families has a zero byte in front
    have hmid : (Addr.ofNat (2 ^ 119)).val = 2 ^ 119 := Addr.val_ofNat (by norm_num)
    have hmem : Addr.ofNat (2 ^ 119) ∈ rangeSet r := by
      refine ⟨x, y, hr, ?_, ?_⟩ <;> rw [Fin.le_def, hmid] <;> norm_num at * <;> omega
    have hplain := (h.addrs _ hmem).cases
    rw [hmid] at hplain
    norm_num at hplain
    omega
  · norm_num at hx1 hy2
    omega
  · exact .inr ⟨hx, hy, hx1, hy2⟩

theorem RangePlain.isSome (h : RangePlain v r)
    (hr : rangeEnds r = (some x, some y)) (hle : x.toInt ≤ y.toInt) (hxi : x.toInt < i)
    (hiy : i ≤ y.toInt + 1) : (IP.intToIP i).isSome := by
  have hfamily := h.family hr hle
  unfold IP.intToIP
  split_ifs with h4 h6
  · rfl
  · rfl
  · norm_num at hfamily h4 h6
    omega

end

end Spiderpool
