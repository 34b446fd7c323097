/-
# Two ways to the total addresses

The addresses of `spec.ips` less those of `spec.excludeIPs` are computed in two ways: `NewCIDR`
subtracts intervals of numbers, `AssembleTotalIPs` lists the addresses of all ranges and filters
them. Where both succeed, the ends of each range are of one family and in order, and
`AssembleTotalIPs` lists what `NewCIDR` covers, each address once (`assembleTotalIPs_spanned`), unless
a range of several addresses starts inside `::/96`: there `ParseIPRange` goes on with IPv4 addresses.
-/

import Spiderpool.IP.Counted
import Spiderpool.IP.Intervals

namespace Spiderpool

theorem parseIPRange_lists {v : IPVersion} {r : String} {l : List Addr}
    (h : parseIPRange v r = .ok l) (hlow : LowRangeSingle r)
    (hfamily : ∀ x y, rangeEnds r = (some x, some y) → x.is4 = y.is4) :
    l.Pairwise (· < ·) ∧ (∀ a, a ∈ l ↔ a ∈ spanSet r) ∧ SmallerFirst r := by
  have hrange := (seq_eq_ok.1 h).1
  have hcounted : RangeCounted r := by
    obtain ⟨x, y, hr, hle, ⟨hone, -⟩ | ⟨-, hmany⟩⟩ := parseIPRange_accepted hrange
    · exact .inl hone
    · rw [hmany] at h
      split_ifs at h with hcap
      have hsome := ((rangeLoop_iff hle).1 h).1
      have hfirst := IP.isSome_intToIP.1 (hsome (x.toInt + 1) (by omega) (by omega))
      have hlast := IP.isSome_intToIP.1 (hsome (y.toInt + 1) (by omega) le_rfl)
      have h4 := hfamily x y hr
      refine .inr ⟨x, y, hr, hcap, ?_⟩
      rcases Addr.toInt_cases x with ⟨hx4, hx, hx'⟩ | ⟨hx4, hx, hx'⟩ <;>
        rcases Addr.toInt_cases y with ⟨hy4, hy, hy'⟩ | ⟨hy4, hy, hy'⟩ <;>
        simp only [hx4, hy4, reduceCtorEq] at h4
      · exact .inl ⟨hx4, hy4, by omega, by omega⟩
      · rcases hfirst with hfirst | hfirst
        · exact .inr (.inr ⟨hlow x y hr (by omega), hfirst⟩)
        · exact .inr (.inl ⟨hx4, hy4, hfirst.1, by omega⟩)
  obtain ⟨l', hl', hsorted, hmem⟩ := (listsExactly_iff hrange).2 hcounted
  obtain rfl := Except.ok.inj (h.symm.trans hl')
  obtain ⟨x, y, hr, hle⟩ := isIPRange_rangeEnds hrange
  have hxy : x ≤ y := (Addr.toInt_le_iff (hfamily x y hr)).1 hle
  have hfirst : SmallerFirst r := by
    intro x' y' hr'
    obtain ⟨h1, h2⟩ := Prod.mk.inj (hr.symm.trans hr')
    rw [← Option.some.inj h1, ← Option.some.inj h2]
    exact hxy
  refine ⟨hsorted, fun a => ?_, hfirst⟩
  rw [hmem]
  simp [rangeSet, spanSet, hr, Set.uIcc_of_le hxy]

theorem mem_parseIPRanges_spanned {v : IPVersion} {rs : List String} {l : List Addr}
    (h : parseIPRanges v rs = .ok l)
    (hlists : ∀ r ∈ rs, ∀ l', parseIPRange v r = .ok l' → ∀ a, a ∈ l' ↔ a ∈ spanSet r) (a : Addr) :
    a ∈ l ↔ a ∈ spanned rs := by
  constructor
  · intro ha
    obtain ⟨r, hr, l', hl', ha⟩ := exists_range_of_mem h ha
    exact ⟨r, hr, (hlists r hr l' hl' a).1 ha⟩
  · rintro ⟨r, hr, ha⟩
    obtain ⟨l', hl', hsub⟩ := mem_parseIPRanges h hr
    exact hsub ((hlists r hr l' hl' a).2 ha)

theorem parseIPRanges_nodup {v : IPVersion} {rs : List String} {l : List Addr}
    (h : parseIPRanges v rs = .ok l)
    (hlists : ∀ r ∈ rs, ∀ l', parseIPRange v r = .ok l' →
      l'.Pairwise (· < ·) ∧ ∀ a, a ∈ l' ↔ a ∈ spanSet r)
    (hapart : rs.Pairwise fun r r' => Disjoint (spanSet r) (spanSet r')) : l.Nodup := by
  induction rs generalizing l with
  | nil => exact Except.ok.inj h ▸ List.nodup_nil
  | cons r rs ih =>
    obtain ⟨ips, hips, h⟩ := bind_eq_ok.1 h
    obtain ⟨sum, hsum, h⟩ := bind_eq_ok.1 h
    obtain rfl := Except.ok.inj h
    rw [List.forall_mem_cons] at hlists
    rw [List.pairwise_cons] at hapart
    obtain ⟨hsorted, hmem⟩ := hlists.1 ips hips
    refine List.nodup_append.2 ⟨hsorted.imp ne_of_lt, ih hsum hlists.2 hapart.2, ?_⟩
    rintro a ha b hb rfl
    obtain ⟨r', hr', l', hl', hb⟩ := exists_range_of_mem hsum hb
    have hb' := ((hlists.2 r' hr' l' hl').2 a).1 hb
    exact Set.disjoint_left.1 (hapart.1 r' hr') ((hmem a).1 ha) hb'

section

variable {v : IPVersion} {base : String} {ips excludeIPs : List String} {c : CIDR} {l : List Addr}

theorem newCIDR_apart (h : newCIDR base ips excludeIPs = .ok c) :
    (ips.Pairwise fun r r' => Disjoint (spanSet r) (spanSet r')) ∧
      ∀ r ∈ ips ++ excludeIPs, ∀ x y, rangeEnds r = (some x, some y) → x.is4 = y.is4 := by
  obtain ⟨b, k, added, ex, -, -, -, hsep, hitems, hforall, -⟩ := newCIDR_parts h
  constructor
  · refine pairwise_of_forall₂ hitems hsep.apart ?_
    rintro t t' r r' ⟨x, y, hxy, hx, hy, hhas⟩ ⟨x', y', hxy', hx', hy', hhas'⟩ hrr
    refine Set.disjoint_left.2 ?_
    rintro a ⟨u, w, huw, ha⟩ ⟨u', w', huw', ha'⟩
    obtain ⟨h1, h2⟩ := Prod.mk.inj (hxy.symm.trans huw)
    obtain rfl := Option.some.inj h1
    obtain rfl := Option.some.inj h2
    obtain ⟨h1, h2⟩ := Prod.mk.inj (hxy'.symm.trans huw')
    obtain rfl := Option.some.inj h1
    obtain rfl := Option.some.inj h2
    refine hrr (subnetNum b a) ((hhas _).2 ?_) ((hhas' _).2 ?_)
    · exact (hx.num_mem_uIcc hy ha hx hy).2 ha
    · exact (hx.num_mem_uIcc hy ha hx' hy').2 ha'
  · intro r hr x y hxy
    rcases List.mem_append.1 hr with hr | hr
    · obtain ⟨_, -, x', y', hxy', hx, hy, -⟩ := exists_right_of_forall₂ hitems hr
      obtain ⟨h1, h2⟩ := Prod.mk.inj (hxy.symm.trans hxy')
      rw [Option.some.inj h1, Option.some.inj h2]
      exact hx.1.trans hy.1.symm
    · obtain ⟨_, -, x', y', hxy', hx, hy, -⟩ := exists_right_of_forall₂ hforall hr
      obtain ⟨h1, h2⟩ := Prod.mk.inj (hxy.symm.trans hxy')
      rw [Option.some.inj h1, Option.some.inj h2]
      exact hx.1.trans hy.1.symm

theorem assembleTotalIPs_spanned (h : newCIDR base ips excludeIPs = .ok c)
    (hl : assembleTotalIPs v ips excludeIPs = .ok l)
    (hlow : ∀ r ∈ ips ++ excludeIPs, LowRangeSingle r) :
    (∀ r ∈ excludeIPs, SmallerFirst r) ∧ l.Nodup ∧
      {a | a ∈ l} = spanned ips \ spanned excludeIPs := by
  obtain ⟨included, hincluded, hl⟩ := bind_eq_ok.1 hl
  obtain ⟨excluded, hexcluded, hl⟩ := bind_eq_ok.1 hl
  obtain rfl := Except.ok.inj hl
  obtain ⟨hapart, hfamily⟩ := newCIDR_apart h
  have hlists : ∀ r ∈ ips ++ excludeIPs, ∀ l', parseIPRange v r = .ok l' →
      l'.Pairwise (· < ·) ∧ (∀ a, a ∈ l' ↔ a ∈ spanSet r) ∧ SmallerFirst r := fun r hr l' hl' =>
    parseIPRange_lists hl' (hlow r hr) (hfamily r hr)
  rw [List.forall_mem_append] at hlists
  have hin := mem_parseIPRanges_spanned hincluded fun r hr l' hl' => (hlists.1 r hr l' hl').2.1
  have hout := mem_parseIPRanges_spanned hexcluded fun r hr l' hl' => (hlists.2 r hr l' hl').2.1
  have hnodup := parseIPRanges_nodup hincluded
    (fun r hr l' hl' => ⟨(hlists.1 r hr l' hl').1, (hlists.1 r hr l' hl').2.1⟩) hapart
  refine ⟨fun r hr => ?_, hnodup.filter _, ?_⟩
  · obtain ⟨l', hl', -⟩ := mem_parseIPRanges hexcluded hr
    exact (hlists.2 r hr l' hl').2.2
  · ext a
    simp [ipsDiffSet, hin, hout]

end

end Spiderpool
