/-
# The check of the gateway

`validateIPPoolGateway` admits a pool whose gateway is in the subnet and is not one of the pool's
addresses, as far as `IPRangeContainsIP` can tell. That function compares the ends of a range as
numbers, but a single address as a text; a range it does not accept it takes not to hold the
gateway.
-/

import Spiderpool.IP.TotalIPs
import Spiderpool.IPPool.Readable

namespace Spiderpool

/-- `IPRangeContainsIP` can tell whether the gateway is in a range: it accepts all of them, and
wherever the gateway is an entry by itself, it is written in the same way. And none of several
addresses starts inside `::/96`. -/
structure GatewayReadable (p : IPPool) : Prop where
  gateway : ∀ v ∈ p.spec.ipVersion, ∀ g ∈ p.spec.gateway, isIP v g = .ok ()
  ranges : ∀ v ∈ p.spec.ipVersion, ∀ r ∈ p.spec.ips ++ p.spec.excludeIPs, isIPRange v r = .ok ()
  spelled : ∀ g ∈ p.spec.gateway, ∀ r ∈ p.spec.ips ++ p.spec.excludeIPs,
    split r '-' = [r] → parseIP r = parseIP g → r = g
  low : ∀ r ∈ p.spec.ips ++ p.spec.excludeIPs, LowRangeSingle r

/-- The gateway is in the subnet, and is not one of the pool's addresses. -/
def GatewayApart (p : IPPool) : Prop :=
  ∀ g ∈ p.spec.gateway, ∃ a, parseIP g = some a ∧ InCIDR p.spec.subnet a ∧
    a ∉ totalSet p.spec.ips p.spec.excludeIPs

/-! ### The check -/

theorem isIP_parses {v : IPVersion} {g : String} (h : isIP v g = .ok ()) : ∃ a, parseIP g = some a := by
  obtain ⟨hv, h⟩ := seq_eq_ok.1 h
  rw [isIPVersion_ok] at hv
  rw [failIf_eq_ok] at h
  rw [← Option.isSome_iff_exists]
  rcases hv with rfl | rfl <;> simp_all [isIPv4, isIPv6, Constant.ipv4, Constant.ipv6]

theorem rangeHolds_iff {v : IPVersion} {g r : String} {a x y : Addr} (hg : isIP v g = .ok ())
    (ha : parseIP g = some a) (hr : isIPRange v r = .ok ()) (htext : RangeText r x y)
    (hx : x.is4 = a.is4) (hy : y.is4 = a.is4)
    (hspelled : split r '-' = [r] → parseIP r = parseIP g → r = g) :
    rangeHolds v g r = true ↔ x ≤ a ∧ a ≤ y := by
  rw [rangeHolds, ipRangeContainsIP, hr, hg]
  cases htext with
  | @one s _ hsplit hs =>
    obtain rfl := split_eq_singleton hsplit
    rw [hsplit]
    show (s == g) = true ↔ x ≤ a ∧ a ≤ x
    rw [beq_iff_eq]
    constructor
    · rintro rfl
      rw [Option.some.inj (hs.symm.trans ha)]
      exact ⟨le_rfl, le_rfl⟩
    · rintro ⟨hxa, hax⟩
      exact hspelled hsplit (by rw [hs, ha, le_antisymm hxa hax])
  | @two s e _ _ hsplit hs he =>
    rw [hsplit]
    show (!(decide (IP.ipToInt (parseIP g) < IP.ipToInt (parseIP s)) ||
      decide (IP.ipToInt (parseIP e) < IP.ipToInt (parseIP g)))) = true ↔ x ≤ a ∧ a ≤ y
    simp only [ha, hs, he, IP.ipToInt_some, Bool.not_eq_true', Bool.or_eq_false_iff,
      decide_eq_false_iff_not, not_lt]
    rw [Addr.toInt_le_iff hx, Addr.toInt_le_iff hy.symm]

theorem InCIDR.is4_eq {s : String} {a x : Addr} (ha : InCIDR s a) (hx : InCIDR s x) :
    x.is4 = a.is4 := by
  obtain ⟨b, n, hn, ha, -⟩ := ha
  obtain ⟨b', n', hn', hx, -⟩ := hx
  obtain ⟨-, rfl⟩ := Prod.mk.inj (Option.some.inj (hn.symm.trans hn'))
  exact hx.trans ha.symm

theorem newCIDR_ranges {base : String} {ips excludeIPs : List String} {c : CIDR}
    (h : newCIDR base ips excludeIPs = .ok c) {r : String} (hr : r ∈ ips ++ excludeIPs) :
    ∃ x y, RangeText r x y ∧ InCIDR base x ∧ InCIDR base y := by
  obtain ⟨x, y, htext⟩ := newCIDR_text h r hr
  obtain ⟨b, k, added, ex, -, -, hbase, -, hitems, hforall, -⟩ := newCIDR_parts h
  have hends : ∃ x y, rangeEnds r = (some x, some y) ∧ InSubnet b k x ∧ InSubnet b k y := by
    rcases List.mem_append.1 hr with hr | hr
    · obtain ⟨_, -, x, y, hxy, hx, hy, -⟩ := exists_right_of_forall₂ hitems hr
      exact ⟨x, y, hxy, hx, hy⟩
    · obtain ⟨_, -, x, y, hxy, hx, hy, -⟩ := exists_right_of_forall₂ hforall hr
      exact ⟨x, y, hxy, hx, hy⟩
  obtain ⟨x', y', hxy, hx, hy⟩ := hends
  obtain ⟨h1, h2⟩ := Prod.mk.inj (htext.rangeEnds_eq.symm.trans hxy)
  obtain rfl := Option.some.inj h1
  obtain rfl := Option.some.inj h2
  exact ⟨x, y, htext, (hbase x).2 hx, (hbase y).2 hy⟩

theorem containsIP_eq {v : IPVersion} {s g : String} {a : Addr} (hs : isCIDR v s = .ok ())
    (hg : isIP v g = .ok ()) (ha : parseIP g = some a) :
    ∃ contains, containsIP v s g = .ok contains ∧ (contains = true ↔ InCIDR s a) := by
  obtain ⟨-, b, n, hn, -⟩ := isCIDR_ok hs
  refine ⟨n.contains a, ?_, contains_iff_inCIDR hn⟩
  have hcidr : parseCIDR v s = .ok n := by
    rw [parseCIDR, hs, hn]
    rfl
  have hip : ∃ m : IPNet, parseIPOf v g false = .ok m ∧ m.ip = some a := by
    rw [parseIPOf, if_neg Bool.false_ne_true, hg, ha]
    by_cases hv : v = Constant.ipv4
    · exact ⟨⟨some a, 32, 32⟩, by rw [if_pos hv]; rfl, rfl⟩
    · exact ⟨⟨some a, 128, 128⟩, by rw [if_neg hv]; rfl, rfl⟩
  obtain ⟨m, hm, hma⟩ := hip
  rw [containsIP, hcidr]
  change (parseIPOf v g false >>= fun m => pure (m.ip.any n.contains)) = _
  rw [hm]
  simp [hma]

section

variable {p : IPPool} {v : IPVersion} {g : String} {a : Addr} {c : CIDR}

theorem validateIPPoolGateway_holds (hv : p.spec.ipVersion = some v) (hg : p.spec.gateway = some g) :
    validateIPPoolGateway p = .ok () ↔ containsIP v p.spec.subnet g = .ok true ∧
      ((∃ r ∈ p.spec.excludeIPs, rangeHolds v g r = true) ∨
        ∀ r ∈ p.spec.ips, ¬rangeHolds v g r = true) := by
  have hcontains : validateContainsIP gatewayField v p.spec.subnet g = .ok () ↔
      containsIP v p.spec.subnet g = .ok true := by
    rw [validateContainsIP, bind_eq_ok]
    simp only [mapErr_eq_ok, failIf_eq_ok, Bool.not_eq_false]
    exact ⟨fun ⟨b, hb, htrue⟩ => htrue ▸ hb, fun h => ⟨true, h, rfl⟩⟩
  rw [validateIPPoolGateway, hg, hv]
  change (validateContainsIP gatewayField v p.spec.subnet g >>= fun _ => _) = .ok () ↔ _
  rw [seq_eq_ok, hcontains]
  refine and_congr_right fun _ => ?_
  by_cases hex : p.spec.excludeIPs.any (rangeHolds v g) = true
  · simpa only [hex, if_true, true_iff] using .inl (List.any_eq_true.1 hex)
  · rw [if_neg hex]
    have hnone : ¬∃ r ∈ p.spec.excludeIPs, rangeHolds v g r = true := fun h =>
      hex (List.any_eq_true.2 h)
    have hfst : p.spec.ips.zipIdx.map Prod.fst = p.spec.ips := List.zipIdx_map_fst 0 _
    rw [or_iff_right hnone, ← hfst, List.forall_mem_map, hfst]
    cases hfind : p.spec.ips.zipIdx.find? fun r => rangeHolds v g r.1 with
    | none => simpa using List.find?_eq_none.1 hfind
    | some r =>
      have hr := List.find?_some hfind
      have hmem := List.mem_of_find?_eq_some hfind
      constructor
      · intro h
        cases h
      · intro h
        exact absurd hr (h r hmem)

/-- **What the gateway's check decides.**  It passes the gateways that are in the subnet and are not
addresses of the pool. -/
theorem validateIPPoolGateway_iff (hv : p.spec.ipVersion = some v) (hg : p.spec.gateway = some g)
    (ha : parseIP g = some a) (hcidr : isCIDR v p.spec.subnet = .ok ())
    (hc : newCIDR p.spec.subnet p.spec.ips p.spec.excludeIPs = .ok c) (hp : GatewayReadable p) :
    validateIPPoolGateway p = .ok () ↔
      InCIDR p.spec.subnet a ∧ a ∉ totalSet p.spec.ips p.spec.excludeIPs := by
  have hip := hp.gateway v hv g hg
  obtain ⟨contains, hcontains, hin⟩ := containsIP_eq hcidr hip ha
  rw [validateIPPoolGateway_holds hv hg, hcontains, Except.ok.injEq, hin]
  refine and_congr_right fun hsubnet => ?_
  -- every range is of the family of the gateway, with the smaller end first
  have hranges : ∀ r ∈ p.spec.ips ++ p.spec.excludeIPs,
      (rangeHolds v g r = true ↔ a ∈ rangeSet r) ∧ spanSet r = rangeSet r := by
    intro r hr
    obtain ⟨x, y, htext, hx, hy⟩ := newCIDR_ranges hc hr
    have hok := hp.ranges v hv r hr
    have hxy := ((isIPRange_iff (isCIDR_ok hcidr).1 htext).1 hok).2
    rw [Addr.toInt_le_iff (hy.is4_eq hx)] at hxy
    rw [rangeHolds_iff hip ha hok htext (hsubnet.is4_eq hx) (hsubnet.is4_eq hy)
      (hp.spelled g hg r hr)]
    simp [rangeSet, spanSet, htext.rangeEnds_eq, Set.uIcc_of_le hxy]
  rw [List.forall_mem_append] at hranges
  have hout : a ∈ totalSet p.spec.ips p.spec.excludeIPs ↔
      (∃ r ∈ p.spec.ips, rangeHolds v g r = true) ∧
        ∀ r ∈ p.spec.excludeIPs, ¬rangeHolds v g r = true := by
    refine and_congr (exists_congr fun r => and_congr_right fun hr => ?_)
      (forall₂_congr fun r hr => not_congr ?_)
    · rw [(hranges.1 r hr).2, (hranges.1 r hr).1]
    · exact (hranges.2 r hr).1.symm
  rw [hout, not_and_or]
  push Not
  exact or_comm

end

/-! ### Requests with and without the gateway -/

section

variable {iw : Webhook} {p : IPPool}

end

end Spiderpool
