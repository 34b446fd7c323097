/-
# What an admitted request has passed

One lemma for each check says what it has seen to: `validateIPPoolCIDR_ok` that the subnet
is formatted and overlaps with no other, `validateIPPoolAvailableIPs_ok` that the ranges overlap
with those of no other pool of the subnet, `validateIPPoolIPInUse_ok` that no recorded address
is missing.
-/

import Spiderpool.IPPool.Validate

namespace Spiderpool

section

variable {iw : Webhook} {p p' : IPPool} {order : RangeOrder String PoolIPAllocation}

theorem validateIPPoolAvailableIPs_ok (h : validateIPPoolAvailableIPs iw p = .ok ()) :
    ∃ c v cidr pools, newCIDR p.spec.subnet p.spec.ips p.spec.excludeIPs = .ok c ∧
      p.spec.ipVersion = some v ∧ cidrToLabelValue v p.spec.subnet = .ok cidr ∧
      iw.ipPools = .ok pools ∧ ∀ q ∈ pools, q.labels.lookup Constant.labelIPPoolCIDR = some cidr →
        q.name ≠ p.name → ∃ c', newCIDR q.spec.subnet q.spec.ips q.spec.excludeIPs = .ok c' ∧
          c.isOverlapIPRanges c'.ranges = [] := by
  obtain ⟨c, hc, h⟩ := bind_eq_ok.1 h
  obtain ⟨v, hv, h⟩ := bind_eq_ok.1 h
  obtain ⟨cidr, hcidr, h⟩ := bind_eq_ok.1 h
  obtain ⟨pools, hpools, h⟩ := bind_eq_ok.1 h
  rw [mapErr_eq_ok] at hc hcidr hpools
  rw [deref_eq_ok] at hv
  refine ⟨c, v, cidr, pools, hc, hv, hcidr, hpools, ?_⟩
  have hloop : ∀ l : List IPPool, checkAvailableIPs p c l = .ok () → ∀ q ∈ l, q.name ≠ p.name →
      ∃ c', newCIDR q.spec.subnet q.spec.ips q.spec.excludeIPs = .ok c' ∧
        c.isOverlapIPRanges c'.ranges = [] := by
    intro l
    induction l with
    | nil => simp
    | cons q l ih =>
      intro hl
      rw [checkAvailableIPs] at hl
      split_ifs at hl with hname
      · exact List.forall_mem_cons.2 ⟨fun hne => absurd hname hne, ih hl⟩
      · obtain ⟨c', hc', hl⟩ := bind_eq_ok.1 hl
        obtain ⟨hov, hl⟩ := seq_eq_ok.1 hl
        rw [mapErr_eq_ok] at hc'
        rw [failIf_eq_ok, not_not] at hov
        exact List.forall_mem_cons.2 ⟨fun _ => ⟨c', hc', hov⟩, ih hl⟩
  intro q hq hlabel
  exact hloop _ h q (List.mem_filter.2 ⟨hq, by simpa using hlabel⟩)

theorem validateIPPoolCIDR_ok (h : validateIPPoolCIDR iw p = .ok ()) :
    ∃ v pools, p.spec.ipVersion = some v ∧ iw.ipPools = .ok pools ∧
      isCIDR v p.spec.subnet = .ok () ∧ isFormatCIDR p.spec.subnet = .ok () ∧
      ∀ q ∈ pools, q.spec.ipVersion = some v → q.name ≠ p.name ∧
        (q.spec.subnet = p.spec.subnet ∨
          isCIDROverlap v p.spec.subnet q.spec.subnet = .ok false) := by
  obtain ⟨v, hv, h⟩ := bind_eq_ok.1 h
  obtain ⟨hcidr, h⟩ := seq_eq_ok.1 h
  obtain ⟨hfmt, h⟩ := seq_eq_ok.1 h
  obtain ⟨pools, hpools, h⟩ := bind_eq_ok.1 h
  rw [mapErr_eq_ok] at hcidr hfmt hpools
  rw [deref_eq_ok] at hv
  refine ⟨v, pools, hv, hpools, hcidr, hfmt, ?_⟩
  have hloop : ∀ l : List IPPool, checkCIDRs v p l = .ok () → ∀ q ∈ l, q.spec.ipVersion = some v →
      q.name ≠ p.name ∧ (q.spec.subnet = p.spec.subnet ∨
        isCIDROverlap v p.spec.subnet q.spec.subnet = .ok false) := by
    intro l
    induction l with
    | nil => simp
    | cons q l ih =>
      intro hl
      rw [checkCIDRs] at hl
      obtain ⟨w, hw, hl⟩ := bind_eq_ok.1 hl
      rw [deref_eq_ok] at hw
      split_ifs at hl with hvw hsub
      · obtain ⟨hname, hl⟩ := seq_eq_ok.1 hl
        rw [failIf_eq_ok] at hname
        exact List.forall_mem_cons.2 ⟨fun _ => ⟨hname, .inl hsub⟩, ih hl⟩
      · obtain ⟨hname, hl⟩ := seq_eq_ok.1 hl
        obtain ⟨ov, hov, hl⟩ := bind_eq_ok.1 hl
        obtain ⟨hno, hl⟩ := seq_eq_ok.1 hl
        rw [failIf_eq_ok] at hname hno
        rw [mapErr_eq_ok, Bool.eq_false_iff.2 hno] at hov
        exact List.forall_mem_cons.2 ⟨fun _ => ⟨hname, .inr hov⟩, ih hl⟩
      · refine List.forall_mem_cons.2 ⟨fun hq => ?_, ih hl⟩
        exact absurd (Option.some.inj (hw.symm.trans hq)) hvw
  exact hloop pools h

theorem validateIPPoolIPInUse_ok (h : validateIPPoolIPInUse order p = .ok ()) :
    ∃ v total, p.spec.ipVersion = some v ∧
      assembleTotalIPs v p.spec.ips p.spec.excludeIPs = .ok total ∧
      ∀ k ∈ p.status.records, ∃ a ∈ total, k = a.string := by
  obtain ⟨m, hm, h⟩ := bind_eq_ok.1 h
  obtain ⟨v, hv, h⟩ := bind_eq_ok.1 h
  obtain ⟨total, htotal, h⟩ := bind_eq_ok.1 h
  rw [mapErr_eq_ok] at hm htotal
  rw [deref_eq_ok] at hv
  refine ⟨v, total, hv, htotal, ?_⟩
  rw [IPPoolStatus.records_eq hm]
  split at h
  · rename_i hfind
    rw [List.find?_eq_none] at hfind
    intro k hk
    obtain ⟨r, hr⟩ := Option.isSome_iff_exists.1 (AList.lookup_isSome.2 hk)
    have := hfind ⟨k, r⟩ (order.mem_visit.2 hr)
    simp only [decide_not, Bool.not_eq_eq_eq_not, Bool.not_true, decide_eq_false_iff_not,
      not_not] at this
    obtain ⟨a, ha, hak⟩ := List.mem_map.1 this
    exact ⟨a, ha, hak.symm⟩
  · simp at h

theorem validateIPPoolSpec_ok (h : validateIPPoolSpec iw p = .ok ()) :
    validateIPPoolAvailableIPs iw p = .ok () ∧ validateIPPoolGateway p = .ok () := by
  obtain ⟨havail, h⟩ := seq_eq_ok.1 h
  exact ⟨havail, (seq_eq_ok.1 h).1⟩

theorem validateUpdateIPPool_spec (h : validateUpdateIPPool iw order p p' = .ok ()) :
    validateIPPoolSpec iw p' = .ok () := by
  obtain ⟨-, h⟩ := seq_eq_ok.1 h
  obtain ⟨-, h⟩ := seq_eq_ok.1 h
  exact mapErr_eq_ok.1 (seq_eq_ok.1 h).1

theorem validateUpdateIPPool_ok (h : validateUpdateIPPool iw order p p' = .ok ()) :
    p'.spec.subnet = p.spec.subnet ∧
      (p.spec.ipVersion.isSome → p'.spec.ipVersion = p.spec.ipVersion) ∧
      validateIPPoolAvailableIPs iw p' = .ok () ∧ validateIPPoolIPInUse order p' = .ok () := by
  have havail := (validateIPPoolSpec_ok (validateUpdateIPPool_spec h)).1
  obtain ⟨hsame, h⟩ := seq_eq_ok.1 h
  obtain ⟨hver, h⟩ := seq_eq_ok.1 h
  obtain ⟨-, h⟩ := seq_eq_ok.1 h
  obtain ⟨-, huse⟩ := seq_eq_ok.1 h
  rw [mapErr_eq_ok] at hsame hver huse
  obtain ⟨hv, hs⟩ := seq_eq_ok.1 hsame
  rw [failIf_eq_ok] at hv hs
  refine ⟨not_not.1 hs, fun hold => ?_, havail, huse⟩
  have hnew : p'.spec.ipVersion.isSome := by
    cases hp' : p'.spec.ipVersion with
    | none => simp [hp', validateIPPoolIPVersion] at hver
    | some => rfl
  by_contra hne
  exact hv ⟨hnew, hold, hne⟩

theorem errorsOf_eq_nil {r : Result FieldError Unit} (h : errorsOf r = .ok []) : r = .ok () := by
  unfold errorsOf at h
  split at h <;> simp_all

theorem validateCreateIPPool_spec (h : validateCreateIPPool iw p = .ok ()) :
    validateIPPoolIPVersion iw p.spec.ipVersion = .ok () ∧ validateIPPoolCIDR iw p = .ok () ∧
      validateIPPoolSpec iw p = .ok () := by
  obtain ⟨hver, h⟩ := seq_eq_ok.1 h
  obtain ⟨hcidr, h⟩ := seq_eq_ok.1 h
  obtain ⟨errs, herrs, h⟩ := bind_eq_ok.1 h
  rw [failIf_eq_ok, not_not, List.append_eq_nil_iff] at h
  rw [h.1] at herrs
  exact ⟨mapErr_eq_ok.1 hver, mapErr_eq_ok.1 hcidr, errorsOf_eq_nil herrs⟩

theorem validateCreateIPPool_ok (h : validateCreateIPPool iw p = .ok ()) :
    validateIPPoolIPVersion iw p.spec.ipVersion = .ok () ∧ validateIPPoolCIDR iw p = .ok () ∧
      validateIPPoolAvailableIPs iw p = .ok () := by
  obtain ⟨hver, hcidr, hspec⟩ := validateCreateIPPool_spec h
  exact ⟨hver, hcidr, (validateIPPoolSpec_ok hspec).1⟩

end

end Spiderpool
