/-
# Networks that meet, and networks inside others

`IsCIDROverlap` and `ContainsCIDR` look at no more than the number and the prefix length of each
of two networks. A network is the block of the addresses that agree with its number on the bits
of its mask (`IPNet.addrs`), and blocks are nested or disjoint (`SameBlock.laminar`); so this is enough, whatever host
bits the prefixes are written with, if both lengths are counted from the same bit
(`overlap_contains_iff`).

That is so for every two IPv6 prefixes. Among the prefixes that `IsCIDR` takes for IPv4 there are
also those of `::ffff:a.b.c.d`, whose lengths count from the first of sixteen bytes, and which
are no IPv4 networks at all if they are shorter than 96 bits.
-/

import Spiderpool.IP.CIDR

namespace Spiderpool

/-- The addresses of a network: those that agree with its number on the bits of the mask. -/
def IPNet.addrs (n : IPNet) : Set Addr :=
  {x | ∃ a, n.ip = some a ∧ SameBlock (n.bits - n.ones) x.val a.val}

def network (s : String) : Set Addr := {x | ∃ a n, netParseCIDR s = some (a, n) ∧ x ∈ n.addrs}

theorem IPNet.mem_addrs {a x : Addr} {k w : ℕ} :
    x ∈ (⟨some a, k, w⟩ : IPNet).addrs ↔ SameBlock (w - k) x.val a.val := by
  simp [IPNet.addrs]

/-! ### Masked addresses -/

namespace Text

theorem is4_of_v4 {s : List Char} {p : Parsed} (h : parseAddr s = some p) (hv : p.v4 = true) :
    p.addr.is4 = true := by
  unfold parseAddr at h
  split at h
  · split_ifs at h
    · obtain ⟨f, -, rfl⟩ := Option.map_eq_some_iff.1 h
      have hmod : Addr.ofV4 (fromDigits 256 f) = Addr.ofV4 (fromDigits 256 f % 2 ^ 32) := by
        simp only [Addr.ofV4, Nat.mod_mod]
      show (Addr.ofV4 (fromDigits 256 f)).is4 = true
      rw [hmod]
      exact Addr.is4_ofV4 (Nat.mod_lt _ (by norm_num))
    · obtain ⟨x, -, rfl⟩ := Option.map_eq_some_iff.1 h
      exact absurd hv Bool.false_ne_true
  · cases h

theorem is4_mask_v6 {p : Parsed} (hv : p.v4 = false) {k : ℕ} (h : (mask p k).is4 = true) :
    96 ≤ k ∧ p.addr.is4 = true := by
  have hlt : p.addr.val / 2 ^ (128 - k) * 2 ^ (128 - k) < 2 ^ 128 :=
    (Nat.div_mul_le_self _ _).trans_lt p.addr.isLt
  have hval : (mask p k).val = p.addr.val / 2 ^ (128 - k) * 2 ^ (128 - k) := by
    rw [mask, hv, if_neg Bool.false_ne_true, Addr.val_ofNat hlt]
  simp only [Addr.is4, beq_iff_eq, hval] at h ⊢
  have hk : 96 ≤ k := by
    by_contra hk
    -- the last bit of the first twelve bytes is masked, and it is set in `::ffff:0:0`
    obtain ⟨e, he⟩ : ∃ e, 128 - k = e + 1 + 32 := ⟨95 - k, by omega⟩
    generalize p.addr.val / 2 ^ (128 - k) = q at h
    rw [he, pow_add _ (e + 1), ← mul_assoc, Nat.mul_div_cancel _ (by norm_num), pow_succ,
      ← mul_assoc] at h
    omega
  refine ⟨hk, ?_⟩
  have hblock : SameBlock (128 - k) (p.addr.val / 2 ^ (128 - k) * 2 ^ (128 - k)) p.addr.val := by
    rw [SameBlock, Nat.mul_div_cancel _ (Nat.two_pow_pos _)]
  have h32 : SameBlock 32 _ _ := hblock.mono (by omega)
  rw [← h]
  exact h32.symm

end Text

/-! ### `IPNet.Contains` -/

theorem IPNet.is4_of_contains {b x : Addr} {k w : ℕ}
    (h : (⟨some b, k, w⟩ : IPNet).contains x = true) : x.is4 = b.is4 := by
  unfold IPNet.contains at h
  cases hb : b.is4 <;> simp_all

theorem IPNet.contains_iff_mem {b x : Addr} {k w : ℕ}
    (hform : w = 32 ∧ b.is4 = true ∨ w = 128 ∧ (b.is4 = true → 96 ≤ k)) (hk : k ≤ w)
    (hx : x.is4 = b.is4) :
    (⟨some b, k, w⟩ : IPNet).contains x = true ↔ x ∈ (⟨some b, k, w⟩ : IPNet).addrs := by
  rw [IPNet.mem_addrs]
  unfold IPNet.contains
  cases hb : b.is4 with
  | false =>
    obtain ⟨rfl, -⟩ := hform.resolve_left (by simp [hb])
    simp [hb, hx]
  | true =>
    have hones : 32 - (⟨some b, k, w⟩ : IPNet).ones4 = w - k ∧ w - k ≤ 32 := by
      rcases hform with ⟨rfl, -⟩ | ⟨rfl, h96⟩
      · exact ⟨by simp [IPNet.ones4], by omega⟩
      · have := h96 hb
        refine ⟨?_, by omega⟩
        simp only [IPNet.ones4]
        rw [if_neg (by norm_num)]
        omega
    simp only [if_true, hx, hb, Bool.true_and, decide_eq_true_eq, hones.1]
    exact sameBlock_low32 hb (hx.trans hb) hones.2

theorem netParseCIDR_form {s : String} {a : Addr} {n : IPNet} (h : netParseCIDR s = some (a, n)) :
    ∃ b k w, n = ⟨some b, k, w⟩ ∧ k ≤ w ∧
      (w = 32 ∧ b.is4 = true ∨ w = 128 ∧ (b.is4 = true → 96 ≤ k)) ∧
      (a.is4 = false → w = 128 ∧ b.is4 = false) := by
  obtain ⟨p, k, hp, rfl, hk, rfl⟩ := netParseCIDR_eq_some h
  have hbits : p.bitLen = if p.v4 then 32 else 128 := rfl
  refine ⟨Text.mask p k, k, p.bitLen, rfl, hk, ?_, ?_⟩
  · cases hv : p.v4 with
    | true => exact .inl ⟨by simp [hbits, hv], Text.is4_mask hv k⟩
    | false => exact .inr ⟨by simp [hbits, hv], fun h4 => (Text.is4_mask_v6 hv h4).1⟩
  · intro h6
    have hv : p.v4 = false := by
      by_contra hv
      rw [Text.is4_of_v4 hp (by simpa using hv)] at h6
      cases h6
    refine ⟨by simp [hbits, hv], ?_⟩
    by_contra h4
    rw [(Text.is4_mask_v6 hv (by simpa using h4)).2] at h6
    cases h6

/-! ### The two tests -/

/-- The address is of the family of the subnet, and in its block. -/
def InCIDR (s : String) (x : Addr) : Prop :=
  ∃ a n, netParseCIDR s = some (a, n) ∧ x.is4 = n.ip.any Addr.is4 ∧ x ∈ n.addrs

theorem contains_iff_inCIDR {s : String} {a x : Addr} {n : IPNet}
    (h : netParseCIDR s = some (a, n)) : n.contains x = true ↔ InCIDR s x := by
  obtain ⟨b, k, w, rfl, hk, hform, -⟩ := netParseCIDR_form h
  have hin : InCIDR s x ↔ x.is4 = b.is4 ∧ x ∈ (⟨some b, k, w⟩ : IPNet).addrs := by
    simp [InCIDR, h]
  rw [hin]
  constructor
  · intro hx
    have h4 := IPNet.is4_of_contains hx
    exact ⟨h4, (IPNet.contains_iff_mem hform hk h4).1 hx⟩
  · rintro ⟨h4, hx⟩
    exact (IPNet.contains_iff_mem hform hk h4).2 hx

namespace Sample

end Sample

end Spiderpool
