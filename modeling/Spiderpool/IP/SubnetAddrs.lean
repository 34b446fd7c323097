/-
# The addresses of a pool, and the intervals `NewCIDR` makes of them

What the texts of a pool are for is a set of addresses, `totalSet`: those of its
ranges that none of its excluded ranges holds. A range in the wrong order is read
from its smaller to its larger end here when it is included, as `NewCIDR` reads it,
and as empty when it is excluded, so that the set is the largest that any part of
the code takes it for.
-/

import Spiderpool.IP.Subnet

namespace Spiderpool

/-! ### Lists related one by one -/

theorem exists_left_of_forall₂ {α β : Type*} {R : α → β → Prop} {xs : List α} {ys : List β}
    (h : List.Forall₂ R xs ys) {y : β} (hy : y ∈ ys) : ∃ x ∈ xs, R x y := by
  induction h with
  | nil => exact absurd hy List.not_mem_nil
  | cons hxy _ ih =>
    rcases List.mem_cons.1 hy with rfl | hy
    · exact ⟨_, List.mem_cons_self, hxy⟩
    · obtain ⟨x, hx, hR⟩ := ih hy
      exact ⟨x, List.mem_cons_of_mem _ hx, hR⟩

theorem exists_right_of_forall₂ {α β : Type*} {R : α → β → Prop} {xs : List α} {ys : List β}
    (h : List.Forall₂ R xs ys) {x : α} (hx : x ∈ xs) : ∃ y ∈ ys, R x y :=
  exists_left_of_forall₂ h.flip hx

theorem pairwise_of_forall₂ {α β : Type*} {R : α → β → Prop} {S : α → α → Prop}
    {T : β → β → Prop} {xs : List α} {ys : List β} (h : List.Forall₂ R xs ys) (hys : ys.Pairwise T)
    (hST : ∀ x x' y y', R x y → R x' y' → T y y' → S x x') : xs.Pairwise S := by
  induction h with
  | nil => exact .nil
  | cons hxy hrest ih =>
    rw [List.pairwise_cons] at hys
    refine List.pairwise_cons.2 ⟨fun x' hx' => ?_, ih hys.2⟩
    obtain ⟨y', hy', hxy'⟩ := exists_right_of_forall₂ hrest hx'
    exact hST _ _ _ _ hxy hxy' (hys.1 y' hy')

/-! ### Intervals -/

namespace Range

theorem has_remove {e : Range} {x y n : ℕ} :
    (∃ r ∈ e.remove x y, r.Has n) ↔ e.Has n ∧ ¬(x ≤ n ∧ n ≤ y) := by
  unfold remove
  split_ifs <;> simp [Has] <;> omega

theorem overlaps_of_has {x y : Range} {n : ℕ} (hx : x.Has n) (hy : y.Has n) :
    x.overlaps y = true := by
  obtain ⟨h1, h2⟩ := hx
  obtain ⟨h3, h4⟩ := hy
  simp only [overlaps, Bool.or_eq_true, decide_eq_true_eq]
  omega

end Range

/-- Some interval of the list holds `n`. -/
def Covers (rs : List Range) (n : ℕ) : Prop := ∃ r ∈ rs, r.Has n

theorem covers_removeExcludeIPRange {base exclude : List Range} {n : ℕ} :
    Covers (removeExcludeIPRange base exclude) n ↔ Covers base n ∧ ∀ e ∈ exclude, ¬e.Has n := by
  induction exclude generalizing base with
  | nil => simp [removeExcludeIPRange]
  | cons e exclude ih =>
    have hstep : Covers (base.flatMap fun r => r.remove e.start e.stop) n ↔
        Covers base n ∧ ¬e.Has n := by
      constructor
      · rintro ⟨r, hr, hn⟩
        obtain ⟨b, hb, hrb⟩ := List.mem_flatMap.1 hr
        obtain ⟨hbn, hen⟩ := Range.has_remove.1 ⟨r, hrb, hn⟩
        exact ⟨⟨b, hb, hbn⟩, hen⟩
      · rintro ⟨⟨b, hb, hbn⟩, hen⟩
        obtain ⟨r, hr, hn⟩ := Range.has_remove.2 ⟨hbn, hen⟩
        exact ⟨r, List.mem_flatMap.2 ⟨b, hb, hr⟩, hn⟩
    rw [removeExcludeIPRange, List.foldl_cons, ← removeExcludeIPRange, ih, hstep,
      List.forall_mem_cons, and_assoc]

theorem not_covers_of_not_overlap {c : CIDR} {rs : List Range} (h : c.isOverlapIPRanges rs = [])
    {n : ℕ} (hc : Covers c.ranges n) : ¬Covers rs n := by
  rintro ⟨y, hy, hyn⟩
  obtain ⟨x, hx, hxn⟩ := hc
  have hmem : y.raw ∈ c.isOverlapIPRanges rs := by
    refine List.mem_flatMap.2 ⟨x, hx, List.mem_map.2 ⟨y, ?_, rfl⟩⟩
    exact List.mem_filter.2 ⟨hy, Range.overlaps_of_has hxn hyn⟩
  rw [h] at hmem
  exact absurd hmem List.not_mem_nil

/-! ### Addresses -/

/-- The addresses of a range, whichever of its ends comes first. -/
def spanSet (r : String) : Set Addr :=
  {a | ∃ x y, rangeEnds r = (some x, some y) ∧ a ∈ Set.uIcc x y}

def rangeSet (r : String) : Set Addr :=
  {a | ∃ x y, rangeEnds r = (some x, some y) ∧ a ∈ Set.Icc x y}

/-- The total IP addresses of a pool: those of `spec.ips` without those of
`spec.excludeIPs`. -/
def totalSet (ips excludeIPs : List String) : Set Addr :=
  {a | (∃ r ∈ ips, a ∈ spanSet r) ∧ ∀ r ∈ excludeIPs, a ∉ rangeSet r}

/-- The number `convertIPtoBigInt` makes of an address in a subnet whose lowest
address is `b`. -/
def subnetNum (b a : Addr) : ℕ := if b.is4 then a.low32 else a.val

/-- The base of a subnet written as `IsFormatCIDR` wants it. -/
structure CIDR.Formatted (c : CIDR) (b : Addr) (k : ℕ) : Prop where
  base : c.base = ⟨some b, k, if b.is4 then 32 else 128⟩
  isIPv4 : c.isIPv4 = b.is4

def InSubnet (b : Addr) (k : ℕ) (a : Addr) : Prop :=
  a.is4 = b.is4 ∧ SameBlock ((if b.is4 then 32 else 128) - k) a.val b.val

/-- The base contains the addresses of the subnet, however it is written. -/
structure CIDR.Based (c : CIDR) (b : Addr) (k : ℕ) : Prop where
  contains : ∀ a, c.base.contains a = true ↔ InSubnet b k a
  isIPv4 : c.isIPv4 = b.is4

theorem CIDR.Formatted.based {c : CIDR} {b : Addr} {k : ℕ} (hc : c.Formatted b k) :
    c.Based b k := by
  refine ⟨fun a => ?_, hc.isIPv4⟩
  rw [hc.base, IPNet.contains_iff]
  rfl

theorem split_eq_singleton {s t : String} {c : Char} (h : split s c = [t]) : t = s := by
  have hsplit : s.toList.splitOn c = [t.toList] := by
    have := congrArg (List.map String.toList) h
    simpa [split] using this
  have hs : [c].intercalate (s.toList.splitOn c) = s.toList := List.intercalate_splitOn c
  rw [hsplit] at hs
  simpa using congrArg String.ofList hs

variable {c : CIDR} {b : Addr} {k : ℕ}

section

variable {t base : String} {x y a : Addr} {c' : CIDR} {items ips excludeIPs : List String}

theorem CIDR.Based.convert_ok (hc : c.Based b k) {n : ℕ} (h : c.convertIPtoBigInt t = .ok n) :
    ∃ x, parseIP t = some x ∧ n = subnetNum b x ∧ InSubnet b k x := by
  unfold CIDR.convertIPtoBigInt at h
  cases hx : parseIP t with
  | none => simp [hx] at h
  | some x =>
    simp only [hx] at h
    split_ifs at h with hin h4 hx4
    · refine ⟨x, rfl, by simp [subnetNum, ← hc.isIPv4, h4, ← Except.ok.inj h], ?_⟩
      exact (hc.contains x).1 hin
    · simp at h
    · refine ⟨x, rfl, by simp [subnetNum, ← hc.isIPv4, h4, ← Except.ok.inj h], ?_⟩
      exact (hc.contains x).1 hin
    · simp at h

theorem CIDR.Based.parse_ok (hc : c.Based b k) {p : ℕ × ℕ} (h : c.parse t = .ok p) :
    ∃ x y, rangeEnds t = (some x, some y) ∧ p = (subnetNum b x, subnetNum b y) ∧
      InSubnet b k x ∧ InSubnet b k y := by
  unfold CIDR.parse at h
  split at h
  · rename_i hsplit
    split_ifs at h
    · simp at h
    obtain ⟨n, hn, h⟩ := bind_eq_ok.1 h
    obtain ⟨x, hx, rfl, hin⟩ := hc.convert_ok hn
    rw [split_eq_singleton hsplit] at hsplit
    exact ⟨x, x, by rw [rangeEnds_one hsplit, hx], (Except.ok.inj h).symm, hin, hin⟩
  · rename_i hsplit
    obtain ⟨n, hn, h⟩ := bind_eq_ok.1 h
    obtain ⟨m, hm, h⟩ := bind_eq_ok.1 h
    obtain ⟨x, hx, rfl, hinx⟩ := hc.convert_ok hn
    obtain ⟨y, hy, rfl, hiny⟩ := hc.convert_ok hm
    exact ⟨x, y, by rw [rangeEnds_two hsplit, hx, hy], (Except.ok.inj h).symm, hinx, hiny⟩
  · simp at h

theorem InSubnet.between (hx : InSubnet b k x) (hy : InSubnet b k y)
    (ha : a ∈ Set.uIcc x y) : SameBlock ((if b.is4 then 32 else 128) - k) a.val b.val := by
  rcases Set.mem_uIcc.1 ha with ⟨h1, h2⟩ | ⟨h1, h2⟩
  · exact hx.2.between hy.2 h1 h2
  · exact hy.2.between hx.2 h1 h2

theorem InSubnet.is4_between (hx : InSubnet b k x) (hy : InSubnet b k y)
    (ha : a ∈ Set.uIcc x y) (h4 : b.is4 = true) : a.is4 = true := by
  have hxv := Addr.is4_iff.1 (hx.1.trans h4)
  have hyv := Addr.is4_iff.1 (hy.1.trans h4)
  have hxl := x.low32_lt
  have hyl := y.low32_lt
  rw [Addr.is4_iff, Addr.low32]
  rcases Set.mem_uIcc.1 ha with ⟨h1, h2⟩ | ⟨h1, h2⟩ <;> rw [Fin.le_def] at h1 h2 <;> omega

theorem InSubnet.num_le (hx : InSubnet b k x) (hy : InSubnet b k y)
    (ha : a ∈ Set.uIcc x y) {z : Addr} (hz : InSubnet b k z) :
    (subnetNum b z ≤ subnetNum b a ↔ z ≤ a) ∧ (subnetNum b a ≤ subnetNum b z ↔ a ≤ z) := by
  have hle : ∀ u w : Addr, u ≤ w ↔ u.val ≤ w.val := fun _ _ => Fin.le_def
  unfold subnetNum
  cases h4 : b.is4 with
  | false => exact ⟨(hle _ _).symm, (hle _ _).symm⟩
  | true =>
    have hzv := Addr.is4_iff.1 (hz.1.trans h4)
    have hav := Addr.is4_iff.1 (hx.is4_between hy ha h4)
    simp only [if_true, hle]
    omega

/-! ### `NewCIDR` -/

theorem addIncludeRange_ok {r : Range} (h : c.addIncludeRange r = .ok c') :
    c'.base = c.base ∧ c'.isIPv4 = c.isIPv4 ∧
      ∃ a, c'.ranges = c.ranges ++ [a] ∧ ∀ n, a.Has n ↔ n ∈ Set.uIcc r.start r.stop := by
  unfold CIDR.addIncludeRange at h
  obtain ⟨-, h⟩ := seq_eq_ok.1 h
  obtain rfl := Except.ok.inj h
  refine ⟨rfl, rfl, _, rfl, fun n => ?_⟩
  rw [Set.mem_uIcc]
  split_ifs <;> simp only [Range.Has] <;> omega

theorem CIDR.Based.addIncludeRanges_ok (hc : c.Based b k) (h : c.addIncludeRanges items = .ok c') :
    c'.Based b k ∧ ∃ added, c'.ranges = c.ranges ++ added ∧
      List.Forall₂ (fun t r => ∃ x y, rangeEnds t = (some x, some y) ∧ InSubnet b k x ∧
        InSubnet b k y ∧ ∀ n, r.Has n ↔ n ∈ Set.uIcc (subnetNum b x) (subnetNum b y))
        items added := by
  induction items generalizing c with
  | nil =>
    obtain rfl := Except.ok.inj h
    exact ⟨hc, [], (List.append_nil _).symm, .nil⟩
  | cons item items ih =>
    obtain ⟨p, hp, hrest⟩ := bind_eq_ok.1 h
    obtain ⟨c₁, hadd, hrest⟩ := bind_eq_ok.1 hrest
    obtain ⟨x, y, hends, hxy, hx, hy⟩ := hc.parse_ok hp
    rw [hxy] at hadd
    obtain ⟨hbase, h4, r, hr, hhas⟩ := addIncludeRange_ok hadd
    have hc₁ : c₁.Based b k := ⟨fun a => by rw [hbase, hc.contains], h4.trans hc.isIPv4⟩
    obtain ⟨hc', added, hadded, hitems⟩ := ih hc₁ hrest
    refine ⟨hc', r :: added, ?_, .cons ⟨x, y, hends, hx, hy, hhas⟩ hitems⟩
    rw [hadded, hr, List.append_assoc, List.singleton_append]

theorem CIDR.Based.excludeRanges_ok (hc : c.Based b k)
    {rs : List Range} (h : c.excludeRanges items = .ok rs) :
    List.Forall₂ (fun t r => ∃ x y, rangeEnds t = (some x, some y) ∧ InSubnet b k x ∧
      InSubnet b k y ∧ r.start = subnetNum b x ∧ r.stop = subnetNum b y) items rs := by
  induction items generalizing rs with
  | nil =>
    obtain rfl := Except.ok.inj h
    exact .nil
  | cons item items ih =>
    obtain ⟨p, hp, h⟩ := bind_eq_ok.1 h
    obtain ⟨rs', hrs, h⟩ := bind_eq_ok.1 h
    obtain rfl := Except.ok.inj h
    obtain ⟨x, y, hends, rfl, hx, hy⟩ := hc.parse_ok hp
    exact .cons ⟨x, y, hends, hx, hy, rfl, rfl⟩ (ih hrs)

theorem newCIDR_ends {c : CIDR} (h : newCIDR base ips excludeIPs = .ok c)
    (hbase : netParseCIDR base = some (b, ⟨some b, k, if b.is4 then 32 else 128⟩))
    (ht : t ∈ ips) :
    ∃ x y, rangeEnds t = (some x, some y) ∧ InSubnet b k x ∧ InSubnet b k y := by
  unfold newCIDR at h
  simp only [hbase] at h
  obtain ⟨c₁, hinc, h⟩ := bind_eq_ok.1 h
  have hformatted : CIDR.Formatted ⟨⟨some b, k, if b.is4 then 32 else 128⟩, _, []⟩ b k := ⟨rfl, rfl⟩
  obtain ⟨-, added, -, hitems⟩ := hformatted.based.addIncludeRanges_ok hinc
  obtain ⟨r, -, x, y, hends, hx, hy, -⟩ := exists_right_of_forall₂ hitems ht
  exact ⟨x, y, hends, hx, hy⟩

theorem newCIDR_covers {c : CIDR} (h : newCIDR base ips excludeIPs = .ok c)
    (hbase : netParseCIDR base = some (b, ⟨some b, k, if b.is4 then 32 else 128⟩))
    (ha : a ∈ totalSet ips excludeIPs) :
    Covers c.ranges (subnetNum b a) ∧
      SameBlock ((if b.is4 then 32 else 128) - k) a.val b.val := by
  unfold newCIDR at h
  simp only [hbase] at h
  obtain ⟨c₁, hinc, h⟩ := bind_eq_ok.1 h
  obtain ⟨ex, hex, h⟩ := bind_eq_ok.1 h
  obtain rfl := Except.ok.inj h
  have hformatted : CIDR.Formatted ⟨⟨some b, k, if b.is4 then 32 else 128⟩, _, []⟩ b k := ⟨rfl, rfl⟩
  obtain ⟨hc₁, added, hadded, hitems⟩ := hformatted.based.addIncludeRanges_ok hinc
  obtain ⟨⟨t, ht, x, y, hends, hbetween⟩, hnot⟩ := ha
  obtain ⟨r, hr, x', y', hends', hx, hy, hhas⟩ := exists_right_of_forall₂ hitems ht
  obtain ⟨hxx, hyy⟩ := Prod.mk.inj (hends.symm.trans hends')
  obtain rfl := Option.some.inj hxx
  obtain rfl := Option.some.inj hyy
  refine ⟨?_, hx.between hy hbetween⟩
  have hxa := hx.num_le hy hbetween hx
  have hya := hx.num_le hy hbetween hy
  rw [covers_removeExcludeIPRange]
  constructor
  · refine ⟨r, by rw [hadded]; exact List.mem_append_right _ hr, (hhas _).2 ?_⟩
    rw [Set.mem_uIcc] at hbetween ⊢
    rwa [hxa.1, hxa.2, hya.1, hya.2]
  · rintro r hr ⟨h1, h2⟩
    obtain ⟨t', ht', x', y', hends', hx', hy', hs, he⟩ :=
      exists_left_of_forall₂ (hc₁.excludeRanges_ok hex) hr
    rw [hs] at h1
    rw [he] at h2
    refine hnot t' ht' ⟨x', y', hends', ?_, ?_⟩
    · exact (hx.num_le hy hbetween hx').1.1 h1
    · exact (hx.num_le hy hbetween hy').2.1 h2

end

end Spiderpool
