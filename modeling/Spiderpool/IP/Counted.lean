/-
# Ranges that `ParseIPRange` can count

`ParseIPRange` asks for room for all addresses of a range at once, and then counts from the first to
the one after the last by way of `big.Int`. An accepted range of two addresses is listed as it
should be, from the first to the last in ascending order and each address once, exactly if
`RangeCounted` holds of it (`parseIPRange_exact_iff`): the room is there, and the count goes through
numbers of four bytes only, or of sixteen bytes only, up to and including the one after the last
address. At the last address of a family, and where the first byte is zero, there is no such number,
and the loop goes on for ever.
-/

import Spiderpool.IP.RangePlain

namespace Spiderpool

/-- The count from `x` to `y` goes through numbers of one length. A single address inside
`::/96` may be followed by an IPv4 address, which ends the loop as well. -/
def Addr.CountsTo (x y : Addr) : Prop :=
  (x.is4 = true ∧ y.is4 = true ∧ 2 ^ 24 ≤ x.toInt + 1 ∧ y.toInt + 1 < 2 ^ 32) ∨
    (x.is4 = false ∧ y.is4 = false ∧ 2 ^ 120 ≤ x.toInt + 1 ∧ y.toInt + 1 < 2 ^ 128) ∨
    x = y ∧ 2 ^ 24 ≤ x.toInt + 1 ∧ x.toInt + 1 < 2 ^ 32

/-- A range that is listed: one address, or two between which it is possible to count. -/
def RangeCounted (r : String) : Prop :=
  (split r '-').length = 1 ∨
    ∃ x y, rangeEnds r = (some x, some y) ∧ ¬capPanics (y.toInt - x.toInt) ∧ x.CountsTo y

/-- `ParseIPRange` lists the addresses of the range, ascending. -/
def ListsExactly (version : IPVersion) (r : String) : Prop :=
  ∃ l, parseIPRange version r = .ok l ∧ l.Pairwise (· < ·) ∧ ∀ a, a ∈ l ↔ a ∈ rangeSet r

/-! ### The loop -/

/-- The loop of `ParseIPRange` from `x` to `y` ends exactly if there is an address for every
number up to the one after the end, and then lists those addresses. -/
theorem rangeLoop_iff {x y : Addr} (hle : x.toInt ≤ y.toInt) {l : List Addr} :
    rangeLoop (y.toInt + 2 - x.toInt) (some x) (some y) [] = .ok l ↔
      (∀ i, x.toInt < i → i ≤ y.toInt + 1 → (IP.intToIP i).isSome) ∧
        l = x :: (List.range' (x.toInt + 1) (y.toInt - x.toInt)).filterMap IP.intToIP := by
  constructor
  · intro h
    exact ⟨rangeLoop_counted h hle, by simpa using (rangeLoop_ok h hle).1⟩
  · rintro ⟨hsome, rfl⟩
    obtain ⟨l, hl⟩ := rangeLoop_total (some y) _ x [] rfl (by simp; omega) hsome
    have hlist := (rangeLoop_ok hl hle).1
    rw [IP.ipToInt_some] at hl hlist
    rw [hl, hlist, List.nil_append]

theorem mem_filterMap_intToIP {a : Addr} {m n : ℕ} :
    a ∈ (List.range' (m + 1) (n - m)).filterMap IP.intToIP ↔
      m < a.toInt ∧ a.toInt ≤ n ∧ IP.intToIP a.toInt = some a := by
  rw [List.mem_filterMap]
  constructor
  · rintro ⟨i, hi, hia⟩
    have hint := IP.toInt_of_intToIP hia
    rw [List.mem_range'_1] at hi
    rw [hint]
    exact ⟨by omega, by omega, hia⟩
  · rintro ⟨hlow, hhigh, ha⟩
    exact ⟨a.toInt, List.mem_range'_1.2 (by omega), ha⟩

theorem pairwise_filterMap_intToIP (m k : ℕ) :
    ((List.range' m k).filterMap IP.intToIP).Pairwise fun a b => a.toInt < b.toInt := by
  have hrange : (List.range' m k).Pairwise (· < ·) := List.pairwise_lt_range'
  refine List.Pairwise.filterMap _ ?_ hrange
  intro i j hij a ha b hb
  rw [IP.toInt_of_intToIP ha, IP.toInt_of_intToIP hb]
  exact hij

theorem IP.isSome_intToIP {i : ℕ} :
    (IP.intToIP i).isSome ↔ 2 ^ 24 ≤ i ∧ i < 2 ^ 32 ∨ 2 ^ 120 ≤ i ∧ i < 2 ^ 128 := by
  unfold IP.intToIP
  split_ifs with h4 h16
  · exact iff_of_true rfl (.inl h4)
  · exact iff_of_true rfl (.inr h16)
  · exact iff_of_false (by simp) fun h => h.elim h4 h16

/-! ### Two addresses -/

namespace Addr.CountsTo

variable {x y : Addr}

theorem isSome (h : x.CountsTo y) {i : ℕ} (hxi : x.toInt < i) (hiy : i ≤ y.toInt + 1) :
    (IP.intToIP i).isSome := by
  rw [IP.isSome_intToIP]
  rcases h with ⟨-, -, h1, h2⟩ | ⟨-, -, h1, h2⟩ | ⟨rfl, h1, h2⟩ <;> omega

/-- The addresses between the ends, and the addresses of the numbers between those of the ends,
are of one family: their bytes and their numbers differ by a constant. -/
theorem exists_offset (h : x.CountsTo y) (hle : x.toInt ≤ y.toInt) :
    ∃ c, x.val = c + x.toInt ∧ y.val = c + y.toInt ∧ ∀ a : Addr,
      (a ∈ Set.Icc x y → a.val = c + a.toInt ∧ (x < a → a.is4 = true ∨ 2 ^ 32 ≤ a.val)) ∧
      (x.toInt < a.toInt → a.toInt ≤ y.toInt → IP.intToIP a.toInt = some a →
        a.val = c + a.toInt) := by
  have hx := Addr.toInt_cases x
  have hy := Addr.toInt_cases y
  have hlt : ∀ a b : Addr, a < b ↔ a.val < b.val := fun _ _ => Fin.lt_def
  rcases h with ⟨hx4, hy4, h1, h2⟩ | ⟨hx4, hy4, h1, h2⟩ | ⟨rfl, h1, h2⟩
  · simp only [hx4, hy4, true_and, reduceCtorEq, false_and, or_false] at hx hy
    refine ⟨0xffff * 2 ^ 32, hx.1, hy.1, fun a => ⟨?_, ?_⟩⟩
    · rintro ⟨hxa, hay⟩
      have hbounds := And.intro (Fin.le_def.1 hxa) (Fin.le_def.1 hay)
      rcases Addr.toInt_cases a with ⟨ha, hval, -⟩ | ⟨-, hval, hout⟩
      · exact ⟨hval, fun _ => .inl ha⟩
      · omega
    · intro h3 h4 ha
      rcases IP.intToIP_cases ha with ⟨-, hval, -⟩ | ⟨-, -, hbig⟩
      · exact hval
      · omega
  · simp only [hx4, hy4, true_and, reduceCtorEq, false_and, false_or] at hx hy
    refine ⟨0, by omega, by omega, fun a => ⟨?_, ?_⟩⟩
    · rintro ⟨hxa, hay⟩
      have hbounds := And.intro (Fin.le_def.1 hxa) (Fin.le_def.1 hay)
      rcases Addr.toInt_cases a with ⟨-, hval, hsmall⟩ | ⟨-, hval, -⟩
      · omega
      · exact ⟨by omega, fun _ => .inr (by omega)⟩
    · intro h3 h4 ha
      rcases IP.intToIP_cases ha with ⟨-, -, -, hsmall⟩ | ⟨-, hval, -⟩
      · omega
      · omega
  · -- one address, between whose ends there is no other
    have hself : x.toInt ≤ x.val := by
      rcases hx with ⟨-, hval, -⟩ | ⟨-, hval, -⟩ <;> omega
    refine ⟨x.val - x.toInt, by omega, by omega, fun a => ⟨?_, fun h3 h4 => by omega⟩⟩
    rintro ⟨hxa, hay⟩
    obtain rfl := le_antisymm hay hxa
    exact ⟨by omega, fun hlt => absurd hlt (lt_irrefl _)⟩

end Addr.CountsTo

theorem Addr.CountsTo.listing {x y : Addr} (h : x.CountsTo y) (hle : x.toInt ≤ y.toInt) :
    (x :: (List.range' (x.toInt + 1) (y.toInt - x.toInt)).filterMap IP.intToIP).Pairwise (· < ·) ∧
      ∀ a, a ∈ x :: (List.range' (x.toInt + 1) (y.toInt - x.toInt)).filterMap IP.intToIP ↔
        a ∈ Set.Icc x y := by
  obtain ⟨c, hx, hy, hall⟩ := h.exists_offset hle
  have hafter : ∀ a ∈ (List.range' (x.toInt + 1) (y.toInt - x.toInt)).filterMap IP.intToIP,
      x.toInt < a.toInt ∧ a.toInt ≤ y.toInt ∧ a.val = c + a.toInt := by
    intro a ha
    obtain ⟨h1, h2, h3⟩ := mem_filterMap_intToIP.1 ha
    exact ⟨h1, h2, (hall a).2 h1 h2 h3⟩
  constructor
  · refine List.pairwise_cons.2 ⟨fun a ha => ?_, ?_⟩
    · have := hafter a ha
      exact Fin.lt_def.2 (by omega)
    · refine (pairwise_filterMap_intToIP _ _).imp_of_mem fun {a b} ha hb hab => ?_
      have h1 := hafter a ha
      have h2 := hafter b hb
      exact Fin.lt_def.2 (by omega)
  · intro a
    rw [List.mem_cons]
    constructor
    · rintro (rfl | ha)
      · exact ⟨le_rfl, Fin.le_def.2 (by omega)⟩
      · have := hafter a ha
        exact ⟨Fin.le_def.2 (by omega), Fin.le_def.2 (by omega)⟩
    · intro ha
      obtain ⟨hval, hlarge⟩ := (hall a).1 ha
      have hay := Fin.le_def.1 ha.2
      rcases eq_or_lt_of_le ha.1 with rfl | hlt
      · exact .inl rfl
      · have hxa := Fin.lt_def.1 hlt
        refine .inr (mem_filterMap_intToIP.2 ⟨by omega, by omega, ?_⟩)
        exact IP.intToIP_toInt (h.isSome (by omega) (by omega)) (hlarge hlt)

theorem Addr.CountsTo.of_listing {x y : Addr} (hle : x.toInt ≤ y.toInt)
    (hsome : ∀ i, x.toInt < i → i ≤ y.toInt + 1 → (IP.intToIP i).isSome)
    (hmem : ∀ a, a ∈ x :: (List.range' (x.toInt + 1) (y.toInt - x.toInt)).filterMap IP.intToIP ↔
      a ∈ Set.Icc x y) : x.CountsTo y := by
  have hxy : x.val ≤ y.val := Fin.le_def.1 ((hmem x).1 List.mem_cons_self).2
  have hfirst := IP.isSome_intToIP.1 (hsome (x.toInt + 1) (by omega) (by omega))
  have hlast := IP.isSome_intToIP.1 (hsome (y.toInt + 1) (by omega) le_rfl)
  -- an address between the ends that is not IPv4 is the first one, or has sixteen bytes
  have hwide : ∀ n < 0xffff * 2 ^ 32, x.val < n → n ≤ y.val → 2 ^ 120 ≤ n := by
    intro n hn hxn hny
    have hval : (Addr.ofNat n).val = n := Addr.val_ofNat (by omega)
    have hin : Addr.ofNat n ∈ Set.Icc x y :=
      ⟨Fin.le_def.2 (by omega), Fin.le_def.2 (by omega)⟩
    rcases List.mem_cons.1 ((hmem _).2 hin) with heq | hlist
    · rw [heq] at hval
      omega
    · obtain ⟨-, -, ha⟩ := mem_filterMap_intToIP.1 hlist
      rcases IP.intToIP_cases ha with ⟨-, hv, -⟩ | ⟨-, hv, hbig⟩ <;> omega
  unfold Addr.CountsTo
  rcases Addr.toInt_cases x with ⟨hx4, hx, hx'⟩ | ⟨hx4, hx, hx'⟩ <;>
    rcases Addr.toInt_cases y with ⟨hy4, hy, hy'⟩ | ⟨hy4, hy, hy'⟩
  · exact .inl ⟨hx4, hy4, by omega, by omega⟩
  · -- the count from an IPv4 address cannot pass `2 ^ 32`
    have hgap := IP.isSome_intToIP.1 (hsome (2 ^ 32) (by omega) (by omega))
    omega
  · have := hwide (2 ^ 40) (by norm_num) (by omega) (by omega)
    omega
  · rcases hfirst with hfirst | hfirst
    · -- the count would go on with an IPv4 address
      have heq : x = y := by
        by_contra hne
        have hlt : x.val < y.val := lt_of_le_of_ne hxy fun h => hne (Fin.ext h)
        have := hwide (x.val + 1) (by omega) (by omega) (by omega)
        omega
      exact .inr (.inr ⟨heq, hfirst⟩)
    · exact .inr (.inl ⟨hx4, hy4, hfirst.1, by omega⟩)

/-! ### Ranges -/

section

variable {v : IPVersion} {r : String} {rs : List String}

theorem parseIPRange_accepted (h : isIPRange v r = .ok ()) :
    ∃ x y, rangeEnds r = (some x, some y) ∧ x.toInt ≤ y.toInt ∧
      ((split r '-').length = 1 ∧ x = y ∧ parseIPRange v r = .ok [x] ∨
        (split r '-').length ≠ 1 ∧ parseIPRange v r =
          if capPanics (y.toInt - x.toInt) then .error .panic
          else rangeLoop (y.toInt + 2 - x.toInt) (some x) (some y) []) := by
  obtain ⟨x, y, hr, hle⟩ := isIPRange_rangeEnds h
  refine ⟨x, y, hr, hle, ?_⟩
  rcases hsplit : split r '-' with _ | ⟨s, _ | ⟨e, t⟩⟩
  · exact absurd hsplit (split_ne_nil _ _)
  · rw [rangeEnds_one hsplit] at hr
    obtain ⟨hx, hy⟩ := Prod.mk.inj hr
    refine .inl ⟨rfl, Option.some.inj (hx.symm.trans hy), ?_⟩
    simp [parseIPRange, h, hsplit, hx, bind, Except.bind]
  · obtain ⟨rfl, -⟩ := isIPRange_ends h hsplit
    rw [rangeEnds_two hsplit] at hr
    obtain ⟨hx, hy⟩ := Prod.mk.inj hr
    refine .inr ⟨by simp, ?_⟩
    simp [parseIPRange, h, hsplit, hx, hy, bind, Except.bind]

theorem rangeSet_eq {x y : Addr} (hr : rangeEnds r = (some x, some y)) :
    rangeSet r = Set.Icc x y := by
  ext a
  simp [rangeSet, hr]

theorem listsExactly_iff (h : isIPRange v r = .ok ()) : ListsExactly v r ↔ RangeCounted r := by
  obtain ⟨x, y, hr, hle, ⟨hone, rfl, hparse⟩ | ⟨htwo, hparse⟩⟩ := parseIPRange_accepted h
  · refine iff_of_true ⟨[x], hparse, List.pairwise_singleton _ _, fun a => ?_⟩ (.inl hone)
    rw [rangeSet_eq hr, Set.Icc_self, List.mem_singleton, Set.mem_singleton_iff]
  · unfold ListsExactly
    rw [hparse, rangeSet_eq hr]
    constructor
    · rintro ⟨l, hl, -, hmem⟩
      split_ifs at hl with hcap
      obtain ⟨hsome, rfl⟩ := (rangeLoop_iff hle).1 hl
      exact .inr ⟨x, y, hr, hcap, .of_listing hle hsome hmem⟩
    · intro hcounted
      obtain ⟨x', y', hr', hcap, hcount⟩ := hcounted.resolve_left htwo
      obtain ⟨h1, h2⟩ := Prod.mk.inj (hr.symm.trans hr')
      obtain rfl := Option.some.inj h1
      obtain rfl := Option.some.inj h2
      rw [if_neg hcap]
      obtain ⟨hsorted, hmem⟩ := hcount.listing hle
      exact ⟨_, (rangeLoop_iff hle).2 ⟨fun i h1 h2 => hcount.isSome h1 h2, rfl⟩, hsorted, hmem⟩

/-! ### Lists of ranges -/

end

namespace Sample

end Sample

end Spiderpool
