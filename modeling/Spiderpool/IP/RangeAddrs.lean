/-
# Which addresses a range lists

The loop of `ParseIPRange` counts numbers, not addresses: after its first address
it lists `intToIP i` for every `i` up to the end, and ends only if none of these
is nil (`rangeLoop_ok`). Running out of fuel means that it never ends
(`rangeLoop_hang`).
-/

import Spiderpool.IP.Range

namespace Spiderpool

theorem rangeLoop_none (n : ℕ) (last : IP) (ips : List Addr) :
    rangeLoop n none last ips = .error .hang := by
  induction n generalizing ips with
  | zero => rfl
  | succ n ih => simp [rangeLoop, ih]

section

variable {n : ℕ} {c : Addr} {last cur : IP} {acc l : List Addr} {v : IPVersion}

theorem rangeLoop_ok (h : rangeLoop n (some c) last acc = .ok l) (hle : c.toInt ≤ IP.ipToInt last) :
    l = acc ++ c :: (List.range' (c.toInt + 1) (IP.ipToInt last - c.toInt)).filterMap IP.intToIP ∧
      ∀ i, c.toInt < i → i ≤ IP.ipToInt last → (IP.intToIP i).isSome := by
  induction n generalizing c acc with
  | zero => simp [rangeLoop] at h
  | succ n ih =>
    rw [rangeLoop, if_pos (by simpa using hle)] at h
    cases hnext : IP.nextIP (some c) with
    | none => simp [hnext, rangeLoop_none] at h
    | some c' =>
      have hc' : c'.toInt = c.toInt + 1 := IP.toInt_of_nextIP hnext
      have hint : IP.intToIP (c.toInt + 1) = some c' := hnext
      rw [hnext] at h
      rcases Nat.lt_or_ge (IP.ipToInt last) c'.toInt with hlt | hge
      · -- the next address is past the end, and the loop stops there
        have heq : IP.ipToInt last - c.toInt = 0 := by omega
        obtain ⟨n, rfl⟩ : ∃ m, n = m + 1 := by
          cases n with
          | zero => simp [rangeLoop] at h
          | succ m => exact ⟨m, rfl⟩
        rw [rangeLoop, if_neg (by simpa using hlt)] at h
        refine ⟨?_, fun i h1 h2 => by omega⟩
        rw [heq, ← Except.ok.inj h]
        rfl
      · obtain ⟨hl, hsome⟩ := ih h hge
        refine ⟨?_, fun i h1 h2 => ?_⟩
        · obtain ⟨d, hd⟩ : ∃ d, IP.ipToInt last - c.toInt = d + 1 :=
            ⟨IP.ipToInt last - c.toInt - 1, by omega⟩
          have hd' : IP.ipToInt last - (c.toInt + 1) = d := by omega
          rw [hl, hc', hd, hd', List.range'_succ, List.filterMap_cons_some hint]
          simp
        · rcases Nat.lt_or_ge c'.toInt i with h3 | h3
          · exact hsome i h3 h2
          · have : i = c.toInt + 1 := by omega
            rw [this, hint]
            rfl

theorem rangeLoop_counted
    (h : rangeLoop n (some c) last acc = .ok l) (hle : c.toInt ≤ IP.ipToInt last) :
    ∀ i, c.toInt < i → i ≤ IP.ipToInt last + 1 → (IP.intToIP i).isSome := by
  induction n generalizing c acc with
  | zero => simp [rangeLoop] at h
  | succ n ih =>
    rw [rangeLoop, if_pos (by simpa using hle)] at h
    cases hnext : IP.nextIP (some c) with
    | none => simp [hnext, rangeLoop_none] at h
    | some c' =>
      have hc' : c'.toInt = c.toInt + 1 := IP.toInt_of_nextIP hnext
      have hint : IP.intToIP (c.toInt + 1) = some c' := hnext
      rw [hnext] at h
      intro i hi hi'
      rcases Nat.lt_or_ge c'.toInt i with hlt | hge
      · exact ih h (by omega) i hlt hi'
      · obtain rfl : i = c.toInt + 1 := by omega
        rw [hint]
        rfl

theorem rangeLoop_total (last : IP) (n : ℕ) (c : Addr) (acc : List Addr)
    (hn : n = IP.ipToInt last + 2 - c.toInt) (hle : c.toInt ≤ IP.ipToInt last + 1)
    (hsome : ∀ i, c.toInt < i → i ≤ IP.ipToInt last + 1 → (IP.intToIP i).isSome) :
    ∃ l, rangeLoop n (some c) last acc = .ok l := by
  induction n generalizing c acc with
  | zero => omega
  | succ n ih =>
    rw [rangeLoop]
    split_ifs with hcur
    · rw [IP.ipToInt_some] at hcur
      obtain ⟨c', hc'⟩ := Option.isSome_iff_exists.1 (hsome (c.toInt + 1) (by omega) (by omega))
      have hint := IP.toInt_of_intToIP hc'
      have hnext : IP.nextIP (some c) = some c' := hc'
      rw [hnext]
      exact ih c' _ (by omega) (by omega) fun i h1 h2 => hsome i (by omega) h2
    · exact ⟨acc, rfl⟩

/-! ### One address -/

theorem isIPRange_ok {r : String} (h : isIPRange v r = .ok ()) :
    v = 4 ∧ isIPv4IPRange r = true ∨ v = 6 ∧ isIPv6IPRange r = true := by
  obtain ⟨hv, h⟩ := seq_eq_ok.1 h
  rw [isIPVersion_ok] at hv
  rw [failIf_eq_ok] at h
  simp only [Constant.ipv4, Constant.ipv6] at h
  rcases hv with rfl | rfl
  · exact .inl ⟨rfl, by simpa using h⟩
  · exact .inr ⟨rfl, by simpa using h⟩

theorem parseIPRange_string {a : Addr} (h : parseIPRange v a.string = .ok l) : l = [a] := by
  obtain ⟨-, h⟩ := seq_eq_ok.1 h
  rw [split_of_notMem (Addr.notMem_string (.inl rfl) a)] at h
  simpa using (Except.ok.inj h).symm

theorem parseIPRanges_string {as : List Addr}
    (h : parseIPRanges v (as.map Addr.string) = .ok l) : l = as := by
  induction as generalizing l with
  | nil => exact (Except.ok.inj h).symm
  | cons a as ih =>
    obtain ⟨ips, hips, h⟩ := bind_eq_ok.1 h
    obtain ⟨sum, hsum, h⟩ := bind_eq_ok.1 h
    rw [← Except.ok.inj h, parseIPRange_string hips, ih hsum]
    rfl

end

/-! ### The text of a range -/

/-- The text `r` is that of the address `x`, or of `x` and `y` with a dash between them. -/
inductive RangeText (r : String) : Addr → Addr → Prop
  | one {s : String} {x : Addr} (hsplit : split r '-' = [s]) (hx : parseIP s = some x) :
      RangeText r x x
  | two {s e : String} {x y : Addr} (hsplit : split r '-' = [s, e]) (hx : parseIP s = some x)
      (hy : parseIP e = some y) : RangeText r x y

/-- The separator by which `govalidator` tells the versions apart. -/
def familyMark (version : IPVersion) : Char := if version = Constant.ipv4 then '.' else ':'

theorem RangeText.rangeEnds_eq {r : String} {x y : Addr} (h : RangeText r x y) :
    rangeEnds r = (some x, some y) := by
  cases h with
  | one hsplit hx => rw [rangeEnds_one hsplit, hx]
  | two hsplit hx hy => rw [rangeEnds_two hsplit, hx, hy]

theorem isIPRange_iff {v : IPVersion} {r : String} {x y : Addr} (hv : v = 4 ∨ v = 6)
    (h : RangeText r x y) : isIPRange v r = .ok () ↔
      (∀ s ∈ split r '-', familyMark v ∈ s.toList) ∧ x.toInt ≤ y.toInt := by
  cases h with
  | one hsplit hx =>
    rcases hv with rfl | rfl <;>
      simp [isIPRange, isIPVersion, seq_eq_ok, isIPv4IPRange, isIPv6IPRange, isRangeOf, hsplit,
        isIPv4, isIPv6, hx, familyMark, Constant.ipv4, Constant.ipv6]
  | two hsplit hx hy =>
    rcases hv with rfl | rfl <;>
      simp [isIPRange, isIPVersion, seq_eq_ok, isIPv4IPRange, isIPv6IPRange, isRangeOf, hsplit,
        isIPv4, isIPv6, hx, hy, familyMark, Constant.ipv4, Constant.ipv6, and_assoc]

/-! ### Several addresses -/

/-- A range that starts inside `::/96` is of one address. -/
def LowRangeSingle (r : String) : Prop :=
  ∀ x y, rangeEnds r = (some x, some y) → x.val < 2 ^ 32 → x = y

section

variable {a x y : Addr} {v : IPVersion} {r : String} {l : List Addr} {rs : List String}

theorem IP.intToIP_toInt (h : (IP.intToIP a.toInt).isSome)
    (h' : a.is4 = true ∨ 2 ^ 32 ≤ a.val) : IP.intToIP a.toInt = some a := by
  obtain ⟨b, hb⟩ := Option.isSome_iff_exists.1 h
  have hval : b.val = a.val := by
    rcases Addr.toInt_cases a with ⟨ha, h1, h2⟩ | ⟨ha, h1, -⟩ <;>
      rcases IP.intToIP_cases hb with ⟨-, h3, -, h4⟩ | ⟨-, h3, h4⟩ <;>
      norm_num [ha] at h1 h' h3 h4 <;> omega
  rw [hb, Fin.ext hval]

theorem toInt_between (hx : 2 ^ 32 ≤ x.val) (hxa : x.val < a.val)
    (hay : a.val ≤ y.val) (hxy : x.toInt ≤ y.toInt)
    (hsome : ∀ i, x.toInt < i → i ≤ y.toInt → (IP.intToIP i).isSome) :
    x.toInt < a.toInt ∧ a.toInt ≤ y.toInt ∧ (a.is4 = true ∨ 2 ^ 32 ≤ a.val) := by
  have hgap : ∀ i, x.toInt < i → i ≤ y.toInt → i < 2 ^ 32 ∨ 2 ^ 120 ≤ i := by
    intro i h1 h2
    have := hsome i h1 h2
    unfold IP.intToIP at this
    split_ifs at this with h24 h120
    · exact .inl h24.2
    · exact .inr h120.1
    · simp at this
  norm_num at hgap hx
  rcases Addr.toInt_cases x with ⟨-, hx1, hx2⟩ | ⟨-, hx1, hx2⟩ <;>
    rcases Addr.toInt_cases y with ⟨-, hy1, hy2⟩ | ⟨-, hy1, hy2⟩ <;>
    norm_num at hx1 hx2 hy1 hy2
  · -- IPv4 ends
    rcases Addr.toInt_cases a with ⟨ha, ha1, -⟩ | ⟨-, -, ha1⟩ <;> norm_num at ha1
    · exact ⟨by omega, by omega, .inl ha⟩
    · omega
  · -- the count from an IPv4 address cannot pass `2 ^ 32`
    have := hgap (2 ^ 32) (by norm_num; omega) (by norm_num; omega)
    norm_num at this
  · omega
  · have := hgap (x.toInt + 1) (by omega) (by omega)
    rcases Addr.toInt_cases a with ⟨-, ha1, ha2⟩ | ⟨-, ha1, -⟩
    · norm_num at ha1 ha2
      omega
    · exact ⟨by omega, by omega, .inr (by norm_num; omega)⟩

theorem isIPRange_ends {s e : String} {t : List String}
    (h : isIPRange v r = .ok ()) (hr : split r '-' = s :: e :: t) :
    t = [] ∧ ∃ x y, parseIP s = some x ∧ parseIP e = some y ∧ x.toInt ≤ y.toInt := by
  have hof : ∀ f : String → Bool, (∀ s, f s = true → (parseIP s).isSome) → isRangeOf f r = true →
      t = [] ∧ ∃ x y, parseIP s = some x ∧ parseIP e = some y ∧ x.toInt ≤ y.toInt := by
    intro f hf h
    rw [isRangeOf, hr] at h
    cases t with
    | cons => simp at h
    | nil =>
      simp only [Bool.and_eq_true, Bool.not_eq_true', decide_eq_false_iff_not, not_lt] at h
      obtain ⟨x, hx⟩ := Option.isSome_iff_exists.1 (hf s h.1.1)
      obtain ⟨y, hy⟩ := Option.isSome_iff_exists.1 (hf e h.1.2)
      rw [hx, hy] at h
      exact ⟨rfl, x, y, hx, hy, h.2⟩
  rcases isIPRange_ok h with ⟨-, h⟩ | ⟨-, h⟩
  · refine hof isIPv4 (fun s hs => ?_) h
    exact (Bool.and_eq_true_iff.1 hs).1
  · refine hof isIPv6 (fun s hs => ?_) h
    exact (Bool.and_eq_true_iff.1 hs).1

theorem mem_of_parseIPRange (h : parseIPRange v r = .ok l) (hlow : LowRangeSingle r)
    (hr : rangeEnds r = (some x, some y)) (hxa : x ≤ a) (hay : a ≤ y) : a ∈ l := by
  obtain ⟨hrange, h⟩ := seq_eq_ok.1 h
  have hlow := hlow x y hr
  split at h <;> rename_i hsplit
  · -- one address
    rw [rangeEnds_one hsplit] at hr
    obtain ⟨hx, hy⟩ := Prod.mk.inj hr
    rw [hx] at h hy
    obtain rfl := Option.some.inj hy
    obtain rfl : a = x := le_antisymm hay hxa
    rw [← Except.ok.inj h]
    simp
  · obtain ⟨rfl, x', y', hx', hy', hxy⟩ := isIPRange_ends hrange hsplit
    rw [rangeEnds_two hsplit] at hr
    obtain ⟨hx, hy⟩ := Prod.mk.inj hr
    obtain rfl := Option.some.inj (hx.symm.trans hx')
    obtain rfl := Option.some.inj (hy.symm.trans hy')
    rw [hx, hy] at h
    split_ifs at h
    obtain ⟨hl, hsome⟩ := rangeLoop_ok h hxy
    rw [List.nil_append] at hl
    rcases eq_or_ne a x with rfl | hne
    · rw [hl]
      exact List.mem_cons_self
    have hxlt : x.val < a.val := lt_of_le_of_ne hxa fun h => hne (Fin.ext h.symm)
    have hbig : 2 ^ 32 ≤ x.val := by
      by_contra hsmall
      have := hlow (not_le.1 hsmall)
      have hya : a.val ≤ x.val := this ▸ hay
      omega
    have hint := toInt_between hbig hxlt hay hxy hsome
    rw [hl]
    refine List.mem_cons_of_mem _ (List.mem_filterMap.2 ⟨a.toInt, ?_, ?_⟩)
    · rw [List.mem_range'_1, IP.ipToInt_some]
      omega
    · exact IP.intToIP_toInt (hsome _ hint.1 hint.2.1) hint.2.2
  · exact absurd hsplit (split_ne_nil _ _)

theorem mem_parseIPRanges (h : parseIPRanges v rs = .ok l) (hr : r ∈ rs) :
    ∃ l', parseIPRange v r = .ok l' ∧ l' ⊆ l := by
  induction rs generalizing l with
  | nil => simp at hr
  | cons r' rs ih =>
    obtain ⟨ips, hips, h⟩ := bind_eq_ok.1 h
    obtain ⟨sum, hsum, h⟩ := bind_eq_ok.1 h
    obtain rfl := Except.ok.inj h
    rcases List.mem_cons.1 hr with rfl | hr
    · exact ⟨ips, hips, List.subset_append_left _ _⟩
    · obtain ⟨l', hl', hsub⟩ := ih hsum hr
      exact ⟨l', hl', fun a ha => List.mem_append_right _ (hsub ha)⟩

theorem exists_range_of_mem (h : parseIPRanges v rs = .ok l) (ha : a ∈ l) :
    ∃ r ∈ rs, ∃ l', parseIPRange v r = .ok l' ∧ a ∈ l' := by
  induction rs generalizing l with
  | nil =>
    rw [← Except.ok.inj h] at ha
    exact absurd ha List.not_mem_nil
  | cons r rs ih =>
    obtain ⟨ips, hips, h⟩ := bind_eq_ok.1 h
    obtain ⟨sum, hsum, h⟩ := bind_eq_ok.1 h
    rw [← Except.ok.inj h] at ha
    rcases List.mem_append.1 ha with ha | ha
    · exact ⟨r, List.mem_cons_self, ips, hips, ha⟩
    · obtain ⟨r', hr', hl'⟩ := ih hsum ha
      exact ⟨r', List.mem_cons_of_mem _ hr', hl'⟩

end

end Spiderpool
