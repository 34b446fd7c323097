/-
# The label of a subnet

`CIDRToLabelValue` makes a label of a subnet by writing dashes for its separators: for three dots,
seven colons and one slash. A subnet that `IsFormatCIDR` accepts is the text of an address, a
slash and digits, and has no more separators than that (`count_colon_text6`), so that its label has
a dash for each (`cidrToLabelValue_text`).

From the label the subnet can be told (`cidrToLabelValue_injective`). The last dash was the slash.
Of the other dashes it is not written whether they were dots or colons, but the text of an IPv4
address with colons for its dots would be four groups, which are not an IPv6 address
(`parseAddr_colons`).
-/

import Spiderpool.IP.CIDR

namespace Spiderpool

namespace Text

/-! ### Separators -/

/-- What `CIDRToLabelValue` writes for a character. -/
def dash (c : Char) : Char := if c = '.' ∨ c = ':' ∨ c = '/' then '-' else c

/-- What stood for a dash, if it was `sep`. -/
def undash (sep c : Char) : Char := if c = '-' then sep else c

theorem replaceDash_of_count {old : Char} {n : ℕ} {s : List Char} (h : s.count old ≤ n) :
    replaceDash old n s = s.map fun c => if c = old then '-' else c := by
  induction s generalizing n with
  | nil => cases n <;> rfl
  | cons c s ih =>
    by_cases hc : c = old
    · subst hc
      rw [List.count_cons_self] at h
      obtain ⟨n, rfl⟩ : ∃ m, n = m + 1 := ⟨n - 1, by omega⟩
      simp [replaceDash, ih (Nat.le_of_succ_le_succ h)]
    · rw [List.count_cons_of_ne hc] at h
      cases n with
      | zero =>
        have hs := ih h
        rw [replaceDash] at hs
        rw [replaceDash, List.map_cons, if_neg hc, ← hs]
      | succ n => simp [replaceDash, hc, ih h]

theorem count_map_dash {old x : Char} (hx : x ≠ old) (hdash : x ≠ '-') (s : List Char) :
    (s.map fun c => if c = old then '-' else c).count x = s.count x := by
  induction s with
  | nil => rfl
  | cons c s ih =>
    rw [List.map_cons, List.count_cons, List.count_cons, ih]
    congr 1
    by_cases hc : c = old
    · simp [hc, hx.symm, hdash.symm]
    · simp [hc]

theorem replaceDash_label {s : List Char} (hdot : s.count '.' ≤ 3) (hcolon : s.count ':' ≤ 7)
    (hslash : s.count '/' ≤ 1) :
    replaceDash '/' 1 (replaceDash ':' 7 (replaceDash '.' 3 s)) = s.map dash := by
  have hcolon' : (s.map fun c => if c = '.' then '-' else c).count ':' ≤ 7 := by
    rwa [count_map_dash (by decide) (by decide)]
  have hslash' : ((s.map fun c => if c = '.' then '-' else c).map
      fun c => if c = ':' then '-' else c).count '/' ≤ 1 := by
    rwa [count_map_dash (by decide) (by decide), count_map_dash (by decide) (by decide)]
  rw [replaceDash_of_count hdot, replaceDash_of_count hcolon', replaceDash_of_count hslash',
    List.map_map, List.map_map]
  refine List.map_congr_left fun c _ => ?_
  by_cases h1 : c = '.' <;> by_cases h2 : c = ':' <;> by_cases h3 : c = '/' <;>
    simp [dash, h1, h2, h3]

theorem count_joinWith {sep : Char} {ts : List (List Char)} (h : ∀ t ∈ ts, sep ∉ t) :
    (joinWith sep ts).count sep = ts.length - 1 := by
  induction ts with
  | nil => rfl
  | cons t ts ih =>
    rw [List.forall_mem_cons] at h
    cases ts with
    | nil => exact List.count_eq_zero.2 h.1
    | cons t' ts =>
      rw [joinWith, List.count_append, List.count_eq_zero.2 h.1, List.count_cons_self, ih h.2]
      · simp
      · simp

theorem zeroRun_two (gs : List ℕ) (i : ℕ) {best : ℕ × ℕ} (h : best.2 = 0 ∨ 2 ≤ best.2) :
    (zeroRun gs i best).2 = 0 ∨ 2 ≤ (zeroRun gs i best).2 := by
  induction gs generalizing i best with
  | nil => exact h
  | cons g gs ih =>
    rw [zeroRun]
    refine ih _ ?_
    split_ifs with hz
    · exact .inr hz.1
    · exact h

theorem colon_notMem_appendHex {gs : List ℕ} (hgs : ∀ g ∈ gs, g < 65536) :
    ∀ t ∈ gs.map appendHex, ':' ∉ t := by
  intro t ht hc
  obtain ⟨g, hg, rfl⟩ := List.mem_map.1 ht
  obtain ⟨d, hd, hcd⟩ := mem_appendHex (hgs g hg) hc
  exact (digit_ne hd).2.1 hcd.symm

theorem count_colon_text6 {gs : List ℕ} (h8 : gs.length = 8) (hgs : ∀ g ∈ gs, g < 65536) :
    (text6 gs).count ':' ≤ 7 := by
  have hrun := (zeroRun_spec gs).1
  have htwo : (zeroRun gs 0 (0, 0)).2 = 0 ∨ 2 ≤ (zeroRun gs 0 (0, 0)).2 :=
    zeroRun_two gs 0 (.inl rfl)
  unfold text6
  split
  · rw [count_joinWith (colon_notMem_appendHex hgs), List.length_map, h8]
  · next i l hl heq =>
    rw [heq] at hrun htwo
    have htake := count_joinWith (colon_notMem_appendHex
      fun g (hg : g ∈ gs.take i) => hgs g (List.mem_of_mem_take hg))
    have hdrop := count_joinWith (colon_notMem_appendHex
      fun g (hg : g ∈ gs.drop (i + l)) => hgs g (List.mem_of_mem_drop hg))
    rw [List.length_map, List.length_take] at htake
    rw [List.length_map, List.length_drop] at hdrop
    have hpos : l ≠ 0 := fun h => hl h
    rw [List.count_append, List.count_cons_self, List.count_cons_self, htake, hdrop]
    simp only at hrun htwo
    omega

theorem count_ofAddr (a : Addr) : (ofAddr a).count '.' ≤ 3 ∧ (ofAddr a).count ':' ≤ 7 ∧
    (ofAddr a).count '/' = 0 := by
  have hother : ∀ c, c ≠ sepOf a → (∀ d < 16, digit d ≠ c) → (ofAddr a).count c = 0 := by
    intro c hsep hdigit
    refine List.count_eq_zero.2 fun hc => ?_
    rcases mem_ofAddr hc with h | ⟨d, hd, h⟩
    · exact hsep h
    · exact hdigit d hd h.symm
  have hslash : (ofAddr a).count '/' = 0 := by
    refine hother _ ?_ fun d hd => (digit_ne hd).2.2.2.2
    unfold sepOf
    split_ifs <;> decide
  cases h4 : a.is4 with
  | true =>
    have hcolon : (ofAddr a).count ':' = 0 :=
      hother _ (by simp [sepOf, h4]) fun d hd => (digit_ne hd).2.1
    refine ⟨?_, by omega, hslash⟩
    rw [ofAddr, if_pos h4, count_joinWith, List.length_map, length_toDigits]
    intro t ht hc
    obtain ⟨f, hf, rfl⟩ := List.mem_map.1 ht
    obtain ⟨d, hd, hcd⟩ := mem_appendDecimal (toDigits_lt (by norm_num) _ _ f hf) hc
    exact (digit_ne hd).1 hcd.symm
  | false =>
    have hdot : (ofAddr a).count '.' = 0 :=
      hother _ (by simp [sepOf, h4]) fun d hd => (digit_ne hd).1
    refine ⟨by omega, ?_, hslash⟩
    rw [ofAddr, if_neg (by simp [h4])]
    exact count_colon_text6 (length_toDigits _ _ _) (toDigits_lt (by norm_num) _ _)

/-! ### Reading a label -/

theorem undash_dash_ofAddr (a : Addr) :
    ((ofAddr a).map dash).map (undash (sepOf a)) = ofAddr a := by
  rw [List.map_map]
  refine (List.map_congr_left fun c hc => ?_).trans (List.map_id _)
  rcases mem_ofAddr hc with rfl | ⟨d, hd, rfl⟩
  · unfold sepOf
    split_ifs <;> decide
  · have := digit_ne hd
    simp [dash, undash, this]

theorem map_joinWith (f : Char → Char) (sep : Char) (ts : List (List Char)) :
    (joinWith sep ts).map f = joinWith (f sep) (ts.map (List.map f)) := by
  induction ts with
  | nil => rfl
  | cons t ts ih =>
    cases ts with
    | nil => rfl
    | cons t' ts =>
      rw [joinWith, List.map_append, List.map_cons, ih]
      · rfl
      · simp

def asGroup (x : ℕ) : ℕ := x / 100 * 256 + x / 10 % 10 * 16 + x % 10

theorem appendHex_asGroup {x : ℕ} (hx : x < 256) :
    asGroup x < 65536 ∧ appendHex (asGroup x) = appendDecimal x := by
  have hall : ∀ y : Fin 256, asGroup y < 65536 ∧ appendHex (asGroup y) = appendDecimal y := by
    decide +kernel
  exact hall ⟨x, hx⟩

theorem parseAddr_colons {fs : List ℕ} (h4 : fs.length = 4) (hfs : ∀ f ∈ fs, f < 256) :
    parseAddr (joinWith ':' (fs.map appendDecimal)) = none := by
  have hgs : ∀ g ∈ fs.map asGroup, g < 65536 := by
    intro g hg
    obtain ⟨f, hf, rfl⟩ := List.mem_map.1 hg
    exact (appendHex_asGroup (hfs f hf)).1
  have htext : fs.map appendDecimal = (fs.map asGroup).map appendHex := by
    rw [List.map_map]
    exact List.map_congr_left fun f hf => (appendHex_asGroup (hfs f hf)).2.symm
  have hlen : (fs.map asGroup).length = 4 := by rw [List.length_map, h4]
  rw [htext]
  generalize fs.map asGroup = gs at hgs hlen
  obtain ⟨g, g', gs, rfl⟩ : ∃ g g' t, gs = g :: g' :: t := by
    match gs, hlen with
    | g :: g' :: t, _ => exact ⟨g, g', t, rfl⟩
  have hmem : ':' ∈ joinWith ':' ((g :: g' :: gs).map appendHex) := sep_mem_joinWith ':' _ _ _
  have hchars : ∀ c ∈ joinWith ':' ((g :: g' :: gs).map appendHex),
      c = ':' ∨ ∃ d < 16, c = digit d := by
    intro c hc
    rcases mem_joinWith hc with rfl | ⟨t, ht, hct⟩
    · exact .inl rfl
    · obtain ⟨h, hh, rfl⟩ := List.mem_map.1 ht
      exact .inr (mem_appendHex (hgs h hh) hct)
  have hbody : parseBody (joinWith ':' ((g :: g' :: gs).map appendHex)) =
      some (g :: g' :: gs, none, []) := by
    obtain ⟨d, hd, t, ht⟩ := exists_join_eq (hgs g (by simp)) (g' :: gs)
    rw [ht, parseBody_digit hd, ← ht]
    simpa using parseGroups_join (by simp) hgs (by omega) [] none
  have hexpand : expand (g :: g' :: gs) none = none := by
    rw [expand, if_pos (by omega)]
  have hnone : parseIPv6 (joinWith ':' ((g :: g' :: gs).map appendHex)) = none := by
    rw [parseIPv6, hbody]
    split_ifs <;> simp [hexpand]
  unfold parseAddr
  rw [find_sep (.inr (.inl rfl)) hchars hmem, hnone]
  simp

theorem map_dash_ne {a b : Addr} (ha : a.is4 = true) (hb : b.is4 = false) :
    (ofAddr a).map dash ≠ (ofAddr b).map dash := by
  intro h
  have hfs := toDigits_lt (b := 256) (by norm_num) 4 a.low32
  have hcolons : ((ofAddr a).map dash).map (undash ':') =
      joinWith ':' ((toDigits 256 4 a.low32).map appendDecimal) := by
    rw [ofAddr, if_pos ha, map_joinWith, map_joinWith]
    congr 1
    rw [List.map_map]
    refine (List.map_congr_left fun t ht => ?_).trans (List.map_id _)
    obtain ⟨f, hf, rfl⟩ := List.mem_map.1 ht
    rw [Function.comp_apply, List.map_map]
    refine (List.map_congr_left fun c hc => ?_).trans (List.map_id _)
    obtain ⟨d, hd, rfl⟩ := mem_appendDecimal (hfs f hf) hc
    have := digit_ne hd
    simp [dash, undash, this]
  have hsep : sepOf b = ':' := by simp [sepOf, hb]
  have hback := undash_dash_ofAddr b
  rw [hsep, ← h, hcolons] at hback
  have hparse := parseAddr_ofAddr b
  rw [← hback, parseAddr_colons (length_toDigits _ _ _) hfs] at hparse
  cases hparse

theorem map_dash_injective {a b : Addr} (h : (ofAddr a).map dash = (ofAddr b).map dash) : a = b := by
  have hfamily : a.is4 = b.is4 := by
    cases ha : a.is4 <;> cases hb : b.is4
    · rfl
    · exact absurd h.symm (map_dash_ne hb ha)
    · exact absurd h (map_dash_ne ha hb)
    · rfl
  have hsep : sepOf a = sepOf b := by rw [sepOf, sepOf, hfamily]
  have htext : ofAddr a = ofAddr b := by
    rw [← undash_dash_ofAddr a, ← undash_dash_ofAddr b, hsep, h]
  have hparse := parseAddr_ofAddr a
  rw [htext, parseAddr_ofAddr] at hparse
  exact (congrArg Parsed.addr (Option.some.inj hparse)).symm

end Text

/-! ### Subnets -/

theorem isFormatCIDR_text {s : String} (h : isFormatCIDR s = .ok ()) :
    ∃ (a : Addr) (k : ℕ), s.toList = Text.ofAddr a ++ '/' :: Nat.toDigits 10 k ∧
      netParseCIDR s = some (a, ⟨some a, k, if a.is4 then 32 else 128⟩) := by
  obtain ⟨a, k, -, hs⟩ := isFormatCIDR_ok h
  refine ⟨a, k, ?_, hs⟩
  have htext : IPNet.string ⟨some a, k, if a.is4 then 32 else 128⟩ = s := by
    simpa [isFormatCIDR, hs] using h
  have hslash : "/".toList = ['/'] := rfl
  rw [← htext, IPNet.string]
  cases h4 : a.is4 <;>
    simp [h4, IPNet.ones4, Addr.string, String.toList_append, hslash]

theorem dash_notMem_toDigits (k : ℕ) : '-' ∉ Nat.toDigits 10 k := by
  intro h
  have := Nat.isDigit_of_mem_toDigits (by norm_num) (by norm_num) h
  exact absurd this (by decide)

theorem cidrToLabelValue_text {v : IPVersion} {s l : String} {a : Addr} {k : ℕ}
    (h : cidrToLabelValue v s = .ok l)
    (hs : s.toList = Text.ofAddr a ++ '/' :: Nat.toDigits 10 k) :
    l.toList = (Text.ofAddr a).map Text.dash ++ '-' :: Nat.toDigits 10 k := by
  obtain ⟨-, h⟩ := seq_eq_ok.1 h
  obtain ⟨hdot, hcolon, hslash⟩ := Text.count_ofAddr a
  have hdigit : ∀ c ∈ Nat.toDigits 10 k, c.isDigit := fun c hc =>
    Nat.isDigit_of_mem_toDigits (by norm_num) (by norm_num) hc
  have hnone : ∀ c, c.isDigit = false → (Nat.toDigits 10 k).count c = 0 := by
    intro c hc
    refine List.count_eq_zero.2 fun hmem => ?_
    rw [hdigit c hmem] at hc
    cases hc
  have hkeep : (Nat.toDigits 10 k).map Text.dash = Nat.toDigits 10 k := by
    refine (List.map_congr_left fun c hc => ?_).trans (List.map_id _)
    have := hdigit c hc
    unfold Text.dash
    rw [if_neg]
    · rfl
    · rintro (rfl | rfl | rfl) <;> exact absurd this (by decide)
  rw [← Except.ok.inj h, String.toList_ofList, hs, Text.replaceDash_label]
  · rw [List.map_append, List.map_cons, hkeep]
    rfl
  · rw [List.count_append, List.count_cons_of_ne (by decide), hnone '.' (by decide)]
    omega
  · rw [List.count_append, List.count_cons_of_ne (by decide), hnone ':' (by decide)]
    omega
  · rw [List.count_append, List.count_cons_self, hnone '/' (by decide)]
    omega

theorem append_cons_inj_last {α : Type} {c : α} {xs ys us vs : List α} (hus : c ∉ us) (hvs : c ∉ vs)
    (h : xs ++ c :: us = ys ++ c :: vs) : xs = ys ∧ us = vs := by
  have hrev := congrArg List.reverse h
  simp only [List.reverse_append, List.reverse_cons, List.append_assoc, List.singleton_append]
    at hrev
  rcases List.append_eq_append_iff.1 hrev with ⟨t, h1, h2⟩ | ⟨t, h1, h2⟩
  · cases t with
    | nil => simp_all
    | cons d t =>
      obtain ⟨rfl, -⟩ := List.cons.inj h2
      exact absurd (List.mem_reverse.1 (h1 ▸ by simp)) hvs
  · cases t with
    | nil => simp_all
    | cons d t =>
      obtain ⟨rfl, -⟩ := List.cons.inj h2
      exact absurd (List.mem_reverse.1 (h1 ▸ by simp)) hus

/-- Formatted subnets with the same label are of one version, and the same network. -/
theorem cidrToLabelValue_injective {v w : IPVersion} {s t l : String}
    (hs : isFormatCIDR s = .ok ()) (ht : isFormatCIDR t = .ok ())
    (hls : cidrToLabelValue v s = .ok l) (hlt : cidrToLabelValue w t = .ok l) :
    v = w ∧ s = t ∧ netParseCIDR s = netParseCIDR t := by
  obtain ⟨a, k, hstext, hparse⟩ := isFormatCIDR_text hs
  obtain ⟨b, j, httext, hparse'⟩ := isFormatCIDR_text ht
  have hlabels := (cidrToLabelValue_text hls hstext).symm.trans (cidrToLabelValue_text hlt httext)
  obtain ⟨haddr, hlen⟩ := append_cons_inj_last (dash_notMem_toDigits k) (dash_notMem_toDigits j)
    hlabels
  obtain rfl := Text.map_dash_injective haddr
  have hst : s = t := String.toList_injective (by rw [hstext, httext, hlen])
  refine ⟨?_, hst, by rw [hst]⟩
  obtain ⟨hv, a₁, n₁, h₁, hv4⟩ := isCIDR_ok (seq_eq_ok.1 hls).1
  obtain ⟨hw, a₂, n₂, h₂, hw4⟩ := isCIDR_ok (seq_eq_ok.1 hlt).1
  obtain ⟨rfl, -⟩ := Prod.mk.inj (Option.some.inj (h₁.symm.trans hparse))
  obtain ⟨rfl, -⟩ := Prod.mk.inj (Option.some.inj (h₂.symm.trans hparse'))
  rcases hv with rfl | rfl <;> rcases hw with rfl | rfl <;> simp_all

namespace Sample

/-- The sample label leads back to its subnet. -/
theorem label_of_subnet : isFormatCIDR "fd00:0:0:1::/64" = .ok () ∧
    cidrToLabelValue 6 "fd00:0:0:1::/64" = .ok "fd00-0-0-1---64" ∧
    "fd00:0:0:1::/64" = "fd00:0:0:1::/64" := by
  have hformat : isFormatCIDR "fd00:0:0:1::/64" = .ok () := by decide +kernel
  have hlabel : cidrToLabelValue 6 "fd00:0:0:1::/64" = .ok "fd00-0-0-1---64" := by decide +kernel
  exact ⟨hformat, hlabel, (cidrToLabelValue_injective hformat hformat hlabel hlabel).2.1⟩

end Sample

end Spiderpool
