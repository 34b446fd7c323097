/-
# Reading back what `IP.String` writes

`parseIP a.string = some a` for every address, so that distinct addresses have
distinct texts, and the text of an address names no other. The allocation
records of an IPPool are keyed by these texts.
-/

import Spiderpool.IP.TextGroups

namespace Spiderpool
namespace Text

/-! ### IPv4 -/

theorem parseIPv4Fields_digit {d val n : ℕ} (hd : d < 10) (hz : ¬(n = 1 ∧ val = 0))
    (hv : val * 10 + d < 256) (s : List Char) (fields : List ℕ) :
    parseIPv4Fields (digit d :: s) val n fields =
      parseIPv4Fields s (val * 10 + d) (n + 1) fields := by
  rw [parseIPv4Fields]
  simp only [decVal_digit hd]
  rw [if_neg hz, if_neg (by omega)]

theorem parseIPv4Fields_appendDecimal {x : ℕ} (hx : x < 256) (s : List Char) (fields : List ℕ) :
    ∃ n, 0 < n ∧
      parseIPv4Fields (appendDecimal x ++ s) 0 0 fields = parseIPv4Fields s x n fields := by
  have h100 : x / 100 * 10 + x / 10 % 10 = x / 10 := by omega
  have h10 : x / 10 * 10 + x % 10 = x := by omega
  unfold appendDecimal
  by_cases hx100 : 100 ≤ x
  · refine ⟨3, by omega, ?_⟩
    rw [if_pos hx100, if_pos (by omega)]
    simp only [List.cons_append, List.nil_append]
    rw [parseIPv4Fields_digit (by omega) (by omega) (by omega),
      parseIPv4Fields_digit (by omega) (by omega) (by omega), Nat.zero_mul, Nat.zero_add, h100,
      parseIPv4Fields_digit (by omega) (by omega) (by omega), h10]
  · by_cases hx10 : 10 ≤ x
    · refine ⟨2, by omega, ?_⟩
      rw [if_neg hx100, if_pos hx10, Nat.mod_eq_of_lt (show x / 10 < 10 by omega)]
      simp only [List.cons_append, List.nil_append]
      rw [parseIPv4Fields_digit (by omega) (by omega) (by omega),
        parseIPv4Fields_digit (by omega) (by omega) (by omega), Nat.zero_mul, Nat.zero_add, h10]
    · refine ⟨1, by omega, ?_⟩
      rw [if_neg hx100, if_neg hx10, Nat.mod_eq_of_lt (show x < 10 by omega)]
      simp only [List.cons_append, List.nil_append]
      rw [parseIPv4Fields_digit (by omega) (by omega) (by omega), Nat.zero_mul, Nat.zero_add]

theorem parseIPv4Fields_next {x : ℕ} (hx : x < 256) {s : List Char} (hs : s ≠ []) {fields : List ℕ}
    (hf : fields.length < 3) :
    parseIPv4Fields (appendDecimal x ++ '.' :: s) 0 0 fields =
      parseIPv4Fields s 0 0 (fields ++ [x]) := by
  obtain ⟨n, hn, h⟩ := parseIPv4Fields_appendDecimal hx ('.' :: s) fields
  have hdot : decVal '.' = none := by decide
  rw [h, parseIPv4Fields]
  simp only [hdot, if_true]
  rw [if_neg (by simp [hs, hn.ne']), if_neg hf.ne]

theorem parseIPv4Fields_last {x : ℕ} (hx : x < 256) {fields : List ℕ} (hf : fields.length = 3) :
    parseIPv4Fields (appendDecimal x) 0 0 fields = some (fields ++ [x]) := by
  obtain ⟨n, -, h⟩ := parseIPv4Fields_appendDecimal hx [] fields
  rw [List.append_nil] at h
  rw [h, parseIPv4Fields, if_neg (by omega)]

theorem appendDecimal_ne_nil (x : ℕ) (s : List Char) : appendDecimal x ++ s ≠ [] := by
  simp [appendDecimal]

theorem parseIPv4Fields_join {fs : List ℕ} (h4 : fs.length = 4) (hfs : ∀ f ∈ fs, f < 256) :
    parseIPv4Fields (joinWith '.' (fs.map appendDecimal)) 0 0 [] = some fs := by
  match fs, h4 with
  | [a, b, c, d], _ =>
    have ha := hfs a (by simp)
    have hb := hfs b (by simp)
    have hc := hfs c (by simp)
    have hd := hfs d (by simp)
    have hd' : appendDecimal d ≠ [] := by simpa using appendDecimal_ne_nil d []
    simp only [List.map_cons, List.map_nil, joinWith]
    rw [parseIPv4Fields_next ha (appendDecimal_ne_nil _ _) (by simp),
      parseIPv4Fields_next hb (appendDecimal_ne_nil _ _) (by simp),
      parseIPv4Fields_next hc hd' (by simp), parseIPv4Fields_last hd (by simp)]
    rfl

/-! ### Addresses -/

def sepOf (a : Addr) : Char := if a.is4 then '.' else ':'

theorem mem_ofAddr {a : Addr} {c : Char} (hc : c ∈ ofAddr a) :
    c = sepOf a ∨ ∃ d < 16, c = digit d := by
  unfold ofAddr at hc
  unfold sepOf
  split_ifs at hc ⊢
  · rcases mem_joinWith hc with rfl | ⟨t, ht, hct⟩
    · exact .inl rfl
    · obtain ⟨f, hf, rfl⟩ := List.mem_map.1 ht
      exact .inr (mem_appendDecimal (toDigits_lt (by norm_num) _ _ f hf) hct)
  · exact mem_text6 (toDigits_lt (by norm_num) _ _) hc

theorem sepOf_mem (a : Addr) : sepOf a ∈ ofAddr a := by
  unfold ofAddr sepOf
  split_ifs
  · exact sep_mem_joinWith '.' _ _ _
  · exact colon_mem_text6 (length_toDigits _ _ _)

theorem parseAddr_ofAddr (a : Addr) : parseAddr (ofAddr a) = some ⟨a, a.is4⟩ := by
  have hfind := find_sep (by unfold sepOf; split_ifs <;> simp) (fun c hc => mem_ofAddr hc)
    (sepOf_mem a)
  unfold parseAddr
  rw [hfind]
  cases h4 : a.is4 with
  | true =>
    have hlow : a.low32 < 256 ^ 4 := lt_of_lt_of_eq a.low32_lt (by norm_num)
    simp only [sepOf, ofAddr, h4, if_true]
    rw [parseIPv4Fields_join (length_toDigits _ _ _) (toDigits_lt (by norm_num) _ _),
      Option.map_some, fromDigits_toDigits hlow, Addr.ofV4_low32 h4]
  | false =>
    have hval : a.val < 65536 ^ 8 := lt_of_lt_of_eq a.isLt (by norm_num)
    have hne : (':' : Char) ≠ '.' := by decide
    simp only [sepOf, ofAddr, h4, Bool.false_eq_true, if_false, hne, if_true]
    rw [parseIPv6_text6 (length_toDigits _ _ _) (toDigits_lt (by norm_num) _ _),
      Option.map_some, fromDigits_toDigits hval]
    simp [Addr.ofNat]

end Text

@[simp] theorem parseIP_string (a : Addr) : parseIP a.string = some a := by
  simp [parseIP, Addr.string, Text.parseAddr_ofAddr]

theorem Addr.string_injective : Function.Injective Addr.string := by
  intro a b h
  have := parseIP_string a
  rw [h, parseIP_string] at this
  exact (Option.some.inj this).symm

theorem Addr.notMem_string {c : Char} (hc : c = '-' ∨ c = '/') (a : Addr) : c ∉ a.string.toList := by
  intro h
  rw [Addr.string, String.toList_ofList] at h
  rcases Text.mem_ofAddr h with h | ⟨d, hd, h⟩
  · unfold Text.sepOf at h
    split_ifs at h <;> subst h <;> simp at hc
  · have := Text.digit_ne hd
    rcases hc with rfl | rfl
    · exact this.2.2.2.1 h.symm
    · exact this.2.2.2.2 h.symm

end Spiderpool
