/-
# Prefixes

`net.ParseCIDR` and `net.IPNet`, and `pkg/ip/cidr.go` over them. A prefix is
written with 32 bits after a dotted quad and with 128 bits after any other
address, `::ffff:10.0.0.0/120` included, and `IPNet.Contains` compares the last
four bytes only when both addresses are IPv4.
-/

import Spiderpool.Base.Blocks
import Spiderpool.Constant
import Spiderpool.IP.TextRoundTrip

namespace Spiderpool

/-- `net.IPNet` with a mask of `ones` leading ones among `bits` bits. -/
structure IPNet where
  ip : IP
  ones : ℕ
  bits : ℕ
deriving DecidableEq

namespace IPNet

/-- The bits of an IPv4 address that the mask keeps; of a mask of sixteen
bytes the last four are used. -/
def ones4 (n : IPNet) : ℕ := if n.bits = 32 then n.ones else n.ones - 96

/-- `IPNet.Contains` at an address that is not nil. -/
def contains (n : IPNet) (x : Addr) : Bool :=
  match n.ip with
  | none => false
  | some a =>
    if a.is4 then x.is4 && decide (SameBlock (32 - n.ones4) x.low32 a.low32)
    else n.bits == 128 && !x.is4 && decide (SameBlock (128 - n.ones) x.val a.val)

def string (n : IPNet) : String :=
  match n.ip with
  | none => "<nil>"
  | some a =>
    if a.is4 then a.string ++ "/" ++ toString n.ones4
    else if n.bits = 128 then a.string ++ "/" ++ toString n.ones
    else "<nil>"

end IPNet

namespace Text

/-- The loop of `dtoi`, on a text that has to be digits up to its end. -/
def dtoi : List Char → ℕ → Option ℕ
  | [], n => some n
  | c :: s, n =>
    match decVal c with
    | some d => if 0xFFFFFF ≤ n * 10 + d then none else dtoi s (n * 10 + d)
    | none => none

/-- `IP.Mask` with `n` ones: of the four bytes of an address in the IPv4 form, of
the sixteen of any other. -/
def mask (p : Parsed) (n : ℕ) : Addr :=
  if p.v4 then Addr.ofV4 (p.addr.low32 / 2 ^ (32 - n) * 2 ^ (32 - n))
  else Addr.ofNat (p.addr.val / 2 ^ (128 - n) * 2 ^ (128 - n))

end Text

/-- `net.ParseCIDR`: the address as written, and its network. -/
def netParseCIDR (s : String) : Option (Addr × IPNet) :=
  match s.toList.dropWhile (· ≠ '/') with
  | [] => none
  | _ :: m =>
    match Text.parseAddr (s.toList.takeWhile (· ≠ '/')) with
    | none => none
    | some p =>
      match if m = [] then none else Text.dtoi m 0 with
      | none => none
      | some n =>
        if p.bitLen < n then none else some (p.addr, ⟨some (Text.mask p n), n, p.bitLen⟩)

def netParseError (s : String) : Err := .new ("invalid CIDR address: " ++ s)

def isIPVersion (version : IPVersion) : Result Err Unit :=
  failIf (version ≠ Constant.ipv4 ∧ version ≠ Constant.ipv6)
    (.wrap "" (.of .errInvalidIPVersion) (" '" ++ toString version ++ "'"))

def isIPv4CIDR (subnet : String) : Bool :=
  match netParseCIDR subnet with
  | none => false
  | some (ip, _) => ip.is4

def isIPv6CIDR (subnet : String) : Bool :=
  match netParseCIDR subnet with
  | none => false
  | some (ip, _) => !ip.is4

def isCIDR (version : IPVersion) (subnet : String) : Result Err Unit := do
  isIPVersion version
  failIf (version = Constant.ipv4 ∧ ¬isIPv4CIDR subnet ∨
      version = Constant.ipv6 ∧ ¬isIPv6CIDR subnet)
    (.wrap "" (.of .errInvalidCIDRFormat) (" in IPv" ++ toString version ++ " '" ++ subnet ++ "'"))

def isFormatCIDR (subnet : String) : Result Err Unit :=
  match netParseCIDR subnet with
  | none => fail (netParseError subnet)
  | some (_, ipNet) =>
    failIf (ipNet.string ≠ subnet)
      (.new ("unformatted subnet " ++ subnet ++ ", please change it to " ++ ipNet.string))

def parseCIDR (version : IPVersion) (subnet : String) : Result Err IPNet := do
  isCIDR version subnet
  match netParseCIDR subnet with
  | none => fail (.wrap ("failed to parse CIDR '" ++ subnet ++ "': ") (netParseError subnet) "")
  | some (_, ipNet) => .ok ipNet

/-- `containsCIDR`: a subnet that does not parse is a nil network. -/
def containsCIDR (subnet1 subnet2 : String) : Result Err Bool :=
  match netParseCIDR subnet1, netParseCIDR subnet2 with
  | some (_, ipNet1), some (_, ipNet2) =>
    .ok (decide (ipNet1.ones ≤ ipNet2.ones) && ipNet2.ip.any ipNet1.contains)
  | _, _ => .error .panic

def isCIDROverlap (version : IPVersion) (subnet1 subnet2 : String) : Result Err Bool := do
  isIPVersion version
  isCIDR version subnet1
  isCIDR version subnet2
  if ← containsCIDR subnet1 subnet2 then return true
  containsCIDR subnet2 subnet1

/-- `strings.Replace(s, old, "-", n)` for a one-character `old`. -/
def replaceDash (old : Char) : ℕ → List Char → List Char
  | 0, s => s
  | _ + 1, [] => []
  | n + 1, c :: s => if c = old then '-' :: replaceDash old n s else c :: replaceDash old (n + 1) s

def cidrToLabelValue (ipVersion : IPVersion) (subnet : String) : Result Err String := do
  isCIDR ipVersion subnet
  return String.ofList (replaceDash '/' 1 (replaceDash ':' 7 (replaceDash '.' 3 subnet.toList)))

/-! ### Versions -/

theorem isIPVersion_ok {v : IPVersion} : isIPVersion v = .ok () ↔ v = 4 ∨ v = 6 := by
  rw [isIPVersion, failIf_eq_ok, not_and_or, not_not, not_not]
  rfl

theorem isCIDR_ok {v : IPVersion} {s : String} (h : isCIDR v s = .ok ()) :
    (v = 4 ∨ v = 6) ∧ ∃ a n, netParseCIDR s = some (a, n) ∧ (v = 4 ↔ a.is4 = true) := by
  unfold isCIDR at h
  obtain ⟨hv, h⟩ := seq_eq_ok.1 h
  rw [isIPVersion_ok] at hv
  refine ⟨hv, ?_⟩
  rw [failIf_eq_ok] at h
  simp only [isIPv4CIDR, isIPv6CIDR, Constant.ipv4, Constant.ipv6] at h
  cases hp : netParseCIDR s with
  | none => rcases hv with rfl | rfl <;> simp [hp] at h
  | some p =>
    refine ⟨p.1, p.2, rfl, ?_⟩
    rcases hv with rfl | rfl <;> simpa [hp] using h

/-! ### Formatted subnets -/

namespace Text

theorem is4_mask {p : Parsed} (hp : p.v4 = true) (n : ℕ) : (mask p n).is4 = true := by
  rw [mask, if_pos hp]
  exact Addr.is4_ofV4 ((Nat.div_mul_le_self _ _).trans_lt p.addr.low32_lt)

end Text

section

variable {s : String} {a x : Addr} {n : IPNet} {k : ℕ}

theorem netParseCIDR_eq_some (h : netParseCIDR s = some (a, n)) :
    ∃ (p : Text.Parsed) (k : ℕ), Text.parseAddr (s.toList.takeWhile (· ≠ '/')) = some p ∧
      p.addr = a ∧ k ≤ p.bitLen ∧ n = ⟨some (Text.mask p k), k, p.bitLen⟩ := by
  unfold netParseCIDR at h
  split at h
  · exact absurd h (by simp)
  split at h
  · exact absurd h (by simp)
  rename_i p hp
  split at h
  · exact absurd h (by simp)
  rename_i k hk
  split at h
  · exact absurd h (by simp)
  rename_i hle
  obtain ⟨rfl, rfl⟩ := Prod.mk.inj (Option.some.inj h)
  exact ⟨p, k, hp, rfl, not_lt.1 hle, rfl⟩

theorem takeWhile_string (a : Addr) (t : String) :
    (a.string ++ "/" ++ t).toList.takeWhile (· ≠ '/') = a.string.toList := by
  have hno : ∀ c ∈ a.string.toList, decide (c ≠ '/') = true := by
    intro c hc
    refine decide_eq_true fun h => ?_
    exact Addr.notMem_string (.inr rfl) a (h ▸ hc)
  have hlist : (a.string ++ "/" ++ t).toList = a.string.toList ++ '/' :: t.toList := by simp
  rw [hlist, List.takeWhile_append_of_pos hno]
  simp

theorem isFormatCIDR_ok (h : isFormatCIDR s = .ok ()) :
    ∃ (a : Addr) (k : ℕ), k ≤ (if a.is4 then 32 else 128) ∧
      netParseCIDR s = some (a, ⟨some a, k, if a.is4 then 32 else 128⟩) := by
  unfold isFormatCIDR at h
  cases hs : netParseCIDR s with
  | none => simp [hs] at h
  | some r =>
    obtain ⟨a, n⟩ := r
    simp only [hs, failIf_eq_ok, not_not] at h
    rename' h => hstr
    obtain ⟨p, k, hp, rfl, hk, rfl⟩ := netParseCIDR_eq_some hs
    have htake : s.toList.takeWhile (· ≠ '/') = Text.ofAddr (Text.mask p k) := by
      have htext : ∃ t, s = (Text.mask p k).string ++ "/" ++ t := by
        rw [← hstr]
        simp only [IPNet.string]
        by_cases h4 : (Text.mask p k).is4 = true
        · rw [if_pos h4]
          exact ⟨_, rfl⟩
        · have hv : ¬p.v4 = true := fun hv => h4 (Text.is4_mask hv k)
          rw [if_neg h4, Text.Parsed.bitLen, if_neg hv, if_pos rfl]
          exact ⟨_, rfl⟩
      obtain ⟨t, rfl⟩ := htext
      rw [takeWhile_string, Addr.string, String.toList_ofList]
    rw [htake, Text.parseAddr_ofAddr] at hp
    have hp := Option.some.inj hp
    have haddr : Text.mask p k = p.addr := congrArg Text.Parsed.addr hp
    have hv4 : (Text.mask p k).is4 = p.v4 := congrArg Text.Parsed.v4 hp
    have hbits : p.bitLen = if p.addr.is4 then 32 else 128 := by
      rw [Text.Parsed.bitLen, ← haddr, hv4]
    exact ⟨p.addr, k, hbits ▸ hk, by rw [haddr, hbits]⟩

theorem sameBlock_low32 (ha : a.is4 = true) (hx : x.is4 = true) {j : ℕ} (hj : j ≤ 32) :
    SameBlock j x.low32 a.low32 ↔ SameBlock j x.val a.val := by
  have hdiv : ∀ m, (0xffff * 2 ^ 32 + m) / 2 ^ j = 0xffff * 2 ^ (32 - j) + m / 2 ^ j := by
    intro m
    have : 0xffff * 2 ^ 32 = 0xffff * 2 ^ (32 - j) * 2 ^ j := by
      rw [mul_assoc, ← pow_add, Nat.sub_add_cancel hj]
    rw [this, Nat.mul_comm, Nat.mul_add_div (Nat.two_pow_pos j)]
  unfold SameBlock
  rw [Addr.is4_iff.1 ha, Addr.is4_iff.1 hx, hdiv, hdiv, Nat.add_left_cancel_iff]

theorem IPNet.contains_iff : (⟨some a, k, if a.is4 then 32 else 128⟩ : IPNet).contains x = true ↔
      x.is4 = a.is4 ∧ SameBlock ((if a.is4 then 32 else 128) - k) x.val a.val := by
  unfold IPNet.contains
  cases ha : a.is4 with
  | false => simp [ha]
  | true =>
    cases hx : x.is4 with
    | false => simp [ha]
    | true =>
      simp only [IPNet.ones4, ha, if_true, Bool.true_and, decide_eq_true_eq, true_and]
      exact sameBlock_low32 ha hx (Nat.sub_le _ _)

theorem not_sameBlock_of_not_overlap {v : IPVersion} {t : String}
    (h : isCIDROverlap v s t = .ok false) {b : Addr} {l : ℕ}
    (hs : netParseCIDR s = some (a, ⟨some a, k, if a.is4 then 32 else 128⟩))
    (ht : netParseCIDR t = some (b, ⟨some b, l, if b.is4 then 32 else 128⟩)) {x : ℕ}
    (hxa : SameBlock ((if a.is4 then 32 else 128) - k) x a.val)
    (hxb : SameBlock ((if b.is4 then 32 else 128) - l) x b.val) : False := by
  unfold isCIDROverlap at h
  obtain ⟨-, h⟩ := seq_eq_ok.1 h
  obtain ⟨hcs, h⟩ := seq_eq_ok.1 h
  obtain ⟨hct, h⟩ := seq_eq_ok.1 h
  obtain ⟨-, a', n, hs', hva⟩ := isCIDR_ok hcs
  obtain ⟨-, b', m, ht', hvb⟩ := isCIDR_ok hct
  obtain ⟨rfl, -⟩ := Prod.mk.inj (Option.some.inj (hs.symm.trans hs'))
  obtain ⟨rfl, -⟩ := Prod.mk.inj (Option.some.inj (ht.symm.trans ht'))
  have hab : a.is4 = b.is4 := by rw [Bool.eq_iff_iff, ← hva, ← hvb]
  obtain ⟨c, hc, h⟩ := bind_eq_ok.1 h
  rw [containsCIDR, hs, ht] at hc
  cases c with
  | true => simp [pure, Except.pure] at h
  | false =>
    simp only [Bool.false_eq_true, if_false] at h
    rw [containsCIDR, hs, ht] at h
    simp only [Except.ok.injEq, Option.any_some, Bool.and_eq_false_iff, decide_eq_false_iff_not] at h hc
    rcases le_total k l with hkl | hkl
    · have := hxb.mono (Nat.sub_le_sub_left hkl _)
      rw [← hab] at this
      have hin := IPNet.contains_iff.2 ⟨hab.symm, this.symm.trans hxa⟩
      exact absurd (hc.resolve_left (not_not.2 hkl)) (by rw [hin]; decide)
    · have := hxa.mono (Nat.sub_le_sub_left hkl _)
      rw [hab] at this
      have hin := IPNet.contains_iff.2 ⟨hab, this.symm.trans hxb⟩
      exact absurd (h.resolve_left (not_not.2 hkl)) (by rw [hin]; decide)

theorem IPNet.head_split_string (hn : n.ip = some a) (h : a.is4 = true ∨ n.bits = 128) :
    (split n.string '/').head (split_ne_nil _ _) = a.string := by
  have htext : ∃ t, n.string = a.string ++ String.ofList ['/'] ++ t := by
    simp only [IPNet.string, hn]
    by_cases ha4 : a.is4 = true
    · exact ⟨_, by simp only [ha4, if_true]; rfl⟩
    · exact ⟨_, by simp only [ha4, h.resolve_left ha4]; rfl⟩
  obtain ⟨t, ht⟩ := htext
  simp only [ht]
  exact head_split_append (Addr.notMem_string (.inr rfl) a) t

end

end Spiderpool
