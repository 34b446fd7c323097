/-
# The hardware address of a Pod's interface

`pkg/networking/networking/mac.go`: `OverwriteHwAddress` gives an interface a hardware address of
two bytes that the cluster configures (`podMACPrefix`) and the last four bytes of the interface's
first address. The prefix passes the webhook (`validateCoordinatorPodMACPrefix`), which reads it
with `strconv.ParseInt`, and then the CNI plugin (`validateHwPrefix`), which matches it with a
regular expression.

`parseMac` panics if the first byte of the address is zero, and `ParseInt` takes a sign, which the
regular expression does not.
-/

import Spiderpool.Networking.MacText

namespace Spiderpool
namespace Networking

open CoordinatorManager (hexDigit parseHex validateCoordinatorPodMACPrefix)
open Coordinator (validateHwPrefix)
open Text (joinWith digit)

/-! ### The source -/

structure LinkEnv where
  /-- `IPAddressByName`. -/
  addresses : Result Err (List Addr)
  /-- `netlink.LinkByName`. -/
  link : Result Err Unit
  /-- `netlink.LinkSetHardwareAddr`, as far as it fails. -/
  setHardwareAddr : List ℕ → Result Err Unit

/-- `netlink.LinkSetHardwareAddr`, on the hardware address of the interface. -/
def linkSetHardwareAddr (env : LinkEnv) (hardware : List ℕ) : Eff (List ℕ) Err Unit := fun hw =>
  match env.setHardwareAddr hardware with
  | .ok () => (.ok (), hardware)
  | .error e => (.error e, hw)

def overwriteHwAddress (env : LinkEnv) (macPrefix : String) : Eff (List ℕ) Err String := do
  let ips ← Eff.lift env.addresses
  -- `ips[0]`
  let first ← Eff.lift (deref ips.head?)
  let nAddr ← Eff.lift (match parseIP first.string with
    | none => fail (.new "ParseAddr: unable to parse IP")
    | some a => .ok a)
  let hwAddr := macPrefix ++ ":" ++ inetAton nAddr
  Eff.lift env.link
  let hardware ← Eff.lift (parseMac hwAddr)
  linkSetHardwareAddr env hardware
  return hwAddr

/-! ### The prefix -/

section

variable {c : Char} {d b : ℕ} {s : String} {n : ℤ}

theorem utf8Size_of_hexDigit (h : hexDigit c = some d) : c.utf8Size = 1 := by
  have hle : c ≤ 'f' := by
    unfold hexDigit at h
    split_ifs at h with h₁ h₂ h₃
    · exact h₁.2.trans (by decide)
    · exact h₂.2
    · exact h₃.2.trans (by decide)
  exact Char.utf8Size_eq_one_iff.2 (UInt32.le_trans hle (by decide))

theorem parseHex_unsigned {cs : List Char} (hs : s.toList = c :: cs)
    (hplus : c ≠ '+') (hminus : c ≠ '-') (h : parseHex s = some n) :
    ∃ ds, (c :: cs).mapM hexDigit = some ds ∧ n = ds.foldl (fun n d => 16 * n + (d : ℤ)) 0 := by
  unfold parseHex at h
  rw [hs] at h
  split at h
  rename_i negative digits hmatch
  split at hmatch
  · exact absurd (List.cons.inj ‹_›).1 hminus
  · exact absurd (List.cons.inj ‹_›).1 hplus
  · obtain ⟨rfl, rfl⟩ := Prod.mk.inj hmatch
    rw [if_neg (by simp)] at h
    split at h
    · cases h
    · exact ⟨_, ‹_›, (Option.some.inj h).symm⟩

theorem parseHex_cases (hsize : s.utf8ByteSize = 2) (h : parseHex s = some n) :
    (∃ p : Char × Char, ∃ b : ℕ, s.toList = [p.1, p.2] ∧ hexByte p = some b ∧ n = b) ∨
      ∃ sign rest, s.toList = sign :: rest ∧ (sign = '+' ∨ sign = '-') := by
  rw [← String.utf8Len_toList] at hsize
  rcases hs : s.toList with - | ⟨c, cs⟩
  · simp [hs] at hsize
  by_cases hsign : c = '+' ∨ c = '-'
  · exact .inr ⟨c, cs, rfl, hsign⟩
  rw [not_or] at hsign
  obtain ⟨ds, hds, rfl⟩ := parseHex_unsigned hs hsign.1 hsign.2 h
  have hone : ∀ x ∈ c :: cs, x.utf8Size = 1 := by
    intro x hx
    cases hdigit : hexDigit x with
    | none => rw [mapM_eq_none hx hdigit] at hds; cases hds
    | some d => exact utf8Size_of_hexDigit hdigit
  have hlen : cs.length = 1 := by
    have hsum : ∀ l : List Char, (∀ x ∈ l, x.utf8Size = 1) → String.utf8Len l = l.length := by
      intro l hl
      induction l with
      | nil => rfl
      | cons x l ih =>
        rw [List.forall_mem_cons] at hl
        rw [String.utf8Len, ih hl.2, hl.1, List.length_cons]
    rw [hs, hsum _ hone, List.length_cons] at hsize
    omega
  obtain ⟨d, rfl⟩ := List.length_eq_one_iff.1 hlen
  rw [List.mapM_cons, List.mapM_cons, List.mapM_nil] at hds
  rcases hc : hexDigit c with - | x
  · rw [hc] at hds
    cases hds
  rcases hd : hexDigit d with - | y
  · rw [hc, hd] at hds
    cases hds
  rw [hc, hd] at hds
  obtain rfl := Option.some.inj hds
  refine .inl ⟨(c, d), 16 * x + y, rfl, ?_, ?_⟩
  · simp [hexByte, hc, hd]
  · simp

theorem admitted_parts {macPrefix : String} (hne : macPrefix ≠ "")
    (h : validateCoordinatorPodMACPrefix (some macPrefix) = .ok ()) :
    ∃ first second fb sb, split macPrefix ':' = [first, second] ∧
      macPrefix.toList = first.toList ++ ':' :: second.toList ∧ first.utf8ByteSize = 2 ∧
      second.utf8ByteSize = 2 ∧ parseHex first = some fb ∧ parseHex second = some sb ∧
      (CoordinatorManager.formatBinary fb)[7]? = some '0' := by
  unfold validateCoordinatorPodMACPrefix at h
  dsimp only at h
  rw [if_neg hne] at h
  split at h
  · rename_i first second hsplit
    split_ifs at h with hsize
    · cases h
    · rw [not_or, not_not, not_not] at hsize
      split at h
      · rename_i fb sb hfb hsb
        obtain ⟨bit, hbit, h⟩ := bind_eq_ok.1 h
        have hzero : bit = '0' := not_not.1 (failIf_eq_ok.1 h)
        refine ⟨first, second, fb, sb, hsplit, ?_, hsize.1, hsize.2, hfb, hsb, ?_⟩
        · have hparts : macPrefix.toList.splitOn ':' = [first.toList, second.toList] := by
            have := congrArg (List.map String.toList) hsplit
            simpa [split, Function.comp_def] using this
          have hjoin : [':'].intercalate (macPrefix.toList.splitOn ':') = macPrefix.toList :=
            List.intercalate_splitOn ':'
          rw [hparts] at hjoin
          simpa using hjoin.symm
        · rw [← hzero]
          exact deref_eq_ok.1 hbit
      · cases h
  · cases h

theorem isHexDigit_of_hexDigit (h : hexDigit c = some d) : Coordinator.isHexDigit c = true := by
  unfold hexDigit at h
  split_ifs at h with h₁ h₂ h₃ <;> simp [Coordinator.isHexDigit, Coordinator.isHexLetter, *]

theorem secondClass_of_even (h : hexDigit c = some d) (heven : d % 2 = 0) :
    Coordinator.isHexLetter c ∨ c = ',' ∨ c = '0' ∨ ('2' ≤ c ∧ c ≤ '9') := by
  unfold hexDigit at h
  split_ifs at h with h₁ h₂ h₃
  · have hd : c.toNat - 48 = d := Option.some.inj h
    have hle : 48 ≤ c.toNat := UInt32.le_iff_toNat_le.1 h₁.1
    rcases Nat.eq_or_lt_of_le hle with heq | hlt
    · exact .inr (.inr (.inl (Char.toNat_inj.1 heq.symm)))
    · exact .inr (.inr (.inr ⟨UInt32.le_iff_toNat_le.2 (show 50 ≤ c.toNat by omega), h₁.2⟩))
  · exact .inl (by simp [Coordinator.isHexLetter, h₂])
  · exact .inl (by simp [Coordinator.isHexLetter, h₃])

theorem even_of_formatBinary (hb : b < 256)
    (h : (CoordinatorManager.formatBinary b)[7]? = some '0') : b % 2 = 0 := by
  have hall : ∀ b : Fin 256, (CoordinatorManager.formatBinary (b.val : ℤ))[7]? = some '0' →
      b.val % 2 = 0 := by decide +kernel
  exact hall ⟨b, hb⟩ h

theorem hexDigit_lt (h : hexDigit c = some d) : d < 16 := by
  unfold hexDigit at h
  split_ifs at h with h₁ h₂ h₃ <;> obtain rfl := Option.some.inj h
  · have : c.toNat ≤ 57 := UInt32.le_iff_toNat_le.1 h₁.2
    exact show c.toNat - 48 < 16 by omega
  · have : c.toNat ≤ 102 := UInt32.le_iff_toNat_le.1 h₂.2
    exact show c.toNat - 97 + 10 < 16 by omega
  · have : c.toNat ≤ 70 := UInt32.le_iff_toNat_le.1 h₃.2
    exact show c.toNat - 65 + 10 < 16 by omega

theorem hexByte_eq_some {p : Char × Char} (h : hexByte p = some b) :
    ∃ x y, hexDigit p.1 = some x ∧ hexDigit p.2 = some y ∧ b = 16 * x + y ∧ x < 16 ∧ y < 16 := by
  unfold hexByte at h
  rcases hx : hexDigit p.1 with - | x
  · rw [hx] at h
    cases h
  rcases hy : hexDigit p.2 with - | y
  · rw [hx, hy] at h
    cases h
  rw [hx, hy] at h
  exact ⟨x, y, rfl, rfl, (Option.some.inj h).symm, hexDigit_lt hx, hexDigit_lt hy⟩

end

def Unsigned (macPrefix : String) : Prop := '+' ∉ macPrefix.toList ∧ '-' ∉ macPrefix.toList

instance (macPrefix : String) : Decidable (Unsigned macPrefix) := inferInstanceAs (Decidable (_ ∧ _))

theorem validateHwPrefix_eq_ok {text : String} (hne : text ≠ "") :
    validateHwPrefix text = .ok () ↔ ∃ a b sep c d, text.toList = [a, b, sep, c, d] ∧
      Coordinator.isHexDigit a = true ∧
      (Coordinator.isHexLetter b = true ∨ b = ',' ∨ b = '0' ∨ ('2' ≤ b ∧ b ≤ '9')) ∧
      (sep = ':' ∨ sep = '-') ∧ Coordinator.isHexDigit c = true ∧ Coordinator.isHexDigit d = true := by
  unfold validateHwPrefix
  rw [if_neg hne]
  split
  · rename_i a b sep c d hlist
    rw [failIf_eq_ok, not_not]
    constructor
    · exact fun h => ⟨a, b, sep, c, d, hlist, h⟩
    · rintro ⟨a', b', sep', c', d', hlist', h⟩
      obtain ⟨rfl, rfl, rfl, rfl, rfl⟩ : a = a' ∧ b = b' ∧ sep = sep' ∧ c = c' ∧ d = d' := by
        simpa [hlist] using hlist'
      exact h
  · rename_i hlist
    refine ⟨fun h => absurd h fail_ne_ok, ?_⟩
    rintro ⟨a, b, sep, c, d, h, -⟩
    exact absurd h (hlist a b sep c d)

theorem isHexDigit_sign {c : Char} (h : c = '+' ∨ c = '-') : Coordinator.isHexDigit c = false := by
  rcases h with rfl | rfl <;> rfl

structure PrefixBytes (macPrefix : String) (b c : ℕ) : Prop where
  parts : ∃ first second, split macPrefix ':' = [first, second] ∧ parseHex first = some (b : ℤ) ∧
    parseHex second = some (c : ℤ)
  pairs : ∃ p q : Char × Char, macPrefix.toList = [p.1, p.2, ':', q.1, q.2] ∧ hexByte p = some b ∧
    hexByte q = some c
  unicast : b % 2 = 0

theorem PrefixBytes.unsigned {macPrefix : String} {b c : ℕ} (h : PrefixBytes macPrefix b c) :
    Unsigned macPrefix := by
  obtain ⟨p, q, hlist, hp, hq⟩ := h.pairs
  obtain ⟨x, y, hx, hy, -⟩ := hexByte_eq_some hp
  obtain ⟨z, w, hz, hw, -⟩ := hexByte_eq_some hq
  have hmem : ∀ e ∈ macPrefix.toList, e = ':' ∨ Coordinator.isHexDigit e = true := by
    rw [hlist]
    simp [isHexDigit_of_hexDigit hx, isHexDigit_of_hexDigit hy, isHexDigit_of_hexDigit hz,
      isHexDigit_of_hexDigit hw]
  constructor
  · exact fun he => absurd (hmem _ he) (by decide)
  · exact fun he => absurd (hmem _ he) (by decide)

theorem PrefixBytes.accepted {macPrefix : String} {b c : ℕ} (h : PrefixBytes macPrefix b c)
    (hne : macPrefix ≠ "") : validateHwPrefix macPrefix = .ok () := by
  obtain ⟨p, q, hlist, hp, hq⟩ := h.pairs
  obtain ⟨x, y, hx, hy, hb, -⟩ := hexByte_eq_some hp
  obtain ⟨z, w, hz, hw, -⟩ := hexByte_eq_some hq
  have heven : y % 2 = 0 := by
    have := h.unicast
    omega
  exact (validateHwPrefix_eq_ok hne).2 ⟨_, _, _, _, _, hlist, isHexDigit_of_hexDigit hx,
    secondClass_of_even hy heven, .inl rfl, isHexDigit_of_hexDigit hz, isHexDigit_of_hexDigit hw⟩

theorem admitted_cases {macPrefix : String} (hne : macPrefix ≠ "")
    (hadm : validateCoordinatorPodMACPrefix (some macPrefix) = .ok ()) :
    (∃ b c, PrefixBytes macPrefix b c) ∨
      ¬Unsigned macPrefix ∧ validateHwPrefix macPrefix ≠ .ok () := by
  obtain ⟨first, second, fb, sb, hsplit, hlist, hfirst, hsecond, hfb, hsb, hbit⟩ :=
    admitted_parts hne hadm
  have hsigned : ∀ sign ∈ macPrefix.toList, sign = '+' ∨ sign = '-' → ¬Unsigned macPrefix := by
    rintro sign hmem (rfl | rfl) hun
    · exact hun.1 hmem
    · exact hun.2 hmem
  rcases parseHex_cases hfirst hfb with ⟨p, b, hp, hb, rfl⟩ | ⟨sign, rest, hrest, hsign⟩
  · rw [hp] at hlist
    rcases parseHex_cases hsecond hsb with ⟨q, c, hq, hc, rfl⟩ | ⟨sign, rest, hrest, hsign⟩
    · rw [hq] at hlist
      obtain ⟨x, y, -, -, hval, hx, hy⟩ := hexByte_eq_some hb
      exact .inl ⟨b, c, ⟨first, second, hsplit, hfb, hsb⟩, ⟨p, q, hlist, hb, hc⟩,
        even_of_formatBinary (by omega) hbit⟩
    · rw [hrest] at hlist
      refine .inr ⟨hsigned sign (by simp [hlist]) hsign, fun hok => ?_⟩
      obtain ⟨a, b', sep, c, d, hlist', -, -, -, hc, -⟩ := (validateHwPrefix_eq_ok hne).1 hok
      obtain rfl : sign = c := by simp_all
      rw [isHexDigit_sign hsign] at hc
      cases hc
  · rw [hrest] at hlist
    refine .inr ⟨hsigned sign (by simp [hlist]) hsign, fun hok => ?_⟩
    obtain ⟨a, b, sep, c, d, hlist', ha, -⟩ := (validateHwPrefix_eq_ok hne).1 hok
    obtain rfl : sign = a := by simp_all
    rw [isHexDigit_sign hsign] at ha
    cases ha

/-! ### The hardware address -/

/-- A unicast address of six bytes: those of the prefix, and the last four of the address. -/
structure FixedMac (macPrefix : String) (a : Addr) (mac : List ℕ) : Prop where
  length : mac.length = 6
  bytes : ∀ b ∈ mac, b < 256
  unicast : ∃ b, mac.head? = some b ∧ b % 2 = 0
  value : ∃ first second b c, split macPrefix ':' = [first, second] ∧
    parseHex first = some ((b : ℕ) : ℤ) ∧ parseHex second = some ((c : ℕ) : ℤ) ∧
    mac = b :: c :: toDigits 256 4 a.val

section

variable {macPrefix : String} {env : LinkEnv} {a : Addr} {rest : List Addr}
  (haddr : env.addresses = .ok (a :: rest)) (hlink : env.link = .ok ())
  (hset : ∀ hardware, env.setHardwareAddr hardware = .ok ())

include haddr hlink hset

theorem overwriteHwAddress_run (hw : List ℕ) :
    overwriteHwAddress env macPrefix hw =
      (parseMAC (macPrefix ++ ":" ++ inetAton a)).elim (.error .panic, hw)
        fun mac => (.ok (macPrefix ++ ":" ++ inetAton a), mac) := by
  unfold overwriteHwAddress
  rw [Eff.bind_of_ok _ (Eff.lift_eq_ok.2 ⟨haddr, rfl⟩)]
  have hfirst : (deref (a :: rest).head? : Result Err Addr) = .ok a := rfl
  rw [Eff.bind_of_ok _ (Eff.lift_eq_ok.2 ⟨hfirst, rfl⟩)]
  rw [parseIP_string, Eff.bind_of_ok _ (Eff.lift_eq_ok.2 ⟨rfl, rfl⟩),
    Eff.bind_of_ok _ (Eff.lift_eq_ok.2 ⟨hlink, rfl⟩)]
  cases hmac : parseMAC (macPrefix ++ ":" ++ inetAton a) with
  | none => exact Eff.bind_of_error _ (by simp [Eff.lift, parseMac, hmac, deref])
  | some mac =>
    have hread : parseMac (macPrefix ++ ":" ++ inetAton a) = .ok mac := by rw [parseMac, hmac]; rfl
    have hwrite : linkSetHardwareAddr env mac hw = (.ok (), mac) := by
      simp [linkSetHardwareAddr, hset]
    rw [Eff.bind_of_ok _ (Eff.lift_eq_ok.2 ⟨hread, rfl⟩), Eff.bind_of_ok _ hwrite]
    rfl

end

theorem parseMAC_hwAddr {macPrefix : String} {b c : ℕ} (h : PrefixBytes macPrefix b c) (a : Addr) :
    parseMAC (macPrefix ++ ":" ++ inetAton a) =
      if LeadingByte a then some (b :: c :: toDigits 256 4 a.val) else none := by
  obtain ⟨p, q, hlist, hp, hq⟩ := h.pairs
  obtain ⟨pairs, hpairs, hlen, hbytes⟩ := inetAton_pairs a
  have htext : macPrefix ++ ":" ++ inetAton a = String.ofList (joinPairs (p :: q :: pairs)) := by
    obtain ⟨r, rs, rfl⟩ := List.exists_cons_of_length_eq_add_one hlen
    rw [hpairs]
    apply String.toList_inj.1
    simp [hlist, joinPairs, joinWith]
  rw [htext, parseMAC_joinPairs (by simp [hlen]), List.mapM_cons, List.mapM_cons, hp, hq, hbytes]
  split_ifs <;> rfl

/-- **The interface gets the hardware address exactly if the prefix has no sign in it and the first
byte of the address is not zero.**  Otherwise the plugin refuses the prefix, or panics. -/
theorem mac_fixed_iff {macPrefix : String} (hne : macPrefix ≠ "")
    (hadm : validateCoordinatorPodMACPrefix (some macPrefix) = .ok ()) {env : LinkEnv} {a : Addr}
    {rest : List Addr} (haddr : env.addresses = .ok (a :: rest)) (hlink : env.link = .ok ())
    (hset : ∀ hardware, env.setHardwareAddr hardware = .ok ()) (hw : List ℕ) :
    (validateHwPrefix macPrefix = .ok () ∧
      ∃ text mac, overwriteHwAddress env macPrefix hw = (.ok text, mac) ∧ FixedMac macPrefix a mac) ↔
      Unsigned macPrefix ∧ LeadingByte a := by
  have hrun : overwriteHwAddress env macPrefix hw = _ := overwriteHwAddress_run haddr hlink hset hw
  rcases admitted_cases hne hadm with ⟨b, c, hbytes⟩ | ⟨hsigned, hrefused⟩
  · rw [parseMAC_hwAddr hbytes] at hrun
    constructor
    · rintro ⟨-, text, mac, hmac, -⟩
      refine ⟨hbytes.unsigned, ?_⟩
      by_contra hlead
      rw [hrun, if_neg hlead] at hmac
      cases hmac
    · rintro ⟨-, hlead⟩
      rw [if_pos hlead] at hrun
      obtain ⟨first, second, hsplit, hfirst, hsecond⟩ := hbytes.parts
      obtain ⟨p, q, -, hp, hq⟩ := hbytes.pairs
      obtain ⟨x, y, -, -, hb, hx, hy⟩ := hexByte_eq_some hp
      obtain ⟨z, w, -, -, hc, hz, hw'⟩ := hexByte_eq_some hq
      refine ⟨hbytes.accepted hne, _, _, hrun, ?_⟩
      exact {
        length := by simp [length_toDigits]
        bytes := by
          rw [List.forall_mem_cons, List.forall_mem_cons]
          exact ⟨by omega, by omega, toDigits_lt (by norm_num) 4 a.val⟩
        unicast := ⟨b, rfl, hbytes.unicast⟩
        value := ⟨first, second, b, c, hsplit, hfirst, hsecond, rfl⟩ }
  · exact iff_of_false (fun h => hrefused h.1) fun h => hsigned h.1

end Networking

namespace Sample

def linkWith (a : Addr) : Networking.LinkEnv where
  addresses := .ok [a]
  link := .ok ()
  setHardwareAddr := fun _ => .ok ()

theorem prefix_fixes_mac :
    CoordinatorManager.validateCoordinatorPodMACPrefix (some "0a:1b") = .ok () ∧
      Coordinator.validateHwPrefix "0a:1b" = .ok () ∧
      ∃ text mac, Networking.overwriteHwAddress (linkWith (Addr.ofV4 0x0a000001)) "0a:1b" [] =
        (.ok text, mac) ∧ Networking.FixedMac "0a:1b" (Addr.ofV4 0x0a000001) mac :=
  ⟨rfl, (Networking.mac_fixed_iff (by decide) rfl rfl rfl (fun _ => rfl) []).2
    ⟨by decide, by decide⟩⟩

theorem sample_prefix_bytes : Networking.PrefixBytes "0a:1b" 10 27 where
  parts := ⟨"0a", "1b", rfl, rfl, rfl⟩
  pairs := ⟨('0', 'a'), ('1', 'b'), rfl, rfl, rfl⟩
  unicast := rfl

/-- The prefix is admitted and taken, and the address `64:ff9b::1` makes the plugin panic. A prefix
with a sign is admitted and refused. -/
theorem prefix_not_used :
    CoordinatorManager.validateCoordinatorPodMACPrefix (some "0a:1b") = .ok () ∧
      Coordinator.validateHwPrefix "0a:1b" = .ok () ∧
      Networking.overwriteHwAddress (linkWith (Addr.ofNat (0x0064ff9b * 2 ^ 96 + 1))) "0a:1b" [] =
        (.error .panic, []) ∧
      CoordinatorManager.validateCoordinatorPodMACPrefix (some "+a:1b") = .ok () ∧
      Coordinator.validateHwPrefix "+a:1b" ≠ .ok () := by
  refine ⟨rfl, rfl, ?_, rfl, fun h => by cases h⟩
  rw [Networking.overwriteHwAddress_run rfl rfl (fun _ => rfl),
    Networking.parseMAC_hwAddr sample_prefix_bytes, if_neg (by decide)]
  rfl

end Sample

end Spiderpool
