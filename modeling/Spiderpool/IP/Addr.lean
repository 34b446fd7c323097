/-
# Addresses

`net.IP` as the code holds it: nil, or the sixteen bytes that `net.ParseIP` and
`IP.To16` make. An IPv4 address is the sixteen-byte `::ffff:a.b.c.d`, and
`IP.To4` tells it from the others by that prefix. The four-byte form occurs
inside `net.IPNet` only (`Spiderpool.IP.CIDR`).

`pkg/ip/ip.go` counts addresses in two ways. `nextIP` adds one to the bytes.
`NextIP` goes through `big.Int`: `ipToInt` forgets the prefix of an IPv4 address,
and `intToIP` reads the minimal bytes of the number back with `To16`, which
accepts four bytes (as IPv4) or sixteen and nothing else. So `NextIP` is nil
next to an address whose first byte is zero, and inside `::/96` it moves from an
IPv6 address to an IPv4 one.
-/

import Spiderpool.Base.Go

namespace Spiderpool

/-- The sixteen bytes of a `net.IP`, read as a number. -/
abbrev Addr := Fin (2 ^ 128)

instance Addr.instNeZero : NeZero (2 ^ 128 : ℕ) := ⟨by norm_num⟩

instance Addr.instLawfulBEq : LawfulBEq Addr := inferInstance

/-- A `net.IP`: nil or sixteen bytes. -/
abbrev IP := Option Addr

namespace Addr

/-- The number `n` as sixteen bytes, its higher bits dropped. -/
def ofNat (n : ℕ) : Addr := Fin.ofNat (2 ^ 128) n

theorem val_ofNat {n : ℕ} (hn : n < 2 ^ 128) : (ofNat n).val = n := Nat.mod_eq_of_lt hn

/-- `ip.To4() != nil`: the bytes are `::ffff:a.b.c.d`. -/
def is4 (a : Addr) : Bool := a.val / 2 ^ 32 == 0xffff

def low32 (a : Addr) : ℕ := a.val % 2 ^ 32

theorem low32_lt (a : Addr) : a.low32 < 2 ^ 32 := Nat.mod_lt _ (by norm_num)

/-- The IPv4 address with the four bytes `n`. -/
def ofV4 (n : ℕ) : Addr := ofNat (0xffff * 2 ^ 32 + n % 2 ^ 32)

theorem val_ofV4 {n : ℕ} (hn : n < 2 ^ 32) : (ofV4 n).val = 0xffff * 2 ^ 32 + n := by
  rw [ofV4, Nat.mod_eq_of_lt hn]
  exact val_ofNat (by norm_num at hn ⊢; omega)

theorem is4_iff {a : Addr} : a.is4 = true ↔ a.val = 0xffff * 2 ^ 32 + a.low32 := by
  simp only [is4, beq_iff_eq, low32]
  omega

theorem is4_ofV4 {n : ℕ} (hn : n < 2 ^ 32) : (ofV4 n).is4 = true := by
  rw [is4_iff, low32, val_ofV4 hn]
  omega

theorem ofV4_low32 {a : Addr} (h : a.is4 = true) : ofV4 a.low32 = a := by
  apply Fin.ext
  rw [val_ofV4 a.low32_lt, ← is4_iff.1 h]

/-- `ipToInt` at sixteen bytes. -/
def toInt (a : Addr) : ℕ := if a.is4 then a.low32 else a.val

/-- The number of an address: the last four bytes of an IPv4 address, all
sixteen of any other, which is then outside of the IPv4 block. -/
theorem toInt_cases (a : Addr) :
    (a.is4 = true ∧ a.val = 0xffff * 2 ^ 32 + a.toInt ∧ a.toInt < 2 ^ 32) ∨
      (a.is4 = false ∧ a.toInt = a.val ∧ (a.val < 0xffff * 2 ^ 32 ∨ 2 ^ 48 ≤ a.val)) := by
  cases h : a.is4 with
  | true =>
    have hint : a.toInt = a.low32 := by simp [toInt, h]
    exact .inl ⟨rfl, by rw [hint]; exact is4_iff.1 h, hint ▸ a.low32_lt⟩
  | false =>
    refine .inr ⟨rfl, by simp [toInt, h], ?_⟩
    simp only [is4, beq_eq_false_iff_ne] at h
    omega

theorem toInt_le_iff {a b : Addr} (h : a.is4 = b.is4) : a.toInt ≤ b.toInt ↔ a ≤ b := by
  rw [Fin.le_def]
  rcases toInt_cases a with ⟨ha4, ha, -⟩ | ⟨ha4, ha, -⟩ <;>
    rcases toInt_cases b with ⟨hb4, hb, -⟩ | ⟨hb4, hb, -⟩ <;>
    simp only [ha4, hb4, reduceCtorEq] at h <;> omega

end Addr

namespace IP

/-- `ipToInt`: a nil address has no bytes and counts as `0`. -/
def ipToInt : IP → ℕ
  | none => 0
  | some a => a.toInt

/-- `intToIP`: `big.Int.Bytes` has no leading zero byte, and `To16` takes four
bytes or sixteen. -/
def intToIP (i : ℕ) : IP :=
  if 2 ^ 24 ≤ i ∧ i < 2 ^ 32 then some (Addr.ofV4 i)
  else if 2 ^ 120 ≤ i ∧ i < 2 ^ 128 then some (Addr.ofNat i)
  else none

/-- `NextIP`, through `big.Int`. -/
def nextIP (ip : IP) : IP := intToIP (ipToInt ip + 1)

@[simp] theorem ipToInt_none : ipToInt none = 0 := rfl

@[simp] theorem ipToInt_some (a : Addr) : ipToInt (some a) = a.toInt := rfl

@[simp] theorem nextIP_none : nextIP none = none := by simp [nextIP, intToIP]

theorem intToIP_cases {i : ℕ} {a : Addr} (h : intToIP i = some a) :
    (a.is4 = true ∧ a.val = 0xffff * 2 ^ 32 + i ∧ 2 ^ 24 ≤ i ∧ i < 2 ^ 32) ∨
      (a.is4 = false ∧ a.val = i ∧ 2 ^ 120 ≤ i) := by
  unfold intToIP at h
  split_ifs at h with h4 h16
  · obtain rfl := Option.some.inj h
    exact .inl ⟨Addr.is4_ofV4 h4.2, Addr.val_ofV4 h4.2, h4⟩
  · obtain rfl := Option.some.inj h
    have hv := Addr.val_ofNat h16.2
    refine .inr ⟨?_, hv, h16.1⟩
    simp only [Addr.is4, hv, beq_eq_false_iff_ne, ne_eq]
    norm_num at h16 ⊢
    omega

theorem toInt_of_intToIP {i : ℕ} {a : Addr} (h : intToIP i = some a) : a.toInt = i := by
  have ha := Addr.toInt_cases a
  rcases intToIP_cases h with ⟨h4, hv, -, hi⟩ | ⟨h4, hv, -⟩ <;> simp [h4] at ha <;> omega

theorem toInt_of_nextIP {ip : IP} {a : Addr} (h : nextIP ip = some a) :
    a.toInt = ipToInt ip + 1 :=
  toInt_of_intToIP h

end IP

end Spiderpool
