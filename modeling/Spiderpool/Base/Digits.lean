/-
# Numbers of a fixed number of digits

A number below `b ^ k` as its `k` digits to the base `b`, most significant
first and with leading zeros, and back.
-/

import Mathlib

namespace Spiderpool

/-- The `k` lowest digits of `n` to the base `b`, most significant first. -/
def toDigits (b : ℕ) : ℕ → ℕ → List ℕ
  | 0, _ => []
  | k + 1, n => toDigits b k (n / b) ++ [n % b]

/-- The number with the digits `ds` to the base `b`, most significant first. -/
def fromDigits (b : ℕ) (ds : List ℕ) : ℕ := ds.foldl (fun n d => n * b + d) 0

theorem length_toDigits (b k n : ℕ) : (toDigits b k n).length = k := by
  induction k generalizing n with
  | zero => rfl
  | succ k ih => simp [toDigits, ih]

theorem toDigits_lt {b : ℕ} (hb : 0 < b) (k n : ℕ) : ∀ d ∈ toDigits b k n, d < b := by
  induction k generalizing n with
  | zero => simp [toDigits]
  | succ k ih =>
    intro d hd
    rcases List.mem_append.1 hd with hd | hd
    · exact ih _ d hd
    · rw [List.mem_singleton] at hd
      exact hd ▸ Nat.mod_lt _ hb

theorem fromDigits_append_singleton (b : ℕ) (ds : List ℕ) (d : ℕ) :
    fromDigits b (ds ++ [d]) = fromDigits b ds * b + d := by
  simp [fromDigits, List.foldl_append]

/-- The digits of a number below `b ^ k` spell that number. -/
theorem fromDigits_toDigits {b k n : ℕ} (hn : n < b ^ k) : fromDigits b (toDigits b k n) = n := by
  induction k generalizing n with
  | zero => simp_all [toDigits, fromDigits]
  | succ k ih =>
    have hq : n / b < b ^ k := Nat.div_lt_of_lt_mul (by rwa [pow_succ, mul_comm] at hn)
    rw [toDigits, fromDigits_append_singleton, ih hq]
    exact Nat.div_add_mod' n b

/-- The lowest `j + k` digits are the lowest `j` of what is above the lowest `k`, and these. -/
theorem toDigits_add (b j k n : ℕ) :
    toDigits b (j + k) n = toDigits b j (n / b ^ k) ++ toDigits b k n := by
  induction k generalizing n with
  | zero => simp [toDigits]
  | succ k ih =>
    rw [← Nat.add_assoc, toDigits, toDigits, ih, Nat.div_div_eq_div_mul, ← pow_succ',
      List.append_assoc]

theorem toDigits_mod (b k n : ℕ) : toDigits b k (n % b ^ k) = toDigits b k n := by
  induction k generalizing n with
  | zero => rfl
  | succ k ih =>
    rw [toDigits, toDigits, pow_succ, mul_comm, Nat.mod_mul_right_div_self, ih,
      Nat.mod_mul_right_mod]

end Spiderpool
