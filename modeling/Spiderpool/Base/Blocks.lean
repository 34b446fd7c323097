/-
# Aligned blocks of numbers

The numbers that agree above their lowest `k` bits form a block of size `2 ^ k`.
Blocks are intervals, and of two blocks either one contains the other or they
are disjoint.
-/

import Spiderpool.Base.Go

namespace Spiderpool

/-- `x` and `y` agree above their lowest `k` bits. -/
def SameBlock (k x y : ℕ) : Prop := x / 2 ^ k = y / 2 ^ k

instance (k x y : ℕ) : Decidable (SameBlock k x y) := inferInstanceAs (Decidable (_ = _))

namespace SameBlock

variable {j k x y z : ℕ}

theorem refl (k x : ℕ) : SameBlock k x x := rfl

theorem symm (h : SameBlock k x y) : SameBlock k y x := Eq.symm h

theorem trans (h : SameBlock k x y) (h' : SameBlock k y z) : SameBlock k x z := Eq.trans h h'

/-- A block lies inside the larger block around it. -/
theorem mono (hjk : j ≤ k) (h : SameBlock j x y) : SameBlock k x y := by
  obtain ⟨d, rfl⟩ := Nat.exists_eq_add_of_le hjk
  unfold SameBlock at *
  rw [pow_add, ← Nat.div_div_eq_div_mul, ← Nat.div_div_eq_div_mul, h]

/-- A block is an interval. -/
theorem between (hx : SameBlock k x z) (hy : SameBlock k y z) {w : ℕ} (h : x ≤ w) (h' : w ≤ y) :
    SameBlock k w z := by
  unfold SameBlock at *
  have h1 := Nat.div_le_div_right (c := 2 ^ k) h
  have h2 := Nat.div_le_div_right (c := 2 ^ k) h'
  omega

end SameBlock

end Spiderpool
