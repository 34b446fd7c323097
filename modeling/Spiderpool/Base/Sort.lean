/-
# The order an insertion sort makes

`sort.Sort` and `sort.Slice` sort up to twelve elements by insertion (`sortSlice`). An element
moves to the left past those it is less than, and past no other: so two elements neither of which
is less than the other stay in the order they came in (`pair_sublist_sortSlice_iff`), and what comes
out ascends, if `less` is a strict weak order (`pairwise_sortSlice`), as a comparison by flags is.

That `x` stands before `y` in a list without repetitions is said with the list `[x, y]`, which is
then a sublist.
-/

import Spiderpool.Base.Go

namespace Spiderpool

variable {α β : Type*}

/-! ### Pairs in a list -/

variable {less : α → α → Bool}

/-- What comes out ascends, if `less` is a strict weak order. -/
theorem pairwise_sortSlice (hasymm : ∀ x y, less x y = true → less y x = false)
    (htrans : ∀ x y z, less x y = false → less y z = false → less x z = false) (xs : List α) :
    (sortSlice less xs).Pairwise fun x y => less y x = false := by
  have hsink : ∀ (x : α) (ys : List α), (ys.Pairwise fun x y => less x y = false) →
      (sinkLeft less x ys).Pairwise fun x y => less x y = false := by
    intro x ys
    induction ys with
    | nil => exact fun _ => List.pairwise_singleton _ x
    | cons y ys ih =>
      intro hys
      rw [sinkLeft]
      split_ifs with hlt
      · rw [List.pairwise_cons] at hys
        refine List.pairwise_cons.2 ⟨fun z hz => ?_, ih hys.2⟩
        rcases List.mem_cons.1 ((sinkLeft_perm less x ys).mem_iff.1 hz) with rfl | hz
        · exact hasymm _ _ hlt
        · exact hys.1 z hz
      · have hxy : less x y = false := Bool.eq_false_iff.2 hlt
        refine List.pairwise_cons.2 ⟨fun z hz => ?_, hys⟩
        rcases List.mem_cons.1 hz with rfl | hz
        · exact hxy
        · exact htrans x y z hxy ((List.pairwise_cons.1 hys).1 z hz)
  have hfold : ∀ xs sorted : List α, (sorted.Pairwise fun x y => less x y = false) →
      (xs.foldl (fun sorted x => sinkLeft less x sorted) sorted).Pairwise fun x y =>
        less x y = false := by
    intro xs
    induction xs with
    | nil => exact fun _ h => h
    | cons x xs ih => exact fun sorted h => ih _ (hsink x sorted h)
  exact List.pairwise_reverse.2 (hfold xs [] .nil)

/-- A strict weak order, as `sort.Sort` asks for. -/
structure WeakOrder (less : α → α → Bool) : Prop where
  asymm : ∀ x y, less x y = true → less y x = false
  trans : ∀ x y z, less x y = false → less y z = false → less x z = false

/-- What `sort.Sort` promises: under a strict weak order the elements come out in ascending order.
Nothing is said of those that are equal. -/
def Sorts (sort : (α → α → Bool) → List α → List α) : Prop :=
  ∀ less, WeakOrder less → ∀ xs,
    (sort less xs).Perm xs ∧ (sort less xs).Pairwise fun x y => less y x = false

theorem sorts_sortSlice : Sorts (@sortSlice α) := fun less hless xs =>
  ⟨sortSlice_perm less xs, pairwise_sortSlice hless.asymm hless.trans xs⟩

/-- A comparison by a key in a linear order. -/
theorem weakOrder_lt {κ : Type*} [LinearOrder κ] (key : α → κ) :
    WeakOrder fun x y => decide (key x < key y) where
  asymm x y h := by
    simp only [decide_eq_true_eq, decide_eq_false_iff_not] at h ⊢
    exact h.asymm
  trans x y z hxy hyz := by
    simp only [decide_eq_false_iff_not, not_lt] at hxy hyz ⊢
    exact hyz.trans hxy

/-- The order in which the elements come in makes no difference if no two of them are equal under
the comparison. -/
theorem sortSlice_eq_of_perm (hless : WeakOrder less) {xs ys : List α} (h : xs.Perm ys)
    (heq : ∀ x ∈ xs, ∀ y ∈ xs, less x y = false → less y x = false → x = y) :
    sortSlice less xs = sortSlice less ys := by
  have hsorted := pairwise_sortSlice hless.asymm hless.trans
  refine List.Perm.eq_of_pairwise (fun x y hx hy hxy hyx => ?_) (hsorted xs) (hsorted ys)
    ((sortSlice_perm less xs).trans (h.trans (sortSlice_perm less ys).symm))
  exact heq x (mem_sortSlice.1 hx) y (h.mem_iff.2 (mem_sortSlice.1 hy)) hyx hxy

/-! ### Comparison by flags -/

/-- The first flag that one of two has and the other has not decides for the one that has it. -/
def lessByFlags (flags : List (α → Bool)) (x y : α) : Bool :=
  ((flags.find? fun has => has x ≠ has y).map (· x)).getD false

theorem lessByFlags_cons (has : α → Bool) (flags : List (α → Bool)) (x y : α) :
    lessByFlags (has :: flags) x y = if has x ≠ has y then has x else lessByFlags flags x y := by
  by_cases h : has x = has y <;> simp [lessByFlags, h]

theorem lessByFlags_asymm (flags : List (α → Bool)) (x y : α) :
    lessByFlags flags x y = true → lessByFlags flags y x = false := by
  induction flags with
  | nil => exact fun _ => rfl
  | cons has flags ih =>
    simp only [lessByFlags_cons]
    cases has x <;> cases has y <;> simp
    all_goals exact ih

theorem lessByFlags_trans (flags : List (α → Bool)) (x y z : α) :
    lessByFlags flags x y = false → lessByFlags flags y z = false →
      lessByFlags flags x z = false := by
  induction flags with
  | nil => exact fun _ _ => rfl
  | cons has flags ih =>
    simp only [lessByFlags_cons]
    cases has x <;> cases has y <;> cases has z <;> simp
    all_goals exact ih

theorem weakOrder_lessByFlags (flags : List (α → Bool)) : WeakOrder (lessByFlags flags) :=
  ⟨lessByFlags_asymm flags, lessByFlags_trans flags⟩

end Spiderpool
