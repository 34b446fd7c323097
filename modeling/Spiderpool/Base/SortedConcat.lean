/-
# Concatenating along a sort

Elements are sorted by a key, and each contributes a list to the result. `sort.Slice` says nothing
about the order of elements with equal keys, so the result is one of the listed elements, and not of
the order they are listed in, as far as the contributions of equal elements commute
(`flatMap_sort_perm`). An insertion sort keeps equal elements in the order they come in, and the
condition is then also necessary: of two equal elements that come first, the one that comes before
the other contributes before it (`tiesCommute_of_orderFree`).
-/

import Spiderpool.Base.Sort

namespace Spiderpool

/-- `sort.Slice`: it sorts, and up to twelve elements by insertion. -/
structure SliceSort where
  sort : {α : Type} → (α → α → Bool) → List α → List α
  sorts : ∀ α, Sorts (@sort α)
  short : ∀ {α : Type} (less : α → α → Bool) {xs : List α}, xs.length ≤ 12 →
    sort less xs = sortSlice less xs

/-- An insertion sort at every length. -/
def SliceSort.insertion : SliceSort where
  sort := sortSlice
  sorts _ := sorts_sortSlice
  short _ _ _ := rfl

/-- The result of `f` does not depend on the order of the elements. -/
def OrderFree {α β : Type} (f : List α → β) (xs : List α) : Prop := ∀ ys, ys.Perm xs → f ys = f xs

section

variable {α γ κ : Type} (key : α → κ) (f : α → List γ)

/-- Elements with equal keys contribute lists that commute. -/
def TiesCommute (xs : List α) : Prop :=
  ∀ x ∈ xs, ∀ y ∈ xs, key x = key y → f x ++ f y = f y ++ f x

variable {key f} {xs ys : List α}

theorem TiesCommute.subset (h : TiesCommute key f xs) (hsub : ys ⊆ xs) : TiesCommute key f ys :=
  fun x hx y hy hxy => h x (hsub hx) y (hsub hy) hxy

variable [LinearOrder κ]

def lessBy (key : α → κ) (x y : α) : Bool := decide (key x < key y)

/-- A list that commutes with each contribution commutes with all of them together. -/
theorem append_flatMap_comm {l : List γ} (h : ∀ y ∈ ys, l ++ f y = f y ++ l) :
    l ++ ys.flatMap f = ys.flatMap f ++ l := by
  induction ys with
  | nil => simp
  | cons y ys ih =>
    rw [List.forall_mem_cons] at h
    rw [List.flatMap_cons, ← List.append_assoc, h.1, List.append_assoc, ih h.2, List.append_assoc]

/-- Two ways to sort the same elements give one concatenation if equal elements commute. -/
theorem flatMap_eq_of_sorted (hperm : xs.Perm ys) (hx : xs.Pairwise fun x y => lessBy key y x = false)
    (hy : ys.Pairwise fun x y => lessBy key y x = false) (hties : TiesCommute key f xs) :
    xs.flatMap f = ys.flatMap f := by
  induction xs generalizing ys with
  | nil => rw [hperm.nil_eq]
  | cons x xs ih =>
    obtain ⟨before, after, rfl⟩ := List.append_of_mem (hperm.subset List.mem_cons_self)
    have hrest : xs.Perm (before ++ after) := (hperm.trans List.perm_middle).cons_inv
    have hsub : (before ++ after).Sublist (before ++ x :: after) :=
      (List.sublist_cons_self x after).append_left before
    -- what stands before `x` in the other list has the key of `x`
    have hequal : ∀ b ∈ before, key x = key b := by
      intro b hb
      have hbx : lessBy key x b = false :=
        (List.pairwise_append.1 hy).2.2 b hb x List.mem_cons_self
      have hxb : lessBy key b x = false :=
        (List.pairwise_cons.1 hx).1 b (hrest.symm.subset (List.mem_append_left _ hb))
      simp only [lessBy, decide_eq_false_iff_not, not_lt] at hbx hxb
      exact le_antisymm hxb hbx
    have hcomm : f x ++ before.flatMap f = before.flatMap f ++ f x := by
      refine append_flatMap_comm fun b hb => ?_
      have hmem : b ∈ x :: xs :=
        List.mem_cons_of_mem _ (hrest.symm.subset (List.mem_append_left _ hb))
      exact hties x List.mem_cons_self b hmem (hequal b hb)
    have htail := ih hrest (List.pairwise_cons.1 hx).2 (hy.sublist hsub)
      (hties.subset (List.subset_cons_self x xs))
    rw [List.flatMap_cons, htail, List.flatMap_append, List.flatMap_append, List.flatMap_cons,
      ← List.append_assoc, hcomm, List.append_assoc]

/-- The concatenation does not depend on the order of the elements if equal elements commute. -/
theorem flatMap_sort_perm (S : SliceSort) (hties : TiesCommute key f xs) :
    OrderFree (fun l => (S.sort (lessBy key) l).flatMap f) xs := by
  intro ys hperm
  obtain ⟨hpy, hsy⟩ := S.sorts α (lessBy key) (weakOrder_lt key) ys
  obtain ⟨hpx, hsx⟩ := S.sorts α (lessBy key) (weakOrder_lt key) xs
  exact flatMap_eq_of_sorted (hpy.trans (hperm.trans hpx.symm)) hsy hsx
    (hties.subset (hpy.trans hperm).subset)

/-! ### The insertion sort -/

/-- An element sinks past two neighbours with equal keys alike, whichever of them comes first. -/
theorem sinkLeft_swap {x y : α} (hxy : key x = key y) (z : α) (as bs : List α) :
    ∃ as' bs', sinkLeft (lessBy key) z (as ++ x :: y :: bs) = as' ++ x :: y :: bs' ∧
      sinkLeft (lessBy key) z (as ++ y :: x :: bs) = as' ++ y :: x :: bs' := by
  induction as with
  | nil =>
    have hless : lessBy key z x = lessBy key z y := by simp [lessBy, hxy]
    by_cases hz : lessBy key z y = true
    · exact ⟨[], sinkLeft (lessBy key) z bs, by simp [sinkLeft, hless, hz],
        by simp [sinkLeft, hless, hz]⟩
    · exact ⟨[z], bs, by simp [sinkLeft, hless, hz], by simp [sinkLeft, hz]⟩
  | cons a as ih =>
    by_cases hz : lessBy key z a = true
    · obtain ⟨as', bs', h, h'⟩ := ih
      exact ⟨a :: as', bs', by simp [sinkLeft, hz, h], by simp [sinkLeft, hz, h']⟩
    · exact ⟨z :: a :: as, bs, by simp [sinkLeft, hz], by simp [sinkLeft, hz]⟩

/-- Two elements with equal keys that come first are neighbours in what comes out, in the order they
came in. -/
theorem sortSlice_swap {x y : α} (hxy : key x = key y) (rest : List α) :
    ∃ as bs, sortSlice (lessBy key) (x :: y :: rest) = as ++ x :: y :: bs ∧
      sortSlice (lessBy key) (y :: x :: rest) = as ++ y :: x :: bs := by
  have hfold : ∀ zs as bs : List α, ∃ as' bs',
      zs.foldl (fun sorted z => sinkLeft (lessBy key) z sorted) (as ++ y :: x :: bs) =
        as' ++ y :: x :: bs' ∧
      zs.foldl (fun sorted z => sinkLeft (lessBy key) z sorted) (as ++ x :: y :: bs) =
        as' ++ x :: y :: bs' := by
    intro zs
    induction zs with
    | nil => exact fun as bs => ⟨as, bs, rfl, rfl⟩
    | cons z zs ih =>
      intro as bs
      obtain ⟨as', bs', h, h'⟩ := sinkLeft_swap hxy.symm z as bs
      simp only [List.foldl_cons, h, h']
      exact ih as' bs'
  have hfirst : ∀ a b : α, key a = key b →
      sinkLeft (lessBy key) b (sinkLeft (lessBy key) a []) = [b, a] := by
    intro a b hab
    simp [sinkLeft, lessBy, hab]
  obtain ⟨as, bs, h, h'⟩ := hfold rest [] []
  refine ⟨bs.reverse, as.reverse, ?_, ?_⟩
  · rw [sortSlice, List.foldl_cons, List.foldl_cons, hfirst x y hxy]
    simpa using h
  · rw [sortSlice, List.foldl_cons, List.foldl_cons, hfirst y x hxy.symm]
    simpa using h'

/-- If the concatenation along an insertion sort does not depend on the order of the elements, equal
elements commute. -/
theorem tiesCommute_of_orderFree (h : OrderFree (fun l => (sortSlice (lessBy key) l).flatMap f) xs) :
    TiesCommute key f xs := by
  intro x hx y hy hxy
  by_cases hne : x = y
  · rw [hne]
  -- the two elements first, in either order
  obtain ⟨rest, hrest⟩ : ∃ rest, xs.Perm (x :: y :: rest) := by
    obtain ⟨as, bs, rfl⟩ := List.append_of_mem hx
    have hmid : (as ++ x :: bs).Perm (x :: (as ++ bs)) := List.perm_middle
    have hy' : y ∈ as ++ bs := (List.mem_cons.1 (hmid.subset hy)).resolve_left (Ne.symm hne)
    obtain ⟨cs, ds, heq⟩ := List.append_of_mem hy'
    refine ⟨cs ++ ds, hmid.trans ?_⟩
    rw [heq]
    exact List.perm_middle.cons x
  have hswap : (y :: x :: rest).Perm xs := (List.Perm.swap x y rest).trans hrest.symm
  have heq := (h _ hrest.symm).trans (h _ hswap).symm
  obtain ⟨as, bs, hsort, hsort'⟩ := sortSlice_swap hxy rest
  simp only [hsort, hsort', List.flatMap_append, List.flatMap_cons] at heq
  have hcancel := List.append_cancel_left heq
  rw [← List.append_assoc, ← List.append_assoc] at hcancel
  exact List.append_cancel_right hcancel

end

end Spiderpool
