/-
# Grouping a list by a key

A loop that files each element of a list under its key in a map, with what the elements of
that key have made of the entry so far: `collect`. Each entry depends on the elements of its
key alone, in their order (`lookup_collect`), so that what the entries list together is what
the elements list, in another order (`perm_flatMap_collect`).
-/

import Spiderpool.Base.Go

namespace Spiderpool

variable {κ α β γ : Type*} [DecidableEq κ]

/-- The elements of a list, one key after the other. -/
theorem perm_flatMap_filter {key : α → κ} {ks : List κ} (hks : ks.Nodup) {xs : List α}
    (h : ∀ x ∈ xs, key x ∈ ks) : (ks.flatMap fun k => xs.filter (key · = k)).Perm xs := by
  induction ks generalizing xs with
  | nil =>
    obtain rfl : xs = [] := List.eq_nil_iff_forall_not_mem.2 fun x hx => by simpa using h x hx
    rfl
  | cons k ks ih =>
    obtain ⟨hk, hks⟩ := List.nodup_cons.1 hks
    -- the elements with another key than `k` have their keys among the rest
    have hrest : (ks.flatMap fun k' => xs.filter (key · = k')).Perm
        (xs.filter fun x => !decide (key x = k)) := by
      have hsame : (ks.flatMap fun k' => xs.filter (key · = k')) =
          ks.flatMap fun k' => (xs.filter fun x => !decide (key x = k)).filter (key · = k') := by
        refine List.flatMap_congr fun k' hk' => ?_
        rw [List.filter_filter]
        refine List.filter_congr fun x _ => ?_
        by_cases hx : key x = k'
        · have : key x ≠ k := by
            rintro rfl
            exact hk (hx ▸ hk')
          simp [hx, hx ▸ this]
        · simp [hx]
      rw [hsame]
      refine ih hks fun x hx => ?_
      obtain ⟨hx, hne⟩ := List.mem_filter.1 hx
      exact (List.mem_cons.1 (h x hx)).resolve_left (by simpa using hne)
    rw [List.flatMap_cons]
    exact (hrest.append_left _).trans (List.filter_append_perm _ xs)

namespace GoMap

/-- `for _, x := range xs { m[key(x)] = f(m[key(x)], x) }` on an empty map. -/
def collect (key : α → κ) (f : Option β → α → β) (xs : List α) : GoMap κ β :=
  xs.foldl (fun m x => m.insert (key x) (f (m.lookup (key x)) x)) ∅

variable {key : α → κ} {f : Option β → α → β} {xs : List α}

/-- The entry of a key is what its elements make, in their order. -/
theorem lookup_collect (k : κ) :
    (collect key f xs).lookup k =
      (xs.filter (key · = k)).foldl (fun o x => some (f o x)) none := by
  have hloop : ∀ (xs : List α) (m : GoMap κ β),
      (xs.foldl (fun m x => m.insert (key x) (f (m.lookup (key x)) x)) m).lookup k =
        (xs.filter (key · = k)).foldl (fun o x => some (f o x)) (m.lookup k) := by
    intro xs
    induction xs with
    | nil => exact fun _ => rfl
    | cons x xs ih =>
      intro m
      rw [List.foldl_cons, ih, lookup_insert_eq]
      by_cases hx : key x = k
      · subst hx
        simp
      · simp [hx, Ne.symm hx]
  rw [collect, hloop]
  rfl

theorem mem_collect {k : κ} : k ∈ collect key f xs ↔ ∃ x ∈ xs, key x = k := by
  rw [← AList.lookup_isSome, lookup_collect]
  have hsome : ∀ (l : List α) (o : Option β),
      (l.foldl (fun o x => some (f o x)) o).isSome ↔ o.isSome ∨ l ≠ [] := by
    intro l
    induction l with
    | nil => simp
    | cons x l ih => simp [ih]
  rw [hsome, ne_eq, List.filter_eq_nil_iff]
  simp

/-- What the entries list together is what the elements list, if each entry lists what the
elements of its key do. -/
theorem perm_flatMap_collect {g : κ → β → List γ} {h : α → List γ}
    (hg : ∀ k b, (collect key f xs).lookup k = some b →
      (g k b).Perm ((xs.filter (key · = k)).flatMap h)) :
    ((collect key f xs).entries.flatMap fun e => g e.1 e.2).Perm (xs.flatMap h) := by
  have hentries : ((collect key f xs).entries.flatMap fun e => g e.1 e.2).Perm
      ((collect key f xs).keys.flatMap fun k => (xs.filter (key · = k)).flatMap h) := by
    rw [AList.keys, List.keys, List.flatMap_map]
    exact List.Perm.flatMap_left _ fun e he => hg e.1 e.2 (mem_entries_iff.1 he)
  have hkeys : ∀ x ∈ xs, key x ∈ (collect key f xs).keys := fun x hx =>
    AList.mem_keys.1 (mem_collect.2 ⟨x, hx, rfl⟩)
  refine hentries.trans ?_
  rw [← List.flatMap_assoc]
  exact (perm_flatMap_filter (AList.keys_nodup _) hkeys).flatMap_right h

end GoMap

end Spiderpool
