/-
# Counting in a map

A Go map of counters, `m[t]++` and `m[t]--`, where a counter that falls to zero is deleted.
`Counts` says which multiset such a map stands for: a key is there exactly if it is a
member, and holds how often it is. An increment adds a member, and a decrement takes
one away, as long as there is one.
-/

import Spiderpool.Base.Go

namespace Spiderpool
namespace Counter

variable {τ : Type*} [DecidableEq τ]

/-- `m[t]++`. -/
def incr (m : GoMap τ ℤ) (t : τ) : GoMap τ ℤ := m.insert t ((m.lookup t).getD 0 + 1)

/-- `m[t]--`, and `delete(m, t)` if nothing is left. -/
def decr (m : GoMap τ ℤ) (t : τ) : GoMap τ ℤ :=
  if (m.lookup t).getD 0 - 1 = 0 then m.erase t else m.insert t ((m.lookup t).getD 0 - 1)

/-- Increments delete no key. -/
theorem mem_incr_all {m : GoMap τ ℤ} {t : τ} (h : t ∈ m) (ts : List τ) : t ∈ ts.foldl incr m := by
  induction ts generalizing m with
  | nil => exact h
  | cons t' ts ih => exact ih ((AList.mem_insert m).2 (.inr h))

/-- The map holds how often each key is a member of `s`, and no other keys. -/
def Counts (m : GoMap τ ℤ) (s : Multiset τ) : Prop :=
  ∀ t, m.lookup t = if t ∈ s then some (s.count t : ℤ) else none

theorem counts_empty : Counts (∅ : GoMap τ ℤ) 0 := fun _ => rfl

variable {m : GoMap τ ℤ} {s : Multiset τ} {t : τ}

namespace Counts

theorem mem_iff (h : Counts m s) : t ∈ m ↔ t ∈ s := by
  rw [← AList.lookup_isSome, h t]
  split_ifs with ht <;> simp [ht]

theorem getD (h : Counts m s) : (m.lookup t).getD 0 = s.count t := by
  rw [h t]
  split_ifs with ht
  · rfl
  · simp [Multiset.count_eq_zero.2 ht]

theorem incr (h : Counts m s) (t : τ) : Counts (incr m t) (t ::ₘ s) := by
  intro t'
  rw [Counter.incr, GoMap.lookup_insert_eq, h.getD]
  split_ifs with heq hmem hmem
  · subst heq
    simp
  · exact absurd (heq ▸ Multiset.mem_cons_self t s) hmem
  · have hs : t' ∈ s := (Multiset.mem_cons.1 hmem).resolve_left heq
    rw [h t', if_pos hs, Multiset.count_cons_of_ne heq]
  · have hs : t' ∉ s := fun hs => hmem (Multiset.mem_cons_of_mem hs)
    rw [h t', if_neg hs]

theorem decr (h : Counts m s) (ht : t ∈ s) : Counts (decr m t) (s.erase t) := by
  have hpos := Multiset.count_pos.2 ht
  have hmem : t ∈ s.erase t ↔ ¬((s.count t : ℤ) - 1 = 0) := by
    rw [← Multiset.count_pos, Multiset.count_erase_self]
    omega
  intro t'
  rw [Counter.decr, h.getD]
  by_cases heq : t' = t
  · subst heq
    split_ifs with hzero hin hin
    · exact absurd hzero (hmem.1 hin)
    · rw [GoMap.lookup_erase_eq, if_pos rfl]
    · rw [GoMap.lookup_insert_eq, if_pos rfl, Multiset.count_erase_self, Nat.cast_sub hpos]
      rfl
    · exact absurd (hmem.2 hzero) hin
  · have hrest : t' ∈ s.erase t ↔ t' ∈ s := Multiset.mem_erase_of_ne heq
    rw [if_congr hrest rfl rfl, Multiset.count_erase_of_ne heq, ← h t']
    split_ifs
    · rw [GoMap.lookup_erase_eq, if_neg heq]
    · rw [GoMap.lookup_insert_eq, if_neg heq]

/-- Incrementing once for each of `ts` adds them. -/
theorem incr_all (h : Counts m s) (ts : List τ) : Counts (ts.foldl Counter.incr m) (ts + s) := by
  induction ts generalizing m s with
  | nil => simpa using h
  | cons t ts ih =>
    have := ih (h.incr t)
    rwa [Multiset.add_cons, ← Multiset.cons_add, Multiset.cons_coe] at this

/-- Decrementing once for each of `ts` takes them away, if they are there. -/
theorem decr_all {ts : List τ} (h : Counts m (ts + s)) : Counts (ts.foldl Counter.decr m) s := by
  induction ts generalizing m with
  | nil => simpa using h
  | cons t ts ih =>
    rw [← Multiset.cons_coe, Multiset.cons_add] at h
    have := h.decr (Multiset.mem_cons_self t _)
    rw [Multiset.erase_cons_head] at this
    exact ih this

end Counts

end Counter
end Spiderpool
