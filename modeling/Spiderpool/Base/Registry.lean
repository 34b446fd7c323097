/-
# A registry in which the last to register wins

Holders register one after the other, each under a key of its own choosing and by its number. An
entry is replaced without a word if the key is taken. Every holder still has its entry at the
end exactly when the keys are different (`registerAll_keeps_iff`).
-/

import Spiderpool.Base.Go

namespace Spiderpool

variable {κ : Type*} [DecidableEq κ]

/-- The holders from number `n` on register under the keys `ks`. -/
def registerAll : List κ → ℕ → GoMap κ ℕ → GoMap κ ℕ
  | [], _, m => m
  | k :: ks, n, m => registerAll ks (n + 1) (m.insert k n)

section

variable {k : κ} (ks : List κ) (n : ℕ) (m : GoMap κ ℕ)

theorem lookup_registerAll_of_notMem (h : k ∉ ks) : (registerAll ks n m).lookup k = m.lookup k := by
  induction ks generalizing n m with
  | nil => rfl
  | cons k' ks ih =>
    rw [List.mem_cons, not_or] at h
    rw [registerAll, ih (n + 1) _ h.2, GoMap.lookup_insert_eq, if_neg h.1]

/-- A key that is registered is held by one of the holders. -/
theorem lookup_registerAll_of_mem (h : k ∈ ks) :
    ∃ i, (registerAll ks n m).lookup k = some i ∧ n ≤ i := by
  induction ks generalizing n m with
  | nil => cases h
  | cons k' ks ih =>
    by_cases hk : k ∈ ks
    · obtain ⟨i, hi, hn⟩ := ih (n + 1) (m.insert k' n) hk
      exact ⟨i, hi, by omega⟩
    · obtain rfl : k = k' := (List.mem_cons.1 h).resolve_right hk
      refine ⟨n, ?_, le_rfl⟩
      rw [registerAll, lookup_registerAll_of_notMem ks (n + 1) _ hk, GoMap.lookup_insert_eq,
        if_pos rfl]

/-- **Nobody is replaced** exactly when the keys are different. -/
theorem registerAll_keeps_iff :
    (∀ i k, ks[i]? = some k → (registerAll ks n m).lookup k = some (n + i)) ↔ ks.Nodup := by
  induction ks generalizing n m with
  | nil => simp
  | cons k ks ih =>
    rw [List.nodup_cons, ← ih (n + 1) (m.insert k n)]
    constructor
    · intro h
      refine ⟨fun hk => ?_, fun i k' hk' => ?_⟩
      · -- a later holder of the same key has a larger number
        obtain ⟨i, hi, hn⟩ := lookup_registerAll_of_mem ks (n + 1) (m.insert k n) hk
        have h₀ := h 0 k rfl
        rw [registerAll, hi, Option.some.injEq] at h₀
        omega
      · have hi := h (i + 1) k' hk'
        rwa [show n + 1 + i = n + (i + 1) by omega]
    · rintro ⟨hk, h⟩ i k' hk'
      cases i with
      | zero =>
        obtain rfl : k = k' := Option.some.inj hk'
        rw [registerAll, lookup_registerAll_of_notMem ks (n + 1) _ hk, GoMap.lookup_insert_eq,
          if_pos rfl]
        rfl
      | succ i =>
        have hi := h i k' hk'
        rwa [show n + 1 + i = n + (i + 1) by omega] at hi

end

end Spiderpool
