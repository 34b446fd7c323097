/-
# Leases

A table says who holds each resource. It changes by granting a free resource, by
revoking a lease from the one who holds it, and by transferring a lease; nothing
else happens to it. So a lease lasts until a change that names it and its holder
(`run_held`).

This is what an allocator is for, whatever it stores. One that stores something
else has leases by an abstraction function, and every write of it must be a run
here.
-/

import Spiderpool.Base.Runs

namespace Spiderpool

/-- Who holds each resource. -/
abbrev Leases (κ η : Type*) := κ → Option η

namespace Leases

variable {κ η : Type*} [DecidableEq κ]

inductive Change (κ η : Type*) where
  | grant (k : κ) (h : η)
  | revoke (k : κ) (h : η)
  | transfer (k : κ) (h h' : η)

/-- The change takes the lease of `k` from `h`. -/
def Change.Ends (k : κ) (h : η) : Change κ η → Prop
  | .grant _ _ => False
  | .revoke k' h' => k' = k ∧ h' = h
  | .transfer k' h' _ => k' = k ∧ h' = h

/-- The changes a table allows. -/
inductive Step : Leases κ η → Change κ η → Leases κ η → Prop
  | grant {t : Leases κ η} {k : κ} (h : η) (hk : t k = none) :
      Step t (.grant k h) (Function.update t k (some h))
  | revoke {t : Leases κ η} {k : κ} {h : η} (hk : t k = some h) :
      Step t (.revoke k h) (Function.update t k none)
  | transfer {t : Leases κ η} {k : κ} {h : η} (h' : η) (hk : t k = some h) :
      Step t (.transfer k h h') (Function.update t k (some h'))

/-- A lease outlives a change that does not end it. -/
theorem Step.held {t t' : Leases κ η} {c : Change κ η} (hst : Step t c t') {k : κ} {h : η}
    (hk : t k = some h) (hc : ¬c.Ends k h) : t' k = some h := by
  cases hst with
  | @grant k' h' hfree =>
    have hne : k ≠ k' := by rintro rfl; simp [hk] at hfree
    rw [Function.update_of_ne hne, hk]
  | @revoke k' h' hk' =>
    have hne : k ≠ k' := by
      rintro rfl
      exact hc ⟨rfl, Option.some.inj (hk'.symm.trans hk)⟩
    rw [Function.update_of_ne hne, hk]
  | @transfer k' h' h'' hk' =>
    have hne : k ≠ k' := by
      rintro rfl
      exact hc ⟨rfl, Option.some.inj (hk'.symm.trans hk)⟩
    rw [Function.update_of_ne hne, hk]

/-- A lease outlives a run of changes that do not end it. -/
theorem run_held {t t' : Leases κ η} {cs : List (Change κ η)} (h : Run Step t cs t') {k : κ}
    {u : η} (hk : t k = some u) (hcs : ∀ c ∈ cs, ¬c.Ends k u) : t' k = some u :=
  h.inv_of (fun t => t k = some u) (fun c => ¬c.Ends k u) hk hcs
    fun _ _ _ hI hc hst => hst.held hI hc

/-- Revocations give nobody a lease. -/
theorem run_revoked {t t' : Leases κ η} {cs : List (Change κ η)} (h : Run Step t cs t')
    (hcs : ∀ c ∈ cs, ∃ k u, c = .revoke k u) {k : κ} {u : η} (hk : t' k = some u) :
    t k = some u := by
  refine h.inv_of (fun t' => t' k = some u → t k = some u) (fun c => ∃ k u, c = .revoke k u) id hcs
    (fun s c s' hI hc hst hk => hI ?_) hk
  obtain ⟨k', u', rfl⟩ := hc
  cases hst with
  | revoke =>
    rw [Function.update_apply] at hk
    split_ifs at hk
    exact hk

end Leases

end Spiderpool
