/-
# Calls that change a state

A call reads and changes a state and may end short of a value; what it has changed until
then stays changed. `Eff.bind_eq_ok` takes a sequence of calls that ended well apart.

Calls that run side by side on parts of the state of their own are run one after the other
here, every one of them to its end, and their errors are collected (`Eff.joinAll`).
-/

import Spiderpool.Base.Go

namespace Spiderpool

/-- A call on a state `σ`. -/
def Eff (σ ε α : Type) := σ → Result ε α × σ

namespace Eff

variable {σ ε α β : Type}

instance : Monad (Eff σ ε) where
  pure a := fun s => (.ok a, s)
  bind m f := fun s =>
    match m s with
    | (.ok a, s') => f a s'
    | (.error e, s') => (.error e, s')

/-- A call that leaves the state alone. -/
def lift (r : Result ε α) : Eff σ ε α := fun s => (r, s)

/-- The same call with its error value turned into another. -/
def mapErr {ε' : Type} (f : ε → ε') (m : Eff σ ε α) : Eff σ ε' α := fun s =>
  (Spiderpool.mapErr f (m s).1, (m s).2)

/-- Every call is made, and the errors are collected; a fault that is no error ends it all. -/
def joinAll (f : α → Eff σ ε Unit) : List α → Eff σ ε (List ε)
  | [] => pure []
  | x :: xs => fun s =>
    match f x s with
    | (.ok (), s') => joinAll f xs s'
    | (.error (.err e), s') => (joinAll f xs >>= fun es => pure (e :: es)) s'
    | (.error fault, s') => (.error fault, s')

variable {s s' : σ} {a b : α}

section

variable {m : Eff σ ε α}

/-- A sequence of two calls ends well exactly when both do. -/
theorem bind_eq_ok {f : α → Eff σ ε β} {b : β} :
    (m >>= f) s = (.ok b, s') ↔ ∃ a s₁, m s = (.ok a, s₁) ∧ f a s₁ = (.ok b, s') := by
  change (match m s with | (.ok a, s') => f a s' | (.error e, s') => (.error e, s')) = _ ↔ _
  rcases hm : m s with ⟨_ | a, s₁⟩ <;> simp

theorem bind_of_ok (f : α → Eff σ ε β) (h : m s = (.ok a, s')) : (m >>= f) s = f a s' := by
  change (match m s with | (.ok a, s') => f a s' | (.error e, s') => (.error e, s')) = _
  rw [h]

theorem bind_of_error (f : α → Eff σ ε β) {e : Fault ε}
    (h : m s = (.error e, s')) : (m >>= f) s = (.error e, s') := by
  change (match m s with | (.ok a, s') => f a s' | (.error e, s') => (.error e, s')) = _
  rw [h]

@[simp] theorem pure_eq_ok : (pure a : Eff σ ε α) s = (.ok b, s') ↔ a = b ∧ s = s' := by
  change ((Except.ok a : Result ε α), s) = _ ↔ _
  simp

@[simp] theorem lift_eq_ok {r : Result ε α} : (lift r : Eff σ ε α) s = (.ok b, s') ↔
    r = .ok b ∧ s = s' := by
  simp [lift]

theorem mapErr_eq_ok {ε' : Type} {f : ε → ε'} : mapErr f m s = (.ok a, s') ↔ m s = (.ok a, s') := by
  simp [mapErr, Prod.ext_iff, Spiderpool.mapErr_eq_ok]

/-- No error is collected exactly when every call ends well. -/
theorem joinAll_cons_nil {f : α → Eff σ ε Unit} {x : α} {xs : List α} :
    joinAll f (x :: xs) s = (.ok [], s') ↔
      ∃ s₁, f x s = (.ok (), s₁) ∧ joinAll f xs s₁ = (.ok [], s') := by
  rw [joinAll]
  rcases hfx : f x s with ⟨(e | - | -) | _, s₁⟩ <;> simp [hfx, bind_eq_ok]

/-- The state after a call does not depend on what is made of its value. -/
theorem bind_pure_snd {f : α → β} : ((m >>= fun a => pure (f a)) s).2 = (m s).2 := by
  change (match m s with | (.ok a, s') => (.ok (f a), s') | (.error e, s') => (.error e, s') :
    Result ε β × σ).2 = _
  rcases m s with ⟨_ | a, s₁⟩ <;> rfl

end

/-- What every call keeps stays, however the calls end. -/
theorem joinAll_keeps {I : σ → Prop} (f : α → Eff σ ε Unit) (xs : List α)
    (h : ∀ x ∈ xs, ∀ s, I s → I (f x s).2) (hs : I s) : I (joinAll f xs s).2 := by
  induction xs generalizing s with
  | nil => exact hs
  | cons x xs ih =>
    rw [List.forall_mem_cons] at h
    have hx := h.1 s hs
    rcases hfx : f x s with ⟨(e | - | -) | _, s₁⟩ <;> rw [hfx] at hx <;>
      simp only [joinAll, hfx, bind_pure_snd]
    · exact ih h.2 hx
    · exact hx
    · exact hx
    · exact ih h.2 hx

end Eff

end Spiderpool
