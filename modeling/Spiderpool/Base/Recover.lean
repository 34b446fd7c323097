/-
# A named error result and a deferred recover

A function with a named result `err` assigns it at each of its calls and returns when a call has
failed. A deferred function that recovers from a panic, and does not assign `err`, makes the function
return what `err` happened to be: nil, if every call until then had succeeded.

`ReturnsOnly P` says that a function returns nil only in states with the property `P`. In a sequence
of calls that have to succeed before there is such a state, it says that none of them panics
(`StandsFor.returnsOnly`), so it is decided by the first call that does not succeed (`EndsInPanic`).
-/

import Spiderpool.Base.Effect

namespace Spiderpool

variable {σ ε α : Type}

/-- The named result, and what else the function changes. -/
structure Frame (σ ε : Type) where
  err : Option ε := none
  state : σ

/-- `a, err = f(); if err != nil { return ret(err) }`. -/
def callOr (r : Result ε α) (ret : ε → ε) : Eff (Frame σ ε) ε α := fun s =>
  match r with
  | .ok a => (.ok a, { s with err := none })
  | .error (.err e) => (fail (ret e), { s with err := some e })
  | .error .panic => (.error .panic, s)
  | .error .hang => (.error .hang, s)

/-- How a function ends that recovers from panics. -/
inductive Ended (σ ε : Type) where
  | returned (err : Option ε) (state : σ)
  | hangs

/-- The function returns, with the named result if it has panicked. -/
def afterRecover : Result ε Unit × Frame σ ε → Ended σ ε
  | (.ok (), s) => .returned none s.state
  | (.error (.err e), s) => .returned (some e) s.state
  | (.error .panic, s) => .returned s.err s.state
  | (.error .hang, _) => .hangs

/-- Where the function returns nil, its state has the property. -/
def ReturnsOnly (P : σ → Prop) (m : Eff (Frame σ ε) ε Unit) (s : Frame σ ε) : Prop :=
  ∀ t, afterRecover (m s) = .returned none t → P t

/-- A part of the function that stands for the call `r`: it goes on where the call succeeds, panics where
the call does, and otherwise does not make the function return nil. -/
structure StandsFor (m : Eff (Frame σ ε) ε α) (r : Result ε α) (x : σ) : Prop where
  ok : ∀ a, r = .ok a → m ⟨none, x⟩ = (.ok a, ⟨none, x⟩)
  panic : r = .error .panic → m ⟨none, x⟩ = (.error .panic, ⟨none, x⟩)
  error : ∀ f, r = .error f → f ≠ .panic →
    ∃ f' s, m ⟨none, x⟩ = (.error f', s) ∧ ∀ t, afterRecover (.error f', s) ≠ .returned none t

/-- A call that has to succeed, where the property does not hold yet. -/
theorem StandsFor.returnsOnly {P : σ → Prop} {m : Eff (Frame σ ε) ε α} {r : Result ε α} {x : σ}
    (h : StandsFor m r x) {k : α → Eff (Frame σ ε) ε Unit} (hx : ¬P x) :
    ReturnsOnly P (m >>= k) ⟨none, x⟩ ↔
      r ≠ .error .panic ∧ ∀ a, r = .ok a → ReturnsOnly P (k a) ⟨none, x⟩ := by
  rcases hr : r with f | a
  · by_cases hf : f = .panic
    · subst hf
      refine iff_of_false (fun hall => hx (hall x ?_)) fun hall => hall.1 rfl
      rw [Eff.bind_of_error _ (h.panic hr)]
      rfl
    · obtain ⟨f', s, hm, hloud⟩ := h.error f hr hf
      refine iff_of_true (fun t ht => absurd ht ?_) ⟨by simpa using hf, by simp⟩
      rw [Eff.bind_of_error _ hm]
      exact hloud t
  · have hrun : (m >>= k) ⟨none, x⟩ = k a ⟨none, x⟩ := Eff.bind_of_ok _ (h.ok a hr)
    constructor
    · intro hall
      refine ⟨by simp, fun b hb t ht => hall t ?_⟩
      obtain rfl : a = b := Except.ok.inj hb
      rw [hrun]
      exact ht
    · intro hall t ht
      rw [hrun] at ht
      exact hall.2 a rfl t ht

theorem standsFor_callOr (r : Result ε α) (ret : ε → ε) (x : σ) : StandsFor (callOr r ret) r x where
  ok a h := by rw [h]; rfl
  panic h := by rw [h]; rfl
  error f h hf := by
    subst h
    cases f with
    | err e => exact ⟨_, _, rfl, by simp [afterRecover]⟩
    | panic => exact absurd rfl hf
    | hang => exact ⟨_, _, rfl, by simp [afterRecover]⟩

theorem standsFor_lift (r : Result ε α) (x : σ) : StandsFor (Eff.lift r) r x where
  ok a h := by rw [h]; rfl
  panic h := by rw [h]; rfl
  error f h hf := by
    subst h
    cases f with
    | err e => exact ⟨_, _, rfl, by simp [afterRecover]⟩
    | panic => exact absurd rfl hf
    | hang => exact ⟨_, _, rfl, by simp [afterRecover]⟩

/-- The call without its value. -/
def void (r : Result ε α) : Result ε Unit := r.map fun _ => ()

/-- The first of the calls that does not succeed panics. -/
def EndsInPanic : List (Result ε Unit) → Prop
  | [] => False
  | .ok () :: rs => EndsInPanic rs
  | .error .panic :: _ => True
  | .error _ :: _ => False

section

variable {rs : List (Result ε Unit)}

@[simp] theorem endsInPanic_ok {u : Unit} : EndsInPanic (.ok u :: rs) ↔ EndsInPanic rs := Iff.rfl

@[simp] theorem endsInPanic_panic : EndsInPanic (.error .panic :: rs) := trivial

@[simp] theorem not_endsInPanic_err {e : ε} : ¬EndsInPanic (.error (.err e) :: rs) := id

@[simp] theorem not_endsInPanic_hang : ¬EndsInPanic (.error .hang :: rs) := id

theorem not_endsInPanic_cons {r : Result ε α} :
    ¬EndsInPanic (void r :: rs) ↔ r ≠ .error .panic ∧ ∀ a, r = .ok a → ¬EndsInPanic rs := by
  rcases r with (e | - | -) | a <;> simp [void, Except.map]

@[simp] theorem void_unit (r : Result ε Unit) : void r = r := by
  cases r <;> rfl

variable {P : σ → Prop} {m : Eff (Frame σ ε) ε α} {r : Result ε α} {x : σ}
  {k : α → Eff (Frame σ ε) ε Unit}

/-- One call before those of the rest. -/
theorem StandsFor.call (h : StandsFor m r x) (hx : ¬P x)
    (hk : ∀ a, r = .ok a → (ReturnsOnly P (k a) ⟨none, x⟩ ↔ ¬EndsInPanic rs)) :
    ReturnsOnly P (m >>= k) ⟨none, x⟩ ↔ ¬EndsInPanic (void r :: rs) := by
  rw [h.returnsOnly hx, not_endsInPanic_cons]
  exact and_congr_right fun _ => forall₂_congr hk

theorem StandsFor.callUnit {m : Eff (Frame σ ε) ε Unit} {r : Result ε Unit}
    {k : Unit → Eff (Frame σ ε) ε Unit} (h : StandsFor m r x) (hx : ¬P x)
    (hk : ReturnsOnly P (k ()) ⟨none, x⟩ ↔ ¬EndsInPanic rs) :
    ReturnsOnly P (m >>= k) ⟨none, x⟩ ↔ ¬EndsInPanic (r :: rs) := by
  rw [h.call hx fun _ _ => hk, void_unit]

end

end Spiderpool
