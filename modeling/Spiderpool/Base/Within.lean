/-
# Programs beside others

Of a program that runs beside others on the same state nothing can be said that rests on what the
state is between two of its calls. `Prog.Within G p` speaks of the calls alone: each of them,
whatever the calls before it were answered, changes the state it finds as `G` allows. It is read
off the text of the program (`Within.bind`, `Within.joinAll`), and is true of the rest of the
program after every step (`Within.step`).
-/

import Spiderpool.Base.Prog

namespace Spiderpool
namespace Prog

variable {σ ε α β : Type} {G : σ → σ → Prop} {p p' : Prog σ ε α} {s s' : σ}

/-- Every call of the program, whatever those before it are answered, changes the state as `G`
allows. -/
def Within (G : σ → σ → Prop) : Prog σ ε α → Prop
  | ret _ => True
  | call c k => (∀ s, G s (c s).2) ∧ ∀ r, Within G (k r)

/-- A step changes the state as `G` allows, and so will the rest of the program. -/
theorem Within.step (hG : ∀ s, G s s) (h : Within G p) (hstep : Step (p, s) (p', s')) :
    G s s' ∧ Within G p' := by
  cases hstep with
  | answered => exact ⟨h.1 s, h.2 _⟩
  | failed e => exact ⟨hG s, h.2 _⟩
  | lost e => exact ⟨h.1 s, h.2 _⟩

theorem Within.ret (r : Result ε α) : Within G (.ret r : Prog σ ε α) := trivial

theorem Within.request {c : Eff σ ε α} (h : ∀ s, G s (c s).2) : Within G (request c) :=
  ⟨h, fun _ => trivial⟩

theorem Within.bind {f : α → Prog σ ε β} (h : Within G p) (hf : ∀ a, Within G (f a)) :
    Within G (p >>= f) := by
  induction p with
  | ret r =>
    cases r with
    | ok a => exact hf a
    | error e => trivial
  | call c k ih => exact ⟨h.1, fun r => ih r (h.2 r)⟩

theorem Within.ite {q : Prop} [Decidable q] (h : Within G p) (h' : Within G p') :
    Within G (if q then p else p') := by
  split_ifs
  · exact h
  · exact h'

theorem Within.mapErr {f : ε → ε} (h : Within G p) : Within G (mapErr f p) := by
  induction p with
  | ret r => trivial
  | call c k ih => exact ⟨h.1, fun r => ih r (h.2 r)⟩

theorem Within.tryErr (h : Within G p) : Within G (tryErr p) := by
  induction p with
  | ret r =>
    rcases r with (e | - | -) | a
    all_goals trivial
  | call c k ih => exact ⟨h.1, fun r => ih r (h.2 r)⟩

theorem Within.joinAll {f : α → Prog σ ε Unit} {xs : List α} (h : ∀ x, Within G (f x)) :
    Within G (joinAll f xs) := by
  induction xs with
  | nil => trivial
  | cons x xs ih =>
    refine (h x).tryErr.bind fun r => ?_
    cases r with
    | inl _ => exact ih
    | inr e => exact ih.bind fun _ => trivial

end Prog
end Spiderpool
