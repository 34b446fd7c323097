/-
# Which calls return

`Returns` says that a call ends with a value or with an error. A sequence returns if each call in it
does after those before it have ended well, and a loop returns if each of its turns does after
the turns before it have ended well (`returns_mapM_iff`, `returns_forM_iff`).
-/

import Spiderpool.Base.Go

namespace Spiderpool

variable {α β ε ε' : Type}

attribute [simp] returns_ok returns_fail returns_failIf

@[simp] theorem not_returns_panic : ¬Returns (.error .panic : Result ε α) := fun h => h.1 rfl

section

variable {x : Result ε α} {f : α → Result ε β} {a : α}

theorem Returns.seq (hx : Returns x) (hf : ∀ a, x = .ok a → Returns (f a)) : Returns (x >>= f) :=
  Returns.bind hx hf

/-- A call that ends well is passed over. -/
theorem Returns.after (hx : x = .ok a) (hf : Returns (f a)) : Returns (x >>= f) := by
  subst hx
  exact hf

/-- What comes first returns if the whole does. -/
theorem Returns.of_seq (h : Returns (x >>= f)) : Returns x := by
  rcases x with (e | - | -) | a
  · exact returns_fail e
  · exact absurd h not_returns_panic
  · exact absurd rfl h.2
  · exact returns_ok a

/-- What follows a call that ends well returns if the whole does. -/
theorem Returns.of_seq_ok (h : Returns (x >>= f)) (hx : x = .ok a) : Returns (f a) := by
  subst hx
  exact h

end

theorem returns_deref_iff {o : Option α} : Returns (deref o : Result ε α) ↔ o.isSome := by
  cases o <;> simp [deref]

/-- `if p != nil { check(*p) }`. -/
def ifSome (o : Option α) (check : α → Result ε Unit) : Result ε Unit :=
  match o with
  | none => .ok ()
  | some a => check a

theorem returns_ifSome {o : Option α} {check : α → Result ε Unit}
    (h : ∀ a, o = some a → Returns (check a)) : Returns (ifSome o check) := by
  cases o with
  | none => exact returns_ok ()
  | some a => exact h a rfl

theorem ifSome_eq_ok {o : Option α} {check : α → Result ε Unit} :
    ifSome o check = .ok () ↔ ∀ a, o = some a → check a = .ok () := by
  cases o <;> simp [ifSome]

/-- A loop that makes a value of each element. -/
theorem returns_mapM_iff {f : α → Result ε β} {xs : List α} :
    Returns (xs.mapM f) ↔
      ∀ front x rest, xs = front ++ x :: rest → (∀ y ∈ front, ∃ b, f y = .ok b) → Returns (f x) := by
  induction xs with
  | nil => simp [List.mapM_nil, pure, Except.pure]
  | cons z zs ih =>
    rw [List.mapM_cons]
    constructor
    · intro h front x rest hsplit hfront
      rcases front with - | ⟨y, front⟩
      · obtain ⟨rfl, rfl⟩ := List.cons.inj hsplit
        exact h.of_seq
      · obtain ⟨rfl, rfl⟩ := List.cons.inj hsplit
        obtain ⟨b, hb⟩ := hfront z List.mem_cons_self
        exact ih.1 (h.of_seq_ok hb).of_seq front x rest rfl
          fun y hy => hfront y (List.mem_cons_of_mem _ hy)
    · intro h
      refine (h [] z zs rfl (by simp)).seq fun b hb => ?_
      refine Returns.seq (ih.2 fun front x rest hsplit hfront => ?_) fun bs _ => returns_ok _
      refine h (z :: front) x rest (by rw [hsplit]; rfl) fun y hy => ?_
      rcases List.mem_cons.1 hy with rfl | hy
      exacts [⟨b, hb⟩, hfront y hy]

/-- A loop of checks. -/
theorem returns_forM_iff {f : α → Result ε Unit} {xs : List α} :
    Returns (xs.forM f) ↔
      ∀ front x rest, xs = front ++ x :: rest → (∀ y ∈ front, f y = .ok ()) → Returns (f x) := by
  induction xs with
  | nil => simp [pure, Except.pure]
  | cons z zs ih =>
    rw [List.forM_eq_forM, List.forM_cons]
    constructor
    · intro h front x rest hsplit hfront
      rcases front with - | ⟨y, front⟩
      · obtain ⟨rfl, rfl⟩ := List.cons.inj hsplit
        exact h.of_seq
      · obtain ⟨rfl, rfl⟩ := List.cons.inj hsplit
        exact ih.1 (h.of_seq_ok (hfront z List.mem_cons_self)) front x rest rfl
          fun y hy => hfront y (List.mem_cons_of_mem _ hy)
    · intro h
      refine (h [] z zs rfl (by simp)).seq fun b hb => ?_
      refine ih.2 fun front x rest hsplit hfront => ?_
      refine h (z :: front) x rest (by rw [hsplit]; rfl) fun y hy => ?_
      rcases List.mem_cons.1 hy with rfl | hy
      exacts [hb, hfront y hy]

end Spiderpool
