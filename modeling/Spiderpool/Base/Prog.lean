/-
# Programs whose calls may fail

A program makes calls on a state, one at a time, and goes on with what each of them returns. A
call is answered, or it fails and has done nothing, or it is carried out and its answer is lost
(`Prog.Step`). In the run `Prog.run` every call is answered.

`Prog.Holds I Q p s` says of all runs of `p` from `s` that `I` is true at every point, and `Q`
where the program ends (`Holds.reaches`).
-/

import Mathlib.Logic.Relation
import Spiderpool.Base.Effect

namespace Spiderpool

/-- A program that makes calls on a state `σ`. -/
inductive Prog (σ ε α : Type) : Type 1 where
  | ret (r : Result ε α)
  | call {β : Type} (c : Eff σ ε β) (k : Result ε β → Prog σ ε α)

namespace Prog

variable {σ ε α β : Type}

/-- One program after another, unless the first ends short of a value. -/
def bind : Prog σ ε α → (α → Prog σ ε β) → Prog σ ε β
  | ret (.ok a), f => f a
  | ret (.error e), _ => ret (.error e)
  | call c k, f => call c fun r => bind (k r) f

instance : Monad (Prog σ ε) where
  pure a := ret (.ok a)
  bind := bind

@[simp] theorem ret_ok_bind (a : α) (f : α → Prog σ ε β) : (ret (.ok a) >>= f) = f a := rfl

theorem bind_assoc {γ : Type} (p : Prog σ ε α) (f : α → Prog σ ε β) (g : β → Prog σ ε γ) :
    (p >>= f) >>= g = p >>= fun a => f a >>= g := by
  induction p with
  | ret r => cases r <;> rfl
  | call c k ih => exact congrArg (call c) (funext fun r => ih r)

def request (c : Eff σ ε α) : Prog σ ε α := call c ret

/-- The same program with its error value turned into another. -/
def mapErr (f : ε → ε) : Prog σ ε α → Prog σ ε α
  | ret r => ret (Spiderpool.mapErr f r)
  | call c k => call c fun r => mapErr f (k r)

/-- The same program with its error as a value. -/
def tryErr : Prog σ ε α → Prog σ ε (α ⊕ ε)
  | ret (.ok a) => ret (.ok (.inl a))
  | ret (.error (.err e)) => ret (.ok (.inr e))
  | ret (.error .panic) => ret (.error .panic)
  | ret (.error .hang) => ret (.error .hang)
  | call c k => call c fun r => tryErr (k r)

/-- Every program is run, and the errors are collected. -/
def joinAll (f : α → Prog σ ε Unit) : List α → Prog σ ε (List ε)
  | [] => pure []
  | x :: xs => do
    match ← tryErr (f x) with
    | .inl () => joinAll f xs
    | .inr e => do
      let es ← joinAll f xs
      return e :: es

def run : Prog σ ε α → Eff σ ε α
  | ret r => fun s => (r, s)
  | call c k => fun s => run (k (c s).1) (c s).2

/-- What can happen next: the call is answered, fails, or its answer is lost. -/
inductive Step : Prog σ ε α × σ → Prog σ ε α × σ → Prop
  | answered {γ : Type} {c : Eff σ ε γ} {k : Result ε γ → Prog σ ε α} {s : σ} :
      Step (call c k, s) (k (c s).1, (c s).2)
  | failed {γ : Type} {c : Eff σ ε γ} {k : Result ε γ → Prog σ ε α} {s : σ} (e : ε) :
      Step (call c k, s) (k (.error (.err e)), s)
  | lost {γ : Type} {c : Eff σ ε γ} {k : Result ε γ → Prog σ ε α} {s : σ} (e : ε) :
      Step (call c k, s) (k (.error (.err e)), (c s).2)

/-- What is left of the program and the state at some point of a run. -/
def Reaches : Prog σ ε α × σ → Prog σ ε α × σ → Prop := Relation.ReflTransGen Step

/-- The run in which every call is answered is one of the runs. -/
theorem reaches_run (p : Prog σ ε α) (s : σ) : Reaches (p, s) (ret (run p s).1, (run p s).2) := by
  induction p generalizing s with
  | ret r => exact Relation.ReflTransGen.refl
  | call c k ih => exact Relation.ReflTransGen.head .answered (ih _ _)

/-- What becomes of a call. -/
inductive Outcome (ε : Type) where
  | answered
  | failed (e : ε)
  | lost (e : ε)

/-- The run in which this becomes of the first calls, as far as it goes. -/
def runWith : List (Outcome ε) → Prog σ ε α → σ → Prog σ ε α × σ
  | .answered :: os, call c k, s => runWith os (k (c s).1) (c s).2
  | .failed e :: os, call _ k, s => runWith os (k (.error (.err e))) s
  | .lost e :: os, call c k, s => runWith os (k (.error (.err e))) (c s).2
  | _, p, s => (p, s)

theorem reaches_runWith (os : List (Outcome ε)) (p : Prog σ ε α) (s : σ) :
    Reaches (p, s) (runWith os p s) := by
  induction os generalizing p s with
  | nil => exact Relation.ReflTransGen.refl
  | cons o os ih =>
    cases p with
    | ret r =>
      cases o
      all_goals exact Relation.ReflTransGen.refl
    | call c k =>
      cases o with
      | answered => exact Relation.ReflTransGen.head .answered (ih _ _)
      | failed e => exact Relation.ReflTransGen.head (.failed e) (ih _ _)
      | lost e => exact Relation.ReflTransGen.head (.lost e) (ih _ _)

@[simp] theorem run_request (c : Eff σ ε α) : (request c).run = c := rfl

theorem run_bind (p : Prog σ ε α) (f : α → Prog σ ε β) :
    (p >>= f).run = p.run >>= fun a => (f a).run := by
  funext s
  induction p generalizing s with
  | ret r => cases r <;> rfl
  | call c k ih => exact ih _ _

theorem run_mapErr (f : ε → ε) (p : Prog σ ε α) : (mapErr f p).run = Eff.mapErr f p.run := by
  funext s
  induction p generalizing s with
  | ret r => rfl
  | call c k ih => exact ih _ _

/-! ### What is true at every point -/

/-- At every point of every run `I` is true of the state, and at the end `Q` of the result. -/
def Holds (I : σ → Prop) (Q : Result ε α → σ → Prop) : Prog σ ε α → σ → Prop
  | ret r, s => I s ∧ Q r s
  | call c k, s => I s ∧ Holds I Q (k (c s).1) (c s).2 ∧
      ∀ e, Holds I Q (k (.error (.err e))) s ∧ Holds I Q (k (.error (.err e))) (c s).2

variable {I : σ → Prop} {Q Q' : Result ε α → σ → Prop} {p p' : Prog σ ε α} {s s' : σ}

theorem Holds.here (h : Holds I Q p s) : I s := by
  cases p with
  | ret r => exact h.1
  | call c k => exact h.1

theorem Holds.step (h : Holds I Q p s) (hstep : Step (p, s) (p', s')) : Holds I Q p' s' := by
  cases hstep with
  | answered => exact h.2.1
  | failed e => exact (h.2.2 e).1
  | lost e => exact (h.2.2 e).2

theorem Holds.reaches (h : Holds I Q p s) (hreach : Reaches (p, s) (p', s')) :
    I s' ∧ ∀ r, p' = ret r → Q r s' := by
  have hend : ∀ x : Prog σ ε α × σ, Reaches (p, s) x → Holds I Q x.1 x.2 := by
    intro x hx
    induction hx with
    | refl => exact h
    | tail _ hstep ih => exact ih.step hstep
  have h' := hend _ hreach
  refine ⟨h'.here, ?_⟩
  rintro r rfl
  exact h'.2

theorem Holds.mono (h : Holds I Q p s) (hQ : ∀ r s, I s → Q r s → Q' r s) : Holds I Q' p s := by
  induction p generalizing s with
  | ret r => exact ⟨h.1, hQ r s h.1 h.2⟩
  | call c k ih =>
    exact ⟨h.1, ih _ h.2.1, fun e => ⟨ih _ (h.2.2 e).1, ih _ (h.2.2 e).2⟩⟩

/-- The invariant may be weakened along the way; where the program ends, it is true as it was. -/
theorem Holds.imp {I' : σ → Prop} (h : Holds I Q p s) (hI : ∀ s, I s → I' s) :
    Holds I' (fun r s => I s ∧ Q r s) p s := by
  induction p generalizing s with
  | ret r => exact ⟨hI s h.1, h⟩
  | call c k ih =>
    exact ⟨hI s h.1, ih _ h.2.1, fun e => ⟨ih _ (h.2.2 e).1, ih _ (h.2.2 e).2⟩⟩

section

variable {f : α → Prog σ ε β} {R : Result ε β → σ → Prop} {c : Eff σ ε α} {xs : List α}

theorem Holds.bind (h : Holds I (fun r s => match r with
      | .ok a => Holds I R (f a) s
      | .error e => R (.error e) s) p s) : Holds I R (p >>= f) s := by
  induction p generalizing s with
  | ret r =>
    cases r with
    | ok a => exact h.2
    | error e => exact h
  | call c k ih =>
    exact ⟨h.1, ih _ h.2.1, fun e => ⟨ih _ (h.2.2 e).1, ih _ (h.2.2 e).2⟩⟩

/-- One program after another, with what is true in between. -/
theorem Holds.seq (h : Holds I Q p s) (hok : ∀ a s, I s → Q (.ok a) s → Holds I R (f a) s)
    (herr : ∀ e s, I s → Q (.error e) s → R (.error e) s) : Holds I R (p >>= f) s := by
  refine Holds.bind (h.mono fun r s hI hr => ?_)
  cases r with
  | ok a => exact hok a s hI hr
  | error e => exact herr e s hI hr

/-- A result that is at hand, and the program that goes on with it. -/
theorem Holds.ret_bind {r : Result ε α} (hs : I s)
    (hok : ∀ a, r = .ok a → Holds I R (f a) s) (herr : ∀ e, r = .error e → R (.error e) s) :
    Holds I R (ret r >>= f) s := by
  cases r with
  | ok a => exact hok a rfl
  | error e => exact ⟨hs, herr e rfl⟩

/-- One program after another, where only the invariant is asked for. -/
theorem Holds.andThen (h : Holds I Q p s)
    (hok : ∀ a s, I s → Q (.ok a) s → Holds I (fun _ _ => True) (f a) s) :
    Holds I (fun _ _ => True) (p >>= f) s :=
  h.seq hok fun _ _ _ _ => trivial

/-- A call keeps what its effect keeps; it may fail with or without it. -/
theorem Holds.request (hs : I s) (hc : I (c s).2) (hok : Q (c s).1 (c s).2)
    (herr : ∀ e, Q (.error (.err e)) s ∧ Q (.error (.err e)) (c s).2) : Holds I Q (request c) s :=
  ⟨hs, ⟨hc, hok⟩, fun e => ⟨⟨hs, (herr e).1⟩, hc, (herr e).2⟩⟩

theorem Holds.request_keeps (hs : I s) (hc : I (c s).2) :
    Holds I (fun _ _ => True) (Prog.request c) s :=
  Holds.request hs hc trivial fun _ => ⟨trivial, trivial⟩

theorem Holds.mapErr {f : ε → ε} (h : Holds I (fun r s => Q (Spiderpool.mapErr f r) s) p s) :
    Holds I Q (mapErr f p) s := by
  induction p generalizing s with
  | ret r => exact h
  | call c k ih =>
    exact ⟨h.1, ih _ h.2.1, fun e => ⟨ih _ (h.2.2 e).1, ih _ (h.2.2 e).2⟩⟩

theorem Holds.tryErr {R : Result ε (α ⊕ ε) → σ → Prop}
    (h : Holds I (fun r s => match r with
      | .ok a => R (.ok (.inl a)) s
      | .error (.err e) => R (.ok (.inr e)) s
      | .error .panic => R (.error .panic) s
      | .error .hang => R (.error .hang) s) p s) : Holds I R (tryErr p) s := by
  induction p generalizing s with
  | ret r =>
    rcases r with (e | - | -) | a
    all_goals exact h
  | call c k ih =>
    exact ⟨h.1, ih _ h.2.1, fun e => ⟨ih _ (h.2.2 e).1, ih _ (h.2.2 e).2⟩⟩

/-- Programs that keep `J`, each of which brings `P` about for its element when it ends well and
takes it from no other: if no error is collected, `P` is true of all elements. -/
theorem Holds.joinAll {J : σ → Prop} {P : α → σ → Prop} {f : α → Prog σ ε Unit}
    (hf : ∀ x ∈ xs, ∀ s, J s → Holds I (fun r s' => J s' ∧ (∀ y, P y s → P y s') ∧
      (r = .ok () → P x s')) (f x) s) (hs : J s) (hI : I s) :
    Holds I (fun r s' => J s' ∧ (∀ y, P y s → P y s') ∧ (r = .ok [] → ∀ x ∈ xs, P x s'))
      (joinAll f xs) s := by
  induction xs generalizing s with
  | nil => exact ⟨hI, hs, fun _ h => h, by simp⟩
  | cons x xs ih =>
    rw [List.forall_mem_cons] at hf
    refine Holds.bind (Holds.tryErr ((hf.1 s hs).mono fun r s₁ hI₁ hr => ?_))
    obtain ⟨hJ, hkeep, hx⟩ := hr
    have hrest := ih hf.2 hJ hI₁
    rcases r with (e | - | -) | ⟨⟩
    · refine Holds.bind (hrest.mono fun r s₂ hI₂ hr => ?_)
      rcases r with fault | es
      · exact ⟨hr.1, fun y hy => hr.2.1 y (hkeep y hy), nofun⟩
      · exact ⟨hI₂, hr.1, fun y hy => hr.2.1 y (hkeep y hy), nofun⟩
    · exact ⟨hJ, hkeep, nofun⟩
    · exact ⟨hJ, hkeep, nofun⟩
    · refine hrest.mono fun r s₂ hI₂ hr => ⟨hr.1, fun y hy => hr.2.1 y (hkeep y hy), fun hnil => ?_⟩
      exact List.forall_mem_cons.2 ⟨hr.2.1 x (hx rfl), hr.2.2 hnil⟩

theorem Holds.joinAll_keeps {f : α → Prog σ ε Unit}
    (hf : ∀ x ∈ xs, ∀ s, I s → Holds I (fun _ _ => True) (f x) s) (hs : I s) :
    Holds I (fun _ _ => True) (Prog.joinAll f xs) s :=
  (Holds.joinAll (J := I) (P := fun _ _ => True) (fun x hx s hs => (hf x hx s hs).mono
    fun _ _ hI _ => ⟨hI, fun _ h => h, fun _ => trivial⟩) hs hs).mono fun _ _ _ _ => trivial

end

end Prog

end Spiderpool
