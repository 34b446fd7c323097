/-
# Runs of a labelled transition system

A `Run step s ls s'` leads from `s` to `s'` through steps labelled `ls`, in that
order. What holds of every run is proved from one step: `Run.inv` for a
property that every step keeps, `Run.inv_of` for one that the steps with an
admissible label keep, `Run.after` for one that a step has brought about.
-/

import Spiderpool.Base.Go

namespace Spiderpool

variable {S L : Type*} {step : S → L → S → Prop}

/-- Runs of `step`: the state they start from, their labels, the state they end in. -/
inductive Run (step : S → L → S → Prop) : S → List L → S → Prop
  | nil (s : S) : Run step s [] s
  | cons {s s' s'' : S} {l : L} {ls : List L} :
      step s l s' → Run step s' ls s'' → Run step s (l :: ls) s''

namespace Run

section

variable {s s' s'' : S} {l : L} {ls : List L}

theorem single (h : step s l s') : Run step s [l] s' := .cons h (.nil s')

theorem append {ls' : List L} (h : Run step s ls s')
    (h' : Run step s' ls' s'') : Run step s (ls ++ ls') s'' := by
  induction h with
  | nil => exact h'
  | cons hst _ ih => exact .cons hst (ih h')

theorem snoc (h : Run step s ls s') (h' : step s' l s'') : Run step s (ls ++ [l]) s'' :=
  h.append (single h')

/-- A property kept by every step whose label satisfies `ok` holds at the end
of a run over such labels. -/
theorem inv_of (I : S → Prop) (ok : L → Prop) (h : Run step s ls s')
    (hs : I s) (hok : ∀ l ∈ ls, ok l) (hstep : ∀ s l s', I s → ok l → step s l s' → I s') :
    I s' := by
  induction h with
  | nil => exact hs
  | cons hst _ ih =>
    rw [List.forall_mem_cons] at hok
    exact ih (hstep _ _ _ hs hok.1 hst) hok.2

/-- A property kept by every step holds at the end of a run. -/
theorem inv (I : S → Prop) (h : Run step s ls s') (hs : I s)
    (hstep : ∀ s l s', I s → step s l s' → I s') : I s' :=
  h.inv_of I (fun _ => True) hs (fun _ _ => trivial) fun s l s' hI _ => hstep s l s' hI

/-- What a step with the label `l` brings about, and every step keeps, is true at the end of a run
that has such a step. -/
theorem after (I J : S → Prop) (h : Run step s ls s') (hs : I s)
    (hl : l ∈ ls) (hI : ∀ s l s', I s → step s l s' → I s')
    (hl' : ∀ s s', I s → step s l s' → J s')
    (hJ : ∀ s l s', I s → J s → step s l s' → J s') : J s' := by
  induction h with
  | nil => cases hl
  | @cons s s₁ s₂ l₁ ls hst hrun ih =>
    have hs₁ := hI _ _ _ hs hst
    rcases List.mem_cons.1 hl with rfl | hl
    · have hboth := hrun.inv (fun t => I t ∧ J t) ⟨hs₁, hl' _ _ hs hst⟩
        fun t l t' ht hstep => ⟨hI t l t' ht.1 hstep, hJ t l t' ht.1 ht.2 hstep⟩
      exact hboth.2
    · exact ih hs₁ hl

/-- A run of a smaller step relation is a run of the larger. -/
theorem mono {step' : S → L → S → Prop} (h : Run step s ls s')
    (hle : ∀ s l s', step s l s' → step' s l s') : Run step' s ls s' := by
  induction h with
  | nil => exact .nil _
  | cons hst _ ih => exact .cons (hle _ _ _ hst) ih

/-- A run over labels that satisfy `ok` in every state is one of steps that satisfy it. -/
theorem restrict {ok : S → L → Prop} (h : Run step s ls s')
    (hok : ∀ l ∈ ls, ∀ s, ok s l) : Run (fun s l s' => step s l s' ∧ ok s l) s ls s' := by
  induction h with
  | nil => exact .nil _
  | cons hst _ ih =>
    rw [List.forall_mem_cons] at hok
    exact .cons ⟨hst, hok.1 _⟩ (ih hok.2)

/-- Where an invariant makes two guards equivalent at every step, and the first guard keeps it, the
runs that satisfy the one are those that satisfy the other. -/
theorem guard_iff (I : S → Prop) {P Q : S → L → S → Prop} (hs : I s)
    (hI : ∀ s l s', I s → step s l s' → P s l s' → I s')
    (hPQ : ∀ s l s', I s → step s l s' → (P s l s' ↔ Q s l s')) :
    Run (fun s l s' => step s l s' ∧ P s l s') s ls s' ↔
      Run (fun s l s' => step s l s' ∧ Q s l s') s ls s' := by
  constructor
  · intro h
    induction h with
    | nil => exact .nil _
    | cons hst _ ih =>
      exact .cons ⟨hst.1, (hPQ _ _ _ hs hst.1).1 hst.2⟩ (ih (hI _ _ _ hs hst.1 hst.2))
  · intro h
    induction h with
    | nil => exact .nil _
    | cons hst _ ih =>
      have hP := (hPQ _ _ _ hs hst.1).2 hst.2
      exact .cons ⟨hst.1, hP⟩ (ih (hI _ _ _ hs hst.1 hP))

end

end Run

end Spiderpool
