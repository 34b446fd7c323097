/-
# Conditional writes to one object

A store holds one object and gives every write of it a new version. A client's
call reads a version, decides from its value alone what to do, and writes: the
store accepts the write only if the version read is still the current one, and
otherwise the call starts over from a new read, a bounded number of times. A
read is of the current version, or, for a call that reads through a cache, of
any version the store has held. A write that changes nothing may or may not
make a new version.

A write that commits has been computed from the value it replaces
(`Step.commit_attempt`), so that the object changes as if each committed call
had run alone (`World.run_inv`).
-/

import Spiderpool.Base.Runs

namespace Spiderpool
namespace Versioned

/-- A value of the object and the version at which it was written. -/
structure Version (α : Type*) where
  ver : ℕ
  val : α

/-- A store: the current version and those before it. -/
structure Store (α : Type*) where
  cur : Version α
  past : List (Version α)
  past_lt : ∀ s ∈ past, s.ver < cur.ver

variable {ι Op α ρ : Type*}

/-- The store once `v` is written. -/
def Store.push (st : Store α) (v : α) : Store α where
  cur := ⟨st.cur.ver + 1, v⟩
  past := st.cur :: st.past
  past_lt := by
    intro s hs
    rcases List.mem_cons.1 hs with rfl | hs
    · exact Nat.lt_succ_self _
    · exact (st.past_lt s hs).trans (Nat.lt_succ_self _)

/-- The versions a reader can have been shown. -/
def Store.Shows (st : Store α) (s : Version α) : Prop := s = st.cur ∨ s ∈ st.past

theorem Store.Shows.push {st : Store α} {s : Version α} (h : st.Shows s) (v : α) :
    (st.push v).Shows s :=
  .inr (List.mem_cons.2 h)

/-- A version the store has shown and that carries the current number is the current one. -/
theorem Store.Shows.eq_cur {st : Store α} {s : Version α} (h : st.Shows s)
    (hv : s.ver = st.cur.ver) : s = st.cur := by
  rcases h with rfl | h
  · rfl
  · exact absurd hv (st.past_lt s h).ne

/-- What a call does with the value it has read: it writes a value and then
returns, or it returns without writing. -/
inductive Attempt (α ρ : Type*) where
  | write (v : α) (r : ρ)
  | done (r : ρ)

/-- The calls clients make: how often each is tried, which of them read
through a cache, and what an attempt may do with the value it has read. -/
structure Calls (Op α ρ : Type*) where
  tries : Op → ℕ
  cached : Op → Prop
  attempt : Op → α → Attempt α ρ → Prop

inductive Phase (α Op : Type*) where
  | idle
  | calling (op : Op) (left : ℕ)
  | holding (op : Op) (left : ℕ) (s : Version α)

/-- The store and the clients. -/
structure World (ι Op α : Type*) where
  store : Store α
  phase : ι → Phase α Op

def World.val (w : World ι Op α) : α := w.store.cur.val

inductive Event (ι Op ρ : Type*) where
  | call (i : ι) (op : Op)
  | read (i : ι) (op : Op)
  | commit (i : ι) (op : Op) (r : ρ)
  | done (i : ι) (op : Op) (r : ρ)
  | conflict (i : ι) (op : Op)
  | giveUp (i : ι) (op : Op)

def Event.client : Event ι Op ρ → ι
  | .call i _ | .read i _ | .commit i _ _ | .done i _ _ | .conflict i _ | .giveUp i _ => i

def Event.op : Event ι Op ρ → Op
  | .call _ op | .read _ op | .commit _ op _ | .done _ op _ | .conflict _ op | .giveUp _ op => op

section

variable [DecidableEq ι] (C : Calls Op α ρ)

def World.setPhase (w : World ι Op α) (i : ι) (p : Phase α Op) : World ι Op α :=
  { w with phase := Function.update w.phase i p }

inductive Step : World ι Op α → Event ι Op ρ → World ι Op α → Prop
  | call {w : World ι Op α} {i : ι} (op : Op) (hi : w.phase i = .idle) :
      Step w (.call i op) (w.setPhase i (.calling op (C.tries op)))
  | read {w : World ι Op α} {i : ι} {op : Op} {n : ℕ} {s : Version α}
      (hi : w.phase i = .calling op (n + 1))
      (hs : s = w.store.cur ∨ C.cached op ∧ s ∈ w.store.past) :
      Step w (.read i op) (w.setPhase i (.holding op n s))
  | commit {w : World ι Op α} {i : ι} {op : Op} {n : ℕ} {s : Version α} {v : α} {r : ρ}
      (hi : w.phase i = .holding op n s) (ha : C.attempt op s.val (.write v r))
      (hv : s.ver = w.store.cur.ver) :
      Step w (.commit i op r) { (w.setPhase i .idle) with store := w.store.push v }
  -- a write of the value that is already there need not make a version
  | touch {w : World ι Op α} {i : ι} {op : Op} {n : ℕ} {s : Version α} {r : ρ}
      (hi : w.phase i = .holding op n s) (ha : C.attempt op s.val (.write s.val r))
      (hv : s.ver = w.store.cur.ver) :
      Step w (.commit i op r) (w.setPhase i .idle)
  | conflict {w : World ι Op α} {i : ι} {op : Op} {n : ℕ} {s : Version α} {v : α} {r : ρ}
      (hi : w.phase i = .holding op n s) (ha : C.attempt op s.val (.write v r))
      (hv : s.ver ≠ w.store.cur.ver) :
      Step w (.conflict i op) (w.setPhase i (.calling op n))
  | done {w : World ι Op α} {i : ι} {op : Op} {n : ℕ} {s : Version α} {r : ρ}
      (hi : w.phase i = .holding op n s) (ha : C.attempt op s.val (.done r)) :
      Step w (.done i op r) (w.setPhase i .idle)
  | giveUp {w : World ι Op α} {i : ι} {op : Op} (hi : w.phase i = .calling op 0) :
      Step w (.giveUp i op) (w.setPhase i .idle)

end

/-- Every version a client holds is one the store has shown. -/
def World.Shown (w : World ι Op α) : Prop :=
  ∀ i op n s, w.phase i = .holding op n s → w.store.Shows s

theorem World.shown_of_idle {w : World ι Op α} (h : ∀ i, w.phase i = .idle) : w.Shown := by
  intro i op n s hi
  rw [h i] at hi
  cases hi

variable [DecidableEq ι] {C : Calls Op α ρ}

section

variable {w w' : World ι Op α} {e : Event ι Op ρ} {i : ι} {op : Op} {r : ρ}
  {es : List (Event ι Op ρ)}

theorem World.Shown.setPhase (h : w.Shown) (i : ι) {p : Phase α Op}
    (hp : ∀ op n s, p = .holding op n s → w.store.Shows s) : (w.setPhase i p).Shown := by
  intro j op n s hj
  by_cases hji : j = i
  · subst hji
    exact hp op n s (by simpa [World.setPhase] using hj)
  · exact h j op n s (by simpa [World.setPhase, hji] using hj)

theorem Step.shown (h : Step C w e w') (hw : w.Shown) : w'.Shown := by
  cases h with
  | call op hi => exact hw.setPhase _ (by simp)
  | read hi hs =>
    refine hw.setPhase _ fun op n s hp => ?_
    cases hp
    exact hs.imp id And.right
  | commit hi ha hv =>
    intro j op n s hj
    exact (hw.setPhase _ (by simp) j op n s hj).push _
  | touch hi ha hv => exact hw.setPhase _ (by simp)
  | conflict hi ha hv => exact hw.setPhase _ (by simp)
  | done hi ha => exact hw.setPhase _ (by simp)
  | giveUp hi => exact hw.setPhase _ (by simp)

/-- A write commits only against the value it was computed from. -/
theorem Step.commit_attempt (h : Step C w (.commit i op r) w') (hw : w.Shown) :
    C.attempt op w.val (.write w'.val r) := by
  cases h with
  | commit hi ha hv =>
    rw [(hw _ _ _ _ hi).eq_cur hv] at ha
    exact ha
  | touch hi ha hv =>
    rw [(hw _ _ _ _ hi).eq_cur hv] at ha
    exact ha

/-- A client whose write commits holds a version. -/
theorem Step.commit_holds
    (h : Step C w (.commit i op r) w') : ∃ n s, w.phase i = .holding op n s := by
  cases h with
  | commit hi ha hv => exact ⟨_, _, hi⟩
  | touch hi ha hv => exact ⟨_, _, hi⟩

/-- The version that a client whose write commits holds is the current one. -/
theorem Step.commit_read {op' : Op} {n : ℕ} {s : Version α}
    (h : Step C w (.commit i op r) w') (hw : w.Shown) (hs : w.phase i = .holding op' n s) :
    s = w.store.cur := by
  cases h with
  | commit hi ha hv =>
    obtain ⟨-, -, rfl⟩ := Phase.holding.inj (hs.symm.trans hi)
    exact (hw _ _ _ _ hs).eq_cur hv
  | touch hi ha hv =>
    obtain ⟨-, -, rfl⟩ := Phase.holding.inj (hs.symm.trans hi)
    exact (hw _ _ _ _ hs).eq_cur hv

/-- Nothing but a commit changes the object. -/
theorem Step.val_eq (h : Step C w e w') (he : ∀ i op r, e ≠ .commit i op r) : w'.val = w.val := by
  cases h with
  | commit => exact absurd rfl (he _ _ _)
  | touch => exact absurd rfl (he _ _ _)
  | _ => rfl

/-- What every committed write in `ok` keeps, every step keeps whose commit,
if it is one, is in `ok`. -/
theorem Step.keeps {P : α → Prop} {ok : Op → ρ → Prop}
    (hP : ∀ op a a' r, P a → ok op r → C.attempt op a (.write a' r) → P a') (h : Step C w e w')
    (hw : w.Shown) (hok : ∀ i op r, e = .commit i op r → ok op r) (hv : P w.val) : P w'.val := by
  by_cases he : ∃ i op r, e = .commit i op r
  · obtain ⟨i, op, r, rfl⟩ := he
    exact hP op _ _ r hv (hok i op r rfl) (h.commit_attempt hw)
  · rw [h.val_eq fun i op r heq => he ⟨i, op, r, heq⟩]
    exact hv

/-- A property of the object that every committed write in `ok` keeps holds
after every run whose commits are in `ok`. -/
theorem World.run_inv_of (P : α → Prop) (ok : Op → ρ → Prop)
    (hP : ∀ op a a' r, P a → ok op r → C.attempt op a (.write a' r) → P a')
    (h : Run (Step C) w es w') (hw : w.Shown) (hok : ∀ i op r, .commit i op r ∈ es → ok op r)
    (hv : P w.val) : w'.Shown ∧ P w'.val :=
  h.inv_of (fun w => w.Shown ∧ P w.val)
    (fun e => ∀ i op r, e = .commit i op r → ok op r) ⟨hw, hv⟩
    (fun _ he i op r heq => hok i op r (heq ▸ he))
    fun _ _ _ hI hok hst => ⟨hst.shown hI.1, hst.keeps hP hI.1 hok hI.2⟩

/-- A property of the object that every committed write keeps holds after
every run. -/
theorem World.run_inv (P : α → Prop) (hP : ∀ op a a' r, P a → C.attempt op a (.write a' r) → P a')
    (h : Run (Step C) w es w') (hw : w.Shown) (hv : P w.val) : w'.Shown ∧ P w'.val :=
  World.run_inv_of P (fun _ _ => True) (fun op a a' r ha _ => hP op a a' r ha) h hw
    (fun _ _ _ _ => trivial) hv

end

/-! ### A call that nobody interrupts -/

def World.init (v : α) : World ι Op α := ⟨⟨⟨0, v⟩, [], by simp⟩, fun _ => .idle⟩

/-- An attempt that writes can be run without interruption, and commits. -/
theorem World.solo {w : World ι Op α} (hw : ∀ i, w.phase i = .idle) (i : ι) {op : Op} {v : α}
    {r : ρ} (ht : C.tries op ≠ 0) (ha : C.attempt op w.val (.write v r)) :
    ∃ w₁ w₂ : World ι Op α, Run (Step C) w [.call i op, .read i op] w₁ ∧ w₁.val = w.val ∧
      Step C w₁ (.commit i op r) w₂ ∧ w₂.val = v ∧ ∀ i, w₂.phase i = .idle := by
  obtain ⟨n, hn⟩ := Nat.exists_eq_succ_of_ne_zero ht
  let w₀ := w.setPhase i (.calling op (C.tries op))
  let w₁ := w₀.setPhase i (.holding op n w.store.cur)
  have hcall : Step C w (.call i op) w₀ := .call op (hw i)
  have hread : Step C w₀ (.read i op) w₁ :=
    .read (by simp [w₀, World.setPhase, hn]) (.inl rfl)
  have hi : w₁.phase i = .holding op n w.store.cur := by simp [w₁, World.setPhase]
  refine ⟨w₁, _, .cons hcall (.single hread), rfl, .commit hi ha rfl, rfl, fun j => ?_⟩
  by_cases hj : j = i
  · subst hj
    simp [World.setPhase]
  · simp [World.setPhase, w₁, w₀, hj, hw j]

end Versioned
end Spiderpool
