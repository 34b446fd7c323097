/-
# Channels with a buffer, and `select`

A send is ready if the buffer of its channel has room, a receive if there is something in it.
`select` takes one of its cases that are ready; if there is none, it takes the default, or blocks if
it has none (`Select`).
-/

import Mathlib.Data.List.Basic

namespace Spiderpool

/-- A channel, with what waits in its buffer. -/
structure Chan (α : Type*) where
  cap : ℕ
  buf : List α := []
  le_cap : buf.length ≤ cap := by simp

namespace Chan

variable {α : Type*}

/-- `ch <- a`, if it is ready. -/
def send (ch : Chan α) (a : α) : Option (Chan α) :=
  if h : ch.buf.length < ch.cap then some ⟨ch.cap, ch.buf ++ [a], by simpa using Nat.succ_le_of_lt h⟩ else none

/-- `<-ch`, if it is ready. -/
def recv (ch : Chan α) : Option (α × Chan α) :=
  match ch with
  | ⟨_, [], _⟩ => none
  | ⟨cap, a :: as, h⟩ => some (a, ⟨cap, as, Nat.le_of_succ_le h⟩)

section

variable {ch ch' : Chan α} {a : α}

theorem send_eq_some (h : ch.send a = some ch') : ch'.cap = ch.cap ∧ ch'.buf = ch.buf ++ [a] := by
  unfold send at h
  split_ifs at h
  obtain rfl := Option.some.inj h
  exact ⟨rfl, rfl⟩

theorem send_ne_none (h : ch.buf = []) (hcap : 0 < ch.cap) : ch.send a ≠ none := by
  have hroom : ch.buf.length < ch.cap := by rwa [h]
  simp [send, hroom]

theorem recv_eq_some (h : ch.recv = some (a, ch')) : ch'.cap = ch.cap ∧ ch.buf = a :: ch'.buf := by
  obtain ⟨cap, _ | ⟨b, bs⟩, hle⟩ := ch
  · cases h
  · obtain ⟨rfl, rfl⟩ := Prod.mk.inj (Option.some.inj h)
    exact ⟨rfl, rfl⟩

theorem recv_eq_none (h : ch.recv = none) : ch.buf = [] := by
  obtain ⟨cap, _ | ⟨b, bs⟩, hle⟩ := ch
  · rfl
  · cases h

end

end Chan

/-- What `select` may go on with: a case that is ready, or the default if there is none. -/
inductive Select {σ : Type*} (cases : List (Option σ)) (dflt : Option σ) : σ → Prop
  | ready {s : σ} : some s ∈ cases → Select cases dflt s
  | default {s : σ} : (∀ c ∈ cases, c = none) → dflt = some s → Select cases dflt s

/-- With a default, `select` does not block. -/
theorem Select.exists_of_default {σ : Type*} (cases : List (Option σ)) (d : σ) :
    ∃ s, Select cases (some d) s := by
  by_cases h : ∀ c ∈ cases, c = none
  · exact ⟨d, .default h rfl⟩
  · push Not at h
    obtain ⟨c, hc, hne⟩ := h
    obtain ⟨s, rfl⟩ := Option.ne_none_iff_exists'.1 hne
    exact ⟨s, .ready hc⟩

/-- A `select` of one case and a default. -/
theorem select_one {σ : Type*} {c : Option σ} {d s : σ} (h : Select [c] (some d) s) :
    c = some s ∨ c = none ∧ s = d := by
  cases h with
  | ready h => exact .inl (List.mem_singleton.1 h).symm
  | default h hd => exact .inr ⟨h c (List.mem_singleton.2 rfl), (Option.some.inj hd).symm⟩

end Spiderpool
