/-
# Collecting entries into a map

A loop over a list that makes an entry of each element, or none, counts what the entry has and
stores it under the key of the element; an element that cannot be read ends the loop (`collect`).

If the keys are distinct, then what is in the map afterwards does not depend on the order of the list
(`lookup_collect`).
-/

import Spiderpool.Base.Go

namespace Spiderpool

variable {ε α β κ : Type} [DecidableEq κ]

/-- The loop: `make` gives the entry of an element, and the number of things in it. -/
def collect (make : α → Result ε (Option (ℕ × β))) (key : α → κ) :
    List α → ℤ × GoMap κ β → Result ε (ℤ × GoMap κ β)
  | [], acc => .ok acc
  | x :: xs, acc => do
    let made ← make x
    collect make key xs (made.elim acc fun e => (acc.1 + e.1, acc.2.insert (key x) e.2))

section

variable {make : α → Result ε (Option (ℕ × β))} {key : α → κ} {xs : List α}
  {acc acc' : ℤ × GoMap κ β}

theorem collect_cons_ok {x : α} (h : collect make key (x :: xs) acc = .ok acc') :
    ∃ made, make x = .ok made ∧ collect make key xs
      (made.elim acc fun e => (acc.1 + e.1, acc.2.insert (key x) e.2)) = .ok acc' :=
  bind_eq_ok.1 h

/-- Every element of a loop that comes to its end can be read. -/
theorem made_of_collect (h : collect make key xs acc = .ok acc') :
    ∀ x ∈ xs, ∃ made, make x = .ok made := by
  induction xs generalizing acc with
  | nil => exact nofun
  | cons x xs ih =>
    obtain ⟨made, hmade, h⟩ := collect_cons_ok h
    rw [List.forall_mem_cons]
    exact ⟨⟨made, hmade⟩, ih h⟩

/-- If every element can be read, then the loop comes to its end. -/
theorem exists_collect (h : ∀ x ∈ xs, ∃ made, make x = .ok made) (acc : ℤ × GoMap κ β) :
    ∃ acc', collect make key xs acc = .ok acc' := by
  induction xs generalizing acc with
  | nil => exact ⟨acc, rfl⟩
  | cons x xs ih =>
    rw [List.forall_mem_cons] at h
    obtain ⟨⟨made, hmade⟩, hxs⟩ := h
    obtain ⟨acc', hacc'⟩ := ih hxs (made.elim acc fun e => (acc.1 + e.1, acc.2.insert (key x) e.2))
    exact ⟨acc', bind_eq_ok.2 ⟨made, hmade, hacc'⟩⟩

/-- What is under a key that no element has stays as it was. -/
theorem lookup_collect_of_notMem {k : κ} (h : collect make key xs acc = .ok acc')
    (hk : k ∉ xs.map key) : acc'.2.lookup k = acc.2.lookup k := by
  induction xs generalizing acc with
  | nil => rw [← Except.ok.inj h]
  | cons x xs ih =>
    rw [List.map_cons, List.mem_cons, not_or] at hk
    obtain ⟨made, hmade, h⟩ := collect_cons_ok h
    rw [ih h hk.2]
    cases made with
    | none => rfl
    | some e => exact AList.lookup_insert_ne hk.1

/-- What is under the key of an element: its entry, or else what was there. -/
theorem lookup_collect_of_mem {x : α} {made : Option (ℕ × β)}
    (h : collect make key xs acc = .ok acc') (hkeys : (xs.map key).Nodup) (hx : x ∈ xs)
    (hmade : make x = .ok made) :
    acc'.2.lookup (key x) = made.elim (acc.2.lookup (key x)) fun e => some e.2 := by
  induction xs generalizing acc with
  | nil => cases hx
  | cons y ys ih =>
    rw [List.map_cons, List.nodup_cons] at hkeys
    obtain ⟨made', hmade', h⟩ := collect_cons_ok h
    rcases List.mem_cons.1 hx with rfl | hx
    · obtain rfl := Except.ok.inj (hmade.symm.trans hmade')
      rw [lookup_collect_of_notMem h hkeys.1]
      cases made with
      | none => rfl
      | some e => exact AList.lookup_insert _
    · have hne : key x ≠ key y := fun heq => hkeys.1 (heq ▸ List.mem_map_of_mem hx)
      rw [ih h hkeys.2 hx]
      cases made' with
      | none => rfl
      | some e => exact congrArg (made.elim · _) (AList.lookup_insert_ne hne)

/-- What is in the map afterwards. -/
theorem lookup_collect (h : collect make key xs acc = .ok acc') (hkeys : (xs.map key).Nodup)
    {k : κ} {b : β} : acc'.2.lookup k = some b ↔
      (∃ x ∈ xs, key x = k ∧ ∃ n, make x = .ok (some (n, b))) ∨
      acc.2.lookup k = some b ∧ ∀ x ∈ xs, key x = k → make x = .ok none := by
  by_cases hk : k ∈ xs.map key
  · obtain ⟨x, hx, rfl⟩ := List.mem_map.1 hk
    have hunique : ∀ y ∈ xs, key y = key x → y = x := fun y hy heq =>
      List.inj_on_of_nodup_map hkeys hy hx heq
    obtain ⟨made, hmade⟩ := made_of_collect h x hx
    rw [lookup_collect_of_mem h hkeys hx hmade]
    cases made with
    | none =>
      constructor
      · intro hb
        exact .inr ⟨hb, fun y hy heq => hunique y hy heq ▸ hmade⟩
      · rintro (⟨y, hy, heq, n, hn⟩ | ⟨hb, -⟩)
        · rw [hunique y hy heq, hmade] at hn
          cases hn
        · exact hb
    | some e =>
      constructor
      · intro hb
        obtain rfl := Option.some.inj hb
        exact .inl ⟨x, hx, rfl, e.1, hmade⟩
      · rintro (⟨y, hy, heq, n, hn⟩ | ⟨-, hnone⟩)
        · rw [hunique y hy heq, hmade] at hn
          obtain rfl := Option.some.inj (Except.ok.inj hn)
          rfl
        · rw [hnone x hx rfl] at hmade
          cases hmade
  · rw [lookup_collect_of_notMem h hk]
    constructor
    · intro hb
      exact .inr ⟨hb, fun x hx heq => absurd (heq ▸ List.mem_map_of_mem hx) hk⟩
    · rintro (⟨x, hx, heq, -⟩ | ⟨hb, -⟩)
      · exact absurd (heq ▸ List.mem_map_of_mem hx) hk
      · exact hb

end

end Spiderpool
