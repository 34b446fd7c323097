/-
# What the modelled code takes from Go

A call ends with a value or with a `Fault`: an error value, a run-time panic, or
not at all. The last is kept apart from the errors because a caller that only
logs an error does not survive a callee that never returns.

A Go map is an `AList`, an association list with one entry a key. `range`
visits the entries in an order of its own choosing, so a loop over a map takes
that order as an argument, and what is proved of the loop is proved for every
order (`RangeOrder`).

A nil map reads as the empty one and is not told apart from it.
-/

import Mathlib

namespace Spiderpool

/-- How a call ends short of a value. -/
inductive Fault (ε : Type*) where
  | err (e : ε)
  | panic
  | hang
deriving DecidableEq, Repr

/-- The result of a Go call: a value or a fault. -/
abbrev Result (ε α : Type*) := Except (Fault ε) α

def fail {ε α : Type*} (e : ε) : Result ε α := .error (.err e)

@[simp] theorem fail_ne_ok {ε α : Type*} {e : ε} {a : α} : (fail e : Result ε α) ≠ .ok a := nofun

/-- `if c { return e }`. -/
def failIf {ε : Type*} (c : Prop) [Decidable c] (e : ε) : Result ε Unit :=
  if c then fail e else .ok ()

@[simp] theorem failIf_eq_ok {ε : Type*} {c : Prop} [Decidable c] {e : ε} :
    failIf c e = .ok () ↔ ¬c := by
  unfold failIf
  split_ifs with h <;> simp [h]

/-- Two calls in sequence end well exactly when both do. -/
theorem bind_eq_ok {ε α β : Type} {x : Except ε α} {f : α → Except ε β} {b : β} :
    (x >>= f) = .ok b ↔ ∃ a, x = .ok a ∧ f a = .ok b := by
  cases x <;> simp [bind, Except.bind]

/-- A call that gives something to look at has ended well. -/
theorem exists_ok_of_map {ε α β : Type} {x : Except ε α} {f : α → β} {b : β}
    (h : x.toOption.map f = some b) : ∃ a, x = .ok a ∧ f a = b := by
  cases x with
  | error e => exact absurd h (by simp [Except.toOption])
  | ok a => exact ⟨a, rfl, Option.some.inj h⟩

/-- A check and then a call end well exactly when both do. -/
theorem seq_eq_ok {ε β : Type} {x : Except ε Unit} {y : Except ε β} {b : β} :
    (x >>= fun _ => y) = .ok b ↔ x = .ok () ∧ y = .ok b := by
  cases x <;> simp [bind, Except.bind]

theorem forM_eq_ok {ε α : Type} {f : α → Result ε Unit} {xs : List α} (h : xs.forM f = .ok ()) :
    ∀ x ∈ xs, f x = .ok () := by
  induction xs with
  | nil => simp
  | cons x xs ih =>
    obtain ⟨hx, h⟩ := seq_eq_ok.1 h
    exact List.forall_mem_cons.2 ⟨hx, ih h⟩

/-- The same result with its error value turned into another. -/
def mapErr {ε ε' α : Type} (f : ε → ε') : Result ε α → Result ε' α
  | .ok a => .ok a
  | .error (.err e) => .error (.err (f e))
  | .error .panic => .error .panic
  | .error .hang => .error .hang

/-- A loop that makes a value of each element. -/
theorem mapM_eq_ok {α β ε : Type} {f : α → Result ε β} {xs : List α} {ys : List β} :
    xs.mapM f = .ok ys ↔ List.Forall₂ (fun x y => f x = .ok y) xs ys := by
  induction xs generalizing ys with
  | nil =>
    rw [List.mapM_nil, List.forall₂_nil_left_iff]
    exact ⟨fun h => (Except.ok.inj h).symm, fun h => h ▸ rfl⟩
  | cons x xs ih =>
    rw [List.mapM_cons, List.forall₂_cons_left_iff, bind_eq_ok]
    constructor
    · rintro ⟨y, hy, h⟩
      obtain ⟨ys', hys', h⟩ := bind_eq_ok.1 h
      exact ⟨y, ys', hy, ih.1 hys', (Except.ok.inj h).symm⟩
    · rintro ⟨y, ys', hy, hys', rfl⟩
      exact ⟨y, hy, bind_eq_ok.2 ⟨ys', ih.2 hys', rfl⟩⟩

/-- What such a loop makes has been made of one of the elements. -/
theorem exists_of_mem_mapM {α β ε : Type} {f : α → Result ε β} {xs : List α} {ys : List β}
    (h : xs.mapM f = .ok ys) {y : β} (hy : y ∈ ys) : ∃ x ∈ xs, f x = .ok y := by
  have hall := mapM_eq_ok.1 h
  clear h
  induction hall with
  | nil => cases hy
  | @cons x y' xs ys hxy _ ih =>
    rcases List.mem_cons.1 hy with rfl | hy
    · exact ⟨x, List.mem_cons_self, hxy⟩
    · obtain ⟨x', hx', hfx'⟩ := ih hy
      exact ⟨x', List.mem_cons_of_mem _ hx', hfx'⟩

/-- A loop whose body keeps `g` of what it works on keeps `g` of the whole list. -/
theorem map_of_mapM {α ε γ : Type} {f : α → Result ε α} {g : α → γ}
    (hg : ∀ x y, f x = .ok y → g y = g x) {xs ys : List α} (h : xs.mapM f = .ok ys) :
    ys.map g = xs.map g := by
  have hall := mapM_eq_ok.1 h
  clear h
  induction hall with
  | nil => rfl
  | cons hxy _ ih => rw [List.map_cons, List.map_cons, hg _ _ hxy, ih]

theorem mapErr_eq_ok {ε ε' α : Type} {f : ε → ε'} {r : Result ε α} {a : α} :
    mapErr f r = .ok a ↔ r = .ok a := by
  rcases r with (e | - | -) | b <;> simp [mapErr]

/-- `x, _ := f()`: an error is dropped, and `x` is nil then. -/
def dropErr {ε ε' α : Type} : Result ε α → Result ε' (Option α)
  | .ok a => .ok (some a)
  | .error (.err _) => .ok none
  | .error .panic => .error .panic
  | .error .hang => .error .hang

/-- The function returns, with a result or with an error. -/
def Returns {ε α : Type*} (r : Result ε α) : Prop := r ≠ .error .panic ∧ r ≠ .error .hang

theorem returns_ok {ε α : Type*} (a : α) : Returns (.ok a : Result ε α) := ⟨nofun, nofun⟩

theorem returns_fail {ε α : Type*} (e : ε) : Returns (fail e : Result ε α) := ⟨nofun, nofun⟩

theorem returns_failIf {ε : Type*} (c : Prop) [Decidable c] (e : ε) : Returns (failIf c e) := by
  unfold failIf
  split_ifs
  · exact ⟨nofun, nofun⟩
  · exact returns_ok ()

theorem Returns.bind {ε α β : Type*} {x : Result ε α} {f : α → Result ε β} (hx : Returns x)
    (hf : ∀ a, x = .ok a → Returns (f a)) : Returns (Except.bind x f) := by
  rcases x with (e | _ | _) | a
  · exact ⟨nofun, nofun⟩
  · exact absurd rfl hx.1
  · exact absurd rfl hx.2
  · exact hf a rfl

theorem Returns.mapErr {ε ε' α : Type} {r : Result ε α} (h : Returns r) (f : ε → ε') :
    Returns (mapErr f r) := by
  rcases r with (e | - | -) | a
  · exact ⟨nofun, nofun⟩
  · exact absurd rfl h.1
  · exact absurd rfl h.2
  · exact returns_ok a

/-- A loop fails with the error of one of its turns. -/
theorem exists_of_mapM_fail {α β ε : Type} {f : α → Result ε β} {xs : List α} {e : ε}
    (h : xs.mapM f = fail e) : ∃ x ∈ xs, f x = fail e := by
  induction xs with
  | nil => cases h
  | cons x xs ih =>
    rw [List.mapM_cons] at h
    rcases hx : f x with fault | y
    · rw [hx] at h
      exact ⟨x, List.mem_cons_self, hx.trans (congrArg Except.error (Except.error.inj h))⟩
    · rcases hxs : xs.mapM f with fault | ys
      · rw [hx, hxs] at h
        obtain ⟨x', hx', hfail⟩ := ih (hxs.trans (congrArg Except.error (Except.error.inj h)))
        exact ⟨x', List.mem_cons_of_mem _ hx', hfail⟩
      · rw [hx, hxs] at h
        cases h

/-- A loop each of whose turns returns what is wanted of it, or fails for a reason. -/
theorem mapM_forall₂ {α β γ ε : Type} {f : α → Result ε β} {R : γ → β → Prop}
    {bad : γ → ε → Prop} {zs : List γ} {xs : List α}
    (h : List.Forall₂ (fun z x => (∃ y, f x = .ok y ∧ R z y) ∨ ∃ e, f x = fail e ∧ bad z e) zs xs) :
    (∃ ys, xs.mapM f = .ok ys ∧ List.Forall₂ R zs ys) ∨
      ∃ e, xs.mapM f = fail e ∧ ∃ z ∈ zs, bad z e := by
  induction h with
  | nil => exact .inl ⟨[], rfl, .nil⟩
  | @cons z x zs xs hzx _ ih =>
    rw [List.mapM_cons]
    rcases hzx with ⟨y, hy, hR⟩ | ⟨e, he, hbad⟩
    · rw [hy]
      rcases ih with ⟨ys, hys, hall⟩ | ⟨e, he, z', hz', hbad⟩
      · exact .inl ⟨y :: ys, by rw [hys]; rfl, .cons hR hall⟩
      · exact .inr ⟨e, by rw [he]; rfl, z', List.mem_cons_of_mem _ hz', hbad⟩
    · exact .inr ⟨e, by rw [he]; rfl, z, List.mem_cons_self, hbad⟩

/-- `*p`: a nil pointer panics. -/
def deref {ε α : Type} : Option α → Result ε α
  | some a => .ok a
  | none => .error .panic

theorem deref_eq_ok {ε α : Type} {o : Option α} {a : α} :
    (deref o : Result ε α) = .ok a ↔ o = some a := by
  cases o <;> simp [deref]

/-- `xs[:n]` of a slice with room for `c`, which may be more than it holds. Where `n`
goes past what it holds the rest is nil, and left out here. -/
def sliceTo {ε α : Type} (c : ℕ) (xs : List α) (n : ℤ) : Result ε (List α) :=
  if n < 0 ∨ c < n then .error .panic else .ok (xs.take n.toNat)

abbrev GoMap (κ α : Type*) := AList fun _ : κ => α

namespace GoMap

variable {κ α : Type*}

def len (m : GoMap κ α) : ℕ := m.entries.length

theorem len_eq_zero {m : GoMap κ α} : len m = 0 ↔ m.entries = [] := List.length_eq_zero_iff

theorem len_eq_keys (m : GoMap κ α) : len m = m.keys.length := by
  simp [len, AList.keys, List.keys]

variable [DecidableEq κ]

section

variable {m : GoMap κ α} {k : κ} {v : α}

theorem mem_entries_iff : (⟨k, v⟩ : Σ _ : κ, α) ∈ m.entries ↔ m.lookup k = some v :=
  AList.mem_lookup_iff.symm

theorem mem_of_lookup (h : m.lookup k = some v) : k ∈ m :=
  AList.lookup_isSome.1 (by rw [h]; rfl)

theorem len_insert_of_notMem (v : α) (h : k ∉ m) : len (m.insert k v) = len m + 1 := by
  unfold len
  rw [AList.entries_insert_of_notMem h, List.length_cons]

theorem len_insert_of_mem (v : α) (h : k ∈ m) : len (m.insert k v) = len m := by
  have hk : k ∈ m.keys := AList.mem_keys.1 h
  rw [len_eq_keys, len_eq_keys, AList.keys_insert, List.length_cons, List.length_erase_of_mem hk]
  have := List.length_pos_of_mem hk
  omega

theorem len_erase_le (m : GoMap κ α) (k : κ) : len (m.erase k) ≤ len m := by
  rw [len_eq_keys, len_eq_keys, AList.keys_erase]
  exact List.length_erase_le

theorem lookup_insert_eq (k k' : κ) (v : α) :
    (m.insert k v).lookup k' = if k' = k then some v else m.lookup k' := by
  split_ifs with h
  · subst h; exact AList.lookup_insert m
  · exact AList.lookup_insert_ne h

/-- Erasing a key that was new gives the map back. -/
theorem erase_insert_of_notMem (v : α) (h : k ∉ m) : (m.insert k v).erase k = m := by
  apply AList.ext
  rw [AList.insert_of_notMem h]
  exact List.kerase_cons_eq rfl

theorem lookup_erase_eq (k k' : κ) :
    (m.erase k).lookup k' = if k' = k then none else m.lookup k' := by
  split_ifs with h
  · subst h; exact AList.lookup_erase _ m
  · exact AList.lookup_erase_ne h

end

end GoMap

/-- A choice of the order in which `range` visits the entries of each map. -/
structure RangeOrder (κ α : Type*) where
  visit : GoMap κ α → List (Σ _ : κ, α)
  perm : ∀ m, (visit m).Perm m.entries

def RangeOrder.stored (κ α : Type*) : RangeOrder κ α := ⟨AList.entries, fun _ => List.Perm.refl _⟩

theorem RangeOrder.mem_visit {κ α : Type*} [DecidableEq κ] (o : RangeOrder κ α) {m : GoMap κ α}
    {k : κ} {v : α} : (⟨k, v⟩ : Σ _ : κ, α) ∈ o.visit m ↔ m.lookup k = some v := by
  rw [(o.perm m).mem_iff, GoMap.mem_entries_iff]

/-- A JSON text as `json.Unmarshal` takes it into a value of type `α`: the
document of some value, or a text it rejects with the error given. -/
inductive Json (α : Type*) where
  | doc (v : α)
  | malformed (error : String)

/-- `strings.Split(s, c)` for a one-character separator. -/
def split (s : String) (c : Char) : List String := (s.toList.splitOn c).map String.ofList

/-- `%v` of a `[]string`. -/
def formatList (xs : List String) : String := "[" ++ " ".intercalate xs ++ "]"

def toLower (s : String) : String := String.ofList (s.toList.map Char.toLower)

/-- `strings.Cut(s, c)`: what stands before the first `c`, and what stands behind it if
there is one. -/
def cut (s : String) (c : Char) : String × Option String :=
  match split s c with
  | [] | [_] => (s, none)
  | first :: rest => (first, some ((String.ofList [c]).intercalate rest))

/-- `strconv.Atoi`: the number that an optional sign and decimal digits write, if it fits into
64 bits. -/
def atoi (s : String) : Option ℤ :=
  let (negative, digits) := match s.toList with
    | '-' :: ds => (true, ds)
    | '+' :: ds => (false, ds)
    | ds => (false, ds)
  if digits = [] ∨ ¬digits.all Char.isDigit then none
  else
    let n : ℤ := digits.foldl (fun n c => 10 * n + (c.toNat - '0'.toNat : ℕ)) 0
    let n := if negative then -n else n
    if -2 ^ 63 ≤ n ∧ n < 2 ^ 63 then some n else none

/-- The error text of `strconv.Atoi` where it writes no number. -/
def atoiErr (s : String) : String :=
  let digits := match s.toList with
    | '-' :: ds | '+' :: ds => ds
    | ds => ds
  "strconv.Atoi: parsing \"" ++ s ++ "\": " ++
    if digits = [] ∨ ¬digits.all Char.isDigit then "invalid syntax" else "value out of range"

def itoa (n : ℕ) : String := toString n

def parseBool (s : String) : Option Bool :=
  if s ∈ ["1", "t", "T", "true", "TRUE", "True"] then some true
  else if s ∈ ["0", "f", "F", "false", "FALSE", "False"] then some false
  else none

/-- `a + b` of two `int`s, which wraps. -/
def addInt (a b : ℤ) : ℤ := (a + b).bmod (2 ^ 64)

/-- The inner loop of an insertion sort: `x` moves to the left, past what it is less than. The
elements to its left stand last to first. -/
def sinkLeft {α : Type*} (less : α → α → Bool) (x : α) : List α → List α
  | [] => [x]
  | y :: ys => if less x y then y :: sinkLeft less x ys else x :: y :: ys

/-- `sort.Slice`, which sorts up to twelve elements by insertion. Longer slices come out the
same if `less` is a strict order under which no two elements are equal. -/
def sortSlice {α : Type*} (less : α → α → Bool) (xs : List α) : List α :=
  (xs.foldl (fun sorted x => sinkLeft less x sorted) []).reverse

theorem sinkLeft_perm {α : Type*} (less : α → α → Bool) (x : α) (ys : List α) :
    (sinkLeft less x ys).Perm (x :: ys) := by
  induction ys with
  | nil => exact .refl _
  | cons y ys ih =>
    rw [sinkLeft]
    split_ifs
    · exact (ih.cons y).trans (.swap x y ys)
    · exact .refl _

theorem sortSlice_perm {α : Type*} (less : α → α → Bool) (xs : List α) :
    (sortSlice less xs).Perm xs := by
  have hfold : ∀ xs sorted : List α,
      (xs.foldl (fun sorted x => sinkLeft less x sorted) sorted).Perm (xs ++ sorted) := by
    intro xs
    induction xs with
    | nil => exact fun _ => .refl _
    | cons x xs ih =>
      intro sorted
      exact (ih _).trans (((sinkLeft_perm less x sorted).append_left xs).trans List.perm_middle)
  exact (List.reverse_perm _).trans (by simpa using hfold xs [])

theorem mem_sortSlice {α : Type*} {less : α → α → Bool} {xs : List α} {x : α} :
    x ∈ sortSlice less xs ↔ x ∈ xs :=
  (sortSlice_perm less xs).mem_iff

/-- `%v` of a `map[string]string`. -/
def formatMap (m : GoMap String String) : String :=
  "map[" ++ " ".intercalate ((sortSlice (fun a b => decide (a.1 < b.1)) m.entries).map fun kv =>
    kv.1 ++ ":" ++ kv.2) ++ "]"

/-- Calls that run beside each other to their ends: what they return, or the errors of all that
fail. -/
def joinResults {ε α : Type} : List (Result ε α) → Result (List ε) (List α)
  | [] => .ok []
  | .ok a :: rs => joinResults rs >>= fun as => .ok (a :: as)
  | .error (.err e) :: rs =>
    match joinResults rs with
    | .ok _ => fail [e]
    | .error (.err es) => fail (e :: es)
    | .error fault => .error fault
  | .error .panic :: _ => .error .panic
  | .error .hang :: _ => .error .hang

/-- What is returned has been returned by one of the calls. -/
theorem mem_of_joinResults {ε α : Type} {rs : List (Result ε α)} {as : List α}
    (h : joinResults rs = .ok as) {a : α} (ha : a ∈ as) : .ok a ∈ rs := by
  induction rs generalizing as with
  | nil =>
    obtain rfl := Except.ok.inj h
    cases ha
  | cons r rs ih =>
    rcases r with (e | - | -) | b
    · rw [joinResults] at h
      split at h <;> cases h
    · cases h
    · cases h
    · obtain ⟨bs, hbs, h⟩ := bind_eq_ok.1 h
      obtain rfl := Except.ok.inj h
      rcases List.mem_cons.1 ha with rfl | ha
      · exact List.mem_cons_self
      · exact List.mem_cons_of_mem _ (ih hbs ha)

/-- Adding wraps, yet distinct `int`s stay distinct. -/
theorem addInt_inj {a b c : ℤ} (hb : -2 ^ 63 ≤ b ∧ b < 2 ^ 63) (hc : -2 ^ 63 ≤ c ∧ c < 2 ^ 63) :
    addInt a b = addInt a c ↔ b = c := by
  refine ⟨fun h => ?_, fun h => h ▸ rfl⟩
  simp only [addInt, Int.bmod_def] at h
  omega

theorem addInt_comm (a b : ℤ) : addInt a b = addInt b a := by
  rw [addInt, addInt, add_comm]

theorem split_ne_nil (s : String) (c : Char) : split s c ≠ [] := by
  simp [split]

section

variable {s : String} {c : Char}

theorem split_of_notMem (h : c ∉ s.toList) : split s c = [s] := by
  simp [split, List.splitOn_eq_singleton h]

/-- What stands before the first separator is the first piece. -/
theorem split_append_cons (h : c ∉ s.toList) (t : String) :
    split (s ++ String.ofList [c] ++ t) c = s :: split t c := by
  have hlist : (s ++ String.ofList [c] ++ t).toList = s.toList ++ c :: t.toList := by simp
  simp only [split, hlist, List.splitOn_append_cons_self_of_not_mem h, List.map_cons,
    String.ofList_toList]

theorem head_split_append (h : c ∉ s.toList) (t : String) :
    (split (s ++ String.ofList [c] ++ t) c).head (split_ne_nil _ _) = s := by
  simp only [split_append_cons h, List.head_cons]

/-- Two texts without the separator, joined by it, split into themselves. -/
theorem split_append {t : String} (hs : c ∉ s.toList) (ht : c ∉ t.toList) :
    split (s ++ String.ofList [c] ++ t) c = [s, t] := by
  rw [split_append_cons hs, split_of_notMem ht]

theorem cut_of_notMem (h : c ∉ s.toList) : cut s c = (s, none) := by
  simp only [cut, split_of_notMem h]

/-- A text is cut at the first separator. -/
theorem cut_append (h : c ∉ s.toList) (t : String) :
    cut (s ++ String.ofList [c] ++ t) c = (s, some t) := by
  obtain ⟨u, us, hu⟩ := List.exists_cons_of_ne_nil (split_ne_nil t c)
  have hsplit : split (s ++ String.ofList [c] ++ t) c = s :: u :: us := by
    rw [split_append_cons h, hu]
  have hjoin : (String.ofList [c]).intercalate (u :: us) = t := by
    have htexts : (split t c).map String.toList = t.toList.splitOn c := by simp [split]
    rw [← hu, ← String.toList_inj, String.toList_intercalate, htexts]
    simp
  simp only [cut, hsplit, hjoin]

/-- The parts that a text is cut into. -/
theorem exists_cut (h : c ∈ s.toList) : ∃ t u, s = t ++ String.ofList [c] ++ u ∧ c ∉ t.toList := by
  obtain ⟨t, u, hs, ht⟩ := List.eq_append_cons_of_mem h
  refine ⟨String.ofList t, String.ofList u, String.toList_inj.1 ?_, by simpa using ht⟩
  simpa using hs

end

end Spiderpool
