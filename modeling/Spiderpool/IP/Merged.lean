/-
# What merged ranges list

`ConvertIPsToIPRanges` writes a list of addresses as ranges. Read back by
`ParseIPRanges`, the ranges list no other addresses (`mem_of_listed_convert`): a range is
made of addresses each of which is next to the one before, and the loop of `ParseIPRange`
goes through them in the same way.
-/

import Spiderpool.IP.RangeAddrs

namespace Spiderpool

/-- The addresses a list of ranges stands for, whichever version it can be read with. -/
def Listed (ranges : List String) (a : Addr) : Prop :=
  ∃ v l, parseIPRanges v ranges = .ok l ∧ a ∈ l

section

variable {v v' : IPVersion} {l l' : List Addr} {rs : List String} {a : Addr}

theorem parseIPRange_version {r : String}
    (h : parseIPRange v r = .ok l) (h' : parseIPRange v' r = .ok l') : l = l' := by
  obtain ⟨-, h⟩ := seq_eq_ok.1 h
  obtain ⟨-, h'⟩ := seq_eq_ok.1 h'
  exact Except.ok.inj (h.symm.trans h')

theorem parseIPRanges_version
    (h : parseIPRanges v rs = .ok l) (h' : parseIPRanges v' rs = .ok l') : l = l' := by
  induction rs generalizing l l' with
  | nil => exact Except.ok.inj (h.symm.trans h')
  | cons r rs ih =>
    obtain ⟨ips, hips, h⟩ := bind_eq_ok.1 h
    obtain ⟨sum, hsum, h⟩ := bind_eq_ok.1 h
    obtain ⟨ips', hips', h'⟩ := bind_eq_ok.1 h'
    obtain ⟨sum', hsum', h'⟩ := bind_eq_ok.1 h'
    rw [← Except.ok.inj h, ← Except.ok.inj h', parseIPRange_version hips hips', ih hsum hsum']

theorem listed_of_parse (h : parseIPRanges v rs = .ok l) : Listed rs a ↔ a ∈ l := by
  constructor
  · rintro ⟨v', l', h', ha⟩
    exact parseIPRanges_version h' h ▸ ha
  · exact fun ha => ⟨v, l, h, ha⟩

theorem Listed.mem_of_subset {rs' : List String}
    (h : Listed rs a) (hsub : rs ⊆ rs') (h' : parseIPRanges v rs' = .ok l') : a ∈ l' := by
  obtain ⟨_, l, hl, ha⟩ := h
  obtain ⟨r, hr, l₁, hl₁, ha⟩ := exists_range_of_mem hl ha
  obtain ⟨l₂, hl₂, hsub₂⟩ := mem_parseIPRanges h' (hsub hr)
  exact hsub₂ (parseIPRange_version hl₁ hl₂ ▸ ha)

end

/-! ### Reading back what was merged -/

/-- From `s` up to the number of `e`, all addresses that the loop of `ParseIPRange` goes
through are in `S`. -/
def Filled (S : Set Addr) (s e : Addr) : Prop :=
  s ∈ S ∧ ∀ i a, s.toInt < i → i ≤ e.toInt → IP.intToIP i = some a → a ∈ S

namespace Filled

variable {S : Set Addr} {s e x : Addr}

theorem single (hs : s ∈ S) : Filled S s s := ⟨hs, fun i _ h h' => absurd h' (by omega)⟩

theorem next (h : Filled S s e) (hx : x ∈ S) (hnext : IP.nextIP (some e) = some x) :
    Filled S s x := by
  have hint : x.toInt = e.toInt + 1 := IP.toInt_of_nextIP hnext
  refine ⟨h.1, fun i a hlow hhigh ha => ?_⟩
  rcases Nat.lt_or_ge e.toInt i with hi | hi
  · obtain rfl : i = e.toInt + 1 := by omega
    obtain rfl : a = x := Option.some.inj (ha.symm.trans hnext)
    exact hx
  · exact h.2 i a hlow hi ha

theorem mem_of_parse (h : Filled S s e) {v : IPVersion} {l : List Addr}
    (hl : parseIPRange v (rangeText s e) = .ok l) : ∀ a ∈ l, a ∈ S := by
  unfold rangeText at hl
  split_ifs at hl with heq
  · rw [parseIPRange_string hl]
    simpa using h.1
  · have hsplit := split_append (Addr.notMem_string (.inl rfl) s) (Addr.notMem_string (.inl rfl) e)
    obtain ⟨hrange, hl⟩ := seq_eq_ok.1 hl
    obtain ⟨-, x, y, hx, hy, hxy⟩ := isIPRange_ends hrange hsplit
    rw [parseIP_string] at hx hy
    obtain rfl := Option.some.inj hx
    obtain rfl := Option.some.inj hy
    simp only [hsplit, parseIP_string] at hl
    split_ifs at hl
    obtain ⟨rfl, -⟩ := rangeLoop_ok hl hxy
    intro a ha
    rcases List.mem_cons.1 ha with rfl | ha
    · exact h.1
    · obtain ⟨i, hi, ha⟩ := List.mem_filterMap.1 ha
      rw [List.mem_range'_1, IP.ipToInt_some] at hi
      exact h.2 i a (by omega) (by omega) ha

end Filled

theorem mem_of_parse_mergeLoop {S : Set Addr} {s e : Addr} {xs : List Addr} (h : Filled S s e)
    (hxs : ∀ x ∈ xs, x ∈ S) {v : IPVersion} {l : List Addr}
    (hl : parseIPRanges v (mergeLoop s e xs) = .ok l) : ∀ a ∈ l, a ∈ S := by
  induction xs generalizing s e l with
  | nil =>
    obtain ⟨ips, hips, hl⟩ := bind_eq_ok.1 hl
    rw [← Except.ok.inj hl, List.append_nil]
    exact h.mem_of_parse hips
  | cons x xs ih =>
    rw [List.forall_mem_cons] at hxs
    rw [mergeLoop] at hl
    split_ifs at hl with hnext
    · exact ih (h.next hxs.1 hnext) hxs.2 hl
    · obtain ⟨ips, hips, hl⟩ := bind_eq_ok.1 hl
      obtain ⟨sum, hsum, hl⟩ := bind_eq_ok.1 hl
      rw [← Except.ok.inj hl]
      intro a ha
      rcases List.mem_append.1 ha with ha | ha
      · exact h.mem_of_parse hips a ha
      · exact ih (.single hxs.1) hxs.2 hsum a ha

theorem mem_of_listed_convert {v : IPVersion} {ips : List Addr} {rs : List String}
    (h : convertIPsToIPRanges v ips = .ok rs) {a : Addr} (ha : Listed rs a) : a ∈ ips := by
  obtain ⟨v', l, hl, ha⟩ := ha
  obtain ⟨-, h⟩ := seq_eq_ok.1 h
  split at h
  · exact absurd h fail_ne_ok
  · have hmem : ∀ x ∈ ((ips.map Addr.string).dedup.filterMap parseIP).insertionSort (· ≤ ·),
        x ∈ ips := by
      intro x hx
      rw [List.mem_insertionSort, List.mem_filterMap] at hx
      obtain ⟨t, ht, hx⟩ := hx
      obtain ⟨y, hy, rfl⟩ := List.mem_map.1 (List.mem_dedup.1 ht)
      rw [parseIP_string] at hx
      exact Option.some.inj hx ▸ hy
    dsimp only at h
    split at h
    · rw [← Except.ok.inj h] at hl
      rw [← Except.ok.inj hl] at ha
      exact absurd ha List.not_mem_nil
    · next x xs hsort =>
      rw [hsort, List.forall_mem_cons] at hmem
      rw [← Except.ok.inj h] at hl
      exact mem_of_parse_mergeLoop (S := {x | x ∈ ips}) (.single hmem.1) hmem.2 hl a ha

end Spiderpool
