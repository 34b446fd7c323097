/-
# Finding available addresses

`FindAvailableIPs` walks the ranges of a pool byte by byte, where
`AssembleTotalIPs` counts through `big.Int` (`Spiderpool.IP.Range`), and it checks
neither the version nor the form of a range: a range whose ends are not addresses,
or stand in the wrong order, is passed over.
-/

import Spiderpool.IP.RangeAddrs

namespace Spiderpool

/-- The inner loop of `FindAvailableIPs`, at most `fuel` turns of it: from `ip` up
to `stop`, with `count` addresses still to find. -/
def findLoop (used : List Addr) (stop : Addr) : ℕ → Addr → ℕ → List Addr
  | 0, _, _ => []
  | fuel + 1, ip, count =>
    if ip = stop ∨ count = 0 then []
    else if ip ∈ used then findLoop used stop fuel (ip + 1) count
    else ip :: findLoop used stop fuel (ip + 1) (count - 1)

/-- The addresses `FindAvailableIPs` takes from one range. `nextIP` wraps around
at the last address, so that the range of all addresses stops before its first. -/
def findInRange (used : List Addr) (ipRange : String) (count : ℕ) : List Addr :=
  match rangeEnds ipRange with
  | (some s, some e) => if e < s then [] else findLoop used (e + 1) (e.val - s.val + 1) s count
  | _ => []

def findAvailableIPs : List String → List Addr → ℕ → List Addr
  | [], _, _ => []
  | r :: rs, ipList, count =>
    if count = 0 then []
    else
      let found := findInRange ipList r count
      found ++ findAvailableIPs rs ipList (count - found.length)

section

variable {used : List Addr} {count : ℕ} {a : Addr} {rs : List String}

theorem mem_findLoop {stop : Addr} {fuel : ℕ} {ip : Addr}
    (hfit : ip.val + fuel ≤ 2 ^ 128) (h : a ∈ findLoop used stop fuel ip count) :
    ip ≤ a ∧ a.val < ip.val + fuel ∧ a ∉ used := by
  induction fuel generalizing ip count with
  | zero => simp [findLoop] at h
  | succ fuel ih =>
    have hnext : fuel ≠ 0 → (ip + 1).val = ip.val + 1 := by
      intro hf
      rw [Fin.val_add_one_of_lt']
      omega
    have hrest : ∀ {count}, a ∈ findLoop used stop fuel (ip + 1) count →
        ip ≤ a ∧ a.val < ip.val + (fuel + 1) ∧ a ∉ used := by
      intro count hmem
      rcases Nat.eq_zero_or_pos fuel with rfl | hpos
      · simp [findLoop] at hmem
      · have hv := hnext hpos.ne'
        obtain ⟨h1, h2, h3⟩ := ih (by omega) hmem
        refine ⟨?_, by omega, h3⟩
        have : (ip + 1).val ≤ a.val := h1
        exact Fin.le_def.2 (by omega)
    rw [findLoop] at h
    split_ifs at h with hstop hused
    · simp at h
    · exact hrest h
    · rcases List.mem_cons.1 h with rfl | h
      · exact ⟨le_rfl, by omega, hused⟩
      · exact hrest h

theorem mem_findInRange {r : String} (h : a ∈ findInRange used r count) :
    a ∉ used ∧ ∃ x y, rangeEnds r = (some x, some y) ∧ x ≤ a ∧ a ≤ y := by
  unfold findInRange at h
  split at h
  · rename_i x y hr
    split_ifs at h with hlt
    · simp at h
    · have hle : x.val ≤ y.val := not_lt.1 hlt
      have hy := y.isLt
      obtain ⟨h1, h2, h3⟩ := mem_findLoop (by omega) h
      exact ⟨h3, x, y, hr, h1, Fin.le_def.2 (by omega)⟩
  · simp at h

theorem mem_findAvailableIPs (h : a ∈ findAvailableIPs rs used count) :
    a ∉ used ∧ ∃ r ∈ rs, ∃ x y, rangeEnds r = (some x, some y) ∧ x ≤ a ∧ a ≤ y := by
  induction rs generalizing count with
  | nil => simp [findAvailableIPs] at h
  | cons r rs ih =>
    rw [findAvailableIPs] at h
    split_ifs at h
    · simp at h
    · rcases List.mem_append.1 h with h | h
      · obtain ⟨hu, hends⟩ := mem_findInRange h
        exact ⟨hu, r, List.mem_cons_self, hends⟩
      · obtain ⟨hu, r', hr', hends⟩ := ih h
        exact ⟨hu, r', List.mem_cons_of_mem _ hr', hends⟩

theorem mem_parseIPRanges_of_find {v : IPVersion} {l : List Addr} (h : parseIPRanges v rs = .ok l)
    (hlow : ∀ r ∈ rs, LowRangeSingle r) (ha : a ∈ findAvailableIPs rs used count) : a ∈ l := by
  obtain ⟨-, r, hr, x, y, hends, hxa, hay⟩ := mem_findAvailableIPs ha
  obtain ⟨l', hl', hsub⟩ := mem_parseIPRanges h hr
  exact hsub (mem_of_parseIPRange hl' (hlow r hr) hends hxa hay)

end

end Spiderpool
