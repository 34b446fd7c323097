/-
# Reading back the groups of an IPv6 address

A text is groups joined by colons, with a `::` at one place or at none.
`parseGroups_join` reads such groups up to the end of the text and
`parseGroups_ellipsis` up to the `::`; `zeroRun_spec` says that what the `::`
stands for is zero groups. Together they give `parseIPv6_text6`.
-/

import Spiderpool.IP.Text

namespace Spiderpool
namespace Text

theorem hexVal_digit {d : ℕ} (hd : d < 16) : hexVal (digit d) = some d := by
  interval_cases d <;> decide

theorem decVal_digit {d : ℕ} (hd : d < 10) : decVal (digit d) = some d := by
  interval_cases d <;> decide

theorem digit_ne {d : ℕ} (hd : d < 16) :
    digit d ≠ '.' ∧ digit d ≠ ':' ∧ digit d ≠ '%' ∧ digit d ≠ '-' ∧ digit d ≠ '/' := by
  interval_cases d <;> decide

/-- The text `t` does not go on with a hexadecimal digit. -/
def EndsGroup (t : List Char) : Prop := ∀ c, t.head? = some c → hexVal c = none

theorem endsGroup_nil : EndsGroup [] := by simp [EndsGroup]

theorem endsGroup_colon (t : List Char) : EndsGroup (':' :: t) := by
  intro c hc
  obtain rfl := Option.some.inj hc
  decide

section

variable {t : List Char} {d x g n : ℕ} {gs : List ℕ}

theorem scanHex_of_endsGroup (ht : EndsGroup t) (acc off : ℕ) :
    scanHex t acc off = (acc, off, t) := by
  cases t with
  | nil => rfl
  | cons c t => simp [scanHex, ht c rfl]

theorem scanHex_digit (hd : d < 16) (s : List Char) (acc off : ℕ) :
    scanHex (digit d :: s) acc off = scanHex s (acc * 16 + d) (off + 1) := by
  simp [scanHex, hexVal_digit hd]

theorem scanHex_appendHex (hx : x < 65536) (ht : EndsGroup t) :
    ∃ off, 1 ≤ off ∧ off ≤ 4 ∧ scanHex (appendHex x ++ t) 0 0 = (x, off, t) := by
  have h0 : x % 16 < 16 := Nat.mod_lt _ (by norm_num)
  have h1 : x / 0x10 % 16 < 16 := Nat.mod_lt _ (by norm_num)
  have h2 : x / 0x100 % 16 < 16 := Nat.mod_lt _ (by norm_num)
  have h3 : x / 0x1000 < 16 := by omega
  unfold appendHex
  split_ifs <;>
    simp only [List.nil_append, List.cons_append, scanHex_digit, h0, h1, h2, h3,
      scanHex_of_endsGroup ht, Prod.mk.injEq, and_true] <;>
    exact ⟨_, by omega, by omega, by omega, rfl⟩

theorem exists_appendHex_eq (hx : x < 65536) : ∃ d < 16, ∃ t, appendHex x = digit d :: t := by
  unfold appendHex
  split_ifs <;> exact ⟨_, by omega, _, rfl⟩

theorem exists_join_eq (hg : g < 65536) (gs : List ℕ) :
    ∃ d < 16, ∃ t, joinWith ':' ((g :: gs).map appendHex) = digit d :: t := by
  obtain ⟨d, hd, t, ht⟩ := exists_appendHex_eq hg
  cases gs with
  | nil => exact ⟨d, hd, t, ht⟩
  | cons g' gs =>
    exact ⟨d, hd, t ++ ':' :: joinWith ':' ((g' :: gs).map appendHex), by simp [joinWith, ht]⟩

theorem parseGroups_last (hg : g < 65536) (n : ℕ) (acc : List ℕ) (e : Option ℕ) :
    parseGroups (n + 1) (appendHex g) acc e = some (acc ++ [g], e, []) := by
  obtain ⟨off, h1, h4, hs⟩ := scanHex_appendHex hg endsGroup_nil
  rw [List.append_nil] at hs
  have hoff : ¬(off = 0 ∨ 4 < off) := by omega
  simp [parseGroups, hs, hoff]

theorem parseGroups_next (hg : g < 65536) (hd : d < 16) (t : List Char) (n : ℕ)
    (acc : List ℕ) (e : Option ℕ) :
    parseGroups (n + 1) (appendHex g ++ ':' :: digit d :: t) acc e =
      parseGroups n (digit d :: t) (acc ++ [g]) e := by
  obtain ⟨off, h1, h4, hs⟩ := scanHex_appendHex hg (endsGroup_colon (digit d :: t))
  have hoff : ¬(off = 0 ∨ 4 < off) := by omega
  simp [parseGroups, hs, hoff, (digit_ne hd).2.1]

theorem parseGroups_colons (hg : g < 65536) (t : List Char) (n : ℕ) (acc : List ℕ) :
    parseGroups (n + 1) (appendHex g ++ ':' :: ':' :: t) acc none =
      if t = [] then some (acc ++ [g], some (acc ++ [g]).length, [])
      else parseGroups n t (acc ++ [g]) (some (acc ++ [g]).length) := by
  obtain ⟨off, h1, h4, hs⟩ := scanHex_appendHex hg (endsGroup_colon (':' :: t))
  have hoff : ¬(off = 0 ∨ 4 < off) := by omega
  simp [parseGroups, hs, hoff]

theorem parseGroups_join (hne : gs ≠ []) (hgs : ∀ g ∈ gs, g < 65536)
    (hn : gs.length ≤ n) (acc : List ℕ) (e : Option ℕ) :
    parseGroups n (joinWith ':' (gs.map appendHex)) acc e = some (acc ++ gs, e, []) := by
  induction gs generalizing n acc with
  | nil => exact absurd rfl hne
  | cons g gs ih =>
    rw [List.forall_mem_cons] at hgs
    obtain ⟨n, rfl⟩ : ∃ m, n = m + 1 := ⟨n - 1, by simp at hn; omega⟩
    cases gs with
    | nil => exact parseGroups_last hgs.1 n acc e
    | cons g' gs =>
      obtain ⟨d, hd, t, ht⟩ := exists_join_eq (List.forall_mem_cons.1 hgs.2).1 gs
      have hj : joinWith ':' ((g :: g' :: gs).map appendHex) =
          appendHex g ++ ':' :: digit d :: t := by
        rw [← ht]
        rfl
      rw [hj, parseGroups_next hgs.1 hd, ← ht, ih (by simp) hgs.2 (by simpa using hn)]
      simp

theorem parseGroups_ellipsis (hne : gs ≠ []) (hgs : ∀ g ∈ gs, g < 65536)
    (hn : gs.length ≤ n) (acc : List ℕ) (t : List Char) :
    parseGroups n (joinWith ':' (gs.map appendHex) ++ ':' :: ':' :: t) acc none =
      if t = [] then some (acc ++ gs, some (acc ++ gs).length, [])
      else parseGroups (n - gs.length) t (acc ++ gs) (some (acc ++ gs).length) := by
  induction gs generalizing n acc with
  | nil => exact absurd rfl hne
  | cons g gs ih =>
    rw [List.forall_mem_cons] at hgs
    obtain ⟨n, rfl⟩ : ∃ m, n = m + 1 := ⟨n - 1, by simp at hn; omega⟩
    cases gs with
    | nil => exact parseGroups_colons hgs.1 t n acc
    | cons g' gs =>
      obtain ⟨d, hd, u, hu⟩ := exists_join_eq (List.forall_mem_cons.1 hgs.2).1 gs
      have hj : joinWith ':' ((g :: g' :: gs).map appendHex) ++ ':' :: ':' :: t =
          appendHex g ++ ':' :: digit d :: (u ++ ':' :: ':' :: t) := by
        rw [← List.cons_append, ← hu]
        simp [joinWith]
      rw [hj, parseGroups_next hgs.1 hd, ← List.cons_append, ← hu,
        ih (by simp) hgs.2 (by simpa using hn)]
      simp

end

/-! ### The run of zeros -/

theorem zeros_le (gs : List ℕ) : zeros gs ≤ gs.length := by
  induction gs with
  | nil => simp [zeros]
  | cons g gs ih => cases g <;> simp [zeros, ih]

theorem take_zeros (gs : List ℕ) : gs.take (zeros gs) = List.replicate (zeros gs) 0 := by
  induction gs with
  | nil => rfl
  | cons g gs ih =>
    cases g with
    | zero => simp [zeros, ih, List.replicate_succ]
    | succ g => rfl

/-- The groups `gs` hold `l` zeros from place `i` on. -/
def ZerosAt (gs : List ℕ) (p : ℕ × ℕ) : Prop :=
  p.1 + p.2 ≤ gs.length ∧ gs = gs.take p.1 ++ List.replicate p.2 0 ++ gs.drop (p.1 + p.2)

theorem zerosAt_zeros (pre gs : List ℕ) : ZerosAt (pre ++ gs) (pre.length, zeros gs) := by
  refine ⟨by simpa using zeros_le gs, ?_⟩
  have h : (pre ++ gs).drop (pre.length + zeros gs) = gs.drop (zeros gs) := by
    rw [List.drop_append, List.drop_of_length_le (by omega), List.nil_append, Nat.add_sub_cancel_left]
  rw [h, List.take_left', ← take_zeros, List.append_assoc, List.take_append_drop]
  rfl

theorem zerosAt_zeroRun (pre gs : List ℕ) {best : ℕ × ℕ} (h : ZerosAt (pre ++ gs) best) :
    ZerosAt (pre ++ gs) (zeroRun gs pre.length best) := by
  induction gs generalizing pre best with
  | nil => exact h
  | cons g gs ih =>
    have hpre : pre ++ g :: gs = (pre ++ [g]) ++ gs := by simp
    have hlen : pre.length + 1 = (pre ++ [g]).length := by simp
    rw [zeroRun, hpre, hlen]
    refine ih (pre ++ [g]) ?_
    rw [← hpre]
    split_ifs
    · exact zerosAt_zeros pre (g :: gs)
    · exact h

theorem zeroRun_spec (gs : List ℕ) : ZerosAt gs (zeroRun gs 0 (0, 0)) := by
  have h : ZerosAt ([] ++ gs) (0, 0) := ⟨by simp, by simp⟩
  exact zerosAt_zeroRun [] gs h

/-! ### The characters of a text -/

section

variable {x : ℕ} {c sep : Char} {gs pre post : List ℕ}

theorem mem_appendHex (hx : x < 65536) (hc : c ∈ appendHex x) : ∃ d < 16, c = digit d := by
  unfold appendHex at hc
  split_ifs at hc <;> simp only [List.nil_append, List.cons_append, List.mem_cons,
    List.not_mem_nil, or_false] at hc <;>
    rcases hc with rfl | rfl | rfl | rfl <;> exact ⟨_, by omega, rfl⟩

theorem mem_appendDecimal (hx : x < 256) (hc : c ∈ appendDecimal x) : ∃ d < 16, c = digit d := by
  unfold appendDecimal at hc
  split_ifs at hc <;> simp only [List.nil_append, List.cons_append, List.mem_cons,
    List.not_mem_nil, or_false] at hc <;>
    rcases hc with rfl | rfl | rfl <;> exact ⟨_, by omega, rfl⟩

theorem sep_mem_joinWith (sep : Char) (t t' : List Char) (ts : List (List Char)) :
    sep ∈ joinWith sep (t :: t' :: ts) := by
  rw [joinWith]
  · simp
  · simp

theorem mem_joinWith {ts : List (List Char)} (hc : c ∈ joinWith sep ts) :
    c = sep ∨ ∃ t ∈ ts, c ∈ t := by
  induction ts with
  | nil => simp [joinWith] at hc
  | cons t ts ih =>
    cases ts with
    | nil => exact .inr ⟨t, by simp, hc⟩
    | cons t' ts =>
      rw [joinWith, List.mem_append, List.mem_cons] at hc
      · rcases hc with hc | rfl | hc
        · exact .inr ⟨t, by simp, hc⟩
        · exact .inl rfl
        · exact (ih hc).imp id fun ⟨u, hu, h⟩ => ⟨u, List.mem_cons_of_mem _ hu, h⟩
      · simp

theorem mem_text6 (hgs : ∀ g ∈ gs, g < 65536) (hc : c ∈ text6 gs) :
    c = ':' ∨ ∃ d < 16, c = digit d := by
  have hjoin : ∀ gs' : List ℕ, (∀ g ∈ gs', g ∈ gs) → c ∈ joinWith ':' (gs'.map appendHex) →
      c = ':' ∨ ∃ d < 16, c = digit d := by
    intro gs' hsub h
    rcases mem_joinWith h with rfl | ⟨t, ht, hct⟩
    · exact .inl rfl
    · obtain ⟨g, hg, rfl⟩ := List.mem_map.1 ht
      exact .inr (mem_appendHex (hgs g (hsub g hg)) hct)
  unfold text6 at hc
  split at hc
  · exact hjoin gs (fun _ h => h) hc
  · rw [List.mem_append, List.mem_cons, List.mem_cons] at hc
    rcases hc with hc | rfl | rfl | hc
    · exact hjoin _ (fun _ h => List.mem_of_mem_take h) hc
    · exact .inl rfl
    · exact .inl rfl
    · exact hjoin _ (fun _ h => List.mem_of_mem_drop h) hc

theorem find_sep {s : List Char} (hsep : sep = '.' ∨ sep = ':' ∨ sep = '%')
    (hs : ∀ c ∈ s, c = sep ∨ ∃ d < 16, c = digit d) (hmem : sep ∈ s) :
    s.find? (fun c => c = '.' ∨ c = ':' ∨ c = '%') = some sep := by
  cases h : s.find? (fun c => c = '.' ∨ c = ':' ∨ c = '%') with
  | none => simpa [hsep] using List.find?_eq_none.1 h sep hmem
  | some c =>
    have hp := List.find?_some h
    rcases hs c (List.mem_of_find?_eq_some h) with rfl | ⟨d, hd, rfl⟩
    · rfl
    · have := digit_ne hd
      simp [this] at hp

/-! ### IPv6 -/

theorem join_eq_nil (hgs : ∀ g ∈ gs, g < 65536) :
    joinWith ':' (gs.map appendHex) = [] ↔ gs = [] := by
  cases gs with
  | nil => simp [joinWith]
  | cons g gs =>
    obtain ⟨d, -, t, ht⟩ := exists_join_eq (hgs g (by simp)) gs
    rw [ht]
    simp

theorem expand_around {l : ℕ} (hl : pre.length + (l + 1) + post.length = 8) :
    expand (pre ++ post) (some pre.length) = some (pre ++ List.replicate (l + 1) 0 ++ post) := by
  have h8 : pre.length + post.length < 8 := by omega
  have hz : 8 - (pre.length + post.length) = l + 1 := by omega
  simp [expand, h8, hz]

theorem parseBody_digit {d : ℕ} (hd : d < 16) (t : List Char) :
    parseBody (digit d :: t) = parseGroups 8 (digit d :: t) [] none := by
  have : digit d ≠ ':' := (digit_ne hd).2.1
  simp [parseBody, this]

theorem parseBody_join (h8 : gs.length = 8) (hgs : ∀ g ∈ gs, g < 65536) :
    parseBody (joinWith ':' (gs.map appendHex)) = some (gs, none, []) := by
  obtain ⟨g, gs, rfl⟩ := List.exists_cons_of_length_eq_add_one h8
  obtain ⟨d, hd, t, ht⟩ := exists_join_eq (hgs g (by simp)) gs
  rw [ht, parseBody_digit hd, ← ht]
  simpa using parseGroups_join (by simp) hgs h8.le [] none

theorem parseBody_around (hpre : ∀ g ∈ pre, g < 65536)
    (hpost : ∀ g ∈ post, g < 65536) (h8 : pre.length + post.length < 8) :
    parseBody (joinWith ':' (pre.map appendHex) ++ ':' :: ':' ::
      joinWith ':' (post.map appendHex)) = some (pre ++ post, some pre.length, []) := by
  cases pre with
  | nil =>
    by_cases hp : post = []
    · subst hp
      rfl
    · have hj := mt (join_eq_nil hpost).1 hp
      simp only [List.length_nil, Nat.zero_add] at h8
      simpa [parseBody, joinWith, hj] using parseGroups_join hp hpost h8.le [] (some 0)
  | cons g pre =>
    obtain ⟨d, hd, t, ht⟩ := exists_join_eq (hpre g (by simp)) pre
    have hlen : (g :: pre).length ≤ 8 := by omega
    rw [ht, List.cons_append, parseBody_digit hd, ← List.cons_append, ← ht,
      parseGroups_ellipsis (by simp) hpre hlen]
    by_cases hp : post = []
    · subst hp
      simp [joinWith]
    · rw [if_neg (mt (join_eq_nil hpost).1 hp), parseGroups_join hp hpost (by omega)]
      simp

theorem parseIPv6_text6 (h8 : gs.length = 8) (hgs : ∀ g ∈ gs, g < 65536) :
    parseIPv6 (text6 gs) = some (Addr.ofNat (fromDigits 65536 gs)) := by
  have hpct : '%' ∉ text6 gs := by
    intro h
    rcases mem_text6 hgs h with h | ⟨d, hd, h⟩
    · exact absurd h (by decide)
    · exact (digit_ne hd).2.2.1 h.symm
  obtain ⟨hle, hrun⟩ := zeroRun_spec gs
  have hbody : (parseBody (text6 gs)).bind (fun r => if r.2.2 = [] then expand r.1 r.2.1 else none) =
      some gs := by
    unfold text6
    split
    · rw [parseBody_join h8 hgs]
      simp [expand, h8]
    · rename_i i l hz heq
      rw [heq] at hle hrun
      obtain ⟨l, rfl⟩ : ∃ m, l = m + 1 := ⟨l - 1, by have : l ≠ 0 := fun h => hz h; omega⟩
      have hl : (gs.take i).length + (l + 1) + (gs.drop (i + (l + 1))).length = 8 := by
        simp only [List.length_take, List.length_drop]
        omega
      rw [parseBody_around (fun g hg => hgs g (List.mem_of_mem_take hg))
        (fun g hg => hgs g (List.mem_of_mem_drop hg)) (by omega)]
      simp only [Option.bind_some, if_true]
      rw [expand_around hl, ← hrun]
  rw [parseIPv6, if_neg hpct]
  cases hb : parseBody (text6 gs) with
  | none => simp [hb] at hbody
  | some r =>
    obtain ⟨gs', e, rest⟩ := r
    simp only [hb, Option.bind_some] at hbody ⊢
    split_ifs at hbody ⊢
    rw [hbody, Option.map_some]

theorem colon_mem_text6 (h8 : gs.length = 8) : ':' ∈ text6 gs := by
  unfold text6
  split
  · match gs, h8 with
    | g :: g' :: gs, _ => exact sep_mem_joinWith ':' _ _ _
  · simp

end

end Text
end Spiderpool
