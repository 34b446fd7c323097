/-
# The names of objects in an annotation

Kubernetes names a namespace by a label and a SpiderMultusConfig by a subdomain, which is a list of
labels between dots. A list of `<namespace>/<name>` between commas is read back as it was written if each
name is a label, and only then (`parse_annotationOf_iff`).
-/

import Spiderpool.IP.SubnetAddrs
import Spiderpool.Multus.Networks

namespace Spiderpool
namespace Multus

open Coordinator (trimSpace isSpace)

def IsDNS1123Label (s : String) : Prop := matchesLabel s = true ∧ s.length ≤ 63

def IsDNS1123Subdomain (s : String) : Prop :=
  (∀ part ∈ split s '.', matchesLabel part = true) ∧ s.length ≤ 253

instance (s : String) : Decidable (IsDNS1123Label s) := inferInstanceAs (Decidable (_ ∧ _))

instance (s : String) : Decidable (IsDNS1123Subdomain s) := inferInstanceAs (Decidable (_ ∧ _))

/-! ### Characters -/

def isNameChar (c : Char) : Bool := isLabelChar c || c = '.'

def Plain (s : String) : Prop := ∀ c ∈ s.toList, isNameChar c = true

section

variable {c : Char} {s : String}

theorem isNameChar_toNat (h : isNameChar c = true) : 45 ≤ c.toNat ∧ c.toNat ≤ 122 := by
  simp only [isNameChar, isLabelChar, isLowerAlnum, Bool.or_eq_true, Bool.and_eq_true,
    decide_eq_true_eq, Char.le_def, UInt32.le_iff_toNat_le] at h
  rcases h with ((⟨h₁, h₂⟩ | ⟨h₁, h₂⟩) | rfl) | rfl
  · exact ⟨le_trans (by decide) h₁, h₂⟩
  · exact ⟨le_trans (by decide) h₁, le_trans h₂ (by decide)⟩
  · decide
  · decide

theorem isSpace_of_isNameChar (h : isNameChar c = true) : isSpace c = false := by
  have hc := isNameChar_toNat h
  simp only [isSpace, Bool.or_eq_false_iff, Bool.and_eq_false_iff, decide_eq_false_iff_not,
    List.mem_cons, List.not_mem_nil, or_false]
  omega

theorem Plain.notMem (h : Plain s) (hc : isNameChar c = false) : c ∉ s.toList := by
  intro hmem
  rw [h c hmem] at hc
  cases hc

theorem trimSpace_of_forall (h : ∀ c ∈ s.toList, isSpace c = false) : trimSpace s = s := by
  have hdrop : ∀ l : List Char, (∀ c ∈ l, isSpace c = false) → l.dropWhile isSpace = l := by
    intro l hl
    cases l with
    | nil => rfl
    | cons c l => exact List.dropWhile_cons_of_neg (by simp [hl c])
  unfold trimSpace
  rw [hdrop _ h, hdrop _ fun c hc => h c (List.mem_reverse.1 hc), List.reverse_reverse,
    String.ofList_toList]

theorem Plain.trimSpace (h : Plain s) : trimSpace s = s :=
  trimSpace_of_forall fun c hc => isSpace_of_isNameChar (h c hc)

/-! ### Labels and subdomains -/

theorem isNameChar_of_matchesLabel (h : matchesLabel s = true) : Plain s := by
  simp only [matchesLabel, Bool.and_eq_true, List.all_eq_true] at h
  exact fun c hc => by simp [isNameChar, h.1.1 c hc]

theorem ne_empty_of_matchesLabel (h : matchesLabel s = true) : s ≠ "" := by
  rintro rfl
  exact absurd h (by decide)

theorem IsDNS1123Label.plain (h : IsDNS1123Label s) : Plain s :=
  isNameChar_of_matchesLabel h.1

theorem mem_intercalate {sep : Char} {parts : List (List Char)}
    (h : c ∈ [sep].intercalate parts) : c = sep ∨ ∃ part ∈ parts, c ∈ part := by
  induction parts with
  | nil => simp at h
  | cons part parts ih =>
    cases parts with
    | nil => exact .inr ⟨part, by simp, by simpa using h⟩
    | cons next parts =>
      rw [List.intercalate_cons_cons, List.append_assoc, List.mem_append, List.singleton_append,
        List.mem_cons] at h
      rcases h with h | h | h
      · exact .inr ⟨part, List.mem_cons_self, h⟩
      · exact .inl h
      · exact (ih h).imp_right fun ⟨p, hp, hc⟩ => ⟨p, List.mem_cons_of_mem _ hp, hc⟩

theorem IsDNS1123Subdomain.plain (h : IsDNS1123Subdomain s) : Plain s := by
  intro c hc
  rw [← show ['.'].intercalate (s.toList.splitOn '.') = s.toList from List.intercalate_splitOn '.'] at hc
  rcases mem_intercalate hc with rfl | ⟨part, hpart, hmem⟩
  · rfl
  · refine isNameChar_of_matchesLabel (h.1 (String.ofList part) ?_) c (by simpa using hmem)
    exact List.mem_map.2 ⟨part, hpart, rfl⟩

theorem IsDNS1123Subdomain.ne_empty (h : IsDNS1123Subdomain s) : s ≠ "" := by
  rintro rfl
  exact absurd h (by decide)

theorem IsDNS1123Subdomain.matchesLabel_iff (h : IsDNS1123Subdomain s) :
    matchesLabel s = true ↔ '.' ∉ s.toList := by
  constructor
  · intro hlabel hdot
    simp only [matchesLabel, Bool.and_eq_true, List.all_eq_true] at hlabel
    exact absurd (hlabel.1.1 '.' hdot) (by decide)
  · intro hdot
    exact h.1 s (by rw [split_of_notMem hdot]; simp)

end

/-! ### Reading a name -/

variable {ns name : String}

theorem parsePodNetworkObjectName_eq (hns : Plain ns) (hname : Plain name) :
    parsePodNetworkObjectName (ns ++ "/" ++ name) = (do
      checkItem ns
      checkItem name
      return (ns, name, "")) := by
  have hslash : slashItems (ns ++ "/" ++ name) = .ok (ns, name) := by
    unfold slashItems
    rw [show ns ++ "/" ++ name = ns ++ String.ofList ['/'] ++ name from rfl,
      split_append (hns.notMem rfl) (hname.notMem rfl)]
    simp only [hns.trimSpace]
  have hat : atItems name = .ok (name, "") := by
    unfold atItems
    rw [split_of_notMem (hname.notMem rfl)]
    simp only [hname.trimSpace]
  unfold parsePodNetworkObjectName
  rw [hslash]
  simp only [bind, Except.bind, hat]
  rfl

theorem trimSpace_item (hns : Plain ns) (hname : Plain name) :
    trimSpace (ns ++ "/" ++ name) = ns ++ "/" ++ name := by
  refine trimSpace_of_forall fun c hc => ?_
  simp only [String.toList_append, List.mem_append] at hc
  rcases hc with (hc | hc) | hc
  · exact isSpace_of_isNameChar (hns c hc)
  · obtain rfl : c = '/' := by simpa using hc
    decide
  · exact isSpace_of_isNameChar (hname c hc)

theorem checkItem_of_matchesLabel {s : String} (h : matchesLabel s = true) : checkItem s = .ok () :=
  failIf_eq_ok.2 fun hbad => by simp [h] at hbad

theorem readItem_name (hns : matchesLabel ns = true) (hname : matchesLabel name = true) :
    readItem (ns ++ "/" ++ name) = .ok (some { name := name, ns := ns }) := by
  have hp := isNameChar_of_matchesLabel hns
  have hq := isNameChar_of_matchesLabel hname
  unfold readItem
  rw [trimSpace_item hp hq, parsePodNetworkObjectName_eq hp hq, checkItem_of_matchesLabel hns,
    checkItem_of_matchesLabel hname]
  rfl

theorem readItem_name_dot (hns : matchesLabel ns = true) (hname : Plain name) (hne : name ≠ "")
    (hlabel : matchesLabel name = false) (r : Option NetworkSelectionElement) :
    readItem (ns ++ "/" ++ name) ≠ .ok r := by
  have hp := isNameChar_of_matchesLabel hns
  unfold readItem
  rw [trimSpace_item hp hname, parsePodNetworkObjectName_eq hp hname, checkItem_of_matchesLabel hns]
  intro h
  obtain ⟨_, h, -⟩ := bind_eq_ok.1 h
  have h := mapErr_eq_ok.1 h
  exact failIf_eq_ok.1 (seq_eq_ok.1 (seq_eq_ok.1 h).2).1 ⟨hlabel, hne⟩

/-! ### Reading a list of names -/

def itemOf (n : String × String) : String := n.1 ++ "/" ++ n.2

def annotationOf (names : List (String × String)) : String := ",".intercalate (names.map itemOf)

variable {env : AnnotationEnv} {names : List (String × String)} {defaultNamespace : String}

theorem itemOf_chars (h : ∀ n ∈ names, Plain n.1 ∧ Plain n.2) :
    ∀ item ∈ names.map itemOf, ∀ c ∈ item.toList, isNameChar c = true ∨ c = '/' := by
  intro item hitem c hc
  obtain ⟨n, hn, rfl⟩ := List.mem_map.1 hitem
  simp only [itemOf, String.toList_append, List.mem_append] at hc
  rcases hc with (hc | hc) | hc
  · exact .inl ((h n hn).1 c hc)
  · exact .inr (by simpa using hc)
  · exact .inl ((h n hn).2 c hc)

theorem split_annotationOf (hne : names ≠ []) (h : ∀ n ∈ names, Plain n.1 ∧ Plain n.2) :
    split (annotationOf names) ',' = names.map itemOf := by
  have htext : (annotationOf names).toList = [','].intercalate ((names.map itemOf).map String.toList) := by
    rw [annotationOf, String.toList_intercalate]
    rfl
  rw [split, htext, List.splitOn_intercalate]
  · simp [Function.comp_def]
  · intro l hl hcomma
    obtain ⟨item, hitem, rfl⟩ := List.mem_map.1 hl
    rcases itemOf_chars h item hitem _ hcomma with hc | hc <;> exact absurd hc (by decide)
  · simpa using hne

theorem annotationOf_ne_empty (hne : names ≠ []) : annotationOf names ≠ "" := by
  obtain ⟨n, names, rfl⟩ := List.exists_cons_of_ne_nil hne
  intro h
  have hlist := congrArg String.toList h
  rw [annotationOf, List.map_cons, String.toList_intercalate, List.map_cons] at hlist
  cases names with
  | nil => simp [itemOf] at hlist
  | cons m names => simp [itemOf, List.intercalate_cons_cons] at hlist

theorem readNetworks_annotationOf (env : AnnotationEnv) (defaultNamespace : String)
    (hne : names ≠ []) (h : ∀ n ∈ names, Plain n.1 ∧ Plain n.2) :
    readNetworks env (annotationOf names) defaultNamespace = (names.map itemOf).mapM readItem := by
  have hchars : ∀ c ∈ (annotationOf names).toList, isNameChar c = true ∨ c = '/' ∨ c = ',' := by
    intro c hc
    rw [annotationOf, String.toList_intercalate] at hc
    rcases mem_intercalate hc with rfl | ⟨part, hpart, hmem⟩
    · exact .inr (.inr rfl)
    · obtain ⟨item, hitem, rfl⟩ := List.mem_map.1 hpart
      exact (itemOf_chars h item hitem c hmem).imp_right .inl
  have htrim : trimSpace (annotationOf names) = annotationOf names := by
    refine trimSpace_of_forall fun c hc => ?_
    rcases hchars c hc with hc | rfl | rfl
    · exact isSpace_of_isNameChar hc
    · decide
    · decide
  have hplain : ¬(annotationOf names).toList.any opensJson = true := by
    rw [List.any_eq_true]
    rintro ⟨c, hc, hopens⟩
    simp only [opensJson, Bool.or_eq_true, decide_eq_true_eq] at hopens
    rcases hopens with (rfl | rfl) | rfl <;> exact absurd (hchars _ hc) (by decide)
  unfold readNetworks
  rw [if_neg (annotationOf_ne_empty hne), htrim, if_neg hplain, split_annotationOf hne h]

/-- **A list of names is read back exactly if each name is a label.** -/
theorem parse_annotationOf_iff (hne : names ≠ []) (hns : ∀ n ∈ names, IsDNS1123Label n.1)
    (hname : ∀ n ∈ names, IsDNS1123Subdomain n.2) :
    (∃ networks, parsePodNetworkAnnotation env (annotationOf names) defaultNamespace = .ok networks ∧
      networks.map (fun n => (n.ns, n.name)) = names) ↔ ∀ n ∈ names, '.' ∉ n.2.toList := by
  have hplain : ∀ n ∈ names, Plain n.1 ∧ Plain n.2 := fun n hn => ⟨(hns n hn).plain, (hname n hn).plain⟩
  have hread := readNetworks_annotationOf env defaultNamespace hne hplain
  constructor
  · rintro ⟨networks, hparse, -⟩ n hn
    rw [← (hname n hn).matchesLabel_iff]
    by_contra hlabel
    obtain ⟨elements, helements, -⟩ := parsePodNetworkAnnotation_eq_ok.1 hparse
    rw [hread, mapM_eq_ok, List.forall₂_map_left_iff] at helements
    obtain ⟨r, -, hr⟩ := exists_right_of_forall₂ helements hn
    exact readItem_name_dot (hns n hn).1 (hname n hn).plain (hname n hn).ne_empty (by simpa using hlabel) r hr
  · intro hdot
    let elements : List NetworkSelectionElement := names.map fun n => { name := n.2, ns := n.1 }
    refine ⟨elements, parsePodNetworkAnnotation_eq_ok.2 ⟨elements, ?_, ?_, ?_⟩, ?_⟩
    · rw [hread, mapM_eq_ok]
      simp only [elements, List.map_map, List.forall₂_map_left_iff, List.forall₂_map_right_iff,
        List.forall₂_same]
      exact fun n hn => readItem_name (hns n hn).1 ((hname n hn).matchesLabel_iff.2 (hdot n hn))
    · intro e he
      obtain ⟨n, -, rfl⟩ := List.mem_map.1 he
      rfl
    · simp only [elements, List.map_map]
      refine List.map_congr_left fun n hn => ?_
      exact (if_neg (ne_empty_of_matchesLabel (hns n hn).1)).symm
    · simp [elements, Function.comp_def]

end Multus
end Spiderpool
