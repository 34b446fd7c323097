/-
# The affinity of an auto-created pool

An auto-created pool is meant for the Pods of one application, which `NewAutoPoolPodAffinity` writes
into its affinity and `IsMatchAutoPoolAffinity` of `pkg/ippoolmanager/utils.go` looks for. Both cut
the API version at its slash. Where there is none, the one that writes takes the whole for the
version, as it is for the core group, and the one that reads takes it for the group.
-/

import Spiderpool.IPAM.Select
import Spiderpool.Subnet.AutoPool

namespace Spiderpool
namespace IPAM

structure SameApp (c c' : PodTopController) : Prop where
  apiVersion : c.apiVersion = c'.apiVersion
  kind : c.kind = c'.kind
  ns : c.ns = c'.ns
  name : c.name = c'.name

def writtenGV (apiVersion : String) : String × String :=
  match cut apiVersion '/' with
  | (first, some second) => (first, second)
  | (first, none) => ("", first)

def soughtGV (apiVersion : String) : String × String :=
  ((cut apiVersion '/').1, (cut apiVersion '/').2.getD "")

theorem lookup_newAutoPoolPodAffinity (c : PodTopController) :
    let labels := (newAutoPoolPodAffinity c).matchLabels
    labels.lookup Constant.autoPoolPodAffinityAppAPIGroup = some (writtenGV c.apiVersion).1 ∧
    labels.lookup Constant.autoPoolPodAffinityAppAPIVersion = some (writtenGV c.apiVersion).2 ∧
    labels.lookup Constant.autoPoolPodAffinityAppKind = some c.kind ∧
    labels.lookup Constant.autoPoolPodAffinityAppNS = some c.ns ∧
    labels.lookup Constant.autoPoolPodAffinityAppName = some c.name := by
  refine ⟨?_, ?_, ?_, ?_, ?_⟩
  all_goals
    simp only [newAutoPoolPodAffinity, writtenGV, List.foldl_cons, List.foldl_nil]
    repeat rw [AList.lookup_insert_ne (by decide)]
    exact AList.lookup_insert _

/-- A pool is matched if the group and the version that it was given are those looked for, with the
same kind, namespace and name. -/
theorem isMatchAutoPoolAffinity_iff (c c' : PodTopController) :
    isMatchAutoPoolAffinity (newAutoPoolPodAffinity c) c' = true ↔
      writtenGV c.apiVersion = soughtGV c'.apiVersion ∧
      c.kind = c'.kind ∧ c.ns = c'.ns ∧ c.name = c'.name := by
  obtain ⟨hgroup, hversion, hkind, hns, hname⟩ := lookup_newAutoPoolPodAffinity c
  simp [isMatchAutoPoolAffinity, hgroup, hversion, hkind, hns, hname, soughtGV, Prod.ext_iff,
    and_assoc]

theorem gv_of_notMem {v : String} (h : '/' ∉ v.toList) :
    writtenGV v = ("", v) ∧ soughtGV v = (v, "") := by
  simp [writtenGV, soughtGV, cut_of_notMem h]

theorem gv_append {g : String} (h : '/' ∉ g.toList) (v : String) :
    writtenGV (g ++ "/" ++ v) = (g, v) ∧ soughtGV (g ++ "/" ++ v) = (g, v) := by
  have hcut : cut (g ++ "/" ++ v) '/' = (g, some v) := cut_append h v
  simp [writtenGV, soughtGV, hcut]

theorem matches_own_iff (c : PodTopController) :
    isMatchAutoPoolAffinity (newAutoPoolPodAffinity c) c = true ↔
      '/' ∈ c.apiVersion.toList ∨ c.apiVersion = "" := by
  rw [isMatchAutoPoolAffinity_iff]
  by_cases hslash : '/' ∈ c.apiVersion.toList
  · obtain ⟨g, v, hgv, hg⟩ := exists_cut hslash
    obtain ⟨hwritten, hsought⟩ := gv_append hg v
    simp only [hslash, true_or, iff_true, and_self, and_true]
    rw [hgv]
    exact hwritten.trans hsought.symm
  · obtain ⟨hwritten, hsought⟩ := gv_of_notMem hslash
    rw [hwritten, hsought]
    constructor
    · rintro ⟨h, -⟩
      exact .inr (Prod.ext_iff.1 h).2
    · rintro (h | h)
      · exact absurd h hslash
      · exact ⟨by rw [h], rfl, rfl, rfl⟩

theorem soughtGV_eq_iff {g v w : String} (hg : '/' ∉ g.toList) (hv : v ≠ "") :
    soughtGV w = (g, v) ↔ w = g ++ "/" ++ v := by
  constructor
  · intro h
    by_cases hslash : '/' ∈ w.toList
    · obtain ⟨g', v', rfl, hg'⟩ := exists_cut hslash
      have hsought : soughtGV (g' ++ "/" ++ v') = (g', v') := (gv_append hg' v').2
      obtain ⟨rfl, rfl⟩ := Prod.ext_iff.1 (hsought.symm.trans h)
      rfl
    · rw [(gv_of_notMem hslash).2] at h
      exact absurd (Prod.ext_iff.1 h).2.symm hv
  · rintro rfl
    exact (gv_append hg v).2

/-- **An auto-created pool is matched by its own application and by no other** exactly if the API
version of the application has a group and a version, with a slash between them. -/
theorem matches_itself_alone_iff (c : PodTopController) :
    (∀ c', isMatchAutoPoolAffinity (newAutoPoolPodAffinity c) c' = true ↔ SameApp c c') ↔
      ∃ group version, c.apiVersion = group ++ "/" ++ version ∧ '/' ∉ group.toList ∧
        version ≠ "" := by
  constructor
  · intro h
    obtain ⟨apiVersion, kind, ns, name, uid, app⟩ := c
    have hown := (matches_own_iff _).1 ((h _).2 ⟨rfl, rfl, rfl, rfl⟩)
    have hother := fun v => h ⟨v, kind, ns, name, uid, app⟩
    simp only [isMatchAutoPoolAffinity_iff, and_true] at hother
    rcases hown with hslash | rfl
    · obtain ⟨g, v, rfl, hg⟩ := exists_cut hslash
      refine ⟨g, v, rfl, hg, ?_⟩
      rintro rfl
      -- the group alone is taken for the same group without a version
      have hsame : SameApp _ _ := (hother g).1 ((gv_append hg "").1.trans (gv_of_notMem hg).2.symm)
      have heq : g ++ String.ofList ['/'] ++ "" = g := hsame.apiVersion
      rw [heq] at hslash
      exact hg hslash
    · -- the empty API version is taken for a slash alone
      have hsame : SameApp _ _ := (hother "/").1 rfl
      have heq : "" = "/" := hsame.apiVersion
      exact absurd heq (by decide)
  · rintro ⟨g, v, hgv, hg, hv⟩ c'
    have hwritten : writtenGV c.apiVersion = (g, v) := hgv ▸ (gv_append hg v).1
    rw [isMatchAutoPoolAffinity_iff, hwritten, eq_comm, soughtGV_eq_iff hg hv]
    constructor
    · rintro ⟨hversion, hkind, hns, hname⟩
      exact ⟨hgv.trans hversion.symm, hkind, hns, hname⟩
    · intro hsame
      exact ⟨hsame.apiVersion ▸ hgv, hsame.kind, hsame.ns, hsame.name⟩

end IPAM

namespace Sample

open IPAM

def coreApp : PodTopController where
  apiVersion := "v1"
  kind := "ReplicationController"
  ns := "default"
  name := "web"
  uid := "u1"

/-- It does not match the pool made for it. -/
theorem coreApp_unmatched :
    isMatchAutoPoolAffinity (newAutoPoolPodAffinity coreApp) coreApp = false ∧
    SameApp coreApp coreApp :=
  ⟨by decide, rfl, rfl, rfl, rfl⟩

end Sample
end Spiderpool
