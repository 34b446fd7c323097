/-
# Names made of applications

`pkg/applicationcontroller/applicationinformers/utils.go` writes an application in three ways: the
status of a subnet holds `ApplicationNamespacedName`, the label of an auto-created pool
`ApplicationLabelGV`, and the name of the pool is `AutoPoolName`.

The first two are joined by underscores (`application_readBack`). The third is cut to the length of a
Kubernetes name, with one dash too few counted (`autoPoolName_fits_iff`).
-/

import Spiderpool.Subnet.Informer

namespace Spiderpool

def parseApplicationGVStr (str : String) : Option String :=
  match split str '_' with
  | [version] => some (groupVersionString "" version)
  | [group, version] => some (groupVersionString group version)
  | _ => none

def PodTopController.appNamespacedName (c : PodTopController) : AppNamespacedName :=
  ⟨c.apiVersion, c.kind, c.ns, c.name⟩

inductive IsAPIVersion : String → Prop
  | version {v : String} : v ≠ "" → '/' ∉ v.toList → IsAPIVersion v
  | group {g v : String} : g ≠ "" → '/' ∉ g.toList → v ≠ "" → IsAPIVersion (g ++ "/" ++ v)

def NoUnderscore (s : String) : Prop := '_' ∉ s.toList

structure Named (c : PodTopController) : Prop where
  isAPIVersion : IsAPIVersion c.apiVersion
  apiVersion : NoUnderscore c.apiVersion
  kind : NoUnderscore c.kind
  ns : NoUnderscore c.ns
  name : NoUnderscore c.name

section

variable {a g v : String}

theorem split_underscore (h : NoUnderscore a) (t : String) :
    split (a ++ ("_" ++ t)) '_' = a :: split t '_' := by
  rw [← String.append_assoc]
  exact split_append_cons h t

theorem noUnderscore_group (h : NoUnderscore (g ++ "/" ++ v)) : NoUnderscore g ∧ NoUnderscore v := by
  simpa [NoUnderscore] using h

theorem groupVersionString_group (h : g ≠ "") : groupVersionString g v = g ++ "/" ++ v := by
  refine if_pos (Nat.pos_of_ne_zero fun hlen => h ?_)
  rwa [String.length_eq_zero_iff] at hlen

theorem applicationLabelGV_version (h : '/' ∉ v.toList) : applicationLabelGV v = v := by
  rw [applicationLabelGV, cut_of_notMem h]

theorem applicationLabelGV_group (h : '/' ∉ g.toList) :
    applicationLabelGV (g ++ "/" ++ v) = g ++ "_" ++ v := by
  have hcut : cut (g ++ "/" ++ v) '/' = (g, some v) := cut_append h v
  rw [applicationLabelGV, hcut]

theorem parse_applicationLabelGV (ha : IsAPIVersion a) (h : NoUnderscore a) :
    parseApplicationGVStr (applicationLabelGV a) = some a := by
  unfold parseApplicationGVStr
  cases ha with
  | version hv hslash =>
    rw [applicationLabelGV_version hslash, split_of_notMem h]
    rfl
  | group hg hslash hv =>
    obtain ⟨hgu, hvu⟩ := noUnderscore_group h
    rw [applicationLabelGV_group hslash, String.append_assoc, split_underscore hgu,
      split_of_notMem hvu]
    exact congrArg some (groupVersionString_group hg)

theorem parse_applicationNamespacedName {c : PodTopController} (h : Named c) :
    parseApplicationNamespacedName (applicationNamespacedName c) = some c.appNamespacedName := by
  obtain ⟨apiVersion, kind, ns, name, uid, app⟩ := c
  obtain ⟨ha, hu, hkind, hns, hname⟩ := h
  dsimp only at ha hu hkind hns hname
  unfold parseApplicationNamespacedName applicationNamespacedName PodTopController.appNamespacedName
  cases ha with
  | version hv hslash =>
    rw [applicationLabelGV_version hslash]
    simp only [String.append_assoc]
    rw [split_underscore hu, split_underscore hkind, split_underscore hns, split_of_notMem hname]
    rfl
  | group hg hslash hv =>
    obtain ⟨hgu, hvu⟩ := noUnderscore_group hu
    rw [applicationLabelGV_group hslash]
    simp only [String.append_assoc]
    rw [split_underscore hgu, split_underscore hvu, split_underscore hkind, split_underscore hns,
      split_of_notMem hname, ← String.append_assoc, ← groupVersionString_group hg]

end

/-- **What is written of an application can be read back**, if there is no underscore in it: the
label of its API version, and the text in the status of the subnet. So these texts, and the labels
of a pool, are of one application only. -/
theorem application_readBack :
    (∀ a, IsAPIVersion a → NoUnderscore a → parseApplicationGVStr (applicationLabelGV a) = some a) ∧
    (∀ c, Named c →
      parseApplicationNamespacedName (applicationNamespacedName c) = some c.appNamespacedName) ∧
    Set.InjOn applicationLabelGV {a | IsAPIVersion a ∧ NoUnderscore a} ∧
    (∀ c c', Named c → Named c' → applicationNamespacedName c = applicationNamespacedName c' →
      c.appNamespacedName = c'.appNamespacedName) ∧
    ∀ subnet subnet' c c' property property', Named c → Named c' →
      (∀ label ∈ [Constant.labelIPPoolOwnerApplicationGV, Constant.labelIPPoolOwnerApplicationKind,
        Constant.labelIPPoolOwnerApplicationNamespace, Constant.labelIPPoolOwnerApplicationName],
        (autoPoolLabels subnet c property).lookup label =
          (autoPoolLabels subnet' c' property').lookup label) →
      c.appNamespacedName = c'.appNamespacedName := by
  have hinj : Set.InjOn applicationLabelGV {a | IsAPIVersion a ∧ NoUnderscore a} := by
    intro a ha b hb h
    have hparse := parse_applicationLabelGV ha.1 ha.2
    rw [h, parse_applicationLabelGV hb.1 hb.2] at hparse
    exact (Option.some.inj hparse).symm
  refine ⟨fun a => parse_applicationLabelGV, fun c => parse_applicationNamespacedName, hinj,
    fun c c' hc hc' h => ?_, fun subnet subnet' c c' property property' hc hc' h => ?_⟩
  · have hparse := parse_applicationNamespacedName hc
    rw [h, parse_applicationNamespacedName hc'] at hparse
    exact (Option.some.inj hparse).symm
  · simp only [List.forall_mem_cons, List.not_mem_nil, false_imp_iff, implies_true, and_true] at h
    obtain ⟨hgv, hkind, hns, hname⟩ := h
    have happ := hinj ⟨hc.isAPIVersion, hc.apiVersion⟩ ⟨hc'.isAPIVersion, hc'.apiVersion⟩
      (Option.some.inj hgv)
    have hk : c.kind = c'.kind := Option.some.inj hkind
    have hn : c.ns = c'.ns := Option.some.inj hns
    have hm : c.name = c'.name := Option.some.inj hname
    rw [PodTopController.appNamespacedName, happ, hk, hn, hm, PodTopController.appNamespacedName]

/-! ### The name of a pool -/

/-- What `AutoPoolName` takes of the UID. -/
def uidSuffix (appUID : String) : String :=
  String.ofList (((split appUID '-').getLastD "").toList.take randomLength)

section

variable (controllerName ifName appUID : String) (ipVersion : IPVersion)

def poolNameOf (controllerName : String) : String :=
  "auto" ++ toString ipVersion ++ "-" ++ toLower controllerName ++ "-" ++ toLower ifName ++ "-" ++
    toLower (uidSuffix appUID)

theorem length_poolNameOf : (poolNameOf ifName appUID ipVersion controllerName).length =
    7 + (toString ipVersion).length + controllerName.length + ifName.length +
      (uidSuffix appUID).length := by
  have hlower : ∀ s : String, (toLower s).length = s.length := fun s => by
    simp [toLower, String.length_toList]
  have hauto : "auto".length = 4 := rfl
  have hdash : "-".length = 1 := rfl
  simp only [poolNameOf, String.length_append, hlower, hauto, hdash]
  omega

theorem autoPoolName_ok (hif : ifName.length ≤ 15) :
    ∃ kept, kept <+: controllerName.toList ∧
      autoPoolName controllerName ipVersion ifName appUID =
        .ok (poolNameOf ifName appUID ipVersion (String.ofList kept)) ∧
      kept.length + ifName.length + (uidSuffix appUID).length =
        min (controllerName.length + ifName.length + (uidSuffix appUID).length)
          (maxNameLength - 7) := by
  have hsuffix : (uidSuffix appUID).length ≤ 5 := by
    rw [uidSuffix, String.length_ofList]
    exact List.length_take_le ..
  have hlen : controllerName.toList.length = controllerName.length := String.length_toList
  let room : ℤ := maxNameLength - (uidSuffix appUID).length - 7
  have hroom : room = 246 - (uidSuffix appUID).length := by simp only [room, maxNameLength]; omega
  have heq : autoPoolName controllerName ipVersion ifName appUID =
      if (controllerName.toList.length + ifName.length : ℤ) > room then
        sliceTo controllerName.toList.length controllerName.toList (room - ifName.length) >>=
          fun kept => .ok (poolNameOf ifName appUID ipVersion (String.ofList kept))
      else .ok (poolNameOf ifName appUID ipVersion (String.ofList controllerName.toList)) := by
    have hlast : (split appUID '-').getLastD "" =
        (split appUID '-').getLast (split_ne_nil appUID '-') := by
      rw [List.getLastD_eq_getLast?, List.getLast?_eq_some_getLast (split_ne_nil appUID '-')]
      rfl
    unfold autoPoolName
    simp only [room, poolNameOf, uidSuffix, hlast, String.length_ofList]
    rfl
  by_cases hcut : (controllerName.toList.length + ifName.length : ℤ) > room
  · refine ⟨controllerName.toList.take (room - ifName.length).toNat, List.take_prefix .., ?_, ?_⟩
    · rw [heq, if_pos hcut, sliceTo, if_neg (by omega)]
      rfl
    · rw [List.length_take, maxNameLength]
      omega
  · refine ⟨controllerName.toList, List.prefix_rfl, ?_, ?_⟩
    · rw [heq, if_neg hcut]
    · rw [maxNameLength]
      omega

theorem length_version_pos : 0 < (toString ipVersion).length := by
  have hnat : ∀ n : ℕ, 0 < n.repr.length := fun n => by
    rw [Nat.repr_eq_ofList_toDigits, String.length_ofList]
    exact Nat.length_toDigits_pos
  cases ipVersion with
  | ofNat n => exact hnat n
  | negSucc n =>
    have hrepr : toString (Int.negSucc n) = "-" ++ (n + 1).repr := rfl
    rw [hrepr, String.length_append]
    exact Nat.add_pos_right _ (hnat _)

/-- **When the name of an auto-created pool fits.**  The slice is always in range, and the name keeps
the interface and the suffix of the UID. It is a name of at most 253 characters exactly if it would
be one without the cut. -/
theorem autoPoolName_fits_iff (hif : ifName.length ≤ 15) :
    ∃ kept, kept <+: controllerName.toList ∧
      autoPoolName controllerName ipVersion ifName appUID =
        .ok (poolNameOf ifName appUID ipVersion (String.ofList kept)) ∧
      ((poolNameOf ifName appUID ipVersion (String.ofList kept)).length ≤ maxNameLength ↔
        (poolNameOf ifName appUID ipVersion controllerName).length ≤ maxNameLength) := by
  obtain ⟨kept, hkept, hok, hlen⟩ := autoPoolName_ok controllerName ifName appUID ipVersion hif
  have hpos := length_version_pos ipVersion
  refine ⟨kept, hkept, hok, ?_⟩
  rw [length_poolNameOf, length_poolNameOf, String.length_ofList]
  rw [maxNameLength] at *
  omega

end

namespace Sample

def deployment : PodTopController := ⟨"apps/v1", "Deployment", "default", "web", "u1", .other⟩

theorem deployment_named : Named deployment where
  isAPIVersion := .group (g := "apps") (v := "v1") (by decide) (by decide) (by decide)
  apiVersion := by unfold NoUnderscore; decide
  kind := by unfold NoUnderscore; decide
  ns := by unfold NoUnderscore; decide
  name := by unfold NoUnderscore; decide

/-- The key of a Deployment, and the label of its API version, are read back. -/
theorem deployment_readBack :
    parseApplicationNamespacedName "apps_v1_Deployment_default_web" =
      some deployment.appNamespacedName ∧
    parseApplicationGVStr "apps_v1" = some "apps/v1" :=
  ⟨application_readBack.2.1 deployment deployment_named,
    application_readBack.1 "apps/v1" deployment_named.isAPIVersion deployment_named.apiVersion⟩

def appUID : String := "123e4567-e89b-12d3-a456-426614174000"

/-- A short name fits. -/
theorem short_name_fits :
    ∃ name, autoPoolName "web" 4 "eth0" appUID = .ok name ∧ name.length ≤ maxNameLength := by
  obtain ⟨kept, -, hok, hfits⟩ := autoPoolName_fits_iff "web" "eth0" appUID 4 (by decide)
  exact ⟨_, hok, hfits.2 (by decide +kernel)⟩

/-- A controller name of 238 characters is cut, and the name of the pool still has 254. -/
theorem long_name_exceeds :
    ∃ name, autoPoolName (String.ofList (List.replicate 238 'a')) 4 "eth0" appUID = .ok name ∧
      name.length = 254 := by
  obtain ⟨kept, -, hok, hlen⟩ :=
    autoPoolName_ok (String.ofList (List.replicate 238 'a')) "eth0" appUID 4 (by decide)
  refine ⟨_, hok, ?_⟩
  have hsuffix : (uidSuffix appUID).length = 5 := by decide +kernel
  have hversion : (toString (4 : IPVersion)).length = 1 := by decide +kernel
  have hifName : "eth0".length = 4 := rfl
  have hname : (String.ofList (List.replicate 238 'a')).length = 238 := by
    rw [String.length_ofList, List.length_replicate]
  rw [hname, hsuffix, hifName, maxNameLength] at hlen
  rw [length_poolNameOf, String.length_ofList, hsuffix, hversion, hifName]
  omega

end Sample

end Spiderpool
