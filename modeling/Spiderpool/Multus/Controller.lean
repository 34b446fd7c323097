/-
# The controller of SpiderMultusConfigs

The checks of names and versions by which the webhook admits a SpiderMultusConfig (`validate` of
`pkg/multuscniconfig/multusconfig_validate.go`), and `syncHandler` of
`pkg/multuscniconfig/multusconfig_informer.go`, which writes the definition that the object
describes: it creates one, or brings the one that is there up to date, or finds nothing to do.

A definition that was written with an empty map comes back with nil annotations, and
`reflect.DeepEqual` tells the two apart (`sync_settles_iff`).
-/

import Spiderpool.Multus.ObjectNames
import Spiderpool.Multus.Safety

namespace Spiderpool

namespace Constant

def kindSpiderMultusConfig := "SpiderMultusConfig"
def annoNetAttachConfName := "multus.spidernet.io/cr-name"

end Constant

namespace Multus

/-- `NetworkAttachmentDefinition` as the API server hands it out. The map of its annotations may
be nil. -/
structure StoredNad where
  name : String
  ns : String
  annotations : Option (GoMap String String) := none
  ownerReferences : List OwnerReference := []
  /-- It has a deletion timestamp. -/
  terminating : Bool := false
  config : String := ""

/-- `SpiderMultusConfig` as the API server hands it out. -/
structure StoredConfig extends SpiderMultusConfig where
  uid : String
  /-- It has a deletion timestamp. -/
  terminating : Bool := false

def SpiderMultusConfig.netAttachName (smc : SpiderMultusConfig) : String :=
  (smc.annotations.lookup Constant.annoNetAttachConfName).getD smc.name

/-! ### Admission -/

def annotationField := "metadata.annotations"

def supportCNIVersions := ["0.3.0", "0.3.1", "0.4.0", "1.0.0"]

inductive AnnoValue where
  | annotations (m : GoMap String String)
  | text (s : String)

inductive AdmissionErr where
  | anno (e : ConfigError AnnoValue)
  /-- `field.InternalError`. -/
  | internal (field detail : String)
  | config (e : ConfigError BadValue)

/-- How a definition is read: `none` if it is not found. -/
abbrev GetNad := String → String → Result Err (Option StoredNad)

/-- `k8svalidation.IsDNS1123Subdomain`: what is wrong with a name. -/
def subdomainErrors (value : String) : List String :=
  (if 253 < value.utf8ByteSize then ["must be no more than 253 characters"] else []) ++
  if ∀ part ∈ split value '.', matchesLabel part = true then []
  else ["a lowercase RFC 1123 subdomain must consist of lower case alphanumeric characters, '-' or" ++
    " '.', and must start and end with an alphanumeric character (e.g. 'example.com', regex used for" ++
    " validation is '[a-z0-9]([-a-z0-9]*[a-z0-9])?(\\.[a-z0-9]([-a-z0-9]*[a-z0-9])?)*')"]

/-- `checkNetAttachDef` of `validateAnnotation`. -/
def checkNetAttachDef (get : GetNad) (smc : SpiderMultusConfig) (ns name : String) :
    Result AdmissionErr Unit := do
  let netAttachDef ← mapErr (fun e => .internal annotationField
    ("failed to retrieve net-attach-def " ++ ns ++ "/" ++ name ++
      ", unable to determine conflicts with existing resources. error: " ++ e.text)) (get ns name)
  ifSome netAttachDef fun nad =>
    ifSome (nad.ownerReferences.find? fun ref =>
        ref.kind = Constant.kindSpiderMultusConfig ∧ ref.name ≠ smc.name) fun ref =>
      fail (.anno (.invalid annotationField (.annotations smc.annotations)
        ("the net-attach-def " ++ ns ++ "/" ++ name ++
          " already exists and is managed by SpiderMultusConfig " ++ ns ++ "/" ++ ref.name ++ ".")))

def validateAnnotation (get : GetNad) (smc : SpiderMultusConfig) : Result AdmissionErr Unit := do
  (match smc.annotations.lookup Constant.annoNetAttachConfName with
    | some customMultusName => do
      failIf (subdomainErrors customMultusName ≠ [])
        (.anno (.invalid annotationField (.annotations smc.annotations)
          ("invalid custom net-attach-def resource name, err: " ++
            formatList (subdomainErrors customMultusName))))
      checkNetAttachDef get smc smc.ns customMultusName
    | none => checkNetAttachDef get smc smc.ns smc.name)
  ifSome (smc.annotations.lookup Constant.annoMultusConfigCNIVersion) fun cniVersion =>
    failIf (cniVersion ∉ supportCNIVersions)
      (.anno (.invalid annotationField (.annotations smc.annotations)
        ("unsupported CNI version " ++ cniVersion)))

/-- `validateCustomAnnoNameShouldNotBeChangeable`. A custom name may be dropped. -/
def validateCustomAnnoNameShouldNotBeChangeable (old new : SpiderMultusConfig) :
    Result AdmissionErr Unit :=
  match old.annotations.lookup Constant.annoNetAttachConfName,
    new.annotations.lookup Constant.annoNetAttachConfName with
  | some oldName, some newName => failIf (oldName ≠ newName)
    (.anno (.invalid annotationField (.text oldName)
      ("it's unsupported to change customized Multus net-attach-def resource name from '" ++ oldName ++
        "' to '" ++ newName ++ "'")))
  | none, some newName => fail (.anno (.invalid annotationField (.text newName)
    ("it's unsupported to changed Multus net-attach-def '" ++ old.name ++ "' to customized name '" ++
      newName ++ "'")))
  | _, none => .ok ()

/-- `validate`, of a new object or of a change to an old one. -/
def validate (env : ValidateEnv) (get : GetNad) (old : Option SpiderMultusConfig)
    (smc : SpiderMultusConfig) : Result AdmissionErr Unit := do
  ifSome old fun old => validateCustomAnnoNameShouldNotBeChangeable old smc
  validateAnnotation get smc
  mapErr .config (validateCNIConfig env smc)

theorem checkNetAttachDef_eq_ok {get : GetNad} {smc : SpiderMultusConfig} {ns name : String}
    (h : checkNetAttachDef get smc ns name = .ok ()) {nad : StoredNad}
    (hnad : get ns name = .ok (some nad)) :
    ∀ ref ∈ nad.ownerReferences, ref.kind = Constant.kindSpiderMultusConfig → ref.name = smc.name := by
  intro ref href hkind
  by_contra hname
  obtain ⟨found, hfound, h⟩ := bind_eq_ok.1 h
  obtain rfl := Except.ok.inj (hnad.symm.trans (mapErr_eq_ok.1 hfound))
  obtain ⟨other, hother⟩ : ∃ other, nad.ownerReferences.find? (fun ref =>
      ref.kind = Constant.kindSpiderMultusConfig ∧ ref.name ≠ smc.name) = some other :=
    Option.isSome_iff_exists.1 (List.find?_isSome.2 ⟨ref, href, decide_eq_true ⟨hkind, hname⟩⟩)
  exact fail_ne_ok (ifSome_eq_ok.1 (ifSome_eq_ok.1 h nad rfl) other hother)

theorem managed_of_validate {env : ValidateEnv} {get : GetNad} {old : Option SpiderMultusConfig}
    {smc : SpiderMultusConfig} (h : validate env get old smc = .ok ()) {nad : StoredNad}
    (hnad : get smc.ns smc.netAttachName = .ok (some nad)) :
    ∀ ref ∈ nad.ownerReferences, ref.kind = Constant.kindSpiderMultusConfig → ref.name = smc.name := by
  have hanno : validateAnnotation get smc = .ok () := (seq_eq_ok.1 (seq_eq_ok.1 h).2).1
  have hcheck : checkNetAttachDef get smc smc.ns smc.netAttachName = .ok () := by
    have hname := (seq_eq_ok.1 hanno).1
    unfold SpiderMultusConfig.netAttachName
    split at hname <;> rename_i hlookup <;> rw [hlookup]
    · exact (seq_eq_ok.1 hname).2
    · exact hname
  exact checkNetAttachDef_eq_ok hcheck hnad

/-! ### The controller -/

/-- `reflect.DeepEqual` of two maps, which tells a nil map from an empty one. -/
def DeepEqual : Option (GoMap String String) → Option (GoMap String String) → Prop
  | none, none => True
  | some m, some m' => m.entries.Perm m'.entries
  | _, _ => False

instance : DecidableRel DeepEqual
  | none, none => inferInstanceAs (Decidable True)
  | some m, some m' => inferInstanceAs (Decidable (m.entries.Perm m'.entries))
  | none, some _ => inferInstanceAs (Decidable False)
  | some _, none => inferInstanceAs (Decidable False)

def StoredNad.isControlledBy (nad : StoredNad) (uid : String) : Bool :=
  (getControllerOf nad.ownerReferences).any fun ref => ref.uid = uid

def validateOwner (ownerNs objNs : String) : Result Err Unit :=
  if ownerNs = "" then .ok ()
  else do
    failIf (objNs = "") (.new ("cluster-scoped resource must not have a namespace-scoped owner, " ++
      "owner's namespace " ++ ownerNs))
    failIf (ownerNs ≠ objNs) (.new ("cross-namespace owner references are disallowed, " ++
      "owner's namespace " ++ ownerNs ++ ", obj's namespace " ++ objNs))

def StoredConfig.controllerRef (smc : StoredConfig) : OwnerReference where
  apiVersion := Constant.spiderpoolAPIGroup ++ "/v2beta1"
  kind := Constant.kindSpiderMultusConfig
  name := smc.name
  uid := smc.uid
  controller := true

/-- `controllerutil.SetControllerReference`, on a definition that has just been made and has no
reference yet. -/
def setControllerReference (smc : StoredConfig) (nad : NetworkAttachmentDefinition) :
    Result Err StoredNad := do
  validateOwner smc.ns nad.ns
  return {
    name := nad.name
    ns := nad.ns
    annotations := some nad.annotations
    ownerReferences := [smc.controllerRef]
    config := nad.config }

inductive Write where
  | create (nad : StoredNad)
  | update (nad : StoredNad)

def Write.nad : Write → StoredNad
  | .create nad | .update nad => nad

def NeedsUpdate (smc : StoredConfig) (old new : StoredNad) : Prop :=
  ¬DeepEqual old.annotations new.annotations ∨ old.config ≠ new.config ∨
    old.isControlledBy smc.uid = false

instance (smc : StoredConfig) (old new : StoredNad) : Decidable (NeedsUpdate smc old new) :=
  inferInstanceAs (Decidable (_ ∨ _ ∨ _))

def updated (smc : StoredConfig) (old new : StoredNad) : StoredNad :=
  { old with
    annotations := if DeepEqual old.annotations new.annotations then old.annotations
      else new.annotations
    config := if old.config = new.config then old.config else new.config
    ownerReferences := if old.isControlledBy smc.uid then old.ownerReferences
      else new.ownerReferences }

/-- The definition that an object describes, with its controller. -/
def desired (env : GenerateEnv) (smc : StoredConfig) : Result Err StoredNad := do
  let generated ← mapErr (fun e => .wrap "failed to generate net-attach-def, error: " e "")
    (generateNetAttachDef env smc.netAttachName smc.toSpiderMultusConfig)
  mapErr (fun e => .wrap ("failed to set net-attach-def " ++ generated.name ++
    " owner reference with MultusConfig " ++ smc.ns ++ "/" ++ smc.name ++ ", error: ") e "")
    (setControllerReference smc generated)

/-- `syncHandler`, up to the request it ends with. -/
def syncHandler (env : GenerateEnv) (get : GetNad) (smc : StoredConfig) :
    Result Err (Option Write) :=
  if smc.terminating then .ok none
  else do
    let netAttachDef ← get smc.ns smc.netAttachName
    let new ← desired env smc
    match netAttachDef with
    | none => return some (.create new)
    | some old => do
      failIf old.terminating (.new ("the old net-attach-def " ++ old.ns ++ "/" ++ old.name ++
        " is terminating, wait for a while"))
      if NeedsUpdate smc old new then return some (.update (updated smc old new)) else return none

def StoredNad.stored (nad : StoredNad) : StoredNad :=
  { nad with annotations := nad.annotations.filter fun m => m.entries ≠ [] }

/-! ### What is written -/

section

variable {env : GenerateEnv} {get : GetNad} {smc : StoredConfig} {new : StoredNad}

theorem desired_eq_ok (h : desired env smc = .ok new) :
    ∃ nad, generateNetAttachDef env smc.netAttachName smc.toSpiderMultusConfig = .ok nad ∧
      new.annotations = some nad.annotations ∧ new.ownerReferences = [smc.controllerRef] ∧
      new.terminating = false := by
  obtain ⟨nad, hnad, h⟩ := bind_eq_ok.1 h
  obtain ⟨-, h⟩ := seq_eq_ok.1 (mapErr_eq_ok.1 h)
  obtain rfl := Except.ok.inj h
  exact ⟨nad, mapErr_eq_ok.1 hnad, rfl, rfl, rfl⟩

theorem syncHandler_cases {w : Write} (h : syncHandler env get smc = .ok (some w)) :
    smc.terminating = false ∧ ∃ new, desired env smc = .ok new ∧
      (get smc.ns smc.netAttachName = .ok none ∧ w = .create new ∨
        ∃ old, get smc.ns smc.netAttachName = .ok (some old) ∧ old.terminating = false ∧
          NeedsUpdate smc old new ∧ w = .update (updated smc old new)) := by
  unfold syncHandler at h
  split_ifs at h with hterm
  · cases h
  obtain ⟨found, hfound, h⟩ := bind_eq_ok.1 h
  obtain ⟨new, hnew, h⟩ := bind_eq_ok.1 h
  refine ⟨Bool.eq_false_iff.2 hterm, new, hnew, ?_⟩
  cases found with
  | none =>
    obtain rfl := Option.some.inj (Except.ok.inj h)
    exact .inl ⟨hfound, rfl⟩
  | some old =>
    obtain ⟨hlive, h⟩ := seq_eq_ok.1 h
    split_ifs at h with hneeds
    · obtain rfl := Option.some.inj (Except.ok.inj h)
      exact .inr ⟨old, hfound, Bool.eq_false_iff.2 (failIf_eq_ok.1 hlive), hneeds, rfl⟩
    · cases h

theorem written_owners {w : Write} (h : syncHandler env get smc = .ok (some w)) :
    w.nad.ownerReferences = [smc.controllerRef] ∨
      ∃ old, get smc.ns smc.netAttachName = .ok (some old) ∧ old.isControlledBy smc.uid = true ∧
        w.nad.ownerReferences = old.ownerReferences := by
  obtain ⟨-, new, hnew, ⟨-, rfl⟩ | ⟨old, hold, -, -, rfl⟩⟩ := syncHandler_cases h
  · obtain ⟨-, -, -, hrefs, -⟩ := desired_eq_ok hnew
    exact .inl hrefs
  · obtain ⟨-, -, -, hrefs, -⟩ := desired_eq_ok hnew
    unfold Write.nad updated
    dsimp only
    split_ifs with hown
    · exact .inr ⟨old, hold, hown, rfl⟩
    · exact .inl hrefs

theorem written_spec {w : Write} (h : syncHandler env get smc = .ok (some w)) :
    ∃ new, desired env smc = .ok new ∧ w.nad.isControlledBy smc.uid = true ∧
      w.nad.config = new.config ∧ w.nad.terminating = false ∧
      (w.nad.annotations = new.annotations ∨ DeepEqual w.nad.annotations new.annotations) := by
  have hown : w.nad.isControlledBy smc.uid = true := by
    unfold StoredNad.isControlledBy
    rcases written_owners h with hrefs | ⟨old, -, hctl, hrefs⟩ <;> rw [hrefs]
    · exact decide_eq_true rfl
    · exact hctl
  obtain ⟨-, new, hnew, ⟨-, rfl⟩ | ⟨old, -, hlive, -, rfl⟩⟩ := syncHandler_cases h
  · obtain ⟨-, -, -, -, hterm⟩ := desired_eq_ok hnew
    exact ⟨new, hnew, hown, rfl, hterm, .inl rfl⟩
  · refine ⟨new, hnew, hown, ?_, hlive, ?_⟩
    · unfold Write.nad updated
      dsimp only
      split_ifs with hconfig
      · exact hconfig
      · rfl
    · unfold Write.nad updated
      dsimp only
      split_ifs with hdeep
      · exact .inr hdeep
      · exact .inl rfl

/-! ### The second sync -/

/-- The definition of the object has annotations: those of the object, or the resource that `sriov`,
`ib-sriov` or a device of `ovs` adds. -/
def Annotated (smc : SpiderMultusConfig) : Prop :=
  smc.annotations.entries ≠ [] ∨ smc.spec.cniType = some Constant.sriovCNI ∨
    smc.spec.cniType = some Constant.ibSriovCNI ∨
    smc.spec.cniType = some Constant.ovsCNI ∧ ∃ c, smc.spec.ovsConfig = some c ∧ c.deviceID ≠ ""

theorem insert_entries_ne_nil (m : GoMap String String) (k v : String) :
    (m.insert k v).entries ≠ [] := by
  intro h
  have hlookup := GoMap.lookup_insert_eq (m := m) k k v
  rw [if_pos rfl, ← GoMap.mem_entries_iff, h] at hlookup
  cases hlookup

theorem generateConfig_annotations {spec : MultusCNIConfigSpec} {cniConfigName cniVersion : String}
    {plugins : List Plugin} {anno : GoMap String String} {r : String × GoMap String String}
    (h : generateConfig env spec cniConfigName cniVersion plugins anno = .ok r) :
    ∃ cniType, spec.cniType = some cniType ∧
      (CniKind.of cniType = .sriov ∨ CniKind.of cniType = .ibSriov →
        ∃ v, r.2 = anno.insert Constant.resourceNameAnnot v) ∧
      (CniKind.of cniType = .ovs → ∃ c v, spec.ovsConfig = some c ∧
        r.2 = if c.deviceID = "" then anno else anno.insert Constant.resourceNameAnnot v) ∧
      (CniKind.of cniType ∉ [.sriov, .ibSriov, .ovs] → r.2 = anno) := by
  obtain ⟨cniType, htype, h⟩ := bind_eq_ok.1 h
  refine ⟨cniType, deref_eq_ok.1 htype, ?_⟩
  split at h <;> rename_i hkind <;> rw [hkind]
  · obtain ⟨_, -, h⟩ := bind_eq_ok.1 h
    obtain ⟨_, -, h⟩ := bind_eq_ok.1 h
    obtain ⟨_, -, h⟩ := bind_eq_ok.1 h
    obtain ⟨_, -, h⟩ := bind_eq_ok.1 h
    obtain rfl := Except.ok.inj h
    simp
  · obtain ⟨_, -, h⟩ := bind_eq_ok.1 h
    obtain ⟨_, -, h⟩ := bind_eq_ok.1 h
    obtain ⟨_, -, h⟩ := bind_eq_ok.1 h
    obtain ⟨_, -, h⟩ := bind_eq_ok.1 h
    obtain rfl := Except.ok.inj h
    simp
  · obtain ⟨_, -, h⟩ := bind_eq_ok.1 h
    obtain ⟨_, -, h⟩ := bind_eq_ok.1 h
    obtain ⟨_, -, h⟩ := bind_eq_ok.1 h
    obtain rfl := Except.ok.inj h
    simp
  · obtain ⟨c, -, h⟩ := bind_eq_ok.1 h
    obtain ⟨resourceName, -, h⟩ := bind_eq_ok.1 h
    obtain ⟨_, -, h⟩ := bind_eq_ok.1 h
    obtain rfl := Except.ok.inj h
    exact ⟨fun _ => ⟨resourceName, rfl⟩, by simp, by simp⟩
  · obtain ⟨c, -, h⟩ := bind_eq_ok.1 h
    obtain ⟨resourceName, -, h⟩ := bind_eq_ok.1 h
    obtain ⟨_, -, h⟩ := bind_eq_ok.1 h
    obtain rfl := Except.ok.inj h
    exact ⟨fun _ => ⟨resourceName, rfl⟩, by simp, by simp⟩
  · obtain ⟨_, -, h⟩ := bind_eq_ok.1 h
    obtain ⟨_, -, h⟩ := bind_eq_ok.1 h
    obtain rfl := Except.ok.inj h
    simp
  · obtain ⟨_, -, h⟩ := bind_eq_ok.1 h
    obtain ⟨_, -, h⟩ := bind_eq_ok.1 h
    obtain ⟨c, hc, h⟩ := bind_eq_ok.1 h
    obtain rfl := Except.ok.inj h
    exact ⟨by simp, fun _ => ⟨c, _, deref_eq_ok.1 hc, rfl⟩, by simp⟩
  · split at h
    · obtain rfl := Except.ok.inj h
      simp
    · obtain ⟨-, h⟩ := seq_eq_ok.1 h
      obtain rfl := Except.ok.inj h
      simp
  · cases h

theorem generated_annotations_ne_nil {name : String} {smc : SpiderMultusConfig}
    {nad : NetworkAttachmentDefinition} (h : generateNetAttachDef env name smc = .ok nad) :
    nad.annotations.entries ≠ [] ↔ Annotated smc := by
  obtain ⟨_, -, h⟩ := bind_eq_ok.1 h
  obtain ⟨_, -, h⟩ := bind_eq_ok.1 h
  obtain ⟨r, hr, h⟩ := bind_eq_ok.1 h
  obtain rfl := Except.ok.inj h
  obtain ⟨cniType, htype, hsriov, hovs, hother⟩ := generateConfig_annotations hr
  have hs : CniKind.of cniType = .sriov ↔ cniType = Constant.sriovCNI :=
    CniKind.of_eq_iff (by decide)
  have hib : CniKind.of cniType = .ibSriov ↔ cniType = Constant.ibSriovCNI :=
    CniKind.of_eq_iff (by decide)
  have ho : CniKind.of cniType = .ovs ↔ cniType = Constant.ovsCNI := CniKind.of_eq_iff (by decide)
  unfold Annotated
  simp only [htype, Option.some.injEq, ← hs, ← hib, ← ho]
  by_cases hres : CniKind.of cniType = .sriov ∨ CniKind.of cniType = .ibSriov
  · obtain ⟨v, hv⟩ := hsriov hres
    rw [hv]
    exact iff_of_true (insert_entries_ne_nil _ _ _) (.inr (hres.imp_right .inl))
  rw [not_or] at hres
  by_cases hdev : CniKind.of cniType = .ovs
  · obtain ⟨c, v, hc, hanno⟩ := hovs hdev
    rw [hanno, hc]
    by_cases hid : c.deviceID = ""
    · rw [if_pos hid]
      simp [hdev, hid]
    · rw [if_neg hid]
      exact iff_of_true (insert_entries_ne_nil _ _ _) (.inr (.inr (.inr ⟨hdev, c, rfl, hid⟩)))
  · rw [hother (by simp [hres, hdev])]
    simp [hres, hdev]

theorem deepEqual_stored_iff {written : Option (GoMap String String)} {m : GoMap String String}
    (h : written = some m ∨ DeepEqual written (some m)) :
    DeepEqual (written.filter fun m => m.entries ≠ []) (some m) ↔ m.entries ≠ [] := by
  obtain ⟨m', rfl, hperm⟩ : ∃ m', written = some m' ∧ m'.entries.Perm m.entries := by
    rcases h with rfl | h
    · exact ⟨m, rfl, .refl _⟩
    · cases written with
      | none => exact h.elim
      | some m' => exact ⟨m', rfl, h⟩
  by_cases hempty : m'.entries = []
  · have hm : m.entries = [] := List.nil_perm.1 (hempty ▸ hperm)
    have hnone : (some m').filter (fun m => m.entries ≠ []) = none := by simp [hempty]
    rw [hnone]
    exact iff_of_false id (not_not_intro hm)
  · have hm : m.entries ≠ [] := fun hm => hempty (List.perm_nil.1 (hm ▸ hperm))
    have hsome : (some m').filter (fun m => m.entries ≠ []) = some m' := by simp [hempty]
    rw [hsome]
    exact iff_of_true hperm hm

/-- **The definition is settled after one write exactly if it has annotations.**  Without any, every
sync finds nil annotations where it wants an empty map, and writes again. -/
theorem sync_settles_iff {w : Write} (h : syncHandler env get smc = .ok (some w)) {get' : GetNad}
    (hget' : get' smc.ns smc.netAttachName = .ok (some w.nad.stored)) :
    syncHandler env get' smc = .ok none ↔ Annotated smc.toSpiderMultusConfig := by
  obtain ⟨new, hnew, hown, hconfig, hlive, hanno⟩ := written_spec h
  obtain ⟨nad, hnad, hmap, -, -⟩ := desired_eq_ok hnew
  rw [hmap] at hanno
  have hneeds : ¬NeedsUpdate smc w.nad.stored new ↔ Annotated smc.toSpiderMultusConfig := by
    rw [← generated_annotations_ne_nil hnad, ← deepEqual_stored_iff hanno]
    have hown' : w.nad.stored.isControlledBy smc.uid = true := hown
    have hconfig' : w.nad.stored.config = new.config := hconfig
    simp only [NeedsUpdate, hmap, hown', hconfig', ne_eq, not_true_eq_false, or_false,
      reduceCtorEq, not_not]
    rfl
  have hrun : syncHandler env get' smc = if NeedsUpdate smc w.nad.stored new
      then .ok (some (.update (updated smc w.nad.stored new))) else .ok none := by
    have hlive' : w.nad.stored.terminating = false := hlive
    unfold syncHandler
    rw [if_neg (Bool.eq_false_iff.1 (syncHandler_cases h).1), hget', hnew]
    simp [bind, Except.bind, failIf, hlive', pure, Except.pure]
  rw [hrun, ← hneeds]
  split_ifs with hupdate <;> simp [hupdate]

end

end Multus

namespace Sample

def macvlan (name : String) (annotations : GoMap String String) : Multus.SpiderMultusConfig where
  name := name
  ns := "default"
  annotations := annotations
  spec := {
    cniType := some "macvlan"
    enableCoordinator := some true
    macvlanConfig := some { master := ["eth0"] } }

def noNad : Multus.GetNad := fun _ _ => .ok none

def theNad (nad : Multus.StoredNad) : Multus.GetNad := fun _ _ => .ok (some nad)

/-- With an annotation, the second sync finds nothing to do. -/
theorem annotated_settles : ∃ smc w,
    Multus.mutateSpiderMultusConfig
      (macvlan "net" (AList.insert "multus.spidernet.io/cni-version" "0.4.0" ∅)) = .ok smc ∧
    Multus.validate validateEnv noNad none smc = .ok () ∧
    Multus.syncHandler generateEnv noNad ⟨smc, "1", false⟩ = .ok (some w) ∧
    Multus.syncHandler generateEnv (theNad w.nad.stored) ⟨smc, "1", false⟩ = .ok none :=
  ⟨_, _, rfl, rfl, rfl,
    (@Multus.sync_settles_iff generateEnv noNad _ _ rfl _ rfl).2 (.inl (by decide))⟩

/-- Without any annotation, the second sync asks for an update of what the first one wrote. -/
theorem unannotated_written_again : ∃ smc w w',
    Multus.mutateSpiderMultusConfig (macvlan "net" ∅) = .ok smc ∧
    Multus.validate validateEnv noNad none smc = .ok () ∧
    Multus.syncHandler generateEnv noNad ⟨smc, "1", false⟩ = .ok (some (.create w)) ∧
    Multus.syncHandler generateEnv (theNad w.stored) ⟨smc, "1", false⟩ = .ok (some (.update w')) ∧
    w'.stored.annotations = w.stored.annotations :=
  ⟨_, _, _, rfl, rfl, rfl, rfl, rfl⟩

end Sample

end Spiderpool
