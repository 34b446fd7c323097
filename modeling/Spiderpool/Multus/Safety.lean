/-
# No pointer of a SpiderMultusConfig is read that is nil

The functions of `pkg/multuscniconfig` that handle a SpiderMultusConfig, one after the other:
`mutateSpiderMultusConfig` fills in defaults, `validateCNIConfig` rejects what is still incomplete,
and `generateNetAttachDef` reads the pointers.

What generation reads of a section is written down in `SectionComplete`. An object that has its
defaults and has been accepted has it (`sectionComplete_of_validate`), so that generation never
panics on it. The checks themselves panic in two cases and in no other (`config_safe_iff`).
-/

import Spiderpool.Multus.Generate

namespace Spiderpool
namespace Multus

variable {smc : SpiderMultusConfig} {spec spec' : MultusCNIConfigSpec} {cniType : String}

/-! ### Generation -/

def SectionComplete (spec : MultusCNIConfigSpec) : CniKind → Prop
  | .macvlan => ∃ c, spec.macvlanConfig = some c ∧ (∃ name, masterName c = .ok name) ∧ c.vlanID.isSome
  | .ipvlan => ∃ c, spec.ipvlanConfig = some c ∧ (∃ name, masterName c = .ok name) ∧ c.vlanID.isSome
  | .vlan => ∃ c, spec.vlanConfig = some c ∧ ∃ name, masterName c.toSpiderMacvlanCniConfig = .ok name
  | .sriov => ∃ c, spec.sriovConfig = some c ∧ c.resourceName.isSome
  | .ibSriov => ∃ c, spec.ibSriovConfig = some c ∧ c.resourceName.isSome
  | .ipoib => spec.ipoibConfig.isSome
  | .ovs => spec.ovsConfig.isSome
  | .custom | .other => True

section

variable {env : GenerateEnv}

theorem chainPlugins_returns (chain : List String) : Returns (chainPlugins env chain) := by
  refine returns_mapM_iff.2 fun _ cf _ _ _ => ?_
  split
  · exact returns_fail _
  · exact returns_ok _

theorem marshalCniConfig2String_returns (env : GenerateEnv) (text : String) (rawList : RawList) :
    Returns (marshalCniConfig2String env text rawList) := by
  unfold marshalCniConfig2String
  split
  · exact returns_fail _
  · exact returns_ok _

theorem subVlanPlugins_returns {c : SpiderMacvlanCniConfig} (h : c.vlanID.isSome) :
    Returns (subVlanPlugins c) := by
  unfold subVlanPlugins
  split_ifs
  · exact (returns_deref_iff.2 h).seq fun _ _ => returns_ok _
  · exact returns_ok _

theorem generateOvsCNIConf_returns {disableIPAM : Bool} (h : spec.ovsConfig.isSome) :
    Returns (generateOvsCNIConf disableIPAM spec) := by
  obtain ⟨c, hc⟩ := Option.isSome_iff_exists.1 h
  unfold generateOvsCNIConf
  rw [hc]
  cases disableIPAM <;> exact returns_ok _

/-- **Generation returns on a complete section.** -/
theorem generateConfig_returns {cniConfigName cniVersion : String} {plugins : List Plugin}
    {anno : GoMap String String} (htype : spec.cniType = some cniType)
    (hcomplete : SectionComplete spec (CniKind.of cniType)) :
    Returns (generateConfig env spec cniConfigName cniVersion plugins anno) := by
  have hmarshal := fun text rawList => marshalCniConfig2String_returns env text rawList
  refine Returns.seq (returns_deref_iff.2 (by rw [htype]; rfl)) fun t ht => ?_
  obtain rfl := Option.some.inj (htype.symm.trans (deref_eq_ok.1 ht))
  split <;> rename_i hkind <;> rw [hkind] at hcomplete
  · obtain ⟨c, hc, ⟨name, hname⟩, hvlan⟩ := hcomplete
    refine Returns.seq (.after (deref_eq_ok.2 hc) (.after hname (returns_ok _))) fun _ _ => ?_
    refine .after (deref_eq_ok.2 hc) ((subVlanPlugins_returns hvlan).seq fun _ _ => ?_)
    exact (hmarshal _ _).seq fun _ _ => returns_ok _
  · obtain ⟨c, hc, ⟨name, hname⟩, hvlan⟩ := hcomplete
    refine Returns.seq (.after (deref_eq_ok.2 hc) (.after hname (returns_ok _))) fun _ _ => ?_
    refine .after (deref_eq_ok.2 hc) ((subVlanPlugins_returns hvlan).seq fun _ _ => ?_)
    exact (hmarshal _ _).seq fun _ _ => returns_ok _
  · obtain ⟨c, hc, name, hname⟩ := hcomplete
    refine Returns.seq (.after (deref_eq_ok.2 hc) (.after hname (returns_ok _))) fun _ _ => ?_
    exact .after (deref_eq_ok.2 hc) ((hmarshal _ _).seq fun _ _ => returns_ok _)
  · obtain ⟨c, hc, hname⟩ := hcomplete
    refine .after (deref_eq_ok.2 hc) ((returns_deref_iff.2 hname).seq fun _ _ => ?_)
    exact (hmarshal _ _).seq fun _ _ => returns_ok _
  · obtain ⟨c, hc, hname⟩ := hcomplete
    refine .after (deref_eq_ok.2 hc) ((returns_deref_iff.2 hname).seq fun _ _ => ?_)
    exact (hmarshal _ _).seq fun _ _ => returns_ok _
  · obtain ⟨c, hc⟩ := Option.isSome_iff_exists.1 hcomplete
    refine Returns.seq (.after (deref_eq_ok.2 hc) (returns_ok _)) fun _ _ => ?_
    exact (hmarshal _ _).seq fun _ _ => returns_ok _
  · refine (generateOvsCNIConf_returns hcomplete).seq fun _ _ => ?_
    refine (hmarshal _ _).seq fun _ _ => ?_
    exact (returns_deref_iff.2 hcomplete).seq fun _ _ => returns_ok _
  · split
    · exact returns_ok _
    · exact (returns_failIf _ _).seq fun _ _ => returns_ok _
  · exact returns_fail _

theorem generateNetAttachDef_returns {netAttachName : String} (htype : smc.spec.cniType = some cniType)
    (hcoord : smc.spec.enableCoordinator.isSome)
    (hcomplete : SectionComplete smc.spec (CniKind.of cniType)) :
    Returns (generateNetAttachDef env netAttachName smc) := by
  refine (chainPlugins_returns _).seq fun _ _ => ?_
  refine (returns_deref_iff.2 hcoord).seq fun _ _ => ?_
  exact (generateConfig_returns htype hcomplete).seq fun _ _ => returns_ok _

end

/-! ### What has been checked is complete -/

variable {env : ValidateEnv}

/-- **The section of an object that has its defaults and is accepted is complete.** -/
theorem sectionComplete_of_validate (hdef : Defaulted (CniKind.of cniType) spec smc.spec)
    (hok : validateSection env smc cniType = .ok ()) : SectionComplete smc.spec (CniKind.of cniType) := by
  unfold validateSection at hok
  split at hok <;> rename_i hkind <;> rw [hkind] at hdef ⊢
  · obtain ⟨c, hc, hcheck⟩ := withSection_eq_ok hok
    refine ⟨c, hc, masterName_of_masters (masters_of_validate hcheck), ?_⟩
    obtain ⟨c₀, -, rfl⟩ := Option.map_eq_some_iff.1 ((if_pos rfl ▸ hdef.macvlan).symm.trans hc)
    rfl
  · obtain ⟨c, hc, hcheck⟩ := withSection_eq_ok hok
    refine ⟨c, hc, masterName_of_masters (masters_of_validate hcheck), ?_⟩
    obtain ⟨c₀, -, rfl⟩ := Option.map_eq_some_iff.1 ((if_pos rfl ▸ hdef.ipvlan).symm.trans hc)
    rfl
  · obtain ⟨c, hc, hcheck⟩ := withSection_eq_ok hok
    exact ⟨c, hc, masterName_of_masters (masters_of_validate (seq_eq_ok.1 hcheck).2)⟩
  · obtain ⟨c, hc, hcheck⟩ := withSection_eq_ok hok
    obtain ⟨c₀, -, rfl⟩ := Option.map_eq_some_iff.1 ((if_pos rfl ▸ hdef.sriov).symm.trans hc)
    exact ⟨_, hc, rfl⟩
  · obtain ⟨c, hc, hcheck⟩ := withSection_eq_ok hok
    obtain ⟨c₀, -, rfl⟩ := Option.map_eq_some_iff.1 ((if_pos rfl ▸ hdef.ibSriov).symm.trans hc)
    exact ⟨_, hc, rfl⟩
  · obtain ⟨c, hc, -⟩ := withSection_eq_ok hok
    exact Option.isSome_iff_exists.2 ⟨c, hc⟩
  · obtain ⟨c, hc, -⟩ := withSection_eq_ok (seq_eq_ok.1 hok).2
    exact Option.isSome_iff_exists.2 ⟨c, hc⟩
  · trivial
  · trivial

/-! ### The checks -/

/-- The pointers are there that the checks of `sriov` and `ovs` read without looking. What comes
after a check that fails is not read. -/
structure SafelyChecked (smc : SpiderMultusConfig) : Prop where
  sriov : smc.spec.cniType = some Constant.sriovCNI → ∀ c, smc.spec.sriovConfig = some c →
    (∀ v, c.vlanID = some v → VlanIDInRange v) → SriovMTUChecked smc c
  ovs : smc.spec.cniType = some Constant.ovsCNI →
    ¬((smc.annotations.lookup Constant.annoPodResourceInject).isSome ∨
      (smc.annotations.lookup Constant.annoNetworkResourceInject).isSome) →
    ∀ c, smc.spec.ovsConfig = some c → (∀ v, c.vlanTag = some v → VlanIDInRange v) →
    ∀ front trunk rest, c.trunk = front ++ trunk :: rest → (∀ t ∈ front, TrunkAccepted t) →
    TrunkChecked trunk

theorem inRange_getD_iff {vlanID : Option Int32} :
    (∀ v, some (vlanID.getD 0) = some v → VlanIDInRange v) ↔
      ∀ v, vlanID = some v → VlanIDInRange v := by
  cases vlanID with
  | none => simp [VlanIDInRange]
  | some v => simp

theorem validateSriov_returns_iff {c : SpiderSRIOVCniConfig}
    (hc : smc.spec.sriovConfig = some c) (hname : c.resourceName.isSome) :
    Returns (validateSriov smc) ↔
      ((∀ v, c.vlanID = some v → VlanIDInRange v) → SriovMTUChecked smc c) := by
  rw [← validateSriovMTU_returns_iff, ← checkVlanID_eq_ok sriovConfigField]
  unfold validateSriov
  rw [hc]
  constructor
  · intro h hvlan
    exact (h.of_seq_ok hvlan).of_seq
  · intro h
    refine (checkVlanID_returns _ _).seq fun _ hvlan => ?_
    refine (h hvlan).seq fun _ _ => ?_
    refine Returns.seq (returns_ifSome fun _ _ => returns_ifSome fun _ _ => returns_failIf _ _)
      fun _ _ => ?_
    refine (returns_failIf _ _).seq fun _ _ => ?_
    exact (returns_failIf _ _).seq fun _ _ => validateInjected_returns hname

theorem validateOvs_returns_iff {c : SpiderOvsCniConfig} (hc : smc.spec.ovsConfig = some c) :
    Returns (validateOvs smc) ↔
      (¬((smc.annotations.lookup Constant.annoPodResourceInject).isSome ∨
        (smc.annotations.lookup Constant.annoNetworkResourceInject).isSome) →
      (∀ v, c.vlanTag = some v → VlanIDInRange v) →
      ∀ front trunk rest, c.trunk = front ++ trunk :: rest → (∀ t ∈ front, TrunkAccepted t) →
      TrunkChecked trunk) := by
  have hloop : Returns (c.trunk.forM validateTrunk) ↔
      ∀ front trunk rest, c.trunk = front ++ trunk :: rest → (∀ t ∈ front, TrunkAccepted t) →
        TrunkChecked trunk := by
    simp only [returns_forM_iff, validateTrunk_eq_ok, validateTrunk_returns_iff]
  rw [← hloop, ← checkVlanID_eq_ok ovsConfigField]
  unfold validateOvs
  rw [hc]
  constructor
  · intro h hplain hvlan
    exact ((h.of_seq_ok (failIf_eq_ok.2 hplain)).of_seq_ok hvlan).of_seq
  · intro h
    refine (returns_failIf _ _).seq fun _ hplain => ?_
    refine (checkVlanID_returns _ _).seq fun _ hvlan => ?_
    exact (h (failIf_eq_ok.1 hplain) hvlan).seq fun _ _ => returns_failIf _ _

theorem safelyChecked_of_kind {kind : CniKind}
    (hkind : CniKind.of (smc.spec.cniType.getD Constant.customCNI) = kind) (hsriov : kind ≠ .sriov)
    (hovs : kind ≠ .ovs) : SafelyChecked smc := by
  constructor
  · intro htype
    rw [htype] at hkind
    exact absurd hkind.symm hsriov
  · intro htype
    rw [htype] at hkind
    exact absurd hkind.symm hovs

theorem cniType_of_kind {kind : CniKind}
    (hkind : CniKind.of (smc.spec.cniType.getD Constant.customCNI) = kind) (hother : kind ≠ .other)
    (hcustom : kind ≠ .custom) : smc.spec.cniType = some kind.text := by
  rw [CniKind.of_eq_iff hother] at hkind
  cases htype : smc.spec.cniType with
  | none =>
    rw [htype] at hkind
    cases kind <;> first | exact absurd rfl hcustom | exact absurd hkind (by decide)
  | some t =>
    rw [htype] at hkind
    exact congrArg some hkind

section

variable {smc' : SpiderMultusConfig}
  (hdef : Defaulted (CniKind.of (smc.spec.cniType.getD Constant.customCNI))
    { smc.spec with cniType := some (smc.spec.cniType.getD Constant.customCNI) } smc'.spec)

include hdef

theorem defaulted_sriov_returns_iff
    (hkind : CniKind.of (smc.spec.cniType.getD Constant.customCNI) = .sriov) :
    Returns (validateSriov smc') ↔ SafelyChecked smc := by
  have htype := cniType_of_kind hkind (by decide) (by decide)
  rw [hkind] at hdef
  have hsection := hdef.sriov
  have hmacvlan : smc'.spec.macvlanConfig = smc.spec.macvlanConfig := hdef.macvlan
  rw [if_pos rfl] at hsection
  have hovs : smc.spec.cniType ≠ some Constant.ovsCNI := by
    rw [htype]
    decide
  rcases hc₀ : smc.spec.sriovConfig with - | c₀ <;> simp only [hc₀] at hsection
  · unfold validateSriov
    rw [hsection]
    exact ⟨fun _ => ⟨fun _ c hc => by simp [hc₀] at hc, fun h => absurd h hovs⟩, fun _ => returns_fail _⟩
  · have hmtu : SriovMTUChecked smc' (setSriovDefaultConfig c₀) ↔ SriovMTUChecked smc c₀ := by
      unfold SriovMTUChecked setSriovDefaultConfig
      rw [hmacvlan]
      cases c₀.mtu <;> simp
    rw [validateSriov_returns_iff hsection rfl, hmtu]
    simp only [setSriovDefaultConfig, inRange_getD_iff]
    constructor
    · refine fun h => ⟨fun _ c hc => ?_, fun h => absurd h hovs⟩
      obtain rfl := Option.some.inj (hc₀.symm.trans hc)
      exact h
    · exact fun h => h.sriov htype c₀ hc₀

theorem defaulted_ovs_returns_iff (hanno : smc'.annotations = smc.annotations)
    (hkind : CniKind.of (smc.spec.cniType.getD Constant.customCNI) = .ovs) :
    Returns (validateOvs smc') ↔ SafelyChecked smc := by
  have htype := cniType_of_kind hkind (by decide) (by decide)
  rw [hkind] at hdef
  have hsection := hdef.ovs
  rw [if_pos rfl] at hsection
  have hsriov : smc.spec.cniType ≠ some Constant.sriovCNI := by
    rw [htype]
    decide
  rcases hc₀ : smc.spec.ovsConfig with - | c₀ <;> simp only [hc₀] at hsection
  · refine ⟨fun _ => ⟨fun h => absurd h hsriov, fun _ _ c hc => by simp [hc₀] at hc⟩, fun _ => ?_⟩
    unfold validateOvs
    rw [hsection]
    exact (returns_failIf _ _).seq fun _ _ => returns_fail _
  · rw [validateOvs_returns_iff hsection, hanno]
    simp only [setOvsDefaultConfig, inRange_getD_iff]
    constructor
    · refine fun h => ⟨fun h => absurd h hsriov, fun _ hplain c hc => ?_⟩
      obtain rfl := Option.some.inj (hc₀.symm.trans hc)
      exact h hplain
    · exact fun h hplain => h.ovs htype hplain c₀ hc₀

theorem validateSection_returns_iff (env : ValidateEnv) (hanno : smc'.annotations = smc.annotations) :
    Returns (validateSection env smc' (smc.spec.cniType.getD Constant.customCNI)) ↔
      SafelyChecked smc := by
  have hmasters : ∀ {c : SpiderMacvlanCniConfig} {t f : String} {b : BadValue},
      Returns (validateMasters smc' (setMacvlanDefaultConfig c) t f b) :=
    validateMasters_returns rfl
  unfold validateSection
  split <;> rename_i hkind
  case h_4 => exact defaulted_sriov_returns_iff hdef hkind
  case h_7 => exact defaulted_ovs_returns_iff hdef hanno hkind
  all_goals
    refine iff_of_true ?_ (safelyChecked_of_kind hkind (by decide) (by decide))
    rw [hkind] at hdef
  · refine withSection_returns fun c hc => ?_
    obtain ⟨c₀, -, rfl⟩ := Option.map_eq_some_iff.1 ((if_pos rfl ▸ hdef.macvlan).symm.trans hc)
    exact hmasters
  · refine withSection_returns fun c hc => ?_
    obtain ⟨c₀, -, rfl⟩ := Option.map_eq_some_iff.1 ((if_pos rfl ▸ hdef.ipvlan).symm.trans hc)
    exact hmasters
  · refine withSection_returns fun c hc => ?_
    obtain ⟨c₀, -, rfl⟩ := Option.map_eq_some_iff.1 ((if_pos rfl ▸ hdef.vlan).symm.trans hc)
    exact (failWith_returns _ _).seq fun _ _ => validateMasters_returns rfl
  · refine withSection_returns fun c hc => ?_
    obtain ⟨c₀, -, rfl⟩ := Option.map_eq_some_iff.1 ((if_pos rfl ▸ hdef.ibSriov).symm.trans hc)
    refine (returns_failIf _ _).seq fun _ _ => ?_
    exact (returns_failIf _ _).seq fun _ _ => validateInjected_returns rfl
  · refine withSection_returns fun c _ => ?_
    refine (returns_failIf _ _).seq fun _ _ => ?_
    exact (returns_failIf _ _).seq fun _ _ => validateInjected_returns rfl
  · refine (returns_failIf _ _).seq fun _ _ => ?_
    refine (returns_failIf _ _).seq fun _ _ => ?_
    exact returns_ifSome fun _ _ => returns_failIf _ _
  · exact returns_ok ()

end

theorem validateCNIConfig_returns_iff (henv : CoordinatorManager.Parses env.netip)
    (htype : smc.spec.cniType = some cniType) :
    Returns (validateCNIConfig env smc) ↔ Returns (validateSection env smc cniType) := by
  unfold validateCNIConfig
  rw [htype]
  refine ⟨Returns.of_seq, fun h => h.seq fun _ _ => ?_⟩
  refine Returns.seq (returns_ifSome fun coordinator _ => ?_) fun _ _ => ?_
  · exact (CoordinatorManager.validateCoordinatorSpec_returns henv coordinator false).mapErr _
  · exact returns_forM_iff.2 fun _ _ _ _ _ => failWith_returns _ _

/-- **Defaults, checks and generation never panic exactly if the checks of `sriov` and `ovs` find the
pointers they read.** -/
theorem config_safe_iff (henv : CoordinatorManager.Parses env.netip) (generateEnv : GenerateEnv)
    (netAttachName : String) (hcoord : smc.spec.enableCoordinator.isSome) :
    (∃ mutated, mutateSpiderMultusConfig smc = .ok mutated ∧
      Returns (validateCNIConfig env mutated) ∧
      (validateCNIConfig env mutated = .ok () →
        Returns (generateNetAttachDef generateEnv netAttachName mutated))) ↔ SafelyChecked smc := by
  obtain ⟨smc', hmutated, hanno, -, -, hdef, hcoord'⟩ := mutateSpiderMultusConfig_eq smc
  have hchecked := validateSection_returns_iff hdef env hanno
  have hreturns := validateCNIConfig_returns_iff henv hdef.cniType
  constructor
  · rintro ⟨mutated, h, hval, -⟩
    obtain rfl := Except.ok.inj (hmutated.symm.trans h)
    exact hchecked.1 (hreturns.1 hval)
  · refine fun h => ⟨smc', hmutated, hreturns.2 (hchecked.2 h), fun hok => ?_⟩
    have hsection := validateSection_of_validate hdef.cniType hok
    exact generateNetAttachDef_returns hdef.cniType (hcoord' hcoord)
      (sectionComplete_of_validate hdef hsection)

end Multus

namespace Sample

def trunked (trunk : Multus.Trunk) : Multus.SpiderMultusConfig where
  name := "ovs"
  ns := "kube-system"
  spec := {
    cniType := some "ovs"
    enableCoordinator := some true
    ovsConfig := some { brName := "br1", trunk := [some trunk] } }

def generateEnv : Multus.GenerateEnv where
  jsonValid := fun _ => true
  unmarshal := fun _ => .ok .null
  marshal := fun rawList => .ok rawList.name

theorem validateEnv_parses : CoordinatorManager.Parses validateEnv.netip :=
  ⟨fun _ => returns_fail _, fun _ => returns_fail _⟩

theorem ranged_trunk_safe : ∃ mutated,
    Multus.mutateSpiderMultusConfig (trunked { minID := some 10, maxID := some 20 }) = .ok mutated ∧
      Returns (Multus.validateCNIConfig validateEnv mutated) ∧
      (Multus.validateCNIConfig validateEnv mutated = .ok () →
        Returns (Multus.generateNetAttachDef generateEnv "ovs" mutated)) :=
  (Multus.config_safe_iff validateEnv_parses generateEnv "ovs" rfl).2
    { sriov := fun h => absurd h (by decide)
      ovs := fun _ _ c hc _ front trunk rest htrunk _ => by
        obtain rfl := Option.some.inj hc
        rcases front with - | ⟨first, front⟩
        · obtain rfl := (List.cons.inj htrunk).1
          exact ⟨_, rfl, fun h => absurd h (by decide)⟩
        · exact absurd (List.cons.inj htrunk).2 (by simp) }

/-- A trunk with an upper end only makes the checks panic. -/
theorem open_trunk_panics : ∃ mutated,
    Multus.mutateSpiderMultusConfig (trunked { maxID := some 20 }) = .ok mutated ∧
      Multus.validateCNIConfig validateEnv mutated = .error .panic :=
  ⟨_, rfl, rfl⟩

end Sample

end Spiderpool
