/-
# SpiderMultusConfigs

The objects that users write to describe a CNI configuration, and the webhook that fills in what
they leave out (`pkg/multuscniconfig/multusconfig_mutate.go`). There are eight types of
configuration with a section each, most of whose fields are pointers.
-/

import Spiderpool.Coordinator.Validate
import Spiderpool.IPAM.Provider

namespace Spiderpool

namespace Constant

def macvlanCNI := "macvlan"
def ipvlanCNI := "ipvlan"
def sriovCNI := "sriov"
def ibSriovCNI := "ib-sriov"
def ipoibCNI := "ipoib"
def ovsCNI := "ovs"
def customCNI := "custom"
def vlanModeManual := "manual"

def cniAnnotationPre := "cni.spidernet.io"
def annoPodResourceInject := cniAnnotationPre ++ "/rdma-resource-inject"
def annoNetworkResourceInject := cniAnnotationPre ++ "/network-resource-inject"
def annoCNIConfigName := cniAnnotationPre ++ "/cniconfig-name"
def annoMultusConfigCNIVersion := "multus.spidernet.io/cni-version"

end Constant

namespace Multus

open Coordinator (CoordinatorSpec setCoordinatorDefaultConfig)

structure BondConfig where
  name : String
  mode : Int32
  options : Option String := none

structure SpiderpoolPools where
  matchMasterSubnet : Option Bool := none
  ipv4IPPool : List String := []
  ipv6IPPool : List String := []

structure SpiderMacvlanCniConfig where
  master : List String
  mtu : Option Int32 := none
  vlanID : Option Int32 := none
  bond : Option BondConfig := none
  rdmaResourceName : Option String := none
  spiderpoolConfigPools : Option SpiderpoolPools := none

/-- `SpiderIPvlanCniConfig`, which has the same fields. -/
abbrev SpiderIPvlanCniConfig := SpiderMacvlanCniConfig

structure SpiderVlanCniConfig extends SpiderMacvlanCniConfig where
  vlanMode : Option String := none

structure SpiderSRIOVCniConfig where
  resourceName : Option String := none
  vlanID : Option Int32 := none
  mtu : Option Int32 := none
  minTxRateMbps : Option Int64 := none
  maxTxRateMbps : Option Int64 := none
  rdmaIsolation : Option Bool := none
  spiderpoolConfigPools : Option SpiderpoolPools := none

structure SpiderIBSriovCniConfig where
  resourceName : Option String := none
  pkey : Option String := none
  linkState : Option String := none
  rdmaIsolation : Option Bool := none
  enableIbKubernetes : Option Bool := none
  spiderpoolConfigPools : Option SpiderpoolPools := none

structure SpiderIpoibCniConfig where
  master : String := ""
  spiderpoolConfigPools : Option SpiderpoolPools := none

structure Trunk where
  minID : Option UInt64 := none
  maxID : Option UInt64 := none
  id : Option UInt64 := none

/-- `SpiderOvsCniConfig`; the trunks are pointers. -/
structure SpiderOvsCniConfig where
  brName : String
  vlanTag : Option Int32 := none
  trunk : List (Option Trunk) := []
  deviceID : String := ""
  spiderpoolConfigPools : Option SpiderpoolPools := none

structure MultusCNIConfigSpec where
  cniType : Option String := none
  macvlanConfig : Option SpiderMacvlanCniConfig := none
  ipvlanConfig : Option SpiderIPvlanCniConfig := none
  vlanConfig : Option SpiderVlanCniConfig := none
  sriovConfig : Option SpiderSRIOVCniConfig := none
  ovsConfig : Option SpiderOvsCniConfig := none
  ibSriovConfig : Option SpiderIBSriovCniConfig := none
  ipoibConfig : Option SpiderIpoibCniConfig := none
  enableCoordinator : Option Bool := none
  disableIPAM : Option Bool := none
  coordinatorConfig : Option CoordinatorSpec := none
  chainCNIJsonData : List String := []
  customCNIConfig : Option String := none

structure SpiderMultusConfig where
  name : String
  ns : String
  annotations : GoMap String String := ∅
  labels : GoMap String String := ∅
  spec : MultusCNIConfigSpec

/-- What `pkg/ipam` reads of a SpiderMultusConfig. -/
def SpiderMultusConfig.ipam (smc : SpiderMultusConfig) : IPAM.SpiderMultusConfig where
  cniType := smc.spec.cniType
  vlanConfig := smc.spec.vlanConfig.map fun c => ⟨c.vlanMode, c.master, c.bond.map BondConfig.name⟩

/-- The cases of the `switch`es over `CniType`. -/
inductive CniKind where
  | macvlan
  | ipvlan
  | vlan
  | sriov
  | ibSriov
  | ipoib
  | ovs
  | custom
  | other
deriving DecidableEq

def CniKind.of (cniType : String) : CniKind :=
  if cniType = Constant.macvlanCNI then .macvlan
  else if cniType = Constant.ipvlanCNI then .ipvlan
  else if cniType = Constant.vlanCNI then .vlan
  else if cniType = Constant.sriovCNI then .sriov
  else if cniType = Constant.ibSriovCNI then .ibSriov
  else if cniType = Constant.ipoibCNI then .ipoib
  else if cniType = Constant.ovsCNI then .ovs
  else if cniType = Constant.customCNI then .custom
  else .other

def CniKind.text : CniKind → String
  | .macvlan => Constant.macvlanCNI
  | .ipvlan => Constant.ipvlanCNI
  | .vlan => Constant.vlanCNI
  | .sriov => Constant.sriovCNI
  | .ibSriov => Constant.ibSriovCNI
  | .ipoib => Constant.ipoibCNI
  | .ovs => Constant.ovsCNI
  | .custom => Constant.customCNI
  | .other => ""

theorem CniKind.of_eq_iff {cniType : String} {kind : CniKind} (hkind : kind ≠ .other) :
    CniKind.of cniType = kind ↔ cniType = kind.text := by
  constructor
  · rintro rfl
    unfold CniKind.of at hkind ⊢
    split_ifs at hkind ⊢ <;> first | assumption | exact absurd rfl hkind
  · rintro rfl
    cases kind <;> rfl

/-! ### Defaults -/

def setBondDefaultConfig (bond : BondConfig) : BondConfig :=
  { bond with options := some (bond.options.getD "") }

/-- `setMacvlanDefaultConfig`, of a section that is there. -/
def setMacvlanDefaultConfig (c : SpiderMacvlanCniConfig) : SpiderMacvlanCniConfig :=
  { c with
    vlanID := some (c.vlanID.getD 0)
    bond := c.bond.map setBondDefaultConfig
    mtu := some (c.mtu.getD 0)
    rdmaResourceName := some (c.rdmaResourceName.getD "")
    spiderpoolConfigPools := some (c.spiderpoolConfigPools.getD {}) }

/-- `setIPVlanDefaultConfig`, which sets the same fields. -/
def setIPVlanDefaultConfig (c : SpiderIPvlanCniConfig) : SpiderIPvlanCniConfig :=
  setMacvlanDefaultConfig c

/-- `setVlanDefaultConfig`. There is no VLAN ID by default if the provider assigns it. -/
def setVlanDefaultConfig (c : SpiderVlanCniConfig) : Result Empty SpiderVlanCniConfig := do
  let c := { c with vlanMode := some (c.vlanMode.getD Constant.vlanModeManual) }
  let vlanMode ← deref c.vlanMode
  let vlanID := if vlanMode = Constant.vlanModeManual then some (c.vlanID.getD 0) else c.vlanID
  return { setMacvlanDefaultConfig c.toSpiderMacvlanCniConfig with
    vlanID := vlanID
    vlanMode := c.vlanMode }

def setSriovDefaultConfig (c : SpiderSRIOVCniConfig) : SpiderSRIOVCniConfig where
  vlanID := some (c.vlanID.getD 0)
  mtu := some (c.mtu.getD 0)
  minTxRateMbps := some (c.minTxRateMbps.getD 0)
  maxTxRateMbps := some (c.maxTxRateMbps.getD 0)
  rdmaIsolation := some (c.rdmaIsolation.getD false)
  resourceName := some (c.resourceName.getD "")
  spiderpoolConfigPools :=
    let pools := c.spiderpoolConfigPools.getD {}
    some { pools with matchMasterSubnet := some (pools.matchMasterSubnet.getD false) }

def setIBSriovDefaultConfig (c : SpiderIBSriovCniConfig) : SpiderIBSriovCniConfig where
  pkey := some (c.pkey.getD "")
  enableIbKubernetes := some (c.enableIbKubernetes.getD false)
  rdmaIsolation := some (c.rdmaIsolation.getD true)
  resourceName := some (c.resourceName.getD "")
  linkState := some (c.linkState.getD "enable")
  spiderpoolConfigPools := some (c.spiderpoolConfigPools.getD {})

def setIpoibDefaultConfig (c : SpiderIpoibCniConfig) : SpiderIpoibCniConfig :=
  { c with spiderpoolConfigPools := some (c.spiderpoolConfigPools.getD {}) }

def setOvsDefaultConfig (c : SpiderOvsCniConfig) : SpiderOvsCniConfig :=
  { c with
    vlanTag := some (c.vlanTag.getD 0)
    spiderpoolConfigPools := some (c.spiderpoolConfigPools.getD {}) }

/-- The `switch` of `mutateSpiderMultusConfig`. -/
def setDefaultConfig (spec : MultusCNIConfigSpec) (cniType : String) :
    Result Empty MultusCNIConfigSpec :=
  match CniKind.of cniType with
  | .macvlan => .ok { spec with macvlanConfig := spec.macvlanConfig.map setMacvlanDefaultConfig }
  | .ipvlan => .ok { spec with ipvlanConfig := spec.ipvlanConfig.map setIPVlanDefaultConfig }
  | .vlan => do
    let vlanConfig ← spec.vlanConfig.mapM setVlanDefaultConfig
    return { spec with vlanConfig }
  | .sriov => .ok { spec with sriovConfig := spec.sriovConfig.map setSriovDefaultConfig }
  | .ibSriov => .ok { spec with ibSriovConfig := spec.ibSriovConfig.map setIBSriovDefaultConfig }
  | .ipoib => .ok { spec with ipoibConfig := spec.ipoibConfig.map setIpoibDefaultConfig }
  | .ovs => .ok { spec with ovsConfig := spec.ovsConfig.map setOvsDefaultConfig }
  | .custom => .ok { spec with customCNIConfig := some (spec.customCNIConfig.getD "") }
  | .other => .ok spec

/-- The coordinator of an object: there is none in a custom configuration. -/
def setCoordinator (spec : MultusCNIConfigSpec) (cniType : String) : MultusCNIConfigSpec :=
  if cniType = Constant.customCNI then
    { spec with coordinatorConfig := none, enableCoordinator := some false }
  else
    { spec with coordinatorConfig := some (setCoordinatorDefaultConfig spec.coordinatorConfig) }

def labelOf (annotations : GoMap String String) (labels : GoMap String String) (key : String) :
    GoMap String String :=
  match annotations.lookup key with
  | none => labels
  | some value => labels.insert key value

def mutateSpiderMultusConfig (smc : SpiderMultusConfig) : Result Empty SpiderMultusConfig := do
  let spec := { smc.spec with cniType := some (smc.spec.cniType.getD Constant.customCNI) }
  let cniType ← deref spec.cniType
  let spec ← setDefaultConfig spec cniType
  let cniType ← deref spec.cniType
  return { smc with
    spec := setCoordinator spec cniType
    labels := [Constant.annoPodResourceInject, Constant.annoNetworkResourceInject].foldl
      (labelOf smc.annotations) smc.labels }

/-! ### What the webhook makes of an object -/

def defaultedVlan (c : SpiderVlanCniConfig) : SpiderVlanCniConfig :=
  let vlanMode := c.vlanMode.getD Constant.vlanModeManual
  { setMacvlanDefaultConfig c.toSpiderMacvlanCniConfig with
    vlanID := if vlanMode = Constant.vlanModeManual then some (c.vlanID.getD 0) else c.vlanID
    vlanMode := some vlanMode }

/-- The sections of a configuration of the given type, with their defaults. -/
structure Defaulted (kind : CniKind) (spec spec' : MultusCNIConfigSpec) : Prop where
  cniType : spec'.cniType = spec.cniType
  chain : spec'.chainCNIJsonData = spec.chainCNIJsonData
  macvlan : spec'.macvlanConfig =
    if kind = .macvlan then spec.macvlanConfig.map setMacvlanDefaultConfig else spec.macvlanConfig
  ipvlan : spec'.ipvlanConfig =
    if kind = .ipvlan then spec.ipvlanConfig.map setIPVlanDefaultConfig else spec.ipvlanConfig
  vlan : spec'.vlanConfig =
    if kind = .vlan then spec.vlanConfig.map defaultedVlan else spec.vlanConfig
  sriov : spec'.sriovConfig =
    if kind = .sriov then spec.sriovConfig.map setSriovDefaultConfig else spec.sriovConfig
  ibSriov : spec'.ibSriovConfig =
    if kind = .ibSriov then spec.ibSriovConfig.map setIBSriovDefaultConfig else spec.ibSriovConfig
  ipoib : spec'.ipoibConfig =
    if kind = .ipoib then spec.ipoibConfig.map setIpoibDefaultConfig else spec.ipoibConfig
  ovs : spec'.ovsConfig =
    if kind = .ovs then spec.ovsConfig.map setOvsDefaultConfig else spec.ovsConfig

theorem setDefaultConfig_defaulted (spec : MultusCNIConfigSpec) (cniType : String) :
    ∃ spec', setDefaultConfig spec cniType = .ok spec' ∧
      Defaulted (CniKind.of cniType) spec spec' ∧
      spec'.enableCoordinator = spec.enableCoordinator := by
  unfold setDefaultConfig
  split <;> rename_i hkind <;> rw [hkind]
  case h_3 =>
    have hvlan : spec.vlanConfig.mapM setVlanDefaultConfig =
        .ok (spec.vlanConfig.map defaultedVlan) := by
      cases spec.vlanConfig <;> rfl
    rw [hvlan]
    exact ⟨_, rfl, by constructor <;> rfl, rfl⟩
  all_goals exact ⟨_, rfl, by constructor <;> rfl, rfl⟩

/-- **What the webhook makes of an object.**  It has a type, the section of that type has its
defaults, and a custom configuration has no coordinator. -/
theorem mutateSpiderMultusConfig_eq (smc : SpiderMultusConfig) :
    ∃ smc', mutateSpiderMultusConfig smc = .ok smc' ∧ smc'.annotations = smc.annotations ∧
      smc'.name = smc.name ∧ smc'.ns = smc.ns ∧
      Defaulted (CniKind.of (smc.spec.cniType.getD Constant.customCNI))
        { smc.spec with cniType := some (smc.spec.cniType.getD Constant.customCNI) } smc'.spec ∧
      (smc.spec.enableCoordinator.isSome → smc'.spec.enableCoordinator.isSome) := by
  obtain ⟨spec', hspec', hdef, hcoord⟩ := setDefaultConfig_defaulted
    { smc.spec with cniType := some (smc.spec.cniType.getD Constant.customCNI) }
    (smc.spec.cniType.getD Constant.customCNI)
  refine ⟨{ smc with
    spec := setCoordinator spec' (smc.spec.cniType.getD Constant.customCNI)
    labels := [Constant.annoPodResourceInject, Constant.annoNetworkResourceInject].foldl
      (labelOf smc.annotations) smc.labels }, ?_, rfl, rfl, rfl, ?_, ?_⟩
  · have hrun : mutateSpiderMultusConfig smc = (do
        let spec ← setDefaultConfig
          { smc.spec with cniType := some (smc.spec.cniType.getD Constant.customCNI) }
          (smc.spec.cniType.getD Constant.customCNI)
        let cniType ← deref spec.cniType
        return { smc with
          spec := setCoordinator spec cniType
          labels := [Constant.annoPodResourceInject, Constant.annoNetworkResourceInject].foldl
            (labelOf smc.annotations) smc.labels }) := rfl
    rw [hrun, bind_eq_ok]
    refine ⟨spec', hspec', bind_eq_ok.2 ⟨_, deref_eq_ok.2 hdef.cniType, rfl⟩⟩
  · unfold setCoordinator
    split_ifs
    all_goals exact { hdef with }
  · intro hsome
    unfold setCoordinator
    split_ifs
    · rfl
    · exact hcoord ▸ hsome

end Multus
end Spiderpool
