/-
# The CNI configuration of a SpiderMultusConfig

`generateNetAttachDef` of `pkg/multuscniconfig/multusconfig_informer.go` and the functions that it
calls. The plugins of a configuration form a chain: the plugin of the object's type, before it the
one that makes the interfaces it needs (`ifacer`), behind it the coordinator and what the user adds.

A document is written by `json.Marshal`, which is a parameter.
-/

import Spiderpool.Multus.Validate

namespace Spiderpool

namespace Constant

def spiderpool := "spiderpool"
def ifacer := "ifacer"
def resourceNameAnnot := "k8s.v1.cni.cncf.io/resourceName"
def resourceNameOvsCniValue := "ovs-cni.network.kubevirt.io"

end Constant

namespace Multus

open Coordinator (CoordinatorNetConf generateCoordinatorCNIConf)

def cniVersion031 := "0.3.1"

/-- `IPAMConfig`, of the fields that are set. -/
structure IPAMConfig where
  type : String
  defaultIPv4IPPool : List String := []
  defaultIPv6IPPool : List String := []
  matchMasterSubnet : Bool := false

structure MacvlanNetConf where
  type : String
  master : String
  mode : String
  mtu : Option Int32
  ipam : Option IPAMConfig

structure IPvlanNetConf where
  type : String
  master : String
  mtu : Option Int32
  ipam : Option IPAMConfig

structure VlanNetConf where
  type : String
  master : String
  vlanMode : Option String
  vlanID : Option Int32
  mtu : Option Int32
  ipam : Option IPAMConfig

structure SRIOVNetConf where
  type : String
  vlan : Option Int32
  minTxRate : Option Int64
  maxTxRate : Option Int64
  ipam : Option IPAMConfig

structure IBSRIOVNetConf where
  type : String
  pkey : Option String
  linkState : Option String
  rdmaIsolation : Option Bool
  ibKubernetesEnabled : Option Bool
  ipam : Option IPAMConfig

structure IPoIBNetConf where
  type : String
  master : String
  ipam : Option IPAMConfig

structure OvsNetConf where
  type : String
  vlan : Option Int32 := none
  brName : String := ""
  deviceID : String := ""
  ipam : Option IPAMConfig
  trunk : List (Option Trunk) := []

structure IfacerNetConf where
  type : String
  interfaces : List String
  vlanID : Int64
  bond : Option BondConfig

inductive Plugin where
  | macvlan (c : MacvlanNetConf)
  | ipvlan (c : IPvlanNetConf)
  | vlan (c : VlanNetConf)
  | sriov (c : SRIOVNetConf)
  | ibSriov (c : IBSRIOVNetConf)
  | ipoib (c : IPoIBNetConf)
  | ovs (c : OvsNetConf)
  | ifacer (c : IfacerNetConf)
  | rdma (type : String)
  | tuning (type : String) (mtu : Int32)
  | coordinator (c : CoordinatorNetConf)
  | chain (plugin : JsonValue)

structure RawList where
  name : String
  cniVersion : String
  plugins : List Plugin

structure GenerateEnv where
  /-- `json.Valid`. -/
  jsonValid : String → Bool
  /-- `json.Unmarshal` into an interface, or the text of its error. -/
  unmarshal : String → Except String JsonValue
  /-- `json.Marshal`, or the text of its error. -/
  marshal : RawList → Except String String

structure NetworkAttachmentDefinition where
  name : String
  ns : String
  annotations : GoMap String String
  config : String

/-! ### The plugins -/

def generateIPAM (disableIPAM : Bool) (pools : Option SpiderpoolPools) : Option IPAMConfig :=
  if disableIPAM then none
  else some {
    type := Constant.spiderpool
    defaultIPv4IPPool := (pools.getD {}).ipv4IPPool
    defaultIPv6IPPool := (pools.getD {}).ipv6IPPool }

def masterName (c : SpiderMacvlanCniConfig) : Result Err String :=
  match c.master with
  | [master] => .ok master
  | _ => do
    let bond ← deref c.bond
    return bond.name

def subinterface (masterName : String) (vlanID : Option Int32) : String :=
  match vlanID with
  | none => masterName
  | some vlanID => if vlanID = 0 then masterName else masterName ++ "." ++ toString vlanID.toInt

def generateMacvlanCNIConf (disableIPAM : Bool) (spec : MultusCNIConfigSpec) :
    Result Err MacvlanNetConf := do
  let c ← deref spec.macvlanConfig
  let master ← masterName c
  return {
    type := Constant.macvlanCNI
    master := subinterface master c.vlanID
    mode := "bridge"
    mtu := c.mtu
    ipam := generateIPAM disableIPAM c.spiderpoolConfigPools }

def generateIPvlanCNIConf (disableIPAM : Bool) (spec : MultusCNIConfigSpec) :
    Result Err IPvlanNetConf := do
  let c ← deref spec.ipvlanConfig
  let master ← masterName c
  return {
    type := Constant.ipvlanCNI
    master := subinterface master c.vlanID
    mtu := c.mtu
    ipam := generateIPAM disableIPAM c.spiderpoolConfigPools }

def generateVlanCNIConf (disableIPAM : Bool) (spec : MultusCNIConfigSpec) :
    Result Err VlanNetConf := do
  let c ← deref spec.vlanConfig
  let master ← masterName c.toSpiderMacvlanCniConfig
  return {
    type := Constant.vlanCNI
    master := master
    vlanMode := c.vlanMode
    vlanID := if c.vlanMode = some Constant.vlanModeManual then c.vlanID else none
    mtu := c.mtu
    ipam := generateIPAM disableIPAM c.spiderpoolConfigPools }

def generateSriovCNIConf (disableIPAM : Bool) (c : SpiderSRIOVCniConfig) : SRIOVNetConf where
  type := Constant.sriovCNI
  vlan := c.vlanID
  minTxRate := c.minTxRateMbps
  maxTxRate := c.maxTxRateMbps
  ipam := (generateIPAM disableIPAM c.spiderpoolConfigPools).map fun ipam =>
    { ipam with matchMasterSubnet := ((c.spiderpoolConfigPools.getD {}).matchMasterSubnet).getD false }

def generateIBSriovCNIConf (disableIPAM : Bool) (c : SpiderIBSriovCniConfig) : IBSRIOVNetConf where
  type := Constant.ibSriovCNI
  pkey := c.pkey
  linkState := c.linkState
  rdmaIsolation := c.rdmaIsolation
  ibKubernetesEnabled := c.enableIbKubernetes
  ipam := generateIPAM disableIPAM c.spiderpoolConfigPools

def generateIpoibCNIConf (disableIPAM : Bool) (spec : MultusCNIConfigSpec) :
    Result Err IPoIBNetConf := do
  let c ← deref spec.ipoibConfig
  return {
    type := Constant.ipoibCNI
    master := c.master
    ipam := generateIPAM disableIPAM c.spiderpoolConfigPools }

/-- `generateOvsCNIConf`. The section may be missing if the address management is disabled. -/
def generateOvsCNIConf (disableIPAM : Bool) (spec : MultusCNIConfigSpec) : Result Err OvsNetConf := do
  let ipam ← (if disableIPAM then .ok none
    else do
      let c ← deref spec.ovsConfig
      return generateIPAM disableIPAM c.spiderpoolConfigPools)
  match spec.ovsConfig with
  | none => return { type := Constant.ovsCNI, ipam := ipam }
  | some c => return {
    type := Constant.ovsCNI
    vlan := c.vlanTag
    brName := c.brName
    deviceID := c.deviceID
    ipam := ipam
    trunk := c.trunk }

def generateIfacer (master : List String) (vlanID : Int32) (bond : Option BondConfig) :
    IfacerNetConf where
  type := Constant.ifacer
  interfaces := master
  vlanID := vlanID.toInt64
  bond := bond

/-- The plugin that makes the VLAN interface or the bond that `macvlan` and `ipvlan` need. -/
def subVlanPlugins (c : SpiderMacvlanCniConfig) : Result Err (List Plugin) :=
  if c.vlanID.any (· ≠ 0) ∨ 2 ≤ c.master.length then do
    let vlanID ← deref c.vlanID
    return [.ifacer (generateIfacer c.master vlanID c.bond)]
  else .ok []

/-! ### The definition -/

def chainPlugins (env : GenerateEnv) (chain : List String) : Result Err (List Plugin) :=
  chain.mapM fun cf =>
    match env.unmarshal cf with
    | .error text => fail (.new ("failed to unmarshal chain cni config " ++ cf ++ ": " ++ text))
    | .ok plugin => .ok (.chain plugin)

/-- `marshalCniConfig2String`, with the text that its caller puts before the error. -/
def marshalCniConfig2String (env : GenerateEnv) (text : String) (rawList : RawList) :
    Result Err String :=
  match env.marshal rawList with
  | .error e => fail (.new (text ++ ": " ++ e))
  | .ok confStr => .ok confStr

/-- The `switch` of `generateNetAttachDef`: the document, and the annotations. -/
def generateConfig (env : GenerateEnv) (spec : MultusCNIConfigSpec) (cniConfigName cniVersion : String)
    (plugins : List Plugin) (anno : GoMap String String) :
    Result Err (String × GoMap String String) := do
  let disableIPAM := spec.disableIPAM.getD false
  let marshal := fun text plugins =>
    marshalCniConfig2String env text ⟨cniConfigName, cniVersion, plugins⟩
  let cniType ← deref spec.cniType
  match CniKind.of cniType with
  | .macvlan => do
    let conf ← generateMacvlanCNIConf disableIPAM spec
    let c ← deref spec.macvlanConfig
    let sub ← subVlanPlugins c
    let confStr ← marshal "failed to marshalCniConfig2String" (sub ++ .macvlan conf :: plugins)
    return (confStr, anno)
  | .ipvlan => do
    let conf ← generateIPvlanCNIConf disableIPAM spec
    let c ← deref spec.ipvlanConfig
    let sub ← subVlanPlugins c
    let confStr ← marshal "failed to marshalCniConfig2String" (sub ++ .ipvlan conf :: plugins)
    return (confStr, anno)
  | .vlan => do
    let conf ← generateVlanCNIConf disableIPAM spec
    let c ← deref spec.vlanConfig
    let sub := if 2 ≤ c.master.length then [Plugin.ifacer (generateIfacer c.master 0 c.bond)] else []
    let confStr ← marshal "failed to marshalCniConfig2String" (sub ++ .vlan conf :: plugins)
    return (confStr, anno)
  | .sriov => do
    let c ← deref spec.sriovConfig
    let resourceName ← deref c.resourceName
    let rdma := if c.rdmaIsolation = some true then [Plugin.rdma "rdma"] else []
    let tuning := match c.mtu with
      | some mtu => if 0 < mtu then [Plugin.tuning "tuning" mtu] else []
      | none => []
    let confStr ← marshal "failed to marshal sriov cniConfig to String"
      (.sriov (generateSriovCNIConf disableIPAM c) :: (rdma ++ plugins ++ tuning))
    return (confStr, anno.insert Constant.resourceNameAnnot resourceName)
  | .ibSriov => do
    let c ← deref spec.ibSriovConfig
    let resourceName ← deref c.resourceName
    let confStr ← marshal "failed to marshal ib-sriov cniConfig to String"
      (.ibSriov (generateIBSriovCNIConf disableIPAM c) :: plugins)
    return (confStr, anno.insert Constant.resourceNameAnnot resourceName)
  | .ipoib => do
    let conf ← generateIpoibCNIConf disableIPAM spec
    let confStr ← marshal "failed to marshal ipoib cniConfig to String" (.ipoib conf :: plugins)
    return (confStr, anno)
  | .ovs => do
    let conf ← generateOvsCNIConf disableIPAM spec
    let confStr ← marshal "failed to marshal ovs cniConfig to String" (.ovs conf :: plugins)
    let c ← deref spec.ovsConfig
    return (confStr, if c.deviceID = "" then anno
      else anno.insert Constant.resourceNameAnnot (Constant.resourceNameOvsCniValue ++ "/" ++ c.brName))
  | .custom =>
    match spec.customCNIConfig with
    | none => .ok ("", anno)
    | some config => do
      failIf (config ≠ "" ∧ env.jsonValid config = false)
        (.new "customCniConfig isn't a valid JSON encoding")
      return (config, anno)
  | .other => fail (.wrap "" (.of .errWrongInput) (": unrecognized CNI type " ++ cniType))

def generateNetAttachDef (env : GenerateEnv) (netAttachName : String) (smc : SpiderMultusConfig) :
    Result Err NetworkAttachmentDefinition := do
  let plugins ← chainPlugins env smc.spec.chainCNIJsonData
  let hasCoordinator ← deref smc.spec.enableCoordinator
  let plugins := if hasCoordinator then
      plugins ++ [.coordinator (generateCoordinatorCNIConf smc.spec.coordinatorConfig)]
    else plugins
  let cniVersion := (smc.annotations.lookup Constant.annoMultusConfigCNIVersion).getD cniVersion031
  let cniConfigName := match (smc.annotations.lookup Constant.annoCNIConfigName).getD "" with
    | "" => netAttachName
    | name => name
  let (confStr, anno) ← generateConfig env smc.spec cniConfigName cniVersion plugins smc.annotations
  return { name := netAttachName, ns := smc.ns, annotations := anno, config := confStr }

/-! ### The master interface of a VLAN -/

theorem masterName_of_masters {c : SpiderMacvlanCniConfig}
    (h : c.master.length = 1 ∨ 2 ≤ c.master.length ∧ ∃ bond, c.bond = some bond ∧ bond.name ≠ "") :
    ∃ name, masterName c = .ok name := by
  unfold masterName
  split
  · exact ⟨_, rfl⟩
  · rename_i hmany
    rcases h with h | ⟨-, bond, hbond, -⟩
    · obtain ⟨master, hmaster⟩ := List.length_eq_one_iff.1 h
      exact absurd hmaster (hmany master)
    · exact ⟨bond.name, by rw [hbond]; rfl⟩

theorem vlan_of_validate {env : ValidateEnv} {smc : SpiderMultusConfig}
    (htype : smc.spec.cniType = some Constant.vlanCNI) (hok : validateCNIConfig env smc = .ok ()) :
    ∃ c, smc.spec.vlanConfig = some c ∧
      (c.master.length = 1 ∨ 2 ≤ c.master.length ∧ ∃ bond, c.bond = some bond ∧ bond.name ≠ "") := by
  have hsection := validateSection_of_validate htype hok
  obtain ⟨c, hc, hcheck⟩ := withSection_eq_ok hsection
  exact ⟨c, hc, masters_of_validate (seq_eq_ok.1 hcheck).2⟩

theorem getMasterIface_vlan {smc : SpiderMultusConfig} {c : SpiderVlanCniConfig}
    (htype : smc.spec.cniType = some Constant.vlanCNI) (hc : smc.spec.vlanConfig = some c)
    (hmasters : c.master.length = 1 ∨
      2 ≤ c.master.length ∧ ∃ bond, c.bond = some bond ∧ bond.name ≠ "") :
    IPAM.getMasterIfaceFromMultusConfig smc.ipam =
      if c.master.length ≤ 2 then masterName c.toSpiderMacvlanCniConfig
      else fail (.new ("no master interface found for CniType " ++ Constant.vlanCNI)) := by
  have hipam : smc.ipam = ⟨some Constant.vlanCNI,
      some ⟨c.vlanMode, c.master, c.bond.map BondConfig.name⟩⟩ := by
    unfold SpiderMultusConfig.ipam
    rw [htype, hc]
    rfl
  rw [hipam, masterName]
  rcases hm : c.master with - | ⟨first, - | ⟨second, - | ⟨third, rest⟩⟩⟩
  · simp [hm] at hmasters
  · rfl
  · obtain ⟨bond, hbond, -⟩ : ∃ bond, c.bond = some bond ∧ bond.name ≠ "" := by
      simpa [hm] using hmasters
    rw [hbond]
    rfl
  · rw [if_neg (by simp)]
    rfl

/-- **The master interface that the IPAM looks up is the one of the CNI configuration for at most
two master interfaces.**  With three or more the configuration has the bond, and the IPAM
finds no master interface at all. -/
theorem master_agrees_iff {env : ValidateEnv} {smc : SpiderMultusConfig} (disableIPAM : Bool)
    (htype : smc.spec.cniType = some Constant.vlanCNI) (hok : validateCNIConfig env smc = .ok ()) :
    (∃ conf, generateVlanCNIConf disableIPAM smc.spec = .ok conf ∧
      IPAM.getMasterIfaceFromMultusConfig smc.ipam = .ok conf.master) ↔
      ∀ c, smc.spec.vlanConfig = some c → c.master.length ≤ 2 := by
  obtain ⟨c, hc, hmasters⟩ := vlan_of_validate htype hok
  have hiface := getMasterIface_vlan htype hc hmasters
  constructor
  · rintro ⟨conf, -, hmaster⟩ c' hc'
    obtain rfl := Option.some.inj (hc.symm.trans hc')
    by_contra hmany
    rw [hiface, if_neg hmany] at hmaster
    cases hmaster
  · intro hfew
    obtain ⟨name, hname⟩ := masterName_of_masters hmasters
    rw [hiface, if_pos (hfew c hc), hname]
    refine ⟨_, bind_eq_ok.2 ⟨c, deref_eq_ok.2 hc, bind_eq_ok.2 ⟨name, hname, rfl⟩⟩, rfl⟩

end Multus

namespace Sample

def validateEnv : Multus.ValidateEnv where
  netip := { parseAddr := fun s => fail (.new s), parsePrefix := fun s => fail (.new s) }
  jsonValid := fun _ => true
  netConfType := fun _ => .ok "tuning"

def bonded (master : List String) : Multus.SpiderMultusConfig where
  name := "vlan"
  ns := "kube-system"
  spec := {
    cniType := some "vlan"
    enableCoordinator := some true
    vlanConfig := some {
      master := master, vlanMode := some "auto", bond := some { name := "bond0", mode := 1 } } }

theorem two_masters_agree :
    Multus.validateCNIConfig validateEnv (bonded ["eth1", "eth2"]) = .ok () ∧
      ∃ conf, Multus.generateVlanCNIConf false (bonded ["eth1", "eth2"]).spec = .ok conf ∧
        IPAM.getMasterIfaceFromMultusConfig (bonded ["eth1", "eth2"]).ipam = .ok conf.master :=
  have hok : Multus.validateCNIConfig validateEnv (bonded ["eth1", "eth2"]) = .ok () := rfl
  ⟨hok, (Multus.master_agrees_iff false rfl hok).2 fun c hc => by
    obtain rfl := Option.some.inj hc
    decide⟩

/-- The three interfaces are accepted and bonded, and the IPAM finds no master interface. -/
theorem three_masters_differ :
    Multus.validateCNIConfig validateEnv (bonded ["eth1", "eth2", "eth3"]) = .ok () ∧
      (∃ conf, Multus.generateVlanCNIConf false (bonded ["eth1", "eth2", "eth3"]).spec = .ok conf ∧
        conf.master = "bond0") ∧
      IPAM.getMasterIfaceFromMultusConfig (bonded ["eth1", "eth2", "eth3"]).ipam =
        fail (.new "no master interface found for CniType vlan") :=
  ⟨rfl, ⟨_, rfl, rfl⟩, rfl⟩

end Sample

end Spiderpool
