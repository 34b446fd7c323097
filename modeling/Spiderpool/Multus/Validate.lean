/-
# The checks of a SpiderMultusConfig

`validateCNIConfig` of `pkg/multuscniconfig/multusconfig_validate.go`, which the webhook calls after
the defaults have been filled in. The three types with a list of master interfaces share their
checks (`validateMasters`), and the six that resources can be injected for share the last of them
(`validateInjected`).

Two checks of the source look at something else than what they have just tested. A negative MTU of
`sriov` is reported with the MTU of the `macvlan` section (`validateSriovMTU`), and the upper end of a
trunk is compared with a lower end that may be missing (`validateTrunk`).
-/

import Spiderpool.Multus.Config

namespace Spiderpool
namespace Multus

def cniTypeField := "spec.cniType"
def macvlanConfigField := "spec.macvlanConfig"
def ipvlanConfigField := "spec.ipvlanConfig"
def vlanConfigField := "spec.vlan"
def sriovConfigField := "spec.sriovConfig"
def ibsriovConfigField := "spec.ibsriovConfig"
def ipoibConfigField := "spec.ipoibConfig"
def ovsConfigField := "spec.ovsConfig"
def customCniConfigField := "spec.customCniTypeConfig"
def chainCniConfigField := "spec.chainCNIJsonData"

inductive BadValue where
  | nil
  | int32 (n : Int32)
  | int (n : Int64)
  | macvlan (c : SpiderMacvlanCniConfig)
  | vlan (c : SpiderVlanCniConfig)
  | sriov (c : SpiderSRIOVCniConfig)
  | ibSriov (c : SpiderIBSriovCniConfig)
  | ipoib (c : SpiderIpoibCniConfig)
  | trunk (t : Option Trunk)
  | coordinator (v : CoordinatorManager.BadValue)

abbrev Check := Result (ConfigError BadValue) Unit

structure ValidateEnv where
  netip : Coordinator.ParseEnv
  /-- `json.Valid`. -/
  jsonValid : String → Bool
  /-- The `type` that `json.Unmarshal` reads into a `NetConf`, or the text of its error. -/
  netConfType : String → Except String String

/-- `if err != nil { return … }`, of an error that is none or has a text. -/
def failWith (err : Option String) (e : String → ConfigError BadValue) : Check :=
  ifSome err fun text => fail (e text)

def checkExistedConfig (spec : MultusCNIConfigSpec) (exclude : String) : Bool :=
  exclude ≠ Constant.macvlanCNI && spec.macvlanConfig.isSome ||
  exclude ≠ Constant.ipvlanCNI && spec.ipvlanConfig.isSome ||
  exclude ≠ Constant.vlanCNI && spec.vlanConfig.isSome ||
  exclude ≠ Constant.ovsCNI && spec.ovsConfig.isSome ||
  exclude ≠ Constant.sriovCNI && spec.sriovConfig.isSome ||
  exclude ≠ Constant.ibSriovCNI && spec.ibSriovConfig.isSome ||
  exclude ≠ Constant.ipoibCNI && spec.ipoibConfig.isSome ||
  exclude ≠ Constant.customCNI && spec.customCNIConfig.isSome

/-- `validateVlanCNIConfig`: the text of its error. -/
def validateVlanCNIConfig (master : List String) (bond : Option BondConfig) : Option String :=
  if master.length = 0 then some "master can't be empty"
  else if 2 ≤ master.length then
    match bond with
    | none => some "the bond property is nil with multiple Interfaces"
    | some bond => if bond.name = "" then some "bond name can't be empty" else none
  else none

def VlanIDInRange (vlanID : Int32) : Prop := 0 ≤ vlanID ∧ vlanID ≤ 4094

instance (vlanID : Int32) : Decidable (VlanIDInRange vlanID) :=
  inferInstanceAs (Decidable (_ ∧ _))

/-- `validateVlanID`: the text of its error. -/
def validateVlanID (vlanID : Option Int32) : Option String :=
  match vlanID with
  | none => none
  | some vlanID =>
    if VlanIDInRange vlanID then none
    else some ("invalid vlanId " ++ toString vlanID.toInt ++ ", please make sure vlanId in range [0,4094]")

/-- `validateVlanMode`: the text of its error. -/
def validateVlanMode (vlanMode : Option String) (vlanID : Option Int32) : Option String :=
  match vlanMode with
  | none => some "vlanMode must not be nil"
  | some vlanMode =>
    if vlanMode = Constant.vlanModeManual then
      if vlanID = none then some "vlanId must not be nil when vlanMode is manual" else none
    else if vlanMode = Constant.vlanModeAuto then
      if vlanID ≠ none then some "vlanId must not be specified when vlanMode is auto" else none
    else some ("invalid vlanMode " ++ vlanMode ++ ", supported values are manual and auto")

def noPools (name ns : String) (ippools : Option SpiderpoolPools) : Option String :=
  if ippools.any fun pools => pools.ipv4IPPool.length + pools.ipv6IPPool.length ≠ 0 then none
  else some ("no any ippools configured for spidermultusconfig " ++ ns ++ "/" ++ name)

/-- `ValidateRdmaResouce`: the text of its error. -/
def validateRdmaResouce (name ns rdmaResourceName : String) (ippools : Option SpiderpoolPools) :
    Option String :=
  if rdmaResourceName = "" then
    some ("rdmaResourceName can not empty for spidermultusconfig " ++ ns ++ "/" ++ name)
  else noPools name ns ippools

/-- `ValidateNetworkResouce`: the text of its error. -/
def validateNetworkResouce (name ns resourceName : String) (ippools : Option SpiderpoolPools) :
    Option String :=
  if resourceName = "" then none else noPools name ns ippools

def validateOnly (smc : SpiderMultusConfig) (cniType configField : String) : Check :=
  failIf (checkExistedConfig smc.spec cniType) (.forbidden cniTypeField ("the cniType " ++ cniType ++
    " only supports " ++ configField ++ ", please remove other CNI configs"))

/-- The checks of an object whose resource is injected into Pods. -/
def validateInjected (smc : SpiderMultusConfig) (configField : String) (config : BadValue)
    (resourceName : Option String) (ippools : Option SpiderpoolPools) : Check := do
  (if (smc.annotations.lookup Constant.annoPodResourceInject).isSome then do
    let rdmaResourceName ← deref resourceName
    failWith (validateRdmaResouce smc.name smc.ns rdmaResourceName ippools) (.invalid configField config)
  else .ok ())
  (if (smc.annotations.lookup Constant.annoNetworkResourceInject).isSome then
    failWith (validateNetworkResouce smc.name smc.ns (resourceName.getD "") ippools)
      (.invalid configField config)
  else .ok ())

def checkVlanID (configField : String) (vlanID : Option Int32) : Check :=
  ifSome (validateVlanID vlanID) fun text => do
    let vlanID ← deref vlanID
    fail (.invalid configField (.int32 vlanID) text)

def validateMasters (smc : SpiderMultusConfig) (c : SpiderMacvlanCniConfig)
    (cniType configField : String) (config : BadValue) : Check := do
  checkVlanID configField c.vlanID
  ifSome c.mtu fun mtu =>
    failIf (mtu < 0) (.invalid configField (.int32 mtu) "MTU must be greater than or equal to 0")
  failIf (c.spiderpoolConfigPools.bind SpiderpoolPools.matchMasterSubnet = some true)
    (.invalid configField config ("MatchMasterSubnet feature is not supported for " ++ cniType))
  failWith (validateVlanCNIConfig c.master c.bond) (.invalid configField config)
  validateOnly smc cniType configField
  validateInjected smc configField config c.rdmaResourceName c.spiderpoolConfigPools

def withSection {α : Type} (config : Option α) (configField : String) (check : α → Check) : Check :=
  match config with
  | none => fail (.required configField ("no " ++ configField ++ " specified"))
  | some c => check c

def validateMacvlan (smc : SpiderMultusConfig) : Check :=
  withSection smc.spec.macvlanConfig macvlanConfigField fun c =>
    validateMasters smc c Constant.macvlanCNI macvlanConfigField (.macvlan c)

def validateIPvlan (smc : SpiderMultusConfig) : Check :=
  withSection smc.spec.ipvlanConfig ipvlanConfigField fun c =>
    validateMasters smc c Constant.ipvlanCNI ipvlanConfigField (.macvlan c)

def validateVlan (smc : SpiderMultusConfig) : Check :=
  withSection smc.spec.vlanConfig vlanConfigField fun c => do
    failWith (validateVlanMode c.vlanMode c.vlanID) (.invalid vlanConfigField (.vlan c))
    validateMasters smc c.toSpiderMacvlanCniConfig Constant.vlanCNI vlanConfigField (.vlan c)

/-- The check of the MTU for `sriov`, whose error shows the MTU of another section. -/
def validateSriovMTU (smc : SpiderMultusConfig) (c : SpiderSRIOVCniConfig) : Check :=
  if c.mtu.any (· < 0) then do
    let macvlanConfig ← deref smc.spec.macvlanConfig
    let mtu ← deref macvlanConfig.mtu
    fail (.invalid macvlanConfigField (.int32 mtu) "MTU must be greater than or equal to 0")
  else .ok ()

def validateResourceName (resourceName : Option String) (configField : String) : Check :=
  failIf (resourceName.getD "" = "")
    (.required configField ("no " ++ configField ++ "[resourceName] specified"))

def validateSriov (smc : SpiderMultusConfig) : Check :=
  withSection smc.spec.sriovConfig sriovConfigField fun c => do
    checkVlanID sriovConfigField c.vlanID
    validateSriovMTU smc c
    ifSome c.minTxRateMbps fun minTxRateMbps => ifSome c.maxTxRateMbps fun maxTxRateMbps =>
      failIf (minTxRateMbps > maxTxRateMbps) (.invalid sriovConfigField (.int minTxRateMbps)
        "minTxRateMbps must be less than maxTxRateMbps")
    validateResourceName c.resourceName sriovConfigField
    validateOnly smc Constant.sriovCNI sriovConfigField
    validateInjected smc sriovConfigField (.sriov c) c.resourceName c.spiderpoolConfigPools

/-- The case for `ib-sriov`; its error about other sections names that of `sriov`. -/
def validateIBSriov (smc : SpiderMultusConfig) : Check :=
  withSection smc.spec.ibSriovConfig ibsriovConfigField fun c => do
    validateResourceName c.resourceName ibsriovConfigField
    validateOnly smc Constant.ibSriovCNI sriovConfigField
    validateInjected smc ibsriovConfigField (.ibSriov c) c.resourceName c.spiderpoolConfigPools

/-- The case for `ipoib`; its error about other sections names that of `sriov`. -/
def validateIPoIB (smc : SpiderMultusConfig) : Check :=
  withSection smc.spec.ipoibConfig ipoibConfigField fun c => do
    failIf (c.master = "")
      (.required ipoibConfigField ("no " ++ ipoibConfigField ++ "[master] specified"))
    validateOnly smc Constant.ipoibCNI sriovConfigField
    validateInjected smc ipoibConfigField (.ipoib c) (some c.master) c.spiderpoolConfigPools

/-- The check that nothing is injected for an object of this type. -/
def validateNotInjected (smc : SpiderMultusConfig) (cniType : String) : Check :=
  failIf ((smc.annotations.lookup Constant.annoPodResourceInject).isSome ∨
      (smc.annotations.lookup Constant.annoNetworkResourceInject).isSome)
    (.forbidden cniTypeField ("the cniType " ++ cniType ++
      " does not support RDMA resource or network resource injected"))

/-- A turn of the loop over the trunks of `ovs`. -/
def validateTrunk (trunk : Option Trunk) : Check := do
  let t ← deref trunk
  ifSome t.minID fun minID =>
    failIf (4094 < minID) (.invalid ovsConfigField (.trunk trunk) "incorrect trunk minID parameter")
  ifSome t.maxID fun maxID => do
    failIf (4094 < maxID) (.invalid ovsConfigField (.trunk trunk) "incorrect trunk maxID parameter")
    let minID ← deref t.minID
    failIf (maxID < minID)
      (.invalid ovsConfigField (.trunk trunk) "minID is greater than maxID in trunk parameter")
  ifSome t.id fun id =>
    failIf (4096 < id) (.invalid ovsConfigField (.trunk trunk) "incorrect trunk id parameter")

/-- The case for `ovs`; its error about other sections names that of `sriov`. -/
def validateOvs (smc : SpiderMultusConfig) : Check := do
  validateNotInjected smc Constant.ovsCNI
  withSection smc.spec.ovsConfig ovsConfigField fun c => do
    checkVlanID ovsConfigField c.vlanTag
    c.trunk.forM validateTrunk
    validateOnly smc Constant.ovsCNI sriovConfigField

def validateCustom (env : ValidateEnv) (smc : SpiderMultusConfig) : Check := do
  validateNotInjected smc Constant.customCNI
  validateOnly smc Constant.customCNI customCniConfigField
  ifSome smc.spec.customCNIConfig fun config =>
    failIf (config ≠ "" ∧ env.jsonValid config = false)
      (.forbidden customCniConfigField "customCniConfig isn't a valid JSON encoding")

/-- The `switch` of `validateCNIConfig`. -/
def validateSection (env : ValidateEnv) (smc : SpiderMultusConfig) (cniType : String) : Check :=
  match CniKind.of cniType with
  | .macvlan => validateMacvlan smc
  | .ipvlan => validateIPvlan smc
  | .vlan => validateVlan smc
  | .sriov => validateSriov smc
  | .ibSriov => validateIBSriov smc
  | .ipoib => validateIPoIB smc
  | .ovs => validateOvs smc
  | .custom => validateCustom env smc
  | .other => .ok ()

/-- `libcni.ConfFromBytes`, as far as its error goes. -/
def confFromBytes (env : ValidateEnv) (conf : String) : Option String :=
  match env.netConfType conf with
  | .error text => some ("error parsing configuration: " ++ text)
  | .ok type => if type = "" then some "error parsing configuration: missing 'type'" else none

def validateCNIConfig (env : ValidateEnv) (smc : SpiderMultusConfig) : Check :=
  match smc.spec.cniType with
  | none => fail (.invalid cniTypeField .nil "CniType must not be nil")
  | some cniType => do
    validateSection env smc cniType
    ifSome smc.spec.coordinatorConfig fun coordinatorConfig =>
      mapErr (.map .coordinator)
        (CoordinatorManager.validateCoordinatorSpec env.netip coordinatorConfig false)
    smc.spec.chainCNIJsonData.forM fun cf =>
      failWith (confFromBytes env cf) fun text =>
        .forbidden chainCniConfigField ("invalid " ++ cf ++ ": " ++ text)

/-! ### Which checks return -/

variable {env : ValidateEnv} {smc : SpiderMultusConfig}

@[simp] theorem failWith_returns (err : Option String) (e : String → ConfigError BadValue) :
    Returns (failWith err e) :=
  returns_ifSome fun _ _ => returns_fail _

theorem failWith_eq_ok {err : Option String} {e : String → ConfigError BadValue} :
    failWith err e = .ok () ↔ err = none := by
  cases err <;> simp [failWith, ifSome]

section

variable {vlanID : Option Int32} {configField cniType : String} {config : BadValue}
  {c : SpiderMacvlanCniConfig}

theorem validateVlanID_eq_none :
    validateVlanID vlanID = none ↔ ∀ v, vlanID = some v → VlanIDInRange v := by
  cases vlanID <;> simp [validateVlanID]

theorem checkVlanID_returns (configField : String) (vlanID : Option Int32) :
    Returns (checkVlanID configField vlanID) := by
  refine returns_ifSome fun text htext => ?_
  cases vlanID with
  | none => cases htext
  | some v => exact returns_fail _

theorem checkVlanID_eq_ok (configField : String) :
    checkVlanID configField vlanID = .ok () ↔ ∀ v, vlanID = some v → VlanIDInRange v := by
  rw [← validateVlanID_eq_none, checkVlanID]
  cases vlanID with
  | none => exact ⟨fun _ => rfl, fun _ => rfl⟩
  | some v => cases validateVlanID (some v) <;> simp [ifSome, deref, bind, Except.bind]

theorem validateInjected_returns
    {resourceName : Option String} {ippools : Option SpiderpoolPools} (h : resourceName.isSome) :
    Returns (validateInjected smc configField config resourceName ippools) := by
  refine Returns.seq ?_ fun _ _ => ?_
  · split_ifs
    · exact (returns_deref_iff.2 h).seq fun _ _ => failWith_returns _ _
    · exact returns_ok ()
  · split_ifs
    · exact failWith_returns _ _
    · exact returns_ok ()

theorem validateMasters_returns (h : c.rdmaResourceName.isSome) :
    Returns (validateMasters smc c cniType configField config) := by
  refine (checkVlanID_returns _ _).seq fun _ _ => ?_
  refine (returns_ifSome fun _ _ => returns_failIf _ _).seq fun _ _ => ?_
  refine (returns_failIf _ _).seq fun _ _ => ?_
  refine (failWith_returns _ _).seq fun _ _ => ?_
  exact (returns_failIf _ _).seq fun _ _ => validateInjected_returns h

theorem withSection_returns {α : Type} {config : Option α} {check : α → Check}
    (h : ∀ c, config = some c → Returns (check c)) :
    Returns (withSection config configField check) := by
  cases config with
  | none => exact returns_fail _
  | some c => exact h c rfl

theorem withSection_eq_ok {α : Type} {config : Option α} {check : α → Check}
    (h : withSection config configField check = .ok ()) :
    ∃ c, config = some c ∧ check c = .ok () := by
  cases config with
  | none => cases h
  | some c => exact ⟨c, rfl, h⟩

theorem masters_of_validate (h : validateMasters smc c cniType configField config = .ok ()) :
    c.master.length = 1 ∨ 2 ≤ c.master.length ∧ ∃ bond, c.bond = some bond ∧ bond.name ≠ "" := by
  unfold validateMasters at h
  obtain ⟨-, h⟩ := seq_eq_ok.1 h
  obtain ⟨-, h⟩ := seq_eq_ok.1 h
  obtain ⟨-, h⟩ := seq_eq_ok.1 h
  have hmaster := failWith_eq_ok.1 (seq_eq_ok.1 h).1
  unfold validateVlanCNIConfig at hmaster
  split_ifs at hmaster with hempty hmany
  · split at hmaster
    · cases hmaster
    · rename_i bond hbond
      split_ifs at hmaster with hname
      exact .inr ⟨hmany, bond, hbond, hname⟩
  · exact .inl (by omega)

theorem validateSection_of_validate (htype : smc.spec.cniType = some cniType)
    (h : validateCNIConfig env smc = .ok ()) : validateSection env smc cniType = .ok () := by
  unfold validateCNIConfig at h
  rw [htype] at h
  exact (seq_eq_ok.1 h).1

end

/-! ### The two checks that may not -/

def SriovMTUChecked (smc : SpiderMultusConfig) (c : SpiderSRIOVCniConfig) : Prop :=
  c.mtu.any (· < 0) → (smc.spec.macvlanConfig.bind SpiderMacvlanCniConfig.mtu).isSome

theorem validateSriovMTU_returns_iff {c : SpiderSRIOVCniConfig} :
    Returns (validateSriovMTU smc c) ↔ SriovMTUChecked smc c := by
  unfold validateSriovMTU SriovMTUChecked
  split_ifs with hmtu
  · rcases smc.spec.macvlanConfig with - | m
    · simp [deref, hmtu, bind, Except.bind]
    · rcases hm : m.mtu with - | mtu <;> simp [deref, hmtu, hm, bind, Except.bind]
  · simp [hmtu]

/-- A trunk that is there, and has a lower end if its upper end is compared with it. -/
def TrunkChecked (trunk : Option Trunk) : Prop :=
  ∃ t, trunk = some t ∧ (t.minID = none → ∀ maxID, t.maxID = some maxID → 4094 < maxID)

def TrunkAccepted (trunk : Option Trunk) : Prop :=
  ∃ t, trunk = some t ∧ (∀ minID, t.minID = some minID → minID ≤ 4094) ∧
    (∀ maxID, t.maxID = some maxID → maxID ≤ 4094 ∧ ∃ minID, t.minID = some minID ∧ minID ≤ maxID) ∧
    ∀ id, t.id = some id → id ≤ 4096

theorem validateTrunk_eq_ok {trunk : Option Trunk} :
    validateTrunk trunk = .ok () ↔ TrunkAccepted trunk := by
  constructor
  · intro h
    obtain ⟨t, ht, h⟩ := bind_eq_ok.1 h
    obtain ⟨hmin, h⟩ := seq_eq_ok.1 h
    obtain ⟨hmax, hid⟩ := seq_eq_ok.1 h
    refine ⟨t, deref_eq_ok.1 ht, fun m hm => UInt64.not_lt.1 (failIf_eq_ok.1 (ifSome_eq_ok.1 hmin m hm)),
      fun m hm => ?_, fun m hm => UInt64.not_lt.1 (failIf_eq_ok.1 (ifSome_eq_ok.1 hid m hm))⟩
    obtain ⟨hle, h⟩ := seq_eq_ok.1 (ifSome_eq_ok.1 hmax m hm)
    obtain ⟨minID, hminID, h⟩ := bind_eq_ok.1 h
    exact ⟨UInt64.not_lt.1 (failIf_eq_ok.1 hle), minID, deref_eq_ok.1 hminID,
      UInt64.not_lt.1 (failIf_eq_ok.1 h)⟩
  · rintro ⟨t, rfl, hmin, hmax, hid⟩
    refine seq_eq_ok.2 ⟨ifSome_eq_ok.2 fun m hm => failIf_eq_ok.2 (UInt64.not_lt.2 (hmin m hm)),
      seq_eq_ok.2 ⟨ifSome_eq_ok.2 fun m hm => ?_,
        ifSome_eq_ok.2 fun m hm => failIf_eq_ok.2 (UInt64.not_lt.2 (hid m hm))⟩⟩
    obtain ⟨hle, minID, hminID, hminle⟩ := hmax m hm
    refine seq_eq_ok.2 ⟨failIf_eq_ok.2 (UInt64.not_lt.2 hle), bind_eq_ok.2 ⟨minID, ?_, ?_⟩⟩
    · exact deref_eq_ok.2 hminID
    · exact failIf_eq_ok.2 (UInt64.not_lt.2 hminle)

theorem validateTrunk_returns_iff {trunk : Option Trunk} :
    Returns (validateTrunk trunk) ↔ TrunkChecked trunk := by
  rcases trunk with - | t
  · simp [validateTrunk, TrunkChecked, deref, bind, Except.bind]
  · constructor
    · intro h
      refine ⟨t, rfl, fun hmin maxID hmax => ?_⟩
      by_contra hle
      have hrun : validateTrunk (some t) = .error .panic := by
        simp [validateTrunk, deref, ifSome, failIf, hmin, hmax, hle, bind, Except.bind]
      exact absurd (hrun ▸ h) not_returns_panic
    · rintro ⟨t', ht', hmin⟩
      obtain rfl := Option.some.inj ht'
      refine (returns_ifSome fun _ _ => returns_failIf _ _).seq fun _ _ => ?_
      refine Returns.seq (returns_ifSome fun maxID hmax => ?_) fun _ _ =>
        returns_ifSome fun _ _ => returns_failIf _ _
      refine (returns_failIf _ _).seq fun _ hle => ?_
      refine Returns.seq (returns_deref_iff.2 ?_) fun _ _ => returns_failIf _ _
      by_contra hnone
      exact failIf_eq_ok.1 hle (hmin (Option.not_isSome_iff_eq_none.1 hnone) maxID hmax)

end Multus
end Spiderpool
