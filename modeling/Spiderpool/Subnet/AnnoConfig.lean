/-
# The subnets and the number of addresses an application asks for

`GetSubnetAnnoConfig` of `pkg/applicationcontroller/applicationinformers/utils.go` and what it
calls: the annotations of a Pod, or of the Pod template of an application, are read into a
`PodSubnetAnnoConfig`. The number of addresses is either fixed or, with a plus sign, a surplus
over the replicas; without the annotation it is the surplus that the cluster is configured
with.
-/

import Spiderpool.Endpoint.Convert

namespace Spiderpool

structure PodSubnetAnnoConfig where
  multipleSubnets : List AnnoSubnetItem := []
  singleSubnet : Option AnnoSubnetItem := none
  flexibleIPNum : Option ℤ := none
  assignIPNum : ℤ := 0
  reclaimIPPool : Bool := false
deriving DecidableEq

def PodSubnetAnnoConfig.string (config : PodSubnetAnnoConfig) : String :=
  let multiple := config.multipleSubnets.map fun item =>
    "\x7b" ++ item.interface ++ " " ++ formatList item.ipv4 ++ " " ++ formatList item.ipv6 ++ "\x7d"
  let single := match config.singleSubnet with
    | none => "nil"
    | some item => "\x7bInterface:" ++ item.interface ++ ",IPv4:" ++ formatList item.ipv4 ++
        ",IPv6:" ++ formatList item.ipv6 ++ "\x7d"
  let flexible := match config.flexibleIPNum with
    | none => "nil"
    | some n => "*" ++ toString n
  "&PodSubnetAnnoConfig\x7bMultipleSubnets" ++ formatList multiple ++ ",SingleSubnet:" ++ single ++
    ",FlexibleIPNum:" ++ flexible ++ ",AssignIPNumber:" ++ toString config.assignIPNum ++
    ",ReclaimIPPool:" ++ toString config.reclaimIPPool ++ ",\x7d"

def getAppReplicas (replicas : Option ℤ) : ℤ := replicas.getD 0

def calculateJobPodNum (parallelism completions : Option ℤ) : ℤ :=
  match parallelism, completions with
  | some p, none => if p = 0 then 1 else p
  | none, some c => if c = 0 then 1 else c
  | some _, some c => if c = 0 then 1 else c
  | none, none => 1

def errInvalidInput (str : String) : Err := .new ("invalid input '" ++ str ++ "'")

/-- `GetPoolIPNumber`: whether there is a plus sign, and the number behind it. -/
def getPoolIPNumber (str : String) : Result Err (Bool × ℤ) :=
  if str.toList.count '+' = 0 ∨ str.toList.count '+' = 1 then
    let after := (cut str '+').2
    let tmp := after.getD str
    match atoi tmp with
    | none => fail (.wrap "" (errInvalidInput str) (": " ++ atoiErr tmp))
    | some ipNum => .ok (after.isSome, ipNum)
  else fail (errInvalidInput str)

/-- `GetPoolIPNumber` and the check behind it, which both callers make alike. -/
def checkedPoolIPNumber (str : String) : Result Err (Bool × ℤ) := do
  let (isFlexible, ipNum) ← getPoolIPNumber str
  failIf (ipNum < 0)
    (.new "subnet 'ipam.spidernet.io/ippool-ip-number' value must equal or greater than 0")
  return (isFlexible, ipNum)

def shouldReclaimIPPool (anno : PodAnnotations) : Result Err Bool :=
  match anno.reclaimIPPool with
  | none => .ok true
  | some value =>
    match parseBool value with
    | some reclaim => .ok reclaim
    | none => fail (.new ("failed to parse spider subnet 'ipam.spidernet.io/ippool-reclaim', " ++
        "error: strconv.ParseBool: parsing \"" ++ value ++ "\": invalid syntax"))

def containsDuplicate (arr : List String) : Bool :=
  let sorted := sortSlice (fun a b => decide (a < b)) arr
  (sorted.zip sorted.tail).any fun p => p.1 = p.2

/-- The first of the subnets of one version, which must have a name. -/
def firstSubnet (emptyErr : Err) : List String → Result Err (List String)
  | [] => .ok []
  | name :: _ => if name = "" then fail emptyErr else .ok [name]

/-- The item of an interface with the first subnet of each version, of which there must be
one. An error may print the item as it has become by then. -/
def firstSubnets (emptyErr : String → AnnoSubnetItem → Err) (noneErr : Err) (item : AnnoSubnetItem) :
    Result Err AnnoSubnetItem := do
  let ipv4 ← firstSubnet (emptyErr "IPv4" { item with ipv4 := [""] }) item.ipv4
  let ipv6 ← firstSubnet (emptyErr "IPv6" { item with ipv4 := ipv4, ipv6 := [""] }) item.ipv6
  failIf (ipv4 = [] ∧ ipv6 = []) noneErr
  return { item with ipv4 := ipv4, ipv6 := ipv6 }

/-- The loop of `mutateAndValidateSubnetAnno` over the items of several interfaces, of which it
has done the first. -/
def mutateSubnets (config : PodSubnetAnnoConfig) (done : List AnnoSubnetItem) :
    List AnnoSubnetItem → Result Err (List AnnoSubnetItem)
  | [] => .ok done
  | item :: items => do
    let item' ← firstSubnets
      (fun version _ => .new ("it's invalid to set an empty " ++ version ++
        " subnet with mutilple interfaces"))
      (.new ("it's invalid to set dual empty subnet with multiple interfaces: " ++
        { config with multipleSubnets := done ++ item :: items }.string)) item
    mutateSubnets config (done ++ [item']) items

def mutateAndValidateSubnetAnno (config : PodSubnetAnnoConfig) : Result Err PodSubnetAnnoConfig :=
  if config.multipleSubnets ≠ [] then do
    let items ← mutateSubnets config [] config.multipleSubnets
    let config := { config with multipleSubnets := items }
    failIf (containsDuplicate (items.flatMap (·.ipv4)) ∨ containsDuplicate (items.flatMap (·.ipv6)))
      (.new ("it's invalid to use the same subnet for multiple interfaces: " ++ config.string))
    failIf (containsDuplicate (items.map (·.interface))) (.new
      ("it's invalid to use the same Interface name for multiple interfaces: " ++ config.string))
    return config
  else
    match config.singleSubnet with
    | none => fail (.new ("no subnets specified: " ++ config.string))
    | some item => do
      let item ← firstSubnets
        (fun version item => .new ("it's invalid to set an empty " ++ version ++
          " subnet with single interface: " ++ { config with singleSubnet := some item }.string))
        (.new ("it's invalid to set dual empty subnet with single interface: " ++ config.string)) item
      let interface :=
        if item.interface = "" then Constant.clusterDefaultInterfaceName else item.interface
      return { config with singleSubnet := some { item with interface := interface } }

/-- `json.Unmarshal` of the value of a subnet annotation. The value stands in the error too,
and is left out here. -/
def unmarshalSubnetAnno {α : Type} (anno : String) : Json α → Result Err α
  | .doc a => .ok a
  | .malformed error =>
    fail (.new ("failed to parse anntation '" ++ anno ++ "' value, error: " ++ error))

/-- The subnets of the annotations: of several interfaces, or else of one. -/
def subnetsOfAnno (anno : PodAnnotations) : Result Err (Option PodSubnetAnnoConfig) :=
  match anno.subnets, anno.subnet with
  | some subnets, _ => do
    let items ← unmarshalSubnetAnno "ipam.spidernet.io/subnets" subnets
    return some { multipleSubnets := items }
  | none, some subnet => do
    let item ← unmarshalSubnetAnno "ipam.spidernet.io/subnet" subnet
    return some { singleSubnet := item }
  | none, none => .ok none

/-- The number of addresses of the annotations, put into the configuration. -/
def PodSubnetAnnoConfig.setIPNumber (redundant : Int64) (config : PodSubnetAnnoConfig)
    (poolIPNumber : Option String) : Result Err PodSubnetAnnoConfig :=
  match poolIPNumber with
  | none => .ok { config with flexibleIPNum := some redundant.toInt }
  | some value => do
    let (isFlexible, ipNum) ← checkedPoolIPNumber value
    return if isFlexible then { config with flexibleIPNum := some ipNum }
      else { config with assignIPNum := ipNum }

/-- `GetSubnetAnnoConfig`, where `redundant` is
`ClusterSubnetAutoPoolDefaultRedundantIPNumber`. Without an annotation for subnets there is no
configuration. -/
def getSubnetAnnoConfig (redundant : Int64) (anno : PodAnnotations) :
    Result Err (Option PodSubnetAnnoConfig) := do
  match ← subnetsOfAnno anno with
  | none => return none
  | some config => do
    let config ← config.setIPNumber redundant anno.poolIPNumber
    let reclaimPool ← shouldReclaimIPPool anno
    let config ← mutateAndValidateSubnetAnno { config with reclaimIPPool := reclaimPool }
    return some config

/-- `applyAutoIPPool`'s number of addresses for a pool. -/
def PodSubnetAnnoConfig.desiredIPNumber (config : PodSubnetAnnoConfig) (appReplicas : ℤ) : ℤ :=
  match config.flexibleIPNum with
  | some n => addInt appReplicas n
  | none => config.assignIPNum

section

variable {redundant : Int64} {anno : PodAnnotations} {config config' : PodSubnetAnnoConfig}

/-- `n` is the number of addresses that an annotation asks for, with that many replicas. -/
def NumberAsked (redundant : Int64) (poolIPNumber : Option String) (replicas n : ℤ) : Prop :=
  match poolIPNumber with
  | none => n = addInt replicas redundant.toInt
  | some value => ∃ isFlexible ipNum, checkedPoolIPNumber value = .ok (isFlexible, ipNum) ∧
      n = if isFlexible then addInt replicas ipNum else ipNum

theorem checkedPoolIPNumber_flexible {value : String} {isFlexible : Bool} {ipNum : ℤ}
    (h : checkedPoolIPNumber value = .ok (isFlexible, ipNum)) :
    isFlexible = (cut value '+').2.isSome := by
  obtain ⟨⟨isFlexible', ipNum'⟩, hnumber, h⟩ := bind_eq_ok.1 h
  obtain ⟨-, h⟩ := seq_eq_ok.1 h
  obtain ⟨rfl, rfl⟩ := Prod.mk.inj (Except.ok.inj h)
  unfold getPoolIPNumber at hnumber
  split_ifs at hnumber
  · dsimp only at hnumber
    split at hnumber
    · cases hnumber
    · exact (Prod.mk.inj (Except.ok.inj hnumber)).1.symm
  · cases hnumber

theorem numberAsked_none_iff {redundant' : Int64} {replicas n n' : ℤ}
    (h : NumberAsked redundant none replicas n) (h' : NumberAsked redundant' none replicas n') :
    n = n' ↔ redundant = redundant' := by
  rw [NumberAsked] at h h'
  rw [h, h', addInt_inj ⟨redundant.le_toInt, redundant.toInt_lt⟩
    ⟨redundant'.le_toInt, redundant'.toInt_lt⟩, Int64.toInt_inj]

/-- An annotation gives the same number for two numbers of replicas only if it asks for a fixed
number or they are the same. -/
theorem numberAsked_some_iff {redundant' : Int64} {value : String} {replicas replicas' n n' : ℤ}
    (hrange : -2 ^ 63 ≤ replicas ∧ replicas < 2 ^ 63)
    (hrange' : -2 ^ 63 ≤ replicas' ∧ replicas' < 2 ^ 63)
    (h : NumberAsked redundant (some value) replicas n)
    (h' : NumberAsked redundant' (some value) replicas' n') :
    n = n' ↔ (cut value '+').2 = none ∨ replicas = replicas' := by
  obtain ⟨isFlexible, ipNum, hvalue, rfl⟩ := h
  obtain ⟨isFlexible', ipNum', hvalue', rfl⟩ := h'
  obtain ⟨rfl, rfl⟩ := Prod.mk.inj (Except.ok.inj (hvalue.symm.trans hvalue'))
  obtain rfl := checkedPoolIPNumber_flexible hvalue
  cases (cut value '+').2 with
  | none => simp
  | some after =>
    simp [addInt_comm replicas, addInt_comm replicas', addInt_inj hrange hrange']

theorem mutateAndValidate_number (h : mutateAndValidateSubnetAnno config = .ok config')
    (replicas : ℤ) : config'.desiredIPNumber replicas = config.desiredIPNumber replicas := by
  unfold mutateAndValidateSubnetAnno at h
  split_ifs at h
  · obtain ⟨items, -, h⟩ := bind_eq_ok.1 h
    obtain ⟨-, h⟩ := seq_eq_ok.1 h
    obtain ⟨-, h⟩ := seq_eq_ok.1 h
    obtain rfl := Except.ok.inj h
    rfl
  · split at h
    · cases h
    · obtain ⟨item, -, h⟩ := bind_eq_ok.1 h
      obtain rfl := Except.ok.inj h
      rfl

theorem subnetsOfAnno_number (h : subnetsOfAnno anno = .ok (some config)) :
    config.flexibleIPNum = none := by
  unfold subnetsOfAnno at h
  split at h
  · obtain ⟨items, -, h⟩ := bind_eq_ok.1 h
    obtain rfl := Option.some.inj (Except.ok.inj h)
    rfl
  · obtain ⟨item, -, h⟩ := bind_eq_ok.1 h
    obtain rfl := Option.some.inj (Except.ok.inj h)
    rfl
  · cases h

theorem setIPNumber_number {poolIPNumber : Option String}
    (h : config.setIPNumber redundant poolIPNumber = .ok config')
    (hnone : config.flexibleIPNum = none) (replicas : ℤ) :
    NumberAsked redundant poolIPNumber replicas (config'.desiredIPNumber replicas) := by
  cases poolIPNumber with
  | none =>
    obtain rfl := Except.ok.inj h
    rfl
  | some value =>
    obtain ⟨⟨isFlexible, ipNum⟩, hvalue, h⟩ := bind_eq_ok.1 h
    obtain rfl := Except.ok.inj h
    refine ⟨isFlexible, ipNum, hvalue, ?_⟩
    cases isFlexible with
    | true => rfl
    | false => simp [PodSubnetAnnoConfig.desiredIPNumber, hnone]

theorem getSubnetAnnoConfig_number (h : getSubnetAnnoConfig redundant anno = .ok (some config))
    (replicas : ℤ) :
    NumberAsked redundant anno.poolIPNumber replicas (config.desiredIPNumber replicas) := by
  obtain ⟨subnets, hsubnets, h⟩ := bind_eq_ok.1 h
  cases subnets with
  | none => cases h
  | some config₀ =>
    obtain ⟨config₁, hnumber, h⟩ := bind_eq_ok.1 h
    obtain ⟨reclaimPool, -, h⟩ := bind_eq_ok.1 h
    obtain ⟨config₂, hvalid, h⟩ := bind_eq_ok.1 h
    obtain rfl := Option.some.inj (Except.ok.inj h)
    rw [mutateAndValidate_number hvalid]
    exact setIPNumber_number hnumber (subnetsOfAnno_number hsubnets) replicas

end

end Spiderpool
