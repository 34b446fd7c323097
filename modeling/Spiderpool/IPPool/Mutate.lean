/-
# The mutating webhook

`pkg/ippoolmanager/ippool_mutate.go` and `IPPoolWebhook.Default`. `mutateIPPool`
changes the pool step by step and returns at the first error; `Default` only logs that
error, so what the steps before it have changed stays (`Mutation`). A range that never
ends in `MergeIPRanges` keeps the request from being answered at all.
-/

import Spiderpool.Subnet.Types

namespace Spiderpool

namespace Constant

def labelSubnetCIDR := annotationPre ++ "/subnet-cidr"
def kindSpiderSubnet := "SpiderSubnet"
def spiderpoolV2beta1 := spiderpoolAPIGroup ++ "/v2beta1"

end Constant

/-- The settings of `IPPoolWebhook` and what its clients show it: `Client.List` of subnets,
`APIReader.List` of pools, each filtered by label where it is called, and the label
selector check of `apimachinery`. -/
structure IPPoolWebhook (FieldError : Type) where
  enableIPv4 : Bool := true
  enableIPv6 : Bool := true
  enableSpiderSubnet : Bool := false
  enableValidatingResourcesDeletedWebhook : Bool := false
  subnets : Result Err (List SpiderSubnet) := .ok []
  ipPools : Result Err (List IPPool) := .ok []
  validateLabelSelector : LabelSelector → List FieldError := fun _ => []

/-- A pool on its way through `mutateIPPool`, and the error that ended it, if one did. -/
abbrev Mutated := Result Empty (IPPool × Option Err)

/-- A step of `mutateIPPool`. -/
abbrev Mutation := IPPool → Mutated

namespace Mutation

def seq (f g : Mutation) : Mutation := fun p =>
  match f p with
  | .ok (p, none) => g p
  | r => r

/-- `v, err := r; if err != nil { return wrap(err) }`, with the pool as it is. -/
def orReturn {α : Type} (r : Result Err α) (wrap : Err → Err) (p : IPPool) (k : α → Mutated) :
    Mutated :=
  match r with
  | .ok a => k a
  | .error (.err e) => .ok (p, some (wrap e))
  | .error .panic => .error .panic
  | .error .hang => .error .hang

end Mutation

/-- `AddFinalizer`, unless it is there. -/
def addFinalizer (p : IPPool) : IPPool :=
  if Constant.spiderFinalizer ∈ p.finalizers then p
  else { p with finalizers := p.finalizers ++ [Constant.spiderFinalizer] }

/-- The step that derives `spec.ipVersion` from `spec.subnet`. -/
def setIPVersion : Mutation := fun p =>
  match p.spec.ipVersion with
  | some _ => .ok (p, none)
  | none =>
    if isIPv4CIDR p.spec.subnet then
      .ok ({ p with spec := { p.spec with ipVersion := some Constant.ipv4 } }, none)
    else if isIPv6CIDR p.spec.subnet then
      .ok ({ p with spec := { p.spec with ipVersion := some Constant.ipv6 } }, none)
    else
      .ok (p, some (.new ("failed to generate 'spec.ipVersion' from 'spec.subnet' " ++
        p.spec.subnet ++ ", nothing to mutate")))

def setCIDRLabel : Mutation := fun p =>
  Mutation.orReturn (do cidrToLabelValue (← deref p.spec.ipVersion) p.spec.subnet)
    (fun e => .wrap ("failed to parse 'spec.subnet' " ++ p.spec.subnet ++
      " as a valid label value: ") e "") p
    fun cidr => .ok ({ p with labels := p.labels.insert Constant.labelIPPoolCIDR cidr }, none)

/-- The group of an API version; nothing, if it has more than one slash. -/
def groupOf (apiVersion : String) : Option String :=
  match split apiVersion '/' with
  | [_] => some ""
  | [group, _] => some group
  | _ => none

def referSameObject (a b : OwnerReference) : Bool :=
  match groupOf a.apiVersion, groupOf b.apiVersion with
  | some g, some g' => g == g' && a.kind == b.kind && a.name == b.name
  | _, _ => false

def upsertOwnerRef (ref : OwnerReference) : List OwnerReference → List OwnerReference
  | [] => [ref]
  | r :: rs => if referSameObject r ref then ref :: rs else r :: upsertOwnerRef ref rs

def setControllerReference (subnet : SpiderSubnet) (p : IPPool) : Result Err IPPool :=
  let ref : OwnerReference :=
    ⟨Constant.spiderpoolV2beta1, Constant.kindSpiderSubnet, subnet.name, subnet.uid, true⟩
  match (getControllerOf p.ownerReferences).filter fun existing => !referSameObject existing ref with
  | some existing =>
    fail (.new ("Object /" ++ p.name ++ " is already owned by another " ++ existing.kind ++
      " controller " ++ existing.name))
  | none => .ok { p with ownerReferences := upsertOwnerRef ref p.ownerReferences }

def isControlledBy (p : IPPool) (subnet : SpiderSubnet) : Bool :=
  (getControllerOf p.ownerReferences).any fun ref => ref.uid == subnet.uid

def inheritSubnetProperties (subnet : SpiderSubnet) (p : IPPool) : IPPool :=
  { p with spec := { p.spec with
      gateway := p.spec.gateway.or subnet.spec.gateway
      routes := if subnet.spec.routes ≠ [] ∧ p.spec.routes = none then some subnet.spec.routes
        else p.spec.routes } }

variable {FieldError : Type}

/-- The owner reference `setControllerSubnet` sets, unless it is there. -/
def attachSubnet (subnet : SpiderSubnet) (p : IPPool) : Result Err IPPool :=
  if isControlledBy p subnet then .ok p
  else mapErr (.wrap "failed to set owner reference: " · "") (setControllerReference subnet p)

/-- `setControllerSubnet`: the pool, and the subnet it now belongs to. -/
def setControllerSubnet (iw : IPPoolWebhook FieldError) (p : IPPool) :
    Result Err (IPPool × Option SpiderSubnet) :=
  let owner := getControllerOf p.ownerReferences
  let label := p.labels.lookup Constant.labelIPPoolOwnerSpiderSubnet
  if owner.isSome ∧ label = owner.map OwnerReference.name then .ok (p, none)
  else do
    let version ← deref p.spec.ipVersion
    let cidr ← mapErr (.wrap ("failed to parse CIDR " ++ p.spec.subnet ++
      " as a valid label value: ") · "") (cidrToLabelValue version p.spec.subnet)
    let list ← mapErr (.wrap "failed to list Subnets: " · "") iw.subnets
    match list.filter fun s => s.labels.lookup Constant.labelSubnetCIDR = some cidr with
    | [] => .ok (p, none)
    | subnet :: _ =>
      let p ← attachSubnet subnet p
      return ({ p with labels := p.labels.insert Constant.labelIPPoolOwnerSpiderSubnet subnet.name },
        some subnet)

/-- The step that attaches the pool to a subnet and takes over what the subnet sets. -/
def setSubnet (iw : IPPoolWebhook FieldError) : Mutation := fun p =>
  if iw.enableSpiderSubnet then
    Mutation.orReturn (setControllerSubnet iw p)
      (.wrap "Internal error occurred: failed to set the reference of the controller Subnet: " · "") p
      fun
        | (p, some subnet) => .ok (inheritSubnetProperties subnet p, none)
        | (p, none) => .ok (p, none)
  else .ok (p, none)

def mergeIfMany (version : Option IPVersion) (ranges : List String) : Result Err (List String) :=
  if 1 < ranges.length then do mergeIPRanges (← deref version) ranges else .ok ranges

def mergeIPs : Mutation := fun p =>
  Mutation.orReturn (mergeIfMany p.spec.ipVersion p.spec.ips)
    (.wrap "failed to merge 'spec.ips': " · "") p
    fun ips => .ok ({ p with spec := { p.spec with ips := ips } }, none)

def mergeExcludeIPs : Mutation := fun p =>
  Mutation.orReturn (mergeIfMany p.spec.ipVersion p.spec.excludeIPs)
    (.wrap "failed to merge 'spec.excludeIPs': " · "") p
    fun ips => .ok ({ p with spec := { p.spec with excludeIPs := ips } }, none)

def mutateIPPool (iw : IPPoolWebhook FieldError) : Mutation := fun p =>
  if p.deletionTimestamp.isSome then .ok (p, none)
  else
    (setIPVersion.seq (setCIDRLabel.seq ((setSubnet iw).seq (mergeIPs.seq mergeExcludeIPs))))
      (addFinalizer p)

/-- `Default`: the error is only logged. -/
def defaultIPPool (iw : IPPoolWebhook FieldError) (p : IPPool) : Result Empty IPPool := do
  let r ← mutateIPPool iw p
  return r.1

end Spiderpool
