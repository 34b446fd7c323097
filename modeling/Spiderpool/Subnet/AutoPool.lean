/-
# Auto-created pools

The pool that `ReconcileAutoIPPool` makes for an application: its name, its labels, and
the affinity to the application's Pods (`pkg/applicationcontroller/applicationinformers/utils.go`,
`pkg/ippoolmanager/utils.go`).
-/

import Spiderpool.IPPool.Mutate

namespace Spiderpool

structure AutoPoolProperty where
  desiredIPNumber : ℤ
  ipVersion : IPVersion
  isReclaimIPPool : Bool
  ifName : String

def maxNameLength : ℕ := 253
def randomLength : ℕ := 5

/-- `AutoPoolName`. Lengths are in characters: names and UIDs have one byte each. -/
def autoPoolName (controllerName : String) (ipVersion : IPVersion) (ifName appUID : String) :
    Result Err String := do
  let lastOne := ((split appUID '-').getLast (split_ne_nil appUID '-')).toList.take randomLength
  -- the length left beside "auto", the version and two dashes
  let maxCustomNameLength : ℤ := maxNameLength - lastOne.length - 7
  let name := controllerName.toList
  let name ← if (name.length + ifName.length : ℤ) > maxCustomNameLength then
      sliceTo name.length name (maxCustomNameLength - ifName.length)
    else .ok name
  return "auto" ++ toString ipVersion ++ "-" ++ toLower (String.ofList name) ++ "-" ++
    toLower ifName ++ "-" ++ toLower (String.ofList lastOne)

def applicationLabelGV (apiVersion : String) : String :=
  match cut apiVersion '/' with
  | (first, some second) => first ++ "_" ++ second
  | (first, none) => first

def applicationNamespacedName (c : PodTopController) : String :=
  applicationLabelGV c.apiVersion ++ "_" ++ c.kind ++ "_" ++ c.ns ++ "_" ++ c.name

def isReclaimAutoPoolLabelValue (isReclaim : Bool) : String := if isReclaim then "true" else "false"

def autoPoolIPVersionLabelValue (ipVersion : IPVersion) : String :=
  if ipVersion = Constant.ipv4 then Constant.labelValueIPVersionV4
  else Constant.labelValueIPVersionV6

def newAutoPoolPodAffinity (c : PodTopController) : LabelSelector :=
  let (group, version) := match cut c.apiVersion '/' with
    | (first, some second) => (first, second)
    | (first, none) => ("", first)
  { matchLabels :=
      [(Constant.autoPoolPodAffinityAppAPIGroup, group),
       (Constant.autoPoolPodAffinityAppAPIVersion, version),
       (Constant.autoPoolPodAffinityAppKind, c.kind),
       (Constant.autoPoolPodAffinityAppNS, c.ns),
       (Constant.autoPoolPodAffinityAppName, c.name)].foldl (fun m kv => m.insert kv.1 kv.2) ∅
    matchExpressions := [] }

def autoPoolLabels (subnet : SpiderSubnet) (c : PodTopController) (property : AutoPoolProperty) :
    GoMap String String :=
  [(Constant.labelIPPoolOwnerSpiderSubnet, subnet.name),
   (Constant.labelIPPoolOwnerApplicationGV, applicationLabelGV c.apiVersion),
   (Constant.labelIPPoolOwnerApplicationKind, c.kind),
   (Constant.labelIPPoolOwnerApplicationNamespace, c.ns),
   (Constant.labelIPPoolOwnerApplicationName, c.name),
   (Constant.labelIPPoolOwnerApplicationUID, c.uid),
   (Constant.labelIPPoolInterface, property.ifName),
   (Constant.labelIPPoolReclaimIPPool, isReclaimAutoPoolLabelValue property.isReclaimIPPool),
   (Constant.labelIPPoolIPVersion, autoPoolIPVersionLabelValue property.ipVersion)].foldl
    (fun m kv => m.insert kv.1 kv.2) ∅

/-- The pool that `ReconcileAutoIPPool` makes where there is none. Routes are sent to the
API server only if there are any. -/
def newAutoPool (subnet : SpiderSubnet) (c : PodTopController) (property : AutoPoolProperty) :
    Result Err IPPool := do
  let name ← autoPoolName c.name property.ipVersion property.ifName c.uid
  let cidr ← mapErr (fun _ => .new ("failed to parse '" ++ subnet.spec.subnet ++
    "' when allocating empty Auto-created IPPool")) (cidrToLabelValue property.ipVersion subnet.spec.subnet)
  mapErr (.wrap ("failed to set SpiderIPPool " ++ name ++ " owner reference with SpiderSubnet " ++
    subnet.name ++ ": ") · "") <| setControllerReference subnet
    { name := name
      labels := (autoPoolLabels subnet c property).insert Constant.labelIPPoolCIDR cidr
      finalizers := [Constant.spiderFinalizer]
      spec := {
        ipVersion := some property.ipVersion
        subnet := subnet.spec.subnet
        gateway := subnet.spec.gateway
        routes := if subnet.spec.routes = [] then none else some subnet.spec.routes
        podAffinity := some (newAutoPoolPodAffinity c) } }

end Spiderpool
