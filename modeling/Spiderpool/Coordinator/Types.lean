/-
# The configuration of the coordinator, in its three forms

* `CoordinatorSpec`, what a user writes into a SpiderMultusConfig (and what the SpiderCoordinator of
  the cluster has);
* `CoordinatorNetConf`, the `CoordinatorConfig` of `pkg/multuscniconfig`, which is written into the
  CNI configuration as a document (`marshal`);
* `Config` of `cmd/coordinator`, into which the plugin reads that document (`unmarshal`).
-/

import Spiderpool.Base.Json
import Spiderpool.IPPool.Types

namespace Spiderpool
namespace Coordinator

open JsonValue

/-- `CoordinatorSpec`; a nil pointer is none, and a nil slice is empty. -/
structure CoordinatorSpec where
  mode : Option String := none
  podCIDRType : Option String := none
  hijackCIDR : List String := []
  policyRoutes : List Route := []
  podMACPrefix : Option String := none
  tunePodRoutes : Option Bool := none
  podDefaultRouteNIC : Option String := none
  hostRuleTable : Option Int64 := none
  podRPFilter : Option Int64 := none
  txQueueLen : Option Int64 := none
  vethLinkAddress : Option String := none
  vethMTU : Option Int64 := none

structure CoordinatorNetConf where
  txQueueLen : Option Int64 := none
  ipConflict : Option Bool := none
  detectGateway : Option Bool := none
  vethLinkAddress : String := ""
  vethMTU : Option Int64 := none
  tunePodRoutes : Option Bool := none
  macPrefix : String := ""
  mode : String := ""
  type : String
  podDefaultRouteNIC : String := ""
  podRPFilter : Option Int64 := none
  overlayPodCIDR : List String := []
  serviceCIDR : List String := []
  hijackCIDR : List String := []
  policyRoutes : List Route := []

structure LogOptions where
  logLevel : String := ""
  logFilePath : String := ""
  logFileMaxSize : Int64 := 0
  logFileMaxAge : Int64 := 0
  logFileMaxCount : Int64 := 0

structure Config where
  vethLinkAddress : String := ""
  vethMTU : Option Int64 := none
  macPrefix : String := ""
  podDefaultCniNic : String := ""
  overlayPodCIDR : List String := []
  serviceCIDR : List String := []
  hijackCIDR : List String := []
  policyRoutes : List Route := []
  tunePodRoutes : Option Bool := none
  podDefaultRouteNIC : String := ""
  mode : String := ""
  hostRuleTable : Option Int64 := none
  podRPFilter : Option Int32 := none
  txQueueLen : Option Int64 := none
  logOptions : Option LogOptions := none

/-! ### Documents -/

def Route.decode : JsonValue → Option Route
  | obj fields =>
    let text := fun name => match field fields name with
      | none | some .null => some ""
      | some v => Codec.string.decode v
    match text "dst", text "gw" with
    | some dst, some gw => some ⟨dst, gw⟩
    | _, _ => none
  | _ => none

def route : Codec Route where
  encode r := obj [("dst", str r.dst), ("gw", str r.gw)]
  decode := Route.decode
  decode_encode _ := rfl
  encode_ne_null _ := nofun

def nonEmpty (s : String) : Option String := if s = "" then none else some s

/-- A slice with `omitempty`. -/
def nonNil {α : Type} (l : List α) : Option (List α) := if l.isEmpty then none else some l

theorem getD_nonEmpty (s : String) : (nonEmpty s).getD "" = s := by
  unfold nonEmpty
  split_ifs with h
  · exact h.symm
  · rfl

theorem getD_nonNil {α : Type} (l : List α) : (nonNil l).getD [] = l := by
  cases l <;> rfl

def strings : Codec (List String) := .slice "" .string

def routes : Codec (List Route) := .slice ⟨"", ""⟩ route

def CoordinatorNetConf.entries (c : CoordinatorNetConf) : List (String × Option JsonValue) :=
  [("txQueueLen", c.txQueueLen.map Codec.int64.encode),
   ("detectIPConflict", c.ipConflict.map Codec.bool.encode),
   ("detectGateway", c.detectGateway.map Codec.bool.encode),
   ("vethLinkAddress", (nonEmpty c.vethLinkAddress).map Codec.string.encode),
   ("vethMTU", c.vethMTU.map Codec.int64.encode),
   ("tunePodRoutes", c.tunePodRoutes.map Codec.bool.encode),
   ("podMACPrefix", (nonEmpty c.macPrefix).map Codec.string.encode),
   ("mode", (nonEmpty c.mode).map Codec.string.encode),
   ("type", some (str c.type)),
   ("podDefaultRouteNic", (nonEmpty c.podDefaultRouteNIC).map Codec.string.encode),
   ("podRPFilter", c.podRPFilter.map Codec.int64.encode),
   ("overlayPodCIDR", (nonNil c.overlayPodCIDR).map strings.encode),
   ("serviceCIDR", (nonNil c.serviceCIDR).map strings.encode),
   ("hijackCIDR", (nonNil c.hijackCIDR).map strings.encode),
   ("policyRoutes", (nonNil c.policyRoutes).map routes.encode)]

def CoordinatorNetConf.marshal (c : CoordinatorNetConf) : List (String × JsonValue) :=
  assemble c.entries

def LogOptions.decode : JsonValue → Option LogOptions
  | obj fields =>
    let text := fun name => (readField .string "string" fields name).toOption.map (·.getD "")
    let number := fun name => (readField .int64 "int" fields name).toOption.map (·.getD 0)
    match text "logLevel", text "logFile", number "logMaxSize", number "logMaxAge",
      number "logMaxCount" with
    | some level, some file, some size, some age, some count => some ⟨level, file, size, age, count⟩
    | _, _, _, _, _ => none
  | _ => none

def readLogOptions (fields : List (String × JsonValue)) : Result String (Option LogOptions) :=
  match field fields "logOptions" with
  | none | some .null => .ok none
  | some v =>
    match LogOptions.decode v with
    | some o => .ok (some o)
    | none => fail ("json: cannot unmarshal " ++ v.kind ++
        " into Go struct field Config.logOptions of type cmd.LogOptions")

def Config.unmarshal (fields : List (String × JsonValue)) : Result String Config := do
  let vethLinkAddress ← readField .string "string" fields "vethLinkAddress"
  let vethMTU ← readField .int64 "int64" fields "vethMTU"
  let macPrefix ← readField .string "string" fields "podMACPrefix"
  let podDefaultCniNic ← readField .string "string" fields "podDefaultCniNic"
  let overlayPodCIDR ← readField strings "[]string" fields "overlayPodCIDR"
  let serviceCIDR ← readField strings "[]string" fields "serviceCIDR"
  let hijackCIDR ← readField strings "[]string" fields "hijackCIDR"
  let policyRoutes ← readField routes "[]cmd.Route" fields "policyRoutes"
  let tunePodRoutes ← readField .bool "bool" fields "tunePodRoutes"
  let podDefaultRouteNIC ← readField .string "string" fields "podDefaultRouteNic"
  let mode ← readField .string "cmd.Mode" fields "mode"
  let hostRuleTable ← readField .int64 "int64" fields "hostRuleTable"
  let podRPFilter ← readField .int32 "int32" fields "podRPFilter"
  let txQueueLen ← readField .int64 "int64" fields "txQueueLen"
  let logOptions ← readLogOptions fields
  return {
    vethLinkAddress := vethLinkAddress.getD ""
    vethMTU, tunePodRoutes, hostRuleTable, podRPFilter, txQueueLen, logOptions
    macPrefix := macPrefix.getD ""
    podDefaultCniNic := podDefaultCniNic.getD ""
    overlayPodCIDR := overlayPodCIDR.getD []
    serviceCIDR := serviceCIDR.getD []
    hijackCIDR := hijackCIDR.getD []
    policyRoutes := policyRoutes.getD []
    podDefaultRouteNIC := podDefaultRouteNIC.getD ""
    mode := mode.getD "" }

def Config.names : List String :=
  ["vethLinkAddress", "vethMTU", "podMACPrefix", "podDefaultCniNic", "overlayPodCIDR", "serviceCIDR",
   "hijackCIDR", "policyRoutes", "tunePodRoutes", "podDefaultRouteNic", "mode", "hostRuleTable",
   "podRPFilter", "txQueueLen", "logOptions"]

/-- The plugin is given the configuration, with further fields that are none of its own. -/
def Carries (stdin : List (String × JsonValue)) (c : CoordinatorNetConf) : Prop :=
  ∀ name ∈ Config.names, field stdin name = field c.marshal name

section

variable {c : CoordinatorNetConf} {stdin : List (String × JsonValue)} {conf : Config}

theorem CoordinatorNetConf.names_nodup (c : CoordinatorNetConf) :
    (c.entries.map Prod.fst).Nodup := by
  simp [CoordinatorNetConf.entries]

theorem Carries.readField {α : Type} {codec : Codec α} {goType name : String} {o : Option α}
    (h : Carries stdin c) (hname : name ∈ Config.names)
    (hentry : (name, o.map codec.encode) ∈ c.entries) :
    JsonValue.readField codec goType stdin name = .ok o := by
  refine readField_of_encode ?_
  rw [h name hname, CoordinatorNetConf.marshal, field_assemble c.names_nodup hentry]

/-- What the plugin has of the fields of the generated configuration. -/
structure Reads (c : CoordinatorNetConf) (conf : Config) : Prop where
  vethLinkAddress : conf.vethLinkAddress = c.vethLinkAddress
  vethMTU : conf.vethMTU = c.vethMTU
  macPrefix : conf.macPrefix = c.macPrefix
  hijackCIDR : conf.hijackCIDR = c.hijackCIDR
  policyRoutes : conf.policyRoutes = c.policyRoutes
  tunePodRoutes : conf.tunePodRoutes = c.tunePodRoutes
  podDefaultRouteNIC : conf.podDefaultRouteNIC = c.podDefaultRouteNIC
  mode : conf.mode = c.mode
  txQueueLen : conf.txQueueLen = c.txQueueLen
  podRPFilter : conf.podRPFilter.map Int32.toInt = c.podRPFilter.map Int64.toInt
  hostRuleTable : conf.hostRuleTable = none

theorem unmarshal_marshal (h : Carries stdin c) (hconf : Config.unmarshal stdin = .ok conf) :
    Reads c conf := by
  obtain ⟨vethLinkAddress, hvethLinkAddress, hconf⟩ := bind_eq_ok.1 hconf
  obtain ⟨vethMTU, hvethMTU, hconf⟩ := bind_eq_ok.1 hconf
  obtain ⟨macPrefix, hmacPrefix, hconf⟩ := bind_eq_ok.1 hconf
  obtain ⟨podDefaultCniNic, -, hconf⟩ := bind_eq_ok.1 hconf
  obtain ⟨overlayPodCIDR, -, hconf⟩ := bind_eq_ok.1 hconf
  obtain ⟨serviceCIDR, -, hconf⟩ := bind_eq_ok.1 hconf
  obtain ⟨hijackCIDR, hhijackCIDR, hconf⟩ := bind_eq_ok.1 hconf
  obtain ⟨policyRoutes, hpolicyRoutes, hconf⟩ := bind_eq_ok.1 hconf
  obtain ⟨tunePodRoutes, htunePodRoutes, hconf⟩ := bind_eq_ok.1 hconf
  obtain ⟨podDefaultRouteNIC, hpodDefaultRouteNIC, hconf⟩ := bind_eq_ok.1 hconf
  obtain ⟨mode, hmode, hconf⟩ := bind_eq_ok.1 hconf
  obtain ⟨hostRuleTable, hhostRuleTable, hconf⟩ := bind_eq_ok.1 hconf
  obtain ⟨podRPFilter, hpodRPFilter, hconf⟩ := bind_eq_ok.1 hconf
  obtain ⟨txQueueLen, htxQueueLen, hconf⟩ := bind_eq_ok.1 hconf
  obtain ⟨logOptions, -, hconf⟩ := bind_eq_ok.1 hconf
  obtain rfl := Except.ok.inj hconf
  -- what stands under a name of both structs
  have hread : ∀ {α : Type} {codec : Codec α} {goType name : String} {o o' : Option α},
      JsonValue.readField codec goType stdin name = .ok o' → name ∈ Config.names →
      (name, o.map codec.encode) ∈ c.entries → o' = o := fun hr hname hentry =>
    (Except.ok.inj ((h.readField hname hentry).symm.trans hr)).symm
  have hlink : vethLinkAddress = nonEmpty c.vethLinkAddress :=
    hread hvethLinkAddress (by decide) (by simp [CoordinatorNetConf.entries])
  have hmac : macPrefix = nonEmpty c.macPrefix :=
    hread hmacPrefix (by decide) (by simp [CoordinatorNetConf.entries])
  have hhijack : hijackCIDR = nonNil c.hijackCIDR :=
    hread hhijackCIDR (by decide) (by simp [CoordinatorNetConf.entries])
  have hroutes : policyRoutes = nonNil c.policyRoutes :=
    hread hpolicyRoutes (by decide) (by simp [CoordinatorNetConf.entries])
  have hnic : podDefaultRouteNIC = nonEmpty c.podDefaultRouteNIC :=
    hread hpodDefaultRouteNIC (by decide) (by simp [CoordinatorNetConf.entries])
  have hmode : mode = nonEmpty c.mode :=
    hread hmode (by decide) (by simp [CoordinatorNetConf.entries])
  have hfilter : field stdin "podRPFilter" = c.podRPFilter.map Codec.int64.encode := by
    rw [h _ (by decide), CoordinatorNetConf.marshal]
    exact field_assemble c.names_nodup (by simp [CoordinatorNetConf.entries])
  have htable : field stdin "hostRuleTable" = none := by
    rw [h _ (by decide), CoordinatorNetConf.marshal]
    exact field_assemble_of_not_mem (by simp [CoordinatorNetConf.entries])
  constructor
  · exact hlink ▸ getD_nonEmpty _
  · exact hread hvethMTU (by decide) (by simp [CoordinatorNetConf.entries])
  · exact hmac ▸ getD_nonEmpty _
  · exact hhijack ▸ getD_nonNil _
  · exact hroutes ▸ getD_nonNil _
  · exact hread htunePodRoutes (by decide) (by simp [CoordinatorNetConf.entries])
  · exact hnic ▸ getD_nonEmpty _
  · exact hmode ▸ getD_nonEmpty _
  · exact hread htxQueueLen (by decide) (by simp [CoordinatorNetConf.entries])
  · exact toInt_of_readField_int32 hfilter hpodRPFilter
  · rw [JsonValue.readField, htable] at hhostRuleTable
    exact (Except.ok.inj hhostRuleTable).symm

end

end Coordinator
end Spiderpool
