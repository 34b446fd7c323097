/-
# The values of the user and those of the cluster

A coordinator field that a user has set in a SpiderMultusConfig should be the one that the plugin
works with, whatever the cluster says. All fields but two get through the webhook, the controller
and the document unchanged. The table of the host's rules has no field in the document; the filter
is written only if the user has set the type of the Pod CIDRs too.
-/

import Spiderpool.Coordinator.Config

namespace Spiderpool
namespace Coordinator

variable {env : ParseEnv} {stdin : List (String × JsonValue)} {cluster : CoordinatorConfig}
  {conf decoded : Config} {user : CoordinatorSpec}

/-- What `ParseConfig` makes of the fields it has decoded. -/
structure Merges (env : ParseEnv) (cluster : CoordinatorConfig) (decoded conf : Config) :
    Prop where
  mode : decoded.mode ≠ "" → conf.mode = decoded.mode
  hijackCIDR : decoded.hijackCIDR ≠ [] → conf.hijackCIDR = decoded.hijackCIDR
  policyRoutes : decoded.policyRoutes ≠ [] →
    validateCoordinatorPolicyRoutes env decoded.policyRoutes = .ok conf.policyRoutes
  macPrefix : decoded.macPrefix ≠ "" → conf.macPrefix = decoded.macPrefix
  podDefaultRouteNIC : decoded.podDefaultRouteNIC ≠ "" →
    conf.podDefaultRouteNIC = decoded.podDefaultRouteNIC
  vethLinkAddress : decoded.vethLinkAddress ≠ "" → conf.vethLinkAddress = decoded.vethLinkAddress
  vethMTU : decoded.vethMTU.isSome → conf.vethMTU = decoded.vethMTU
  tunePodRoutes : decoded.tunePodRoutes.isSome → conf.tunePodRoutes = decoded.tunePodRoutes
  txQueueLen : decoded.txQueueLen.isSome → conf.txQueueLen = decoded.txQueueLen
  podRPFilter : conf.podRPFilter = some (decoded.podRPFilter.getD cluster.podRPFilter.toInt32)
  hostRuleTable : conf.hostRuleTable = some (decoded.hostRuleTable.getD
    (if 0 < cluster.hostRuleTable then cluster.hostRuleTable else 500))

theorem getD_of_isSome {α : Type} {o : Option α} {a : α} (h : o.isSome) : some (o.getD a) = o := by
  obtain ⟨b, rfl⟩ := Option.isSome_iff_exists.1 h
  rfl

theorem parseConfig_merges (h : parseConfig env stdin cluster = .ok conf) :
    ∃ decoded, Config.unmarshal stdin = .ok decoded ∧ Merges env cluster decoded conf := by
  obtain ⟨decoded, hdecoded, h⟩ := bind_eq_ok.1 h
  obtain ⟨-, h⟩ := seq_eq_ok.1 h
  obtain ⟨-, h⟩ := seq_eq_ok.1 h
  obtain ⟨-, h⟩ := seq_eq_ok.1 h
  obtain ⟨-, h⟩ := seq_eq_ok.1 h
  obtain ⟨conf₁, hroutes, h⟩ := bind_eq_ok.1 h
  obtain ⟨filter, hfilter, h⟩ := bind_eq_ok.1 h
  obtain ⟨mode, hmode, h⟩ := bind_eq_ok.1 h
  obtain ⟨-, h⟩ := seq_eq_ok.1 h
  obtain rfl := Except.ok.inj h
  obtain ⟨-, hroutes⟩ := seq_eq_ok.1 hroutes
  obtain ⟨-, hroutes⟩ := seq_eq_ok.1 hroutes
  obtain ⟨-, hroutes⟩ := seq_eq_ok.1 hroutes
  obtain ⟨routes, hpolicy, hroutes⟩ := bind_eq_ok.1 hroutes
  obtain rfl := Except.ok.inj hroutes
  obtain ⟨-, hfilter⟩ := seq_eq_ok.1 hfilter
  obtain rfl := Except.ok.inj hfilter
  refine ⟨decoded, mapErr_eq_ok.1 hdecoded, ?_⟩
  constructor
  · intro hne
    rw [if_neg hne] at hmode
    exact (Except.ok.inj hmode).symm
  · exact fun hne => if_neg hne
  · intro hne
    rwa [if_neg hne] at hpolicy
  · exact fun hne => if_neg hne
  · exact fun hne => if_neg hne
  · exact fun hne => if_neg hne
  · exact fun hsome => getD_of_isSome hsome
  · intro hsome
    obtain ⟨b, hb⟩ := Option.isSome_iff_exists.1 hsome
    rw [hb]
    rfl
  · exact fun hsome => getD_of_isSome hsome
  · rfl
  · rfl

/-- The configuration that the controller writes, after the webhook. -/
def generated (user : Option CoordinatorSpec) : CoordinatorNetConf :=
  generateCoordinatorCNIConf (some (setCoordinatorDefaultConfig user))

structure Effective (env : ParseEnv) (user : CoordinatorSpec) (conf : Config) : Prop where
  mode : ∀ m, user.mode = some m → m ≠ "" → conf.mode = m
  hijackCIDR : user.hijackCIDR ≠ [] → conf.hijackCIDR = user.hijackCIDR
  policyRoutes : user.policyRoutes ≠ [] →
    validateCoordinatorPolicyRoutes env user.policyRoutes = .ok conf.policyRoutes
  podMACPrefix : ∀ m, user.podMACPrefix = some m → m ≠ "" → conf.macPrefix = m
  podDefaultRouteNIC : ∀ n, user.podDefaultRouteNIC = some n → n ≠ "" → conf.podDefaultRouteNIC = n
  vethLinkAddress : ∀ a, user.vethLinkAddress = some a → a ≠ "" → conf.vethLinkAddress = a
  vethMTU : ∀ n, user.vethMTU = some n → conf.vethMTU = some n
  tunePodRoutes : ∀ b, user.tunePodRoutes = some b → conf.tunePodRoutes = some b
  txQueueLen : ∀ n, user.txQueueLen = some n → conf.txQueueLen = some n
  podRPFilter : ∀ n, user.podRPFilter = some n → conf.podRPFilter.map Int32.toInt = some n.toInt
  hostRuleTable : ∀ n, user.hostRuleTable = some n → conf.hostRuleTable = some n

/-- The two fields that are lost on the way are those of the cluster, where the user has set them. -/
structure LostAgree (cluster : CoordinatorConfig) (user : CoordinatorSpec) : Prop where
  podRPFilter : ∀ n, user.podRPFilter = some n → user.podCIDRType = none →
    cluster.podRPFilter.toInt32.toInt = n.toInt
  hostRuleTable : ∀ n, user.hostRuleTable = some n →
    n = if 0 < cluster.hostRuleTable then cluster.hostRuleTable else 500

theorem effective_of_agree (hreads : Reads (generated (some user)) decoded)
    (hmerges : Merges env cluster decoded conf) (hlost : LostAgree cluster user) :
    Effective env user conf := by
  have hmode : decoded.mode = user.mode.getD modeAuto := hreads.mode
  have hmac : decoded.macPrefix = user.podMACPrefix.getD "" := hreads.macPrefix
  have hnic : decoded.podDefaultRouteNIC = user.podDefaultRouteNIC.getD "" :=
    hreads.podDefaultRouteNIC
  have hlink : decoded.vethLinkAddress = user.vethLinkAddress.getD "" := hreads.vethLinkAddress
  have hmtu : decoded.vethMTU = user.vethMTU := hreads.vethMTU
  have htune : decoded.tunePodRoutes = some (user.tunePodRoutes.getD false) := hreads.tunePodRoutes
  have htx : decoded.txQueueLen = some (user.txQueueLen.getD 0) := hreads.txQueueLen
  constructor
  · intro m hm hne
    rw [hm] at hmode
    rw [hmerges.mode (hmode ▸ hne), hmode]
    rfl
  · intro hne
    rw [hmerges.hijackCIDR (hreads.hijackCIDR ▸ hne), hreads.hijackCIDR]
    rfl
  · intro hne
    rw [← hmerges.policyRoutes (hreads.policyRoutes ▸ hne), hreads.policyRoutes]
    rfl
  · intro m hm hne
    rw [hm] at hmac
    rw [hmerges.macPrefix (hmac ▸ hne), hmac]
    rfl
  · intro n hn hne
    rw [hn] at hnic
    rw [hmerges.podDefaultRouteNIC (hnic ▸ hne), hnic]
    rfl
  · intro a ha hne
    rw [ha] at hlink
    rw [hmerges.vethLinkAddress (hlink ▸ hne), hlink]
    rfl
  · intro n hn
    rw [hmerges.vethMTU (by rw [hmtu, hn]; rfl), hmtu, hn]
  · intro b hb
    rw [hmerges.tunePodRoutes (by rw [htune]; rfl), htune, hb]
    rfl
  · intro n hn
    rw [hmerges.txQueueLen (by rw [htx]; rfl), htx, hn]
    rfl
  · intro n hn
    have hfilter : decoded.podRPFilter.map Int32.toInt =
        (if user.podCIDRType.isSome then some (user.podRPFilter.getD 0) else none).map Int64.toInt :=
      hreads.podRPFilter
    rw [hmerges.podRPFilter]
    cases htype : user.podCIDRType with
    | none =>
      rw [htype] at hfilter
      rw [Option.map_eq_none_iff.1 hfilter]
      exact congrArg some (hlost.podRPFilter n hn htype)
    | some t =>
      rw [htype, hn] at hfilter
      obtain ⟨x, hx, hxn⟩ := Option.map_eq_some_iff.1 hfilter
      rw [hx]
      exact congrArg some hxn
  · intro n hn
    rw [hmerges.hostRuleTable, hreads.hostRuleTable, hlost.hostRuleTable n hn]
    rfl

theorem agree_of_effective (hreads : Reads (generated (some user)) decoded)
    (hmerges : Merges env cluster decoded conf) (heffective : Effective env user conf) :
    LostAgree cluster user := by
  constructor
  · intro n hn htype
    have hfilter : decoded.podRPFilter.map Int32.toInt =
        (if user.podCIDRType.isSome then some (user.podRPFilter.getD 0) else none).map Int64.toInt :=
      hreads.podRPFilter
    rw [htype] at hfilter
    have hconf := heffective.podRPFilter n hn
    rw [hmerges.podRPFilter, Option.map_eq_none_iff.1 hfilter] at hconf
    exact Option.some.inj hconf
  · intro n hn
    have hconf := heffective.hostRuleTable n hn
    rw [hmerges.hostRuleTable, hreads.hostRuleTable] at hconf
    exact (Option.some.inj hconf).symm

/-- **What a user has set is what the plugin works with** if and only if the filter, where no type of
Pod CIDRs is set with it, and the table are those of the cluster. -/
theorem effective_iff {user : Option CoordinatorSpec} (hstdin : Carries stdin (generated user))
    (h : parseConfig env stdin cluster = .ok conf) :
    Effective env (user.getD {}) conf ↔ LostAgree cluster (user.getD {}) := by
  obtain ⟨decoded, hdecoded, hmerges⟩ := parseConfig_merges h
  have hreads := unmarshal_marshal hstdin hdecoded
  cases user with
  | some user => exact ⟨agree_of_effective hreads hmerges, effective_of_agree hreads hmerges⟩
  | none =>
    -- nothing is set
    refine iff_of_true ?_ ⟨nofun, nofun⟩
    refine ⟨nofun, fun h => absurd rfl h, fun h => absurd rfl h, nofun, nofun, nofun, nofun, nofun,
      nofun, nofun, nofun⟩

end Coordinator

namespace Sample

open Coordinator

def parseEnv : ParseEnv where
  parseAddr _ := fail (.new "no address")
  parsePrefix _ := fail (.new "no prefix")

def clusterConfig : CoordinatorConfig where
  mode := some "underlay"
  overlayPodCIDR := some []
  serviceCIDR := some []
  tunePodRoutes := some true
  hostRuleTable := 500

def tunedUser : CoordinatorSpec := { mode := some "overlay", txQueueLen := some 2000 }

/-- These are what the plugin works with. -/
theorem tuned_effective : ∃ conf,
    parseConfig parseEnv (generated (some tunedUser)).marshal clusterConfig = .ok conf ∧
    conf.mode = "overlay" ∧ conf.txQueueLen = some 2000 ∧ Effective parseEnv tunedUser conf := by
  have hrun : (parseConfig parseEnv (generated (some tunedUser)).marshal clusterConfig).toOption.map
      (fun conf => (conf.mode, conf.txQueueLen)) = some ("overlay", some 2000) := by
    decide +kernel
  obtain ⟨conf, hconf, hvalues⟩ := exists_ok_of_map hrun
  obtain ⟨hmode, htx⟩ := Prod.ext_iff.1 hvalues
  have hstdin : Carries (generated (some tunedUser)).marshal (generated (some tunedUser)) :=
    fun _ _ => rfl
  exact ⟨conf, hconf, hmode, htx, (effective_iff hstdin hconf).2 ⟨nofun, nofun⟩⟩

def filteringUser : CoordinatorSpec := { podRPFilter := some 2, hostRuleTable := some 600 }

/-- Neither gets to the plugin, which works with the cluster's. -/
theorem filtering_lost : ∃ conf,
    parseConfig parseEnv (generated (some filteringUser)).marshal clusterConfig = .ok conf ∧
    conf.podRPFilter = some 0 ∧ conf.hostRuleTable = some 500 ∧
    ¬ Effective parseEnv filteringUser conf := by
  have hrun :
      (parseConfig parseEnv (generated (some filteringUser)).marshal clusterConfig).toOption.map
        (fun conf => (conf.podRPFilter, conf.hostRuleTable)) = some (some 0, some 500) := by
    decide +kernel
  obtain ⟨conf, hconf, hvalues⟩ := exists_ok_of_map hrun
  obtain ⟨hfilter, htable⟩ := Prod.ext_iff.1 hvalues
  refine ⟨conf, hconf, hfilter, htable, fun heffective => ?_⟩
  have h600 := heffective.hostRuleTable 600 rfl
  rw [show conf.hostRuleTable = some 500 from htable] at h600
  exact absurd h600 (by decide)

end Sample

end Spiderpool
