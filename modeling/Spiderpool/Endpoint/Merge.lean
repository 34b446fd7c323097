/-
# The answer made of an endpoint

The first ADD of an interface is answered from the results of the allocation, a repeated one
from the endpoint, into whose details the results were merged. `Merged` is what a detail
holds after each turn of the loop, and `convert_details` what is answered from it: each result
comes back with the VLAN of the first result of its interface, without its MAC, and with its
default route unless the first result of the interface has a gateway and asks for it to be
cleaned.
-/

import Spiderpool.Endpoint.Convert

namespace Spiderpool

structure OnePerVersion (results : List AllocationResult) : Prop where
  version : ∀ r ∈ results, r.ip.version = Constant.ipv4 ∨ r.ip.version = Constant.ipv6
  unique : results.Pairwise fun r r' => r.ip.nic = r'.ip.nic → r.ip.version ≠ r'.ip.version

def firstOf (results : List AllocationResult) (r : AllocationResult) : AllocationResult :=
  (results.find? fun r' => r'.ip.nic = r.ip.nic).getD r

def retrievedConfig (results : List AllocationResult)
    (enableIPConflictDetection enableGatewayDetection : Bool) (r : AllocationResult) : IPConfig :=
  { r.ip with
    vlan := (firstOf results r).ip.vlan
    mac := ""
    enableGatewayDetection := enableGatewayDetection
    enableIPConflictDetection := enableIPConflictDetection }

/-- Whether the endpoint keeps the request to clean the gateway, for the interface of `r`. -/
def KeptClean (results : List AllocationResult) (r : AllocationResult) : Prop :=
  (firstOf results r).ip.gateway ≠ "" ∧ (firstOf results r).cleanGateway = true

instance (results : List AllocationResult) : DecidablePred (KeptClean results) :=
  fun _ => inferInstanceAs (Decidable (_ ∧ _))

/-- The default route of a result, if it has a gateway and a condition holds. -/
def defaultIf (cond : AllocationResult → Prop) [DecidablePred cond] (r : AllocationResult) :
    List (Option OAIRoute) :=
  if r.ip.gateway ≠ "" ∧ cond r then [genDefaultRoute r.ip.nic r.ip.gateway] else []

def retrievedDefault (results : List AllocationResult) :
    AllocationResult → List (Option OAIRoute) :=
  defaultIf fun r => ¬KeptClean results r

/-- The other routes that come back for a result: its own, under the name of its interface. -/
def retrievedOwn (r : AllocationResult) : List (Option OAIRoute) :=
  (convertSpecRoutesToOAIRoutes r.ip.nic (convertOAIRoutesToSpecRoutes r.routes)).map some

def retrievedRoutes (results : List AllocationResult) (r : AllocationResult) :
    List (Option OAIRoute) :=
  retrievedDefault results r ++ retrievedOwn r

section

variable {results : List AllocationResult} {c g : Bool}

theorem OnePerVersion.group_cases (h : OnePerVersion results) {nic : String}
    {group : List AllocationResult} (hg : results.filter (fun r => r.ip.nic = nic) = group) :
    group = [] ∨
      (∃ r, group = [r] ∧ (r.ip.version = Constant.ipv4 ∨ r.ip.version = Constant.ipv6)) ∨
      ∃ r r', group = [r, r'] ∧ (r.ip.version = Constant.ipv4 ∧ r'.ip.version = Constant.ipv6 ∨
        r.ip.version = Constant.ipv6 ∧ r'.ip.version = Constant.ipv4) := by
  have hpair : group.Pairwise fun r r' => r.ip.version ≠ r'.ip.version := by
    subst hg
    refine (h.unique.filter _).imp_of_mem fun hr hr' hne => ?_
    exact hne (by simp_all)
  have hversion : ∀ r ∈ group, r.ip.version = Constant.ipv4 ∨ r.ip.version = Constant.ipv6 := by
    subst hg
    exact fun r hr => h.version r (List.mem_of_mem_filter hr)
  rcases group with _ | ⟨r, _ | ⟨r', _ | ⟨r'', l⟩⟩⟩
  · exact .inl rfl
  · exact .inr (.inl ⟨r, rfl, hversion r (by simp)⟩)
  · refine .inr (.inr ⟨r, r', rfl, ?_⟩)
    have hne := (List.pairwise_cons.1 hpair).1 r' (by simp)
    rcases hversion r (by simp) with hv | hv <;> rcases hversion r' (by simp) with hv' | hv' <;>
      simp_all
  · -- three results, but two versions
    rw [List.pairwise_cons, List.pairwise_cons] at hpair
    have h1 := hpair.1 r' (by simp)
    have h2 := hpair.1 r'' (by simp)
    have h3 := hpair.2.1 r'' (by simp)
    rcases hversion r (by simp) with hv | hv <;> rcases hversion r' (by simp) with hv' | hv' <;>
      rcases hversion r'' (by simp) with hv'' | hv'' <;> simp_all

theorem firstOf_group {nic : String} {r : AllocationResult} {group : List AllocationResult}
    (hg : results.filter (fun r => r.ip.nic = nic) = r :: group) :
    ∀ x ∈ r :: group, x.ip.nic = nic ∧ firstOf results x = r := by
  intro x hx
  rw [← hg] at hx
  obtain ⟨-, hnic⟩ := List.mem_filter.1 hx
  have hnic : x.ip.nic = nic := by simpa using hnic
  refine ⟨hnic, ?_⟩
  have hhead := List.head?_filter (p := fun r : AllocationResult => r.ip.nic = nic) (l := results)
  rw [hg, List.head?_cons] at hhead
  rw [firstOf, hnic, ← hhead]
  rfl

/-- What a detail holds: the VLAN and the clean flag of the first result of its interface, and
the results of both versions. -/
structure Merged (d : IPAllocationDetail) (first : AllocationResult)
    (v4 v6 : Option AllocationResult) : Prop where
  nic : d.nic = first.ip.nic
  vlan : d.vlan = some first.ip.vlan
  cleanGateway : d.cleanGateway = first.clean
  ipv4 : d.ipv4 = v4.map (·.ip.address)
  ipv4Pool : d.ipv4Pool = v4.map (·.ip.ipPool)
  ipv4Gateway : d.ipv4Gateway = v4.bind AllocationResult.gateway
  ipv6 : d.ipv6 = v6.map (·.ip.address)
  ipv6Pool : d.ipv6Pool = v6.map (·.ip.ipPool)
  ipv6Gateway : d.ipv6Gateway = v6.bind AllocationResult.gateway

section

variable {d : IPAllocationDetail} {first r : AllocationResult} {v4 v6 : Option AllocationResult}

theorem setFamily_merged (h : Merged d first v4 v6) :
    Merged (setFamily d r) first (if r.ip.version = Constant.ipv4 then some r else v4)
      (if r.ip.version = Constant.ipv4 then v6 else some r) := by
  unfold setFamily
  split_ifs with hv
  · exact { h with ipv4 := rfl, ipv4Pool := rfl, ipv4Gateway := rfl }
  · exact { h with ipv6 := rfl, ipv6Pool := rfl, ipv6Gateway := rfl }

theorem addResult_none (r : AllocationResult) :
    Merged (addResult none r) r (if r.ip.version = Constant.ipv4 then some r else none)
      (if r.ip.version = Constant.ipv4 then none else some r) :=
  setFamily_merged ⟨rfl, rfl, rfl, rfl, rfl, rfl, rfl, rfl, rfl⟩

theorem addResult_some (h : Merged d first v4 v6) :
    Merged (addResult (some d) r) first (if r.ip.version = Constant.ipv4 then some r else v4)
      (if r.ip.version = Constant.ipv4 then v6 else some r) := by
  have hset := setFamily_merged (r := r)
    (d := { d with routes := d.routes ++ convertOAIRoutesToSpecRoutes r.routes }) { h with }
  rw [addResult]
  by_cases hmac : (setFamily { d with
      routes := d.routes ++ convertOAIRoutesToSpecRoutes r.routes } r).mac = none ∧ r.ip.mac ≠ ""
  · rw [if_pos hmac]
    exact { hset with }
  · rwa [if_neg hmac]

theorem addResult_routes (o : Option IPAllocationDetail) (r : AllocationResult) :
    (addResult o r).routes =
      o.elim [] (·.routes) ++ convertOAIRoutesToSpecRoutes r.routes := by
  unfold addResult setFamily
  cases o <;> dsimp only <;> split_ifs <;> rfl

theorem convertFamily_merged (h : Merged d first v4 v6) {o : Option AllocationResult}
    {version : IPVersion} (ho : ∀ r ∈ o, r.ip.version = version ∧ r.ip.nic = first.ip.nic ∧
      firstOf results r = first) :
    convertFamily c g d version (o.map (·.ip.address)) (o.map (·.ip.ipPool))
        (o.bind AllocationResult.gateway) =
      .ok (o.toList.map (retrievedConfig results c g),
        o.toList.flatMap (retrievedDefault results)) := by
  cases o with
  | none => rfl
  | some r =>
    obtain ⟨rfl, hnic, rfl⟩ := ho r rfl
    have hkept : d.cleanGateway = some true ↔ KeptClean results r := by
      rw [h.cleanGateway, AllocationResult.clean, KeptClean]
      split_ifs with hgw <;> simp [hgw]
    simp only [Option.map_some, Option.bind_some, convertFamily, h.vlan, h.nic, ← hnic, hkept,
      AllocationResult.gateway, deref]
    by_cases hgw : r.ip.gateway = ""
    · simp [hgw, retrievedDefault, defaultIf, retrievedConfig, bind, Except.bind]
      rfl
    · by_cases hkeep : KeptClean results r <;>
        simp [hgw, hkeep, retrievedDefault, defaultIf, retrievedConfig, bind, Except.bind] <;> rfl

theorem convertIPDetail_merged (h : Merged d first v4 v6)
    (h4 : ∀ r ∈ v4, r.ip.version = Constant.ipv4 ∧ r.ip.nic = first.ip.nic ∧
      firstOf results r = first)
    (h6 : ∀ r ∈ v6, r.ip.version = Constant.ipv6 ∧ r.ip.nic = first.ip.nic ∧
      firstOf results r = first) :
    convertIPDetail c g d =
      .ok ((v4.toList ++ v6.toList).map (retrievedConfig results c g),
        (v4.toList ++ v6.toList).flatMap (retrievedDefault results) ++
          (convertSpecRoutesToOAIRoutes first.ip.nic d.routes).map some) := by
  rw [convertIPDetail, h.ipv4, h.ipv4Pool, h.ipv4Gateway, h.ipv6, h.ipv6Pool, h.ipv6Gateway,
    convertFamily_merged h h4, convertFamily_merged h h6, h.nic, List.map_append,
    List.flatMap_append]
  rfl

theorem convertIPDetail_group {group : List AllocationResult} (h : Merged d first v4 v6)
    (hroutes : d.routes = group.flatMap fun r => convertOAIRoutesToSpecRoutes r.routes)
    (hperm : (v4.toList ++ v6.toList).Perm group)
    (hgroup : ∀ r ∈ group, r.ip.nic = first.ip.nic ∧ firstOf results r = first)
    (h4 : ∀ r ∈ v4, r.ip.version = Constant.ipv4) (h6 : ∀ r ∈ v6, r.ip.version = Constant.ipv6) :
    ∃ a, convertIPDetail c g d = .ok a ∧ a.1.Perm (group.map (retrievedConfig results c g)) ∧
      a.2.Perm (group.flatMap (retrievedRoutes results)) := by
  have hmem : ∀ r, r ∈ v4 ∨ r ∈ v6 → r.ip.nic = first.ip.nic ∧ firstOf results r = first :=
    fun r hr => hgroup r (hperm.mem_iff.1 (by simpa using hr))
  refine ⟨_, convertIPDetail_merged h (fun r hr => ⟨h4 r hr, hmem r (.inl hr)⟩)
    (fun r hr => ⟨h6 r hr, hmem r (.inr hr)⟩), hperm.map _, ?_⟩
  have hown : (convertSpecRoutesToOAIRoutes first.ip.nic d.routes).map some =
      group.flatMap retrievedOwn := by
    rw [hroutes, convertSpecRoutesToOAIRoutes, List.map_flatMap, List.map_flatMap]
    refine List.flatMap_congr fun r hr => ?_
    rw [retrievedOwn, (hgroup r hr).1, convertSpecRoutesToOAIRoutes]
  dsimp only
  rw [hown]
  exact ((hperm.flatMap_right _).append_right _).trans (List.flatMap_append_perm _ _ _)

theorem convertIPDetail_lookup (h : OnePerVersion results) {nic : String}
    (hd : (GoMap.collect (fun r => r.ip.nic) addResult results).lookup nic = some d) :
    ∃ a, convertIPDetail c g d = .ok a ∧
      a.1.Perm ((results.filter fun r => r.ip.nic = nic).map (retrievedConfig results c g)) ∧
      a.2.Perm ((results.filter fun r => r.ip.nic = nic).flatMap (retrievedRoutes results)) := by
  rw [GoMap.lookup_collect] at hd
  generalize hg : results.filter (fun r => r.ip.nic = nic) = group at hd ⊢
  obtain rfl | ⟨r, rfl, hv⟩ | ⟨r, r', rfl, hv⟩ := h.group_cases hg
  · simp at hd
  · obtain rfl : addResult none r = d := by simpa using hd
    have hgroup := firstOf_group hg
    have hnic := (hgroup r (by simp)).1
    refine convertIPDetail_group (addResult_none r) (by simp [addResult_routes]) ?_
      (by rwa [hnic]) ?_ ?_ <;> rcases hv with hv | hv <;> simp [hv, Constant.ipv4, Constant.ipv6]
  · obtain rfl : addResult (some (addResult none r)) r' = d := by simpa using hd
    have hgroup := firstOf_group hg
    have hnic := (hgroup r (by simp)).1
    refine convertIPDetail_group (addResult_some (addResult_none r)) (by simp [addResult_routes]) ?_
      (by rwa [hnic]) ?_ ?_ <;> rcases hv with ⟨hv, hv'⟩ | ⟨hv, hv'⟩ <;>
        simp [hv, hv', Constant.ipv4, Constant.ipv6]
    -- the detail lists IPv4 first, whichever result came first
    exact List.Perm.swap _ _ _

end

def answerOf (c g : Bool) (d : IPAllocationDetail) : Answer :=
  match convertIPDetail c g d with
  | .ok a => a
  | .error _ => ([], [])

theorem convertIPDetails_ok {details : List IPAllocationDetail}
    (h : ∀ d ∈ details, ∃ a, convertIPDetail c g d = .ok a) :
    convertIPDetailsToIPConfigsAndAllRoutes c g details =
      .ok (details.flatMap fun d => (answerOf c g d).1,
        details.flatMap fun d => (answerOf c g d).2) := by
  induction details with
  | nil => rfl
  | cons d details ih =>
    obtain ⟨a, ha⟩ := h d (by simp)
    rw [convertIPDetailsToIPConfigsAndAllRoutes, ha, ih fun d hd => h d (by simp [hd])]
    simp only [List.flatMap_cons, answerOf, ha]
    rfl

theorem perm_flatMap_details {γ : Type*} (o : RangeOrder String IPAllocationDetail)
    {f : IPAllocationDetail → List γ} {h : AllocationResult → List γ}
    (hf : ∀ nic d, (GoMap.collect (fun r => r.ip.nic) addResult results).lookup nic = some d →
      (f d).Perm ((results.filter fun r => r.ip.nic = nic).flatMap h)) :
    ((convertResultsToIPDetails o results false).flatMap f).Perm (results.flatMap h) := by
  have hcollect := GoMap.perm_flatMap_collect (g := fun _ d => f d) hf
  have hvisit := (o.perm (GoMap.collect (fun r => r.ip.nic) addResult results)).flatMap_right
    fun e => f e.2
  rw [convertResultsToIPDetails, if_neg Bool.false_ne_true, List.flatMap_map]
  exact hvisit.trans hcollect

theorem convert_details (h : OnePerVersion results) (o : RangeOrder String IPAllocationDetail) :
    ∃ a, convertIPDetailsToIPConfigsAndAllRoutes c g (convertResultsToIPDetails o results false) =
        .ok a ∧
      a.1.Perm (results.map (retrievedConfig results c g)) ∧
      a.2.Perm (results.flatMap (retrievedRoutes results)) := by
  refine ⟨_, convertIPDetails_ok fun d hd => ?_, ?_, perm_flatMap_details o fun nic d hd => ?_⟩
  · rw [convertResultsToIPDetails, if_neg Bool.false_ne_true] at hd
    obtain ⟨⟨nic, d⟩, he, rfl⟩ := List.mem_map.1 hd
    obtain ⟨a, ha, -⟩ := convertIPDetail_lookup h (o.mem_visit.1 he)
    exact ⟨a, ha⟩
  · rw [List.map_eq_flatMap]
    refine perm_flatMap_details o fun nic d hd => ?_
    obtain ⟨a, ha, hconfigs, -⟩ := convertIPDetail_lookup h hd
    rwa [answerOf, ha, ← List.map_eq_flatMap]
  · obtain ⟨a, ha, -, hroutes⟩ := convertIPDetail_lookup h hd
    rwa [answerOf, ha]

end

end Spiderpool
