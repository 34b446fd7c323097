/-
# Where the custom routes of a Pod go

`groupCustomRoutes` of `pkg/ipam/utils.go`, as it goes about it: for each result it walks through
the custom routes by an index, and takes those whose gateway is in the subnet of the result out of
the slice while it does.
-/

import Spiderpool.IPAM.Answered

namespace Spiderpool
namespace IPAM

/-- The slices as `groupCustomRoutes` leaves them, and its error. Where there is one, the results
before the one whose address cannot be read have got their routes. -/
structure Grouped where
  results : List AllocationResult
  customRoutes : List OAIRoute
  err : Option Err := none

/-- The inner loop, from the index `i` and with at most so many turns: the routes that are left, and
those of the result. After a route has been taken out, the index is that of the one behind it. -/
def takeRoutes (inSubnet : OAIRoute → Bool) (nic : String) :
    ℕ → ℕ → List OAIRoute → List OAIRoute → List OAIRoute × List OAIRoute
  | 0, _, customRoutes, routes => (customRoutes, routes)
  | turns + 1, i, customRoutes, routes =>
    match customRoutes[i]? with
    | none => (customRoutes, routes)
    | some route =>
      if inSubnet route then
        takeRoutes inSubnet nic turns i (customRoutes.take i ++ customRoutes.drop (i + 1))
          (routes ++ [{ route with ifName := nic }])
      else takeRoutes inSubnet nic turns (i + 1) customRoutes routes

def gwIn (ipNet : IPNet) (route : OAIRoute) : Bool := (parseIP route.gw).any ipNet.contains

def groupLoop : List OAIRoute → List AllocationResult → Grouped
  | customRoutes, [] => ⟨[], customRoutes, none⟩
  | customRoutes, res :: results =>
    match netParseCIDR res.ip.address with
    | none => ⟨res :: results, customRoutes, some (netParseError res.ip.address)⟩
    | some (_, ipNet) =>
      let (customRoutes, routes) :=
        takeRoutes (gwIn ipNet) res.ip.nic customRoutes.length 0 customRoutes res.routes
      let rest := groupLoop customRoutes results
      { rest with results := { res with routes := routes } :: rest.results }

/-- `groupCustomRoutes`, on the slices. -/
def groupInPlace (customRoutes : List OAIRoute) (results : List AllocationResult) : Grouped :=
  if customRoutes = [] then ⟨results, customRoutes, none⟩ else groupLoop customRoutes results

def inSubnetOf (route : OAIRoute) (res : AllocationResult) : Bool :=
  (netParseCIDR res.ip.address).any fun parsed => gwIn parsed.2 route

def receiver (results : List AllocationResult) (route : OAIRoute) : Option ℕ :=
  results.findIdx? (inSubnetOf route)

def attach (res : AllocationResult) (customRoutes : List OAIRoute) : AllocationResult :=
  { res with routes := res.routes ++ customRoutes.map fun route =>
      { route with ifName := res.ip.nic } }

def destination (route : OAIRoute) : String × String := (route.dst, route.gw)

/-! ### The loops -/

theorem takeRoutes_eq {inSubnet : OAIRoute → Bool} {nic : String} {turns i : ℕ}
    {customRoutes routes : List OAIRoute} (hi : i ≤ customRoutes.length)
    (hturns : customRoutes.length ≤ i + turns) :
    takeRoutes inSubnet nic turns i customRoutes routes =
      (customRoutes.take i ++ (customRoutes.drop i).filter (!inSubnet ·),
        routes ++ ((customRoutes.drop i).filter inSubnet).map fun route =>
          { route with ifName := nic }) := by
  induction turns generalizing i customRoutes routes with
  | zero =>
    have hlength : customRoutes.length ≤ i := by omega
    rw [takeRoutes, List.drop_of_length_le hlength, List.take_of_length_le hlength, List.filter_nil,
      List.filter_nil, List.map_nil, List.append_nil, List.append_nil]
  | succ turns ih =>
    rw [takeRoutes]
    by_cases hlt : i < customRoutes.length
    · rw [List.getElem?_eq_getElem hlt, List.drop_eq_getElem_cons hlt]
      dsimp only
      by_cases hin : inSubnet customRoutes[i] = true
      · -- the routes behind the one taken out have moved to its place
        have hlength : (customRoutes.take i).length = i := List.length_take_of_le hi
        rw [if_pos hin, ih (by rw [List.length_append, hlength]; omega)
          (by rw [List.length_append, hlength, List.length_drop]; omega),
          List.take_left' hlength, List.drop_left' hlength, List.filter_cons_of_pos hin,
          List.filter_cons_of_neg (by simp [hin]), List.map_cons, List.append_assoc,
          List.singleton_append]
      · rw [if_neg hin, ih hlt (by omega), List.take_succ_eq_append_getElem hlt,
          List.filter_cons_of_neg hin, List.filter_cons_of_pos (by simp [hin]), List.append_assoc,
          List.singleton_append]
    · have hlength : customRoutes.length ≤ i := by omega
      rw [List.getElem?_eq_none hlength, List.drop_of_length_le hlength,
        List.take_of_length_le hlength, List.filter_nil, List.filter_nil, List.map_nil,
        List.append_nil, List.append_nil]

section

variable {customRoutes : List OAIRoute} {results : List AllocationResult} {res : AllocationResult}

theorem groupLoop_cons {ip : Addr} {ipNet : IPNet}
    (h : netParseCIDR res.ip.address = some (ip, ipNet)) :
    groupLoop customRoutes (res :: results) =
      let rest := groupLoop (customRoutes.filter (!inSubnetOf · res)) results
      { rest with results := attach res (customRoutes.filter (inSubnetOf · res)) :: rest.results } := by
  have hin : ∀ route, inSubnetOf route res = gwIn ipNet route := by
    intro route
    rw [inSubnetOf, h]
    rfl
  rw [groupLoop, h]
  dsimp only
  rw [takeRoutes_eq (Nat.zero_le _) (by omega)]
  simp only [List.take_zero, List.nil_append, List.drop_zero, attach, hin]

theorem groupLoop_spec (h : (groupLoop customRoutes results).err = none) :
    (groupLoop customRoutes results).results = results.mapIdx (fun k res =>
      attach res (customRoutes.filter fun route => receiver results route = some k)) ∧
    (groupLoop customRoutes results).customRoutes =
      customRoutes.filter fun route => receiver results route = none := by
  induction results generalizing customRoutes with
  | nil => simp [groupLoop, receiver]
  | cons res results ih =>
    cases hparse : netParseCIDR res.ip.address with
    | none =>
      rw [groupLoop, hparse] at h
      cases h
    | some parsed =>
      rw [groupLoop_cons hparse] at h ⊢
      obtain ⟨hresults, hleft⟩ := ih h
      have hfirst : ∀ route, receiver (res :: results) route =
          if inSubnetOf route res then some 0 else (receiver results route).map (· + 1) := by
        intro route
        rw [receiver, List.findIdx?_cons]
        rfl
      dsimp only
      rw [hresults, hleft, List.mapIdx_cons]
      refine ⟨?_, ?_⟩
      · congr 1
        · congr 1
          refine List.filter_congr fun route _ => ?_
          rw [hfirst]
          cases inSubnetOf route res <;> simp
        · congr 1
          funext k res'
          congr 1
          rw [List.filter_filter]
          refine List.filter_congr fun route _ => ?_
          rw [hfirst]
          cases inSubnetOf route res <;> simp
      · rw [List.filter_filter]
        refine List.filter_congr fun route _ => ?_
        rw [hfirst]
        cases inSubnetOf route res <;> simp

theorem groupLoop_perm :
    (((groupLoop customRoutes results).results.flatMap (·.routes) ++
      (groupLoop customRoutes results).customRoutes).map destination).Perm
    ((results.flatMap (·.routes) ++ customRoutes).map destination) := by
  induction results generalizing customRoutes with
  | nil => exact .refl _
  | cons res results ih =>
    cases hparse : netParseCIDR res.ip.address with
    | none => rw [groupLoop, hparse]
    | some parsed =>
      rw [groupLoop_cons hparse]
      dsimp only
      set own := customRoutes.filter (inSubnetOf · res)
      set others := customRoutes.filter (!inSubnetOf · res)
      have hown : (attach res own).routes.map destination = (res.routes ++ own).map destination := by
        simp [attach, destination]
      have hrest := @ih others
      have hsplit := (List.filter_append_perm (inSubnetOf · res) customRoutes).map destination
      simp only [List.flatMap_cons, List.map_append, List.append_assoc, hown] at hrest hsplit ⊢
      refine List.Perm.append_left _ ?_
      -- the routes taken out go before those of the results behind, and with the others they are all
      exact (hrest.append_left _).trans
        ((List.perm_append_comm_assoc _ _ _).trans (hsplit.append_left _))

theorem groupLoop_eq :
    groupRoutes customRoutes results = (groupLoop customRoutes results).err.elim
      (.ok (groupLoop customRoutes results).results) fail := by
  induction results generalizing customRoutes with
  | nil => rfl
  | cons res results ih =>
    cases hparse : netParseCIDR res.ip.address with
    | none =>
      rw [groupRoutes, groupLoop, hparse]
      rfl
    | some parsed =>
      have hin : ∀ route, inSubnetOf route res = gwIn parsed.2 route := by
        intro route
        rw [inSubnetOf, hparse]
        rfl
      rw [groupLoop_cons hparse, groupRoutes, hparse]
      simp only [hin, List.partition_eq_filter_filter]
      have hrest := @ih (customRoutes.filter (!gwIn parsed.2 ·))
      cases herr : (groupLoop (customRoutes.filter (!gwIn parsed.2 ·)) results).err with
      | none =>
        rw [herr] at hrest
        exact bind_eq_ok.2 ⟨_, hrest, rfl⟩
      | some e =>
        rw [herr] at hrest
        exact congrArg (· >>= _) hrest

theorem groupCustomRoutes_eq (customRoutes : List OAIRoute) (results : List AllocationResult) :
    groupCustomRoutes customRoutes results = (groupInPlace customRoutes results).err.elim
      (.ok (groupInPlace customRoutes results).results) fail := by
  unfold groupCustomRoutes groupInPlace
  split_ifs
  · rfl
  · exact groupLoop_eq

/-- **Where the custom routes go.**  If `groupCustomRoutes` succeeds, each result has got, behind the
routes that it had, the custom routes whose first result it is, with its interface; the others are
left over; and no route has been lost or doubled. -/
theorem groupCustomRoutes_exact (h : (groupInPlace customRoutes results).err = none) :
    (groupInPlace customRoutes results).results = results.mapIdx (fun k res =>
      attach res (customRoutes.filter fun route => receiver results route = some k)) ∧
    (groupInPlace customRoutes results).customRoutes =
      customRoutes.filter (fun route => receiver results route = none) ∧
    (((groupInPlace customRoutes results).results.flatMap (·.routes) ++
      (groupInPlace customRoutes results).customRoutes).map destination).Perm
      ((results.flatMap (·.routes) ++ customRoutes).map destination) := by
  unfold groupInPlace at h ⊢
  split_ifs at h ⊢ with hnil
  · subst hnil
    have hattach : ∀ res, attach res [] = res := fun res => by simp [attach]
    refine ⟨?_, rfl, .refl _⟩
    simp only [List.filter_nil, hattach]
    exact List.ext_getElem (by simp) (by simp)
  · obtain ⟨hresults, hleft⟩ := groupLoop_spec h
    exact ⟨hresults, hleft, groupLoop_perm⟩

end

end IPAM

namespace Sample

open IPAM

def resultFor (nic pool address : String) (routes : List OAIRoute) : AllocationResult where
  ip :=
    { address := address, gateway := "", ipPool := pool, nic := nic, version := Constant.ipv4,
      enableGatewayDetection := false, enableIPConflictDetection := false }
  routes := routes

def twoResults : List AllocationResult :=
  [resultFor "eth0" "sample" "10.0.0.5/24" [⟨"eth0", "10.2.0.0/16", "10.0.0.1"⟩],
    resultFor "net1" "other" "10.1.0.5/24" []]

def threeRoutes : List OAIRoute :=
  [⟨"", "10.3.0.0/16", "10.1.0.1"⟩, ⟨"", "10.4.0.0/16", "10.0.0.1"⟩, ⟨"", "10.5.0.0/16", "10.9.0.1"⟩]

/-- Two of the routes go to the interfaces, behind the route that is there. -/
theorem two_routes_attached :
    (groupInPlace threeRoutes twoResults).err = none ∧
    (groupInPlace threeRoutes twoResults).results.map (·.routes) =
      [[⟨"eth0", "10.2.0.0/16", "10.0.0.1"⟩, ⟨"eth0", "10.4.0.0/16", "10.0.0.1"⟩],
        [⟨"net1", "10.3.0.0/16", "10.1.0.1"⟩]] := by
  have herr : (groupInPlace threeRoutes twoResults).err = none := by
    decide +kernel
  refine ⟨herr, ?_⟩
  rw [(groupCustomRoutes_exact herr).1]
  decide +kernel

end Sample

end Spiderpool
