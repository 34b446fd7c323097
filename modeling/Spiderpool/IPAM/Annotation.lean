/-
# Candidate pools from the Pod's annotation

`getPoolFromPodAnnoPools` of `pkg/ipam/pool_selections.go` and
`validateAndMutateMultipleNICAnnotations` of `pkg/ipam/utils.go`: the pools that
`ipam.spidernet.io/ippools` gives each interface. The items name their interfaces either all
or not at all; in the second case the interfaces go by their indices, as `annoPools_unnamed`
says.
-/

import Spiderpool.IPAM.Types

namespace Spiderpool
namespace IPAM

/-- `ParseWildcardPoolNameList`: the names, and whether wildcards have been replaced in them. -/
abbrev ParseWildcard := List String → IPVersion → Result Err (List String × Bool)

/-- The loop of `validateAndMutateMultipleNICAnnotations`: the names it has seen, and the items
with names. -/
def mutateNICs (hasNIC : Bool) : ℕ → List String → List AnnoIPPoolItem →
    Result Err (List String × List AnnoIPPoolItem)
  | _, nicSet, [] => .ok (nicSet, [])
  | index, nicSet, item :: items => do
    failIf (decide (item.nic ≠ "") ≠ hasNIC)
      (.new "NIC should be either all specified or all unspecified")
    let nic := if item.nic = "" then itoa index else item.nic
    failIf (nic ∈ nicSet) (.new ("duplicate interface " ++ nic))
    let (nicSet, items) ← mutateNICs hasNIC (index + 1) (nic :: nicSet) items
    return (nicSet, { item with nic := nic } :: items)

def validateAndMutateMultipleNICAnnotations (items : List AnnoIPPoolItem) (currentNIC : String) :
    Result Err (List AnnoIPPoolItem) :=
  match items with
  | [] => fail (.new "value requires at least one item")
  | first :: _ => do
    let hasNIC := decide (first.nic ≠ "")
    let (nicSet, items) ← mutateNICs hasNIC 0 [] items
    failIf (hasNIC = true ∧ currentNIC ∉ nicSet)
      (.new ("interface " ++ currentNIC ++ " must be specified"))
    return items

def expandPools (parse : ParseWildcard) (version : IPVersion) (pools : List String) :
    Result Err (List String) :=
  if pools = [] then .ok []
  else do
    let (newPoolNames, hasWildcard) ← parse pools version
    return if hasWildcard then newPoolNames else pools

def expandItem (parse : ParseWildcard) (item : AnnoIPPoolItem) : Result Err AnnoIPPoolItem := do
  let ipv4Pools ← expandPools parse Constant.ipv4 item.ipv4Pools
  let ipv6Pools ← expandPools parse Constant.ipv6 item.ipv6Pools
  return { item with ipv4Pools := ipv4Pools, ipv6Pools := ipv6Pools }

def AnnoIPPoolItem.toBeAllocated (v : AnnoIPPoolItem) : ToBeAllocated where
  nic := v.nic
  cleanGateway := v.cleanGateway
  poolCandidates :=
    (if v.ipv4Pools ≠ [] then [{ ipVersion := Constant.ipv4, pools := v.ipv4Pools }] else []) ++
    if v.ipv6Pools ≠ [] then [{ ipVersion := Constant.ipv6, pools := v.ipv6Pools }] else []

/-- `errPrefix` of `getPoolFromPodAnnoPools`, before another error. -/
def annoPoolsErr (e : Err) : Err :=
  ⟨.errWrongInput :: e.sentinels, Sentinel.errWrongInput.text ++
    ", invalid format of Pod annotation 'ipam.spidernet.io/ippools': " ++ e.text⟩

def getPoolFromPodAnnoPools (parse : ParseWildcard) (anno : Json (List AnnoIPPoolItem))
    (currentNIC : String) : Result Err (List ToBeAllocated) :=
  match anno with
  | .malformed error => fail (annoPoolsErr (.new error))
  | .doc items => do
    let items ← items.mapM (expandItem parse)
    let items ← mapErr annoPoolsErr (validateAndMutateMultipleNICAnnotations items currentNIC)
    return items.map AnnoIPPoolItem.toBeAllocated

section

variable {parse : ParseWildcard} {items items' : List AnnoIPPoolItem}

theorem expandItems_nics (h : items.mapM (expandItem parse) = .ok items') :
    items'.map (·.nic) = items.map (·.nic) := by
  refine map_of_mapM (fun item item' hitem => ?_) h
  obtain ⟨_, -, hitem⟩ := bind_eq_ok.1 hitem
  obtain ⟨_, -, hitem⟩ := bind_eq_ok.1 hitem
  rw [← Except.ok.inj hitem]

section

variable {index : ℕ} {nicSet : List String} {x : List String × List AnnoIPPoolItem}

theorem mutateNICs_unnamed (h : mutateNICs false index nicSet items = .ok x) :
    x.2.map (·.nic) = (List.range' index items.length).map itoa := by
  induction items generalizing index nicSet x with
  | nil =>
    obtain rfl := Except.ok.inj h
    rfl
  | cons item items ih =>
    rw [mutateNICs] at h
    obtain ⟨hnic, h⟩ := seq_eq_ok.1 h
    obtain ⟨-, h⟩ := seq_eq_ok.1 h
    obtain ⟨⟨nicSet', items'⟩, hrest, h⟩ := bind_eq_ok.1 h
    rw [failIf_eq_ok, not_not, decide_eq_false_iff_not, not_not] at hnic
    rw [← Except.ok.inj h, List.length_cons, List.range'_succ, List.map_cons, List.map_cons,
      ih hrest, if_pos hnic]

theorem mutateNICs_named {hasNIC : Bool} (h : mutateNICs hasNIC index nicSet items = .ok x) :
    ∀ item ∈ items, decide (item.nic ≠ "") = hasNIC := by
  induction items generalizing index nicSet x with
  | nil => simp
  | cons item items ih =>
    rw [mutateNICs] at h
    obtain ⟨hnic, h⟩ := seq_eq_ok.1 h
    obtain ⟨-, h⟩ := seq_eq_ok.1 h
    obtain ⟨_, hrest, -⟩ := bind_eq_ok.1 h
    exact List.forall_mem_cons.2 ⟨not_not.1 (failIf_eq_ok.1 hnic), ih hrest⟩

end

theorem annoPools_unnamed {currentNIC : String} {tt : List ToBeAllocated}
    (h : getPoolFromPodAnnoPools parse (.doc items) currentNIC = .ok tt)
    (hname : ∃ item ∈ items, item.nic = "") :
    tt.map (·.nic) = (List.range items.length).map itoa := by
  obtain ⟨expanded, hexpand, h⟩ := bind_eq_ok.1 h
  obtain ⟨named, hvalidate, h⟩ := bind_eq_ok.1 h
  obtain rfl := Except.ok.inj h
  have hnics := expandItems_nics hexpand
  have hlength : expanded.length = items.length := by
    simpa using congrArg List.length hnics
  have hmem : "" ∈ expanded.map (·.nic) := hnics ▸ List.mem_map.2 hname
  have hresult : named.map (·.nic) = (List.range' 0 expanded.length).map itoa := by
    cases expanded with
    | nil => simp at hmem
    | cons first rest =>
      obtain ⟨⟨nicSet, named'⟩, hloop, hrest⟩ := bind_eq_ok.1 (mapErr_eq_ok.1 hvalidate)
      obtain ⟨-, hrest⟩ := seq_eq_ok.1 hrest
      obtain rfl := Except.ok.inj hrest
      -- one item has no name, so none has
      obtain ⟨item, hitem, hempty⟩ := List.mem_map.1 hmem
      have hfirst : decide (first.nic ≠ "") = false := by
        rw [← mutateNICs_named hloop item hitem]
        simp [hempty]
      rw [hfirst] at hloop
      exact mutateNICs_unnamed hloop
  rw [List.range_eq_range', ← hlength, ← hresult, List.map_map]
  rfl

end

end IPAM
end Spiderpool
