/-
# The addresses of an endpoint

The details of an endpoint name addresses, each with its pool and under the text by which the
pool records it (`addresses`). Grouping them by pool and answering a request from them go
through the same list: `lookup_group` and `convertIPDetails_addresses`.
-/

import Spiderpool.Endpoint.Convert

namespace Spiderpool

def familyAddress : (ip pool : Option String) → List (String × String)
  | some ip, some pool => [(pool, recordKey ip)]
  | _, _ => []

def IPAllocationDetail.addresses (d : IPAllocationDetail) : List (String × String) :=
  familyAddress d.ipv4 d.ipv4Pool ++ familyAddress d.ipv6 d.ipv6Pool

def addresses (details : List IPAllocationDetail) : List (String × String) :=
  details.flatMap IPAllocationDetail.addresses

def addressesOf (uid pool : String) (as : List (String × String)) : List IPAndUID :=
  (as.filter fun a => a.1 = pool).map fun a => ⟨a.2, uid⟩

theorem addressesOf_append (uid pool : String) (as as' : List (String × String)) :
    addressesOf uid pool (as ++ as') = addressesOf uid pool as ++ addressesOf uid pool as' := by
  simp [addressesOf]

section

variable {uid : String} {pius : PoolNameToIPAndUIDs} {ip pool : Option String}
  {details : List IPAllocationDetail} {c g : Bool} {a : Answer}

theorem mem_addressesOf {pool : String} {as : List (String × String)} {iu : IPAndUID} :
    iu ∈ addressesOf uid pool as ↔ (pool, iu.ip) ∈ as ∧ iu.uid = uid := by
  obtain ⟨ip, u⟩ := iu
  simp only [addressesOf, List.mem_map, List.mem_filter, decide_eq_true_eq, IPAndUID.mk.injEq,
    Prod.exists]
  constructor
  · rintro ⟨p, k, ⟨hmem, rfl⟩, rfl, rfl⟩
    exact ⟨hmem, rfl⟩
  · rintro ⟨hmem, rfl⟩
    exact ⟨pool, ip, ⟨hmem, rfl⟩, rfl, rfl⟩

theorem groupIP_ok {pius' : PoolNameToIPAndUIDs}
    (h : groupIP uid pius ip pool = .ok pius') (k : String) :
    (pius'.lookup k).getD [] =
      (pius.lookup k).getD [] ++ addressesOf uid k (familyAddress ip pool) := by
  cases ip with
  | none =>
    obtain rfl := Except.ok.inj h
    simp [familyAddress, addressesOf]
  | some ip =>
    obtain ⟨pool', hpool, h⟩ := bind_eq_ok.1 h
    obtain rfl := deref_eq_ok.1 hpool
    obtain rfl := Except.ok.inj h
    rw [GoMap.lookup_insert_eq]
    by_cases hk : k = pool'
    · subst hk
      simp [familyAddress, addressesOf, recordKey]
    · simp [hk, familyAddress, addressesOf, Ne.symm hk]

theorem lookup_group (h : groupIPAllocationDetails uid details = .ok pius) (k : String) :
    (pius.lookup k).getD [] = addressesOf uid k (addresses details) := by
  have hloop : ∀ (details : List IPAllocationDetail) (pius₀ pius : PoolNameToIPAndUIDs),
      details.foldlM (fun pius d => do
        let pius ← groupIP uid pius d.ipv4 d.ipv4Pool
        groupIP uid pius d.ipv6 d.ipv6Pool) pius₀ = .ok pius →
      (pius.lookup k).getD [] =
        (pius₀.lookup k).getD [] ++ addressesOf uid k (addresses details) := by
    intro details
    induction details with
    | nil =>
      intro pius₀ pius h
      obtain rfl := Except.ok.inj h
      simp [addresses, addressesOf]
    | cons d details ih =>
      intro pius₀ pius h
      rw [List.foldlM_cons] at h
      obtain ⟨pius₂, hd, h⟩ := bind_eq_ok.1 h
      obtain ⟨pius₁, h4, h6⟩ := bind_eq_ok.1 hd
      rw [ih pius₂ pius h, groupIP_ok h6 k, groupIP_ok h4 k]
      simp [addresses, IPAllocationDetail.addresses, addressesOf_append]
  simpa using hloop details ∅ pius h

theorem convertFamily_address {d : IPAllocationDetail} {version : IPVersion}
    {gateway : Option String}
    (h : convertFamily c g d version ip pool gateway = .ok a) :
    a.1.map (fun config => (config.ipPool, recordKey config.address)) = familyAddress ip pool := by
  cases ip with
  | none =>
    obtain rfl := Except.ok.inj h
    rfl
  | some ip =>
    obtain ⟨pool', hpool, hrest⟩ := bind_eq_ok.1 h
    obtain ⟨vlan, -, hrest⟩ := bind_eq_ok.1 hrest
    rw [deref_eq_ok.1 hpool, ← Except.ok.inj hrest]
    rfl

theorem convertIPDetails_addresses
    (h : convertIPDetailsToIPConfigsAndAllRoutes c g details = .ok a) :
    a.1.map (fun config => (config.ipPool, recordKey config.address)) = addresses details := by
  induction details generalizing a with
  | nil =>
    obtain rfl := Except.ok.inj h
    rfl
  | cons d details ih =>
    obtain ⟨a₁, hd, h⟩ := bind_eq_ok.1 h
    obtain ⟨a₂, hrest, h⟩ := bind_eq_ok.1 h
    obtain rfl := Except.ok.inj h
    obtain ⟨v4, h4, hd⟩ := bind_eq_ok.1 hd
    obtain ⟨v6, h6, hd⟩ := bind_eq_ok.1 hd
    obtain rfl := Except.ok.inj hd
    simp only [List.map_append, ih hrest, convertFamily_address h4, convertFamily_address h6]
    rfl

end

end Spiderpool
