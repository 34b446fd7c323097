/-
# The names of unnamed interfaces

A Pod whose annotation lists interfaces without names gets the addresses of all of them with its
first ADD, for `eth0`. The endpoint records them in slots, of which the first is named `eth0` and the
others are not (`renameNICs`). A later ADD takes the slot with its interface, or else names the first
that has no name: by `UpdateAllocationNICName` if the Pod is the one that the endpoint is for, by
`ReallocateCurrentIPAllocation` if it is one that keeps its addresses.
-/

import Spiderpool.Endpoint.Manager

namespace Spiderpool

open EndpointManager

/-- An ADD for a Pod whose addresses are recorded: for the Pod that they are recorded for, or for one
that takes them over. -/
inductive AddRequest where
  | existing (nic : String)
  | static (uid nodeName nic : String)

def AddRequest.nic : AddRequest → String
  | .existing nic | .static _ _ nic => nic

/-- The request is served from the record, if there is a slot for it. -/
def AddRequest.serve (ns name : String) : AddRequest → Api Bool
  | .existing nic => do
    match ← getEndpointByName ns name with
    | none => return false
    | some endpoint =>
      match retrieveIPAllocation endpoint.uid nic (some endpoint) false with
      | none => return false
      | some _ => do
        let _ ← updateAllocationNICName endpoint nic
        return true
  | .static uid nodeName nic => do
    let endpoint ← getEndpointByName ns name
    match retrieveIPAllocation uid nic endpoint true with
    | none => return false
    | some endpoint => do
      let _ ← reallocateCurrentIPAllocation uid nodeName nic endpoint true
      return true

/-- One request after the other, as long as there are slots for them. -/
def serveAll (ns name : String) : List AddRequest → Api Bool
  | [] => pure true
  | req :: reqs => do
    if ← req.serve ns name then serveAll ns name reqs else return false

/-- The names with another one behind them, unless it is among them. -/
def addName (names : List String) (nic : String) : List String :=
  if nic ∈ names then names else names ++ [nic]

/-- The distinct names of a list, in the order in which they come first. -/
def distinctNames (nics : List String) : List String := nics.foldl addName []

def slotNames (ips : List IPAllocationDetail) : List String := ips.map (·.nic)

def assign : List String → List IPAllocationDetail → List IPAllocationDetail
  | nic :: names, d :: details => { d with nic := nic } :: assign names details
  | _, details => details.map fun d => { d with nic := "" }

/-! ### Slots -/

section

variable {names : List String} {details : List IPAllocationDetail} {nic : String}

theorem renameNICs_eq (details : List IPAllocationDetail) :
    renameNICs details = assign [Constant.clusterDefaultInterfaceName] details := by
  cases details with
  | nil => rfl
  | cons d details =>
    rw [renameNICs, assign]
    cases details <;> rfl

theorem assign_nil (details : List IPAllocationDetail) :
    assign [] details = details.map fun d => { d with nic := "" } := by
  cases details <;> rfl

theorem assign_nics (h : names.length ≤ details.length) :
    (assign names details).map (·.nic) =
      names ++ List.replicate (details.length - names.length) "" := by
  induction names generalizing details with
  | nil =>
    rw [assign_nil, List.map_map]
    simp [Function.comp_def]
  | cons nic names ih =>
    cases details with
    | nil => cases h
    | cons d details =>
      rw [List.length_cons, List.length_cons, Nat.add_le_add_iff_right] at h
      rw [assign, List.map_cons, ih h, List.length_cons, List.length_cons, Nat.add_sub_add_right]
      rfl

theorem assign_addresses :
    ((assign names details).map fun d => { d with nic := "" }) =
      details.map fun d => { d with nic := "" } := by
  induction names generalizing details with
  | nil => simp [assign_nil]
  | cons nic names ih =>
    cases details with
    | nil => rfl
    | cons d details =>
      rw [assign, List.map_cons, ih, List.map_cons]

theorem nameNIC_assign (hnames : ∀ n ∈ names, n ≠ "")
    (hcount : (addName names nic).length ≤ details.length) :
    nameNIC nic (assign names details) = assign (addName names nic) details := by
  induction names generalizing details with
  | nil =>
    cases details with
    | nil => cases hcount
    | cons d details =>
      show { d with nic := nic } :: (details.map fun d => { d with nic := "" }) = _
      rw [← assign_nil]
      rfl
  | cons n names ih =>
    rw [List.forall_mem_cons] at hnames
    cases details with
    | nil =>
      unfold addName at hcount
      split_ifs at hcount
      all_goals simp at hcount
    | cons d details =>
      rw [assign, nameNIC, if_neg hnames.1]
      dsimp only
      by_cases hn : n = nic
      · rw [if_pos hn, addName, if_pos (hn ▸ List.mem_cons_self), assign]
      · have hcons : addName (n :: names) nic = n :: addName names nic := by
          unfold addName
          by_cases hin : nic ∈ names
          · rw [if_pos hin, if_pos (List.mem_cons_of_mem n hin)]
          · rw [if_neg hin, if_neg (by simp [hin, Ne.symm hn]), List.cons_append]
        rw [hcons, List.length_cons, List.length_cons, Nat.add_le_add_iff_right] at hcount
        rw [if_neg hn, ih hnames.2 hcount, hcons, assign]

theorem nameNIC_eq_self {ips : List IPAllocationDetail}
    (h : ∀ d ∈ ips.find? fun d => d.nic = "" ∨ d.nic = nic, d.nic ≠ "") : nameNIC nic ips = ips := by
  induction ips with
  | nil => rfl
  | cons d ips ih =>
    rw [nameNIC]
    by_cases hempty : d.nic = ""
    · exact absurd hempty (h d (by simp [hempty]))
    · rw [if_neg hempty]
      by_cases hnic : d.nic = nic
      · rw [if_pos hnic]
      · rw [if_neg hnic, ih fun d' hd' => h d' ?_]
        rwa [List.find?_cons_of_neg (by simp [hempty, hnic])]

theorem mem_addName {n : String} : n ∈ addName names nic ↔ n ∈ names ∨ n = nic := by
  unfold addName
  split_ifs with hin
  · exact ⟨.inl, fun h => h.elim id fun heq => heq ▸ hin⟩
  · rw [List.mem_append, List.mem_singleton]

theorem nodup_addName (h : names.Nodup) : (addName names nic).Nodup := by
  unfold addName
  split_ifs with hin
  · exact h
  · rw [← List.concat_eq_append]
    exact h.concat hin

theorem nodup_foldl_addName {nics : List String} (h : names.Nodup) :
    (nics.foldl addName names).Nodup := by
  induction nics generalizing names with
  | nil => exact h
  | cons nic nics ih => exact ih (nodup_addName h)

theorem mem_foldl_addName {nics : List String} {n : String} :
    n ∈ nics.foldl addName names ↔ n ∈ names ∨ n ∈ nics := by
  induction nics generalizing names with
  | nil => simp
  | cons nic nics ih => rw [List.foldl_cons, ih, mem_addName, List.mem_cons, or_assoc]

theorem getElem?_append_replicate {n k : ℕ} (hnic : nic ≠ "") :
    (names ++ List.replicate n "")[k]? = some nic ↔ names[k]? = some nic := by
  rcases lt_or_ge k names.length with hlt | hge
  · rw [List.getElem?_append_left hlt]
  · rw [List.getElem?_append_right hge, List.getElem?_eq_none hge]
    refine iff_of_false (fun h => hnic ?_) nofun
    exact List.eq_of_mem_replicate (List.mem_of_getElem? h)

theorem prefix_addName : names <+: addName names nic := by
  unfold addName
  split_ifs
  · exact List.prefix_refl names
  · exact List.prefix_append names [nic]

theorem prefix_foldl_addName (nics : List String) : names <+: nics.foldl addName names := by
  induction nics generalizing names with
  | nil => exact List.prefix_refl names
  | cons nic nics ih => exact prefix_addName.trans ih

end

/-! ### Requests -/

def Records (s : ApiServer) (ns name : String) (ips : List IPAllocationDetail) : Prop :=
  ∃ e, s.endpoints.lookup (ns, name) = some e ∧ e.namespacedName = (ns, name) ∧
    ¬(e.deletionTimestamp.isSome ∧ e.finalizers = []) ∧ e.ips = ips

section

variable {s : ApiServer} {ns name nic : String} {names : List String}
  {details : List IPAllocationDetail} {e e' : SpiderEndpoint}

theorem updateEndpoint_records (hlookup : s.endpoints.lookup (ns, name) = some e)
    (hname : e.namespacedName = (ns, name))
    (hkept : ¬(e.deletionTimestamp.isSome ∧ e.finalizers = []))
    (hname' : e'.namespacedName = e.namespacedName) (hfinalizers : e'.finalizers = e.finalizers) :
    ∃ e'' s', updateEndpoint e' s = (.ok e'', s') ∧ Records s' ns name e'.ips := by
  unfold updateEndpoint
  rw [hname', hname, hlookup]
  refine ⟨_, _, rfl, { e' with deletionTimestamp := e.deletionTimestamp }, ?_, ?_, ?_, rfl⟩
  · have hkey : SpiderEndpoint.namespacedName { e' with deletionTimestamp := e.deletionTimestamp } =
        (ns, name) := hname'.trans hname
    rw [ApiServer.store, hkey]
    dsimp only
    rw [if_neg (by rw [hfinalizers]; exact hkept), AList.lookup_insert]
  · exact hname'.trans hname
  · rw [hfinalizers]
    exact hkept

theorem updateAllocationNICName_records (hlookup : s.endpoints.lookup (ns, name) = some e)
    (hname : e.namespacedName = (ns, name))
    (hkept : ¬(e.deletionTimestamp.isSome ∧ e.finalizers = [])) :
    ∃ e'' s', updateAllocationNICName e nic s = (.ok e'', s') ∧
      Records s' ns name (nameNIC nic e.ips) := by
  unfold updateAllocationNICName
  cases hfind : e.ips.find? fun d => d.nic = "" ∨ d.nic = nic with
  | none =>
    rw [nameNIC_eq_self (by rw [hfind]; exact nofun)]
    exact updateEndpoint_records hlookup hname hkept rfl rfl
  | some d =>
    dsimp only
    split_ifs with hd
    · have hself : nameNIC nic e.ips = e.ips := nameNIC_eq_self fun d' hd' => by
        obtain rfl := Option.some.inj (hfind.symm.trans hd')
        exact hd.1 ▸ hd.2
      exact ⟨e, s, rfl, e, hlookup, hname, hkept, hself.symm⟩
    · exact updateEndpoint_records hlookup hname hkept rfl rfl

theorem reallocateCurrentIPAllocation_records (uid nodeName nic : String)
    (hlookup : s.endpoints.lookup (ns, name) = some e) (hname : e.namespacedName = (ns, name))
    (hkept : ¬(e.deletionTimestamp.isSome ∧ e.finalizers = [])) :
    ∃ e'' s', reallocateCurrentIPAllocation uid nodeName nic e true s = (.ok e'', s') ∧
      Records s' ns name (nameNIC nic e.ips) := by
  simp only [reallocateCurrentIPAllocation, if_true]
  split_ifs with hsame
  · exact ⟨e, s, rfl, e, hlookup, hname, hkept, (congrArg SpiderEndpoint.ips hsame).symm⟩
  · exact updateEndpoint_records hlookup hname hkept rfl rfl

theorem exists_slot (hcount : (addName names nic).length ≤ details.length) :
    (assign names details).any (fun d => d.nic = nic ∨ d.nic = "") = true := by
  have hlength : names.length ≤ details.length := prefix_addName.length_le.trans hcount
  suffices hmem : ∃ n ∈ (assign names details).map (·.nic), n = nic ∨ n = "" by
    obtain ⟨n, hn, hor⟩ := hmem
    obtain ⟨d, hd, rfl⟩ := List.mem_map.1 hn
    exact List.any_eq_true.2 ⟨d, hd, decide_eq_true hor⟩
  rw [assign_nics hlength]
  by_cases hin : nic ∈ names
  · exact ⟨nic, List.mem_append_left _ hin, .inl rfl⟩
  · rw [addName, if_neg hin, List.length_append, List.length_singleton] at hcount
    exact ⟨"", List.mem_append_right _ (List.mem_replicate.2 ⟨by omega, rfl⟩), .inr rfl⟩

theorem serve_ok {req : AddRequest} (h : Records s ns name (assign names details))
    (hnames : ∀ n ∈ names, n ≠ "")
    (hcount : (addName names req.nic).length ≤ details.length) :
    ∃ s', req.serve ns name s = (.ok true, s') ∧
      Records s' ns name (assign (addName names req.nic) details) := by
  obtain ⟨e, hlookup, hname, hkept, hips⟩ := h
  have hslot := exists_slot hcount
  have hget : getEndpointByName ns name s = (.ok (some e), s) := by rw [getEndpointByName, hlookup]
  rw [← nameNIC_assign hnames hcount, ← hips]
  rw [← hips] at hslot
  cases req with
  | existing nic =>
    obtain ⟨e'', s', hupdate, hrecords⟩ :=
      updateAllocationNICName_records hlookup hname hkept
    have hretrieve : retrieveIPAllocation e.uid nic (some e) false = some e :=
      Option.filter_eq_some_iff.2 ⟨rfl, decide_eq_true ⟨.inl rfl, hslot⟩⟩
    refine ⟨s', ?_, hrecords⟩
    rw [AddRequest.serve, Eff.bind_of_ok _ hget]
    dsimp only
    rw [hretrieve]
    exact Eff.bind_of_ok _ hupdate
  | static uid nodeName nic =>
    obtain ⟨e'', s', hupdate, hrecords⟩ :=
      reallocateCurrentIPAllocation_records uid nodeName nic hlookup hname hkept
    have hretrieve : retrieveIPAllocation uid nic (some e) true = some e :=
      Option.filter_eq_some_iff.2 ⟨rfl, decide_eq_true ⟨.inr rfl, hslot⟩⟩
    refine ⟨s', ?_, hrecords⟩
    rw [AddRequest.serve, Eff.bind_of_ok _ hget, hretrieve]
    exact Eff.bind_of_ok _ hupdate

theorem serveAll_ok {requests : List AddRequest} (h : Records s ns name (assign names details))
    (hrequests : ∀ req ∈ requests, req.nic ≠ "") (hnames : ∀ n ∈ names, n ≠ "")
    (hcount : ((requests.map (·.nic)).foldl addName names).length ≤ details.length) :
    ∃ s', serveAll ns name requests s = (.ok true, s') ∧
      Records s' ns name (assign ((requests.map (·.nic)).foldl addName names) details) := by
  induction requests generalizing s names with
  | nil => exact ⟨s, rfl, h⟩
  | cons req requests ih =>
    rw [List.forall_mem_cons] at hrequests
    rw [List.map_cons, List.foldl_cons] at hcount ⊢
    have hlength := (prefix_foldl_addName _).length_le.trans hcount
    obtain ⟨s₁, hserve, h₁⟩ := serve_ok h hnames hlength
    have hnames₁ : ∀ n ∈ addName names req.nic, n ≠ "" := by
      intro n hn
      rcases mem_addName.1 hn with hn | rfl
      · exact hnames n hn
      · exact hrequests.1
    obtain ⟨s', hall, h'⟩ := ih h₁ hrequests.2 hnames₁ hcount
    refine ⟨s', ?_, h'⟩
    rw [serveAll, Eff.bind_of_ok _ hserve]
    exact hall

theorem patch_records {em : Config} {o : RangeOrder String IPAllocationDetail}
    {results : List AllocationResult} {pod : Pod} {pc : PodTopController} {s' : ApiServer}
    (h : patchIPAllocationResults em o results none pod pc true s = (.ok (), s')) :
    ∃ name details, Records s' pod.ns name (renameNICs details) ∧
      convertResultsToIPDetails o results true = renameNICs details := by
  unfold patchIPAllocationResults createEndpoint at h
  dsimp only at h
  split at h
  · obtain rfl := (Prod.mk.inj h).2
    refine ⟨_, _, ⟨newEndpoint em (convertResultsToIPDetails o results true) pod pc, ?_, rfl, ?_, rfl⟩,
      rfl⟩
    · rw [ApiServer.store, if_neg (by simp [newEndpoint])]
      exact AList.lookup_insert _
    · simp [newEndpoint]
  · cases h

/-- **Interfaces and slots.**  For all requests for unnamed interfaces of which the first is for `eth0`
and which ask for no more interfaces than there are slots: every request is served; the interfaces
have the slots in the order in which they have first been asked for, each exactly one; a slot that
has a name at some point keeps it; and no slot has other addresses than before. -/
theorem slots_assigned (s : ApiServer) (ns name : String) (e : SpiderEndpoint)
    (details : List IPAllocationDetail) (requests : List AddRequest)
    (hlookup : s.endpoints.lookup (ns, name) = some e)
    (hname : e.namespacedName = (ns, name))
    (hkept : ¬(e.deletionTimestamp.isSome ∧ e.finalizers = []))
    (hips : e.ips = renameNICs details)
    (hfirst : (requests.map (·.nic)).head? = some Constant.clusterDefaultInterfaceName)
    (hrequests : ∀ req ∈ requests, req.nic ≠ "")
    (hcount : (distinctNames (requests.map (·.nic))).length ≤ details.length) :
    ∃ s' ips, serveAll ns name requests s = (.ok true, s') ∧ Records s' ns name ips ∧
      (∀ (k : ℕ) nic, (distinctNames (requests.map (·.nic)))[k]? = some nic →
        ∀ j : ℕ, (slotNames ips)[j]? = some nic ↔ j = k) ∧
      (∀ early late, requests = early ++ late → ∃ s₁ ips₁,
        serveAll ns name early s = (.ok true, s₁) ∧ Records s₁ ns name ips₁ ∧
        ∀ (k : ℕ) nic, nic ≠ "" → (slotNames ips₁)[k]? = some nic → (slotNames ips)[k]? = some nic) ∧
      ips.map (fun d => { d with nic := "" }) = details.map fun d => { d with nic := "" } := by
  have hstart : Records s ns name (assign [Constant.clusterDefaultInterfaceName] details) :=
    ⟨e, hlookup, hname, hkept, hips.trans (renameNICs_eq details)⟩
  -- the first request finds its slot named
  have hdistinct : (requests.map (·.nic)).foldl addName [Constant.clusterDefaultInterfaceName] =
      distinctNames (requests.map (·.nic)) := by
    cases requests with
    | nil => cases hfirst
    | cons req requests =>
      have hreq : req.nic = Constant.clusterDefaultInterfaceName := Option.some.inj hfirst
      rw [distinctNames, List.map_cons, List.foldl_cons, List.foldl_cons, hreq]
      rfl
  have heth0 : ∀ n ∈ [Constant.clusterDefaultInterfaceName], n ≠ "" := by decide
  rw [← hdistinct] at hcount ⊢
  set names := (requests.map (·.nic)).foldl addName [Constant.clusterDefaultInterfaceName]
  obtain ⟨s', hserve, hrecords⟩ := serveAll_ok hstart hrequests heth0 hcount
  refine ⟨s', _, hserve, hrecords, fun k nic hk j => ?_, fun early late heq => ?_, assign_addresses⟩
  · have hnodup : names.Nodup := nodup_foldl_addName (List.nodup_singleton _)
    have hne : nic ≠ "" := by
      rcases mem_foldl_addName.1 (List.mem_of_getElem? hk) with hin | hin
      · exact heth0 nic hin
      · obtain ⟨req, hreq, rfl⟩ := List.mem_map.1 hin
        exact hrequests req hreq
    rw [slotNames, assign_nics hcount, getElem?_append_replicate hne]
    constructor
    · intro hj
      exact (List.getElem?_inj (List.getElem?_eq_some_iff.1 hj).1 hnodup).1 (hj.trans hk.symm)
    · rintro rfl
      exact hk
  · subst heq
    have hprefix : (early.map (·.nic)).foldl addName [Constant.clusterDefaultInterfaceName] <+:
        names := by
      show _ <+: List.foldl _ _ _
      rw [List.map_append, List.foldl_append]
      exact prefix_foldl_addName _
    have hcount₁ := hprefix.length_le.trans hcount
    obtain ⟨s₁, hserve₁, hrecords₁⟩ := serveAll_ok hstart
      (fun req hreq => hrequests req (List.mem_append_left _ hreq)) heth0 hcount₁
    refine ⟨s₁, _, hserve₁, hrecords₁, fun k nic hne hk => ?_⟩
    rw [slotNames, assign_nics hcount₁, getElem?_append_replicate hne] at hk
    rw [slotNames, assign_nics hcount, getElem?_append_replicate hne]
    obtain ⟨rest, hrest⟩ := hprefix
    rw [← hrest, List.getElem?_append_left (List.getElem?_eq_some_iff.1 hk).1]
    exact hk

end

namespace Sample

def twoDetails : List IPAllocationDetail :=
  [{ nic := "0", ipv4 := some "10.0.0.5/24" }, { nic := "1", ipv4 := some "10.1.0.5/24" }]

def twoSlots : SpiderEndpoint where
  ns := "default"
  name := "web-0"
  finalizers := [Constant.spiderFinalizer]
  uid := "u1"
  ips := renameNICs twoDetails
  ownerControllerType := Constant.kindPod

def twoInterfaces : List AddRequest :=
  [.existing "eth0", .existing "net1", .static "u2" "node-1" "net1", .existing "eth0"]

/-- Each interface has its slot. -/
theorem two_slots_assigned : ∃ s' ips,
    serveAll "default" "web-0" twoInterfaces ⟨AList.insert ("default", "web-0") twoSlots ∅, ∅⟩ =
      (.ok true, s') ∧ Records s' "default" "web-0" ips ∧
    (slotNames ips)[0]? = some "eth0" ∧ (slotNames ips)[1]? = some "net1" := by
  obtain ⟨s', ips, hserve, hrecords, hslots, -, -⟩ := slots_assigned
    ⟨AList.insert ("default", "web-0") twoSlots ∅, ∅⟩ "default" "web-0" twoSlots twoDetails
    twoInterfaces rfl rfl (by decide) rfl rfl (by decide) (by decide)
  exact ⟨s', ips, hserve, hrecords, (hslots 0 "eth0" rfl 0).2 rfl, (hslots 1 "net1" rfl 1).2 rfl⟩

end Sample

end Spiderpool
