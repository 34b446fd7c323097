/-
# The policy routing tables of the NICs of a Pod

`coordinatorModeAndFirstInvoke` of the coordinator plugin, and what `CmdAdd` does to the links of
the network namespace around it. The plugin runs once for every NIC of a Pod, each time as a process
of its own, and tells from the links it finds up which NIC it has come for.

In underlay mode the first run has no auxiliary interface `veth0` yet and takes the number 101, and
the second, which counts `veth0` as well, takes it again.
-/

import Spiderpool.Base.Effect
import Spiderpool.Coordinator.Config

namespace Spiderpool
namespace Coordinator

def modeUnderlay := "underlay"
def modeOverlay := "overlay"
def modeDisable := "disable"
def defaultUnderlayVethName := "veth0"
def defaultPodRuleTable : ℕ := 100

/-! ### The links of the namespace -/

/-- Bits of `net.Flags`. -/
def flagUp : ℕ := 1
def flagBroadcast : ℕ := 2
def flagMulticast : ℕ := 16

structure Link where
  name : String
  flags : ℕ
deriving DecidableEq

inductive LinkErr where
  /-- `netlink.LinkNotFoundError`. -/
  | notFound
  | other (e : Err)

structure Netlink where
  linkByName : String → Except LinkErr Link
  linkList : Result Err (List Link)

def Netlink.of (links : List Link) : Netlink where
  linkByName iface := (links.find? (·.name = iface)).elim (.error .notFound) .ok
  linkList := .ok links

def checkInterfaceExist (netns : Netlink) (iface : String) : Result Err Bool :=
  match netns.linkByName iface with
  | .ok _ => .ok true
  | .error .notFound => .ok false
  | .error (.other e) => fail e

/-- The links that `GetUPLinkList` keeps. -/
def Link.Counted (l : Link) : Prop :=
  l.flags &&& flagUp ≠ 0 ∧ l.flags &&& flagBroadcast ≠ 0 ∧ l.flags &&& flagMulticast ≠ 0

instance : DecidablePred Link.Counted := fun _ => inferInstanceAs (Decidable (_ ∧ _ ∧ _))

def getUPLinkList (netns : Netlink) : Result Err (List Link) := do
  let links ← netns.linkList
  return links.filter (·.Counted)

/-! ### The plugin -/

/-- The fields of `coordinator` that the mode is decided with. -/
structure CoordinatorState where
  firstInvoke : Bool := false
  currentRuleTable : ℕ := 0
  tuneMode : String
  currentInterface : String

def autoModeToSpecificMode (c : CoordinatorState) (mode podFirstInterface : String) (vethExist : Bool) :
    CoordinatorState :=
  if mode ≠ modeAuto then c
  else if c.currentInterface = podFirstInterface then { c with tuneMode := modeUnderlay }
  else if vethExist then { c with tuneMode := modeUnderlay }
  else { c with tuneMode := modeOverlay }

def coordinatorModeAndFirstInvoke (netns : Netlink) (c : CoordinatorState) (podFirstInterface : String) :
    Result Err CoordinatorState := do
  let vethExist ← mapErr (.wrap "failed to CheckInterfaceExist: " · "")
    (checkInterfaceExist netns defaultUnderlayVethName)
  let links ← mapErr (.wrap "failed to get link list: " · "") (getUPLinkList netns)
  let c := if c.tuneMode = modeAuto then
    autoModeToSpecificMode c modeAuto podFirstInterface vethExist else c
  if c.tuneMode = modeUnderlay then do
    let firstInvoke : Bool := c.currentInterface = podFirstInterface
    failIf (firstInvoke = false ∧ vethExist = false)
      (.new ("when creating interface " ++ c.currentInterface ++ " in underlay mode, it detects " ++
        "that the auxiliary interface " ++ podFirstInterface ++ " was not created by previous " ++
        "interface. please enable coordinator plugin in previous interface"))
    return { c with
      firstInvoke
      currentRuleTable := if firstInvoke then defaultPodRuleTable + 1 else links.length + 98 }
  else if c.tuneMode = modeOverlay then do
    failIf (c.currentInterface = podFirstInterface)
      (.new ("when creating interface " ++ c.currentInterface ++ " in overlay mode, it detects " ++
        "that the current interface is first interface named " ++ podFirstInterface ++
        ", this plugin should not work for it. please modify in the CNI configuration"))
    failIf (vethExist = true)
      (.new ("when creating interface " ++ c.currentInterface ++ " in overlay mode, it detects " ++
        "that the auxiliary interface " ++ defaultUnderlayVethName ++ " of underlay mode exists. " ++
        "It seems that the previous interface work in underlay mode. "))
    let firstInvoke : Bool := links.length = 2
    return { c with
      firstInvoke
      currentRuleTable := if firstInvoke then defaultPodRuleTable + 1 else 99 + links.length }
  else if c.tuneMode = modeDisable then return c
  else fail (.new ("unknown tuneMode: " ++ c.tuneMode))

def Link.setUp (l : Link) : Link := { l with flags := l.flags ||| flagUp }

def checkNICState (iface : String) : Eff (List Link) Err Unit := fun links =>
  match links.find? (·.name = iface) with
  | none => (fail (.new "Link not found"), links)
  | some link =>
    if link.flags ≠ flagUp then
      (.ok (), links.map fun l => if l.name = iface then l.setUp else l)
    else (.ok (), links)

def veth0 : Link := ⟨defaultUnderlayVethName, flagUp ||| flagBroadcast ||| flagMulticast⟩

/-- `setupVeth`, as far as the links of the Pod go. -/
def setupVeth : Eff (List Link) Err Unit := fun links => (.ok (), links ++ [veth0])

/-- The call of `coordinatorModeAndFirstInvoke` in `CmdAdd`. -/
def detectMode (podDefaultCniNic mode ifName : String) : Eff (List Link) Err CoordinatorState :=
  fun links => (coordinatorModeAndFirstInvoke (.of links)
    { tuneMode := mode, currentInterface := ifName } podDefaultCniNic, links)

/-- The steps of `CmdAdd` that look at the links or change them. -/
def cmdAdd (podDefaultCniNic mode ifName args : String) :
    Eff (List Link) Err CoordinatorState := do
  Eff.mapErr (.wrap ("error to check pod's nic " ++ args ++ " state: ") · "") (checkNICState ifName)
  let c ← detectMode podDefaultCniNic mode ifName
  if c.tuneMode = modeUnderlay ∧ c.firstInvoke = true then setupVeth
  return c

/-- A NIC of the Pod: the link that its CNI plugin makes, and the mode that the coordinator is
called with after it. -/
structure Nic where
  link : Link
  mode : String
  args : String := ""

def addLink (link : Link) : Eff (List Link) Err Unit := fun links => (.ok (), links ++ [link])

def attach (first : String) (nic : Nic) : Eff (List Link) Err ℕ := do
  addLink nic.link
  let c ← cmdAdd first nic.mode nic.link.name nic.args
  return c.currentRuleTable

def attachAll (first : String) : List Nic → Eff (List Link) Err (List ℕ)
  | [] => pure []
  | nic :: nics => do
    let table ← attach first nic
    let tables ← attachAll first nics
    return table :: tables

/-! ### One NIC -/

theorem find_added {links : List Link} {l : Link} (h : l.name ∉ links.map Link.name) :
    (links ++ [l]).find? (fun k => k.name = l.name) = some l := by
  rw [List.find?_append, List.find?_eq_none.2]
  · simp
  · intro k hk hname
    exact h (List.mem_map.2 ⟨k, hk, by simpa using hname⟩)

theorem checkNICState_added {links : List Link} {l : Link} (h : l.name ∉ links.map Link.name)
    (hb : l.flags &&& flagBroadcast ≠ 0) :
    checkNICState l.name (links ++ [l]) = (.ok (), links ++ [l.setUp]) := by
  have hflags : l.flags ≠ flagUp := by
    intro hup
    rw [hup] at hb
    exact hb (by decide)
  have hrest : links.map (fun k => if k.name = l.name then k.setUp else k) = links := by
    refine (List.map_congr_left fun k hk => if_neg fun hname => h ?_).trans links.map_id
    exact hname ▸ List.mem_map_of_mem hk
  simp only [checkNICState, find_added h]
  rw [if_pos hflags, List.map_append, hrest]
  simp

theorem checkInterfaceExist_of (links : List Link) (iface : String) :
    checkInterfaceExist (.of links) iface = .ok (decide (iface ∈ links.map Link.name)) := by
  unfold checkInterfaceExist Netlink.of
  rcases hfind : links.find? (·.name = iface) with _ | l
  · have hno : iface ∉ links.map Link.name := by
      simpa using hfind
    simp [hfind, hno]
  · have hl := List.find?_some hfind
    have hmem := List.mem_of_find?_eq_some hfind
    have hyes : iface ∈ links.map Link.name := List.mem_map.2 ⟨l, hmem, by simpa using hl⟩
    simp [hfind, hyes]

def upCount (links : List Link) : ℕ := (links.filter (·.Counted)).length

theorem getUPLinkList_of (links : List Link) :
    ∃ ups, getUPLinkList (.of links) = .ok ups ∧ ups.length = upCount links :=
  ⟨_, rfl, rfl⟩

def HasVeth (links : List Link) : Prop := defaultUnderlayVethName ∈ links.map Link.name

instance (links : List Link) : Decidable (HasVeth links) := inferInstanceAs (Decidable (_ ∈ _))

def offset (links : List Link) : ℕ := if HasVeth links then 98 else 99

/-- The mode that `auto` stands for at a NIC that is not the first. -/
def laterMode (links : List Link) : String := if HasVeth links then modeUnderlay else modeOverlay

theorem detectMode_first {links : List Link} {first mode : String}
    (hmode : mode = modeAuto ∨ mode = modeUnderlay) :
    detectMode first mode first links = (.ok ⟨true, 101, modeUnderlay, first⟩, links) := by
  obtain ⟨ups, hups, -⟩ := getUPLinkList_of links
  rcases hmode with rfl | rfl <;>
    simp [detectMode, coordinatorModeAndFirstInvoke, checkInterfaceExist_of, hups,
      autoModeToSpecificMode, mapErr, bind, Except.bind, failIf, defaultPodRuleTable, modeUnderlay,
      modeAuto, pure, Except.pure]

theorem detectMode_later {links : List Link} {first mode ifName : String} (hname : ifName ≠ first)
    (hmode : mode = modeAuto ∨ mode = laterMode links) :
    ∃ c : CoordinatorState, detectMode first mode ifName links = (.ok c, links) ∧
      c.currentRuleTable = upCount links + offset links ∧
      ¬(c.tuneMode = modeUnderlay ∧ c.firstInvoke = true) := by
  obtain ⟨ups, hups, hlen⟩ := getUPLinkList_of links
  by_cases hveth : HasVeth links
  · refine ⟨⟨false, upCount links + 98, modeUnderlay, ifName⟩, ?_, by simp [offset, hveth], by simp⟩
    have hveth' : defaultUnderlayVethName ∈ links.map Link.name := hveth
    rw [laterMode, if_pos hveth] at hmode
    rcases hmode with rfl | rfl <;>
      simp [detectMode, coordinatorModeAndFirstInvoke, checkInterfaceExist_of, hups, hlen,
        autoModeToSpecificMode, mapErr, bind, Except.bind, failIf, hname, hveth', modeUnderlay,
        modeAuto, pure, Except.pure]
  · refine ⟨⟨decide (upCount links = 2), upCount links + 99, modeOverlay, ifName⟩, ?_,
      by simp [offset, hveth], by simp [modeUnderlay, modeOverlay]⟩
    have hveth' : defaultUnderlayVethName ∉ links.map Link.name := hveth
    have htable : (if upCount links = 2 then 101 else 99 + upCount links) = upCount links + 99 := by
      split_ifs <;> omega
    rw [laterMode, if_neg hveth] at hmode
    rcases hmode with rfl | rfl <;>
      simp [detectMode, coordinatorModeAndFirstInvoke, checkInterfaceExist_of, hups, hlen,
        autoModeToSpecificMode, mapErr, bind, Except.bind, failIf, hname, hveth', modeUnderlay,
        modeOverlay, modeAuto, pure, Except.pure, defaultPodRuleTable, htable]

/-- The link of a NIC, which is up when the coordinator has looked at it. -/
structure Nic.Fresh (nic : Nic) (links : List Link) : Prop where
  name : nic.link.name ∉ links.map Link.name
  notVeth : nic.link.name ≠ defaultUnderlayVethName
  broadcast : nic.link.flags &&& flagBroadcast ≠ 0
  multicast : nic.link.flags &&& flagMulticast ≠ 0

section

variable {nic : Nic} {links : List Link} {first : String}

theorem Nic.Fresh.counted (h : nic.Fresh links) : nic.link.setUp.Counted := by
  have hor : ∀ m f : ℕ, f &&& m ≠ 0 → (f ||| flagUp) &&& m ≠ 0 := by
    intro m f hf h0
    rw [Nat.and_or_distrib_right, Nat.or_eq_zero_iff] at h0
    exact hf h0.1
  refine ⟨?_, hor _ _ h.broadcast, hor _ _ h.multicast⟩
  change (nic.link.flags ||| flagUp) &&& flagUp ≠ 0
  intro h0
  rw [Nat.and_or_distrib_right, Nat.or_eq_zero_iff] at h0
  exact absurd h0.2 (by decide)

theorem Nic.Fresh.upCount (h : nic.Fresh links) :
    upCount (links ++ [nic.link.setUp]) = upCount links + 1 := by
  simp [Coordinator.upCount, List.filter_append, h.counted]

theorem Nic.Fresh.hasVeth (h : nic.Fresh links) :
    HasVeth (links ++ [nic.link.setUp]) ↔ HasVeth links := by
  have hne : ¬defaultUnderlayVethName = nic.link.setUp.name := fun e => h.notVeth e.symm
  simp [HasVeth, hne]

theorem attach_of_detect {c : CoordinatorState} (h : nic.Fresh links)
    (hc : detectMode first nic.mode nic.link.name (links ++ [nic.link.setUp]) =
      (.ok c, links ++ [nic.link.setUp])) :
    attach first nic links = (.ok c.currentRuleTable,
      if c.tuneMode = modeUnderlay ∧ c.firstInvoke = true then links ++ [nic.link.setUp] ++ [veth0]
      else links ++ [nic.link.setUp]) := by
  have hadd : addLink nic.link links = (.ok (), links ++ [nic.link]) := rfl
  have hcheck := checkNICState_added h.name h.broadcast
  have hcmd : cmdAdd first nic.mode nic.link.name nic.args (links ++ [nic.link]) = (.ok c,
      if c.tuneMode = modeUnderlay ∧ c.firstInvoke = true then links ++ [nic.link.setUp] ++ [veth0]
      else links ++ [nic.link.setUp]) := by
    rw [cmdAdd, Eff.bind_of_ok _ (Eff.mapErr_eq_ok.2 hcheck), Eff.bind_of_ok _ hc]
    split_ifs <;> rfl
  rw [attach, Eff.bind_of_ok _ hadd, Eff.bind_of_ok _ hcmd]
  rfl

theorem attach_first (h : nic.Fresh links) (hmode : nic.mode = modeAuto ∨ nic.mode = modeUnderlay) :
    attach nic.link.name nic links = (.ok 101, links ++ [nic.link.setUp] ++ [veth0]) := by
  rw [attach_of_detect h (detectMode_first hmode), if_pos ⟨rfl, rfl⟩]

theorem attach_later (h : nic.Fresh links)
    (hname : nic.link.name ≠ first) (hmode : nic.mode = modeAuto ∨ nic.mode = laterMode links) :
    attach first nic links =
      (.ok (upCount links + 1 + offset links), links ++ [nic.link.setUp]) := by
  have hlater : laterMode (links ++ [nic.link.setUp]) = laterMode links := by
    simp only [laterMode, h.hasVeth]
  obtain ⟨c, hc, htable, hno⟩ := detectMode_later hname (hlater.symm ▸ hmode)
  rw [attach_of_detect h hc, if_neg hno, htable, h.upCount]
  simp only [offset, h.hasVeth]

end

/-! ### All NICs -/

/-- NICs to be made in a namespace with these links: the names differ from one another and from the
names in the namespace, and the links are of a kind that is counted when they are up. -/
structure Makeable (links : List Link) (nics : List Nic) : Prop where
  names : (nics.map (·.link.name)).Nodup
  fresh : ∀ nic ∈ nics, nic.Fresh links

section

variable {links : List Link} {nics : List Nic}

theorem Makeable.later {nic : Nic}
    (h : Makeable links (nic :: nics)) : Makeable (links ++ [nic.link.setUp]) nics := by
  obtain ⟨hnot, hnames⟩ := List.nodup_cons.1 h.names
  refine ⟨hnames, fun k hk => ?_⟩
  have hfresh := h.fresh k (List.mem_cons_of_mem _ hk)
  refine { hfresh with name := ?_ }
  rw [List.map_append, List.mem_append, not_or]
  refine ⟨hfresh.name, ?_⟩
  rw [List.map_singleton, List.mem_singleton]
  intro hname
  exact hnot (List.mem_map.2 ⟨k, hk, hname⟩)

theorem Makeable.veth (h : Makeable links nics) : Makeable (links ++ [veth0]) nics := by
  refine ⟨h.names, fun k hk => { h.fresh k hk with name := ?_ }⟩
  rw [List.map_append, List.mem_append, not_or]
  exact ⟨(h.fresh k hk).name, by simpa [veth0] using (h.fresh k hk).notVeth⟩

theorem attachAll_later {first : String}
    (h : Makeable links nics) (hname : ∀ nic ∈ nics, nic.link.name ≠ first)
    (hmode : ∀ nic ∈ nics, nic.mode = modeAuto ∨ nic.mode = laterMode links) :
    (attachAll first nics links).1 =
      .ok (List.range' (upCount links + 1 + offset links) nics.length) := by
  induction nics generalizing links with
  | nil => rfl
  | cons nic nics ih =>
    rw [List.forall_mem_cons] at hname hmode
    have hfresh := h.fresh nic List.mem_cons_self
    have hveth := hfresh.hasVeth
    have hrest := ih h.later hname.2 (by simpa only [laterMode, hveth] using hmode.2)
    rw [hfresh.upCount, offset, if_congr hveth rfl rfl, ← offset] at hrest
    rcases htail : attachAll first nics (links ++ [nic.link.setUp]) with ⟨r, links'⟩
    rw [htail] at hrest
    obtain rfl : r = _ := hrest
    rw [attachAll, Eff.bind_of_ok _ (attach_later hfresh hname.1 hmode.1), Eff.bind_of_ok _ htail,
      List.length_cons, List.range'_succ, show upCount links + 1 + 1 + offset links =
        upCount links + 1 + offset links + 1 by omega]
    rfl

end

/-- The NICs of a Pod: all of them in underlay mode, the first being the first of the Pod; or the
additional ones in overlay mode, the first of the Pod being there. No other link is counted. -/
structure Setting (overlay : Bool) (first : String) (links : List Link) (nics : List Nic) : Prop
    extends Makeable links nics where
  noVeth : ¬HasVeth links
  mode : ∀ nic ∈ nics,
    nic.mode = modeAuto ∨ nic.mode = if overlay then modeOverlay else modeUnderlay
  counted : (links.filter (·.Counted)).map Link.name = if overlay then [first] else []
  head : overlay = false → ∀ nic ∈ nics.head?, nic.link.name = first

theorem Setting.overlay_tables {first : String} {links : List Link} {nics : List Nic}
    (h : Setting true first links nics) :
    (attachAll first nics links).1 = .ok (List.range' 101 nics.length) := by
  have hlater : laterMode links = modeOverlay := if_neg h.noVeth
  have hcount : upCount links = 1 := by
    simpa [upCount] using congrArg List.length h.counted
  have hthere : first ∈ links.map Link.name := by
    have hmem : first ∈ (links.filter (·.Counted)).map Link.name := by simp [h.counted]
    obtain ⟨l, hl, hname⟩ := List.mem_map.1 hmem
    exact List.mem_map.2 ⟨l, (List.mem_filter.1 hl).1, hname⟩
  have hname : ∀ nic ∈ nics, nic.link.name ≠ first := by
    intro nic hnic hfirst
    exact (h.fresh nic hnic).name (hfirst ▸ hthere)
  rw [attachAll_later h.toMakeable hname (by simpa [hlater] using h.mode), hcount, offset,
    if_neg h.noVeth]

theorem Setting.underlay_tables {first : String} {links : List Link} {nic : Nic} {nics : List Nic}
    (h : Setting false first links (nic :: nics)) :
    (attachAll first (nic :: nics) links).1 = .ok (101 :: List.range' 101 nics.length) := by
  obtain rfl : nic.link.name = first := h.head rfl nic rfl
  have hfresh := h.fresh nic List.mem_cons_self
  have hmodes : nic.mode = modeAuto ∨ nic.mode = modeUnderlay := h.mode nic List.mem_cons_self
  -- what the first run leaves: two links that are counted, one of them `veth0`
  have hmake : Makeable (links ++ [nic.link.setUp] ++ [veth0]) nics := h.toMakeable.later.veth
  have hveth : HasVeth (links ++ [nic.link.setUp] ++ [veth0]) := by simp [HasVeth, veth0]
  have hlater : laterMode (links ++ [nic.link.setUp] ++ [veth0]) = modeUnderlay := if_pos hveth
  have hcount : upCount (links ++ [nic.link.setUp] ++ [veth0]) = 2 := by
    have hnone : upCount links = 0 := by simpa [upCount] using congrArg List.length h.counted
    have hone := hfresh.upCount
    rw [hnone] at hone
    rw [upCount, List.filter_append, List.length_append, ← upCount, hone]
    rfl
  have hname : ∀ k ∈ nics, k.link.name ≠ nic.link.name := by
    intro k hk heq
    exact (List.nodup_cons.1 h.names).1 (List.mem_map.2 ⟨k, hk, heq⟩)
  have hrest := attachAll_later hmake hname fun k hk => by
    rw [hlater]
    exact h.mode k (List.mem_cons_of_mem _ hk)
  rw [hcount, offset, if_pos hveth] at hrest
  rcases htail : attachAll nic.link.name nics (links ++ [nic.link.setUp] ++ [veth0]) with ⟨r, links'⟩
  rw [htail] at hrest
  obtain rfl : r = _ := hrest
  rw [attachAll, Eff.bind_of_ok _ (attach_first hfresh hmodes), Eff.bind_of_ok _ htail]
  rfl

/-- The coordinator succeeds for every NIC, and the tables of the NICs differ from one another
exactly in overlay mode or for a single NIC. -/
theorem ruleTables_nodup_iff {overlay : Bool} {first : String} {links : List Link}
    {nics : List Nic} (h : Setting overlay first links nics) :
    ∃ tables, (attachAll first nics links).1 = .ok tables ∧ tables.length = nics.length ∧
      (tables.Nodup ↔ overlay = true ∨ nics.length ≤ 1) := by
  cases overlay with
  | true => exact ⟨_, h.overlay_tables, by simp, by simp [List.nodup_range']⟩
  | false =>
    cases nics with
    | nil => exact ⟨[], rfl, rfl, by simp⟩
    | cons nic nics =>
      refine ⟨_, h.underlay_tables, by simp, ?_⟩
      cases nics with
      | nil => simp
      | cons k ks => simp [List.range'_succ]

end Coordinator

namespace Sample

open Coordinator

def lo : Link := ⟨"lo", 5⟩

def nicOf (name mode : String) : Nic := ⟨⟨name, 19⟩, mode, ""⟩

/-- Two interfaces beside that of an overlay network have the tables 101 and 102. -/
theorem overlay_nics_apart :
    ∃ tables, (attachAll "eth0" [nicOf "net1" "auto", nicOf "net2" "overlay"]
        [lo, ⟨"eth0", 19⟩]).1 = .ok tables ∧ tables.Nodup := by
  have hset : Setting true "eth0" [lo, ⟨"eth0", 19⟩]
      [nicOf "net1" "auto", nicOf "net2" "overlay"] := by
    refine ⟨⟨by decide, ?_⟩, by decide, by decide, by decide, by decide⟩
    simp only [List.forall_mem_cons, List.not_mem_nil, false_imp_iff, implies_true, and_true]
    exact ⟨⟨by decide, by decide, by decide, by decide⟩, ⟨by decide, by decide, by decide, by decide⟩⟩
  obtain ⟨tables, hrun, -, hiff⟩ := ruleTables_nodup_iff hset
  exact ⟨tables, hrun, hiff.2 (.inl rfl)⟩

/-- Two interfaces in underlay mode share the table 101. -/
theorem underlay_nics_share :
    (attachAll "eth0" [nicOf "eth0" "underlay", nicOf "net1" "underlay"] [lo]).1 =
      .ok [101, 101] := by
  decide

end Sample

end Spiderpool
