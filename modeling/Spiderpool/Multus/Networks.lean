/-
# The annotations that list networks

`ParsePodNetworkAnnotation` and `ParsePodNetworkObjectName` of `pkg/multuscniconfig/utils.go`. A Pod
lists its networks in an annotation of Multus, either as a JSON document or as names between commas,
`<namespace>/<name>@<interface>`. A text with one of the characters that open a JSON value is
taken for a document.

A document is read into pointers, and a null among its elements is read as a nil pointer, which the
loop over the elements then reads through (`checkNetwork`). Nothing else makes the function panic
(`parsePodNetworkAnnotation_returns_iff`).

The parser of `encoding/json` is a parameter, as are its reading of an object into the struct, and
`net.ParseMAC`.
-/

import Spiderpool.Base.Returns
import Spiderpool.Coordinator.Config

namespace Spiderpool
namespace Multus

open Coordinator (trimSpace quote isSpace)

/-- `NetworkSelectionElement`, of the fields that are read. -/
structure NetworkSelectionElement where
  name : String := ""
  ns : String := ""
  ipRequest : List String := []
  macRequest : String := ""
  infinibandGUIDRequest : String := ""
  interfaceRequest : String := ""
deriving DecidableEq, Repr

structure AnnotationEnv where
  /-- The document that a text is, or the text of the error. -/
  json : String → Except String JsonValue
  /-- An object read into the struct, or the text of the error. -/
  readElement : List (String × JsonValue) → Except String NetworkSelectionElement
  /-- `net.ParseMAC`, as far as its error goes. -/
  parseMAC : String → Option String

/-! ### Names between commas -/

/-- `[a-z0-9]`. -/
def isLowerAlnum (c : Char) : Bool := ('a' ≤ c && c ≤ 'z') || ('0' ≤ c && c ≤ '9')

/-- `[-a-z0-9]`. -/
def isLabelChar (c : Char) : Bool := isLowerAlnum c || c = '-'

/-- `^[a-z0-9]([-a-z0-9]*[a-z0-9])?$`. -/
def matchesLabel (s : String) : Bool :=
  s.toList.all isLabelChar && s.toList.head?.any isLowerAlnum && s.toList.getLast?.any isLowerAlnum

def checkItem (item : String) : Result Err Unit :=
  failIf (matchesLabel item = false ∧ item ≠ "") (.new ("parsePodNetworkObjectName: Failed to parse: " ++
    "one or more items did not match comma-delimited format (must consist of lower case " ++
    "alphanumeric characters). Must start and end with an alphanumeric character), mismatch @ '" ++
    item ++ "'"))

def checkIfName (netIfName : String) : Result Err Unit :=
  failIf (netIfName ≠ "" ∧ (15 < netIfName.utf8ByteSize ∨
      netIfName.toList.any (· ∈ [' ', '\t', '\n', '\x0b', '\x0c', '\r', '/'])))
    (.new ("parsePodNetworkObjectName: Failed to parse interface name: must be less than 15 chars " ++
      "and not contain '/' or spaces. interface name '" ++ netIfName ++ "'"))

def slashItems (podnetwork : String) : Result Err (String × String) :=
  match split podnetwork '/' with
  | [netNsName, networkName] => .ok (trimSpace netNsName, networkName)
  | [networkName] => .ok ("", networkName)
  | _ => fail (.new "parsePodNetworkObjectName: Invalid network object (failed at '/')")

def atItems (networkName : String) : Result Err (String × String) :=
  match split networkName '@' with
  | [networkName, netIfName] => .ok (trimSpace networkName, trimSpace netIfName)
  | [networkName] => .ok (trimSpace networkName, "")
  | _ => fail (.new "parsePodNetworkObjectName: Invalid network object (failed at '@')")

/-- `ParsePodNetworkObjectName`: the namespace, the name and the interface. -/
def parsePodNetworkObjectName (podnetwork : String) : Result Err (String × String × String) := do
  let (netNsName, networkName) ← slashItems podnetwork
  let (networkName, netIfName) ← atItems networkName
  checkItem netNsName
  checkItem networkName
  checkIfName netIfName
  return (netNsName, networkName, netIfName)

def readItem (item : String) : Result Err (Option NetworkSelectionElement) := do
  let (netNsName, networkName, netIfName) ← mapErr (.wrap "parsePodNetworkAnnotation: " · "")
    (parsePodNetworkObjectName (trimSpace item))
  return some { name := networkName, ns := netNsName, interfaceRequest := netIfName }

/-! ### Documents -/

def valueKind : JsonValue → String
  | .num _ => "number"
  | v => v.kind

def readValue (env : AnnotationEnv) : JsonValue → Except String (Option NetworkSelectionElement)
  | .null => .ok none
  | .obj fields => (env.readElement fields).map some
  | v => .error ("json: cannot unmarshal " ++ valueKind v ++
      " into Go value of type v1.NetworkSelectionElement")

/-- `json.Unmarshal` into a list of pointers. -/
def unmarshalNetworks (env : AnnotationEnv) (podNetworks : String) :
    Except String (List (Option NetworkSelectionElement)) := do
  match ← env.json podNetworks with
  | .null => return []
  | .arr items => items.mapM (readValue env)
  | v => throw ("json: cannot unmarshal " ++ valueKind v ++
      " into Go value of type []*v1.NetworkSelectionElement")

def opensJson (c : Char) : Bool := c = '[' || c = '\x7b' || c = '\x22'

def readNetworks (env : AnnotationEnv) (podNetworks defaultNamespace : String) :
    Result Err (List (Option NetworkSelectionElement)) :=
  if podNetworks = "" then
    fail (.new ("parsePodNetworkAnnotation: " ++ podNetworks ++ ", " ++ defaultNamespace))
  else if (trimSpace podNetworks).toList.any opensJson then
    match unmarshalNetworks env podNetworks with
    | .error text => fail (.new ("parsePodNetworkAnnotation: failed to parse pod Network Attachment " ++
        "Selection Annotation JSON format: " ++ text))
    | .ok networks => .ok networks
  else (split podNetworks ',').mapM readItem

/-! ### The elements -/

def checkIP (ip : String) : Result Err Unit :=
  if '/' ∈ ip.toList then
    failIf (netParseCIDR ip = none)
      (.wrap ("failed to parse CIDR " ++ quote ip ++ ": ") (netParseError ip) "")
  else failIf (parseIP ip = none) (.new ("failed to parse IP address " ++ quote ip))

/-- The check of an address of the hardware, which may be empty. -/
def checkMAC (env : AnnotationEnv) (text mac : String) : Result Err Unit :=
  if mac = "" then .ok ()
  else ifSome (env.parseMAC mac) fun e =>
    fail (.new ("parsePodNetworkAnnotation: failed to " ++ text ++ ": " ++ e))

def checkRequests (env : AnnotationEnv) (n : NetworkSelectionElement) : Result Err Unit := do
  checkMAC env "mac" n.macRequest
  checkMAC env "validate infiniband GUID" n.infinibandGUIDRequest
  n.ipRequest.forM checkIP

def withNamespace (defaultNamespace : String) (n : NetworkSelectionElement) : NetworkSelectionElement :=
  if n.ns = "" then { n with ns := defaultNamespace } else n

def checkNetwork (env : AnnotationEnv) (defaultNamespace : String)
    (n : Option NetworkSelectionElement) : Result Err NetworkSelectionElement := do
  let n ← deref n
  checkRequests env n
  return withNamespace defaultNamespace n

def parsePodNetworkAnnotation (env : AnnotationEnv) (podNetworks defaultNamespace : String) :
    Result Err (List NetworkSelectionElement) := do
  let networks ← readNetworks env podNetworks defaultNamespace
  networks.mapM (checkNetwork env defaultNamespace)

/-! ### What is returned -/

variable {env : AnnotationEnv} {podNetworks defaultNamespace : String}

theorem checkMAC_returns (text mac : String) : Returns (checkMAC env text mac) := by
  unfold checkMAC
  split_ifs
  · exact returns_ok ()
  · exact returns_ifSome fun _ _ => returns_fail _

theorem checkIP_returns (ip : String) : Returns (checkIP ip) := by
  unfold checkIP
  split_ifs <;> exact returns_failIf _ _

theorem checkRequests_returns (n : NetworkSelectionElement) : Returns (checkRequests env n) := by
  refine (checkMAC_returns _ _).seq fun _ _ => ?_
  refine (checkMAC_returns _ _).seq fun _ _ => ?_
  exact returns_forM_iff.2 fun _ _ _ _ _ => checkIP_returns _

section

variable {n : Option NetworkSelectionElement} {networks : List (Option NetworkSelectionElement)}

theorem checkNetwork_returns_iff : Returns (checkNetwork env defaultNamespace n) ↔ n ≠ none := by
  cases n with
  | none => exact iff_of_false not_returns_panic (fun h => h rfl)
  | some n =>
    refine iff_of_true ?_ nofun
    exact (checkRequests_returns n).seq fun _ _ => returns_ok _

theorem checkNetwork_eq_ok {m : NetworkSelectionElement} :
    checkNetwork env defaultNamespace n = .ok m ↔
      ∃ e, n = some e ∧ checkRequests env e = .ok () ∧ withNamespace defaultNamespace e = m := by
  unfold checkNetwork
  simp only [bind_eq_ok, deref_eq_ok]
  constructor
  · rintro ⟨e, he, ⟨⟩, hreq, hm⟩
    exact ⟨e, he, hreq, Except.ok.inj hm⟩
  · rintro ⟨e, he, hreq, rfl⟩
    exact ⟨e, he, (), hreq, rfl⟩

theorem slashItems_returns (podnetwork : String) : Returns (slashItems podnetwork) := by
  unfold slashItems
  split <;> first | exact returns_ok _ | exact returns_fail _

theorem atItems_returns (networkName : String) : Returns (atItems networkName) := by
  unfold atItems
  split <;> first | exact returns_ok _ | exact returns_fail _

theorem readItem_returns (item : String) : Returns (readItem item) := by
  refine Returns.seq (Returns.mapErr ?_ _) fun _ _ => returns_ok _
  refine (slashItems_returns _).seq fun _ _ => ?_
  refine (atItems_returns _).seq fun _ _ => ?_
  refine (returns_failIf _ _).seq fun _ _ => ?_
  refine (returns_failIf _ _).seq fun _ _ => ?_
  exact (returns_failIf _ _).seq fun _ _ => returns_ok _

theorem readNetworks_returns : Returns (readNetworks env podNetworks defaultNamespace) := by
  unfold readNetworks
  split_ifs
  · exact returns_fail _
  · split
    · exact returns_fail _
    · exact returns_ok _
  · exact returns_mapM_iff.2 fun _ _ _ _ _ => readItem_returns _

/-- The pointers are there that the loop reads through. What stands behind an element that is refused
is not read. -/
def NullsBehind (env : AnnotationEnv) (networks : List (Option NetworkSelectionElement)) : Prop :=
  ∀ front rest, networks = front ++ none :: rest → ∃ n, some n ∈ front ∧ checkRequests env n ≠ .ok ()

theorem mapM_checkNetwork_returns_iff :
    Returns (networks.mapM (checkNetwork env defaultNamespace)) ↔ NullsBehind env networks := by
  rw [returns_mapM_iff]
  simp only [checkNetwork_returns_iff]
  constructor
  · intro h front rest hsplit
    -- the loop stops at the first null at the latest, which is `none` or stands before it
    obtain ⟨before, after, hfirst, hnone⟩ := List.eq_append_cons_of_mem
      (show none ∈ networks by simp [hsplit])
    have hsub : ∀ x ∈ before, x ∈ front := by
      rcases List.append_eq_append_iff.1 (hfirst.symm.trans hsplit) with ⟨mid, rfl, -⟩ | ⟨mid, rfl, hmid⟩
      · exact fun x hx => List.mem_append_left _ hx
      · rcases mid with - | ⟨y, mid⟩
        · simp
        · obtain rfl := (List.cons.inj hmid).1
          exact absurd (by simp) hnone
    by_contra hall
    refine h before none after hfirst (fun y hy => ?_) rfl
    cases y with
    | none => exact absurd hy hnone
    | some n =>
      have hreq : checkRequests env n = .ok () := by
        by_contra hbad
        exact hall ⟨n, hsub _ hy, hbad⟩
      exact ⟨_, checkNetwork_eq_ok.2 ⟨n, rfl, hreq, rfl⟩⟩
  · intro h front x rest hsplit hfront hx
    subst hx
    obtain ⟨n, hn, hbad⟩ := h front rest hsplit
    obtain ⟨m, hm⟩ := hfront _ hn
    obtain ⟨e, he, hreq, -⟩ := checkNetwork_eq_ok.1 hm
    obtain rfl := Option.some.inj he
    exact hbad hreq

theorem parsePodNetworkAnnotation_returns_iff :
    Returns ( parsePodNetworkAnnotation env podNetworks defaultNamespace) ↔
      ∀ networks, readNetworks env podNetworks defaultNamespace = .ok networks →
        NullsBehind env networks := by
  constructor
  · intro h networks hread
    exact mapM_checkNetwork_returns_iff.1 (h.of_seq_ok hread)
  · intro h
    exact readNetworks_returns.seq fun networks hread =>
      mapM_checkNetwork_returns_iff.2 (h networks hread)

theorem parsePodNetworkAnnotation_eq_ok {networks : List NetworkSelectionElement} :
    parsePodNetworkAnnotation env podNetworks defaultNamespace = .ok networks ↔
      ∃ elements : List NetworkSelectionElement,
        readNetworks env podNetworks defaultNamespace = .ok (elements.map some) ∧
        (∀ n ∈ elements, checkRequests env n = .ok ()) ∧
        networks = elements.map (withNamespace defaultNamespace) := by
  unfold parsePodNetworkAnnotation
  simp only [bind_eq_ok, mapM_eq_ok, checkNetwork_eq_ok]
  constructor
  · rintro ⟨read, hread, hall⟩
    suffices h : ∃ elements : List NetworkSelectionElement, read = elements.map some ∧
        (∀ n ∈ elements, checkRequests env n = .ok ()) ∧
        networks = elements.map (withNamespace defaultNamespace) by
      obtain ⟨elements, rfl, hreq, hnetworks⟩ := h
      exact ⟨elements, hread, hreq, hnetworks⟩
    clear hread
    induction hall with
    | nil => exact ⟨[], rfl, by simp, rfl⟩
    | cons hfirst _ ih =>
      obtain ⟨e, rfl, hreq, rfl⟩ := hfirst
      obtain ⟨elements, rfl, hreqs, rfl⟩ := ih
      exact ⟨e :: elements, rfl, List.forall_mem_cons.2 ⟨hreq, hreqs⟩, rfl⟩
  · rintro ⟨elements, hread, hreq, rfl⟩
    refine ⟨elements.map some, hread, ?_⟩
    rw [List.forall₂_map_left_iff, List.forall₂_map_right_iff, List.forall₂_same]
    exact fun n hn => ⟨n, rfl, hreq n hn, rfl⟩

/-! ### What an annotation lists -/

abbrev IsDocument (podNetworks : String) : Prop := (trimSpace podNetworks).toList.any opensJson = true

/-- The elements that the text of an annotation lists. A null among the elements of a document is
none of them. -/
inductive Lists (env : AnnotationEnv) (podNetworks : String) :
    List (Option NetworkSelectionElement) → Prop
  | null (hdoc : IsDocument podNetworks) (hjson : env.json podNetworks = .ok .null) :
      Lists env podNetworks []
  | items {items : List JsonValue} {networks : List (Option NetworkSelectionElement)}
      (hdoc : IsDocument podNetworks) (hjson : env.json podNetworks = .ok (.arr items))
      (hread : items.mapM (readValue env) = .ok networks) : Lists env podNetworks networks
  | names {networks : List (Option NetworkSelectionElement)} (hne : podNetworks ≠ "")
      (hdoc : ¬IsDocument podNetworks) (hread : (split podNetworks ',').mapM readItem = .ok networks) :
      Lists env podNetworks networks

theorem unmarshalNetworks_eq_ok : unmarshalNetworks env podNetworks = .ok networks ↔
      (env.json podNetworks = .ok .null ∧ networks = []) ∨
      ∃ items, env.json podNetworks = .ok (.arr items) ∧ items.mapM (readValue env) = .ok networks := by
  unfold unmarshalNetworks
  rcases hjson : env.json podNetworks with text | document
  · exact iff_of_false nofun (by simp)
  · cases document with
    | null => simp [bind, Except.bind, pure, Except.pure, eq_comm]
    | arr items => simp [bind, Except.bind]
    | _ => exact iff_of_false nofun (by simp)

theorem readNetworks_eq_ok :
    readNetworks env podNetworks defaultNamespace = .ok networks ↔ Lists env podNetworks networks := by
  unfold readNetworks
  by_cases hempty : podNetworks = ""
  · have hdoc : ¬IsDocument podNetworks := by
      rw [hempty]
      decide
    rw [if_pos hempty]
    refine iff_of_false nofun ?_
    rintro (⟨h, -⟩ | ⟨h, -, -⟩ | ⟨hne, -, -⟩)
    exacts [hdoc h, hdoc h, hne hempty]
  rw [if_neg hempty]
  by_cases hdoc : IsDocument podNetworks
  · rw [if_pos hdoc]
    have hread : Lists env podNetworks networks ↔ unmarshalNetworks env podNetworks = .ok networks := by
      rw [unmarshalNetworks_eq_ok]
      constructor
      · rintro (⟨-, hjson⟩ | ⟨-, hjson, hitems⟩ | ⟨-, h, -⟩)
        exacts [.inl ⟨hjson, rfl⟩, .inr ⟨_, hjson, hitems⟩, absurd hdoc h]
      · rintro (⟨hjson, rfl⟩ | ⟨items, hjson, hitems⟩)
        exacts [.null hdoc hjson, .items hdoc hjson hitems]
    rw [hread]
    rcases unmarshalNetworks env podNetworks with text | read
    · exact iff_of_false nofun nofun
    · simp only [Except.ok.injEq]
  · rw [if_neg hdoc]
    refine ⟨.names hempty hdoc, ?_⟩
    rintro (⟨h, -⟩ | ⟨h, -, -⟩ | ⟨-, -, h⟩)
    exacts [absurd h hdoc, absurd h hdoc, h]

end

end Multus
end Spiderpool
