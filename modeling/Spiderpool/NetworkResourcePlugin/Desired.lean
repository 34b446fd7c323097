/-
# The resources of the network resource plugin

`pkg/networkresourceplugin` advertises a resource to the kubelet for each sub-ENI rule that
matches the node and for each selected master NIC, and serves it at a socket of its own.
`ComputeDesiredResources` takes the name of a rule once, but does not compare it with the names made
of interfaces, and `socketName` writes a dash for three different characters.
-/

import Spiderpool.Base.Registry
import Spiderpool.Multus.Controller

namespace Spiderpool
namespace NetworkResourcePlugin

open Coordinator (quote)
open Multus (subdomainErrors)

structure SubENIRuleConfig where
  resourceName : String
  defaultMaxCount : ℤ
  nodeSelector : LabelSelector

structure MasterNICRuleConfig where
  nodeSelector : LabelSelector
  defaultMaxCount : ℤ
  includeInterfaces : List String
  excludeInterfaces : List String

structure Config where
  enabled : Bool
  kubeletRootDir : String
  nodeSelector : LabelSelector
  subENIRules : List SubENIRuleConfig
  masterNICRules : List MasterNICRuleConfig

structure DesiredResource where
  resourceName : String := ""
  devices : ℤ := 0
  interface : String := ""
deriving DecidableEq

structure PluginEnv where
  /-- `metav1.LabelSelectorAsSelector`, as the labels that its result matches. -/
  labelSelectorAsSelector : LabelSelector → Result Err (GoMap String String → Bool)
  /-- `filepath.Match`, of a pattern and a name. -/
  fileMatch : String → String → Result Err Bool
  clean : String → String
  isAbs : String → Bool

def configKey : String := "spiderpoolAgent.networkResourcePlugin"

def defaultENISlotResourceName : String := "spidernet.io/sub-eni"

def defaultMasterNICMaxCount : ℤ := 10000

/-! ### `validate` -/

/-- `^([A-Za-z0-9][-A-Za-z0-9_.]*)?[A-Za-z0-9]$`. -/
def matchesQualifiedName (s : String) : Bool :=
  s.toList.all (fun c => c.isAlphanum || c ∈ ['-', '_', '.']) &&
    s.toList.head?.any Char.isAlphanum && s.toList.getLast?.any Char.isAlphanum

/-- `RegexError(qualifiedNameErrMsg, qualifiedNameFmt, ..)`. -/
def qualifiedNameError : String :=
  "must consist of alphanumeric characters, '-', '_' or '.', and must start and end with an " ++
  "alphanumeric character (e.g. 'MyName',  or 'my.name',  or '123-abc', regex used for validation " ++
  "is '([A-Za-z0-9][-A-Za-z0-9_.]*)?[A-Za-z0-9]')"

/-- The checks of `IsQualifiedName` on the part after the slash. -/
def namePartErrors (name : String) : List String :=
  (if name = "" then ["name part must be non-empty"]
    else if 63 < name.utf8ByteSize then ["name part must be no more than 63 characters"] else []) ++
  if matchesQualifiedName name then [] else ["name part " ++ qualifiedNameError]

def isQualifiedName (value : String) : List String :=
  match split value '/' with
  | [name] => namePartErrors name
  | [domain, name] =>
    (if domain = "" then ["prefix part must be non-empty"]
      else (subdomainErrors domain).map ("prefix part " ++ ·)) ++ namePartErrors name
  | _ => ["a qualified name " ++ qualifiedNameError ++
      " with an optional DNS subdomain prefix and '/' (e.g. 'example.com/MyName')"]

def checkSelector (env : PluginEnv) (field : String) (selector : LabelSelector) :
    Result Err Unit := do
  let _ ← mapErr (.wrap (configKey ++ field ++ " is invalid: ") · "")
    (env.labelSelectorAsSelector selector)

def validateSubENIRule (env : PluginEnv) (entry : SubENIRuleConfig) (i : ℕ) :
    Result Err SubENIRuleConfig := do
  let field := ".resourceAdvertisement.subENI.rules[" ++ itoa i ++ "]"
  let name := if entry.resourceName = "" then defaultENISlotResourceName else entry.resourceName
  failIf (isQualifiedName name ≠ []) (.new (configKey ++ field ++ ".resourceName " ++ quote name ++
    " is invalid: " ++ "; ".intercalate (isQualifiedName name)))
  failIf (entry.defaultMaxCount < 0) (.new (configKey ++ field ++
    ".defaultMaxCount must be greater than or equal to 0"))
  checkSelector env (field ++ ".nodeSelector") entry.nodeSelector
  return { entry with resourceName := name }

def validateMasterNICRule (env : PluginEnv) (rule : MasterNICRuleConfig) (i : ℕ) :
    Result Err MasterNICRuleConfig := do
  let field := ".resourceAdvertisement.masterNIC.rules[" ++ itoa i ++ "]"
  failIf (rule.defaultMaxCount < 0) (.new (configKey ++ field ++
    ".defaultMaxCount must be greater than or equal to 0"))
  checkSelector env (field ++ ".nodeSelector") rule.nodeSelector
  (rule.includeInterfaces ++ rule.excludeInterfaces).forM fun pattern => do
    let _ ← mapErr (.wrap (configKey ++ field ++ " pattern " ++ quote pattern ++ " is invalid: ") · "")
      (env.fileMatch pattern "eth0")
  return { rule with
    defaultMaxCount :=
      if rule.defaultMaxCount = 0 then defaultMasterNICMaxCount else rule.defaultMaxCount }

/-- `validate`, which also fills in what is left out. -/
def validate (env : PluginEnv) (cfg : Config) : Result Err Config := do
  let dir := env.clean (if cfg.kubeletRootDir = "" then "/var/lib/kubelet" else cfg.kubeletRootDir)
  failIf (env.isAbs dir = false) (.new (configKey ++ ".kubeletRootDir must be an absolute path"))
  checkSelector env ".devicePluginAffinity.nodeSelector" cfg.nodeSelector
  let subENIRules ← cfg.subENIRules.zipIdx.mapM fun e => validateSubENIRule env e.1 e.2
  let masterNICRules ← cfg.masterNICRules.zipIdx.mapM fun e => validateMasterNICRule env e.1 e.2
  return { cfg with
    kubeletRootDir := dir, subENIRules := subENIRules, masterNICRules := masterNICRules }

/-! ### `ComputeDesiredResources` -/

def nodeSelectorMatches (env : PluginEnv) (labels : GoMap String String)
    (selector : LabelSelector) : Result Err Bool := do
  let compiled ← env.labelSelectorAsSelector selector
  return compiled labels

def matchAny (env : PluginEnv) (patterns : List String) (name : String) : Bool :=
  patterns.any fun pattern => (env.fileMatch pattern name).toOption.getD false

def included (env : PluginEnv) (rule : MasterNICRuleConfig) (interfaces : List String) :
    GoMap String Unit :=
  interfaces.foldl (fun m iface =>
    if rule.includeInterfaces = [] ∨ matchAny env rule.includeInterfaces iface then
      m.insert iface ()
    else m) ∅

/-- The count that a rule gives to an interface that it includes. -/
def select (env : PluginEnv) (rule : MasterNICRuleConfig) (selected : GoMap String ℤ)
    (iface : String) : GoMap String ℤ :=
  let defaultMaxCount :=
    if rule.defaultMaxCount = 0 then defaultMasterNICMaxCount else rule.defaultMaxCount
  if matchAny env rule.excludeInterfaces iface then selected
  else if (selected.lookup iface).getD 0 < defaultMaxCount then
    selected.insert iface defaultMaxCount
  else selected

/-- The loop of `selectMasterNICs` over the rules. -/
def selectLoop (env : PluginEnv) (order : RangeOrder String Unit) (labels : GoMap String String)
    (interfaces : List String) :
    List MasterNICRuleConfig → GoMap String ℤ → Result Err (GoMap String ℤ)
  | [], selected => .ok selected
  | rule :: rules, selected => do
    let matched ← nodeSelectorMatches env labels rule.nodeSelector
    selectLoop env order labels interfaces rules <| if matched then
      (order.visit (included env rule interfaces)).foldl (fun m e => select env rule m e.1) selected
    else selected

/-- `selectMasterNICs`: the interfaces in alphabetical order, with their counts. -/
def selectMasterNICs (env : PluginEnv) (order : RangeOrder String Unit)
    (order' : RangeOrder String ℤ) (labels : GoMap String String) (interfaces : List String)
    (rules : List MasterNICRuleConfig) : Result Err (List (String × ℤ)) := do
  let selected ← selectLoop env order labels interfaces rules ∅
  return (sortSlice (fun a b => decide (a < b)) ((order'.visit selected).map Sigma.fst)).map
    fun iface => (iface, (selected.lookup iface).getD 0)

def masterNICResourceName (iface : String) : String := "spidernet.io" ++ "/" ++ iface ++ "-nic"

/-- The loop over the sub-ENI rules; `names` are those it has met. -/
def subENIResources (env : PluginEnv) (labels : GoMap String String) :
    List SubENIRuleConfig → GoMap String Unit → Result Err (List DesiredResource)
  | [], _ => .ok []
  | entry :: rules, names => do
    let matched ← nodeSelectorMatches env labels entry.nodeSelector
    if matched = false ∨ entry.resourceName ∈ names then subENIResources env labels rules names
    else do
      let rest ← subENIResources env labels rules (names.insert entry.resourceName ())
      return { resourceName := entry.resourceName, devices := entry.defaultMaxCount } :: rest

/-- The resources of the sub-ENI rules, if there is a provider. -/
def slotResources (env : PluginEnv) (providerEnabled : Bool) (labels : GoMap String String)
    (rules : List SubENIRuleConfig) : Result Err (List DesiredResource) :=
  if providerEnabled then subENIResources env labels rules ∅ else .ok []

def computeDesiredResources (env : PluginEnv) (order : RangeOrder String Unit)
    (order' : RangeOrder String ℤ) (providerEnabled : Bool) (labels : GoMap String String)
    (interfaces : List String) (cfg : Config) : Result Err (List DesiredResource) :=
  if cfg.enabled then do
    let matched ← nodeSelectorMatches env labels cfg.nodeSelector
    if matched then do
      let slots ← slotResources env providerEnabled labels cfg.subENIRules
      let nics ← selectMasterNICs env order order' labels interfaces cfg.masterNICRules
      return slots ++ nics.map fun nic => ⟨masterNICResourceName nic.1, nic.2, nic.1⟩
    else return []
  else .ok []

/-! ### The servers -/

/-- What `strings.NewReplacer("/", "-", "_", "-", ".", "-")` writes for a character. -/
def dash (c : Char) : Char := if c ∈ ['/', '_', '.'] then '-' else c

def socketName (resourceName : String) : String :=
  "spiderpool-" ++ String.ofList (resourceName.toList.map dash) ++ ".sock"

/-- The servers that run, by number; who listens at a socket, and whom the kubelet calls for a
resource. -/
structure Host where
  servers : List DesiredResource := []
  sockets : GoMap String ℕ := ∅
  registrations : GoMap String ℕ := ∅

/-- `startResourceServer`: `listen` removes the socket that it finds, and the kubelet takes the
last registration of a name. -/
def Host.startResourceServer (h : Host) (resource : DesiredResource) : Host where
  servers := h.servers ++ [resource]
  sockets := h.sockets.insert (socketName resource.resourceName) h.servers.length
  registrations := h.registrations.insert resource.resourceName h.servers.length

/-- The loop of `serveAndRegister`. -/
def serve (desired : List DesiredResource) : Host := desired.foldl Host.startResourceServer {}

def desiredResourceByName (desired : List DesiredResource) : GoMap String DesiredResource :=
  desired.foldl (fun m resource => m.insert resource.resourceName resource) ∅

def updateServers (servers desired : List DesiredResource) : List DesiredResource :=
  servers.map fun running =>
    let next := ((desiredResourceByName desired).lookup running.resourceName).getD {}
    if running.devices = next.devices ∧ running.interface = next.interface then running else next

/-- The names of the resources differ, and so do their sockets. -/
structure Apart (desired : List DesiredResource) : Prop where
  names : (desired.map (·.resourceName)).Nodup
  sockets : (desired.map fun r => socketName r.resourceName).Nodup

/-- Every server still has its socket, its registration and its devices when all are up. -/
structure Undisturbed (desired : List DesiredResource) : Prop where
  sockets : ∀ i r, desired[i]? = some r →
    (serve desired).sockets.lookup (socketName r.resourceName) = some i
  registrations : ∀ i r, desired[i]? = some r →
    (serve desired).registrations.lookup r.resourceName = some i
  devices : updateServers desired desired = desired

section Condition

variable (env : PluginEnv) (providerEnabled : Bool) (labels : GoMap String String)
  (interfaces : List String) (cfg : Config)

def Matches (selector : LabelSelector) : Prop := nodeSelectorMatches env labels selector = .ok true

def OffersSlot (name : String) : Prop :=
  providerEnabled = true ∧
    ∃ r ∈ cfg.subENIRules, Matches env labels r.nodeSelector ∧ r.resourceName = name

def Selects (rule : MasterNICRuleConfig) (iface : String) : Prop :=
  (rule.includeInterfaces = [] ∨ matchAny env rule.includeInterfaces iface) ∧
    matchAny env rule.excludeInterfaces iface = false

/-- A master NIC rule that matches the node selects an interface of the list. -/
def OffersNIC (iface : String) : Prop :=
  iface ∈ interfaces ∧
    ∃ r ∈ cfg.masterNICRules, Matches env labels r.nodeSelector ∧ Selects env r iface

/-- What is left of a name when `/`, `_` and `.` are written as dashes. -/
def dashed (name : String) : List Char := name.toList.map dash

/-- On a node that the plugin runs on, the dashes leave apart the names of the rules that match, the
names of the interfaces that are selected, and the ones from the others. -/
def ToldApart : Prop :=
  cfg.enabled = true → Matches env labels cfg.nodeSelector →
    (∀ a b, OffersSlot env providerEnabled labels cfg a → OffersSlot env providerEnabled labels cfg b →
      dashed a = dashed b → a = b) ∧
    (∀ a b, OffersNIC env labels interfaces cfg a → OffersNIC env labels interfaces cfg b →
      dashed a = dashed b → a = b) ∧
    ∀ a b, OffersSlot env providerEnabled labels cfg a → OffersNIC env labels interfaces cfg b →
      dashed a ≠ dashed (masterNICResourceName b)

end Condition

/-! ### Accepted configurations -/

def Compiles (env : PluginEnv) (selector : LabelSelector) : Prop :=
  ∃ f, env.labelSelectorAsSelector selector = .ok f

theorem Compiles.matches {env : PluginEnv} {selector : LabelSelector} (h : Compiles env selector)
    (labels : GoMap String String) :
    ∃ b, nodeSelectorMatches env labels selector = .ok b ∧ (Matches env labels selector ↔ b = true) := by
  obtain ⟨f, hf⟩ := h
  have hb : nodeSelectorMatches env labels selector = .ok (f labels) := by
    unfold nodeSelectorMatches
    rw [hf]
    rfl
  exact ⟨f labels, hb, by rw [Matches, hb, Except.ok.injEq]⟩

theorem compiles_of_check {env : PluginEnv} {field : String} {selector : LabelSelector}
    (h : checkSelector env field selector = .ok ()) : Compiles env selector := by
  obtain ⟨f, hf, -⟩ := bind_eq_ok.1 h
  exact ⟨f, mapErr_eq_ok.1 hf⟩

/-- An accepted configuration has selectors that compile, and counts for master NICs that are
positive. -/
structure Accepted (env : PluginEnv) (cfg : Config) : Prop where
  affinity : Compiles env cfg.nodeSelector
  slots : ∀ r ∈ cfg.subENIRules, Compiles env r.nodeSelector
  nics : ∀ r ∈ cfg.masterNICRules, Compiles env r.nodeSelector ∧ 0 < r.defaultMaxCount

theorem accepted_of_validate {env : PluginEnv} {cfg cfg' : Config} (h : validate env cfg = .ok cfg') :
    Accepted env cfg' := by
  obtain ⟨-, h⟩ := seq_eq_ok.1 h
  obtain ⟨haffinity, h⟩ := seq_eq_ok.1 h
  obtain ⟨slots, hslots, h⟩ := bind_eq_ok.1 h
  obtain ⟨nics, hnics, h⟩ := bind_eq_ok.1 h
  obtain rfl := Except.ok.inj h
  refine ⟨compiles_of_check haffinity, fun r hr => ?_, fun r hr => ?_⟩
  · obtain ⟨e, -, hrule⟩ := exists_of_mem_mapM hslots hr
    obtain ⟨-, hrule⟩ := seq_eq_ok.1 hrule
    obtain ⟨-, hrule⟩ := seq_eq_ok.1 hrule
    obtain ⟨hcheck, hrule⟩ := seq_eq_ok.1 hrule
    obtain rfl := Except.ok.inj hrule
    exact compiles_of_check hcheck
  · obtain ⟨e, -, hrule⟩ := exists_of_mem_mapM hnics hr
    obtain ⟨hcount, hrule⟩ := seq_eq_ok.1 hrule
    obtain ⟨hcheck, hrule⟩ := seq_eq_ok.1 hrule
    obtain ⟨-, hrule⟩ := seq_eq_ok.1 hrule
    obtain rfl := Except.ok.inj hrule
    refine ⟨compiles_of_check hcheck, ?_⟩
    rw [failIf_eq_ok] at hcount
    dsimp only
    split_ifs with h₀
    · decide
    · omega

/-! ### The two sources of names -/

section Names

variable {env : PluginEnv} (labels : GoMap String String)

theorem subENIResources_names (rules : List SubENIRuleConfig) (names : GoMap String Unit)
    (h : ∀ r ∈ rules, Compiles env r.nodeSelector) :
    ∃ rs, subENIResources env labels rules names = .ok rs ∧ (rs.map (·.resourceName)).Nodup ∧
      ∀ n, n ∈ rs.map (·.resourceName) ↔
        n ∉ names ∧ ∃ r ∈ rules, Matches env labels r.nodeSelector ∧ r.resourceName = n := by
  induction rules generalizing names with
  | nil => exact ⟨[], rfl, List.nodup_nil, by simp⟩
  | cons entry rules ih =>
    rw [List.forall_mem_cons] at h
    obtain ⟨b, hb, hmatch⟩ := h.1.matches labels
    by_cases hskip : b = false ∨ entry.resourceName ∈ names
    · obtain ⟨rs, hrs, hnodup, hmem⟩ := ih names h.2
      refine ⟨rs, ?_, hnodup, fun n => ?_⟩
      · rw [subENIResources, hb]
        exact (if_pos hskip).trans hrs
      · rw [hmem, List.exists_mem_cons_iff, hmatch]
        refine and_congr_right fun hn => ⟨.inr, fun hor => hor.resolve_left ?_⟩
        rintro ⟨rfl, rfl⟩
        exact hskip.elim (by simp) hn
    · obtain ⟨rs, hrs, hnodup, hmem⟩ := ih (names.insert entry.resourceName ()) h.2
      rw [not_or, Bool.not_eq_false] at hskip
      refine ⟨⟨entry.resourceName, entry.defaultMaxCount, ""⟩ :: rs, ?_, ?_, fun n => ?_⟩
      · rw [subENIResources, hb]
        refine (if_neg (by simp [hskip])).trans ?_
        rw [hrs]
        rfl
      · rw [List.map_cons, List.nodup_cons, hmem]
        exact ⟨fun hin => hin.1 (by simp), hnodup⟩
      · rw [List.map_cons, List.mem_cons, hmem, List.exists_mem_cons_iff, hmatch, AList.mem_insert,
          not_or]
        constructor
        · rintro (rfl | ⟨⟨-, hn⟩, hrest⟩)
          · exact ⟨hskip.2, .inl ⟨hskip.1, rfl⟩⟩
          · exact ⟨hn, .inr hrest⟩
        · rintro ⟨hn, ⟨-, rfl⟩ | hrest⟩
          · exact .inl rfl
          · by_cases heq : n = entry.resourceName
            · exact .inl heq
            · exact .inr ⟨⟨heq, hn⟩, hrest⟩

theorem mem_included (rule : MasterNICRuleConfig) (interfaces : List String) (iface : String) :
    iface ∈ included env rule interfaces ↔ iface ∈ interfaces ∧
      (rule.includeInterfaces = [] ∨ matchAny env rule.includeInterfaces iface) := by
  suffices hfold : ∀ m : GoMap String Unit, iface ∈ interfaces.foldl (fun m iface =>
      if rule.includeInterfaces = [] ∨ matchAny env rule.includeInterfaces iface then
        m.insert iface ()
      else m) m ↔ iface ∈ m ∨ (iface ∈ interfaces ∧
        (rule.includeInterfaces = [] ∨ matchAny env rule.includeInterfaces iface)) by
    simpa [included] using hfold ∅
  induction interfaces with
  | nil => simp
  | cons x xs ih =>
    intro m
    rw [List.foldl_cons, ih, List.mem_cons]
    by_cases hx : iface = x
    · subst hx
      split_ifs with hc <;> simp [hc]
    · split_ifs with hc <;> simp [hx]

/-- A rule adds an interface that it does not exclude: a count that is in the way is not zero, so
the interface is selected already. -/
theorem mem_select {rule : MasterNICRuleConfig} (hpos : 0 < rule.defaultMaxCount)
    (m : GoMap String ℤ) (x iface : String) :
    iface ∈ select env rule m x ↔
      iface ∈ m ∨ (iface = x ∧ matchAny env rule.excludeInterfaces x = false) := by
  unfold select
  rw [if_neg hpos.ne']
  dsimp only
  split_ifs with hex hlt
  · simp [hex]
  · simp [hex, or_comm]
  · have hx : x ∈ m := by
      by_contra hx
      rw [AList.lookup_eq_none.2 hx] at hlt
      exact hlt hpos
    exact ⟨.inl, fun h => h.elim id fun h => h.1 ▸ hx⟩

theorem selectLoop_keys (order : RangeOrder String Unit) (interfaces : List String)
    (rules : List MasterNICRuleConfig) (selected : GoMap String ℤ)
    (h : ∀ r ∈ rules, Compiles env r.nodeSelector ∧ 0 < r.defaultMaxCount) :
    ∃ m, selectLoop env order labels interfaces rules selected = .ok m ∧ ∀ iface,
      iface ∈ m ↔ iface ∈ selected ∨ (iface ∈ interfaces ∧
        ∃ r ∈ rules, Matches env labels r.nodeSelector ∧ Selects env r iface) := by
  induction rules generalizing selected with
  | nil => exact ⟨selected, rfl, by simp⟩
  | cons rule rules ih =>
    rw [List.forall_mem_cons] at h
    obtain ⟨⟨hcompiles, hpos⟩, hrest⟩ := h
    obtain ⟨b, hb, hmatch⟩ := hcompiles.matches labels
    have hfold : ∀ (es : List (Σ _ : String, Unit)) (m : GoMap String ℤ) (iface : String),
        iface ∈ es.foldl (fun m e => select env rule m e.1) m ↔ iface ∈ m ∨
          (⟨iface, ()⟩ ∈ es ∧ matchAny env rule.excludeInterfaces iface = false) := by
      intro es
      induction es with
      | nil => simp
      | cons e es ihes =>
        intro m iface
        obtain ⟨x, ⟨⟩⟩ := e
        rw [List.foldl_cons, ihes, mem_select hpos, List.mem_cons]
        by_cases hx : iface = x
        · subst hx; simp; tauto
        · simp [hx]
    have hvisit : ∀ iface, (⟨iface, ()⟩ : Σ _ : String, Unit) ∈
        order.visit (included env rule interfaces) ↔ iface ∈ included env rule interfaces := by
      intro iface
      rw [order.mem_visit, ← AList.lookup_isSome, Option.isSome_iff_exists]
      exact ⟨fun h => ⟨(), h⟩, fun ⟨_, h⟩ => h⟩
    obtain ⟨m, hm, hmem⟩ := ih (if b then (order.visit (included env rule interfaces)).foldl
      (fun m e => select env rule m e.1) selected else selected) hrest
    refine ⟨m, by rw [selectLoop, hb]; exact hm, fun iface => ?_⟩
    rw [hmem, List.exists_mem_cons_iff, hmatch]
    cases b with
    | false => simp
    | true =>
      rw [if_pos rfl, hfold, hvisit, mem_included, Selects]
      tauto

theorem slotResources_names {cfg : Config} (hcfg : Accepted env cfg) (providerEnabled : Bool) :
    ∃ rs, slotResources env providerEnabled labels cfg.subENIRules = .ok rs ∧
      (rs.map (·.resourceName)).Nodup ∧
      ∀ n, n ∈ rs.map (·.resourceName) ↔ OffersSlot env providerEnabled labels cfg n := by
  cases providerEnabled with
  | false => exact ⟨[], rfl, List.nodup_nil, by simp [OffersSlot]⟩
  | true =>
    obtain ⟨rs, hrs, hnodup, hmem⟩ := subENIResources_names labels cfg.subENIRules ∅ hcfg.slots
    exact ⟨rs, hrs, hnodup, fun n => by rw [hmem]; simp [OffersSlot]⟩

theorem selectMasterNICs_names {cfg : Config} (hcfg : Accepted env cfg)
    (order : RangeOrder String Unit) (order' : RangeOrder String ℤ) (interfaces : List String) :
    ∃ nics, selectMasterNICs env order order' labels interfaces cfg.masterNICRules = .ok nics ∧
      (nics.map Prod.fst).Nodup ∧
      ∀ i, i ∈ nics.map Prod.fst ↔ OffersNIC env labels interfaces cfg i := by
  obtain ⟨m, hm, hkeys⟩ := selectLoop_keys labels order interfaces cfg.masterNICRules ∅ hcfg.nics
  have hperm : (sortSlice (fun a b => decide (a < b)) ((order'.visit m).map Sigma.fst)).Perm m.keys :=
    (sortSlice_perm _ _).trans ((order'.perm m).map _)
  refine ⟨_, by rw [selectMasterNICs, hm]; rfl, ?_, fun i => ?_⟩ <;>
    simp only [List.map_map, Function.comp_def, List.map_id']
  · exact hperm.nodup_iff.2 m.keys_nodup
  · rw [hperm.mem_iff, ← AList.mem_keys, hkeys, OffersNIC]
    simp

end Names

/-! ### The resources -/

theorem compute_names {env : PluginEnv} {cfg : Config} (hcfg : Accepted env cfg)
    (order : RangeOrder String Unit) (order' : RangeOrder String ℤ) (providerEnabled : Bool)
    (labels : GoMap String String) (interfaces : List String) :
    ∃ rs, computeDesiredResources env order order' providerEnabled labels interfaces cfg = .ok rs ∧
      ∃ slots nics : List String, slots.Nodup ∧ nics.Nodup ∧
        rs.map (·.resourceName) = slots ++ nics.map masterNICResourceName ∧
        (∀ n, n ∈ slots ↔ (cfg.enabled = true ∧ Matches env labels cfg.nodeSelector) ∧
          OffersSlot env providerEnabled labels cfg n) ∧
        ∀ i, i ∈ nics ↔ (cfg.enabled = true ∧ Matches env labels cfg.nodeSelector) ∧
          OffersNIC env labels interfaces cfg i := by
  obtain ⟨b, hb, hmatch⟩ := hcfg.affinity.matches labels
  unfold computeDesiredResources
  by_cases hrun : cfg.enabled = true ∧ Matches env labels cfg.nodeSelector
  · obtain ⟨slots, hslots, hsnodup, hsmem⟩ := slotResources_names labels hcfg providerEnabled
    obtain ⟨nics, hnics, hnnodup, hnmem⟩ :=
      selectMasterNICs_names labels hcfg order order' interfaces
    refine ⟨slots ++ nics.map fun nic => ⟨masterNICResourceName nic.1, nic.2, nic.1⟩, ?_, _, _,
      hsnodup, hnnodup, ?_, by simp [hsmem, hrun], by simp [hnmem, hrun]⟩
    · rw [if_pos hrun.1, hb, hmatch.1 hrun.2, hslots, hnics]
      rfl
    · simp [Function.comp_def]
  · refine ⟨[], ?_, [], [], List.nodup_nil, List.nodup_nil, rfl, by simp [hrun], by simp [hrun]⟩
    split_ifs with hon
    · rw [hb, Bool.eq_false_iff.2 fun htrue => hrun ⟨hon, hmatch.2 htrue⟩]
      rfl
    · rfl

theorem socketName_eq_iff (a b : String) : socketName a = socketName b ↔ dashed a = dashed b := by
  unfold socketName dashed
  constructor
  · intro h
    have hlist := congrArg String.toList h
    simpa using hlist
  · intro h
    rw [h]

theorem dashed_masterNICResourceName (a b : String) :
    dashed (masterNICResourceName a) = dashed (masterNICResourceName b) ↔ dashed a = dashed b := by
  simp [dashed, masterNICResourceName]

theorem apart_iff_sockets (rs : List DesiredResource) :
    Apart rs ↔ ((rs.map (·.resourceName)).map socketName).Nodup := by
  rw [List.map_map]
  refine ⟨fun h => h.sockets, fun h => ⟨?_, h⟩⟩
  rw [← Function.comp_def, ← List.map_map] at h
  exact h.of_map _

/-! ### The servers keep what is theirs -/

theorem serve_eq (rs : List DesiredResource) :
    (serve rs).sockets = registerAll (rs.map fun r => socketName r.resourceName) 0 ∅ ∧
      (serve rs).registrations = registerAll (rs.map (·.resourceName)) 0 ∅ := by
  suffices hfold : ∀ h : Host, (rs.foldl Host.startResourceServer h).sockets =
      registerAll (rs.map fun r => socketName r.resourceName) h.servers.length h.sockets ∧
      (rs.foldl Host.startResourceServer h).registrations =
        registerAll (rs.map (·.resourceName)) h.servers.length h.registrations from hfold {}
  induction rs with
  | nil => exact fun _ => ⟨rfl, rfl⟩
  | cons r rs ih =>
    intro h
    obtain ⟨hs, hr⟩ := ih (h.startResourceServer r)
    rw [show (h.startResourceServer r).servers.length = h.servers.length + 1 by
      simp [Host.startResourceServer]] at hs hr
    exact ⟨hs, hr⟩

theorem lookup_desiredResourceByName {rs : List DesiredResource}
    (h : (rs.map (·.resourceName)).Nodup) {r : DesiredResource} (hr : r ∈ rs) :
    (desiredResourceByName rs).lookup r.resourceName = some r := by
  unfold desiredResourceByName
  induction rs using List.reverseRecOn with
  | nil => cases hr
  | append_singleton rs r' ih =>
    rw [List.map_append, List.nodup_append] at h
    rw [List.foldl_append, List.foldl_cons, List.foldl_nil, GoMap.lookup_insert_eq]
    rcases List.mem_append.1 hr with hr | hr
    · rw [if_neg (h.2.2 _ (List.mem_map_of_mem hr) _ (by simp))]
      exact ih h.1 hr
    · rw [List.mem_singleton.1 hr, if_pos rfl]

theorem undisturbed_iff (rs : List DesiredResource) : Undisturbed rs ↔ Apart rs := by
  have hsockets := registerAll_keeps_iff (rs.map fun r => socketName r.resourceName) 0 ∅
  have hnames := registerAll_keeps_iff (rs.map (·.resourceName)) 0 ∅
  rw [← (serve_eq rs).1] at hsockets
  rw [← (serve_eq rs).2] at hnames
  simp only [List.getElem?_map, Option.map_eq_some_iff, forall_exists_index, and_imp,
    Nat.zero_add] at hsockets hnames
  constructor
  · rintro ⟨hs, hr, -⟩
    exact ⟨hnames.1 fun i k r hi hk => hk ▸ hr i r hi, hsockets.1 fun i k r hi hk => hk ▸ hs i r hi⟩
  · rintro ⟨hn, hs⟩
    refine ⟨fun i r hi => hsockets.2 hs i _ r hi rfl, fun i r hi => hnames.2 hn i _ r hi rfl, ?_⟩
    refine (List.map_congr_left fun r hr => ?_).trans (List.map_id' rs)
    rw [lookup_desiredResourceByName hn hr]
    exact ite_self _

/-- **When the resources stay apart.**  For an accepted configuration, on every node and for every
list of interfaces, the resources have different names and different sockets exactly when the
dashes of the socket names leave them apart; and exactly then no server takes the socket, the
registration or the devices of another. -/
theorem resources_apart_iff (env : PluginEnv) {cfg cfg' : Config} (hcfg : validate env cfg = .ok cfg')
    (order : RangeOrder String Unit) (order' : RangeOrder String ℤ) (providerEnabled : Bool)
    (labels : GoMap String String) (interfaces : List String) :
    ∃ rs, computeDesiredResources env order order' providerEnabled labels interfaces cfg' = .ok rs ∧
      (Apart rs ↔ ToldApart env providerEnabled labels interfaces cfg') ∧
      (Undisturbed rs ↔ ToldApart env providerEnabled labels interfaces cfg') := by
  obtain ⟨rs, hrs, slots, nics, hslots, hnics, hnames, hslot, hnic⟩ :=
    compute_names (accepted_of_validate hcfg) order order' providerEnabled labels interfaces
  have hiff : Apart rs ↔ ToldApart env providerEnabled labels interfaces cfg' := by
    rw [apart_iff_sockets, hnames, List.map_append, List.nodup_append, List.map_map,
      List.nodup_map_iff_inj_on hslots, List.nodup_map_iff_inj_on hnics]
    simp only [List.forall_mem_map, hslot, hnic, Function.comp_apply, ne_eq, socketName_eq_iff,
      dashed_masterNICResourceName]
    constructor
    · rintro ⟨hs, hn, hsn⟩ hon hmatch
      exact ⟨fun a b ha hb => hs a ⟨⟨hon, hmatch⟩, ha⟩ b ⟨⟨hon, hmatch⟩, hb⟩,
        fun a b ha hb => hn a ⟨⟨hon, hmatch⟩, ha⟩ b ⟨⟨hon, hmatch⟩, hb⟩,
        fun a b ha hb => hsn a ⟨⟨hon, hmatch⟩, ha⟩ b ⟨⟨hon, hmatch⟩, hb⟩⟩
    · intro h
      exact ⟨fun a ha b hb => (h ha.1.1 ha.1.2).1 a b ha.2 hb.2,
        fun a ha b hb => (h ha.1.1 ha.1.2).2.1 a b ha.2 hb.2,
        fun a ha b hb => (h ha.1.1 ha.1.2).2.2 a b ha.2 hb.2⟩
  exact ⟨rs, hrs, hiff, (undisturbed_iff rs).trans hiff⟩

namespace Sample

def env : PluginEnv where
  labelSelectorAsSelector := fun _ => .ok fun _ => true
  fileMatch := fun pattern name => .ok (pattern == name)
  clean := id
  isAbs := fun path => path.toList.head? == some '/'

def config (names : List String) : Config where
  enabled := true
  kubeletRootDir := "/var/lib/kubelet"
  nodeSelector := ⟨∅, []⟩
  subENIRules := names.map fun name => ⟨name, 8, ⟨∅, []⟩⟩
  masterNICRules := [⟨⟨∅, []⟩, 1, [], []⟩]

def names (subENI interfaces : List String) : Option (List String) :=
  ((validate env (config subENI)).toOption.bind fun cfg =>
    (computeDesiredResources env (.stored _ _) (.stored _ _) true ∅ interfaces cfg).toOption).map
      (List.map (·.resourceName))

/-- A rule and two interfaces whose names stay apart. -/
theorem names_stay_apart :
    ∃ rs, computeDesiredResources env (.stored _ _) (.stored _ _) true ∅ ["eth0", "eth1"]
      (config ["spidernet.io/sub-eni"]) = .ok rs ∧ Apart rs ∧ Undisturbed rs := by
  have hvalid : validate env (config ["spidernet.io/sub-eni"]) =
      .ok (config ["spidernet.io/sub-eni"]) := by rfl
  obtain ⟨rs, hrs, hapart, hkeep⟩ := resources_apart_iff env hvalid (.stored _ _) (.stored _ _) true ∅
    ["eth0", "eth1"]
  have htold : ToldApart env true ∅ ["eth0", "eth1"] (config ["spidernet.io/sub-eni"]) := by
    have hslot : ∀ a, OffersSlot env true ∅ (config ["spidernet.io/sub-eni"]) a →
        a = "spidernet.io/sub-eni" := by
      rintro a ⟨-, r, hr, -, rfl⟩
      rw [List.mem_singleton.1 hr]
    have hnics : ∀ a ∈ ["eth0", "eth1"], ∀ b ∈ ["eth0", "eth1"], dashed a = dashed b → a = b := by
      decide +kernel
    have hacross : ∀ b ∈ ["eth0", "eth1"],
        dashed "spidernet.io/sub-eni" ≠ dashed (masterNICResourceName b) := by decide +kernel
    refine fun _ _ => ⟨fun a b ha hb _ => (hslot a ha).trans (hslot b hb).symm,
      fun a b ha hb => hnics a ha.1 b hb.1, fun a b ha hb => ?_⟩
    rw [hslot a ha]
    exact hacross b hb.1
  exact ⟨rs, hrs, hapart.2 htold, hkeep.2 htold⟩

/-- Accepted rules with the name of a master NIC resource, and with two names of one socket. -/
theorem names_collide :
    names ["spidernet.io/eth0-nic"] ["eth0"] =
      some ["spidernet.io/eth0-nic", "spidernet.io/eth0-nic"] ∧
    names ["example.com/eni.a", "example.com/eni_a"] [] =
      some ["example.com/eni.a", "example.com/eni_a"] ∧
    socketName "example.com/eni.a" = socketName "example.com/eni_a" := by
  decide +kernel

end Sample

end NetworkResourcePlugin
end Spiderpool
