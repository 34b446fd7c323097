/-
# The ADD command of the IPAM plugin

`CmdAdd` of `cmd/spiderpool/cmd`: it asks the agent for addresses, checks them, announces them and
prints them as the result for the container runtime. What the calls of one run return is given, and
a call may fail or panic; what the function does to the outside is kept in its state.

A deferred function recovers from panics, "so that in case we panic we can still return a proper
error to the runtime", but it only writes the message to the log. The function then returns what
`err` was, which is nil unless the panic comes after an error (`cmdAdd_returnsOnly_iff`).
-/

import Spiderpool.Base.Recover
import Spiderpool.IPAM.Conflict

namespace Spiderpool
namespace Plugin

/-! ### The response of the agent -/

/-- `models.IPConfig` as it comes: a pointer may be nil. -/
structure WireIP where
  address : Option String
  nic : Option String
  version : Option IPVersion
  gateway : String := ""
  mac : String := ""
  enableGatewayDetection : Bool := false
  enableIPConflictDetection : Bool := false
deriving DecidableEq

/-- `models.Route` as it comes. -/
structure WireRoute where
  ifName : Option String
  dst : Option String
  gw : Option String
deriving DecidableEq

structure DNS where
  nameservers : List String := []
  domain : String := ""
  search : List String := []
  options : List String := []
deriving DecidableEq

/-- `models.IpamAddResponse` as it comes: an element of a list may be nil too. -/
structure Payload where
  dns : Option DNS := none
  ips : Option (List (Option WireIP))
  routes : List (Option WireRoute) := []
deriving DecidableEq

/-- `^([0-9A-Fa-f]{2}:){5}[0-9A-Fa-f]{2}$`. -/
def macPattern (s : String) : Bool :=
  let pairs := s.toList.splitOn ':'
  pairs.length == 6 && pairs.all fun p => p.length == 2 && p.all fun c =>
    c.isDigit || ('a' ≤ c && c ≤ 'f') || ('A' ≤ c && c ≤ 'F')

def WireIP.valid (ip : WireIP) : Bool :=
  ip.address.isSome && (ip.mac == "" || macPattern ip.mac) && ip.nic.isSome &&
    ip.version.any fun v => v == 4 || v == 6

def WireRoute.valid (r : WireRoute) : Bool := r.dst.isSome && r.gw.isSome && r.ifName.isSome

/-- `IpamAddResponse.Validate`, with the error that lists what is missing. A nil element is not
looked at. -/
def Payload.validate (p : Payload) (e : Err) : Result Err Unit :=
  failIf (p.ips = none ∨ (p.ips.getD []).any (fun ip => ip.any fun i => !i.valid) ∨
    p.routes.any (fun r => r.any fun r => !r.valid)) e

/-! ### The result -/

structure CniIP where
  address : IPNet
  gateway : IP
deriving DecidableEq

structure CniRoute where
  dst : IPNet
  gw : IP
deriving DecidableEq

structure CniResult where
  cniVersion : String
  dns : DNS
  ips : List CniIP
  routes : List CniRoute
deriving DecidableEq

/-- The routes of the interface, as `assembleResult` collects them. -/
def assembleRoutes (ifName : String) : List (Option WireRoute) → Result Err (List CniRoute)
  | [] => .ok []
  | r :: rest => do
    let route ← deref r
    let name ← deref route.ifName
    if name = ifName then do
      let dst ← deref route.dst
      match netParseCIDR dst with
      | none => fail (netParseError dst)
      | some parsed => do
        let gw ← deref route.gw
        let routes ← assembleRoutes ifName rest
        return ⟨parsed.2, parseIP gw⟩ :: routes
    else assembleRoutes ifName rest

/-- The addresses of the interface, as `assembleResult` collects them. -/
def assembleIPs (ifName : String) : List (Option WireIP) → Result Err (List CniIP)
  | [] => .ok []
  | i :: rest => do
    let ip ← deref i
    let nic ← deref ip.nic
    if nic = ifName then do
      let version ← deref ip.version
      let text ← deref ip.address
      let address ← parseIPOf version text true
      let ips ← assembleIPs ifName rest
      return ⟨address, parseIP ip.gateway⟩ :: ips
    else assembleIPs ifName rest

def assemble (ifName : String) (p : Payload) : Result Err (List CniRoute × List CniIP) := do
  let routes ← assembleRoutes ifName p.routes
  let ips ← assembleIPs ifName (p.ips.getD [])
  failIf (ips = []) (.new ("no Interface " ++ ifName ++ " IP allocation found"))
  return (routes, ips)

def assembleResult (cniVersion ifName : String) (p : Payload) : Result Err CniResult := do
  let found ← assemble ifName p
  return { cniVersion, dns := p.dns.getD {}, ips := found.2, routes := found.1 }

/-! ### The command -/

structure IPAMConfig where
  logLevel : String := ""
  ipamUnixSocketPath : String := ""
  defaultIPv4IPPool : List String := []
  defaultIPv6IPPool : List String := []
  cleanGateway : Bool := false
  matchMasterSubnet : Bool := false

structure NetConf where
  cniVersion : String
  ipam : IPAMConfig := {}

def supportCNIVersions := ["0.3.0", "0.3.1", "0.4.0", "1.0.0"]

/-- `LoadNetConf`, of what the input is decoded to. -/
def loadNetConf (decoded : Result Err NetConf) : Result Err NetConf := do
  let netConf ← mapErr (.wrap "failed to parse CNI network configuration: " · "") decoded
  let ipam := { netConf.ipam with
    logLevel := if netConf.ipam.logLevel = "" then "debug" else netConf.ipam.logLevel
    ipamUnixSocketPath := if netConf.ipam.ipamUnixSocketPath = "" then
      "/var/run/spidernet/spiderpool.sock" else netConf.ipam.ipamUnixSocketPath }
  failIf (netConf.cniVersion ∉ supportCNIVersions)
    (.new ("unsupported specified CNI version " ++ netConf.cniVersion ++ ", the CNI versions " ++
      "supported by Spiderpool: [" ++ " ".intercalate supportCNIVersions ++ "]"))
  return { netConf with ipam }

structure AddArgs extends CmdArgs where
  ifName : String

structure AddEnv where
  decoded : Result Err NetConf
  getNS : Result Err Unit := .ok ()
  setupFileLogging : Result Err Unit := .ok ()
  getCurrentNS : Result Err Unit := .ok ()
  loadArgs : Result Err K8sArgs
  newClient : Result Err Unit := .ok ()
  getIpamHealthy : Result Err Unit := .ok ()
  /-- The payload of the response, which may be nil. -/
  postIpamIP : Result Err (Option Payload)
  /-- The error of `Validate`. -/
  invalid : Err := .new "validation failure list"
  /-- `DetectIPConflictAndGatewayReachable`, if there is an address to detect. -/
  detect : Result Err Unit := .ok ()
  deleteIpamIps : Result Err Unit := .ok ()
  announceIPs : Result Err Unit := .ok ()
  /-- `types.PrintResult`. -/
  print : Result Err Unit := .ok ()

structure Done where
  sent : Option IpamAddArgs := none
  announced : List Addr := []
  printed : Option CniResult := none

abbrev Add := Eff (Frame Done Err) Err

def ipamAddArgs (conf : NetConf) (args : AddArgs) (k8sArgs : K8sArgs) : IpamAddArgs where
  podNamespace := k8sArgs.podNamespace
  podName := k8sArgs.podName
  ifName := args.ifName
  cleanGateway := conf.ipam.cleanGateway
  defaultIPV4IPPool := conf.ipam.defaultIPv4IPPool
  defaultIPV6IPPool := conf.ipam.defaultIPv6IPPool
  matchMasterSubnet := conf.ipam.matchMasterSubnet
  netNamespace := args.netns

def detectIPs (iface : String) : List (Option WireIP) → Result Err (List WireIP)
  | [] => .ok []
  | i :: rest => do
    let ip ← deref i
    let nic ← deref ip.nic
    let ips ← detectIPs iface rest
    return if nic ≠ iface then ips
      else if ip.enableGatewayDetection = false ∧ ip.enableIPConflictDetection = false then ips
      else ip :: ips

def detectIPConflictAndGatewayReachable (env : AddEnv) (iface : String)
    (ips : List (Option WireIP)) : Result Err Unit := do
  let found ← detectIPs iface ips
  if found = [] then return ()
  env.detect

/-- What `CmdAdd` does about a conflict: the error is assigned to `err` first, and it is returned
after the addresses have been given back. -/
def detectOrCleanUp (env : AddEnv) (detected : Result Err Unit) : Add Unit := fun s =>
  match detected with
  | .ok () => (.ok (), { s with err := none })
  | .error (.err err) =>
    if .errIPConflict ∈ err.sentinels ∨ .errGatewayUnreachable ∈ err.sentinels then
      match env.deleteIpamIps with
      | .ok () => (fail err, { s with err := some err })
      | .error (.err e) => (fail ⟨err.sentinels ++ e.sentinels, err.text ++ "; " ++ e.text⟩,
          { s with err := some err })
      | .error fault => (.error fault, { s with err := some err })
    else (fail err, { s with err := some err })
  | .error fault => (.error fault, s)

/-- The addresses to announce; a text that cannot be read is passed over. -/
def announceable : List (Option WireIP) → Result Err (List Addr)
  | [] => .ok []
  | i :: rest => do
    let ip ← deref i
    let ips ← announceable rest
    return match ip.address.filter (· ≠ "") with
      | none => ips
      | some text => (netParseCIDR text).elim ips (·.1 :: ips)

/-- `AnnounceIPs`, whose error is only logged, but stays in `err`. -/
def announceIPs (env : AddEnv) (ipRes : List Addr) : Add Unit := fun s =>
  match env.announceIPs with
  | .ok () => (.ok (), ⟨none, { s.state with announced := ipRes }⟩)
  | .error (.err e) => (.ok (), ⟨some e, { s.state with announced := ipRes }⟩)
  | .error fault => (.error fault, s)

def printResult (env : AddEnv) (result : CniResult) : Add Unit := fun s =>
  match env.print with
  | .ok () => (.ok (), { s with state := { s.state with printed := some result } })
  | .error fault => (.error fault, s)

def errPostIPAM (e : Err) : Err := .wrap "spiderpool IP allocation error: " e ""

def send (request : IpamAddArgs) : Add Unit := fun s =>
  (.ok (), { s with state := { s.state with sent := some request } })

def finishAdd (env : AddEnv) (cniVersion ifName : String) (p : Payload) : Add Unit := do
  callOr (p.validate env.invalid) errPostIPAM
  detectOrCleanUp env (detectIPConflictAndGatewayReachable env ifName (p.ips.getD []))
  let ipRes ← Eff.lift (announceable (p.ips.getD []))
  announceIPs env ipRes
  let result ← callOr (assembleResult cniVersion ifName p) errPostIPAM
  printResult env result

def cmdAddBody (env : AddEnv) (args : AddArgs) : Add Unit := do
  let conf ← callOr (loadNetConf env.decoded)
    (.wrap "failed to load CNI network configuration: " · "")
  callOr env.getNS (.wrap ("failed to GetNS \"" ++ args.netns ++ "\" for pod: ") · "")
  callOr env.setupFileLogging (.wrap "failed to setup file logging: " · "")
  callOr env.getCurrentNS (.wrap "failed to get current netns: " · "")
  let k8sArgs ← callOr env.loadArgs (.wrap "failed to load CNI ENV args: " · "")
  callOr env.newClient (.wrap "failed to create spiderpool-agent client: " · "")
  callOr env.getIpamHealthy (.wrap "unhealthy spiderpool-agent backend, failed to check: " · "")
  send (ipamAddArgs conf args k8sArgs)
  let payload ← callOr env.postIpamIP errPostIPAM
  let p ← callOr (deref payload) errPostIPAM
  finishAdd env conf.cniVersion args.ifName p

def cmdAdd (env : AddEnv) (args : AddArgs) : Ended Done Err :=
  afterRecover (cmdAddBody env args ⟨none, {}⟩)

/-! ### What the result holds -/

def Payload.ipsOf (p : Payload) (ifName : String) : List WireIP :=
  (p.ips.getD []).filterMap fun i => i.filter fun ip => ip.nic = some ifName

def Payload.routesOf (p : Payload) (ifName : String) : List WireRoute :=
  p.routes.filterMap fun r => r.filter fun route => route.ifName = some ifName

/-- The address of a result that an address of the response stands for. -/
def WireIP.Denotes (ip : WireIP) (c : CniIP) : Prop :=
  ∃ version text, ip.version = some version ∧ ip.address = some text ∧
    parseIPOf version text true = .ok c.address ∧ c.gateway = parseIP ip.gateway

/-- The route of a result that a route of the response stands for. -/
def WireRoute.Denotes (route : WireRoute) (c : CniRoute) : Prop :=
  ∃ dst gw a, route.dst = some dst ∧ route.gw = some gw ∧ netParseCIDR dst = some (a, c.dst) ∧
    c.gw = parseIP gw

/-- The result holds exactly the addresses and routes of the interface, and at least one address. -/
structure Holds (p : Payload) (ifName : String) (r : CniResult) : Prop where
  ips : List.Forall₂ WireIP.Denotes (p.ipsOf ifName) r.ips
  routes : List.Forall₂ WireRoute.Denotes (p.routesOf ifName) r.routes
  nonempty : r.ips ≠ []

theorem assembleRoutes_ok {ifName : String} {routes : List (Option WireRoute)} {cs : List CniRoute}
    (h : assembleRoutes ifName routes = .ok cs) :
    List.Forall₂ WireRoute.Denotes
      (routes.filterMap fun r => r.filter fun route => route.ifName = some ifName) cs := by
  induction routes generalizing cs with
  | nil =>
    obtain rfl : [] = cs := Except.ok.inj h
    exact .nil
  | cons r rest ih =>
    obtain ⟨route, hr, hrest⟩ := bind_eq_ok.1 h
    obtain ⟨name, hname, hrest⟩ := bind_eq_ok.1 hrest
    rw [deref_eq_ok] at hr hname
    subst hr
    split_ifs at hrest with hif
    · obtain ⟨dst, hdst, h⟩ := bind_eq_ok.1 hrest
      rcases hparse : netParseCIDR dst with _ | parsed
      · simp [hparse] at h
      · rw [hparse] at h
        obtain ⟨gw, hgw, h⟩ := bind_eq_ok.1 h
        obtain ⟨cs', hcs, h⟩ := bind_eq_ok.1 h
        obtain rfl : _ = cs := Except.ok.inj h
        have hkeep : (some route).filter (fun route => route.ifName = some ifName) = some route := by
          simp [Option.filter, hname, hif]
        rw [List.filterMap_cons_some hkeep]
        exact .cons ⟨dst, gw, parsed.1, deref_eq_ok.1 hdst, deref_eq_ok.1 hgw, hparse, rfl⟩ (ih hcs)
    · have hdrop : (some route).filter (fun route => route.ifName = some ifName) = none := by
        simp [Option.filter, hname, hif]
      rw [List.filterMap_cons_none hdrop]
      exact ih hrest

theorem assembleIPs_ok {ifName : String} {ips : List (Option WireIP)} {cs : List CniIP}
    (h : assembleIPs ifName ips = .ok cs) :
    List.Forall₂ WireIP.Denotes
      (ips.filterMap fun i => i.filter fun ip => ip.nic = some ifName) cs := by
  induction ips generalizing cs with
  | nil =>
    obtain rfl : [] = cs := Except.ok.inj h
    exact .nil
  | cons i rest ih =>
    obtain ⟨ip, hi, hrest⟩ := bind_eq_ok.1 h
    obtain ⟨nic, hnic, hrest⟩ := bind_eq_ok.1 hrest
    rw [deref_eq_ok] at hi hnic
    subst hi
    split_ifs at hrest with hif
    · obtain ⟨version, hversion, h⟩ := bind_eq_ok.1 hrest
      obtain ⟨text, htext, h⟩ := bind_eq_ok.1 h
      obtain ⟨address, haddress, h⟩ := bind_eq_ok.1 h
      obtain ⟨cs', hcs, h⟩ := bind_eq_ok.1 h
      obtain rfl : _ = cs := Except.ok.inj h
      have hkeep : (some ip).filter (fun ip => ip.nic = some ifName) = some ip := by
        simp [Option.filter, hnic, hif]
      rw [List.filterMap_cons_some hkeep]
      exact .cons ⟨version, text, deref_eq_ok.1 hversion, deref_eq_ok.1 htext, haddress, rfl⟩ (ih hcs)
    · have hdrop : (some ip).filter (fun ip => ip.nic = some ifName) = none := by
        simp [Option.filter, hnic, hif]
      rw [List.filterMap_cons_none hdrop]
      exact ih hrest

theorem assembleResult_holds {cniVersion ifName : String} {p : Payload} {r : CniResult}
    (h : assembleResult cniVersion ifName p = .ok r) : Holds p ifName r := by
  obtain ⟨found, hfound, h⟩ := bind_eq_ok.1 h
  obtain ⟨routes, hroutes, hfound⟩ := bind_eq_ok.1 hfound
  obtain ⟨ips, hips, hfound⟩ := bind_eq_ok.1 hfound
  obtain ⟨hne, hfound⟩ := seq_eq_ok.1 hfound
  obtain rfl : (routes, ips) = found := Except.ok.inj hfound
  obtain rfl : _ = r := Except.ok.inj h
  exact ⟨assembleIPs_ok hips, assembleRoutes_ok hroutes, failIf_eq_ok.1 hne⟩

/-! ### When nil is returned -/

/-- A panic after an error that was only logged is returned as that error. -/
def afterLogged (logged r : Result Err Unit) : Result Err Unit :=
  match logged, r with
  | .error (.err e), .error .panic => fail e
  | _, r => r

def logged : Result Err Unit → Result Err Unit
  | .error (.err _) => .ok ()
  | r => r

/-- The calls of `CmdAdd` after there is a response, with what they return. -/
def laterCalls (env : AddEnv) (ifName : String) (p : Payload) : List (Result Err Unit) :=
  p.validate env.invalid ::
  detectIPConflictAndGatewayReachable env ifName (p.ips.getD []) ::
  void (announceable (p.ips.getD [])) ::
  logged env.announceIPs ::
  afterLogged env.announceIPs (void (assemble ifName p)) ::
  env.print :: []

/-- The calls of `CmdAdd`, with what they return. -/
def calls (env : AddEnv) (args : AddArgs) : List (Result Err Unit) :=
  void (loadNetConf env.decoded) :: env.getNS :: env.setupFileLogging :: env.getCurrentNS ::
  void env.loadArgs :: env.newClient :: env.getIpamHealthy :: void env.postIpamIP ::
  env.postIpamIP.toOption.elim [] fun payload =>
    void (deref payload : Result Err Payload) ::
      payload.elim [] fun p => laterCalls env args.ifName p

/-- A result was printed, and it holds what the agent has answered for the interface. -/
def Printed (env : AddEnv) (ifName : String) (d : Done) : Prop :=
  ∃ p r, env.postIpamIP = .ok (some p) ∧ d.printed = some r ∧ Holds p ifName r

theorem not_printed {env : AddEnv} {ifName : String} {d : Done} (h : d.printed = none) :
    ¬Printed env ifName d := by
  rintro ⟨p, r, -, hr, -⟩
  rw [h] at hr
  cases hr

theorem standsFor_detect (env : AddEnv) (r : Result Err Unit) (x : Done) :
    StandsFor (detectOrCleanUp env r) r x where
  ok a h := by rw [h]; rfl
  panic h := by rw [h]; rfl
  error f h hf := by
    subst h
    cases f with
    | err e =>
      unfold detectOrCleanUp
      dsimp only
      split_ifs
      · rcases env.deleteIpamIps with (e' | - | -) | u <;>
          exact ⟨_, _, rfl, by simp [afterRecover]⟩
      · exact ⟨_, _, rfl, by simp [afterRecover]⟩
    | panic => exact absurd rfl hf
    | hang => exact ⟨_, _, rfl, by simp [afterRecover]⟩

section

variable {P : Done → Prop} {x : Done} {env : AddEnv}

theorem returnsOnly_print (hx : ¬P x) {r : CniResult} (hP : P { x with printed := some r }) :
    ReturnsOnly P (printResult env r) ⟨none, x⟩ ↔ env.print ≠ .error .panic := by
  unfold ReturnsOnly printResult
  rcases hprint : env.print with (e | - | -) | u
  · simp [afterRecover]
  · simpa [afterRecover] using hx
  · simp [afterRecover]
  · simpa [afterRecover] using hP

end

theorem assembleResult_eq (cniVersion ifName : String) (p : Payload) :
    assembleResult cniVersion ifName p = (assemble ifName p).map fun found =>
      ⟨cniVersion, p.dns.getD {}, found.2, found.1⟩ := by
  unfold assembleResult
  cases assemble ifName p <;> rfl

section

variable {env : AddEnv} {cniVersion ifName : String} {p : Payload} {x : Done}
  (hpost : env.postIpamIP = .ok (some p)) (hx : x.printed = none)

include hpost hx

theorem returnsOnly_assemble :
    ReturnsOnly (Printed env ifName)
        (callOr (assembleResult cniVersion ifName p) errPostIPAM >>= printResult env) ⟨none, x⟩ ↔
      ¬EndsInPanic [void (assemble ifName p), env.print] := by
  have hnot : ¬Printed env ifName x := not_printed hx
  rw [(standsFor_callOr _ _ _).returnsOnly hnot, not_endsInPanic_cons]
  rcases hassemble : assemble ifName p with f | found
  · simp [assembleResult_eq, hassemble, Except.map]
  · have hresult : assembleResult cniVersion ifName p =
        .ok ⟨cniVersion, p.dns.getD {}, found.2, found.1⟩ := by
      simp [assembleResult_eq, hassemble, Except.map]
    have hprint := @returnsOnly_print _ _ env hnot _
      ⟨p, _, hpost, rfl, assembleResult_holds hresult⟩
    have hlast : ¬EndsInPanic [env.print] ↔ env.print ≠ .error .panic := by
      rw [← void_unit env.print, not_endsInPanic_cons]
      simp [EndsInPanic]
    simp [hresult, hprint, hlast]

/-- Announcing, and then assembling and printing: an error of the announcement is returned if
assembling panics. -/
theorem returnsOnly_announce (ipRes : List Addr) :
    ReturnsOnly (Printed env ifName) (announceIPs env ipRes >>= fun _ =>
        callOr (assembleResult cniVersion ifName p) errPostIPAM >>= printResult env) ⟨none, x⟩ ↔
      ¬EndsInPanic [logged env.announceIPs,
        afterLogged env.announceIPs (void (assemble ifName p)), env.print] := by
  have hthen := @returnsOnly_assemble env cniVersion ifName p { x with announced := ipRes } hpost hx
  rcases hann : env.announceIPs with (e | - | -) | u
  · -- the error stays in `err` until the result is assembled
    have hrun : ∀ k : Unit → Add Unit, (announceIPs env ipRes >>= k) ⟨none, x⟩ =
        k () ⟨some e, { x with announced := ipRes }⟩ :=
      fun k => Eff.bind_of_ok k (by simp [announceIPs, hann])
    unfold ReturnsOnly at hthen ⊢
    rw [hrun]
    rcases hassemble : assemble ifName p with f | found
    · have hresult : assembleResult cniVersion ifName p = .error f := by
        simp [assembleResult_eq, hassemble, Except.map]
      obtain ⟨f', s, hcall, hloud⟩ : ∃ f' s, callOr (assembleResult cniVersion ifName p) errPostIPAM
          ⟨some e, { x with announced := ipRes }⟩ = (.error f', s) ∧
            ∀ t, afterRecover (.error f', s) ≠ .returned none t := by
        rw [hresult]
        rcases f with e' | - | - <;> exact ⟨_, _, rfl, by simp [afterRecover]⟩
      refine iff_of_true (fun t ht => absurd ht ?_) ?_
      · rw [Eff.bind_of_error _ hcall]
        exact hloud t
      · rcases f with e' | - | - <;> exact id
    · have hresult : assembleResult cniVersion ifName p =
          .ok ⟨cniVersion, p.dns.getD {}, found.2, found.1⟩ := by
        simp [assembleResult_eq, hassemble, Except.map]
      have hsame : ∀ err, (callOr (assembleResult cniVersion ifName p) errPostIPAM >>=
          printResult env) ⟨err, { x with announced := ipRes }⟩ =
            printResult env ⟨cniVersion, p.dns.getD {}, found.2, found.1⟩
              ⟨none, { x with announced := ipRes }⟩ := by
        intro err
        rw [hresult]
        exact Eff.bind_of_ok _ rfl
      rw [hsame] at hthen ⊢
      rw [hthen, hassemble]
      exact Iff.rfl
  · have hrun : ∀ k : Unit → Add Unit, (announceIPs env ipRes >>= k) ⟨none, x⟩ =
        (.error .panic, ⟨none, x⟩) := fun k => Eff.bind_of_error k (by simp [announceIPs, hann])
    refine iff_of_false (fun h => not_printed hx (h x ?_)) fun h => h endsInPanic_panic
    rw [hrun]
    rfl
  · have hrun : ∀ k : Unit → Add Unit, (announceIPs env ipRes >>= k) ⟨none, x⟩ =
        (.error .hang, ⟨none, x⟩) := fun k => Eff.bind_of_error k (by simp [announceIPs, hann])
    refine iff_of_true (fun t ht => ?_) not_endsInPanic_hang
    rw [hrun] at ht
    cases ht
  · have hrun : ∀ k : Unit → Add Unit, (announceIPs env ipRes >>= k) ⟨none, x⟩ =
        k () ⟨none, { x with announced := ipRes }⟩ :=
      fun k => Eff.bind_of_ok k (by simp [announceIPs, hann])
    have hafter : ∀ r, afterLogged (.ok u) r = r := by
      rintro ((e | - | -) | a) <;> rfl
    rw [hafter]
    unfold ReturnsOnly at hthen ⊢
    rw [hrun, hthen]
    exact Iff.rfl

end

theorem returnsOnly_finishAdd {env : AddEnv} {cniVersion ifName : String} {p : Payload} {x : Done}
    (hpost : env.postIpamIP = .ok (some p)) (hx : x.printed = none) :
    ReturnsOnly (Printed env ifName) (finishAdd env cniVersion ifName p) ⟨none, x⟩ ↔
      ¬EndsInPanic (laterCalls env ifName p) := by
  have hnot : ¬Printed env ifName x := not_printed hx
  unfold finishAdd laterCalls
  refine (standsFor_callOr _ _ _).callUnit hnot ?_
  refine (standsFor_detect _ _ _).callUnit hnot ?_
  exact (standsFor_lift _ _).call hnot fun ipRes _ => returnsOnly_announce hpost hx ipRes

/-- **`CmdAdd` returns nil only after it has printed the addresses and routes of the interface,
exactly if no call panics before an error is there to return.** -/
theorem cmdAdd_returnsOnly_iff (env : AddEnv) (args : AddArgs) :
    (∀ d, cmdAdd env args = .returned none d → Printed env args.ifName d) ↔
      ¬EndsInPanic (calls env args) := by
  have hstart : ¬Printed env args.ifName {} := not_printed rfl
  change ReturnsOnly (Printed env args.ifName) (cmdAddBody env args) ⟨none, {}⟩ ↔ _
  unfold cmdAddBody calls
  refine (standsFor_callOr _ _ _).call hstart fun conf _ => ?_
  refine (standsFor_callOr _ _ _).callUnit hstart ?_
  refine (standsFor_callOr _ _ _).callUnit hstart ?_
  refine (standsFor_callOr _ _ _).callUnit hstart ?_
  refine (standsFor_callOr _ _ _).call hstart fun k8sArgs _ => ?_
  refine (standsFor_callOr _ _ _).callUnit hstart ?_
  refine (standsFor_callOr _ _ _).callUnit hstart ?_
  -- the request is on its way
  have hsent : ¬Printed env args.ifName { sent := some (ipamAddArgs conf args k8sArgs) } :=
    not_printed rfl
  have hsend : ∀ k : Unit → Add Unit, (send (ipamAddArgs conf args k8sArgs) >>= k) ⟨none, {}⟩ =
      k () ⟨none, { sent := some (ipamAddArgs conf args k8sArgs) }⟩ := fun k => Eff.bind_of_ok k rfl
  unfold ReturnsOnly
  rw [hsend]
  change ReturnsOnly _ _ _ ↔ _
  refine (standsFor_callOr _ _ _).call hsent fun payload hpost => ?_
  rw [hpost]
  refine (standsFor_callOr _ _ _).call hsent fun p hp => ?_
  obtain rfl := deref_eq_ok.1 hp
  exact returnsOnly_finishAdd hpost rfl

end Plugin

namespace Sample

open Plugin

def pluginEnv (payload : Payload) : AddEnv where
  decoded := .ok { cniVersion := "1.0.0" }
  loadArgs := .ok ⟨"web-0", "default", "uid"⟩
  postIpamIP := .ok (some payload)

def pluginArgs : AddArgs := ⟨⟨"container", "/var/run/netns/web-0"⟩, "eth0"⟩

def wireIP : WireIP := {
  address := some "10.0.0.2/24", nic := some "eth0", version := some 4, gateway := "10.0.0.1" }

/-- With an address of the interface the command returns nil and has printed it. -/
theorem address_is_printed :
    ∃ d, cmdAdd (pluginEnv { ips := some [some wireIP] }) pluginArgs = .returned none d ∧
      Printed (pluginEnv { ips := some [some wireIP] }) "eth0" d := by
  have hall : calls (pluginEnv { ips := some [some wireIP] }) pluginArgs = List.replicate 15 (.ok ()) := by
    decide +kernel
  have hcalls : ¬EndsInPanic (calls (pluginEnv { ips := some [some wireIP] }) pluginArgs) := by
    rw [hall]
    exact id
  refine ⟨_, rfl, (cmdAdd_returnsOnly_iff _ pluginArgs).2 hcalls _ rfl⟩

/-- With a null among the addresses it returns nil and has printed nothing. -/
theorem null_address_swallowed :
    ∃ d, cmdAdd (pluginEnv { ips := some [none] }) pluginArgs = .returned none d ∧ d.printed = none :=
  ⟨_, rfl, rfl⟩

end Sample

end Spiderpool
