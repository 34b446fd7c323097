/-
# The checks of a coordinator's configuration

`ValidateCoordinatorSpec` of `pkg/coordinatormanager`, which the webhooks of SpiderCoordinator and
of SpiderMultusConfig call on a copy of the configuration. It always returns, as long as the
parsers of `netip` do (`validateCoordinatorSpec_returns`): the bit of the MAC prefix that it looks
at is there, because the number is written with eight digits at least.
-/

import Spiderpool.Base.Returns
import Spiderpool.Coordinator.Config

namespace Spiderpool

/-- `field.ErrorType`, of those that the checks of configurations use. -/
inductive ConfigErrorType where
  | invalid
  | required
  | notSupported
  | forbidden
deriving DecidableEq, Repr

/-- `field.Error`, with the value itself where it has one. -/
structure ConfigError (β : Type) where
  type : ConfigErrorType
  field : String
  badValue : Option β
  detail : String

namespace ConfigError

variable {β γ : Type}

def invalid (field : String) (value : β) (detail : String) : ConfigError β :=
  ⟨.invalid, field, some value, detail⟩

def required (field detail : String) : ConfigError β := ⟨.required, field, none, detail⟩

def forbidden (field detail : String) : ConfigError β := ⟨.forbidden, field, none, detail⟩

def notSupported (field : String) (value : Option β) (validValues : List String) :
    ConfigError β where
  type := .notSupported
  field := field
  badValue := value
  detail := "supported values: " ++ ", ".intercalate (validValues.map Coordinator.quote)

/-- The same error, of a value that is taken for one of another type. -/
def map (f : β → γ) (e : ConfigError β) : ConfigError γ :=
  { e with badValue := e.badValue.map f }

end ConfigError

namespace CoordinatorManager

open Coordinator

def podCIDRTypeField := "spec.podCIDRType"
def extraCIDRField := "spec.extraCIDR"
def podMACPrefixField := "spec.podMACPrefix"
def podRPFilterField := "spec.podRPFilter"
def policyRoutesField := "spec.policyRoutes"
def txQueueLenField := "spec.txQueueLen"
def vethLinkAddressField := "spec.vethLinkAddress"
def vethMTUField := "spec.vethMTU"

def supportedPodCIDRType := ["auto", "cluster", "calico", "cilium", "none"]

inductive BadValue where
  | text (s : String)
  | int (n : Int64)
  | route (r : Route)

abbrev Check := Result (ConfigError BadValue) Unit

def index (path : String) (i : ℕ) : String := path ++ "[" ++ itoa i ++ "]"

def validateCoordinatorPodCIDRType (t : String) : Check :=
  failIf (t ∉ supportedPodCIDRType)
    (.notSupported podCIDRTypeField (some (.text t)) supportedPodCIDRType)

/-- `validateCoordinatorExtraCIDR`. What it writes back into the copy is not read again. -/
def validateCoordinatorExtraCIDR (env : ParseEnv) (cidrs : List String) : Check :=
  cidrs.zipIdx.forM fun (cidr, i) => do
    let _ ← mapErr (fun e => .invalid (index extraCIDRField i) (.text cidr) e.text)
      (parseIPOrCIDR env cidr)

/-- A turn of the loop of `validateCoordinatorPolicyRoutes`. -/
def validateCoordinatorPolicyRoute (env : ParseEnv) (i : ℕ) (route : Route) : Check := do
  let nPrefix ← mapErr
    (fun e => .invalid (index policyRoutesField i ++ ".dst") (.text route.dst) e.text)
    (parseIPOrCIDR env route.dst)
  let gw ← mapErr
    (fun _ => .invalid (index policyRoutesField i ++ ".gw") (.text route.gw)
      "gw is an invalid IP address")
    (env.parseAddr route.gw)
  failIf (nPrefix.is4 ≠ gw.2) (.invalid (index policyRoutesField i) (.route route)
    "dst and gw must use the same IP family")

def validateCoordinatorPolicyRoutes (env : ParseEnv) (routes : List Route) : Check :=
  routes.zipIdx.forM fun (route, i) => validateCoordinatorPolicyRoute env i route

def hexDigit (c : Char) : Option ℕ :=
  if '0' ≤ c ∧ c ≤ '9' then some (c.toNat - '0'.toNat)
  else if 'a' ≤ c ∧ c ≤ 'f' then some (c.toNat - 'a'.toNat + 10)
  else if 'A' ≤ c ∧ c ≤ 'F' then some (c.toNat - 'A'.toNat + 10)
  else none

/-- `strconv.ParseInt(s, 16, 0)`, of a text too short for a number out of range. -/
def parseHex (s : String) : Option ℤ :=
  let (negative, digits) := match s.toList with
    | '-' :: ds => (true, ds)
    | '+' :: ds => (false, ds)
    | ds => (false, ds)
  if digits = [] then none
  else
    match digits.mapM hexDigit with
    | none => none
    | some ds =>
      let n : ℤ := ds.foldl (fun n d => 16 * n + (d : ℤ)) 0
      some (if negative then -n else n)

/-- `%08b`: the sign counts as one of the eight places. -/
def formatBinary (n : ℤ) : List Char :=
  if n < 0 then '-' :: (Nat.toDigits 2 n.natAbs).leftpad 7 '0'
  else (Nat.toDigits 2 n.natAbs).leftpad 8 '0'

theorem eight_le_length_formatBinary (n : ℤ) : 8 ≤ (formatBinary n).length := by
  unfold formatBinary
  split_ifs
  · rw [List.length_cons, List.length_leftpad]
    omega
  · rw [List.length_leftpad]
    omega

def validateCoordinatorPodMACPrefix (macPrefix : Option String) : Check :=
  match macPrefix with
  | none => .ok ()
  | some macPrefix =>
    if macPrefix = "" then .ok ()
    else
      let errInvalid := ConfigError.invalid podMACPrefixField (.text macPrefix) "not a valid MAC prefix"
      match split macPrefix ':' with
      | [first, second] =>
        if first.utf8ByteSize ≠ 2 ∨ second.utf8ByteSize ≠ 2 then fail errInvalid
        else
          match parseHex first, parseHex second with
          | some fb, some _ => do
            let bit ← deref ((formatBinary fb)[7]?)
            failIf (bit ≠ '0') (.invalid podMACPrefixField (.text macPrefix)
              "not a unicast MAC: the lowest bit of the first byte must be 0")
          | _, _ => fail errInvalid
      | _ => fail errInvalid

def validateCoordinatorPodRPFilter (f : Int64) : Check :=
  failIf (0 ≤ f ∧ f ≠ 0 ∧ f ≠ 1 ∧ f ≠ 2)
    (.notSupported podRPFilterField (some (.int f)) ["0", "1", "2"])

def validateCoordinatorSpec (env : ParseEnv) (spec : CoordinatorSpec) (requireOptionalType : Bool) :
    Check := do
  failIf (requireOptionalType ∧ spec.podCIDRType = none)
    (.notSupported podCIDRTypeField (some (.text "")) supportedPodCIDRType)
  ifSome spec.podCIDRType validateCoordinatorPodCIDRType
  validateCoordinatorExtraCIDR env spec.hijackCIDR
  validateCoordinatorPolicyRoutes env spec.policyRoutes
  validateCoordinatorPodMACPrefix spec.podMACPrefix
  ifSome spec.txQueueLen fun n =>
    failIf (n < 0) (.invalid txQueueLenField (.int n) "txQueueLen can't be less than 0")
  failIf (requireOptionalType ∧ spec.podRPFilter = none)
    (.notSupported podRPFilterField none ["0", "1", "2"])
  ifSome spec.podRPFilter validateCoordinatorPodRPFilter
  ifSome spec.vethLinkAddress fun address =>
    if address = "" then .ok ()
    else do
      let _ ← mapErr
        (fun _ => .invalid vethLinkAddressField (.text address) "vethLinkAddress is an invalid IP address")
        (env.parseAddr address)
  ifSome spec.vethMTU fun n =>
    failIf (n ≤ 0) (.invalid vethMTUField (.int n) "vethMTU must be greater than 0")

/-! ### The checks return -/

/-- The parsers of `netip` return, with a value or with an error. -/
structure Parses (env : ParseEnv) : Prop where
  addr : ∀ s, Returns (env.parseAddr s)
  pre : ∀ s, Returns (env.parsePrefix s)

variable {env : ParseEnv}

theorem Parses.ipOrCIDR (henv : Parses env) (s : String) : Returns (parseIPOrCIDR env s) := by
  unfold parseIPOrCIDR
  split_ifs
  · exact henv.pre s
  · exact (henv.addr s).seq fun _ _ => returns_ok _

theorem validateCoordinatorExtraCIDR_returns (henv : Parses env) (cidrs : List String) :
    Returns (validateCoordinatorExtraCIDR env cidrs) :=
  returns_forM_iff.2 fun _ cidr _ _ _ =>
    ((henv.ipOrCIDR cidr.1).mapErr _).seq fun _ _ => returns_ok ()

theorem validateCoordinatorPolicyRoutes_returns (henv : Parses env) (routes : List Route) :
    Returns (validateCoordinatorPolicyRoutes env routes) := by
  refine returns_forM_iff.2 fun _ route _ _ _ => ?_
  refine ((henv.ipOrCIDR route.1.dst).mapErr _).seq fun _ _ => ?_
  exact ((henv.addr route.1.gw).mapErr _).seq fun _ _ => returns_failIf _ _

theorem validateCoordinatorPodMACPrefix_returns (macPrefix : Option String) :
    Returns (validateCoordinatorPodMACPrefix macPrefix) := by
  have hbit : ∀ fb, Returns (deref ((formatBinary fb)[7]?) : Result (ConfigError BadValue) Char) := by
    intro fb
    rw [returns_deref_iff, List.getElem?_eq_getElem (eight_le_length_formatBinary fb)]
    rfl
  unfold validateCoordinatorPodMACPrefix
  split
  · exact returns_ok ()
  · split_ifs
    · exact returns_ok ()
    · split
      · split_ifs
        · exact returns_fail _
        · split
          · exact (hbit _).seq fun _ _ => returns_failIf _ _
          · exact returns_fail _
      · exact returns_fail _

/-- **The checks of a coordinator's configuration return.** -/
theorem validateCoordinatorSpec_returns (henv : Parses env) (spec : CoordinatorSpec)
    (requireOptionalType : Bool) :
    Returns (validateCoordinatorSpec env spec requireOptionalType) := by
  unfold validateCoordinatorSpec
  refine (returns_failIf _ _).seq fun _ _ => ?_
  refine (returns_ifSome fun _ _ => returns_failIf _ _).seq fun _ _ => ?_
  refine (validateCoordinatorExtraCIDR_returns henv _).seq fun _ _ => ?_
  refine (validateCoordinatorPolicyRoutes_returns henv _).seq fun _ _ => ?_
  refine (validateCoordinatorPodMACPrefix_returns _).seq fun _ _ => ?_
  refine (returns_ifSome fun _ _ => returns_failIf _ _).seq fun _ _ => ?_
  refine (returns_failIf _ _).seq fun _ _ => ?_
  refine (returns_ifSome fun _ _ => returns_failIf _ _).seq fun _ _ => ?_
  refine Returns.seq (returns_ifSome fun address _ => ?_) fun _ _ =>
    returns_ifSome fun _ _ => returns_failIf _ _
  split_ifs
  · exact returns_ok ()
  · exact ((henv.addr address).mapErr _).seq fun _ _ => returns_ok ()

end CoordinatorManager
end Spiderpool
