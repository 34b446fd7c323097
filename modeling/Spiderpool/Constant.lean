/-
# Constants and errors

`pkg/constant`, `pkg/ip/errors.go` and the errors of `pkg/limiter`. An error
value is its text and the sentinels `errors.Is` finds in its chain; `fmt.Errorf`
with `%w` keeps the sentinels of what it wraps.
-/

import Spiderpool.Base.Go

namespace Spiderpool

inductive Sentinel where
  | errInvalidIPVersion
  | errInvalidIPRangeFormat
  | errInvalidIPFormat
  | errInvalidCIDRFormat
  | errInvalidIP
  | errWrongInput
  | errNoAvailablePool
  | errIPUsedOut
  | errIPConflict
  | errGatewayUnreachable
  | errForbidReleasingStatefulWorkload
  | errForbidReleasingStatelessWorkload
  | errUnknown
  | errFreeIPsNotEnough
  | errStartLimiteRrepeatedly
  | errShutdownQueue
  | errFullQueue
deriving DecidableEq, Repr

/-- `Error()` of a sentinel. -/
def Sentinel.text : Sentinel → String
  | errInvalidIPVersion => "invalid IP version"
  | errInvalidIPRangeFormat => "invalid IP range format"
  | errInvalidIPFormat => "invalid IP format"
  | errInvalidCIDRFormat => "invalid CIDR format"
  | errInvalidIP => "invalid IP"
  | errWrongInput => "wrong input"
  | errNoAvailablePool => "no IPPool available"
  | errIPUsedOut => "all IP addresses used out"
  | errIPConflict => "ip conflict"
  | errGatewayUnreachable => "unreachable"
  | errForbidReleasingStatefulWorkload => "forbid releasing IPs for stateful workload "
  | errForbidReleasingStatelessWorkload => "forbid releasing IPs for stateless workload"
  | errUnknown => "unknown"
  | errFreeIPsNotEnough => "IPPool available free IPs are not enough"
  | errStartLimiteRrepeatedly => "start the limiter repeatedly"
  | errShutdownQueue => "queue shutdown"
  | errFullQueue => "queue is full"

structure Err where
  sentinels : List Sentinel
  text : String
deriving DecidableEq, Repr

namespace Err

def of (s : Sentinel) : Err := ⟨[s], s.text⟩

/-- `errors.New` and `fmt.Errorf` without `%w`. -/
def new (text : String) : Err := ⟨[], text⟩

/-- `fmt.Errorf("pre%wpost", e)`. -/
def wrap (pre : String) (e : Err) (post : String) : Err := ⟨e.sentinels, pre ++ e.text ++ post⟩

/-- `utilerrors.NewAggregate`: the texts once each, in brackets if there are several. -/
def aggregate (es : List Err) : Err where
  sentinels := es.flatMap sentinels
  text :=
    match (es.map text).eraseDups with
    | [t] => t
    | [] => ""
    | ts => "[" ++ ", ".intercalate ts ++ "]"

/-- `fmt.Errorf("%w: text%w", constant.ErrWrongInput, e)`. -/
def wrongInput (text : String) (e : Err) : Err :=
  ⟨.errWrongInput :: e.sentinels, Sentinel.errWrongInput.text ++ ": " ++ text ++ e.text⟩

end Err

abbrev IPVersion := ℤ

namespace Constant

def ipv4 : IPVersion := 4
def ipv6 : IPVersion := 6

def annotationPre := "ipam.spidernet.io"
def labelIPPoolOwnerSpiderSubnet := annotationPre ++ "/owner-spider-subnet"
def labelIPPoolReclaimIPPool := annotationPre ++ "/ippool-reclaim"
def labelIPPoolOwnerApplicationGV := annotationPre ++ "/owner-application-gv"
def labelIPPoolOwnerApplicationKind := annotationPre ++ "/owner-application-kind"
def labelIPPoolOwnerApplicationNamespace := annotationPre ++ "/owner-application-namespace"
def labelIPPoolOwnerApplicationName := annotationPre ++ "/owner-application-name"
def labelIPPoolOwnerApplicationUID := annotationPre ++ "/owner-application-uid"
def labelIPPoolInterface := annotationPre ++ "/interface"
def labelIPPoolIPVersion := annotationPre ++ "/ip-version"
def labelValueIPVersionV4 := "IPv4"
def labelValueIPVersionV6 := "IPv6"
def labelIPPoolCIDR := annotationPre ++ "/ippool-cidr"

def autoPoolPodAffinityAppAPIGroup := annotationPre ++ "/app-api-group"
def autoPoolPodAffinityAppAPIVersion := annotationPre ++ "/app-api-version"
def autoPoolPodAffinityAppKind := annotationPre ++ "/app-kind"
def autoPoolPodAffinityAppNS := annotationPre ++ "/app-namespace"
def autoPoolPodAffinityAppName := annotationPre ++ "/app-name"

def spiderpoolAPIGroup := "spiderpool.spidernet.io"
def spiderFinalizer := spiderpoolAPIGroup

end Constant

end Spiderpool
