/-
# Moving the routes of an interface to another table

`MoveRouteTable` of `pkg/networking/networking/route.go`, as a sequence of updates of the routing
tables. The kernel answers as it likes; a route that it removes fits the
request (`Kernel.Sound`). Every update is written down in a log.

The loop goes over the routes that were listed before the first update. It takes a route for a
default route if the address of its destination is zero, whatever the mask, and removes it from
the table it stands in: a route to `0.0.0.0/1` is moved like one to `0.0.0.0/0`. Of a multipath
route it does not look at the destination at all, and asks for a default route to be added and
removed.
-/

import Spiderpool.Base.Effect
import Spiderpool.IP.CIDR

namespace Spiderpool
namespace Networking

/-! ### Routes -/

structure NexthopInfo where
  linkIndex : ℕ
  gw : IP
deriving DecidableEq

/-- The fields of `netlink.Route` that are read or set. The index 0 is that of no link. -/
structure Route where
  dst : Option IPNet
  src : IP := none
  gw : IP := none
  linkIndex : ℕ := 0
  scope : ℕ := 0
  table : ℕ
  mtu : ℕ := 0
  multiPath : List NexthopInfo := []
deriving DecidableEq

def defaultV4 : IPNet := ⟨some (Addr.ofV4 0), 0, 32⟩

def defaultV6 : IPNet := ⟨some 0, 0, 128⟩

def defaultOf (a : Addr) : IPNet := if a.is4 then defaultV4 else defaultV6

namespace Route

/-- The destination that the kernel reads from a request or lists for a route: without an address
it is the default one of the family of the gateway or of the source. -/
def destination (r : Route) : Option IPNet :=
  (r.dst.filter (·.ip.isSome)).or ((r.gw.or r.src).map defaultOf)

def IsDefault (r : Route) : Prop := ∀ n ∈ r.destination, n = defaultV4 ∨ n = defaultV6

/-- The next hops of a route: its link, which is none for a multipath route, and those of the
paths. -/
def hops (r : Route) : List NexthopInfo := ⟨r.linkIndex, r.gw⟩ :: r.multiPath

/-- The test of `moveRouteTable` for a default route. -/
def ZeroDst (r : Route) : Prop :=
  r.dst = none ∨ ∃ n ∈ r.dst, n.ip = some (Addr.ofV4 0) ∨ n.ip = some 0

instance (r : Route) : Decidable r.ZeroDst := inferInstanceAs (Decidable (_ ∨ _))

end Route

/-! ### The kernel -/

inductive RouteErr where
  /-- `os.IsExist`. -/
  | exist
  | other (e : Err)

inductive Update where
  | added (r : Route)
  | removed (r : Route)
deriving DecidableEq

structure Tables where
  routes : List Route
  log : List Update := []

/-- What the kernel answers to requests, and the texts of routes. -/
structure Kernel where
  /-- `LinkByName`: the index of the interface. -/
  linkByName : Result Err ℕ
  /-- The dump of the routes, as far as it fails. -/
  dump : Result Err Unit
  /-- A route is added unless this is an error. -/
  add : List Route → Route → Option RouteErr
  /-- The route that is removed, and what is left of it if only one of its hops is. -/
  del : List Route → Route → Result Err (Route × Option Route)
  /-- `Route.String`. -/
  text : Route → String

/-- A route that is removed, or loses a hop, fits the request: the table, the destination, the
interface, and the gateway if one is given. -/
structure Kernel.Sound (k : Kernel) : Prop where
  mem : ∀ {rs r x rest}, k.del rs r = .ok (x, rest) → x ∈ rs
  table : ∀ {rs r x rest}, k.del rs r = .ok (x, rest) → x.table = r.table
  destination : ∀ {rs r x rest}, k.del rs r = .ok (x, rest) → x.destination = r.destination
  hop : ∀ {rs r x rest}, k.del rs r = .ok (x, rest) →
    ∃ h ∈ x.hops, h.linkIndex = r.linkIndex ∧ (r.gw.isSome → h.gw = r.gw)
  rest : ∀ {rs r x rest}, k.del rs r = .ok (x, rest) →
    ∀ y ∈ rest, y.table = x.table ∧ y.destination = x.destination ∧ y.hops ⊆ x.hops

/-- `netlink.FAMILY_V4`, `FAMILY_V6` and `FAMILY_ALL`. -/
inductive Family where
  | v4
  | v6
  | all
deriving DecidableEq

def Family.has : Family → IPNet → Bool
  | .v4, n => n.bits == 32
  | .v6, n => n.bits == 128
  | .all, _ => true

/-- The state after a request that adds a route or finds it there. -/
def Adds (r : Route) (s s' : Tables) : Prop :=
  s' = s ∨ s' = ⟨{ r with dst := r.destination } :: s.routes, s.log ++ [.added r]⟩

section Move

variable {k : Kernel} {i src dst : ℕ} {route : Route} {s s' : Tables}

def asked (i table : ℕ) (route : Route) : Route where
  dst := route.dst
  gw := route.gw
  linkIndex := i
  scope := route.scope
  table := table

/-- The routes of the table `src` are those from before, or what is left of them. -/
def Derived (before : List Route) (src : ℕ) (s : Tables) : Prop :=
  ∀ y ∈ s.routes, y.table = src →
    ∃ x ∈ before, x.table = src ∧ x.destination = y.destination ∧ y.hops ⊆ x.hops

variable {before : List Route}

theorem Derived.adds (h : Derived before src s) {r : Route} (ha : Adds r s s')
    (hr : r.table ≠ src) : Derived before src s' := by
  rcases ha with rfl | rfl
  · exact h
  · intro y hy hsrc
    rcases List.mem_cons.1 hy with rfl | hy
    · exact absurd hsrc hr
    · exact h y hy hsrc

/-- A route of the interface that looks like a default route is one. -/
def Route.Plain (i : ℕ) (x : Route) : Prop := x.linkIndex = i → x.ZeroDst → x.IsDefault

end Move

end Networking

namespace Sample

open Networking

def kernel : Kernel where
  linkByName := .ok 3
  dump := .ok ()
  add _ _ := none
  del rs r :=
    match rs.find? fun x => x.table = r.table ∧ x.destination = r.destination ∧
        ∃ h ∈ x.hops, h.linkIndex = r.linkIndex ∧ (r.gw.isSome → h.gw = r.gw) with
    | none => fail (.new "no such process")
    | some x => .ok (x, none)
  text _ := ""

end Sample

end Spiderpool
