/-
# The ranges of a subnet

`pkg/ip/subnet.go`: `NewCIDR` reads the ranges of a pool as intervals of numbers
inside its subnet, takes the excluded ones away, and `IsOverlapIPRanges` compares
the intervals of two pools. A range in the wrong order is turned around when it is
included (`addIncludeRange`) and excludes nothing when it is excluded.
-/

import Spiderpool.IP.Range

namespace Spiderpool

/-- `Range`: an interval and the text it comes from. -/
structure Range where
  raw : String
  start : ℕ
  stop : ℕ
deriving DecidableEq

namespace Range

/-- The number `x` lies in the interval. -/
def Has (r : Range) (x : ℕ) : Prop := r.start ≤ x ∧ x ≤ r.stop

/-- The four comparisons of `IsOverlapIPRanges`. -/
def overlaps (x y : Range) : Bool :=
  decide (y.start ≤ x.start ∧ x.start ≤ y.stop) || decide (y.start ≤ x.stop ∧ x.stop ≤ y.stop) ||
    decide (x.start ≤ y.start ∧ y.start ≤ x.stop) || decide (x.start ≤ y.stop ∧ y.stop ≤ x.stop)

/-- One range of the loop in `removeExcludeIPRange`, without `[x, y]`. -/
def remove (e : Range) (x y : ℕ) : List Range :=
  if y < e.start ∨ e.stop < x then [e]
  else
    (if e.start < x then [⟨e.raw, e.start, x - 1⟩] else []) ++
      (if y < e.stop then [⟨e.raw, y + 1, e.stop⟩] else [])

end Range

/-- `CIDR` without the map of used addresses, which nothing fills. -/
structure CIDR where
  base : IPNet
  isIPv4 : Bool
  ranges : List Range

namespace CIDR

def convertIPtoBigInt (c : CIDR) (value : String) : Result Err ℕ :=
  match parseIP value with
  | none => fail (.new ("invalid IP address: " ++ value))
  | some ip =>
    if c.base.contains ip then
      if c.isIPv4 then
        if ip.is4 then .ok ip.low32
        else fail (.new ("not match base subnet IPv4 version: " ++ value))
      else .ok ip.val
    else fail (.new ("not match base subnet: " ++ value))

def parse (c : CIDR) (value : String) : Result Err (ℕ × ℕ) :=
  match split value '-' with
  | [_] =>
    if '/' ∈ value.toList then fail (.new ("invalid range: " ++ value))
    else do
      let res ← c.convertIPtoBigInt value
      return (res, res)
  | [s, e] => do
    let start ← c.convertIPtoBigInt s
    let stop ← c.convertIPtoBigInt e
    return (start, stop)
  | _ => fail (.new ("invalid range: " ++ value))

/-- The loop of `addIncludeRange`: the comparisons of `a` with the ranges so far. -/
def checkInclude (a : Range) : List Range → Result Err Unit
  | [] => .ok ()
  | b :: bs => do
    failIf (b.start ≤ a.start ∧ a.stop ≤ b.stop)
      (.new ("range " ++ a.raw ++ " is already covered by " ++ b.raw))
    failIf (a.start ≤ b.start ∧ b.stop ≤ a.stop) (.new ("range " ++ a.raw ++ " covers " ++ b.raw))
    failIf (b.start ≤ a.start ∧ a.start ≤ b.stop)
      (.new ("range " ++ a.raw ++ " overlaps with " ++ b.raw))
    failIf (b.start ≤ a.stop ∧ a.stop ≤ b.stop)
      (.new ("range " ++ a.raw ++ " overlaps with " ++ b.raw))
    checkInclude a bs

def addIncludeRange (c : CIDR) (r : Range) : Result Err CIDR := do
  let a : Range := if r.stop < r.start then ⟨r.raw, r.stop, r.start⟩ else r
  checkInclude a c.ranges
  return { c with ranges := c.ranges ++ [a] }

/-- The first loop of `NewCIDR`. -/
def addIncludeRanges (c : CIDR) : List String → Result Err CIDR
  | [] => .ok c
  | item :: items => do
    let p ← c.parse item
    let c ← c.addIncludeRange ⟨item, p.1, p.2⟩
    addIncludeRanges c items

/-- The second loop of `NewCIDR`. -/
def excludeRanges (c : CIDR) : List String → Result Err (List Range)
  | [] => .ok []
  | item :: items => do
    let p ← c.parse item
    let rs ← excludeRanges c items
    return ⟨item, p.1, p.2⟩ :: rs

def totalIPInt (c : CIDR) : ℤ :=
  min (c.ranges.map fun r => 1 + ((r.stop : ℤ) - r.start)).sum (2 ^ 63 - 1)

/-- `IsOverlapIPRanges`: the texts of the ranges that overlap. -/
def isOverlapIPRanges (c : CIDR) (r : List Range) : List String :=
  c.ranges.flatMap fun x => (r.filter x.overlaps).map Range.raw

end CIDR

def removeExcludeIPRange (base exclude : List Range) : List Range :=
  exclude.foldl (fun result e => result.flatMap fun r => r.remove e.start e.stop) base

def newCIDR (base : String) (ranges exclude : List String) : Result Err CIDR :=
  match netParseCIDR base with
  | none => fail (netParseError base)
  | some (_, ipNet) => do
    let subnet ← CIDR.addIncludeRanges ⟨ipNet, ipNet.ip.any Addr.is4, []⟩ ranges
    let excluded ← subnet.excludeRanges exclude
    return { subnet with ranges := removeExcludeIPRange subnet.ranges excluded }

end Spiderpool
