/-
# Ranges of addresses

`pkg/ip/iprange.go` and the set operations of `pkg/ip/ip.go` and `pkg/ip/utils.go`.
A range is a text, `a` or `a-b`, and `ParseIPRange` lists its addresses with
`NextIP`. Three things happen to that loop. The capacity it asks for is the
low 64 bits of the length, and a capacity beyond the address space panics. Where
`NextIP` is nil, the loop goes on for ever, because nil counts as `0`. Inside `::/96`
it lists IPv4 addresses in place of IPv6 ones.
-/

import Spiderpool.IP.CIDR

namespace Spiderpool

def isIPv4 (s : String) : Bool := (parseIP s).isSome && decide ('.' ∈ s.toList)

def isIPv6 (s : String) : Bool := (parseIP s).isSome && decide (':' ∈ s.toList)

def isIP (version : IPVersion) (s : String) : Result Err Unit := do
  isIPVersion version
  failIf (version = Constant.ipv4 ∧ ¬isIPv4 s ∨ version = Constant.ipv6 ∧ ¬isIPv6 s)
    (.wrap "" (.of .errInvalidIPFormat) (" in IPv" ++ toString version ++ " '" ++ s ++ "'"))

/-- The common body of `IsIPv4IPRange` and `IsIPv6IPRange`. -/
def isRangeOf (isAddr : String → Bool) (ipRange : String) : Bool :=
  match split ipRange '-' with
  | [s] => isAddr s
  | [s, e] =>
    isAddr s && isAddr e && !decide (IP.ipToInt (parseIP e) < IP.ipToInt (parseIP s))
  | _ => false

def isIPv4IPRange : String → Bool := isRangeOf isIPv4

def isIPv6IPRange : String → Bool := isRangeOf isIPv6

def isIPRange (version : IPVersion) (ipRange : String) : Result Err Unit := do
  isIPVersion version
  failIf (version = Constant.ipv4 ∧ ¬isIPv4IPRange ipRange ∨
      version = Constant.ipv6 ∧ ¬isIPv6IPRange ipRange)
    (.wrap "" (.of .errInvalidIPRangeFormat)
      (" in IPv" ++ toString version ++ " '" ++ ipRange ++ "'"))

/-- The ends of a range as `FindAvailableIPs` reads them: the second of two parts,
and otherwise the first, is the end. -/
def rangeEnds (ipRange : String) : IP × IP :=
  match split ipRange '-' with
  | [s, e] => (parseIP s, parseIP e)
  | ips => (parseIP (ips.headD ""), parseIP (ips.headD ""))

theorem rangeEnds_one {r s : String} (h : split r '-' = [s]) : rangeEnds r = (parseIP s, parseIP s) := by
  simp [rangeEnds, h]

theorem rangeEnds_two {r s e : String} (h : split r '-' = [s, e]) :
    rangeEnds r = (parseIP s, parseIP e) := by
  simp [rangeEnds, h]

/-- The loop of `ParseIPRange`, with fuel. -/
def rangeLoop : ℕ → IP → IP → List Addr → Result Err (List Addr)
  | 0, _, _, _ => .error .hang
  | n + 1, cur, last, ips =>
    if IP.ipToInt cur ≤ IP.ipToInt last then
      rangeLoop n (IP.nextIP cur) last (ips ++ cur.toList)
    else .ok ips

/-- `make([]net.IP, 0, length.Int64())` panics: 24 bytes for each of as many
addresses as the low 64 bits of the length say do not fit into the 48 bits of the
address space. A length of `2 ^ 63` or more there is a negative capacity. -/
def capPanics (length : ℕ) : Prop := 2 ^ 48 < 24 * (length % 2 ^ 64)

instance (length : ℕ) : Decidable (capPanics length) := inferInstanceAs (Decidable (_ < _))

def parseIPRange (version : IPVersion) (ipRange : String) : Result Err (List Addr) := do
  isIPRange version ipRange
  match split ipRange '-' with
  | [s] => .ok (parseIP s).toList
  | s :: e :: _ =>
    if capPanics (IP.ipToInt (parseIP e) - IP.ipToInt (parseIP s)) then .error .panic
    else
      -- enough turns to count from the start past the end
      rangeLoop (IP.ipToInt (parseIP e) + 2 - IP.ipToInt (parseIP s)) (parseIP s) (parseIP e) []
  | [] => .ok []

def parseIPRanges (version : IPVersion) : List String → Result Err (List Addr)
  | [] => .ok []
  | r :: rs => do
    let ips ← parseIPRange version r
    let sum ← parseIPRanges version rs
    return ips ++ sum

def rangeText (s e : Addr) : String :=
  if s = e then s.string else s.string ++ String.ofList ['-'] ++ e.string

/-- The last loop of `ConvertIPsToIPRanges`: the range from `s` to `e` is open. -/
def mergeLoop (s e : Addr) : List Addr → List String
  | [] => [rangeText s e]
  | x :: xs =>
    if IP.nextIP (some e) = some x then mergeLoop s x xs else rangeText s e :: mergeLoop x x xs

/-- `ConvertIPsToIPRanges`. The addresses go through a set of texts. -/
def convertIPsToIPRanges (version : IPVersion) (ips : List Addr) : Result Err (List String) := do
  isIPVersion version
  match ips.find? fun ip => version = Constant.ipv4 ∧ ¬ip.is4 ∨ version = Constant.ipv6 ∧ ip.is4 with
  | some ip =>
    fail (.wrap "" (.of .errInvalidIP) ("v" ++ toString version ++ " IP '" ++ ip.string ++ "'"))
  | none =>
    let set := (ips.map Addr.string).dedup
    match (set.filterMap parseIP).insertionSort (· ≤ ·) with
    | [] => .ok []
    | x :: xs => .ok (mergeLoop x x xs)

def mergeIPRanges (version : IPVersion) (ipRanges : List String) : Result Err (List String) := do
  let ips ← parseIPRanges version ipRanges
  convertIPsToIPRanges version ips

def ipRangeContainsIP (version : IPVersion) (ipRange ip : String) : Result Err Bool := do
  isIPRange version ipRange
  isIP version ip
  match split ipRange '-' with
  | [_] => .ok (ipRange == ip)
  | [s, e] =>
    .ok (!(decide (IP.ipToInt (parseIP ip) < IP.ipToInt (parseIP s)) ||
      decide (IP.ipToInt (parseIP e) < IP.ipToInt (parseIP ip))))
  | _ => .ok true

def parseIPOf (version : IPVersion) (s : String) (asCIDR : Bool) : Result Err IPNet :=
  if asCIDR then do
    isCIDR version s
    let (ip, ipNet) ← deref (netParseCIDR s)
    return { ipNet with ip := some ip }
  else do
    isIP version s
    if version = Constant.ipv4 then return ⟨parseIP s, 32, 32⟩ else return ⟨parseIP s, 128, 128⟩

def containsIP (version : IPVersion) (subnet ip : String) : Result Err Bool := do
  let ipNet ← parseCIDR version subnet
  let address ← parseIPOf version ip false
  return address.ip.any ipNet.contains

/-- `IPsDiffSet`, unsorted. -/
def ipsDiffSet (ipSourceList ipExcludeList : List Addr) : List Addr :=
  ipSourceList.filter (· ∉ ipExcludeList)

/-- `IPsDiffSet`, sorted. -/
def ipsDiffSetSorted (ipSourceList ipExcludeList : List Addr) : List Addr :=
  (ipsDiffSet ipSourceList ipExcludeList).insertionSort (· ≤ ·)

def isDiffIPSet (ipSourceList ipExcludeList : List Addr) : Bool :=
  ipSourceList.any (· ∉ ipExcludeList)

def assembleTotalIPs (ipVersion : IPVersion) (ipRanges excludedIPRanges : List String) :
    Result Err (List Addr) := do
  let ips ← parseIPRanges ipVersion ipRanges
  let excludeIPs ← parseIPRanges ipVersion excludedIPRanges
  return ipsDiffSet ips excludeIPs

end Spiderpool
