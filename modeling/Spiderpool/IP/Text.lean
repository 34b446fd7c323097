/-
# Addresses as text

`net.ParseIP` and `IP.String` of Go 1.25, which are `netip.ParseAddr` and
`netip.Addr.String` underneath. The parser is written after theirs, loop for
loop: `parseIPv4Fields` goes through the characters with the value and the
length of the current octet, `parseIPv6` through colon-separated groups, of
which the last two may be a dotted quad, and remembers where it met the `::`.
An address with a zone is rejected by both users of the parser, `net.ParseIP`
and `net.ParseCIDR`, and is not an address here.
-/

import Spiderpool.Base.Digits
import Spiderpool.IP.Addr

namespace Spiderpool
namespace Text

def hexVal (c : Char) : Option ℕ :=
  if '0' ≤ c ∧ c ≤ '9' then some (c.toNat - 48)
  else if 'a' ≤ c ∧ c ≤ 'f' then some (c.toNat - 87)
  else if 'A' ≤ c ∧ c ≤ 'F' then some (c.toNat - 55)
  else none

def decVal (c : Char) : Option ℕ := if '0' ≤ c ∧ c ≤ '9' then some (c.toNat - 48) else none

/-- The loop of `parseIPv4Fields`: the characters left, the value and the
length of the current octet, the octets before it. -/
def parseIPv4Fields : List Char → ℕ → ℕ → List ℕ → Option (List ℕ)
  | [], val, _, fields => if fields.length < 3 then none else some (fields ++ [val])
  | c :: s, val, digLen, fields =>
    match decVal c with
    | some d =>
      if digLen = 1 ∧ val = 0 then none
      else if 255 < val * 10 + d then none
      else parseIPv4Fields s (val * 10 + d) (digLen + 1) fields
    | none =>
      if c = '.' then
        if digLen = 0 ∨ s = [] then none
        else if fields.length = 3 then none
        else parseIPv4Fields s 0 0 (fields ++ [val])
      else none

/-- The hexadecimal digits at the front of a text: their value, their number
and the text after them. -/
def scanHex : List Char → ℕ → ℕ → ℕ × ℕ × List Char
  | [], acc, off => (acc, off, [])
  | c :: s, acc, off =>
    match hexVal c with
    | some d => scanHex s (acc * 16 + d) (off + 1)
    | none => (acc, off, c :: s)

/-- The loop of `parseIPv6`: how many groups there is still room for, the
characters left, the groups read and how many of them precede the `::`. It
ends with the groups, the place of the `::` and the characters it left. -/
def parseGroups : ℕ → List Char → List ℕ → Option ℕ → Option (List ℕ × Option ℕ × List Char)
  | 0, s, gs, e => some (gs, e, s)
  | n + 1, s, gs, e =>
    match scanHex s 0 0 with
    | (acc, off, rest) =>
      if off = 0 ∨ 4 < off then none
      else if rest.head? = some '.' then
        -- a dotted quad takes the place of the last two groups
        if e = none ∧ n + 1 ≠ 2 then none
        else if n + 1 < 2 then none
        else (parseIPv4Fields s 0 0 []).map fun f =>
          (gs ++ toDigits 65536 2 (fromDigits 256 f), e, [])
      else
        match rest with
        | [] => some (gs ++ [acc], e, [])
        | c :: rest =>
          if c ≠ ':' ∨ rest = [] then none
          else if rest.head? = some ':' then
            if e.isSome then none
            else if rest.tail = [] then some (gs ++ [acc], some (gs ++ [acc]).length, [])
            else parseGroups n rest.tail (gs ++ [acc]) (some (gs ++ [acc]).length)
          else parseGroups n rest (gs ++ [acc]) e

/-- The end of `parseIPv6`: the groups that the `::` stands for. -/
def expand (gs : List ℕ) : Option ℕ → Option (List ℕ)
  | none => if gs.length < 8 then none else some gs
  | some k =>
    if gs.length < 8 then some (gs.take k ++ List.replicate (8 - gs.length) 0 ++ gs.drop k)
    else none

/-- The beginning of `parseIPv6`: a `::` that leads the text, then its loop. -/
def parseBody (s : List Char) : Option (List ℕ × Option ℕ × List Char) :=
  if s.take 2 = [':', ':'] then
    if s.drop 2 = [] then some ([], some 0, []) else parseGroups 8 (s.drop 2) [] (some 0)
  else parseGroups 8 s [] none

/-- `parseIPv6` without zones. -/
def parseIPv6 (s : List Char) : Option Addr :=
  if '%' ∈ s then none
  else (parseBody s).bind fun (gs, e, rest) =>
    if rest = [] then (expand gs e).map fun gs => Addr.ofNat (fromDigits 65536 gs) else none

/-- The `netip.Addr` of a text: its bytes, and whether it was written in the
IPv4 form. -/
structure Parsed where
  addr : Addr
  v4 : Bool
deriving DecidableEq

def Parsed.bitLen (p : Parsed) : ℕ := if p.v4 then 32 else 128

/-- `netip.ParseAddr`: the first `.`, `:` or `%` decides the form. -/
def parseAddr (s : List Char) : Option Parsed :=
  match s.find? fun c => c = '.' ∨ c = ':' ∨ c = '%' with
  | some c =>
    if c = '.' then
      (parseIPv4Fields s 0 0 []).map fun f => ⟨Addr.ofV4 (fromDigits 256 f), true⟩
    else if c = ':' then (parseIPv6 s).map fun a => ⟨a, false⟩
    else none
  | none => none

def digit (d : ℕ) : Char := Char.ofNat (if d < 10 then 48 + d else 87 + d)

def appendDecimal (x : ℕ) : List Char :=
  (if 100 ≤ x then [digit (x / 100)] else []) ++ (if 10 ≤ x then [digit (x / 10 % 10)] else []) ++
    [digit (x % 10)]

def appendHex (x : ℕ) : List Char :=
  (if 0x1000 ≤ x then [digit (x / 0x1000)] else []) ++
    (if 0x100 ≤ x then [digit (x / 0x100 % 16)] else []) ++
    (if 0x10 ≤ x then [digit (x / 0x10 % 16)] else []) ++ [digit (x % 16)]

def joinWith (sep : Char) : List (List Char) → List Char
  | [] => []
  | [t] => t
  | t :: ts => t ++ sep :: joinWith sep ts

def zeros : List ℕ → ℕ
  | 0 :: gs => zeros gs + 1
  | _ => 0

/-- The first loop of `appendTo6`: the start and the length of the first
longest run of two or more zero groups; length `0` if there is none. -/
def zeroRun : List ℕ → ℕ → ℕ × ℕ → ℕ × ℕ
  | [], _, best => best
  | g :: gs, i, best =>
    zeroRun gs (i + 1) (if 2 ≤ zeros (g :: gs) ∧ best.2 < zeros (g :: gs) then (i, zeros (g :: gs))
      else best)

/-- `appendTo6` from the eight groups. -/
def text6 (gs : List ℕ) : List Char :=
  match zeroRun gs 0 (0, 0) with
  | (_, 0) => joinWith ':' (gs.map appendHex)
  | (i, l) =>
    joinWith ':' ((gs.take i).map appendHex) ++ ':' :: ':' ::
      joinWith ':' ((gs.drop (i + l)).map appendHex)

/-- The characters of `IP.String`. -/
def ofAddr (a : Addr) : List Char :=
  if a.is4 then joinWith '.' ((toDigits 256 4 a.low32).map appendDecimal)
  else text6 (toDigits 65536 8 a.val)

end Text

def parseIP (s : String) : IP := (Text.parseAddr s.toList).map Text.Parsed.addr

/-- `IP.String` of an address that is not nil. -/
def Addr.string (a : Addr) : String := String.ofList (Text.ofAddr a)

end Spiderpool
