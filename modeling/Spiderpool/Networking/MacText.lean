/-
# The text of a hardware address

What `OverwriteHwAddress` builds a hardware address from: the text of the last four bytes of an
address (`inetAton`, `convertHex2Mac`), and `net.ParseMAC`, which reads the text back.

`inetAton` writes the hexadecimal text of a `big.Int`, which has no leading zero bytes, into a
buffer that is four times too long, and cuts the text of an IPv6 address at a fixed place. So the
text is that of the last four bytes exactly if the first byte of the address is not zero
(`inetAton_pairs`).
-/

import Spiderpool.Base.Effect
import Spiderpool.Coordinator.Validate

namespace Spiderpool
namespace Networking

open CoordinatorManager (hexDigit)
open Text (joinWith digit)

/-! ### `net.ParseMAC` -/

/-- `xtoi2`: the byte of two hexadecimal digits. -/
def hexByte (p : Char × Char) : Option ℕ := do
  let high ← hexDigit p.1
  let low ← hexDigit p.2
  return 16 * high + low

def colonBytes (sep : Char) : List Char → Option (List ℕ)
  | [x, y] => (hexByte (x, y)).map ([·])
  | x :: y :: z :: rest =>
    if z = sep then do
      let byte ← hexByte (x, y)
      let bytes ← colonBytes sep rest
      return byte :: bytes
    else none
  | _ => none

def dotBytes : List Char → Option (List ℕ)
  | [x, y, z, w] => do
    let first ← hexByte (x, y)
    let second ← hexByte (z, w)
    return [first, second]
  | x :: y :: z :: w :: dot :: rest =>
    if dot = '.' then do
      let first ← hexByte (x, y)
      let second ← hexByte (z, w)
      let bytes ← dotBytes rest
      return first :: second :: bytes
    else none
  | _ => none

/-- `net.ParseMAC`, without the text of its error. -/
def parseMAC (s : String) : Option (List ℕ) :=
  let cs := s.toList
  if cs.length < 14 then none
  else if cs[2]? = some ':' ∨ cs[2]? = some '-' then
    if (cs.length + 1) % 3 ≠ 0 ∨ (cs.length + 1) / 3 ∉ [6, 8, 20] then none
    else colonBytes (cs.getD 2 ':') cs
  else if cs[4]? = some '.' then
    if (cs.length + 1) % 5 ≠ 0 ∨ 2 * (cs.length + 1) / 5 ∉ [6, 8, 20] then none
    else dotBytes cs
  else none

/-! ### The source -/

/-- `big.Int.Bytes`: the bytes of a number, without leading zero bytes. -/
def bigBytes (n : ℕ) : List ℕ := (Nat.digits 256 n).reverse

def hexText (bytes : List ℕ) : List Char := bytes.flatMap fun b => [digit (b / 16), digit (b % 16)]

def buffer (size : ℕ) (text : List Char) : List Char :=
  text ++ List.replicate (size - text.length) '\x00'

/-- `FindAll` of `.{2}`, at most `n` times: a dot matches anything but the end of a line. -/
def findPairs : ℕ → List Char → List (Char × Char)
  | _, [] => []
  | 0, _ => []
  | _, [_] => []
  | n + 1, c :: d :: rest =>
    if c = '\n' then findPairs (n + 1) (d :: rest)
    else if d = '\n' then findPairs (n + 1) rest
    else (c, d) :: findPairs n rest

def joinPairs (pairs : List (Char × Char)) : List Char :=
  joinWith ':' (pairs.map fun p => [p.1, p.2])

def convertHex2Mac (hexCode : List Char) : String := String.ofList (joinPairs (findPairs 4 hexCode))

/-- `inetAton`. The buffer has `hex.EncodedLen(ip.BitLen())` bytes, two for each bit of the
address. -/
def inetAton (ip : Addr) : String :=
  let bitLen := if ip.is4 then 32 else 128
  let hexCode := buffer (2 * bitLen) (hexText (bigBytes ip.toInt))
  if ip.is4 then convertHex2Mac hexCode else convertHex2Mac (hexCode.drop 24)

def parseMac (s : String) : Result Err (List ℕ) := deref (parseMAC s)

/-! ### The text of the last four bytes -/

theorem bigBytes_eq_toDigits (n : ℕ) : bigBytes n = toDigits 256 (bigBytes n).length n := by
  induction n using Nat.strong_induction_on with
  | _ n ih =>
    rcases Nat.eq_zero_or_pos n with rfl | hn
    · rfl
    · have hdigits : bigBytes n = bigBytes (n / 256) ++ [n % 256] := by
        rw [bigBytes, Nat.digits_def' (by norm_num) hn, List.reverse_cons, bigBytes]
      rw [hdigits, List.length_append, List.length_singleton, toDigits,
        ← ih (n / 256) (Nat.div_lt_self hn (by norm_num))]

theorem length_bigBytes_le_iff {n k : ℕ} : (bigBytes n).length ≤ k ↔ n < 256 ^ k := by
  rw [bigBytes, List.length_reverse, Nat.digits_length_le_iff (by norm_num)]

def bytePair (b : ℕ) : Char × Char := (digit (b / 16), digit (b % 16))

section

variable {d : ℕ} {bytes : List ℕ} {pairs : List (Char × Char)}

theorem digit_ne_newline (hd : d < 16) : digit d ≠ '\n' := by
  interval_cases d <;> decide

theorem length_hexText (bytes : List ℕ) : (hexText bytes).length = 2 * bytes.length := by
  induction bytes with
  | nil => rfl
  | cons b bytes ih =>
    rw [hexText, List.flatMap_cons, List.length_append, ← hexText, ih]
    simp
    omega

theorem findPairs_cons {c d : Char} (hc : c ≠ '\n') (hd : d ≠ '\n') (n : ℕ) (rest : List Char) :
    findPairs (n + 1) (c :: d :: rest) = (c, d) :: findPairs n rest := by
  rw [findPairs, if_neg hc, if_neg hd]

theorem findPairs_hexText (hbytes : ∀ b ∈ bytes, b < 256) (n m : ℕ) :
    findPairs n (hexText bytes ++ List.replicate (2 * m) '\x00') =
      (bytes.map bytePair ++ List.replicate m ('\x00', '\x00')).take n := by
  induction bytes generalizing n with
  | nil =>
    simp only [hexText, List.flatMap_nil, List.nil_append, List.map_nil]
    induction m generalizing n with
    | zero => cases n <;> rfl
    | succ m ih =>
      cases n with
      | zero => rfl
      | succ n =>
        rw [show 2 * (m + 1) = 2 * m + 1 + 1 by omega, List.replicate_succ, List.replicate_succ,
          findPairs_cons (by decide) (by decide), ih, List.replicate_succ, List.take_succ_cons]
  | cons b bytes ih =>
    rw [List.forall_mem_cons] at hbytes
    cases n with
    | zero => rfl
    | succ n =>
      have hhigh : digit (b / 16) ≠ '\n' := digit_ne_newline (by omega)
      have hlow : digit (b % 16) ≠ '\n' := digit_ne_newline (by omega)
      rw [hexText, List.flatMap_cons, ← hexText]
      simp only [List.cons_append, List.nil_append]
      rw [findPairs_cons hhigh hlow, ih hbytes.2]
      rfl

theorem drop_hexText (bytes : List ℕ) (k : ℕ) :
    (hexText bytes).drop (2 * k) = hexText (bytes.drop k) := by
  induction k generalizing bytes with
  | zero => rfl
  | succ k ih =>
    cases bytes with
    | nil => simp [hexText]
    | cons b bytes => exact ih bytes

theorem findPairs_buffer (hbytes : ∀ b ∈ bytes, b < 256) {k size : ℕ}
    (hk : k + 4 ≤ size) (hlen : bytes.length + 4 ≤ size) :
    findPairs 4 ((buffer (2 * size) (hexText bytes)).drop (2 * k)) =
      ((bytes.drop k).map bytePair ++ List.replicate 4 ('\x00', '\x00')).take 4 := by
  have hdrop : (buffer (2 * size) (hexText bytes)).drop (2 * k) =
      hexText (bytes.drop k) ++ List.replicate (2 * (size - max bytes.length k)) '\x00' := by
    rw [buffer, List.drop_append, drop_hexText, List.drop_replicate, length_hexText]
    congr 2
    omega
  rw [hdrop, findPairs_hexText fun b hb => hbytes b (List.mem_of_mem_drop hb), List.take_append,
    List.take_append, List.take_replicate, List.take_replicate]
  congr 2
  omega

/-! ### Reading it back -/

theorem hexDigit_digit (hd : d < 16) : hexDigit (digit d) = some d := by
  interval_cases d <;> rfl

theorem hexByte_bytePair {b : ℕ} (hb : b < 256) : hexByte (bytePair b) = some b := by
  unfold hexByte bytePair
  rw [hexDigit_digit (by omega), hexDigit_digit (by omega)]
  exact congrArg some (by omega)

theorem colonBytes_joinPairs (hpairs : pairs ≠ []) :
    colonBytes ':' (joinPairs pairs) = pairs.mapM hexByte := by
  induction pairs with
  | nil => exact absurd rfl hpairs
  | cons p pairs ih =>
    cases pairs with
    | nil =>
      rw [List.mapM_cons, List.mapM_nil]
      change (hexByte p).map ([·]) = _
      cases hexByte p <;> rfl
    | cons q pairs =>
      have hjoin : joinPairs (p :: q :: pairs) = p.1 :: p.2 :: ':' :: joinPairs (q :: pairs) := rfl
      have hlong : ∃ c d rest, joinPairs (q :: pairs) = c :: d :: rest := by
        cases pairs <;> exact ⟨_, _, _, rfl⟩
      obtain ⟨c, d, rest, hrest⟩ := hlong
      rw [hjoin, List.mapM_cons, ← ih (by simp), hrest, colonBytes, if_pos rfl]

theorem mapM_eq_none {α β : Type} {f : α → Option β} {xs : List α} {x : α} (hx : x ∈ xs)
    (hfx : f x = none) : xs.mapM f = none := by
  induction xs with
  | nil => cases hx
  | cons y ys ih =>
    rw [List.mapM_cons]
    rcases List.mem_cons.1 hx with rfl | hx
    · rw [hfx]
      rfl
    · rw [ih hx]
      cases f y <;> rfl

theorem mapM_hexByte (hbytes : ∀ b ∈ bytes, b < 256) :
    (bytes.map bytePair).mapM hexByte = some bytes := by
  induction bytes with
  | nil => rfl
  | cons b bytes ih =>
    rw [List.forall_mem_cons] at hbytes
    rw [List.map_cons, List.mapM_cons, hexByte_bytePair hbytes.1, ih hbytes.2]
    rfl

theorem parseMAC_joinPairs (hlen : pairs.length = 6) :
    parseMAC (String.ofList (joinPairs pairs)) = pairs.mapM hexByte := by
  rw [← colonBytes_joinPairs (List.ne_nil_of_length_eq_add_one hlen)]
  have hjoin : ∃ x y rest, joinPairs pairs = x :: y :: ':' :: rest ∧ rest.length = 14 := by
    obtain ⟨p, q, r, t, u, v, rfl⟩ : ∃ p q r t u v, [p, q, r, t, u, v] = pairs := by
      simpa [List.length_eq_succ_iff] using hlen
    exact ⟨_, _, _, rfl, rfl⟩
  obtain ⟨x, y, rest, hrest, hlen⟩ := hjoin
  simp [parseMAC, hrest, hlen]

end

def LeadingByte (a : Addr) : Prop := if a.is4 then 2 ^ 24 ≤ a.toInt else 2 ^ 120 ≤ a.toInt

instance (a : Addr) : Decidable (LeadingByte a) := inferInstanceAs (Decidable (ite _ _ _))

theorem suffix_pairs (n k size : ℕ) (hn : n < 256 ^ (k + 4)) (hsize : k + 8 ≤ size) :
    ∃ pairs, findPairs 4 ((buffer (2 * size) (hexText (bigBytes n))).drop (2 * k)) = pairs ∧
      pairs.length = 4 ∧
      pairs.mapM hexByte = if 256 ^ (k + 3) ≤ n then some (toDigits 256 4 n) else none := by
  have hbytes : ∀ b ∈ bigBytes n, b < 256 := by
    rw [bigBytes_eq_toDigits]
    exact toDigits_lt (by norm_num) _ n
  have hlen : (bigBytes n).length ≤ k + 4 := length_bigBytes_le_iff.2 hn
  refine ⟨_, findPairs_buffer hbytes (by omega) (by omega), by simp, ?_⟩
  by_cases hlead : 256 ^ (k + 3) ≤ n
  · have hfull : (bigBytes n).length = k + 4 := by
      have := mt length_bigBytes_le_iff.1 (not_lt.2 hlead)
      omega
    have hdrop : (bigBytes n).drop k = toDigits 256 4 n := by
      rw [bigBytes_eq_toDigits, hfull, toDigits_add, List.drop_left' (length_toDigits _ _ _)]
    have htake : ((toDigits 256 4 n).map bytePair ++ List.replicate 4 ('\x00', '\x00')).take 4 =
        (toDigits 256 4 n).map bytePair := List.take_left' (by simp [length_toDigits])
    rw [if_pos hlead, hdrop, htake, mapM_hexByte (toDigits_lt (by norm_num) 4 n)]
  · have hshort : (bigBytes n).length ≤ k + 3 := length_bigBytes_le_iff.2 (not_le.1 hlead)
    rw [if_neg hlead]
    refine mapM_eq_none (x := ('\x00', '\x00')) ?_ rfl
    rw [List.take_append, List.take_replicate, List.mem_append]
    refine .inr (List.mem_replicate.2 ⟨?_, rfl⟩)
    rw [List.length_map, List.length_drop]
    omega

theorem inetAton_pairs (a : Addr) : ∃ pairs, inetAton a = String.ofList (joinPairs pairs) ∧
    pairs.length = 4 ∧
    pairs.mapM hexByte = if LeadingByte a then some (toDigits 256 4 a.val) else none := by
  rcases Addr.toInt_cases a with ⟨h4, hval, hlt⟩ | ⟨h4, hint, -⟩
  · obtain ⟨pairs, hpairs, hlen, hbytes⟩ :=
      suffix_pairs a.toInt 0 32 (by norm_num at hlt ⊢; exact hlt) (by norm_num)
    refine ⟨pairs, ?_, hlen, ?_⟩
    · rw [← hpairs]
      simp [inetAton, convertHex2Mac, h4]
    · have hmod : toDigits 256 4 a.toInt = toDigits 256 4 a.val := by
        rw [← toDigits_mod 256 4 a.val, hval]
        congr 1
        omega
      rw [hbytes, hmod]
      simp [LeadingByte, h4]
  · obtain ⟨pairs, hpairs, hlen, hbytes⟩ :=
      suffix_pairs a.toInt 12 128 (by have := a.isLt; rw [hint]; norm_num at this ⊢; exact this)
        (by norm_num)
    refine ⟨pairs, ?_, hlen, ?_⟩
    · rw [← hpairs]
      simp [inetAton, convertHex2Mac, h4]
    · rw [hbytes, hint]
      simp [LeadingByte, h4, hint]

end Networking
end Spiderpool
