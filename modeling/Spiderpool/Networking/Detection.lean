/-
# Detection of address conflicts and of the gateway

The four loops of `pkg/networking/networking/ipam_detection.go`. Each sends a request, up to
`retries` times, and reads packets until one of them decides the question or the read times out.
What the reads return is a stream, and a loop is run on a part of it from its start: without a
result it is still reading there.

The loops for IPv4 leave the inner loop at a read error that is not a timeout, so each such error
uses up one of the retries. Those for IPv6 were written without that, and go on reading: only a
timeout or an answer ends them (`detection_bounded_iff`).
-/

import Spiderpool.Constant
import Spiderpool.IP.Text

namespace Spiderpool
namespace Networking

/-! ### What is read -/

inductive Read (α : Type) where
  | packet (p : α)
  /-- An error that is a `net.Error` with `Timeout()`. -/
  | timeout
  | failed (e : Err)

def Read.isFailed {α : Type} : Read α → Bool
  | .failed _ => true
  | _ => false

structure ArpPacket where
  operation : ℕ
  senderIP : Addr
  senderHardwareAddr : String

def operationReply : ℕ := 2

/-- A turn of the loop that reads ARP packets: the context may have expired, and then nothing is
read. -/
structure ArpTurn where
  expired : Bool
  read : Read ArpPacket

inductive NdpOption where
  | linkLayerAddress (addr : String)
  | other

/-- `ndp.Message`, with the text of the target address. -/
inductive NdpMessage where
  | neighborAdvertisement (targetAddress : String) (options : List NdpOption)
  | other

/-! ### The loops -/

structure Detector where
  retries : ℤ
  iface : String
  ip4 : Addr
  ip6 : Addr
  v4Gw : Addr
  v6Gw : Addr

structure DetectEnv where
  /-- `arp.Dial`. -/
  dial : Option Err := none
  /-- `SetReadDeadline` in a turn of the loop. -/
  setReadDeadline : ℕ → Option Err := fun _ => none
  /-- `SendARPReuqest` or `SendUnsolicitedNeighborAdvertisement` in a turn of the loop. -/
  send : ℕ → Option Err := fun _ => none

inductive Reading (τ : Type) where
  /-- The function returns. -/
  | returned (r : Result Err Unit)
  /-- `continueRead = false`, with what has not been read yet. -/
  | stopped (rest : List τ)
  | reading

/-- `ctx.Err()`. -/
def deadlineExceeded : Err := .new "context deadline exceeded"

/-- `for continueRead`. -/
def arpRead (found : ArpPacket → Option (Result Err Unit)) (onTimeout onExpired : Result Err Unit) :
    List ArpTurn → Reading ArpTurn
  | [] => .reading
  | t :: rest =>
    if t.expired then .returned onExpired
    else
      match t.read with
      | .packet p =>
        match found p with
        | some r => .returned r
        | none => arpRead found onTimeout onExpired rest
      | .timeout => .returned onTimeout
      | .failed _ => .stopped rest

/-- `for i := 0; i < d.retries; i++` of the loops for IPv4, with the number of turns that are left. -/
def arpLoop (env : DetectEnv) (read : List ArpTurn → Reading ArpTurn) (exhausted : Result Err Unit) :
    ℕ → ℕ → List ArpTurn → Option (Result Err Unit)
  | 0, _, _ => some exhausted
  | left + 1, i, turns =>
    if (env.setReadDeadline i).isSome then arpLoop env read exhausted left (i + 1) turns
    else if (env.send i).isSome then arpLoop env read exhausted left (i + 1) turns
    else
      match read turns with
      | .returned r => some r
      | .stopped rest => arpLoop env read exhausted left (i + 1) rest
      | .reading => none

def ipConflict (iface ip located : String) : Err :=
  .wrap "" (.of .errIPConflict) (": pod's interface " ++ iface ++ " with an conflicting ip " ++ ip ++
    ", " ++ ip ++ " is located at " ++ located)

def gatewayUnreachable (gw : Addr) : Err :=
  .wrap ("gateway " ++ gw.string ++ " is ") (.of .errGatewayUnreachable) ""

def detectIP4Conflicting (d : Detector) (env : DetectEnv) (turns : List ArpTurn) :
    Option (Result Err Unit) :=
  match env.dial with
  | some e => some (fail (.wrap "failed to init arp client: " e ""))
  | none =>
    arpLoop env
      (arpRead
        (fun p => if p.operation = operationReply ∧ p.senderIP = d.ip4 then
          some (fail (ipConflict d.iface d.ip4.string p.senderHardwareAddr)) else none)
        (.ok ())
        (fail (.wrap "failed to detect IPv4 address conflicting, more than the max timeout: "
          deadlineExceeded "")))
      (fail (.new "failed to detect IPv4 address conflict after three attempts"))
      d.retries.toNat 0 turns

def detectGateway4Reachable (d : Detector) (env : DetectEnv) (turns : List ArpTurn) :
    Option (Result Err Unit) :=
  match env.dial with
  | some e => some (fail (.wrap "failed to init arp client: " e ""))
  | none =>
    arpLoop env
      (arpRead
        (fun p => if p.operation = operationReply ∧ p.senderIP = d.v4Gw then some (.ok ()) else none)
        (fail (gatewayUnreachable d.v4Gw))
        (fail (.wrap "failed to detect gateway reachable, more than the max timeout: "
          deadlineExceeded "")))
      (fail (.new ("failed to detect gateway reachable after retry " ++ toString d.retries ++
        " times")))
      d.retries.toNat 0 turns

/-- The test of a message for an advertisement of the address, with what is done then. -/
def ndpFound (ip : String) (located : String → Result Err Unit) :
    NdpMessage → Option (Result Err Unit)
  | .neighborAdvertisement target [.linkLayerAddress addr] =>
    if target = ip then some (located addr) else none
  | _ => none

def ndpRead (found : NdpMessage → Option (Result Err Unit)) (onTimeout : Result Err Unit) :
    List (Read NdpMessage) → Option (Result Err Unit)
  | [] => none
  | .packet m :: rest =>
    match found m with
    | some r => some r
    | none => ndpRead found onTimeout rest
  | .timeout :: _ => some onTimeout
  | .failed _ :: rest => ndpRead found onTimeout rest

/-- The outer loop for IPv6, with the error that is looked at after it. -/
def ndpLoop (env : DetectEnv) (read : Option (Result Err Unit)) (exhausted : Err → Err) :
    ℕ → ℕ → Option Err → Option (Result Err Unit)
  | 0, _, err => some (err.elim (.ok ()) fun e => fail (exhausted e))
  | left + 1, i, _ =>
    match env.send i with
    | some e => ndpLoop env read exhausted left (i + 1) (some e)
    | none => read

def detectIP6Conflicting (d : Detector) (env : DetectEnv) (reads : List (Read NdpMessage)) :
    Option (Result Err Unit) :=
  ndpLoop env
    (ndpRead (ndpFound d.ip6.string fun addr => fail (ipConflict d.iface d.ip6.string addr)) (.ok ())
      reads)
    (.wrap ("after failed to send three unsolicited neighbor advertisement packages, can't detect " ++
      "IPv6 address conflicting: ") · "")
    d.retries.toNat 0 none

/-- `detectGateway6Reachable`; without a turn of the loop the error of `SetReadDeadline` is still
there after it. -/
def detectGateway6Reachable (d : Detector) (env : DetectEnv) (reads : List (Read NdpMessage)) :
    Option (Result Err Unit) :=
  ndpLoop env
    (ndpRead (ndpFound d.v6Gw.string fun _ => .ok ()) (fail (gatewayUnreachable d.v6Gw)) reads)
    (.wrap ("after failed to send three unsolicited neighbor advertisement packages, can't detect " ++
      "IPv6 Gateway if reachable: ") · "")
    d.retries.toNat 0 (env.setReadDeadline 0)

/-! ### Errors and retries -/

def ArpTurn.isFailed (t : ArpTurn) : Bool := !t.expired && t.read.isFailed

/-- The first `n` outcomes of a stream. -/
def firsts {τ : Type} (s : ℕ → τ) (n : ℕ) : List τ := (List.range n).map s

/-- The loop has returned at the latest with the `retries`-th outcome of the stream that has
failed. -/
def Bounded {τ : Type} (retries : ℕ) (failed : τ → Bool) (loop : List τ → Option (Result Err Unit))
    (s : ℕ → τ) : Prop :=
  ∀ n, retries ≤ (firsts s n).countP failed → (loop (firsts s n)).isSome

section Arp

variable {found : ArpPacket → Option (Result Err Unit)} {onTimeout onExpired : Result Err Unit}

theorem arpRead_errors (turns : List ArpTurn) :
    (arpRead found onTimeout onExpired turns = .reading → turns.countP ArpTurn.isFailed = 0) ∧
      ∀ rest, arpRead found onTimeout onExpired turns = .stopped rest →
        turns.countP ArpTurn.isFailed = rest.countP ArpTurn.isFailed + 1 := by
  induction turns with
  | nil => exact ⟨fun _ => rfl, fun rest h => by cases h⟩
  | cons t turns ih =>
    obtain ⟨expired, read⟩ := t
    cases expired with
    | true => exact ⟨fun h => by simp [arpRead] at h, fun rest h => by simp [arpRead] at h⟩
    | false =>
      cases read with
      | packet p =>
        have hcount : ∀ ts : List ArpTurn,
            (⟨false, .packet p⟩ :: ts).countP ArpTurn.isFailed = ts.countP ArpTurn.isFailed :=
          fun ts => List.countP_cons_of_neg (by simp [ArpTurn.isFailed, Read.isFailed])
        rcases hfound : found p with _ | r
        · simpa [arpRead, hfound, hcount] using ih
        · exact ⟨fun h => by simp [arpRead, hfound] at h, fun rest h => by simp [arpRead, hfound] at h⟩
      | timeout => exact ⟨fun h => by simp [arpRead] at h, fun rest h => by simp [arpRead] at h⟩
      | failed e =>
        refine ⟨fun h => by simp [arpRead] at h, fun rest h => ?_⟩
        obtain rfl : turns = rest := by simpa [arpRead] using h
        exact List.countP_cons_of_pos (by simp [ArpTurn.isFailed, Read.isFailed])

theorem arpLoop_isSome (env : DetectEnv) (exhausted : Result Err Unit) {left : ℕ} (i : ℕ)
    {turns : List ArpTurn} (h : left ≤ turns.countP ArpTurn.isFailed) :
    (arpLoop env (arpRead found onTimeout onExpired) exhausted left i turns).isSome := by
  induction left generalizing i turns with
  | zero => rfl
  | succ left ih =>
    rw [arpLoop]
    split_ifs
    · exact ih (i + 1) (Nat.le_of_succ_le h)
    · exact ih (i + 1) (Nat.le_of_succ_le h)
    · obtain ⟨hreading, hstopped⟩ :=
        @arpRead_errors found onTimeout onExpired turns
      rcases hread : arpRead found onTimeout onExpired turns with r | rest | -
      · rfl
      · have hcount := hstopped rest hread
        exact ih (i + 1) (by omega)
      · have hcount := hreading hread
        omega

end Arp

section Ndp

variable {ip : String} {located : String → Result Err Unit} {onTimeout : Result Err Unit}

/-- A timeout, or an advertisement of the address with its link-layer address alone. -/
def Decides (ip : String) : Read NdpMessage → Prop
  | .packet (.neighborAdvertisement target [.linkLayerAddress _]) => target = ip
  | .timeout => True
  | _ => False

theorem ndpRead_isSome_iff (reads : List (Read NdpMessage)) :
    (ndpRead (ndpFound ip located) onTimeout reads).isSome ↔ ∃ x ∈ reads, Decides ip x := by
  induction reads with
  | nil => simp [ndpRead]
  | cons x reads ih =>
    rw [List.exists_mem_cons_iff]
    cases x with
    | timeout => simp [ndpRead, Decides]
    | failed e => simpa [ndpRead, Decides] using ih
    | packet m =>
      have hfound : (ndpFound ip located m).isSome ↔ Decides ip (.packet m) := by
        unfold ndpFound Decides
        split <;> simp_all
      rcases hm : ndpFound ip located m with _ | r
      · rw [hm] at hfound
        have hno : ¬Decides ip (.packet m) := fun h => by simpa using hfound.2 h
        simpa [ndpRead, hm, hno] using ih
      · rw [hm] at hfound
        simp [ndpRead, hm, hfound.1 rfl]

theorem ndpLoop_isSome_iff (env : DetectEnv) (read : Option (Result Err Unit)) (exhausted : Err → Err)
    (left i : ℕ) (err : Option Err) :
    (ndpLoop env read exhausted left i err).isSome ↔
      (∀ j < left, (env.send (i + j)).isSome) ∨ read.isSome := by
  induction left generalizing i err with
  | zero => simp [ndpLoop]
  | succ left ih =>
    have hshift : ∀ j, i + 1 + j = i + (j + 1) := by omega
    rw [Nat.forall_lt_succ_left', ndpLoop, Nat.add_zero]
    rcases env.send i with _ | e
    · simp
    · simp only [ih, hshift, Option.isSome_some, true_and]

end Ndp

/-- A timeout or an answer comes before or instead of the `retries`-th error. -/
def InTime (retries : ℕ) (ip : String) (s : ℕ → Read NdpMessage) : Prop :=
  ∀ n, retries ≤ (firsts s n).countP Read.isFailed → ∃ x ∈ firsts s n, Decides ip x

theorem bounded_ndp_iff {retries : ℕ} {ip : String} {env : DetectEnv} {s : ℕ → Read NdpMessage}
    {loop : List (Read NdpMessage) → Option (Result Err Unit)}
    (hloop : ∀ reads, (loop reads).isSome ↔
      (∀ j < retries, (env.send j).isSome) ∨ ∃ x ∈ reads, Decides ip x) :
    Bounded retries Read.isFailed loop s ↔
      (∀ j < retries, (env.send j).isSome) ∨ InTime retries ip s := by
  constructor
  · intro h
    by_cases hsend : ∀ j < retries, (env.send j).isSome
    · exact .inl hsend
    · exact .inr fun n hn => ((hloop _).1 (h n hn)).resolve_left hsend
  · rintro (hsend | htime) n hn
    · exact (hloop _).2 (.inl hsend)
    · exact (hloop _).2 (.inr (htime n hn))

/-- The loops for IPv4 return no later than at the `retries`-th read error that is not a timeout.
Those for IPv6 do exactly if nothing can be sent, or a timeout or an answer comes in time. -/
theorem detection_bounded_iff (d : Detector) (env : DetectEnv) (turns : ℕ → ArpTurn)
    (reads : ℕ → Read NdpMessage) :
    Bounded d.retries.toNat ArpTurn.isFailed (detectIP4Conflicting d env) turns ∧
    Bounded d.retries.toNat ArpTurn.isFailed (detectGateway4Reachable d env) turns ∧
    (Bounded d.retries.toNat Read.isFailed (detectIP6Conflicting d env) reads ↔
      (∀ j < d.retries.toNat, (env.send j).isSome) ∨ InTime d.retries.toNat d.ip6.string reads) ∧
    (Bounded d.retries.toNat Read.isFailed (detectGateway6Reachable d env) reads ↔
      (∀ j < d.retries.toNat, (env.send j).isSome) ∨
        InTime d.retries.toNat d.v6Gw.string reads) := by
  refine ⟨fun n hn => ?_, fun n hn => ?_, bounded_ndp_iff fun reads => ?_,
    bounded_ndp_iff fun reads => ?_⟩
  · unfold detectIP4Conflicting
    split
    · rfl
    · exact arpLoop_isSome env _ 0 hn
  · unfold detectGateway4Reachable
    split
    · rfl
    · exact arpLoop_isSome env _ 0 hn
  · simp only [detectIP6Conflicting, ndpLoop_isSome_iff, ndpRead_isSome_iff, Nat.zero_add]
  · simp only [detectGateway6Reachable, ndpLoop_isSome_iff, ndpRead_isSome_iff, Nat.zero_add]

end Networking

namespace Sample

open Networking

def detector : Detector where
  retries := 3
  iface := "eth0"
  ip4 := Addr.ofV4 0x0a000002
  ip6 := 1
  v4Gw := Addr.ofV4 0x0a000001
  v6Gw := 2

def timeoutAtThird (k : ℕ) : Read NdpMessage := if k = 2 then .timeout else .failed (.new "reset")

/-- A timeout before the third error ends the loops in time. -/
theorem timeout_ends_detection :
    Bounded 3 Read.isFailed (detectIP6Conflicting detector {}) timeoutAtThird ∧
      Bounded 3 Read.isFailed (detectGateway6Reachable detector {}) timeoutAtThird := by
  have htime : ∀ ip, InTime 3 ip timeoutAtThird := by
    intro ip n hn
    have hlen : (firsts timeoutAtThird n).length = n := by simp [firsts]
    have hle := List.countP_le_length.trans_eq hlen |>.trans' hn
    exact ⟨.timeout, List.mem_map.2 ⟨2, List.mem_range.2 (by omega), rfl⟩, trivial⟩
  obtain ⟨-, -, hconflict, hgateway⟩ :=
    detection_bounded_iff detector {} (fun _ => ⟨true, .timeout⟩) timeoutAtThird
  exact ⟨hconflict.2 (.inr (htime _)), hgateway.2 (.inr (htime _))⟩

/-- Four errors in a row, with three retries: the loops for IPv6 are still reading. -/
theorem errors_without_end :
    detectIP6Conflicting detector {} (List.replicate 4 (.failed (.new "reset"))) = none ∧
      detectGateway6Reachable detector {} (List.replicate 4 (.failed (.new "reset"))) = none ∧
      (detectIP4Conflicting detector {}
        (List.replicate 3 ⟨false, .failed (.new "reset")⟩)).isSome := by
  refine ⟨rfl, rfl, rfl⟩

end Sample

end Spiderpool
