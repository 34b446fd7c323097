/-
# The limiter's queue

`pkg/limiter/queue.go`. A caller that wants tickets queues up and waits for the
conductor, which goes through the queue and grants each element whose tickets are all free;
`grantedTickets` counts what is granted. Every function here runs under the queue's lock,
except `checkin`, which gives the lock away where it waits: it is cut there into the pieces
that run in one go.

An element is a pointer in the source, so that two of them with the same tickets are
different: `id` tells them apart. Its channel `notifyCheckin` is closed when the element
is granted, and `closed` lists the elements in the order in which that happens.
-/

import Spiderpool.Base.Counter
import Spiderpool.Constant

namespace Spiderpool
namespace Limiter

def defaultTicket : String := "not to use this ticket"

def defaultMaxQueueSize : ℕ := 1000

/-- `type e`: the element's address and its tickets. -/
structure Element where
  id : ℕ
  wantedTickets : List String
deriving DecidableEq, Repr

structure Queue where
  shuttingDown : Bool
  maxQueueSize : ℕ
  elements : List Element
  grantedTickets : GoMap String ℤ
  closed : List Element
deriving DecidableEq

/-- `NewLimiter`: a queue is shut down until `Start` opens it. -/
def newLimiter (maxQueueSize : Option ℕ) : Queue where
  shuttingDown := true
  maxQueueSize := maxQueueSize.getD defaultMaxQueueSize
  elements := []
  grantedTickets := ∅
  closed := []

/-- `if len(tickets) == 0 { tickets = append(tickets, DefaultTicket) }`. -/
def orDefault (tickets : List String) : List String :=
  if tickets.length = 0 then tickets ++ [defaultTicket] else tickets

theorem mem_orDefault {tickets : List String} {t : String} (h : t ∈ tickets) :
    t ∈ orDefault tickets := by
  unfold orDefault
  split_ifs
  · exact List.mem_append_left _ h
  · exact h

namespace Queue

def queueUp (q : Queue) (id : ℕ) (tickets : List String) : Result Err (Element × Queue) := do
  failIf q.shuttingDown (.of .errShutdownQueue)
  failIf (q.maxQueueSize ≤ q.elements.length)
    (.wrap "" (.of .errFullQueue) s!" with a maximum length of {q.maxQueueSize}")
  let e := ⟨id, orDefault tickets⟩
  return (e, { q with elements := q.elements ++ [e] })

def releaseTicket (q : Queue) (tickets : List String) : Queue :=
  { q with grantedTickets := (orDefault tickets).foldl Counter.decr q.grantedTickets }

def start (q : Queue) : Result Err Queue := do
  failIf (!q.shuttingDown) (.of .errStartLimiteRrepeatedly)
  return { q with shuttingDown := false }

def shutdown (q : Queue) : Queue := { q with shuttingDown := true }

def checkAvailableTicket (q : Queue) (tickets : List String) : Bool :=
  tickets.all fun t => (q.grantedTickets.lookup t).isNone

def grantTicket (q : Queue) (e : Element) : Queue :=
  { q with
    grantedTickets := e.wantedTickets.foldl Counter.incr q.grantedTickets
    closed := q.closed ++ [e] }

/-- The body of the loop of `checkin` where `elements[i]` can have its tickets. -/
def grantAt (q : Queue) (i : ℕ) (e : Element) : Queue :=
  { q.grantTicket e with elements := q.elements.eraseIdx i }

/-- The loop of `checkin` from index `i` on. An element that is granted is cut out of the
slice and the index stays, so each turn leaves one element fewer to look at. -/
def checkinLoop : (turns i : ℕ) → Queue → Queue
  | 0, _, q => q
  | turns + 1, i, q =>
    match q.elements[i]? with
    | none => q
    | some e =>
      if q.checkAvailableTicket e.wantedTickets then checkinLoop turns i (q.grantAt i e)
      else checkinLoop turns (i + 1) q

end Queue

/-- Where a call of `checkin` stands: at its beginning, behind its first `q.cond.Wait()`, or
behind its second. -/
inductive CheckinAt where
  | called
  | awoken
  | rested
deriving DecidableEq, Repr

/-- How a piece of `checkin` ends: it waits, or returns whether the queue is shut down. -/
inductive CheckinEnd where
  | waits (next : CheckinAt)
  | returns (shuttingDown : Bool)
deriving DecidableEq, Repr

namespace Queue

/-- `checkin` behind its first wait. -/
def checkinPass (q : Queue) : CheckinEnd × Queue :=
  if q.elements.length = 0 then (.returns q.shuttingDown, q)
  else (.waits .rested, q.checkinLoop q.elements.length 0)

/-- One piece of `checkin`. -/
def checkin (q : Queue) : CheckinAt → CheckinEnd × Queue
  | .called =>
    if q.elements.length = 0 ∧ !q.shuttingDown then (.waits .awoken, q) else q.checkinPass
  | .awoken => q.checkinPass
  | .rested => (.returns false, q)

section

variable {q : Queue} {tickets : List String} {e : Element}

theorem checkAvailableTicket_iff :
    q.checkAvailableTicket tickets ↔ ∀ t ∈ tickets, t ∉ q.grantedTickets := by
  simp only [checkAvailableTicket, List.all_eq_true, Option.isNone_iff_eq_none,
    AList.lookup_eq_none]

theorem queueUp_eq_ok {q' : Queue} {id : ℕ} : q.queueUp id tickets = .ok (e, q') ↔
      (q.shuttingDown = false ∧ q.elements.length < q.maxQueueSize) ∧
        e = ⟨id, orDefault tickets⟩ ∧ q' = { q with elements := q.elements ++ [e] } := by
  simp only [queueUp, seq_eq_ok, failIf_eq_ok, pure, Except.pure, Except.ok.injEq, Prod.mk.injEq,
    Bool.not_eq_true, not_le, and_assoc]
  constructor
  · rintro ⟨hopen, hroom, rfl, rfl⟩
    exact ⟨hopen, hroom, rfl, rfl⟩
  · rintro ⟨hopen, hroom, rfl, rfl⟩
    exact ⟨hopen, hroom, rfl, rfl⟩

theorem checkin_keeps (P : Queue → Prop)
    (hgrant : ∀ q i e, P q → q.elements[i]? = some e → q.checkAvailableTicket e.wantedTickets →
      P (q.grantAt i e)) (h : P q) (at' : CheckinAt) : P (q.checkin at').2 := by
  have hloop : ∀ turns i q, P q → P (q.checkinLoop turns i) := by
    intro turns
    induction turns with
    | zero => exact fun _ _ h => h
    | succ turns ih =>
      intro i q h
      rw [checkinLoop]
      split
      · exact h
      · next e he =>
        split_ifs with hfree
        · exact ih i _ (hgrant q i e h he hfree)
        · exact ih (i + 1) q h
  have hpass : P q.checkinPass.2 := by
    unfold checkinPass
    split_ifs
    · exact h
    · exact hloop _ _ _ h
  cases at' with
  | called =>
    rw [checkin]
    split_ifs
    · exact h
    · exact hpass
  | awoken => exact hpass
  | rested => exact h

def Blocked (q : Queue) (e : Element) : Prop := ∃ t ∈ e.wantedTickets, t ∈ q.grantedTickets

theorem not_checkAvailableTicket : ¬q.checkAvailableTicket e.wantedTickets ↔ q.Blocked e := by
  rw [checkAvailableTicket_iff]
  simp [Blocked]

theorem Blocked.grantAt (h : q.Blocked e) (i : ℕ) (e' : Element) : (q.grantAt i e').Blocked e := by
  obtain ⟨t, ht, hgranted⟩ := h
  exact ⟨t, ht, Counter.mem_incr_all hgranted e'.wantedTickets⟩

theorem checkinLoop_blocked {turns i : ℕ} (hturns : q.elements.length ≤ i + turns)
    (hfront : ∀ e ∈ q.elements.take i, q.Blocked e) :
    ∀ e ∈ (q.checkinLoop turns i).elements, (q.checkinLoop turns i).Blocked e := by
  induction turns generalizing i q with
  | zero =>
    rw [List.take_of_length_le (by omega)] at hfront
    exact hfront
  | succ turns ih =>
    rw [checkinLoop]
    split
    · next hnone =>
      rw [List.take_of_length_le (List.getElem?_eq_none_iff.1 hnone)] at hfront
      exact hfront
    · next e he =>
      obtain ⟨hi, hget⟩ := List.getElem?_eq_some_iff.1 he
      split_ifs with hfree
      · refine ih ?_ ?_
        · have : (q.grantAt i e).elements.length = q.elements.length - 1 :=
            List.length_eraseIdx_of_lt hi
          omega
        · intro e' he'
          have he'' : e' ∈ q.elements.take i := by
            rwa [show (q.grantAt i e).elements = q.elements.eraseIdx i from rfl,
              List.take_eraseIdx_eq_take_of_le _ _ _ le_rfl] at he'
          exact (hfront e' he'').grantAt i e
      · refine ih (by omega) ?_
        intro e' he'
        rw [List.take_add_one, he, Option.toList_some, List.mem_append, List.mem_singleton] at he'
        rcases he' with he' | rfl
        · exact hfront e' he'
        · exact not_checkAvailableTicket.1 hfree

end

theorem checkin_blocked (q : Queue) {at' : CheckinAt} (hat : at' ≠ .rested) :
    ∀ e ∈ (q.checkin at').2.elements, (q.checkin at').2.Blocked e := by
  have hpass : ∀ e ∈ q.checkinPass.2.elements, q.checkinPass.2.Blocked e := by
    unfold checkinPass
    split_ifs with hempty
    · simp [List.length_eq_zero_iff.1 hempty]
    · exact checkinLoop_blocked (by omega) (by simp)
  cases at' with
  | called =>
    rw [checkin]
    split_ifs with hidle
    · simp [List.length_eq_zero_iff.1 hidle.1]
    · exact hpass
  | awoken => exact hpass
  | rested => exact absurd rfl hat

end Queue

end Limiter
end Spiderpool
