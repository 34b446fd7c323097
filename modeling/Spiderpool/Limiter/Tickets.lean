/-
# Tickets are exclusive

The limiter with its callers. `AcquireTicket` queues an element up and returns when the
element's channel is closed; a caller it served gives the same tickets back, once. The
conductors are the goroutines that `Start` leaves behind, each in a loop over `checkin`.
A wait of theirs may end at any time here, whether or not someone signals, so that every
interleaving of the code is among the runs.

The invariant says what the map of granted tickets stands for: the tickets of the elements
that were granted and not given back, which are apart from each other.
-/

import Spiderpool.Base.Runs
import Spiderpool.Limiter.Queue

namespace Spiderpool
namespace Limiter

/-- A call of `AcquireTicket` that got into the queue: its tickets, and its element. -/
structure Call where
  tickets : List String
  element : Element
deriving DecidableEq, Repr

/-- The limiter, its conductors (`none` is one that has ended), and what its callers did:
the calls that were queued, and the elements whose tickets were given back. -/
structure State where
  queue : Queue
  conductors : List (Option CheckinAt)
  queued : List Call
  released : List Element

def State.init (maxQueueSize : Option ℕ) : State := ⟨newLimiter maxQueueSize, [], [], []⟩

inductive Event where
  | acquire (tickets : List String)
  | release (c : Call)
  | checkin (i : ℕ)
  | start
  | shutdown
deriving DecidableEq, Repr

/-- `for !q.checkin() {}`: where the conductor goes on, if it does. -/
def CheckinEnd.goesOn : CheckinEnd → Option CheckinAt
  | .waits next => some next
  | .returns shuttingDown => if shuttingDown then none else some .called

/-- One step. A caller may give its tickets back if `AcquireTicket` returned to it without
an error, that is if its channel is closed, and if it has not done so before. -/
inductive Step : State → Event → State → Prop
  | queued {s : State} {tickets : List String} {e : Element} {q : Queue} :
      s.queue.queueUp s.queued.length tickets = .ok (e, q) →
        Step s (.acquire tickets) { s with queue := q, queued := s.queued ++ [⟨tickets, e⟩] }
  | refused {s : State} {tickets : List String} {f : Fault Err} :
      s.queue.queueUp s.queued.length tickets = .error f → Step s (.acquire tickets) s
  | release {s : State} {c : Call} :
      c ∈ s.queued → c.element ∈ s.queue.closed → c.element ∉ s.released →
        Step s (.release c)
          { s with
            queue := s.queue.releaseTicket c.tickets
            released := s.released ++ [c.element] }
  | checkin {s : State} {i : ℕ} {at' : CheckinAt} :
      s.conductors[i]? = some (some at') →
        Step s (.checkin i)
          { s with
            queue := (s.queue.checkin at').2
            conductors := s.conductors.set i (s.queue.checkin at').1.goesOn }
  | start {s : State} {q : Queue} :
      s.queue.start = .ok q →
        Step s .start { s with queue := q, conductors := s.conductors ++ [some .called] }
  | startedAlready {s : State} {f : Fault Err} :
      s.queue.start = .error f → Step s .start s
  | shutdown {s : State} : Step s .shutdown { s with queue := s.queue.shutdown }

/-- The tickets of the elements `es`, each as often as it is wanted. -/
def ticketsOf (es : Multiset Element) : Multiset String := es.bind fun e => e.wantedTickets

@[simp] theorem ticketsOf_cons (e : Element) (es : Multiset Element) :
    ticketsOf (e ::ₘ es) = e.wantedTickets + ticketsOf es :=
  Multiset.cons_bind e es _

theorem mem_ticketsOf {es : Multiset Element} {t : String} :
    t ∈ ticketsOf es ↔ ∃ e ∈ es, t ∈ e.wantedTickets := by
  simp [ticketsOf, Multiset.mem_bind]

namespace State

/-- The element was granted its tickets and has not given them back. -/
def Outstanding (s : State) (e : Element) : Prop := e ∈ s.queue.closed ∧ e ∉ s.released

/-- The elements that were granted, less those that gave their tickets back. -/
def outstanding (s : State) : Multiset Element := (s.queue.closed : Multiset Element) - s.released

end State

structure Inv (s : State) : Prop where
  /-- The addresses are handed out one after the other. -/
  ids : s.queued.map (fun c => c.element.id) = List.range s.queued.length
  /-- An element wants its caller's tickets. -/
  wanted : ∀ c ∈ s.queued, c.element.wantedTickets = orDefault c.tickets
  /-- Every element is in the queue or was granted, and stands there once. -/
  places : (s.queue.elements + s.queue.closed : Multiset Element) = s.queued.map Call.element
  /-- Only granted elements gave their tickets back, once each. -/
  released : (s.released : Multiset Element) ≤ s.queue.closed
  counts : Counter.Counts s.queue.grantedTickets (ticketsOf s.outstanding)
  apart : ∀ e ∈ s.outstanding, ∀ e' ∈ s.outstanding, e ≠ e' →
    e.wantedTickets.Disjoint e'.wantedTickets

namespace Inv

variable {s : State}

section

variable {s' : State} {e : Element} {c : Call}

theorem frame (h : Inv s) (helements : s'.queue.elements = s.queue.elements)
    (hgranted : s'.queue.grantedTickets = s.queue.grantedTickets)
    (hclosed : s'.queue.closed = s.queue.closed) (hqueued : s'.queued = s.queued)
    (hreleased : s'.released = s.released) : Inv s' := by
  have hout : s'.outstanding = s.outstanding := by
    rw [State.outstanding, hclosed, hreleased]
    rfl
  constructor
  · rw [hqueued]
    exact h.ids
  · rw [hqueued]
    exact h.wanted
  · rw [helements, hclosed, hqueued]
    exact h.places
  · rw [hreleased, hclosed]
    exact h.released
  · rw [hgranted, hout]
    exact h.counts
  · rw [hout]
    exact h.apart

theorem init (maxQueueSize : Option ℕ) : Inv (State.init maxQueueSize) where
  ids := rfl
  wanted := nofun
  places := rfl
  released := le_rfl
  counts := Counter.counts_empty
  apart := nofun

theorem nodup (h : Inv s) : (s.queue.elements + s.queue.closed : Multiset Element).Nodup := by
  have hids : (s.queued.map (fun c => c.element.id)).Nodup := h.ids ▸ List.nodup_range
  rw [h.places, Multiset.coe_nodup]
  refine .of_map Element.id ?_
  rwa [List.map_map]

theorem nodup_closed (h : Inv s) : s.queue.closed.Nodup :=
  Multiset.coe_nodup.1 (Multiset.nodup_add.1 h.nodup).2.1

theorem mem_outstanding (h : Inv s) : e ∈ s.outstanding ↔ s.Outstanding e := by
  rw [State.outstanding, Multiset.mem_sub_of_nodup (Multiset.coe_nodup.2 h.nodup_closed)]
  rfl

theorem id_lt (h : Inv s) (hc : c ∈ s.queued) : c.element.id < s.queued.length := by
  have : c.element.id ∈ s.queued.map fun c => c.element.id := List.mem_map_of_mem hc
  rwa [h.ids, List.mem_range] at this

theorem queued_of_closed (h : Inv s) (he : e ∈ s.queue.closed) : ∃ c ∈ s.queued, c.element = e := by
  have : e ∈ (s.queue.elements + s.queue.closed : Multiset Element) :=
    Multiset.mem_add.2 (.inr he)
  rw [h.places] at this
  exact List.mem_map.1 this

theorem queueUp (h : Inv s) {tickets : List String} {q : Queue}
    (hq : s.queue.queueUp s.queued.length tickets = .ok (e, q)) :
    Inv { s with queue := q, queued := s.queued ++ [⟨tickets, e⟩] } := by
  obtain ⟨-, rfl, rfl⟩ := Queue.queueUp_eq_ok.1 hq
  refine ⟨?_, ?_, ?_, h.released, h.counts, h.apart⟩
  · simp [h.ids, List.range_succ]
  · intro c hc
    rcases List.mem_append.1 hc with hc | hc
    · exact h.wanted c hc
    · rw [List.mem_singleton.1 hc]
  · rw [List.map_append, ← Multiset.coe_add, ← Multiset.coe_add, add_right_comm, h.places]
    rfl

theorem grantAt (h : Inv s) {i : ℕ} (he : s.queue.elements[i]? = some e)
    (hfree : s.queue.checkAvailableTicket e.wantedTickets) :
    Inv { s with queue := s.queue.grantAt i e } := by
  have hclosed : ((s.queue.closed ++ [e] : List Element) : Multiset Element)
      = e ::ₘ s.queue.closed := by
    rw [← Multiset.coe_add, add_comm]
    rfl
  have hout : State.outstanding { s with queue := s.queue.grantAt i e } = e ::ₘ s.outstanding := by
    show (((s.queue.closed ++ [e] : List Element) : Multiset Element) - s.released) = _
    rw [hclosed, Multiset.cons_sub_of_le e h.released]
    rfl
  have helements : (s.queue.elements : Multiset Element) = e ::ₘ (s.queue.elements.eraseIdx i) := by
    obtain ⟨hi, rfl⟩ := List.getElem?_eq_some_iff.1 he
    exact Multiset.coe_eq_coe.2 (List.getElem_cons_eraseIdx_perm hi).symm
  -- The map holds the tickets of all that is outstanding, so free tickets are in none of it.
  have hnew : ∀ e' ∈ s.outstanding, e.wantedTickets.Disjoint e'.wantedTickets := by
    intro e' he' t ht ht'
    refine Queue.checkAvailableTicket_iff.1 hfree t ht (h.counts.mem_iff.2 ?_)
    exact mem_ticketsOf.2 ⟨e', he', ht'⟩
  refine ⟨h.ids, h.wanted, ?_, ?_, ?_, ?_⟩
  · rw [← h.places, helements]
    show _ + ((s.queue.closed ++ [e] : List Element) : Multiset Element) = _
    rw [hclosed, Multiset.add_cons, Multiset.cons_add]
    rfl
  · show _ ≤ ((s.queue.closed ++ [e] : List Element) : Multiset Element)
    exact hclosed ▸ h.released.trans (Multiset.le_cons_self _ e)
  · rw [hout, ticketsOf_cons]
    exact h.counts.incr_all e.wantedTickets
  · rw [hout]
    intro e₁ h₁ e₂ h₂ hne
    rcases Multiset.mem_cons.1 h₁ with he₁ | he₁ <;> rcases Multiset.mem_cons.1 h₂ with he₂ | he₂
    · exact absurd (he₁.trans he₂.symm) hne
    · exact he₁ ▸ hnew e₂ he₂
    · exact he₂ ▸ (hnew e₁ he₁).symm
    · exact h.apart e₁ he₁ e₂ he₂ hne

theorem release (h : Inv s) (hc : c ∈ s.queued) (hgranted : c.element ∈ s.queue.closed)
    (hnew : c.element ∉ s.released) :
    Inv { s with
      queue := s.queue.releaseTicket c.tickets
      released := s.released ++ [c.element] } := by
  have hmem : c.element ∈ s.outstanding := h.mem_outstanding.2 ⟨hgranted, hnew⟩
  have hout : State.outstanding { s with
        queue := s.queue.releaseTicket c.tickets
        released := s.released ++ [c.element] } = s.outstanding.erase c.element := by
    show (s.queue.closed : Multiset Element)
      - ((s.released ++ [c.element] : List Element) : Multiset Element) = _
    rw [← Multiset.coe_add, ← tsub_tsub]
    exact Multiset.sub_singleton ..
  refine ⟨h.ids, h.wanted, h.places, ?_, ?_, ?_⟩
  · show ((s.released ++ [c.element] : List Element) : Multiset Element) ≤ s.queue.closed
    rw [← Multiset.coe_add, add_comm]
    exact (Multiset.cons_le_of_notMem hnew).2 ⟨hgranted, h.released⟩
  · rw [hout]
    refine Counter.Counts.decr_all ?_
    rw [← h.wanted c hc, ← ticketsOf_cons, Multiset.cons_erase hmem]
    exact h.counts
  · rw [hout]
    intro e₁ h₁ e₂ h₂
    exact h.apart e₁ (Multiset.mem_of_mem_erase h₁) e₂ (Multiset.mem_of_mem_erase h₂)

theorem step {ev : Event} (h : Inv s) (hst : Step s ev s') : Inv s' := by
  cases hst with
  | queued hq => exact h.queueUp hq
  | refused _ => exact h
  | release hc hgranted hnew => exact h.release hc hgranted hnew
  | @checkin i at' _ =>
    have hkeeps := Queue.checkin_keeps (fun q => Inv { s with queue := q })
      (fun q _ _ hq he hfree => hq.grantAt he hfree) h at'
    exact hkeeps.frame rfl rfl rfl rfl rfl
  | start hq =>
    obtain ⟨-, ⟨⟩⟩ := seq_eq_ok.1 hq
    exact h.frame rfl rfl rfl rfl rfl
  | startedAlready _ => exact h
  | shutdown => exact h.frame rfl rfl rfl rfl rfl

theorem run {maxQueueSize : Option ℕ} {evs : List Event}
    (h : Run Step (State.init maxQueueSize) evs s) : Inv s :=
  Run.inv Inv h (init maxQueueSize) fun _ _ _ hs hst => hs.step hst

theorem lookup_iff (h : Inv s) {t : String} {n : ℤ} : s.queue.grantedTickets.lookup t = some n ↔
      ∃ e, s.Outstanding e ∧ t ∈ e.wantedTickets ∧ n = e.wantedTickets.count t := by
  -- Among what is outstanding, only `e` wants `t`.
  have hcount : ∀ e, s.Outstanding e → t ∈ e.wantedTickets →
      (ticketsOf s.outstanding).count t = e.wantedTickets.count t := by
    intro e he ht
    have hmem := h.mem_outstanding.2 he
    have hnodup : s.outstanding.Nodup :=
      Multiset.nodup_of_le (Multiset.sub_le_self ..) (Multiset.coe_nodup.2 h.nodup_closed)
    have hrest : t ∉ ticketsOf (s.outstanding.erase e) := by
      rw [mem_ticketsOf]
      rintro ⟨e', he', ht'⟩
      obtain ⟨hne, he'⟩ := hnodup.mem_erase_iff.1 he'
      exact h.apart e hmem e' he' (Ne.symm hne) ht ht'
    rw [← Multiset.cons_erase hmem, ticketsOf_cons, Multiset.count_add,
      Multiset.count_eq_zero.2 hrest, Multiset.coe_count, add_zero]
  rw [h.counts t]
  constructor
  · intro hn
    split_ifs at hn with ht
    obtain ⟨e, he, hte⟩ := mem_ticketsOf.1 ht
    have he' := h.mem_outstanding.1 he
    refine ⟨e, he', hte, ?_⟩
    rw [← hcount e he' hte]
    exact (Option.some.inj hn).symm
  · rintro ⟨e, he, hte, rfl⟩
    rw [if_pos (mem_ticketsOf.2 ⟨e, h.mem_outstanding.2 he, hte⟩), hcount e he hte]

theorem place (h : Inv s) (hc : c ∈ s.queued) :
    (c.element ∈ s.queue.elements ↔ c.element ∉ s.queue.closed) ∧
      s.queue.closed.count c.element ≤ 1 := by
  have hmem : c.element ∈ (s.queue.elements + s.queue.closed : Multiset Element) := by
    rw [h.places]
    exact Multiset.mem_coe.2 (List.mem_map_of_mem hc)
  have hdisj := (Multiset.nodup_add.1 h.nodup).2.2
  refine ⟨⟨fun he hclosed => ?_, fun hclosed => ?_⟩, ?_⟩
  · exact Multiset.disjoint_left.1 hdisj he hclosed
  · exact (Multiset.mem_add.1 hmem).resolve_right hclosed
  · exact List.nodup_iff_count_le_one.1 h.nodup_closed _

end

end Inv

/-- **Tickets are exclusive.**  In every reachable state a ticket has a counter exactly if
some element holds it, and the counter says how often that element wants it; no two
elements hold one ticket; every element is in the queue or was granted, not both, and not
twice; and when a conductor has gone through the queue, who is still in it wants a ticket
that is granted. -/
theorem tickets_exclusive {maxQueueSize : Option ℕ} {evs : List Event} {s : State}
    (h : Run Step (State.init maxQueueSize) evs s) :
    (∀ t n, s.queue.grantedTickets.lookup t = some n ↔
      ∃ e, s.Outstanding e ∧ t ∈ e.wantedTickets ∧ n = e.wantedTickets.count t) ∧
    (∀ e e', s.Outstanding e → s.Outstanding e' → e ≠ e' →
      e.wantedTickets.Disjoint e'.wantedTickets) ∧
    (∀ c ∈ s.queued, (c.element ∈ s.queue.elements ↔ c.element ∉ s.queue.closed) ∧
      s.queue.closed.count c.element ≤ 1) ∧
    ∀ i at' s', s.conductors[i]? = some (some at') → at' ≠ .rested → Step s (.checkin i) s' →
      ∀ e ∈ s'.queue.elements, ∃ t ∈ e.wantedTickets, t ∈ s'.queue.grantedTickets := by
  have hinv := Inv.run h
  refine ⟨fun t n => hinv.lookup_iff, fun e e' he he' => ?_, fun c hc => hinv.place hc, ?_⟩
  · exact hinv.apart e (hinv.mem_outstanding.2 he) e' (hinv.mem_outstanding.2 he')
  · rintro i at' _ hat hpass (_ | _ | _ | hat' | _ | _ | _)
    obtain rfl : _ = at' := Option.some.inj (Option.some.inj (hat'.symm.trans hat))
    exact Queue.checkin_blocked s.queue hpass

namespace Sample

def waiting : State where
  queue := {
    shuttingDown := false
    maxQueueSize := 3
    elements := [⟨0, ["pool", "pool"]⟩, ⟨1, [defaultTicket]⟩, ⟨2, ["pool"]⟩]
    grantedTickets := ∅
    closed := [] }
  conductors := [some .called]
  queued := [⟨["pool", "pool"], ⟨0, ["pool", "pool"]⟩⟩, ⟨[], ⟨1, [defaultTicket]⟩⟩,
    ⟨["pool"], ⟨2, ["pool"]⟩⟩]
  released := []

def served : State :=
  { waiting with queue := (waiting.queue.checkin .called).2, conductors := [some .rested] }

theorem run_served : Run Step (State.init (some 3))
    [.start, .acquire ["pool", "pool"], .acquire [], .acquire ["pool"], .checkin 0] served := by
  have hwaiting : Run Step (State.init (some 3))
      [.start, .acquire ["pool", "pool"], .acquire [], .acquire ["pool"]] waiting :=
    .cons (.start rfl) (.cons (.queued rfl) (.cons (.queued rfl) (.single (.queued rfl))))
  have hpass : Step waiting (.checkin 0) served := .checkin rfl
  exact hwaiting.snoc hpass

theorem pool_ticket_held : served.queue.elements = [⟨2, ["pool"]⟩] ∧
    ∃ e, served.Outstanding e ∧ "pool" ∈ e.wantedTickets ∧ (2 : ℤ) = e.wantedTickets.count "pool" :=
  ⟨by decide, ((tickets_exclusive run_served).1 "pool" 2).1 (by decide)⟩

end Sample

end Limiter
end Spiderpool
