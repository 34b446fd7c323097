/-
# Workers that share the limiter

`releaseIPPoolIPExecutor` of `pkg/gcmanager/tracePod_worker.go`. A worker takes the
addresses of an endpoint, groups them by pool, acquires a ticket for each pool, releases the
addresses in all pools, and gives the tickets back. An error of `AcquireTicket` is only
logged: the worker then goes on without its tickets, and the deferred `ReleaseTicket` gives
back what it never had.

Any number of workers run here on one limiter, with its conductors.
-/

import Spiderpool.Endpoint.Convert
import Spiderpool.GC.View
import Spiderpool.Limiter.Tickets

namespace Spiderpool

namespace Executor

open Limiter (Call Element Queue)

/-- What a worker has in hand: the addresses by pool, and the pools as it listed them once. -/
structure Job where
  podUsedIPs : PoolNameToIPAndUIDs
  tickets : List String
  listed : tickets.Perm podUsedIPs.keys

def job (e : SpiderEndpoint) (o : RangeOrder String (List IPAndUID)) : Result Err Job := do
  let pius ← groupIPAllocationDetails e.uid e.ips
  return ⟨pius, PoolNameToIPAndUIDs.pools pius o, (o.perm pius).map Sigma.fst⟩

/-- Where a worker stands: between two jobs, in `AcquireTicket` behind its `queueUp`, or
among its `ReleaseIP` calls; then `call` is what `AcquireTicket` served, and `none` if it
failed. -/
inductive Worker where
  | idle
  | waiting (j : Job) (call : Call)
  | releasing (j : Job) (call : Option Call)

structure State (ι : Type*) where
  limiter : Limiter.State
  workers : ι → Worker

def State.init (ι : Type*) (maxQueueSize : Option ℕ) : State ι :=
  ⟨.init maxQueueSize, fun _ => .idle⟩

/-- What can happen: a worker takes an endpoint, gets its tickets, or ends its job; the
limiter is started or shut down, or a conductor takes a step. -/
inductive Event (ι : Type*) where
  | take (i : ι) (e : SpiderEndpoint) (o : RangeOrder String (List IPAndUID))
  | served (i : ι)
  | finish (i : ι)
  | start
  | shutdown
  | checkin (k : ℕ)

variable {ι : Type*}

def Event.limiter? : Event ι → Option Limiter.Event
  | .start => some .start
  | .shutdown => some .shutdown
  | .checkin k => some (.checkin k)
  | _ => none

inductive Step [DecidableEq ι] : State ι → Event ι → State ι → Prop
  | queued {s : State ι} {i : ι} {e : SpiderEndpoint} {o : RangeOrder String (List IPAndUID)}
      {j : Job} {el : Element} {q : Queue} :
      s.workers i = .idle → job e o = .ok j →
      s.limiter.queue.queueUp s.limiter.queued.length j.tickets = .ok (el, q) →
        Step s (.take i e o)
          { limiter := { s.limiter with
              queue := q, queued := s.limiter.queued ++ [⟨j.tickets, el⟩] }
            workers := Function.update s.workers i (.waiting j ⟨j.tickets, el⟩) }
  | refused {s : State ι} {i : ι} {e : SpiderEndpoint} {o : RangeOrder String (List IPAndUID)}
      {j : Job} {f : Fault Err} :
      s.workers i = .idle → job e o = .ok j →
      s.limiter.queue.queueUp s.limiter.queued.length j.tickets = .error f →
        Step s (.take i e o)
          { s with workers := Function.update s.workers i (.releasing j none) }
  | served {s : State ι} {i : ι} {j : Job} {c : Call} :
      s.workers i = .waiting j c → c.element ∈ s.limiter.queue.closed →
        Step s (.served i)
          { s with workers := Function.update s.workers i (.releasing j (some c)) }
  | finish {s : State ι} {i : ι} {j : Job} {call : Option Call} :
      s.workers i = .releasing j call →
        Step s (.finish i)
          { limiter := { s.limiter with
              queue := s.limiter.queue.releaseTicket j.tickets
              released := s.limiter.released ++ (call.map Call.element).toList }
            workers := Function.update s.workers i .idle }
  | limiter {s : State ι} {ev : Event ι} {lev : Limiter.Event} {l : Limiter.State} :
      ev.limiter? = some lev → Limiter.Step s.limiter lev l →
        Step s ev { s with limiter := l }

/-- What a worker queued up, for the tickets it waits for or has. -/
def Worker.call : Worker → Option Call
  | .idle => none
  | .waiting _ c => some c
  | .releasing _ call => call

namespace State

/-- The worker is among its `ReleaseIP` calls, one of which is for the pool. -/
def Releases (s : State ι) (i : ι) (pool : String) : Prop :=
  ∃ j call, s.workers i = .releasing j call ∧ pool ∈ j.podUsedIPs

/-- The worker was granted the ticket and has not given it back. -/
def HasTicket (s : State ι) (i : ι) (t : String) : Prop :=
  ∃ c, (s.workers i).call = some c ∧ c.element ∈ s.limiter.queue.closed ∧ t ∈ c.element.wantedTickets

end State

theorem limiter_frame {ev : Event ι} {lev : Limiter.Event} {l l' : Limiter.State}
    (hev : ev.limiter? = some lev) (hst : Limiter.Step l lev l') :
    l'.queued = l.queued ∧ l'.released = l.released ∧ l.queue.closed ⊆ l'.queue.closed := by
  cases hst with
  | queued | refused | release => cases ev <;> cases hev
  | @checkin _ at' _ =>
    refine ⟨rfl, rfl, Queue.checkin_keeps (fun q => l.queue.closed ⊆ q.closed) ?_ ?_ at'⟩
    · intro q i e hq _ _
      exact List.Subset.trans hq (List.subset_append_left ..)
    · exact List.Subset.refl _
  | start hq =>
    obtain ⟨-, ⟨⟩⟩ := seq_eq_ok.1 hq
    exact ⟨rfl, rfl, List.Subset.refl _⟩
  | startedAlready | shutdown => exact ⟨rfl, rfl, List.Subset.refl _⟩

/-- What a worker that `AcquireTicket` never failed is in hand of: tickets of its job,
queued up and not given back, and granted if it works with them. -/
def Worker.Sound (l : Limiter.State) : Worker → Prop
  | .idle => True
  | .waiting j c => c.tickets = j.tickets ∧ c ∈ l.queued ∧ c.element ∉ l.released
  | .releasing j call => ∃ c, call = some c ∧
      (c.tickets = j.tickets ∧ c ∈ l.queued ∧ c.element ∉ l.released) ∧
        c.element ∈ l.queue.closed

theorem Worker.Sound.call {l : Limiter.State} {w : Worker} {c : Call} (h : w.Sound l)
    (hc : w.call = some c) : c ∈ l.queued ∧ c.element ∉ l.released := by
  cases w with
  | idle => cases hc
  | waiting j c' =>
    obtain rfl := Option.some.inj hc
    exact h.2
  | releasing j call =>
    obtain ⟨c', rfl, h, -⟩ := h
    obtain rfl := Option.some.inj hc
    exact h.2

theorem Worker.Sound.mono {l l' : Limiter.State} {w : Worker} (h : w.Sound l)
    (hqueued : l.queued ⊆ l'.queued) (hclosed : l.queue.closed ⊆ l'.queue.closed)
    (hreleased : ∀ c, w.call = some c → c.element ∉ l.released → c.element ∉ l'.released) :
    w.Sound l' := by
  cases w with
  | idle => trivial
  | waiting j c => exact ⟨h.1, hqueued h.2.1, hreleased c rfl h.2.2⟩
  | releasing j call =>
    obtain ⟨c, rfl, ⟨htickets, hc, hnew⟩, hgranted⟩ := h
    exact ⟨c, rfl, ⟨htickets, hqueued hc, hreleased c rfl hnew⟩, hclosed hgranted⟩

/-- What holds in every state, as long as `AcquireTicket` never fails. -/
structure Inv (s : State ι) : Prop where
  limiter : Limiter.Inv s.limiter
  sound : ∀ i, (s.workers i).Sound s.limiter
  /-- No two workers wait for, or work with, one element. -/
  distinct : ∀ i i' c c', i ≠ i' → (s.workers i).call = some c → (s.workers i').call = some c' →
    c.element ≠ c'.element

/-- `AcquireTicket` does not fail in this step. -/
def Admits (s : State ι) : Event ι → Prop
  | .take .. => s.limiter.queue.shuttingDown = false ∧
      s.limiter.queue.elements.length < s.limiter.queue.maxQueueSize
  | _ => True

namespace Inv

theorem init (maxQueueSize : Option ℕ) : Inv (State.init ι maxQueueSize) where
  limiter := .init maxQueueSize
  sound _ := trivial
  distinct := nofun

variable {s : State ι}

theorem update [DecidableEq ι] (h : Inv s) {l : Limiter.State} {i : ι} {w : Worker}
    (hl : Limiter.Inv l) (hw : w.Sound l) (hrest : ∀ i', i' ≠ i → (s.workers i').Sound l)
    (hnew : ∀ i' c c', i' ≠ i → w.call = some c → (s.workers i').call = some c' →
      c.element ≠ c'.element) :
    Inv (⟨l, Function.update s.workers i w⟩ : State ι) where
  limiter := hl
  sound i' := by
    show (Function.update s.workers i w i').Sound l
    rcases eq_or_ne i' i with rfl | hne
    · rwa [Function.update_self]
    · rw [Function.update_of_ne hne]
      exact hrest i' hne
  distinct i₁ i₂ c₁ c₂ hne h₁ h₂ := by
    dsimp only at h₁ h₂
    rcases eq_or_ne i₁ i with rfl | hne₁
    · rw [Function.update_self] at h₁
      rw [Function.update_of_ne hne.symm] at h₂
      exact hnew i₂ c₁ c₂ hne.symm h₁ h₂
    · rw [Function.update_of_ne hne₁] at h₁
      rcases eq_or_ne i₂ i with rfl | hne₂
      · rw [Function.update_self] at h₂
        exact (hnew i₁ c₂ c₁ hne₁ h₂ h₁).symm
      · rw [Function.update_of_ne hne₂] at h₂
        exact h.distinct i₁ i₂ c₁ c₂ hne h₁ h₂

theorem queued [DecidableEq ι] (h : Inv s) {i : ι} {j : Job} {el : Element} {q : Queue}
    (hq : s.limiter.queue.queueUp s.limiter.queued.length j.tickets = .ok (el, q)) :
    Inv ({ limiter := { s.limiter with
             queue := q, queued := s.limiter.queued ++ [⟨j.tickets, el⟩] }
           workers := Function.update s.workers i (.waiting j ⟨j.tickets, el⟩) } : State ι) := by
  have hel : el.id = s.limiter.queued.length := by
    rw [(Queue.queueUp_eq_ok.1 hq).2.1]
  have hfresh : ∀ c ∈ s.limiter.queued, c.element ≠ el := by
    rintro c hc rfl
    exact absurd (h.limiter.id_lt hc) hel.not_lt
  have hclosed : q.closed = s.limiter.queue.closed := by
    rw [(Queue.queueUp_eq_ok.1 hq).2.2]
  refine h.update (h.limiter.queueUp hq) ⟨rfl, by simp, ?_⟩ ?_ ?_
  · intro hreleased
    obtain ⟨c, hc, hcel⟩ := h.limiter.queued_of_closed (Multiset.mem_of_le h.limiter.released hreleased)
    exact hfresh c hc hcel
  · intro i' _
    refine (h.sound i').mono (List.subset_append_left ..) ?_ fun _ _ hnew => hnew
    exact hclosed ▸ List.Subset.refl _
  · rintro i' _ c' _ ⟨⟩ hc'
    exact (hfresh c' ((h.sound i').call hc').1).symm

theorem finish [DecidableEq ι] (h : Inv s) {i : ι} {j : Job} {call : Option Call}
    (hi : s.workers i = .releasing j call) :
    Inv ({ limiter := { s.limiter with
             queue := s.limiter.queue.releaseTicket j.tickets
             released := s.limiter.released ++ (call.map Call.element).toList }
           workers := Function.update s.workers i .idle } : State ι) := by
  have hsound := hi ▸ h.sound i
  obtain ⟨c, rfl, ⟨htickets, hc, hnew⟩, hgranted⟩ := hsound
  refine h.update ?_ trivial (fun i' hne => ?_) nofun
  · exact htickets ▸ h.limiter.release hc hgranted hnew
  · refine (h.sound i').mono (List.Subset.refl _) (List.Subset.refl _) fun c' hc' hnew' => ?_
    have hne' : c'.element ≠ c.element :=
      h.distinct i' i c' c hne hc' (hi ▸ rfl)
    rw [List.mem_append, not_or]
    exact ⟨hnew', by simpa using hne'⟩

theorem step [DecidableEq ι] {s' : State ι} {ev : Event ι} (h : Inv s) (hst : Step s ev s')
    (hadmits : Admits s ev) : Inv s' := by
  cases hst with
  | queued _ _ hq => exact h.queued hq
  | refused _ _ hq =>
    exact absurd (hq.symm.trans (Queue.queueUp_eq_ok.2 ⟨hadmits, rfl, rfl⟩)) nofun
  | @served i j c hi hgranted =>
    have hsound := hi ▸ h.sound i
    refine h.update h.limiter ⟨c, rfl, hsound, hgranted⟩ (fun i' _ => h.sound i') ?_
    rintro i' _ c' hne ⟨⟩ hc'
    exact h.distinct i i' c c' hne.symm (hi ▸ rfl) hc'
  | finish hi => exact h.finish hi
  | limiter hev hl =>
    obtain ⟨hqueued, hreleased, hclosed⟩ := limiter_frame hev hl
    refine ⟨h.limiter.step hl, fun i => ?_, h.distinct⟩
    exact (h.sound i).mono (hqueued ▸ List.Subset.refl _) hclosed fun _ _ hnew => hreleased ▸ hnew

theorem run [DecidableEq ι] {maxQueueSize : Option ℕ} {evs : List (Event ι)}
    (h : Run (fun s ev s' => Step s ev s' ∧ Admits s ev) (State.init ι maxQueueSize) evs s) :
    Inv s :=
  Run.inv Inv h (init maxQueueSize) fun _ _ _ hs hst => hs.step hst.1 hst.2

theorem hasTicket (h : Inv s) {i : ι} {pool : String} (hi : s.Releases i pool) :
    s.HasTicket i pool := by
  obtain ⟨j, call, hworker, hpool⟩ := hi
  have hsound := hworker ▸ h.sound i
  obtain ⟨c, rfl, ⟨htickets, hc, -⟩, hgranted⟩ := hsound
  have hticket : pool ∈ j.tickets := j.listed.mem_iff.2 hpool
  refine ⟨c, hworker ▸ rfl, hgranted, ?_⟩
  rw [h.limiter.wanted c hc, htickets]
  exact Limiter.mem_orDefault hticket

theorem hasTicket_unique (h : Inv s) {i i' : ι} {t : String} (hi : s.HasTicket i t)
    (hi' : s.HasTicket i' t) : i = i' := by
  obtain ⟨c, hc, hgranted, ht⟩ := hi
  obtain ⟨c', hc', hgranted', ht'⟩ := hi'
  by_contra hne
  have hout := h.limiter.mem_outstanding.2 ⟨hgranted, ((h.sound i).call hc).2⟩
  have hout' := h.limiter.mem_outstanding.2 ⟨hgranted', ((h.sound i').call hc').2⟩
  exact h.limiter.apart _ hout _ hout' (h.distinct i i' c c' hne hc hc') ht ht'

end Inv

/-- **Workers keep apart unless `AcquireTicket` fails.**  In every state that is reached
without such a failure no ticket is counted below zero, and while a worker is among its
`ReleaseIP` calls for a pool no other worker has that pool's ticket. -/
theorem executors_exclusive [DecidableEq ι] {maxQueueSize : Option ℕ} {evs : List (Event ι)}
    {s : State ι}
    (h : Run (fun s ev s' => Step s ev s' ∧ Admits s ev) (State.init ι maxQueueSize) evs s) :
    (∀ t n, s.limiter.queue.grantedTickets.lookup t = some n → 0 ≤ n) ∧
      ∀ i i' pool, i ≠ i' → s.Releases i pool → ¬s.HasTicket i' pool := by
  have hinv := Inv.run h
  refine ⟨fun t n hn => ?_, fun i i' pool hne hi hi' => ?_⟩
  · obtain ⟨e, -, -, rfl⟩ := hinv.limiter.lookup_iff.1 hn
    exact Int.natCast_nonneg _
  · exact hne (hinv.hasTicket_unique (hinv.hasTicket hi) hi')

namespace Sample

def endpoint : SpiderEndpoint where
  ns := "default"
  name := "pod"
  uid := "uid"
  ips := [{ ipv4 := some "10.0.0.1/24", ipv4Pool := some "pool" }]
  ownerControllerType := "Deployment"

def poolJob : Job where
  podUsedIPs := (∅ : PoolNameToIPAndUIDs).insert "pool" [⟨"10.0.0.1", "uid"⟩]
  tickets := ["pool"]
  listed := .refl _

theorem job_endpoint : job endpoint (.stored _ _) = .ok poolJob := rfl

def call : Call := ⟨["pool"], ⟨0, ["pool"]⟩⟩

def waiting : State ℕ where
  limiter := {
    queue := {
      shuttingDown := false
      maxQueueSize := 1000
      elements := [⟨0, ["pool"]⟩]
      grantedTickets := ∅
      closed := [] }
    conductors := [some .called]
    queued := [call]
    released := [] }
  workers := Function.update (fun _ => .idle) 0 (.waiting poolJob call)

def granted : State ℕ :=
  { waiting with
    limiter := { waiting.limiter with
      queue := (waiting.limiter.queue.checkin .called).2
      conductors := [some .rested] } }

def releasing : State ℕ :=
  { granted with workers := Function.update granted.workers 0 (.releasing poolJob (some call)) }

theorem run_releasing : Run (fun s ev s' => Step s ev s' ∧ Admits s ev) (State.init ℕ none)
    [.start, .take 0 endpoint (.stored _ _), .checkin 0, .served 0] releasing := by
  have hwaiting : Run (fun s ev s' => Step s ev s' ∧ Admits s ev) (State.init ℕ none)
      [.start, .take 0 endpoint (.stored _ _)] waiting :=
    .cons ⟨.limiter rfl (.start rfl), trivial⟩
      (.single ⟨.queued rfl job_endpoint rfl, rfl, by decide⟩)
  have hgranted : Step waiting (.checkin 0) granted := .limiter rfl (.checkin rfl)
  have hserved : Step granted (.served 0) releasing := .served rfl (by decide)
  exact (hwaiting.snoc ⟨hgranted, trivial⟩).snoc ⟨hserved, trivial⟩

theorem alone_on_pool : releasing.Releases 0 "pool" ∧ ¬releasing.HasTicket 1 "pool" := by
  have hreleases : releasing.Releases 0 "pool" := ⟨poolJob, some call, rfl, by decide⟩
  exact ⟨hreleases, (executors_exclusive run_releasing).2 0 1 "pool" (by decide) hreleases⟩

/-- A worker that comes before the limiter is started gives back a ticket it never had, and
the ticket's counter falls below zero. One that comes after it is shut down releases
addresses of a pool whose ticket another worker has. -/
theorem acquire_failed :
    (∃ s, Run Step (State.init ℕ none) [.take 0 endpoint (.stored _ _), .finish 0] s ∧
      s.limiter.queue.grantedTickets.lookup "pool" = some (-1)) ∧
    ∃ s, Run Step (State.init ℕ none)
        [.start, .take 0 endpoint (.stored _ _), .checkin 0, .served 0, .shutdown,
          .take 1 endpoint (.stored _ _)] s ∧
      s.Releases 1 "pool" ∧ s.HasTicket 0 "pool" := by
  constructor
  · refine ⟨_, .cons (.refused rfl job_endpoint rfl) (.single (.finish rfl)), ?_⟩
    decide
  · have hreleasing := run_releasing.mono fun _ _ _ hst => hst.1
    have hshutdown : Step releasing .shutdown _ := .limiter rfl .shutdown
    refine ⟨_, (hreleasing.snoc hshutdown).snoc (.refused rfl job_endpoint rfl), ?_, ?_⟩
    · exact ⟨poolJob, none, rfl, by decide⟩
    · exact ⟨call, rfl, by decide, by decide⟩

end Sample

end Executor

end Spiderpool
